import Mathlib.Algebra.Order.Floor.Semiring
import Mathlib.Data.Rat.Floor
import Mathlib.Tactic.Linarith
import WizPay.SwapExecutor.Settlement
import WizPay.UserSwap.Protocol

/-!
# Prepared swaps at the executor

The plan takes its floor for the output from a quote of the whole input, while
the executor swaps the input net of its fee. The slippage allowance has to make
up for the output that the fee costs.
-/

namespace WizPay.UserSwap

open Backend SwapExecutor

/-- What an unchanged pool pays for an input, at a price. -/
def poolOutput (price : ℚ) (amountIn : ℕ) : ℕ := ⌊price * amountIn⌋₊

/-- The input that `executeSwap` hands to the router. -/
def netAmountIn (c : Immutables) (amountIn : ℕ) : ℕ := amountIn - amountIn * c.feeBps / 10000

/-- The executor model charges the caller this fee and forwards the rest. -/
theorem netAmountIn_eq (c : Executor Evm.Ledgers) (amountIn : ℕ) :
    netAmountIn c.toImmutables amountIn = amountIn - feeOf c amountIn := rfl

/-- A plan built from a quote of the whole input at the pool's price. -/
structure PreparedSwap (runtime : Runtime) (price : ℚ) where
  request : NormalizedBoundaryRequest
  observation : QuoteObservation
  plan : SwapPlan
  built : buildUserControlledSwapPlan runtime request observation = .ok plan
  quoted : bigInt observation.amountOut = poolOutput price request.amountIn

namespace PreparedSwap

variable {runtime : Runtime} {price : ℚ} (swap : PreparedSwap runtime price)

/-- The pool pays at least the minimum of the plan for what the executor hands in. -/
def Executable (c : Immutables) : Prop :=
  swap.plan.swap.minAmountOut ≤ poolOutput price (netAmountIn c swap.plan.swap.amountIn)

/-- The amounts are positive and fit the router's 128 bits. -/
def InRange (c : Immutables) : Prop :=
  swap.request.amountIn < 2 ^ 128 ∧ poolOutput price swap.request.amountIn < 2 ^ 128 ∧
    0 < poolOutput price (netAmountIn c swap.request.amountIn)

/-- The output the fee costs is at most the slippage allowance, rounded up. -/
def FeeAbsorbed (c : Immutables) : Prop :=
  (poolOutput price swap.request.amountIn -
      poolOutput price (netAmountIn c swap.request.amountIn)) * 10000 <
    poolOutput price swap.request.amountIn * swap.request.slippageBps + 10000

end PreparedSwap

/-! ## Arithmetic of the floors -/

theorem poolOutput_mono {price : ℚ} (hprice : 0 < price) {first second : ℕ}
    (hle : first ≤ second) : poolOutput price first ≤ poolOutput price second := by
  apply Nat.floor_le_floor
  exact mul_le_mul_of_nonneg_left (Nat.cast_le.mpr hle) hprice.le

theorem netAmountIn_le (c : Immutables) (amountIn : ℕ) : netAmountIn c amountIn ≤ amountIn :=
  Nat.sub_le _ _

/-- The fee takes no more than its share of the input. -/
theorem le_netAmountIn (c : Immutables) (amountIn : ℕ) :
    amountIn * (10000 - c.feeBps) ≤ netAmountIn c amountIn * 10000 := by
  have hfee : amountIn * c.feeBps / 10000 * 10000 ≤ amountIn * c.feeBps := Nat.div_mul_le_self _ _
  rw [netAmountIn, Nat.mul_sub, Nat.sub_mul]
  omega

/-- A slippage of at least the fee covers it, at every price and amount. -/
theorem floor_le_of_feeBps_le {c : Immutables} {price : ℚ} (hprice : 0 < price)
    {amountIn slippageBps : ℕ} (hslippage : slippageBps ≤ 10000) (hfee : c.feeBps ≤ slippageBps) :
    poolOutput price amountIn * (10000 - slippageBps) / 10000 ≤
      poolOutput price (netAmountIn c amountIn) := by
  set quote := poolOutput price amountIn with hquote
  have hquote_le : (quote : ℚ) ≤ price * amountIn :=
    Nat.floor_le (mul_nonneg hprice.le (Nat.cast_nonneg _))
  have hshare : amountIn * (10000 - slippageBps) ≤ netAmountIn c amountIn * 10000 :=
    (Nat.mul_le_mul_left _ (by omega)).trans (le_netAmountIn c amountIn)
  have hminimum : quote * (10000 - slippageBps) / 10000 * 10000 ≤ quote * (10000 - slippageBps) :=
    Nat.div_mul_le_self _ _
  generalize quote * (10000 - slippageBps) / 10000 = minimum at hminimum ⊢
  apply Nat.le_floor
  have hrate : (0 : ℚ) ≤ ((10000 - slippageBps : ℕ) : ℚ) := Nat.cast_nonneg _
  have hscaled : (minimum : ℚ) * 10000 ≤ price * netAmountIn c amountIn * 10000 :=
    calc (minimum : ℚ) * 10000
        ≤ quote * (10000 - slippageBps : ℕ) := by exact_mod_cast hminimum
      _ ≤ price * amountIn * (10000 - slippageBps : ℕ) := mul_le_mul_of_nonneg_right hquote_le hrate
      _ = price * (amountIn * (10000 - slippageBps : ℕ)) := mul_assoc _ _ _
      _ ≤ price * (netAmountIn c amountIn * 10000) := by
          apply mul_le_mul_of_nonneg_left _ hprice.le
          exact_mod_cast hshare
      _ = price * netAmountIn c amountIn * 10000 := (mul_assoc _ _ _).symm
  linarith

/-- The floor is reached exactly when the loss stays within the rounded allowance. -/
theorem floor_le_iff {quote output slippageBps : ℕ} (hslippage : slippageBps ≤ 10000)
    (hle : output ≤ quote) :
    quote * (10000 - slippageBps) / 10000 ≤ output ↔
      (quote - output) * 10000 < quote * slippageBps + 10000 := by
  have hallowance : quote * slippageBps ≤ quote * 10000 := Nat.mul_le_mul_left _ hslippage
  rw [Nat.mul_sub, Nat.sub_mul]
  omega

/-! ## A quote at par -/

/-- A swap of 100 USDC. -/
def parRequest (slippageBps : ℕ) : NormalizedBoundaryRequest where
  tokenInAddress := ARC_MAINNET_UNISWAP_V4_USDC
  tokenOutAddress := ARC_MAINNET_UNISWAP_V4_EURC
  amountIn := 100000000
  recipient := "0x1111111111111111111111111111111111111111"
  slippageBps := slippageBps
  deadline := 60

def parObservation : QuoteObservation where
  chainId := 5042
  quoterAddress := ARC_MAINNET_UNISWAP_V4_QUOTER
  poolId := ARC_MAINNET_UNISWAP_V4_POOL_ID
  tokenInAddress := ARC_MAINNET_UNISWAP_V4_USDC
  tokenOutAddress := "0xbef5f6d51cb62b58e6a8f77868681825c6fe21c1"
  amountIn := "100000000"
  blockNumber := 1
  amountOut := "100000000"
  gasEstimate := "150000"

variable (runtime : Runtime)

theorem isAddress_of_lower {address : String} (htext : isHexText 40 address = true)
    (hlower : asciiLower address = address) : isAddress runtime address = true := by
  simp [isAddress, htext, hlower]

theorem parObservation_matches (slippageBps : ℕ) :
    observationMatches runtime (parRequest slippageBps) parObservation = .ok true := by
  have hquoter : observes runtime parObservation.quoterAddress ARC_MAINNET_UNISWAP_V4_QUOTER =
      .ok true := by
    unfold observes
    rw [if_pos (isAddress_of_lower runtime (by decide +kernel) (by decide +kernel))]
    decide +kernel
  have htokenIn : isAddress runtime parObservation.tokenInAddress = true :=
    isAddress_of_lower runtime (by decide +kernel) (by decide +kernel)
  have htokenOut : isAddress runtime parObservation.tokenOutAddress = true :=
    isAddress_of_lower runtime (by decide +kernel) (by decide +kernel)
  have hsameIn : sameAddress parObservation.tokenInAddress (parRequest slippageBps).tokenInAddress =
      .ok true := by
    show sameAddress parObservation.tokenInAddress ARC_MAINNET_UNISWAP_V4_USDC = .ok true
    decide +kernel
  have hsameOut : sameAddress parObservation.tokenOutAddress
      (parRequest slippageBps).tokenOutAddress = .ok true := by
    show sameAddress parObservation.tokenOutAddress ARC_MAINNET_UNISWAP_V4_EURC = .ok true
    decide +kernel
  have hpool : ¬ (isHexText 64 parObservation.poolId = false ∨
      asciiLower parObservation.poolId ≠ ARC_MAINNET_UNISWAP_V4_POOL_ID) := by
    decide +kernel
  have hamount : parObservation.amountIn = toString (parRequest slippageBps).amountIn := by
    show "100000000" = toString 100000000
    decide +kernel
  unfold observationMatches
  rw [if_neg (by decide), hquoter, if_neg hpool, htokenIn, htokenOut, hsameIn, hsameOut, hamount]
  simp [bind, Except.bind, pure, Except.pure, parObservation]

theorem parQuote_validated {slippageBps : ℕ} (hlow : 1 ≤ slippageBps) (hhigh : slippageBps ≤ 500) :
    ∃ quote, validateQuoteObservation runtime (parRequest slippageBps) parObservation = .ok quote ∧
      quote.tokenIn = ARC_MAINNET_UNISWAP_V4_USDC ∧
      quote.tokenOut = ARC_MAINNET_UNISWAP_V4_EURC := by
  have hamountOut : requireCanonicalUint parObservation.amountOut "amountOut" = .ok 100000000 := by
    decide +kernel
  have hgas : requireCanonicalUint parObservation.gasEstimate "gasEstimate" = .ok 150000 := by
    decide +kernel
  have hpositive : 100000000 * (10000 - slippageBps) / 10000 ≠ 0 := by omega
  have hprice : 100000000 * (10000 - slippageBps) * 10 ^ 36 / (100000000 * 10000) ≠ 0 := by omega
  have htokens : zeroForOneFromTokens ARC_MAINNET_UNISWAP_V4_USDC ARC_MAINNET_UNISWAP_V4_EURC =
      .ok true := by
    decide +kernel
  unfold validateQuoteObservation
  rw [parObservation_matches, hamountOut, hgas]
  dsimp only [parRequest, bind, Except.bind]
  rw [if_neg (by decide), applySlippage_eq hlow hhigh hpositive]
  dsimp only
  rw [calculateMinHopPriceX36_eq (by decide) hlow hhigh hpositive hprice, htokens]
  exact ⟨_, rfl, rfl, rfl⟩

theorem parSwap_built {slippageBps : ℕ} (hlow : 1 ≤ slippageBps) (hhigh : slippageBps ≤ 500) :
    ∃ plan, buildUserControlledSwapPlan runtime (parRequest slippageBps) parObservation =
      .ok plan := by
  obtain ⟨quote, hquote, htokenIn, htokenOut⟩ := parQuote_validated runtime hlow hhigh
  have hnative : sameAddress ARC_MAINNET_UNISWAP_V4_USDC ARC_MAINNET_UNISWAP_V4_USDC = .ok true := by
    decide +kernel
  have htokens : zeroForOneFromTokens ARC_MAINNET_UNISWAP_V4_USDC ARC_MAINNET_UNISWAP_V4_EURC =
      .ok true := by
    decide +kernel
  unfold buildUserControlledSwapPlan encodeExecuteSwap
  rw [hquote]
  dsimp only [bind, Except.bind]
  rw [htokenIn, htokenOut, hnative]
  dsimp only
  rw [htokens]
  exact ⟨_, rfl⟩

theorem poolOutput_par (amountIn : ℕ) : poolOutput 1 amountIn = amountIn := by
  rw [poolOutput, one_mul, Nat.floor_natCast]

/-- At par the quote is the input. -/
theorem parSwap_exists {slippageBps : ℕ} (hlow : 1 ≤ slippageBps) (hhigh : slippageBps ≤ 500) :
    ∃ swap : PreparedSwap runtime 1, swap.request = parRequest slippageBps := by
  obtain ⟨plan, hplan⟩ := parSwap_built runtime hlow hhigh
  have hamount : bigInt parObservation.amountOut = 100000000 := by decide +kernel
  refine ⟨⟨parRequest slippageBps, parObservation, plan, hplan, ?_⟩, rfl⟩
  rw [hamount, poolOutput_par, parRequest]

theorem parSwap_inRange (c : Immutables) {swap : PreparedSwap runtime 1} {slippageBps : ℕ}
    (hrequest : swap.request = parRequest slippageBps) : swap.InRange c := by
  have hfee := c.feeBps_le
  unfold PreparedSwap.InRange
  rw [hrequest, poolOutput_par, poolOutput_par, parRequest, netAmountIn]
  simp only [MAX_FEE_BPS] at hfee
  dsimp only
  omega

/-! ## When the plan is executable -/

variable {runtime}

theorem PreparedSwap.executable_iff {price : ℚ} (hprice : 0 < price)
    (swap : PreparedSwap runtime price) (c : Immutables) :
    swap.Executable c ↔ swap.FeeAbsorbed c := by
  obtain ⟨⟨_, hhigh⟩, hamountIn, hminimum⟩ := buildUserControlledSwapPlan_ok swap.built
  unfold Executable FeeAbsorbed
  rw [hminimum, hamountIn, swap.quoted]
  apply floor_le_iff (by omega)
  exact poolOutput_mono hprice (netAmountIn_le c _)

theorem PreparedSwap.executable_of_feeBps_le {price : ℚ} (hprice : 0 < price)
    (swap : PreparedSwap runtime price) {c : Immutables}
    (hfee : c.feeBps ≤ swap.request.slippageBps) : swap.Executable c := by
  obtain ⟨⟨_, hhigh⟩, hamountIn, hminimum⟩ := buildUserControlledSwapPlan_ok swap.built
  unfold Executable
  rw [hminimum, hamountIn, swap.quoted]
  exact floor_le_of_feeBps_le hprice (by omega) hfee

/-- At par the floor of the plan is above what the executor can get, whenever
the fee is above the slippage. -/
theorem parSwap_executable {c : Immutables} {swap : PreparedSwap runtime 1} {slippageBps : ℕ}
    (hrequest : swap.request = parRequest slippageBps) (hexecutable : swap.Executable c) :
    c.feeBps ≤ slippageBps := by
  have habsorbed := (swap.executable_iff one_pos c).mp hexecutable
  have hfee := c.feeBps_le
  unfold PreparedSwap.FeeAbsorbed at habsorbed
  rw [hrequest, poolOutput_par, poolOutput_par, parRequest, netAmountIn] at habsorbed
  simp only [MAX_FEE_BPS] at hfee
  dsimp only at habsorbed
  omega

/-- A prepared swap is executable exactly when its slippage is at least the fee,
or the output the fee costs stays within the allowance rounded up. A slippage
makes every swap executable, whatever its amount and price, exactly when it is
at least the fee. -/
theorem prepared_swap_executable_iff (runtime : Runtime) (c : Immutables) :
    (∀ price, 0 < price → ∀ swap : PreparedSwap runtime price,
      swap.Executable c ↔ c.feeBps ≤ swap.request.slippageBps ∨ swap.FeeAbsorbed c) ∧
    ∀ slippageBps, 1 ≤ slippageBps → slippageBps ≤ 500 →
      ((∀ price, 0 < price → ∀ swap : PreparedSwap runtime price,
          swap.request.slippageBps = slippageBps → swap.InRange c → swap.Executable c) ↔
        c.feeBps ≤ slippageBps) := by
  constructor
  · intro price hprice swap
    constructor
    · intro hexecutable
      exact .inr ((swap.executable_iff hprice c).mp hexecutable)
    · rintro (hfee | habsorbed)
      · exact swap.executable_of_feeBps_le hprice hfee
      · exact (swap.executable_iff hprice c).mpr habsorbed
  · intro slippageBps hlow hhigh
    constructor
    · intro hall
      obtain ⟨swap, hrequest⟩ := parSwap_exists runtime hlow hhigh
      apply parSwap_executable hrequest
      exact hall 1 one_pos swap (by rw [hrequest]; rfl) (parSwap_inRange runtime c hrequest)
    · intro hfee price hprice swap hslippage _
      apply swap.executable_of_feeBps_le hprice
      rwa [hslippage]

/-- At a fee of 100 basis points a slippage of 200 makes the swap at par executable. -/
theorem prepared_swap_executable_iff_par :
    ∃ swap : PreparedSwap (.ofTable [] []) 1, swap.request = parRequest 200 ∧
      swap.Executable exampleImmutables := by
  obtain ⟨hswaps, -⟩ := prepared_swap_executable_iff (.ofTable [] []) exampleImmutables
  obtain ⟨swap, hrequest⟩ := parSwap_exists (.ofTable [] []) (by decide : 1 ≤ 200) (by decide)
  have hfee : exampleImmutables.feeBps ≤ swap.request.slippageBps := by
    rw [hrequest]
    decide
  exact ⟨swap, hrequest, (hswaps 1 one_pos swap).mpr (.inl hfee)⟩

/-- A router that sells EURC at par to account 9. -/
def parRouter : Evm.Router Unit SwapExecutor.Event := fun request =>
  Evm.onChain (Evm.Ledgers.moveToken 2 3 9 (request.value / ARC_NATIVE_USDC_SCALE))

def parState : SwapExecutor.State Evm.Ledgers := { exampleState with
  chain := { exampleState.chain with
    native := Pi.single 9 (100000000 * ARC_NATIVE_USDC_SCALE)
    balance := fun _ => Pi.single 3 100000000 } }

/-- At a fee of 100 basis points and a slippage of 50 the executor reverts: it
hands in 99 USDC, and the plan asks for 99.5 EURC. -/
theorem par_swap_below_minimum :
    (∃ swap : PreparedSwap (.ofTable [] []) 1, swap.request = parRequest 50 ∧
      swap.InRange exampleImmutables ∧ ¬ swap.Executable exampleImmutables ∧
      swap.plan.swap.minAmountOut = 99500000) ∧
    (executeSwap (exampleExecutor parRouter) ⟨9, 100000000 * ARC_NATIVE_USDC_SCALE, 0⟩ 1 2
        100000000 99500000 1 60).succeeds parState = false ∧
    (executeSwap (exampleExecutor parRouter) ⟨9, 100000000 * ARC_NATIVE_USDC_SCALE, 0⟩ 1 2
        100000000 99000000 1 60).succeeds parState = true := by
  obtain ⟨swap, hrequest⟩ := parSwap_exists (.ofTable [] []) (by decide : 1 ≤ 50) (by decide)
  have hrange := parSwap_inRange _ exampleImmutables hrequest
  obtain ⟨-, -, hminimum⟩ := buildUserControlledSwapPlan_ok swap.built
  rw [swap.quoted, hrequest, poolOutput_par] at hminimum
  refine ⟨⟨swap, hrequest, hrange, ?_, hminimum⟩, ?_, ?_⟩
  · intro hexecutable
    exact absurd (parSwap_executable hrequest hexecutable) (by decide)
  · decide +kernel
  · decide +kernel

end WizPay.UserSwap
