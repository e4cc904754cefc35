import Mathlib.Tactic.FieldSimp
import Mathlib.Tactic.Linarith
import Mathlib.Tactic.Positivity
import WizPay.UserSwap.Funding
import WizPay.UserSwap.Prepared

/-!
# Convergence of the payroll quote

In an unchanged pool every rounding on the way from an input to its output floor
costs at most about one unit. The first correction undoes the relative error of the
guess, up to those units, and every correction adds two units more than it must, so
the third probe covers the obligations.
-/

namespace WizPay.UserSwap

open Backend

/-! ## Arithmetic of the probes -/

/-- The input net of the payroll fee. -/
def netGross (feeBps gross : ℕ) : ℕ := gross - gross * feeBps / 10000

/-- The floor of a probe in a pool of one price. -/
def minimumOut (price : ℚ) (feeBps slippageBps gross : ℕ) : ℕ :=
  poolOutput price (netGross feeBps gross) * (10000 - slippageBps) / 10000

/-- The inputs of the loop: the next one while the floor falls short. -/
def grossAt (price : ℚ) (funding : PayrollFunding) : ℕ → ℕ
  | 0 => funding.obligations
  | k + 1 =>
      let gross := grossAt price funding k
      let minTotalOut := minimumOut price funding.feeBps funding.slippageBps gross
      if funding.obligations ≤ minTotalOut then gross
      else nextGross gross funding.obligations minTotalOut

section Arithmetic

variable {price : ℚ} {feeBps slippageBps gross : ℕ}

/-- The share of an input that the fee leaves. -/
def feeShare (feeBps : ℕ) : ℚ := (10000 - feeBps) / 10000

/-- The share of an output that the slippage leaves. -/
def slippageShare (slippageBps : ℕ) : ℚ := (10000 - slippageBps) / 10000

theorem netGross_bounds (hfee : feeBps ≤ 10000) :
    feeShare feeBps * gross ≤ netGross feeBps gross ∧
      (netGross feeBps gross : ℚ) ≤ feeShare feeBps * gross + 1 := by
  have hdivision := Nat.div_add_mod (gross * feeBps) 10000
  have hrest := Nat.mod_lt (gross * feeBps) (by decide : 0 < 10000)
  have hle : gross * feeBps / 10000 ≤ gross :=
    Nat.div_le_of_le_mul (by rw [Nat.mul_comm 10000]; exact Nat.mul_le_mul_left _ hfee)
  rw [netGross, Nat.cast_sub hle, feeShare]
  generalize gross * feeBps / 10000 = fee at *
  generalize gross * feeBps % 10000 = rest at *
  have hdivision' : (10000 : ℚ) * fee + rest = gross * feeBps := by exact_mod_cast hdivision
  have hrest' : (rest : ℚ) < 10000 := by exact_mod_cast hrest
  have hpositive : (0 : ℚ) ≤ rest := Nat.cast_nonneg _
  constructor <;> linarith

theorem slippageShare_cast (hslippage : slippageBps ≤ 10000) :
    ((10000 - slippageBps : ℕ) : ℚ) = slippageShare slippageBps * 10000 := by
  rw [slippageShare, Nat.cast_sub hslippage]
  push_cast
  ring

theorem slippageShare_nonneg (hslippage : slippageBps ≤ 10000) : 0 ≤ slippageShare slippageBps := by
  have hcast := slippageShare_cast hslippage
  have hpositive : (0 : ℚ) ≤ ((10000 - slippageBps : ℕ) : ℚ) := Nat.cast_nonneg _
  linarith

/-- A floor is at most what its input is worth, and what one unit more of it is. -/
theorem minimumOut_le (hprice : 0 ≤ price) (hfee : feeBps ≤ 10000)
    (hslippage : slippageBps ≤ 10000) :
    (minimumOut price feeBps slippageBps gross : ℚ) ≤
      slippageShare slippageBps * (price * (feeShare feeBps * gross + 1)) := by
  have hshare := slippageShare_nonneg hslippage
  have hfloor : (poolOutput price (netGross feeBps gross) : ℚ) ≤ price * netGross feeBps gross :=
    Nat.floor_le (mul_nonneg hprice (Nat.cast_nonneg _))
  have hnet := mul_le_mul_of_nonneg_left (@netGross_bounds feeBps gross hfee).2 hprice
  have hdivision : (minimumOut price feeBps slippageBps gross : ℚ) * 10000 ≤
      poolOutput price (netGross feeBps gross) * ((10000 - slippageBps : ℕ) : ℚ) := by
    exact_mod_cast Nat.div_mul_le_self _ _
  rw [slippageShare_cast hslippage] at hdivision
  have hscaled := mul_le_mul_of_nonneg_left (hfloor.trans hnet) hshare
  linarith

/-- An input worth the target and one unit before slippage has a floor of the target. -/
theorem le_minimumOut {target : ℕ} (hprice : 0 ≤ price) (hfee : feeBps ≤ 10000)
    (hslippage : slippageBps ≤ 10000)
    (henough : (target : ℚ) ≤
      slippageShare slippageBps * (price * (feeShare feeBps * gross) - 1)) :
    target ≤ minimumOut price feeBps slippageBps gross := by
  have hshare := slippageShare_nonneg hslippage
  have hfloor : price * netGross feeBps gross - 1 ≤
      (poolOutput price (netGross feeBps gross) : ℚ) :=
    (Nat.sub_one_lt_floor _).le
  have hnet := mul_le_mul_of_nonneg_left (@netGross_bounds feeBps gross hfee).1 hprice
  have hscaled : slippageShare slippageBps * (price * (feeShare feeBps * gross) - 1) ≤
      slippageShare slippageBps * poolOutput price (netGross feeBps gross) :=
    mul_le_mul_of_nonneg_left (by linarith) hshare
  rw [minimumOut, Nat.le_div_iff_mul_le (by decide)]
  have hcast : (target : ℚ) * 10000 ≤
      poolOutput price (netGross feeBps gross) * ((10000 - slippageBps : ℕ) : ℚ) := by
    rw [slippageShare_cast hslippage]
    linarith
  exact_mod_cast hcast

/-- A correction covers the relative shortfall and one unit more. -/
theorem le_nextGross {obligations minTotalOut : ℕ} (hminimum : 0 < minTotalOut) :
    (gross : ℚ) * obligations ≤ minTotalOut * ((nextGross gross obligations minTotalOut : ℚ) - 1) := by
  have hdivision := Nat.div_add_mod (gross * obligations + minTotalOut - 1) minTotalOut
  have hrest := Nat.mod_lt (gross * obligations + minTotalOut - 1) hminimum
  have hceiling : gross * obligations ≤
      minTotalOut * ((gross * obligations + minTotalOut - 1) / minTotalOut) := by omega
  rw [nextGross]
  push_cast
  rw [add_sub_cancel_right]
  exact_mod_cast hceiling

/-- While the floor falls short, the next input is at least two units larger. -/
theorem add_two_le_nextGross {obligations minTotalOut : ℕ} (hgross : 0 < gross)
    (hminimum : 0 < minTotalOut) (hshort : minTotalOut < obligations) :
    gross + 2 ≤ nextGross gross obligations minTotalOut := by
  have hmore : gross * minTotalOut < gross * obligations := Nat.mul_lt_mul_of_pos_left hshort hgross
  have hceiling : gross + 1 ≤ (gross * obligations + minTotalOut - 1) / minTotalOut := by
    rw [Nat.le_div_iff_mul_le hminimum, Nat.add_mul, Nat.one_mul]
    omega
  rw [nextGross]
  omega

theorem feeShare_bounds (hfee : feeBps ≤ 100) : 99 / 100 ≤ feeShare feeBps ∧ feeShare feeBps ≤ 1 := by
  have hfee' : (feeBps : ℚ) ≤ 100 := by exact_mod_cast hfee
  have hpositive : (0 : ℚ) ≤ feeBps := Nat.cast_nonneg _
  rw [feeShare]
  constructor <;> linarith

theorem slippageShare_bounds (hslippage : slippageBps ≤ 500) :
    19 / 20 ≤ slippageShare slippageBps ∧ slippageShare slippageBps ≤ 1 := by
  have hslippage' : (slippageBps : ℚ) ≤ 500 := by exact_mod_cast hslippage
  have hpositive : (0 : ℚ) ≤ slippageBps := Nat.cast_nonneg _
  rw [slippageShare]
  constructor <;> linarith

/-- The worth of an input at the least price, fee and slippage shares. -/
theorem worth_ge (hlow : 4 / 5 ≤ price) (hfee : feeBps ≤ 100) (hslippage : slippageBps ≤ 500) :
    1881 / 2500 * (gross : ℚ) - 1 ≤
      slippageShare slippageBps * (price * (feeShare feeBps * gross) - 1) := by
  obtain ⟨hfeeLow, -⟩ := feeShare_bounds hfee
  obtain ⟨hslippageLow, hslippageHigh⟩ := slippageShare_bounds hslippage
  have hgross : (0 : ℚ) ≤ gross := Nat.cast_nonneg _
  have hrate : (1881 / 2500 : ℚ) ≤ slippageShare slippageBps * (price * feeShare feeBps) :=
    calc (1881 / 2500 : ℚ) = 19 / 20 * (4 / 5 * (99 / 100)) := by norm_num
      _ ≤ slippageShare slippageBps * (price * feeShare feeBps) := by gcongr
  have hworth := mul_le_mul_of_nonneg_right hrate hgross
  calc 1881 / 2500 * (gross : ℚ) - 1
      ≤ slippageShare slippageBps * (price * feeShare feeBps) * gross -
          slippageShare slippageBps := by linarith
    _ = slippageShare slippageBps * (price * (feeShare feeBps * gross) - 1) := by ring

/-- A floor is at least five sevenths of its input. -/
theorem minimumOut_ge (hlow : 4 / 5 ≤ price) (hfee : feeBps ≤ 100) (hslippage : slippageBps ≤ 500)
    (hgross : 100 ≤ gross) : 5 * gross ≤ 7 * minimumOut price feeBps slippageBps gross := by
  have hworth := @worth_ge price feeBps slippageBps gross hlow hfee hslippage
  have hgross' : (100 : ℚ) ≤ gross := by exact_mod_cast hgross
  have htarget : (((5 * gross + 6) / 7 : ℕ) : ℚ) ≤ (5 * gross + 6) / 7 := by
    have hdivision := Nat.div_mul_le_self (5 * gross + 6) 7
    have hcast : (((5 * gross + 6) / 7 : ℕ) : ℚ) * 7 ≤ 5 * gross + 6 := by
      exact_mod_cast hdivision
    linarith
  have hminimum : (5 * gross + 6) / 7 ≤ minimumOut price feeBps slippageBps gross :=
    le_minimumOut (by linarith) (hfee.trans (by decide)) (hslippage.trans (by decide))
      (by linarith)
  omega

/-- Two corrections are enough: what the first leaves out is made up by their extra units. -/
theorem third_probe_covers {obligations second third : ℕ} (hlow : 4 / 5 ≤ price)
    (hfee : feeBps ≤ 100) (hslippage : slippageBps ≤ 500) (hobligations : 100 ≤ obligations)
    (hsecond : second = nextGross obligations obligations
      (minimumOut price feeBps slippageBps obligations))
    (hthird : second + 2 ≤ third) :
    obligations ≤ minimumOut price feeBps slippageBps third := by
  have hfirst := minimumOut_ge hlow hfee hslippage hobligations
  have hupper : (minimumOut price feeBps slippageBps obligations : ℚ) ≤ _ :=
    minimumOut_le (by linarith) (hfee.trans (by decide)) (hslippage.trans (by decide))
  have hscale := @le_nextGross obligations obligations
    (minimumOut price feeBps slippageBps obligations) (by omega)
  rw [← hsecond] at hscale
  generalize minimumOut price feeBps slippageBps obligations = minimum at hfirst hupper hscale
  obtain ⟨hfeeLow, hfeeHigh⟩ := feeShare_bounds hfee
  obtain ⟨hslippageLow, hslippageHigh⟩ := slippageShare_bounds hslippage
  apply le_minimumOut (by linarith) (hfee.trans (by decide)) (hslippage.trans (by decide))
  generalize feeShare feeBps = g at *
  generalize slippageShare slippageBps = s at *
  have hminimum : (0 : ℚ) < minimum := by exact_mod_cast (by omega : 0 < minimum)
  have hfirst' : 5 * (obligations : ℚ) ≤ 7 * minimum := by exact_mod_cast hfirst
  have hthird' : (second : ℚ) + 2 ≤ third := by exact_mod_cast hthird
  have hworth : 0 ≤ s * price := mul_nonneg (by linarith) (by linarith)
  -- what the second input is worth, short of the obligations by the relative error of one unit
  have hreached : (obligations : ℚ) - 7 / 5 * (s * price) ≤ s * price * g * (second - 1) := by
    apply le_of_mul_le_mul_right _ hminimum
    calc ((obligations : ℚ) - 7 / 5 * (s * price)) * minimum
        = obligations * minimum - s * price * (7 / 5 * minimum) := by ring
      _ ≤ obligations * minimum - s * price * obligations := by
          have := mul_le_mul_of_nonneg_left
            (by linarith : (obligations : ℚ) ≤ 7 / 5 * minimum) hworth
          linarith
      _ = (minimum - s * price) * obligations := by ring
      _ ≤ s * price * g * obligations * obligations := by
          apply mul_le_mul_of_nonneg_right _ (Nat.cast_nonneg _)
          linarith
      _ = s * price * g * (obligations * obligations) := by ring
      _ ≤ s * price * g * (minimum * (second - 1)) :=
          mul_le_mul_of_nonneg_left hscale (mul_nonneg hworth (by linarith))
      _ = s * price * g * (second - 1) * minimum := by ring
  -- the extra units of the two corrections are worth more than that and the last rounding
  have hextra : s ≤ s * (price * (3 * g - 7 / 5)) := by
    have hrate : (1 : ℚ) ≤ price * (3 * g - 7 / 5) :=
      calc (1 : ℚ) ≤ 4 / 5 * (157 / 100) := by norm_num
        _ ≤ price * (3 * g - 7 / 5) := by
            gcongr
            linarith
    have hscaled := mul_le_mul_of_nonneg_left hrate (by linarith : 0 ≤ s)
    linarith
  have hmore : s * price * g * (second + 2) ≤ s * price * g * third :=
    mul_le_mul_of_nonneg_left hthird' (mul_nonneg hworth (by linarith))
  linarith

end Arithmetic

/-- The inputs never go below the obligations. -/
theorem obligations_le_grossAt {price : ℚ} {funding : PayrollFunding} (hlow : 4 / 5 ≤ price)
    (hfee : funding.feeBps ≤ 100) (hslippage : funding.slippageBps ≤ 500)
    (hobligations : 100 ≤ funding.obligations) (k : ℕ) :
    funding.obligations ≤ grossAt price funding k := by
  induction k with
  | zero => exact Nat.le_refl _
  | succ k ih =>
      rw [grossAt]
      split
      · exact ih
      · next hshort =>
          have hpositive := minimumOut_ge hlow hfee hslippage (hobligations.trans ih)
          have hgrows := @add_two_le_nextGross (grossAt price funding k) funding.obligations _
            (by omega) (by omega) (Nat.not_le.mp hshort)
          exact (ih.trans (Nat.le_add_right _ 2)).trans hgrows

/-- The loop's third input covers the obligations. -/
theorem grossAt_two_covers {price : ℚ} {funding : PayrollFunding} (hlow : 4 / 5 ≤ price)
    (hfee : funding.feeBps ≤ 100) (hslippage : funding.slippageBps ≤ 500)
    (hobligations : 100 ≤ funding.obligations) :
    funding.obligations ≤
      minimumOut price funding.feeBps funding.slippageBps (grossAt price funding 2) := by
  have hfirst := minimumOut_ge hlow hfee hslippage hobligations
  by_cases hzero : funding.obligations ≤
      minimumOut price funding.feeBps funding.slippageBps (grossAt price funding 0)
  · have hone : grossAt price funding 1 = grossAt price funding 0 := if_pos hzero
    have htwo : grossAt price funding 2 = grossAt price funding 1 := if_pos (hone ▸ hzero)
    rw [htwo, hone]
    exact hzero
  · have hone : grossAt price funding 1 = nextGross funding.obligations funding.obligations
        (minimumOut price funding.feeBps funding.slippageBps funding.obligations) := if_neg hzero
    by_cases hcovers : funding.obligations ≤
        minimumOut price funding.feeBps funding.slippageBps (grossAt price funding 1)
    · have htwo : grossAt price funding 2 = grossAt price funding 1 := if_pos hcovers
      rw [htwo]
      exact hcovers
    · have htwo : grossAt price funding 2 = nextGross (grossAt price funding 1)
          funding.obligations
          (minimumOut price funding.feeBps funding.slippageBps (grossAt price funding 1)) :=
        if_neg hcovers
      have hshort : minimumOut price funding.feeBps funding.slippageBps funding.obligations <
          funding.obligations := Nat.not_le.mp hzero
      have hgrows := @add_two_le_nextGross funding.obligations funding.obligations _ (by omega)
        (by omega) hshort
      have hlarge : 100 ≤ grossAt price funding 1 := by
        rw [hone]
        exact (hobligations.trans (Nat.le_add_right _ 2)).trans hgrows
      have hsecond := minimumOut_ge hlow hfee hslippage hlarge
      apply third_probe_covers hlow hfee hslippage hobligations hone
      rw [htwo]
      exact add_two_le_nextGross (by omega) (by omega) (Nat.not_le.mp hcovers)

/-! ## Probes of an unchanged pool -/

/-- Every probe finds the deployment alive, and a pool of one price. -/
structure UnchangedPool (env : QuoteEnvironment) (price : ℚ) : Prop where
  deadline : env.nowSeconds + 600 < 2 ^ 53
  clock : ∀ attempt, env.nowSeconds ≤ (env.probes attempt).nowSeconds ∧
    (env.probes attempt).nowSeconds < env.nowSeconds + 600
  quorum : ∀ attempt, assertLiveStaticQuorum (env.probes attempt) = .ok ()
  head : ∀ attempt, ∃ blockNumber, (env.probes attempt).blockNumber = some blockNumber ∧
    0 < blockNumber ∧ blockNumber < 2 ^ 53
  quoter : ∀ attempt amountIn, ∃ gasEstimate, 0 < gasEstimate ∧
    (env.probes attempt).quoter amountIn = some (some (poolOutput price amountIn, gasEstimate))

/-- An address that was checked once passes again. -/
theorem payrollAddress_again {runtime : Runtime} {value : Option Json} {field : String}
    {address : String} (haddress : payrollAddress runtime value field = .ok address) :
    isAddress runtime address = true ∧
      ∀ field', payrollAddress runtime (some (.string address)) field' = .ok address := by
  unfold payrollAddress at haddress
  dsimp only at haddress
  split at haddress
  · split at haddress
    · cases haddress
    · split at haddress
      · next found hfound =>
          split at haddress
          · cases haddress
          · next hzero =>
              cases haddress
              obtain ⟨hvalid, hagain⟩ := getAddress_isAddress hfound
              refine ⟨hvalid, fun field' => ?_⟩
              unfold payrollAddress
              dsimp only
              rw [if_neg (by rw [hvalid]; decide), hagain]
              exact if_neg hzero
      · cases haddress
  · cases haddress

/-- What the checks before the loop establish for the probes. -/
structure AcceptedFunding (env : QuoteEnvironment) (funding : PayrollFunding) : Prop where
  tokenIn : isAddress env.runtime funding.tokenIn = true ∧ ∀ field,
    payrollAddress env.runtime (some (.string funding.tokenIn)) field = .ok funding.tokenIn
  tokenOut : isAddress env.runtime funding.tokenOut = true ∧ ∀ field,
    payrollAddress env.runtime (some (.string funding.tokenOut)) field = .ok funding.tokenOut
  pair : requireOfficialPair funding.tokenIn funding.tokenOut = .ok ()
  slippage : 1 ≤ funding.slippageBps ∧ funding.slippageBps ≤ 500
  wallet : ∀ field,
    payrollAddress env.runtime (some (.string funding.wallet)) field = .ok funding.wallet
  recipient : ∀ field,
    payrollAddress env.runtime (some (.string funding.recipient)) field = .ok funding.recipient
  own : requireOwnRecipient funding.wallet funding.recipient = .ok ()
  fee : funding.feeBps ≤ 100

theorem slippageOf_ok {value : Option Json} {slippageBps : ℕ}
    (hslippage : slippageOf value = .ok slippageBps) : 1 ≤ slippageBps ∧ slippageBps ≤ 500 := by
  unfold slippageOf at hslippage
  split at hslippage
  · split at hslippage
    · cases hslippage
    · next hrange =>
        cases hslippage
        obtain ⟨hunits, hbound⟩ := not_or.mp hrange
        exact ⟨bigInt_pos (Bool.not_eq_false _ ▸ hunits), by omega⟩
  · cases hslippage
    exact ⟨by decide, by decide⟩

theorem acceptedFunding {env : QuoteEnvironment} {request : Json} {funding : PayrollFunding}
    (haccept : acceptPayrollQuote env request = .ok funding) : AcceptedFunding env funding := by
  have hfee := (acceptPayrollQuote_ok haccept).2.2
  unfold acceptPayrollQuote at haccept
  simp only [except_bind_ok] at haccept
  obtain ⟨_, -, tokenIn, htokenIn, tokenOut, htokenOut, _, hpair, _, -, slippageBps, hslippage,
    wallet, hwallet, recipient, hrecipient, _, hown, haccept⟩ := haccept
  split at haccept
  · obtain ⟨_, -, haccept⟩ := except_bind_ok.mp haccept
    cases haccept
    exact {
      tokenIn := payrollAddress_again htokenIn
      tokenOut := payrollAddress_again htokenOut
      pair := hpair
      slippage := slippageOf_ok hslippage
      wallet := (payrollAddress_again hwallet).2
      recipient := (payrollAddress_again hrecipient).2
      own := hown
      fee := hfee }
  · cases haccept

/-- The pair's tokens have a direction. -/
theorem zeroForOneFromTokens_pair {tokenIn tokenOut : String} (hin : isHexText 40 tokenIn = true)
    (hout : isHexText 40 tokenOut = true) (hpair : requireOfficialPair tokenIn tokenOut = .ok ()) :
    ∃ direction, zeroForOneFromTokens tokenIn tokenOut = .ok direction := by
  have husdc : isHexText 40 ARC_MAINNET_UNISWAP_V4_USDC = true := by decide +kernel
  have heurc : isHexText 40 ARC_MAINNET_UNISWAP_V4_EURC = true := by decide +kernel
  have hofficial := throwWhen_ok.mp hpair
  simp only [isOfficialPairToken, List.any_cons, List.any_nil, Bool.or_false, not_or,
    Bool.not_eq_false, Bool.or_eq_true, decide_eq_true_eq] at hofficial
  obtain ⟨hofficialIn, hofficialOut, hother⟩ := hofficial
  unfold zeroForOneFromTokens
  rw [sameAddress_eq hin husdc, sameAddress_eq hout heurc, sameAddress_eq hin heurc,
    sameAddress_eq hout husdc]
  rcases hofficialIn with hsame | hsame
  · have hsame' := hofficialOut.resolve_left fun h => hother (hsame.trans h.symm)
    exact ⟨true, by simp [bind, Except.bind, pure, Except.pure, hsame, hsame']⟩
  · have hsame' := hofficialOut.resolve_right fun h => hother (hsame.trans h.symm)
    have hnot : asciiLower tokenIn ≠ asciiLower ARC_MAINNET_UNISWAP_V4_USDC :=
      fun h => hother (h.trans hsame'.symm)
    refine ⟨false, ?_⟩
    simp only [bind, Except.bind, pure, Except.pure, decide_eq_true_eq, if_neg hnot]
    simp [hsame, hsame']

theorem liveObservation_matches {runtime : Runtime} {request : NormalizedBoundaryRequest}
    {blockNumber : ℕ} (amountOut gasEstimate : ℕ)
    (htokenIn : isAddress runtime request.tokenInAddress = true)
    (htokenOut : isAddress runtime request.tokenOutAddress = true)
    (hpositive : 0 < blockNumber) (hsafe : blockNumber < 2 ^ 53) :
    observationMatches runtime request
      (liveObservation request blockNumber amountOut gasEstimate) = .ok true := by
  have hexIn := isHexText_of_isAddress htokenIn
  have hexOut := isHexText_of_isAddress htokenOut
  have hquoter : observes runtime ARC_MAINNET_UNISWAP_V4_QUOTER ARC_MAINNET_UNISWAP_V4_QUOTER =
      .ok true := by
    unfold observes
    rw [if_pos (isAddress_of_lower runtime (by decide +kernel) (by decide +kernel))]
    decide +kernel
  have hpool : ¬ (isHexText 64 ARC_MAINNET_UNISWAP_V4_POOL_ID = false ∨
      asciiLower ARC_MAINNET_UNISWAP_V4_POOL_ID ≠ ARC_MAINNET_UNISWAP_V4_POOL_ID) := by
    decide +kernel
  have hsafe' : (blockNumber : ℤ) < 9007199254740992 := by exact_mod_cast hsafe
  unfold observationMatches liveObservation
  dsimp only
  rw [if_neg (by decide), hquoter, if_neg hpool, htokenIn, htokenOut, sameAddress_eq hexIn hexIn,
    sameAddress_eq hexOut hexOut, toDouble_of_lt hsafe]
  simp [bind, Except.bind, pure, Except.pure, hpositive, hsafe']

/-- The quoter's answer for a request of the pair validates. -/
theorem liveObservation_validates {runtime : Runtime} {request : NormalizedBoundaryRequest}
    {blockNumber amountOut gasEstimate : ℕ}
    (htokenIn : isAddress runtime request.tokenInAddress = true)
    (htokenOut : isAddress runtime request.tokenOutAddress = true)
    (hpair : requireOfficialPair request.tokenInAddress request.tokenOutAddress = .ok ())
    (hslippage : 1 ≤ request.slippageBps ∧ request.slippageBps ≤ 500)
    (hblock : 0 < blockNumber ∧ blockNumber < 2 ^ 53) (hgas : 0 < gasEstimate)
    (hamountIn : request.amountIn ≠ 0)
    (hminimum : amountOut * (10000 - request.slippageBps) / 10000 ≠ 0)
    (hprice : amountOut * (10000 - request.slippageBps) * 10 ^ 36 / (request.amountIn * 10000) ≠ 0) :
    ∃ quote, validateQuoteObservation runtime request
      (liveObservation request blockNumber amountOut gasEstimate) = .ok quote := by
  have hamountOut : 0 < amountOut := by
    rcases Nat.eq_zero_or_pos amountOut with rfl | hpositive
    · simp at hminimum
    · exact hpositive
  have huint {value : ℕ} (hpositive : 0 < value) (label : String) :
      requireCanonicalUint (toString value) label = .ok value := by
    rw [requireCanonicalUint, if_pos (isBaseUnits_toString hpositive), bigInt_toString]
    rfl
  obtain ⟨direction, hdirection⟩ := zeroForOneFromTokens_pair (isHexText_of_isAddress htokenIn)
    (isHexText_of_isAddress htokenOut) hpair
  unfold validateQuoteObservation
  rw [liveObservation_matches amountOut gasEstimate htokenIn htokenOut hblock.1 hblock.2]
  dsimp only [liveObservation]
  rw [huint hamountOut, huint hgas]
  dsimp only [bind, Except.bind]
  rw [if_neg (by decide), applySlippage_eq hslippage.1 hslippage.2 hminimum]
  dsimp only
  rw [calculateMinHopPriceX36_eq hamountIn hslippage.1 hslippage.2 hminimum hprice, hdirection]
  exact ⟨_, rfl⟩

/-- The request that a probe makes of its input. -/
def probedRequest (env : QuoteEnvironment) (funding : PayrollFunding) (net : ℕ) :
    NormalizedBoundaryRequest where
  tokenInAddress := funding.tokenIn
  tokenOutAddress := funding.tokenOut
  amountIn := net
  recipient := funding.recipient
  slippageBps := funding.slippageBps
  deadline := env.nowSeconds + 600

section Probe

variable {env : QuoteEnvironment} {funding : PayrollFunding} {price : ℚ}
  (hpool : UnchangedPool env price)
include hpool

theorem validateBoundary_eq (hfunding : AcceptedFunding env funding) {net : ℕ} (hnet : 0 < net)
    (hbound : net ≤ maxUint128) (attempt : ℕ) :
    validateBoundary env.runtime (env.probes attempt).nowSeconds funding.tokenIn
      funding.tokenOut (toString net) funding.recipient funding.wallet funding.slippageBps
      (env.nowSeconds + 600) = .ok (probedRequest env funding net) := by
  obtain ⟨hbefore, hafter⟩ := hpool.clock attempt
  have hdeadline := hpool.deadline
  have hslippage := hfunding.slippage
  have hunits := isBaseUnits_toString hnet
  have hsize : (toString net).length ≤ 39 :=
    length_toString_le (by decide) (Nat.lt_of_le_of_lt hbound (by decide +kernel))
  unfold validateBoundary
  refine except_bind_ok.mpr ⟨_, hfunding.tokenIn.2 _, ?_⟩
  refine except_bind_ok.mpr ⟨_, hfunding.tokenOut.2 _, ?_⟩
  refine except_bind_ok.mpr ⟨(), hfunding.pair, ?_⟩
  refine except_bind_ok.mpr ⟨(), throwWhen_ok.mpr ?_, ?_⟩
  · rw [hunits]
    simpa using hsize
  refine except_bind_ok.mpr ⟨(), throwWhen_ok.mpr ?_, ?_⟩
  · rw [bigInt_toString]
    omega
  refine except_bind_ok.mpr ⟨_, hfunding.wallet _, ?_⟩
  refine except_bind_ok.mpr ⟨_, hfunding.recipient _, ?_⟩
  refine except_bind_ok.mpr ⟨(), hfunding.own, ?_⟩
  refine except_bind_ok.mpr ⟨(), throwWhen_ok.mpr (by omega), ?_⟩
  refine except_bind_ok.mpr ⟨(), throwWhen_ok.mpr (by omega), ?_⟩
  rw [bigInt_toString]
  rfl

/-- The quoter answers a request of the pair, and the answer validates. -/
theorem liveQuote_eq {request : NormalizedBoundaryRequest}
    (htokenIn : isAddress env.runtime request.tokenInAddress = true)
    (htokenOut : isAddress env.runtime request.tokenOutAddress = true)
    (hpair : requireOfficialPair request.tokenInAddress request.tokenOutAddress = .ok ())
    (hslippage : 1 ≤ request.slippageBps ∧ request.slippageBps ≤ 500)
    (hamountIn : request.amountIn ≠ 0)
    (hminimum : poolOutput price request.amountIn * (10000 - request.slippageBps) / 10000 ≠ 0)
    (hprice : poolOutput price request.amountIn * (10000 - request.slippageBps) * 10 ^ 36 /
      (request.amountIn * 10000) ≠ 0) (attempt : ℕ) :
    ∃ live, liveQuote env.runtime (env.probes attempt) request = .ok live ∧
      live.validated.minAmountOut =
        poolOutput price request.amountIn * (10000 - request.slippageBps) / 10000 := by
  obtain ⟨blockNumber, hhead, hblock⟩ := hpool.head attempt
  obtain ⟨gasEstimate, hgas, hquoter⟩ := hpool.quoter attempt request.amountIn
  obtain ⟨validated, hvalidated⟩ := liveObservation_validates htokenIn htokenOut hpair hslippage
    hblock hgas hamountIn hminimum hprice
  have hfloors := validateQuoteObservation_ok hvalidated
  rw [liveObservation, bigInt_toString] at hfloors
  refine ⟨{
    validated
    blockNumber := toDouble blockNumber
    quotedAt := (env.probes attempt).quotedAt
    expiresAt := (env.probes attempt).expiresAt
    expiresAtBlock := toDouble blockNumber + QUOTE_MAX_BLOCK_AGE }, ?_, hfloors.minAmountOut⟩
  unfold liveQuote
  refine except_bind_ok.mpr ⟨(), hpool.quorum attempt, ?_⟩
  dsimp only
  rw [hhead, hquoter]
  exact except_bind_ok.mpr ⟨validated, protocolCall_ok.mpr hvalidated, rfl⟩

omit hpool in
theorem net_le_twice {net gross worth : ℕ} (hnet : net ≤ gross)
    (hfloor : 5 * gross ≤ 7 * (worth / 10000)) : net * 10000 ≤ worth * 2 := by
  omega

/-- A probe of an unchanged pool goes through, and its floor is that of the price. -/
theorem probeGross_eq (hfunding : AcceptedFunding env funding) (hlow : 4 / 5 ≤ price) {gross : ℕ}
    (hgross : 100 ≤ gross) (hbound : gross ≤ maxUint128) (attempt : ℕ) :
    ∃ live, probeGross env funding attempt gross = .ok live ∧
      live.validated.minAmountOut =
        minimumOut price funding.feeBps funding.slippageBps gross := by
  have hfloor := minimumOut_ge hlow hfunding.fee hfunding.slippage.2 hgross
  have hnetLe : netGross funding.feeBps gross ≤ gross := Nat.sub_le _ _
  rw [minimumOut] at hfloor ⊢
  have hminimum : poolOutput price (netGross funding.feeBps gross) *
      (10000 - funding.slippageBps) / 10000 ≠ 0 := by omega
  have hnet : netGross funding.feeBps gross ≠ 0 := by
    intro hzero
    rw [hzero, poolOutput, Nat.cast_zero, mul_zero, Nat.floor_zero, Nat.zero_mul] at hminimum
    exact hminimum (Nat.zero_div _)
  have hprice : poolOutput price (netGross funding.feeBps gross) *
      (10000 - funding.slippageBps) * 10 ^ 36 / (netGross funding.feeBps gross * 10000) ≠ 0 := by
    have hscale : 2 ≤ 10 ^ 36 := by norm_num
    exact Nat.ne_of_gt (Nat.div_pos
      ((net_le_twice hnetLe hfloor).trans (Nat.mul_le_mul_left _ hscale))
      (Nat.mul_pos (Nat.pos_of_ne_zero hnet) (by decide)))
  obtain ⟨live, hlive, hlast⟩ := @liveQuote_eq env price hpool
    (probedRequest env funding (netGross funding.feeBps gross)) hfunding.tokenIn.1
    hfunding.tokenOut.1 hfunding.pair hfunding.slippage hnet hminimum hprice attempt
  refine ⟨live, ?_, hlast⟩
  have hboundary := validateBoundary_eq hpool hfunding (Nat.pos_of_ne_zero hnet)
    (hnetLe.trans hbound) attempt
  rw [netGross] at hnet hnetLe hboundary hlive
  unfold probeGross
  refine except_bind_ok.mpr ⟨(), throwWhen_ok.mpr (by omega), ?_⟩
  exact except_bind_ok.mpr ⟨_, hboundary, hlive⟩

end Probe

/-- With a probe that covers among the next ones, the loop returns a quote. -/
theorem scaleUp_returns {env : QuoteEnvironment} {funding : PayrollFunding} {price : ℚ}
    (hpool : UnchangedPool env price) (hfunding : AcceptedFunding env funding)
    (hlow : 4 / 5 ≤ price) (hobligations : 100 ≤ funding.obligations) {left attempt : ℕ}
    (hgross : ∀ k, k < attempt + left → grossAt price funding k ≤ maxUint128)
    {last : ℕ} (hlast : attempt ≤ last ∧ last < attempt + left)
    (hcovers : funding.obligations ≤
      minimumOut price funding.feeBps funding.slippageBps (grossAt price funding last)) :
    ∃ quote, scaleUp env funding left attempt (grossAt price funding attempt) = .ok quote := by
  induction left generalizing attempt with
  | zero => omega
  | succ left ih =>
      have hlarge : 100 ≤ grossAt price funding attempt :=
        hobligations.trans (obligations_le_grossAt hlow hfunding.fee hfunding.slippage.2
          hobligations attempt)
      obtain ⟨live, hprobe, hfloor⟩ := probeGross_eq hpool hfunding hlow hlarge
        (hgross attempt (by omega)) attempt
      by_cases henough : funding.obligations ≤ live.validated.minAmountOut
      · refine ⟨fundedQuote funding (grossAt price funding attempt) live, ?_⟩
        unfold scaleUp
        refine except_bind_ok.mpr ⟨live, hprobe, ?_⟩
        dsimp only
        rw [if_pos henough]
        rfl
      · -- the next input is the one the loop tries next
        have hshort := henough
        rw [hfloor] at hshort
        have hnext : grossAt price funding (attempt + 1) =
            nextGross (grossAt price funding attempt) funding.obligations
              live.validated.minAmountOut := by
          rw [hfloor]
          exact if_neg hshort
        have hlater : attempt ≠ last := by
          rintro rfl
          exact hshort hcovers
        have hpositive := minimumOut_ge hlow hfunding.fee hfunding.slippage.2 hlarge
        have hgrows := @add_two_le_nextGross (grossAt price funding attempt) funding.obligations
          live.validated.minAmountOut (by omega) (by omega) (by omega)
        have hfits := hgross (attempt + 1) (by omega)
        obtain ⟨quote, hquote⟩ := @ih (attempt + 1) (fun k hk => hgross k (by omega)) (by omega)
        refine ⟨quote, ?_⟩
        unfold scaleUp
        refine except_bind_ok.mpr ⟨live, hprobe, ?_⟩
        dsimp only
        rw [if_neg henough]
        refine except_bind_ok.mpr ⟨(), throwWhen_ok.mpr (by omega), ?_⟩
        refine except_bind_ok.mpr ⟨(), throwWhen_ok.mpr (by omega), ?_⟩
        rw [← hnext]
        exact hquote

/-- In an unchanged pool of a price of at least four fifths, every payroll that owes at least a
cent is quoted, as long as the inputs that are tried fit. -/
theorem payrollCrossTokenQuote_converges (env : QuoteEnvironment) (request : Json) (price : ℚ)
    (funding : PayrollFunding) (hlow : 4 / 5 ≤ price)
    (hpool : UnchangedPool env price) (haccept : acceptPayrollQuote env request = .ok funding)
    (hobligations : 10000 ≤ funding.obligations)
    (hgross : ∀ k, k < 4 → grossAt price funding k < 2 ^ 128) :
    ∃ quote, payrollCrossTokenQuote env request = .ok quote := by
  have hfunding := acceptedFunding haccept
  have hlarge : 100 ≤ funding.obligations := hobligations.trans' (by decide)
  have hfits : ∀ k, k < 0 + 4 → grossAt price funding k ≤ maxUint128 := by
    intro k hk
    have hlt := hgross k (by omega)
    rw [maxUint128]
    omega
  obtain ⟨quote, hquote⟩ := scaleUp_returns hpool hfunding hlow hlarge hfits
    ⟨Nat.zero_le 2, by decide⟩ (grossAt_two_covers hlow hfunding.fee hfunding.slippage.2 hlarge)
  exact ⟨quote, except_bind_ok.mpr ⟨funding, haccept, hquote⟩⟩

/-- A pool that pays one for one, whose first floor of the example request falls short. -/
def parEnvironment : QuoteEnvironment :=
  exampleEnvironment fun amountIn => some (some (amountIn, 150000))

def exampleFunding : PayrollFunding where
  tokenIn := ARC_MAINNET_UNISWAP_V4_USDC
  tokenOut := "0xbEf5f6d51CB62b58e6A8f77868681825C6fe21c1"
  obligations := 1000000
  slippageBps := 200
  wallet := "0x1234567890123456789012345678901234567890"
  recipient := "0x1234567890123456789012345678901234567890"
  feeBps := 100

theorem unchangedPool_par : UnchangedPool parEnvironment 1 where
  deadline := by decide
  clock := fun _ => ⟨Nat.le_refl 1790000000, by
    change 1790000000 < 1790000000 + 600
    decide⟩
  quorum := fun attempt => by
    change assertLiveStaticQuorum (parEnvironment.probes 0) = .ok ()
    decide +kernel
  head := fun _ => ⟨100, rfl, by decide, by decide⟩
  quoter := fun _ amountIn => ⟨150000, by decide, by rw [poolOutput_par]; rfl⟩

theorem grossAt_par_le (k : ℕ) (hk : k < 4) : grossAt 1 exampleFunding k < 2 ^ 128 := by
  have hzero : grossAt 1 exampleFunding 0 = 1000000 := rfl
  have hone : grossAt 1 exampleFunding 1 = 1030717 := by
    rw [grossAt, hzero, minimumOut, poolOutput_par]
    decide +kernel
  have htwo : grossAt 1 exampleFunding 2 = 1030717 := by
    rw [grossAt, hone, minimumOut, poolOutput_par]
    decide +kernel
  have hthree : grossAt 1 exampleFunding 3 = 1030717 := by
    rw [grossAt, htwo, minimumOut, poolOutput_par]
    decide +kernel
  have hcases : k = 0 ∨ k = 1 ∨ k = 2 ∨ k = 3 := by omega
  rcases hcases with rfl | rfl | rfl | rfl
  · rw [hzero]
    norm_num
  · rw [hone]
    norm_num
  · rw [htwo]
    norm_num
  · rw [hthree]
    norm_num

theorem payrollCrossTokenQuote_converges_par :
    ∃ quote, payrollCrossTokenQuote parEnvironment exampleQuoteRequest = .ok quote :=
  payrollCrossTokenQuote_converges parEnvironment exampleQuoteRequest 1 exampleFunding
    (by norm_num) unchangedPool_par (by decide +kernel) (by decide) grossAt_par_le

end WizPay.UserSwap
