import WizPay.Backend.Address
import WizPay.Backend.Service

/-!
# The mainnet swap protocol

What the backend makes of a quote of the candidate pool: the floors for the
output and for the price of the hop, and the call that an external wallet signs.
-/

namespace WizPay.UserSwap

open Backend

def ARC_MAINNET_UNISWAP_V4_USDC : String := "0x3600000000000000000000000000000000000000"
def ARC_MAINNET_UNISWAP_V4_EURC : String := "0xbEf5f6d51CB62b58e6A8f77868681825C6fe21c1"
def ARC_MAINNET_UNISWAP_V4_POOL_ID : String :=
  "0xeb0fd02fb8044d5514fb6e165ee134fd547eff0378bb33b76f4b81d8b03bd1ae"
def ARC_MAINNET_UNISWAP_V4_QUOTER : String := "0x8dc178efb8111bb0973dd9d722ebeff267c98f94"
def WIZPAY_SWAP_EXECUTOR_MAINNET_ADDRESS : String := "0x7A051F17B237750EF9D4E63fb75381B9F8755774"
def ARC_MAINNET_USDC_NATIVE_SCALE : ℕ := 1000000000000

/-- What the protocol functions throw: their own error, or one of the address library. -/
inductive ProtocolError where
  | protocol (code message : String)
  | invalidAddress
deriving DecidableEq

def invalidQuote (message : String) : ProtocolError := .protocol "INVALID_QUOTE" message

/-- A boundary request once it is normalized: addresses are checksummed, the
slippage is an integer. -/
structure NormalizedBoundaryRequest where
  tokenInAddress : String
  tokenOutAddress : String
  amountIn : ℕ
  recipient : String
  slippageBps : ℕ
  deadline : ℕ

/-- A quote as the client returns it. A number that is no safe integer fails the
checks as a negative one does. -/
structure QuoteObservation where
  chainId : ℤ
  quoterAddress : String
  poolId : String
  tokenInAddress : String
  tokenOutAddress : String
  amountIn : String
  blockNumber : ℤ
  amountOut : String
  gasEstimate : String

structure ValidatedQuote where
  zeroForOne : Bool
  tokenIn : String
  tokenOut : String
  amountIn : ℕ
  amountOut : ℕ
  gasEstimate : ℕ
  minAmountOut : ℕ
  minHopPriceX36 : ℕ
  slippageBps : ℕ
deriving DecidableEq

/-! ## Checks -/

/-- `isAddressEqual` as an expression, which throws on a malformed address. -/
def sameAddress (first second : String) : Except ProtocolError Bool :=
  match isAddressEqual first second with
  | some same => return same
  | none => throw .invalidAddress

def zeroForOneFromTokens (tokenIn tokenOut : String) : Except ProtocolError Bool := do
  if ← sameAddress tokenIn ARC_MAINNET_UNISWAP_V4_USDC then
    if ← sameAddress tokenOut ARC_MAINNET_UNISWAP_V4_EURC then return true
  if ← sameAddress tokenIn ARC_MAINNET_UNISWAP_V4_EURC then
    if ← sameAddress tokenOut ARC_MAINNET_UNISWAP_V4_USDC then return false
  throw (.protocol "UNSUPPORTED_PAIR" "Only the candidate Arc Mainnet USDC/EURC pair is supported.")

def applySlippage (amountOut slippageBps : ℕ) : Except ProtocolError ℕ := do
  if slippageBps < 1 ∨ 500 < slippageBps then
    throw (.protocol "INVALID_SLIPPAGE" "slippageBps must be an integer between 1 and 500.")
  let minAmountOut := amountOut * (10000 - slippageBps) / 10000
  if minAmountOut = 0 then
    throw (invalidQuote "Slippage-adjusted minimum output must be positive.")
  return minAmountOut

def calculateMinHopPriceX36 (amountIn amountOut slippageBps : ℕ) : Except ProtocolError ℕ := do
  if amountIn = 0 then
    throw (invalidQuote "amountIn must be positive when calculating the per-hop price floor.")
  let _ ← applySlippage amountOut slippageBps
  let minHopPriceX36 := amountOut * (10000 - slippageBps) * 10 ^ 36 / (amountIn * 10000)
  if minHopPriceX36 = 0 then
    throw (invalidQuote "Slippage-adjusted per-hop price floor must be positive.")
  return minHopPriceX36

def requireCanonicalUint (value label : String) : Except ProtocolError ℕ :=
  if isBaseUnits value then return bigInt value
  else throw (invalidQuote (label ++ " must be a canonical positive integer string."))

variable (runtime : Runtime)

/-- `!isAddress(address) || !isAddressEqual(address, expected)`, negated. -/
def observes (address expected : String) : Except ProtocolError Bool :=
  if isAddress runtime address then sameAddress address expected else return false

/-- Whether the observation is one of this request, tested in the source's order. -/
def observationMatches (request : NormalizedBoundaryRequest) (observation : QuoteObservation) :
    Except ProtocolError Bool := do
  if observation.chainId ≠ 5042 then return false
  if (← observes runtime observation.quoterAddress ARC_MAINNET_UNISWAP_V4_QUOTER) = false then
    return false
  if isHexText 64 observation.poolId = false ∨
      asciiLower observation.poolId ≠ ARC_MAINNET_UNISWAP_V4_POOL_ID then return false
  if isAddress runtime observation.tokenInAddress = false ∨
      isAddress runtime observation.tokenOutAddress = false then return false
  if (← sameAddress observation.tokenInAddress request.tokenInAddress) = false then return false
  if (← sameAddress observation.tokenOutAddress request.tokenOutAddress) = false then return false
  return observation.amountIn = toString request.amountIn ∧
    0 < observation.blockNumber ∧ observation.blockNumber < 2 ^ 53

def validateQuoteObservation (request : NormalizedBoundaryRequest)
    (observation : QuoteObservation) : Except ProtocolError ValidatedQuote := do
  if (← observationMatches runtime request observation) = false then
    throw (invalidQuote "Quote observation does not match the canonical Arc Mainnet request.")
  let amountOut ← requireCanonicalUint observation.amountOut "amountOut"
  let gasEstimate ← requireCanonicalUint observation.gasEstimate "gasEstimate"
  let minAmountOut ← applySlippage amountOut request.slippageBps
  let minHopPriceX36 ← calculateMinHopPriceX36 request.amountIn amountOut request.slippageBps
  return {
    zeroForOne := ← zeroForOneFromTokens request.tokenInAddress request.tokenOutAddress
    tokenIn := request.tokenInAddress
    tokenOut := request.tokenOutAddress
    amountIn := request.amountIn
    amountOut, gasEstimate, minAmountOut, minHopPriceX36
    slippageBps := request.slippageBps }

/-! ## The plan -/

/-- The arguments of `executeSwap`, as the call data carries them. -/
structure ExecuteSwapArgs where
  tokenIn : String
  tokenOut : String
  amountIn : ℕ
  minAmountOut : ℕ
  minHopPriceX36 : ℕ
  deadline : ℕ
deriving DecidableEq

structure ExecutorApproval where
  token : String
  spender : String
  amount : ℕ
deriving DecidableEq

structure SwapPlan where
  quote : ValidatedQuote
  approvals : List ExecutorApproval
  swapTo : String
  swap : ExecuteSwapArgs
  value : ℕ
  recipient : String
  deadline : ℕ
deriving DecidableEq

def encodeExecuteSwap (args : ExecuteSwapArgs) : Except ProtocolError ExecuteSwapArgs := do
  let _ ← zeroForOneFromTokens args.tokenIn args.tokenOut
  return args

def buildUserControlledSwapPlan (request : NormalizedBoundaryRequest)
    (observation : QuoteObservation) : Except ProtocolError SwapPlan := do
  let quote ← validateQuoteObservation runtime request observation
  let usesNativeUsdc ← sameAddress quote.tokenIn ARC_MAINNET_UNISWAP_V4_USDC
  let swap ← encodeExecuteSwap {
    tokenIn := quote.tokenIn
    tokenOut := quote.tokenOut
    amountIn := quote.amountIn
    minAmountOut := quote.minAmountOut
    minHopPriceX36 := quote.minHopPriceX36
    deadline := request.deadline }
  return {
    quote
    approvals := if usesNativeUsdc then [] else
      [{ token := quote.tokenIn, spender := WIZPAY_SWAP_EXECUTOR_MAINNET_ADDRESS,
         amount := quote.amountIn }]
    swapTo := WIZPAY_SWAP_EXECUTOR_MAINNET_ADDRESS
    swap
    value := if usesNativeUsdc then quote.amountIn * ARC_MAINNET_USDC_NATIVE_SCALE else 0
    recipient := request.recipient
    deadline := request.deadline }

/-! ## What passes -/

theorem isHexText_of_isAddress {runtime : Runtime} {address : String}
    (haddress : isAddress runtime address = true) : isHexText 40 address = true := by
  rw [isAddress, Bool.and_eq_true] at haddress
  exact haddress.1

theorem sameAddress_eq {first second : String} (hfirst : isHexText 40 first = true)
    (hsecond : isHexText 40 second = true) :
    sameAddress first second = .ok (decide (asciiLower first = asciiLower second)) := by
  rw [sameAddress, isAddressEqual, hfirst, hsecond]
  rfl

theorem applySlippage_ok {amountOut slippageBps minAmountOut : ℕ}
    (hslippage : applySlippage amountOut slippageBps = .ok minAmountOut) :
    (1 ≤ slippageBps ∧ slippageBps ≤ 500) ∧
      minAmountOut = amountOut * (10000 - slippageBps) / 10000 ∧ minAmountOut ≠ 0 := by
  unfold applySlippage at hslippage
  by_cases hrange : slippageBps < 1 ∨ 500 < slippageBps
  · rw [if_pos hrange] at hslippage
    cases hslippage
  · rw [if_neg hrange] at hslippage
    dsimp only [pure_bind] at hslippage
    split at hslippage
    · cases hslippage
    · next hpositive =>
        have hvalue := Except.ok.inj hslippage
        exact ⟨by omega, hvalue.symm, hvalue ▸ hpositive⟩

theorem calculateMinHopPriceX36_ok {amountIn amountOut slippageBps minHopPriceX36 : ℕ}
    (hprice : calculateMinHopPriceX36 amountIn amountOut slippageBps = .ok minHopPriceX36) :
    minHopPriceX36 = amountOut * (10000 - slippageBps) * 10 ^ 36 / (amountIn * 10000) ∧
      minHopPriceX36 ≠ 0 := by
  unfold calculateMinHopPriceX36 at hprice
  by_cases hzero : amountIn = 0
  · rw [if_pos hzero] at hprice
    cases hprice
  · rw [if_neg hzero] at hprice
    obtain ⟨_, -, hprice⟩ := except_bind_ok.mp hprice
    dsimp only [pure_bind] at hprice
    split at hprice
    · cases hprice
    · next hpositive =>
        have hvalue := Except.ok.inj hprice
        exact ⟨hvalue.symm, hvalue ▸ hpositive⟩

theorem applySlippage_eq {amountOut slippageBps : ℕ} (hlow : 1 ≤ slippageBps)
    (hhigh : slippageBps ≤ 500) (hpositive : amountOut * (10000 - slippageBps) / 10000 ≠ 0) :
    applySlippage amountOut slippageBps = .ok (amountOut * (10000 - slippageBps) / 10000) := by
  have hrange : ¬ (slippageBps < 1 ∨ 500 < slippageBps) := by omega
  simp only [applySlippage, hrange, hpositive, if_false]
  rfl

theorem calculateMinHopPriceX36_eq {amountIn amountOut slippageBps : ℕ} (hamountIn : amountIn ≠ 0)
    (hlow : 1 ≤ slippageBps) (hhigh : slippageBps ≤ 500)
    (hpositive : amountOut * (10000 - slippageBps) / 10000 ≠ 0)
    (hprice : amountOut * (10000 - slippageBps) * 10 ^ 36 / (amountIn * 10000) ≠ 0) :
    calculateMinHopPriceX36 amountIn amountOut slippageBps =
      .ok (amountOut * (10000 - slippageBps) * 10 ^ 36 / (amountIn * 10000)) := by
  simp only [calculateMinHopPriceX36, hamountIn, applySlippage_eq hlow hhigh hpositive, hprice,
    if_false]
  rfl

variable {runtime}

/-- A validated quote carries the floors of its own amounts, and none of them is zero. -/
structure QuoteFloors (request : NormalizedBoundaryRequest) (amountOut : ℕ)
    (quote : ValidatedQuote) : Prop where
  slippage : 1 ≤ request.slippageBps ∧ request.slippageBps ≤ 500
  amountIn : quote.amountIn = request.amountIn
  minAmountOut : quote.minAmountOut = amountOut * (10000 - request.slippageBps) / 10000
  minAmountOut_ne : quote.minAmountOut ≠ 0
  minHopPriceX36 : quote.minHopPriceX36 =
    amountOut * (10000 - request.slippageBps) * 10 ^ 36 / (request.amountIn * 10000)
  minHopPriceX36_ne : quote.minHopPriceX36 ≠ 0

theorem validateQuoteObservation_ok {request : NormalizedBoundaryRequest}
    {observation : QuoteObservation} {quote : ValidatedQuote}
    (hquote : validateQuoteObservation runtime request observation = .ok quote) :
    QuoteFloors request (bigInt observation.amountOut) quote := by
  unfold validateQuoteObservation at hquote
  obtain ⟨isMatch, -, hquote⟩ := except_bind_ok.mp hquote
  cases isMatch with
  | false => cases hquote
  | true =>
      simp only [if_false, Bool.true_eq_false, except_bind_ok] at hquote
      obtain ⟨amountOut, hamountOut, gasEstimate, -, minAmountOut, hslippage, minHopPrice, hprice,
        zeroForOne, -, hquote⟩ := hquote
      have hvalue : bigInt observation.amountOut = amountOut := by
        unfold requireCanonicalUint at hamountOut
        split at hamountOut
        · exact Except.ok.inj hamountOut
        · cases hamountOut
      obtain ⟨hrange, hminimum, hminimum_ne⟩ := applySlippage_ok hslippage
      obtain ⟨hhop, hhop_ne⟩ := calculateMinHopPriceX36_ok hprice
      cases hquote
      rw [hvalue]
      exact ⟨hrange, rfl, hminimum, hminimum_ne, hhop, hhop_ne⟩

/-- The call of a plan carries the input of the request and the floor of the quote. -/
theorem buildUserControlledSwapPlan_ok {request : NormalizedBoundaryRequest}
    {observation : QuoteObservation} {plan : SwapPlan}
    (hplan : buildUserControlledSwapPlan runtime request observation = .ok plan) :
    (1 ≤ request.slippageBps ∧ request.slippageBps ≤ 500) ∧
      plan.swap.amountIn = request.amountIn ∧
      plan.swap.minAmountOut =
        bigInt observation.amountOut * (10000 - request.slippageBps) / 10000 := by
  unfold buildUserControlledSwapPlan at hplan
  obtain ⟨quote, hquote, hplan⟩ := except_bind_ok.mp hplan
  obtain ⟨usesNativeUsdc, -, hplan⟩ := except_bind_ok.mp hplan
  obtain ⟨swap, hswap, hplan⟩ := except_bind_ok.mp hplan
  have hfloors := validateQuoteObservation_ok hquote
  obtain ⟨_, -, hswap⟩ := except_bind_ok.mp hswap
  cases hswap
  cases hplan
  exact ⟨hfloors.slippage, hfloors.amountIn, hfloors.minAmountOut⟩

end WizPay.UserSwap
