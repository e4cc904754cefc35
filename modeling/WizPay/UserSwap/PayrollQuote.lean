import WizPay.Backend.Json
import WizPay.Backend.Number
import WizPay.UserSwap.Protocol

/-!
# Quotes for cross-token payrolls

The backend looks for a gross input whose output floor covers what a payroll owes:
it probes the quoter with the input net of the payroll fee, and scales the input up
until the floor of a probe is enough, four times at most.
-/

namespace WizPay.UserSwap

open Backend

def INVALID_REQUEST : String := "ARC_MAINNET_UNISWAP_V4_INVALID_REQUEST"
def UNAVAILABLE : String := "ARC_MAINNET_UNISWAP_V4_UNAVAILABLE"
def maxUint128 : ℕ := 2 ^ 128 - 1
def QUOTE_MAX_BLOCK_AGE : ℕ := 60

/-- What the service throws: an HTTP exception, or an error of the protocol functions. -/
inductive QuoteFailure where
  | http (error : ServiceError)
  | protocol (error : ProtocolError)
deriving DecidableEq

def payrollInvalid (message : String) : QuoteFailure := .http (.badRequest INVALID_REQUEST message)

def payrollUnavailable (message : String) : QuoteFailure := .http (.unavailable UNAVAILABLE message)

def protocolCall {α : Type} : Except ProtocolError α → Except QuoteFailure α
  | .ok value => .ok value
  | .error error => .error (.protocol error)

/-- `if (condition) throw failure;` -/
def throwWhen (condition : Prop) [Decidable condition] (failure : QuoteFailure) :
    Except QuoteFailure Unit :=
  if condition then throw failure else return ()

/-! ## The chain and the clock -/

/-- What one endpoint reports about the pool and the executor. -/
structure RpcSnapshot where
  chainId : ℕ
  lpFee : ℕ
  liquidity : ℕ
  paused : Bool
  feeBps : ℕ
  router : String
  permit2 : String
  usdc : String
  eurc : String
deriving DecidableEq

/-- What is seen during one probe: the clock, the endpoints' snapshots (`none` where a read
fails) unless the last quorum is still cached, the head block, and what the quoter answers for
an input: nothing, something undecodable, or an output and a gas estimate. -/
structure Probe where
  nowSeconds : ℕ
  quotedAt : String
  expiresAt : String
  cachedQuorum : Bool
  snapshots : List (Option RpcSnapshot)
  blockNumber : Option ℕ
  quoter : ℕ → Option (Option (ℕ × ℕ))

/-- The process, the payroll fee it reads, and its probes in order. -/
structure QuoteEnvironment where
  runtime : Runtime
  mainnet : Bool
  payrollFeeBps : Option ℕ
  nowSeconds : ℕ
  probes : ℕ → Probe

def EXPECTED_UNIVERSAL_ROUTER : String := "0x4fca4a51ab4f23a7447b3284fbd7d73289a89fb1"
def EXPECTED_PERMIT2 : String := "0x000000000022D473030F116dDEE9F6B43aC78BA3"

/-- What the quorum compares between the endpoints: all but the liquidity. -/
def quorumDigest (snapshot : RpcSnapshot) : RpcSnapshot := { snapshot with liquidity := 0 }

def sameDeployment (snapshot : RpcSnapshot) : Bool :=
  asciiLower snapshot.router = asciiLower EXPECTED_UNIVERSAL_ROUTER &&
    asciiLower snapshot.permit2 = asciiLower EXPECTED_PERMIT2 &&
    asciiLower snapshot.usdc = asciiLower ARC_MAINNET_UNISWAP_V4_USDC &&
    asciiLower snapshot.eurc = asciiLower ARC_MAINNET_UNISWAP_V4_EURC

def assertLiveStaticQuorum (probe : Probe) : Except QuoteFailure Unit := do
  if probe.cachedQuorum then return ()
  throwWhen (probe.snapshots.length < 2) (payrollUnavailable
    "Arc Mainnet RPC quorum is unavailable: two independent RPC endpoints are required.")
  match probe.snapshots.mapM id with
  | some (snapshot :: rest) =>
      throwWhen (¬ rest.all fun other => quorumDigest other = quorumDigest snapshot)
        (payrollUnavailable
          "Arc Mainnet RPC quorum disagrees on pool/executor state. Swaps stay disabled.")
      throwWhen (snapshot.chainId ≠ 5042)
        (payrollUnavailable "Quorum RPC chain id is not Arc Mainnet (5042).")
      throwWhen (snapshot.lpFee ≠ 500)
        (payrollUnavailable "Canonical USDC/EURC pool fee is not 500 on Arc Mainnet.")
      match (snapshot :: rest).findIdx? fun candidate => candidate.liquidity = 0 with
      | some index => throw (payrollUnavailable
          ("Canonical USDC/EURC pool has no liquidity on Arc Mainnet RPC " ++ toString index ++
            ". Swaps stay disabled."))
      | none => pure ()
      throwWhen snapshot.paused
        (payrollUnavailable "WizPaySwapExecutorMainnet is paused on Arc Mainnet.")
      throwWhen (sameDeployment snapshot = false) (payrollUnavailable
        ("WizPaySwapExecutorMainnet configuration does not match the official Arc Mainnet " ++
          "deployment."))
  | _ => throw (payrollUnavailable
      ("Arc Mainnet RPC quorum is unreachable. Swaps stay disabled until both RPC endpoints " ++
        "agree."))

structure LiveQuoteResult where
  validated : ValidatedQuote
  blockNumber : ℕ
  quotedAt : String
  expiresAt : String
  expiresAtBlock : ℕ

/-- What `liveQuote` observes for a request. -/
def liveObservation (request : NormalizedBoundaryRequest) (blockNumber amountOut gasEstimate : ℕ) :
    QuoteObservation where
  chainId := 5042
  quoterAddress := ARC_MAINNET_UNISWAP_V4_QUOTER
  poolId := ARC_MAINNET_UNISWAP_V4_POOL_ID
  tokenInAddress := request.tokenInAddress
  tokenOutAddress := request.tokenOutAddress
  amountIn := toString request.amountIn
  blockNumber := toDouble blockNumber
  amountOut := toString amountOut
  gasEstimate := toString gasEstimate

/-- A quote of the quoter for the input of a request, at the head block. -/
def liveQuote (runtime : Runtime) (probe : Probe) (request : NormalizedBoundaryRequest) :
    Except QuoteFailure LiveQuoteResult := do
  assertLiveStaticQuorum probe
  let unreachable := payrollUnavailable
    ("Arc Mainnet quoter is unreachable or the pool has no liquidity for this input. Swaps " ++
      "stay disabled.")
  let some blockNumber := probe.blockNumber | throw unreachable
  let some returnData := probe.quoter request.amountIn | throw unreachable
  let some (amountOut, gasEstimate) := returnData
    | throw (payrollUnavailable "Arc Mainnet quoter returned an undecodable quote.")
  let validated ← protocolCall (validateQuoteObservation runtime request
    (liveObservation request blockNumber amountOut gasEstimate))
  return {
    validated
    blockNumber := toDouble blockNumber
    quotedAt := probe.quotedAt
    expiresAt := probe.expiresAt
    expiresAtBlock := toDouble blockNumber + QUOTE_MAX_BLOCK_AGE }

/-! ## The boundary -/

/-- `address`, which both services have: a checksummed address other than zero. -/
def payrollAddress (runtime : Runtime) (value : Option Json) (field : String) :
    Except QuoteFailure String :=
  let malformed := payrollInvalid (field ++ " must be a valid EVM address.")
  match value with
  | some (.string text) =>
      if isAddress runtime text = false then throw malformed
      else match getAddress runtime text with
        | some address =>
            if asciiLower address = zeroAddress then
              throw (payrollInvalid (field ++ " must not be the zero address."))
            else return address
        | none => throw malformed
  | _ => throw malformed

def isOfficialPairToken (address : String) : Bool :=
  [ARC_MAINNET_UNISWAP_V4_USDC, ARC_MAINNET_UNISWAP_V4_EURC].any fun token =>
    asciiLower address = asciiLower token

/-- The tokens are the two of the pair. -/
def requireOfficialPair (tokenIn tokenOut : String) : Except QuoteFailure Unit :=
  throwWhen (isOfficialPairToken tokenIn = false ∨ isOfficialPairToken tokenOut = false ∨
      asciiLower tokenIn = asciiLower tokenOut)
    (payrollInvalid "Only the official Arc Mainnet USDC/EURC pair is supported.")

def requireOwnRecipient (walletAddress recipient : String) : Except QuoteFailure Unit :=
  throwWhen (asciiLower walletAddress ≠ asciiLower recipient)
    (payrollInvalid "recipient must equal the user-controlled wallet address.")

/-- `validateBoundary` on the request of a probe, whose chain and wallet control are fixed. -/
def validateBoundary (runtime : Runtime) (nowSeconds : ℕ) (tokenInAddress tokenOutAddress amountIn
    recipient walletAddress : String) (slippageBps deadline : ℕ) :
    Except QuoteFailure NormalizedBoundaryRequest := do
  let tokenIn ← payrollAddress runtime (some (.string tokenInAddress)) "tokenInAddress"
  let tokenOut ← payrollAddress runtime (some (.string tokenOutAddress)) "tokenOutAddress"
  requireOfficialPair tokenIn tokenOut
  throwWhen (39 < amountIn.length ∨ isBaseUnits amountIn = false)
    (payrollInvalid "amountIn must be a canonical positive integer string.")
  throwWhen (maxUint128 < bigInt amountIn)
    (payrollInvalid "amountIn exceeds the Uniswap V4 uint128 swap limit.")
  let wallet ← payrollAddress runtime (some (.string walletAddress)) "walletAddress"
  let receiver ← payrollAddress runtime (some (.string recipient)) "recipient"
  requireOwnRecipient wallet receiver
  throwWhen (slippageBps < 1 ∨ 500 < slippageBps)
    (payrollInvalid "slippageBps must be an integer between 1 and 500.")
  throwWhen (2 ^ 53 ≤ deadline ∨ deadline ≤ nowSeconds ∨ nowSeconds + 1200 < deadline)
    (payrollInvalid "deadline must be in the next 1200 seconds.")
  return {
    tokenInAddress := tokenIn
    tokenOutAddress := tokenOut
    amountIn := bigInt amountIn
    recipient := receiver
    slippageBps, deadline }

/-! ## The payroll quote -/

/-- A request once it is checked. -/
structure PayrollFunding where
  tokenIn : String
  tokenOut : String
  obligations : ℕ
  slippageBps : ℕ
  wallet : String
  recipient : String
  feeBps : ℕ
deriving DecidableEq

structure PayrollQuote where
  tokenIn : String
  tokenOut : String
  obligations : String
  grossInput : String
  feeAmount : String
  netAmountIn : String
  minTotalOut : String
  minHopPriceX36 : String
  slippageBps : ℕ
  payrollFeeBps : String
  quoteBlock : ℕ
  quotedAt : String
  expiresAt : String
  expiresAtBlock : ℕ
deriving DecidableEq

def payrollUint (value : Option Json) (field : String) : Except QuoteFailure ℕ :=
  match value with
  | some (.string text) =>
      if isBaseUnits text = false then
        throw (payrollInvalid (field ++ " must be a canonical positive integer string."))
      else if maxUint128 < bigInt text then
        throw (payrollInvalid (field ++ " exceeds the Uniswap V4 uint128 swap limit."))
      else return bigInt text
  | _ => throw (payrollInvalid (field ++ " must be a canonical positive integer string."))

/-- An integer from 1 to 500, by the text of the number; 200 where there is no number. -/
def slippageOf (value : Option Json) : Except QuoteFailure ℕ :=
  match value with
  | some (.number text) =>
      if isBaseUnits text = false ∨ 3 < text.length ∨ 500 < bigInt text then
        throw (payrollInvalid "slippageBps must be an integer between 1 and 500.")
      else return bigInt text
  | _ => return 200

def acceptPayrollQuote (env : QuoteEnvironment) (request : Json) :
    Except QuoteFailure PayrollFunding := do
  throwWhen (env.mainnet = false)
    (payrollInvalid "Uniswap V4 USDC/EURC is isolated to Arc Mainnet.")
  let tokenIn ← payrollAddress env.runtime (request.get? "tokenInAddress") "tokenInAddress"
  let tokenOut ← payrollAddress env.runtime (request.get? "tokenOutAddress") "tokenOutAddress"
  requireOfficialPair tokenIn tokenOut
  let obligations ← payrollUint (request.get? "outputTotals") "outputTotals"
  let slippageBps ← slippageOf (request.get? "slippageBps")
  let wallet ← payrollAddress env.runtime (request.get? "walletAddress") "walletAddress"
  let recipient ← payrollAddress env.runtime (request.get? "recipient") "recipient"
  requireOwnRecipient wallet recipient
  let some feeBps := env.payrollFeeBps
    | throw (payrollUnavailable "Payroll fee is unreadable on Arc Mainnet.")
  throwWhen (100 < feeBps) (payrollInvalid "Payroll fee is out of range on Arc Mainnet.")
  return { tokenIn, tokenOut, obligations, slippageBps, wallet, recipient, feeBps }

def notConverged : QuoteFailure :=
  payrollUnavailable "Cross-token payroll quote did not converge on safe funding."

/-- The next input to try, scaled up by what the last floor was short, and one more. -/
def nextGross (gross obligations minTotalOut : ℕ) : ℕ :=
  (gross * obligations + minTotalOut - 1) / minTotalOut + 1

/-- The quote of one probe, for the net of `gross`. -/
def probeGross (env : QuoteEnvironment) (funding : PayrollFunding) (attempt gross : ℕ) :
    Except QuoteFailure LiveQuoteResult := do
  let net := gross - gross * funding.feeBps / 10000
  throwWhen (net = 0 ∨ maxUint128 < gross ∨ maxUint128 < net) (payrollUnavailable
    "Cross-token payroll input exceeds the Uniswap V4 uint128 swap limit.")
  let normalized ← validateBoundary env.runtime (env.probes attempt).nowSeconds funding.tokenIn
    funding.tokenOut (toString net) funding.recipient funding.wallet funding.slippageBps
    (env.nowSeconds + 600)
  liveQuote env.runtime (env.probes attempt) normalized

/-- What the loop returns for an input whose probe covers the obligations. -/
def fundedQuote (funding : PayrollFunding) (gross : ℕ) (live : LiveQuoteResult) : PayrollQuote :=
  let finalFee := gross * funding.feeBps / 10000
  { tokenIn := funding.tokenIn
    tokenOut := funding.tokenOut
    obligations := toString funding.obligations
    grossInput := toString gross
    feeAmount := toString finalFee
    netAmountIn := toString (gross - finalFee)
    minTotalOut := toString live.validated.minAmountOut
    minHopPriceX36 := toString live.validated.minHopPriceX36
    slippageBps := funding.slippageBps
    payrollFeeBps := toString funding.feeBps
    quoteBlock := live.blockNumber
    quotedAt := live.quotedAt
    expiresAt := live.expiresAt
    expiresAtBlock := live.expiresAtBlock }

/-- The loop, with `left` attempts left. -/
def scaleUp (env : QuoteEnvironment) (funding : PayrollFunding) :
    ℕ → ℕ → ℕ → Except QuoteFailure PayrollQuote
  | 0, _, _ => throw notConverged
  | left + 1, attempt, gross => do
      let live ← probeGross env funding attempt gross
      let minTotalOut := live.validated.minAmountOut
      if funding.obligations ≤ minTotalOut then
        return fundedQuote funding gross live
      throwWhen (minTotalOut = 0)
        (payrollUnavailable "Cross-token payroll quote has no output for this input.")
      let next := nextGross gross funding.obligations minTotalOut
      throwWhen (next ≤ gross ∨ maxUint128 < next) notConverged
      scaleUp env funding left (attempt + 1) next

def payrollCrossTokenQuote (env : QuoteEnvironment) (request : Json) :
    Except QuoteFailure PayrollQuote := do
  let funding ← acceptPayrollQuote env request
  scaleUp env funding 4 0 funding.obligations

end WizPay.UserSwap
