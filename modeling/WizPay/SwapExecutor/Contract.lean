import WizPay.Evm.Contract

/-!
# The mainnet swap executor

`WizPaySwapExecutorMainnet` swaps USDC and EURC for its caller in one hop. The
router delivers the output to the caller directly; the executor only forwards
the input, takes its fee, and measures what the caller received.
-/

namespace WizPay.SwapExecutor

open Foundation Evm

/-! ## Errors, events and constants -/

inductive Error where
  | amountMustBeGreaterThanZero
  | amountInExceedsUint128 (amountIn : ℕ)
  | initialOwnerMustBeContract (owner : Address)
  | invalidPoolFee (provided : ℕ)
  | invalidPoolTickSpacing (provided : ℤ)
  | minAmountOutExceedsUint128 (minAmountOut : ℕ)
  | resourceHasNoCode (resource : Address)
  | wrongChain (actualChainId : ℕ)
  | deadlineExpired (deadline currentTimestamp : ℕ)
  | deadlineTooFar (deadline maximumDeadline : ℕ)
  | feeExceedsMaximum (feeBps maxFeeBps : ℕ)
  | feeRecipientMustEqualOwner (feeRecipient owner : Address)
  | minAmountOutZero
  | minHopPriceX36Zero
  | nativeMsgValueMismatch (sent expected : ℕ)
  | nativeTransferFailed
  | ownershipLocked
  | ownableInvalidOwner (owner : Address)
  | recipientZeroAddress
  | require (reason : String)
  | residualInputBalance (expectedBalance actualBalance : ℕ)
  | residualNativeBalance (expectedBalance actualBalance : ℕ)
  | residualOutputBalance (expectedBalance actualBalance : ℕ)
  | slippageExceeded (amountOut minAmountOut : ℕ)
  | tokenRescueBlocked (token : Address)
  | unsupportedSwapPair (tokenIn tokenOut : Address)
deriving DecidableEq

structure WizPayMainnetSwapExecuted where
  caller : Address
  tokenIn : Address
  tokenOut : Address
  amountIn : ℕ
  feeAmount : ℕ
  netAmountIn : ℕ
  amountOut : ℕ
  minAmountOut : ℕ
deriving DecidableEq

inductive Event where
  | wizPayMainnetSwapExecuted (args : WizPayMainnetSwapExecuted)
  | emergencyTokenRescued (token target : Address) (amount : ℕ)
  | paused (account : Address)
  | unpaused (account : Address)
deriving DecidableEq

def MAX_FEE_BPS : ℕ := 100
def MAX_DEADLINE_WINDOW : ℕ := 20 * 60
def ARC_NATIVE_USDC_SCALE : ℕ := 1000000000000
def ARC_MAINNET_CHAIN_ID : ℕ := 5042
def ARC_MAINNET_POOL_FEE : ℕ := 500
def ARC_MAINNET_POOL_TICK_SPACING : ℤ := 10

/-! ## Deployment -/

/-- The immutables of a deployed executor, with what its constructor checked. -/
structure Immutables where
  self : Address
  owner : Address
  USDC : Address
  EURC : Address
  universalRouter : Address
  permit2 : Address
  poolFee : ℕ
  poolTickSpacing : ℤ
  feeRecipient : Address
  feeBps : ℕ
  feeRecipient_eq : feeRecipient = owner
  feeBps_le : feeBps ≤ MAX_FEE_BPS
  owner_ne_self : owner ≠ self
  tokens_ne : USDC ≠ EURC

structure ConstructorArgs where
  initialOwner : Address
  initialFeeRecipient : Address
  initialFeeBps : ℕ
  usdc : Address
  eurc : Address
  universalRouter : Address
  permit2 : Address
  fee : ℕ
  tickSpacing : ℤ

/-- The contract between calls; it keeps no storage of its own. -/
abbrev State (χ : Type) := ContractState Unit Event χ

abbrev ExecutorCall (χ α : Type) := ContractCall Error Unit Event χ α

def deployedState {χ : Type} (owner : Address) (chain : χ) : State χ where
  storage := ()
  paused := true
  entered := false
  events := [.paused owner]
  chain := chain

/-- What the constructor can read of the chain: its own account has no code
while it runs. -/
structure DeploymentContext where
  self : Address
  chainid : ℕ
  codeLength : Address → ℕ
  self_codeless : codeLength self = 0

def constructor {χ : Type} (args : ConstructorArgs) (context : DeploymentContext) (chain : χ) :
    Except Error (Immutables × State χ) := do
  if args.initialOwner = 0 then throw (.ownableInvalidOwner args.initialOwner)
  if hrecipient : args.initialFeeRecipient ≠ args.initialOwner then
    throw (.feeRecipientMustEqualOwner args.initialFeeRecipient args.initialOwner)
  else if hfee : args.initialFeeBps > MAX_FEE_BPS then
    throw (.feeExceedsMaximum args.initialFeeBps MAX_FEE_BPS)
  else if context.chainid ≠ ARC_MAINNET_CHAIN_ID then throw (.wrongChain context.chainid)
  else if howner : context.codeLength args.initialOwner = 0 then
    throw (.initialOwnerMustBeContract args.initialOwner)
  else if htokens : ¬ (args.usdc ≠ 0 ∧ args.eurc ≠ 0 ∧ args.usdc ≠ args.eurc) then
    throw (.require "bad tokens")
  else if ¬ (args.universalRouter ≠ 0 ∧ args.permit2 ≠ 0) then throw (.require "bad infra")
  else if context.codeLength args.usdc = 0 then throw (.resourceHasNoCode args.usdc)
  else if context.codeLength args.eurc = 0 then throw (.resourceHasNoCode args.eurc)
  else if context.codeLength args.universalRouter = 0 then
    throw (.resourceHasNoCode args.universalRouter)
  else if context.codeLength args.permit2 = 0 then throw (.resourceHasNoCode args.permit2)
  else if args.fee ≠ ARC_MAINNET_POOL_FEE then throw (.invalidPoolFee args.fee)
  else if args.tickSpacing ≠ ARC_MAINNET_POOL_TICK_SPACING then
    throw (.invalidPoolTickSpacing args.tickSpacing)
  else
    return (
      { self := context.self
        owner := args.initialOwner
        USDC := args.usdc
        EURC := args.eurc
        universalRouter := args.universalRouter
        permit2 := args.permit2
        poolFee := args.fee
        poolTickSpacing := args.tickSpacing
        feeRecipient := args.initialFeeRecipient
        feeBps := args.initialFeeBps
        feeRecipient_eq := not_not.mp hrecipient
        feeBps_le := Nat.not_lt.mp hfee
        owner_ne_self := fun heq => howner (heq ▸ context.self_codeless)
        tokens_ne := (not_not.mp htokens).2.2 },
      deployedState args.initialOwner chain)

/-- A deployed executor and the code it calls. -/
structure Executor (χ : Type) extends Immutables where
  ext : Externals (State χ) χ

variable {χ : Type} (c : Executor χ)

/-! ## The swap -/

def validateSwap (msg : Msg) (tokenIn tokenOut : Address)
    (amountIn minAmountOut minHopPriceX36 deadline : ℕ) : ExecutorCall χ Unit := do
  let validPair : Bool :=
    (tokenIn = c.USDC ∧ tokenOut = c.EURC) ∨ (tokenIn = c.EURC ∧ tokenOut = c.USDC)
  revertIf (¬ validPair) (.unsupportedSwapPair tokenIn tokenOut)
  revertIf (amountIn = 0) .amountMustBeGreaterThanZero
  revertIf (amountIn > uint128Bound - 1) (.amountInExceedsUint128 amountIn)
  revertIf (minAmountOut = 0) .minAmountOutZero
  revertIf (minAmountOut > uint128Bound - 1) (.minAmountOutExceedsUint128 minAmountOut)
  revertIf (minHopPriceX36 = 0) .minHopPriceX36Zero
  revertIf (deadline < msg.timestamp) (.deadlineExpired deadline msg.timestamp)
  let maxDeadline ← checkedAdd msg.timestamp MAX_DEADLINE_WINDOW
  revertIf (deadline > maxDeadline) (.deadlineTooFar deadline maxDeadline)

def buildV4SwapInput (tokenIn tokenOut : Address) (netAmountIn minAmountOut minHopPriceX36 : ℕ)
    (recipient : Address) (payerIsUser : Bool) : ExecutorCall χ V4SwapInput :=
  v4SwapInput c.poolFee c.poolTickSpacing tokenIn tokenOut netAmountIn minAmountOut minHopPriceX36
    recipient payerIsUser

def executeUsdcSwap (msg : Msg) (tokenIn tokenOut : Address)
    (amountIn netAmountIn feeAmount minAmountOut minHopPriceX36 deadline : ℕ) :
    ExecutorCall χ Unit := do
  let expectedNative ← checkedMul amountIn ARC_NATIVE_USDC_SCALE
  revertIf (msg.value ≠ expectedNative) (.nativeMsgValueMismatch msg.value expectedNative)
  let nativeBal ← view fun chain => c.ext.nativeBalance chain c.self
  let priorNativeBal ← checkedSub nativeBal msg.value
  Call.when (feeAmount ≠ 0) do
    let feeNative ← checkedMul feeAmount ARC_NATIVE_USDC_SCALE
    Call.external (c.ext.callValue c.feeRecipient feeNative) (.custom .nativeTransferFailed)
  let netNative ← checkedMul netAmountIn ARC_NATIVE_USDC_SCALE
  let input ← buildV4SwapInput c tokenIn tokenOut netAmountIn minAmountOut minHopPriceX36
    msg.sender false
  callExternal (c.ext.execute
    { value := netNative, commands := [cmdV4Swap], inputs := [input], deadline })
  let endNativeBal ← view fun chain => c.ext.nativeBalance chain c.self
  revertIf (endNativeBal ≠ priorNativeBal) (.residualNativeBalance priorNativeBal endNativeBal)

def executeEurcSwap (msg : Msg) (tokenIn tokenOut : Address)
    (amountIn netAmountIn feeAmount minAmountOut minHopPriceX36 deadline : ℕ) :
    ExecutorCall χ Unit := do
  revertIf (msg.value ≠ 0) (.nativeMsgValueMismatch msg.value 0)
  let startInputBal ← view fun chain => c.ext.balanceOf chain tokenIn c.self
  callExternal (c.ext.safeTransferFrom tokenIn msg.sender c.self amountIn)
  Call.when (feeAmount ≠ 0) do
    callExternal (c.ext.safeTransfer tokenIn c.feeRecipient feeAmount)
  callExternal (c.ext.forceApprove tokenIn c.permit2 netAmountIn)
  let expiry ← checkedAdd deadline 1
  let expiry ← safeCast 48 expiry
  let amount ← safeCast 160 netAmountIn
  callExternal (c.ext.permit2Approve tokenIn c.universalRouter amount expiry)
  let input ← buildV4SwapInput c tokenIn tokenOut netAmountIn minAmountOut minHopPriceX36
    msg.sender true
  callExternal (c.ext.execute
    { value := 0, commands := [cmdV4Swap], inputs := [input], deadline })
  callExternal (c.ext.forceApprove tokenIn c.permit2 0)
  callExternal (c.ext.permit2Approve tokenIn c.universalRouter 0 0)
  let endInputBal ← view fun chain => c.ext.balanceOf chain tokenIn c.self
  revertIf (endInputBal ≠ startInputBal) (.residualInputBalance startInputBal endInputBal)

def executeSwap (msg : Msg) (tokenIn tokenOut : Address)
    (amountIn minAmountOut minHopPriceX36 deadline : ℕ) : ExecutorCall χ ℕ :=
  payable c.ext msg <| nonReentrant <| whenNotPaused do
    validateSwap c msg tokenIn tokenOut amountIn minAmountOut minHopPriceX36 deadline
    let feeAmount ← bpsFee c.feeBps amountIn
    let netAmountIn ← checkedSub amountIn feeAmount
    let startOutputBal ← view fun chain => c.ext.balanceOf chain tokenOut c.self
    let startRecipientOut ← view fun chain => c.ext.balanceOf chain tokenOut msg.sender
    (if tokenIn = c.USDC then
      executeUsdcSwap c msg tokenIn tokenOut amountIn netAmountIn feeAmount minAmountOut
        minHopPriceX36 deadline
    else
      executeEurcSwap c msg tokenIn tokenOut amountIn netAmountIn feeAmount minAmountOut
        minHopPriceX36 deadline)
    let endOutputBal ← view fun chain => c.ext.balanceOf chain tokenOut c.self
    revertIf (endOutputBal ≠ startOutputBal) (.residualOutputBalance startOutputBal endOutputBal)
    let endRecipientOut ← view fun chain => c.ext.balanceOf chain tokenOut msg.sender
    let amountOut ← checkedSub endRecipientOut startRecipientOut
    revertIf (amountOut < minAmountOut) (.slippageExceeded amountOut minAmountOut)
    emit (.wizPayMainnetSwapExecuted
      { caller := msg.sender, tokenIn, tokenOut, amountIn, feeAmount, netAmountIn, amountOut,
        minAmountOut })
    return amountOut

/-! ## Administration -/

def pause (msg : Msg) : ExecutorCall χ Unit :=
  nonPayable msg <| onlyOwner c.owner msg <| whenNotPaused do
    modify fun state => { state with paused := true }
    emit (.paused msg.sender)

def unpause (msg : Msg) : ExecutorCall χ Unit :=
  nonPayable msg <| onlyOwner c.owner msg <| whenPaused do
    modify fun state => { state with paused := false }
    emit (.unpaused msg.sender)

def transferOwnership (_newOwner : Address) : ExecutorCall χ Unit :=
  revert .ownershipLocked

def renounceOwnership : ExecutorCall χ Unit :=
  revert .ownershipLocked

def rescueTokens (msg : Msg) (token target : Address) (amount : ℕ) : ExecutorCall χ Unit :=
  nonPayable msg <| onlyOwner c.owner msg <| whenPaused do
    revertIf (target = 0) .recipientZeroAddress
    revertIf (amount = 0) .amountMustBeGreaterThanZero
    revertIf (token = c.USDC ∨ token = c.EURC) (.tokenRescueBlocked token)
    callExternal (c.ext.safeTransfer token target amount)
    emit (.emergencyTokenRescued token target amount)

/-! ## Transactions -/

inductive Transaction where
  | executeSwap (msg : Msg) (tokenIn tokenOut : Address)
      (amountIn minAmountOut minHopPriceX36 deadline : ℕ)
  | pause (msg : Msg)
  | unpause (msg : Msg)
  | rescueTokens (msg : Msg) (token target : Address) (amount : ℕ)
  | transferOwnership (newOwner : Address)
  | renounceOwnership

def execute : Transaction → ExecutorCall χ ℕ
  | .executeSwap msg tokenIn tokenOut amountIn minAmountOut minHopPriceX36 deadline =>
      executeSwap c msg tokenIn tokenOut amountIn minAmountOut minHopPriceX36 deadline
  | .pause msg => do pause c msg; return 0
  | .unpause msg => do unpause c msg; return 0
  | .rescueTokens msg token target amount => do rescueTokens c msg token target amount; return 0
  | .transferOwnership newOwner => do transferOwnership newOwner; return 0
  | .renounceOwnership => do renounceOwnership; return 0

end WizPay.SwapExecutor
