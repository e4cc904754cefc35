import Mathlib.Logic.Function.Basic
import WizPay.Evm.Contract

/-!
# The mainnet payroll contract

`WizPayPayrollMainnet` pays a batch of recipients either in the token the
employer sends or, through one aggregate swap, in the other one. Every
execution consumes the employer's reference id for good.
-/

namespace WizPay.PayrollMainnet

open Foundation Evm

/-! ## Errors, events and constants -/

inductive Error (Hash : Type) where
  | amountMustBeGreaterThanZero
  | amountInExceedsUint128 (amountIn : ℕ)
  | arrayLengthMismatch
  | batchTooLarge (provided maxAllowed : ℕ)
  | contractRecipientNotAllowed (recipient : Address)
  | deadlineExpired (deadline currentTimestamp : ℕ)
  | deadlineTooFar (deadline maximumDeadline : ℕ)
  | emptyBatch
  | feeExceedsMaximum (feeBps maxFeeBps : ℕ)
  | feeRecipientMustEqualOwner (feeRecipient owner : Address)
  | initialOwnerMustBeContract (owner : Address)
  | insufficientSwapOutput (actualOutput requiredOutput : ℕ)
  | invalidPoolFee (provided : ℕ)
  | invalidPoolTickSpacing (provided : ℤ)
  | minAmountOutExceedsUint128 (minAmountOut : ℕ)
  | minHopPriceX36Zero
  | minTotalOutBelowObligations (minTotalOut totalObligations : ℕ)
  | minTotalOutZero
  | nativeMsgValueMismatch (sent expected : ℕ)
  | nativeTransferFailed
  | ownershipLocked
  | ownableInvalidOwner (owner : Address)
  | recipientZeroAddress
  | referenceAlreadyUsed (referenceHash : Hash)
  | referenceIdRequired
  | referenceIdTooLong (provided maxAllowed : ℕ)
  | require (reason : String)
  | residualInputBalance (expectedBalance actualBalance : ℕ)
  | residualNativeBalance (expectedBalance actualBalance : ℕ)
  | residualOutputBalance (expectedBalance actualBalance : ℕ)
  | resourceHasNoCode (resource : Address)
  | routerPoolManagerMismatch (expectedPoolManager actualPoolManager : Address)
  | selfPaymentNotAllowed (employer : Address)
  | slippageExceeded (amountOut minAmountOut : ℕ)
  | tokenRescueBlocked (token : Address)
  | unsupportedPayrollPair (tokenIn tokenOut : Address)
  | wrongChain (actualChainId : ℕ)
deriving DecidableEq

structure PayrollPayment (Hash : Type) where
  referenceHash : Hash
  employer : Address
  tokenOut : Address
  recipient : Address
  paymentIndex : ℕ
  amountOut : ℕ
deriving DecidableEq

structure PayrollReferenceConsumed (Hash : Type) where
  referenceHash : Hash
  employer : Address
  tokenIn : Address
  tokenOut : Address
  batchDigest : Hash
  totalInput : ℕ
  totalOutput : ℕ
  totalFees : ℕ
  recipientCount : ℕ
  referenceId : ByteArray
deriving DecidableEq

structure PayrollBatchExecuted where
  employer : Address
  tokenIn : Address
  tokenOut : Address
  totalInput : ℕ
  totalOutput : ℕ
  totalFees : ℕ
  recipientCount : ℕ
  referenceId : ByteArray
deriving DecidableEq

structure PayrollSwapExecuted (Hash : Type) where
  referenceHash : Hash
  employer : Address
  tokenIn : Address
  tokenOut : Address
  grossInput : ℕ
  feeAmount : ℕ
  netAmountIn : ℕ
  amountOut : ℕ
  minTotalOut : ℕ
deriving DecidableEq

structure PayrollSurplusRefunded (Hash : Type) where
  referenceHash : Hash
  employer : Address
  tokenOut : Address
  amount : ℕ
deriving DecidableEq

inductive Event (Hash : Type) where
  | payrollPayment (args : PayrollPayment Hash)
  | payrollReferenceConsumed (args : PayrollReferenceConsumed Hash)
  | payrollBatchExecuted (args : PayrollBatchExecuted)
  | payrollSwapExecuted (args : PayrollSwapExecuted Hash)
  | payrollSurplusRefunded (args : PayrollSurplusRefunded Hash)
  | emergencyTokenRescued (token target : Address) (amount : ℕ)
  | paused (account : Address)
  | unpaused (account : Address)
deriving DecidableEq

def MAX_FEE_BPS : ℕ := 100
def MAX_BATCH_SIZE : ℕ := 50
def MAX_REFERENCE_ID_LENGTH : ℕ := 64
def MAX_DEADLINE_WINDOW : ℕ := 20 * 60
def ARC_NATIVE_USDC_SCALE : ℕ := 1000000000000
def ARC_MAINNET_CHAIN_ID : ℕ := 5042
def ARC_MAINNET_POOL_FEE : ℕ := 500
def ARC_MAINNET_POOL_TICK_SPACING : ℤ := 10

/-! ## Deployment -/

/-- The immutables of a deployed contract, with what its constructor checked. -/
structure Immutables where
  self : Address
  chainid : ℕ
  owner : Address
  USDC : Address
  EURC : Address
  universalRouter : Address
  permit2 : Address
  poolManager : Address
  poolFee : ℕ
  poolTickSpacing : ℤ
  feeRecipient : Address
  feeBps : ℕ
  feeRecipient_eq : feeRecipient = owner
  feeBps_le : feeBps ≤ MAX_FEE_BPS
  chainid_eq : chainid = ARC_MAINNET_CHAIN_ID
  owner_ne_self : owner ≠ self
  tokens_ne : USDC ≠ EURC

structure ConstructorArgs where
  initialOwner : Address
  initialFeeRecipient : Address
  initialFeeBps : ℕ
  usdc : Address
  eurc : Address
  universalRouter : Address
  permit2 : Address
  poolManager : Address
  fee : ℕ
  tickSpacing : ℤ

/-- What a constructor can read of the chain. Its own account has no code while
it runs. -/
structure DeploymentContext where
  self : Address
  chainid : ℕ
  codeLength : Address → ℕ
  reportedPoolManager : Address → Address
  self_codeless : codeLength self = 0

/-- The contract between calls: `usedReferenceHashes` and the inherited state. -/
abbrev State (Hash χ : Type) := ContractState (Hash → Bool) (Event Hash) χ

abbrev PayrollCall (Hash χ α : Type) := ContractCall (Error Hash) (Hash → Bool) (Event Hash) χ α

/-- Born paused, with no reference consumed. -/
def deployedState {Hash χ : Type} (owner : Address) (chain : χ) : State Hash χ where
  storage := fun _ => false
  paused := true
  entered := false
  events := [.paused owner]
  chain := chain

def constructor {Hash χ : Type} (args : ConstructorArgs) (context : DeploymentContext)
    (chain : χ) : Except (Error Hash) (Immutables × State Hash χ) := do
  if args.initialOwner = 0 then throw (.ownableInvalidOwner args.initialOwner)
  if hrecipient : args.initialFeeRecipient ≠ args.initialOwner then
    throw (.feeRecipientMustEqualOwner args.initialFeeRecipient args.initialOwner)
  else if hfee : args.initialFeeBps > MAX_FEE_BPS then
    throw (.feeExceedsMaximum args.initialFeeBps MAX_FEE_BPS)
  else if hchain : context.chainid ≠ ARC_MAINNET_CHAIN_ID then
    throw (.wrongChain context.chainid)
  else if howner : context.codeLength args.initialOwner = 0 then
    throw (.initialOwnerMustBeContract args.initialOwner)
  else if htokens : ¬ (args.usdc ≠ 0 ∧ args.eurc ≠ 0 ∧ args.usdc ≠ args.eurc) then
    throw (.require "bad tokens")
  else if ¬ (args.universalRouter ≠ 0 ∧ args.permit2 ≠ 0 ∧ args.poolManager ≠ 0) then
    throw (.require "bad infra")
  else if context.codeLength args.usdc = 0 then throw (.resourceHasNoCode args.usdc)
  else if context.codeLength args.eurc = 0 then throw (.resourceHasNoCode args.eurc)
  else if context.codeLength args.universalRouter = 0 then
    throw (.resourceHasNoCode args.universalRouter)
  else if context.codeLength args.permit2 = 0 then throw (.resourceHasNoCode args.permit2)
  else if context.codeLength args.poolManager = 0 then throw (.resourceHasNoCode args.poolManager)
  else if context.reportedPoolManager args.universalRouter ≠ args.poolManager then
    throw (.routerPoolManagerMismatch args.poolManager
      (context.reportedPoolManager args.universalRouter))
  else if args.fee ≠ ARC_MAINNET_POOL_FEE then throw (.invalidPoolFee args.fee)
  else if args.tickSpacing ≠ ARC_MAINNET_POOL_TICK_SPACING then
    throw (.invalidPoolTickSpacing args.tickSpacing)
  else
    return (
      { self := context.self
        chainid := context.chainid
        owner := args.initialOwner
        USDC := args.usdc
        EURC := args.eurc
        universalRouter := args.universalRouter
        permit2 := args.permit2
        poolManager := args.poolManager
        poolFee := args.fee
        poolTickSpacing := args.tickSpacing
        feeRecipient := args.initialFeeRecipient
        feeBps := args.initialFeeBps
        feeRecipient_eq := not_not.mp hrecipient
        feeBps_le := Nat.not_lt.mp hfee
        chainid_eq := not_not.mp hchain
        -- The owner has code and an account under construction has none.
        owner_ne_self := fun heq => howner (heq ▸ context.self_codeless)
        tokens_ne := (not_not.mp htokens).2.2 },
      deployedState args.initialOwner chain)

/-! ## Digests -/

structure BatchPreimage where
  chainid : ℕ
  self : Address
  employer : Address
  tokenIn : Address
  tokenOut : Address
  recipients : List Address
  amounts : List ℕ
  feeBps : ℕ
  feeRecipient : Address
  referenceId : ByteArray

structure CrossTokenPreimage where
  chainid : ℕ
  self : Address
  employer : Address
  tokenIn : Address
  tokenOut : Address
  recipients : List Address
  outputAmounts : List ℕ
  grossInput : ℕ
  minTotalOut : ℕ
  minHopPriceX36 : ℕ
  deadline : ℕ
  feeBps : ℕ
  feeRecipient : Address
  referenceId : ByteArray

/-- `keccak256(abi.encode(..))` on the three shapes the contract hashes. -/
structure Keccak (Hash : Type) where
  reference : ℕ × Address × Address × ByteArray → Hash
  batch : BatchPreimage → Hash
  crossToken : CrossTokenPreimage → Hash

/-- A deployed contract: its immutables, the hash function, and the code it
calls. -/
structure Contract (Hash χ : Type) extends Immutables where
  keccak : Keccak Hash
  ext : Externals (State Hash χ) χ

variable {Hash χ : Type} (c : Contract Hash χ)

def canonicalReferenceHash (employer : Address) (referenceId : ByteArray) : Hash :=
  c.keccak.reference (c.chainid, c.self, employer, referenceId)

def canonicalBatchDigest (employer tokenIn tokenOut : Address) (recipients : List Address)
    (amounts : List ℕ) (referenceId : ByteArray) : Hash :=
  c.keccak.batch {
    chainid := c.chainid, self := c.self, employer, tokenIn, tokenOut, recipients, amounts,
    feeBps := c.feeBps, feeRecipient := c.feeRecipient, referenceId }

def canonicalCrossTokenDigest (employer tokenIn tokenOut : Address) (recipients : List Address)
    (outputAmounts : List ℕ) (grossInput minTotalOut minHopPriceX36 deadline : ℕ)
    (referenceId : ByteArray) : Hash :=
  c.keccak.crossToken {
    chainid := c.chainid, self := c.self, employer, tokenIn, tokenOut, recipients,
    outputAmounts, grossInput, minTotalOut, minHopPriceX36, deadline,
    feeBps := c.feeBps, feeRecipient := c.feeRecipient, referenceId }

/-! ## Internal validation -/

def validateBatch (recipients : List Address) (amounts : List ℕ) (referenceId : ByteArray) :
    PayrollCall Hash χ Unit := do
  revertIf (recipients.length = 0) .emptyBatch
  revertIf (recipients.length ≠ amounts.length) .arrayLengthMismatch
  revertIf (recipients.length > MAX_BATCH_SIZE) (.batchTooLarge recipients.length MAX_BATCH_SIZE)
  revertIf (referenceId.size = 0) .referenceIdRequired
  revertIf (referenceId.size > MAX_REFERENCE_ID_LENGTH)
    (.referenceIdTooLong referenceId.size MAX_REFERENCE_ID_LENGTH)

def validateRecipient (msg : Msg) (recipient : Address) : PayrollCall Hash χ Unit := do
  revertIf (recipient = 0) .recipientZeroAddress
  revertIf (recipient = msg.sender) (.selfPaymentNotAllowed msg.sender)
  revertIf (recipient = c.self) (.contractRecipientNotAllowed recipient)

def fee (amount : ℕ) : PayrollCall Hash χ ℕ := bpsFee c.feeBps amount

/-! ## Same-token payroll -/

/-- The validation loop of `executeSameTokenPayroll`: running totals of the
obligations and of the fees. -/
def sumSameToken (msg : Msg) : List (Address × ℕ) → ℕ → ℕ → PayrollCall Hash χ (ℕ × ℕ)
  | [], totalObligations, totalFees => return (totalObligations, totalFees)
  | (recipient, amount) :: rest, totalObligations, totalFees => do
      validateRecipient c msg recipient
      revertIf (amount = 0) .amountMustBeGreaterThanZero
      let totalObligations ← checkedAdd totalObligations amount
      let feeAmount ← fee c amount
      let totalFees ← checkedAdd totalFees feeAmount
      sumSameToken msg rest totalObligations totalFees

/-- The payout loop shared by both routes, from payment index `i` on. -/
def payRecipients (msg : Msg) (referenceHash : Hash) (token : Address) :
    ℕ → List (Address × ℕ) → PayrollCall Hash χ Unit
  | _, [] => return ()
  | i, (recipient, amount) :: rest => do
      callExternal (c.ext.safeTransfer token recipient amount)
      emit (.payrollPayment ⟨referenceHash, msg.sender, token, recipient, i, amount⟩)
      payRecipients msg referenceHash token (i + 1) rest

/-- Refuses a consumed reference and consumes a fresh one. -/
def consumeReference [DecidableEq Hash] (msg : Msg) (referenceId : ByteArray) :
    PayrollCall Hash χ Hash := do
  let referenceHash := canonicalReferenceHash c msg.sender referenceId
  let state ← get
  revertIf (state.storage referenceHash = true) (.referenceAlreadyUsed referenceHash)
  modify fun state => { state with storage := Function.update state.storage referenceHash true }
  return referenceHash

/-- The token movements of the same-token route: pull the funding, pay the fee
recipient and every recipient, and end with the balance it started from. -/
def distributeSameToken (msg : Msg) (token : Address) (payments : List (Address × ℕ))
    (totalFunding totalFees : ℕ) (referenceHash : Hash) : PayrollCall Hash χ Unit := do
  let balanceBefore ← view fun chain => c.ext.balanceOf chain token c.self
  callExternal (c.ext.safeTransferFrom token msg.sender c.self totalFunding)
  let balanceAfterFunding ← view fun chain => c.ext.balanceOf chain token c.self
  let expectedBalance ← checkedAdd balanceBefore totalFunding
  revertIf (balanceAfterFunding ≠ expectedBalance)
    (.residualInputBalance expectedBalance balanceAfterFunding)
  Call.when (totalFees ≠ 0) do
    callExternal (c.ext.safeTransfer token c.feeRecipient totalFees)
  payRecipients c msg referenceHash token 0 payments
  let balanceAfter ← view fun chain => c.ext.balanceOf chain token c.self
  revertIf (balanceAfter ≠ balanceBefore) (.residualOutputBalance balanceBefore balanceAfter)

def executeSameTokenPayroll [DecidableEq Hash] (msg : Msg) (token : Address)
    (recipients : List Address) (amounts : List ℕ) (referenceId : ByteArray) :
    PayrollCall Hash χ ℕ :=
  payable c.ext msg <| nonReentrant <| whenNotPaused do
    revertIf (token ≠ c.USDC ∧ token ≠ c.EURC) (.unsupportedPayrollPair token token)
    revertIf (msg.value ≠ 0) (.nativeMsgValueMismatch msg.value 0)
    validateBatch recipients amounts referenceId
    let referenceHash ← consumeReference c msg referenceId
    let (totalObligations, totalFees) ← sumSameToken c msg (recipients.zip amounts) 0 0
    let totalFunding ← checkedAdd totalObligations totalFees
    distributeSameToken c msg token (recipients.zip amounts) totalFunding totalFees referenceHash
    let batchDigest :=
      canonicalBatchDigest c msg.sender token token recipients amounts referenceId
    emit (.payrollReferenceConsumed
      { referenceHash, employer := msg.sender, tokenIn := token, tokenOut := token, batchDigest,
        totalInput := totalFunding, totalOutput := totalObligations, totalFees,
        recipientCount := recipients.length, referenceId })
    emit (.payrollBatchExecuted
      { employer := msg.sender, tokenIn := token, tokenOut := token, totalInput := totalFunding,
        totalOutput := totalObligations, totalFees, recipientCount := recipients.length,
        referenceId })
    return totalObligations

/-! ## Cross-token payroll -/

def buildV4SwapInput (tokenIn tokenOut : Address) (netAmountIn minAmountOut minHopPriceX36 : ℕ)
    (recipient : Address) (payerIsUser : Bool) : PayrollCall Hash χ V4SwapInput :=
  v4SwapInput c.poolFee c.poolTickSpacing tokenIn tokenOut netAmountIn minAmountOut minHopPriceX36
    recipient payerIsUser

/-- The validation loop of `_validateCrossTokenDetails`. -/
def sumCrossToken (msg : Msg) : List (Address × ℕ) → ℕ → PayrollCall Hash χ ℕ
  | [], totalObligations => return totalObligations
  | (recipient, outputAmount) :: rest, totalObligations => do
      validateRecipient c msg recipient
      revertIf (outputAmount = 0) .amountMustBeGreaterThanZero
      let totalObligations ← checkedAdd totalObligations outputAmount
      sumCrossToken msg rest totalObligations

def validateCrossTokenDetails (msg : Msg) (recipients : List Address) (outputAmounts : List ℕ)
    (grossInput minTotalOut minHopPriceX36 deadline : ℕ) (referenceId : ByteArray) :
    PayrollCall Hash χ ℕ := do
  validateBatch recipients outputAmounts referenceId
  revertIf (grossInput = 0) .amountMustBeGreaterThanZero
  revertIf (grossInput > uint128Bound - 1) (.amountInExceedsUint128 grossInput)
  revertIf (minTotalOut = 0) .minTotalOutZero
  revertIf (minTotalOut > uint128Bound - 1) (.minAmountOutExceedsUint128 minTotalOut)
  revertIf (minHopPriceX36 = 0) .minHopPriceX36Zero
  revertIf (deadline < msg.timestamp) (.deadlineExpired deadline msg.timestamp)
  let maximumDeadline ← checkedAdd msg.timestamp MAX_DEADLINE_WINDOW
  revertIf (deadline > maximumDeadline) (.deadlineTooFar deadline maximumDeadline)
  let totalObligations ← sumCrossToken c msg (recipients.zip outputAmounts) 0
  revertIf (minTotalOut < totalObligations)
    (.minTotalOutBelowObligations minTotalOut totalObligations)
  return totalObligations

def settleCrossTokenOutputs (msg : Msg) (tokenOut : Address) (payments : List (Address × ℕ))
    (totalObligations startOutputBal minTotalOut : ℕ) (referenceHash : Hash) :
    PayrollCall Hash χ ℕ := do
  let outputBal ← view fun chain => c.ext.balanceOf chain tokenOut c.self
  let amountOut ← checkedSub outputBal startOutputBal
  revertIf (amountOut < totalObligations) (.insufficientSwapOutput amountOut totalObligations)
  revertIf (amountOut < minTotalOut) (.slippageExceeded amountOut minTotalOut)
  payRecipients c msg referenceHash tokenOut 0 payments
  let surplus ← checkedSub amountOut totalObligations
  Call.when (surplus ≠ 0) do
    callExternal (c.ext.safeTransfer tokenOut msg.sender surplus)
    emit (.payrollSurplusRefunded ⟨referenceHash, msg.sender, tokenOut, surplus⟩)
  let endOutputBal ← view fun chain => c.ext.balanceOf chain tokenOut c.self
  revertIf (endOutputBal ≠ startOutputBal) (.residualOutputBalance startOutputBal endOutputBal)
  return amountOut

def executeCrossUsdcInput (msg : Msg)
    (grossInput netAmountIn feeAmount minTotalOut minHopPriceX36 deadline : ℕ) :
    PayrollCall Hash χ Unit := do
  let expectedNative ← checkedMul grossInput ARC_NATIVE_USDC_SCALE
  revertIf (msg.value ≠ expectedNative) (.nativeMsgValueMismatch msg.value expectedNative)
  let nativeBal ← view fun chain => c.ext.nativeBalance chain c.self
  let priorNativeBal ← checkedSub nativeBal msg.value
  Call.when (feeAmount ≠ 0) do
    let feeNative ← checkedMul feeAmount ARC_NATIVE_USDC_SCALE
    Call.external (c.ext.callValue c.feeRecipient feeNative) (.custom .nativeTransferFailed)
  let netNative ← checkedMul netAmountIn ARC_NATIVE_USDC_SCALE
  let input ← buildV4SwapInput c c.USDC c.EURC netAmountIn minTotalOut minHopPriceX36 c.self false
  callExternal (c.ext.execute
    { value := netNative, commands := [cmdV4Swap], inputs := [input], deadline })
  let endNativeBal ← view fun chain => c.ext.nativeBalance chain c.self
  revertIf (endNativeBal ≠ priorNativeBal) (.residualNativeBalance priorNativeBal endNativeBal)

def executeCrossEurcInput (msg : Msg) (tokenIn : Address)
    (grossInput netAmountIn feeAmount minTotalOut minHopPriceX36 deadline : ℕ) :
    PayrollCall Hash χ Unit := do
  revertIf (msg.value ≠ 0) (.nativeMsgValueMismatch msg.value 0)
  let startInputBal ← view fun chain => c.ext.balanceOf chain tokenIn c.self
  callExternal (c.ext.safeTransferFrom tokenIn msg.sender c.self grossInput)
  let afterFunding ← view fun chain => c.ext.balanceOf chain tokenIn c.self
  let expectedBalance ← checkedAdd startInputBal grossInput
  revertIf (afterFunding ≠ expectedBalance) (.residualInputBalance expectedBalance afterFunding)
  Call.when (feeAmount ≠ 0) do
    callExternal (c.ext.safeTransfer tokenIn c.feeRecipient feeAmount)
  callExternal (c.ext.forceApprove tokenIn c.permit2 netAmountIn)
  let expiry ← checkedAdd deadline 1
  let expiry ← safeCast 48 expiry
  let amount ← safeCast 160 netAmountIn
  callExternal (c.ext.permit2Approve tokenIn c.universalRouter amount expiry)
  let input ← buildV4SwapInput c c.EURC c.USDC netAmountIn minTotalOut minHopPriceX36 c.self true
  callExternal (c.ext.execute
    { value := 0, commands := [cmdV4Swap], inputs := [input], deadline })
  callExternal (c.ext.forceApprove tokenIn c.permit2 0)
  callExternal (c.ext.permit2Approve tokenIn c.universalRouter 0 0)

/-- The swap leg and the settlement, between the two input balance readings. -/
def swapAndSettle (msg : Msg) (tokenIn tokenOut : Address) (payments : List (Address × ℕ))
    (grossInput netAmountIn feeAmount minTotalOut minHopPriceX36 deadline totalObligations : ℕ)
    (referenceHash : Hash) : PayrollCall Hash χ ℕ := do
  let startOutputBal ← view fun chain => c.ext.balanceOf chain tokenOut c.self
  if tokenIn = c.USDC ∧ tokenOut = c.EURC then
    executeCrossUsdcInput c msg grossInput netAmountIn feeAmount minTotalOut minHopPriceX36
      deadline
    settleCrossTokenOutputs c msg tokenOut payments totalObligations startOutputBal minTotalOut
      referenceHash
  else
    let startInputBal ← view fun chain => c.ext.balanceOf chain tokenIn c.self
    executeCrossEurcInput c msg tokenIn grossInput netAmountIn feeAmount minTotalOut
      minHopPriceX36 deadline
    let amountOut ← settleCrossTokenOutputs c msg tokenOut payments totalObligations
      startOutputBal minTotalOut referenceHash
    let finalInputBal ← view fun chain => c.ext.balanceOf chain tokenIn c.self
    revertIf (finalInputBal ≠ startInputBal) (.residualInputBalance startInputBal finalInputBal)
    return amountOut

def executeCrossTokenPayroll [DecidableEq Hash] (msg : Msg) (tokenIn tokenOut : Address)
    (recipients : List Address) (outputAmounts : List ℕ)
    (grossInput minTotalOut minHopPriceX36 deadline : ℕ) (referenceId : ByteArray) :
    PayrollCall Hash χ ℕ :=
  payable c.ext msg <| nonReentrant <| whenNotPaused do
    let usdcIn : Bool := tokenIn = c.USDC ∧ tokenOut = c.EURC
    let eurcIn : Bool := tokenIn = c.EURC ∧ tokenOut = c.USDC
    revertIf (¬ usdcIn ∧ ¬ eurcIn) (.unsupportedPayrollPair tokenIn tokenOut)
    let totalObligations ← validateCrossTokenDetails c msg recipients outputAmounts grossInput
      minTotalOut minHopPriceX36 deadline referenceId
    let referenceHash ← consumeReference c msg referenceId
    let feeAmount ← fee c grossInput
    let netAmountIn ← checkedSub grossInput feeAmount
    let amountOut ← swapAndSettle c msg tokenIn tokenOut (recipients.zip outputAmounts)
      grossInput netAmountIn feeAmount minTotalOut minHopPriceX36 deadline totalObligations
      referenceHash
    emit (.payrollSwapExecuted
      { referenceHash, employer := msg.sender, tokenIn, tokenOut, grossInput, feeAmount,
        netAmountIn, amountOut, minTotalOut })
    let batchDigest := canonicalCrossTokenDigest c msg.sender tokenIn tokenOut recipients
      outputAmounts grossInput minTotalOut minHopPriceX36 deadline referenceId
    emit (.payrollReferenceConsumed
      { referenceHash, employer := msg.sender, tokenIn, tokenOut, batchDigest,
        totalInput := grossInput, totalOutput := totalObligations, totalFees := feeAmount,
        recipientCount := recipients.length, referenceId })
    emit (.payrollBatchExecuted
      { employer := msg.sender, tokenIn, tokenOut, totalInput := grossInput,
        totalOutput := totalObligations, totalFees := feeAmount,
        recipientCount := recipients.length, referenceId })
    return amountOut

/-! ## Administration -/

def pause (msg : Msg) : PayrollCall Hash χ Unit :=
  nonPayable msg <| onlyOwner c.owner msg <| whenNotPaused do
    modify fun state => { state with paused := true }
    emit (.paused msg.sender)

def unpause (msg : Msg) : PayrollCall Hash χ Unit :=
  nonPayable msg <| onlyOwner c.owner msg <| whenPaused do
    modify fun state => { state with paused := false }
    emit (.unpaused msg.sender)

def transferOwnership (_newOwner : Address) : PayrollCall Hash χ Unit :=
  revert .ownershipLocked

def renounceOwnership : PayrollCall Hash χ Unit :=
  revert .ownershipLocked

def rescueTokens (msg : Msg) (token target : Address) (amount : ℕ) : PayrollCall Hash χ Unit :=
  nonPayable msg <| onlyOwner c.owner msg <| whenPaused do
    revertIf (target = 0) .recipientZeroAddress
    revertIf (amount = 0) .amountMustBeGreaterThanZero
    revertIf (token = c.USDC ∨ token = c.EURC) (.tokenRescueBlocked token)
    callExternal (c.ext.safeTransfer token target amount)
    emit (.emergencyTokenRescued token target amount)

/-! ## Transactions -/

inductive Transaction where
  | executeSameTokenPayroll (msg : Msg) (token : Address) (recipients : List Address)
      (amounts : List ℕ) (referenceId : ByteArray)
  | executeCrossTokenPayroll (msg : Msg) (tokenIn tokenOut : Address) (recipients : List Address)
      (outputAmounts : List ℕ) (grossInput minTotalOut minHopPriceX36 deadline : ℕ)
      (referenceId : ByteArray)
  | pause (msg : Msg)
  | unpause (msg : Msg)
  | rescueTokens (msg : Msg) (token target : Address) (amount : ℕ)
  | transferOwnership (newOwner : Address)
  | renounceOwnership

/-- The call a transaction makes; the returned total is dropped where the
function has none. -/
def execute [DecidableEq Hash] : Transaction → PayrollCall Hash χ ℕ
  | .executeSameTokenPayroll msg token recipients amounts referenceId =>
      executeSameTokenPayroll c msg token recipients amounts referenceId
  | .executeCrossTokenPayroll msg tokenIn tokenOut recipients outputAmounts grossInput
      minTotalOut minHopPriceX36 deadline referenceId =>
      executeCrossTokenPayroll c msg tokenIn tokenOut recipients outputAmounts grossInput
        minTotalOut minHopPriceX36 deadline referenceId
  | .pause msg => do pause c msg; return 0
  | .unpause msg => do unpause c msg; return 0
  | .rescueTokens msg token target amount => do rescueTokens c msg token target amount; return 0
  | .transferOwnership newOwner => do transferOwnership newOwner; return 0
  | .renounceOwnership => do renounceOwnership; return 0

end WizPay.PayrollMainnet
