import Mathlib.Logic.Function.Basic
import WizPay.Evm.Contract

/-!
# The direct-USDC payroll contract

`WizPayMainnetV2` pays a batch in canonical USDC: the payer funds the gross amounts, the
collector gets the fees and the recipients the rest. A view function quotes the same batch
beforehand. Fee and collector change only while the contract is paused.
-/

namespace WizPay.MainnetV2

open Foundation Evm

inductive Error (Hash : Type) where
  | canonicalUsdcZeroAddress
  | canonicalUsdcHasNoCode (canonicalUsdc : Address)
  | initialOwnerHasNoCode (initialOwner : Address)
  | feeCollectorZeroAddress
  | feeExceedsMaximum (feeBps maxFeeBps : ℕ)
  | tokenMustBeCanonicalUsdc (token : Address)
  | emptyBatch
  | arrayLengthMismatch
  | batchTooLarge (provided maxAllowed : ℕ)
  | referenceIdRequired
  | referenceIdTooLong (provided maxAllowed : ℕ)
  | referenceAlreadyUsed (referenceHash : Hash)
  | recipientZeroAddress
  | selfPaymentNotAllowed
  | amountMustBeGreaterThanZero
  | directTransferBelowMinimum (amountOut minAmountOut : ℕ)
  | insufficientTokenBalance (balance amount : ℕ)
  | unexpectedUsdcBalance (expected actual : ℕ)
  | ownableInvalidOwner (owner : Address)
deriving DecidableEq

structure DirectUsdcPayment (Hash : Type) where
  referenceHash : Hash
  payer : Address
  recipient : Address
  paymentIndex : ℕ
  grossAmount : ℕ
  netAmount : ℕ
  feeAmount : ℕ
deriving DecidableEq

structure PayrollReferenceConsumed (Hash : Type) where
  referenceHash : Hash
  payer : Address
  token : Address
  batchDigest : Hash
  totalAmount : ℕ
  totalOut : ℕ
  totalFees : ℕ
  recipientCount : ℕ
  referenceId : ByteArray
deriving DecidableEq

structure BatchPaymentRouted where
  sender : Address
  tokenIn : Address
  tokenOut : Address
  totalAmountIn : ℕ
  totalAmountOut : ℕ
  totalFees : ℕ
  recipientCount : ℕ
  referenceId : ByteArray
deriving DecidableEq

inductive Event (Hash : Type) where
  | directUsdcPayment (args : DirectUsdcPayment Hash)
  | payrollReferenceConsumed (args : PayrollReferenceConsumed Hash)
  | batchPaymentRouted (args : BatchPaymentRouted)
  | feeUpdated (oldFeeBps newFeeBps : ℕ)
  | feeCollectorUpdated (oldCollector newCollector : Address)
  | feeCollected (token : Address) (amount : ℕ)
  | emergencyWithdraw (token : Address) (amount : ℕ) (target : Address)
  | ownershipTransferred (previousOwner newOwner : Address)
  | paused (account : Address)
  | unpaused (account : Address)
deriving DecidableEq

def MAX_FEE_BPS : ℕ := 100
def MAX_BATCH_SIZE : ℕ := 50
def MAX_REFERENCE_ID_LENGTH : ℕ := 64

/-! ## Deployment -/

/-- What governance sets, and the consumed references. -/
structure Storage (Hash : Type) where
  owner : Address
  feeBps : ℕ
  feeCollector : Address
  usedReferenceHashes : Hash → Bool

abbrev State (Hash χ : Type) := ContractState (Storage Hash) (Event Hash) χ

abbrev V2Call (Hash χ α : Type) := ContractCall (Error Hash) (Storage Hash) (Event Hash) χ α

structure BatchPreimage where
  chainid : ℕ
  self : Address
  payer : Address
  canonicalUsdc : Address
  recipients : List Address
  amounts : List ℕ

/-- `keccak256(abi.encode(..))` on the two shapes the contract hashes. -/
structure Keccak (Hash : Type) where
  reference : ℕ × Address × Address × Address × ByteArray → Hash
  batch : BatchPreimage → Hash

/-- A deployed contract: its immutables, the hash function, and the token it calls. -/
structure Contract (Hash χ : Type) where
  self : Address
  chainid : ℕ
  canonicalUsdc : Address
  keccak : Keccak Hash
  ext : Externals (State Hash χ) χ

/-- The constructor: the storage it leaves, for code lengths as it reads them. -/
def constructor {Hash : Type} (codeLength : Address → ℕ)
    (canonicalUsdc initialOwner feeCollector : Address) (feeBps : ℕ) :
    Except (Error Hash) (Storage Hash) := do
  if initialOwner = 0 then throw (.ownableInvalidOwner 0)
  if canonicalUsdc = 0 then throw .canonicalUsdcZeroAddress
  if codeLength canonicalUsdc = 0 then throw (.canonicalUsdcHasNoCode canonicalUsdc)
  if codeLength initialOwner = 0 then throw (.initialOwnerHasNoCode initialOwner)
  if feeCollector = 0 then throw .feeCollectorZeroAddress
  if feeBps > MAX_FEE_BPS then throw (.feeExceedsMaximum feeBps MAX_FEE_BPS)
  return { owner := initialOwner, feeBps, feeCollector, usedReferenceHashes := fun _ => false }

variable {Hash χ : Type} (c : Contract Hash χ)

def canonicalReferenceHash (payer : Address) (referenceId : ByteArray) : Hash :=
  c.keccak.reference (c.chainid, c.self, payer, c.canonicalUsdc, referenceId)

def canonicalBatchDigest (payer : Address) (recipients : List Address) (amounts : List ℕ) : Hash :=
  c.keccak.batch {
    chainid := c.chainid, self := c.self, payer, canonicalUsdc := c.canonicalUsdc, recipients,
    amounts }

/-- `_fee`, at the fee in storage. -/
def fee (amount : ℕ) : V2Call Hash χ ℕ := do
  let state ← get
  bpsFee state.storage.feeBps amount

/-! ## The quote -/

/-- The loop of `getBatchEstimatedOutputs`, with the outputs and totals so far. -/
def estimate : List (Address × ℕ) → List ℕ → ℕ → ℕ → V2Call Hash χ (List ℕ × ℕ × ℕ)
  | [], estimatedAmountsOut, totalEstimatedOut, totalFees =>
      return (estimatedAmountsOut, totalEstimatedOut, totalFees)
  | (tokenOut, amountIn) :: rest, estimatedAmountsOut, totalEstimatedOut, totalFees => do
      revertIf (tokenOut ≠ c.canonicalUsdc) (.tokenMustBeCanonicalUsdc tokenOut)
      revertIf (amountIn = 0) .amountMustBeGreaterThanZero
      let feeAmount ← fee amountIn
      let net ← checkedSub amountIn feeAmount
      let totalEstimatedOut ← checkedAdd totalEstimatedOut net
      let totalFees ← checkedAdd totalFees feeAmount
      estimate rest (estimatedAmountsOut ++ [net]) totalEstimatedOut totalFees

def getBatchEstimatedOutputs (tokenIn : Address) (tokenOuts : List Address) (amountsIn : List ℕ) :
    V2Call Hash χ (List ℕ × ℕ × ℕ) := do
  revertIf (tokenIn ≠ c.canonicalUsdc) (.tokenMustBeCanonicalUsdc tokenIn)
  revertIf (amountsIn.length = 0) .emptyBatch
  revertIf (amountsIn.length ≠ tokenOuts.length) .arrayLengthMismatch
  revertIf (amountsIn.length > MAX_BATCH_SIZE) (.batchTooLarge amountsIn.length MAX_BATCH_SIZE)
  estimate c (tokenOuts.zip amountsIn) [] 0 0

/-! ## The payment -/

/-- One line of a batch. -/
structure Payment where
  tokenOut : Address
  recipient : Address
  amountIn : ℕ
  minAmountOut : ℕ
deriving DecidableEq

/-- The lines of a batch, where the four arrays have one length. -/
def payments : List Address → List Address → List ℕ → List ℕ → List Payment
  | tokenOut :: tokenOuts, recipient :: recipients, amountIn :: amountsIn,
      minAmountOut :: minAmountsOut =>
      ⟨tokenOut, recipient, amountIn, minAmountOut⟩ ::
        payments tokenOuts recipients amountsIn minAmountsOut
  | _, _, _, _ => []

def validate (tokenOuts recipients : List Address) (amounts minimums : List ℕ)
    (referenceId : ByteArray) : V2Call Hash χ Unit := do
  revertIf (recipients.length = 0) .emptyBatch
  revertIf (recipients.length ≠ tokenOuts.length ∨ recipients.length ≠ amounts.length ∨
    recipients.length ≠ minimums.length) .arrayLengthMismatch
  revertIf (recipients.length > MAX_BATCH_SIZE) (.batchTooLarge recipients.length MAX_BATCH_SIZE)
  revertIf (referenceId.size = 0) .referenceIdRequired
  revertIf (referenceId.size > MAX_REFERENCE_ID_LENGTH)
    (.referenceIdTooLong referenceId.size MAX_REFERENCE_ID_LENGTH)

/-- The loop that checks the batch and adds up the gross amounts. -/
def sumAmounts (msg : Msg) : List Payment → ℕ → V2Call Hash χ ℕ
  | [], totalAmount => return totalAmount
  | payment :: rest, totalAmount => do
      revertIf (payment.tokenOut ≠ c.canonicalUsdc) (.tokenMustBeCanonicalUsdc payment.tokenOut)
      revertIf (payment.recipient = 0) .recipientZeroAddress
      revertIf (payment.recipient = msg.sender) .selfPaymentNotAllowed
      revertIf (payment.amountIn = 0) .amountMustBeGreaterThanZero
      let totalAmount ← checkedAdd totalAmount payment.amountIn
      sumAmounts msg rest totalAmount

/-- The loop that pays fees and recipients, from payment index `i` on. -/
def payAll (msg : Msg) (referenceHash : Hash) : ℕ → List Payment → ℕ → ℕ → V2Call Hash χ (ℕ × ℕ)
  | _, [], totalFees, totalOut => return (totalFees, totalOut)
  | i, payment :: rest, totalFees, totalOut => do
      let feeAmount ← fee payment.amountIn
      let net ← checkedSub payment.amountIn feeAmount
      revertIf (net < payment.minAmountOut) (.directTransferBelowMinimum net payment.minAmountOut)
      Call.when (feeAmount ≠ 0) do
        let state ← get
        callExternal (c.ext.safeTransfer c.canonicalUsdc state.storage.feeCollector feeAmount)
        emit (.feeCollected c.canonicalUsdc feeAmount)
      callExternal (c.ext.safeTransfer c.canonicalUsdc payment.recipient net)
      let totalFees ← checkedAdd totalFees feeAmount
      let totalOut ← checkedAdd totalOut net
      emit (.directUsdcPayment
        ⟨referenceHash, msg.sender, payment.recipient, i, payment.amountIn, net, feeAmount⟩)
      payAll msg referenceHash (i + 1) rest totalFees totalOut

def consumeReference [DecidableEq Hash] (msg : Msg) (referenceId : ByteArray) :
    V2Call Hash χ Hash := do
  let referenceHash := canonicalReferenceHash c msg.sender referenceId
  let state ← get
  revertIf (state.storage.usedReferenceHashes referenceHash = true)
    (.referenceAlreadyUsed referenceHash)
  modify fun state => { state with
    storage := { state.storage with
      usedReferenceHashes := Function.update state.storage.usedReferenceHashes referenceHash true } }
  return referenceHash

/-- The token movements, between the two readings of the contract's own balance. -/
def fundAndPay (msg : Msg) (batch : List Payment) (totalAmount : ℕ) (referenceHash : Hash) :
    V2Call Hash χ (ℕ × ℕ) := do
  let balanceBefore ← view fun chain => c.ext.balanceOf chain c.canonicalUsdc c.self
  callExternal (c.ext.safeTransferFrom c.canonicalUsdc msg.sender c.self totalAmount)
  let balanceAfterFunding ← view fun chain => c.ext.balanceOf chain c.canonicalUsdc c.self
  let expectedAfterFunding ← checkedAdd balanceBefore totalAmount
  revertIf (balanceAfterFunding ≠ expectedAfterFunding)
    (.unexpectedUsdcBalance expectedAfterFunding balanceAfterFunding)
  let totals ← payAll c msg referenceHash 0 batch 0 0
  let balanceAfterPayment ← view fun chain => c.ext.balanceOf chain c.canonicalUsdc c.self
  revertIf (balanceAfterPayment ≠ balanceBefore)
    (.unexpectedUsdcBalance balanceBefore balanceAfterPayment)
  return totals

def batchRouteAndPay [DecidableEq Hash] (msg : Msg) (tokenIn : Address)
    (tokenOuts recipients : List Address) (amountsIn minAmountsOut : List ℕ)
    (referenceId : ByteArray) : V2Call Hash χ ℕ :=
  nonPayable msg <| nonReentrant <| whenNotPaused do
    revertIf (tokenIn ≠ c.canonicalUsdc) (.tokenMustBeCanonicalUsdc tokenIn)
    validate tokenOuts recipients amountsIn minAmountsOut referenceId
    let referenceHash ← consumeReference c msg referenceId
    let batch := payments tokenOuts recipients amountsIn minAmountsOut
    let totalAmount ← sumAmounts c msg batch 0
    let (totalFees, totalOut) ← fundAndPay c msg batch totalAmount referenceHash
    emit (.payrollReferenceConsumed {
      referenceHash, payer := msg.sender, token := c.canonicalUsdc
      batchDigest := canonicalBatchDigest c msg.sender recipients amountsIn
      totalAmount, totalOut, totalFees, recipientCount := recipients.length, referenceId })
    emit (.batchPaymentRouted {
      sender := msg.sender, tokenIn := c.canonicalUsdc, tokenOut := c.canonicalUsdc
      totalAmountIn := totalAmount, totalAmountOut := totalOut, totalFees
      recipientCount := recipients.length, referenceId })
    return totalOut

/-! ## Governance -/

/-- `onlyOwner`, for the owner in storage. -/
def byOwner {α : Type} (msg : Msg) (body : V2Call Hash χ α) : V2Call Hash χ α := do
  let state ← get
  onlyOwner state.storage.owner msg body

def setStorage (change : Storage Hash → Storage Hash) : V2Call Hash χ PUnit :=
  modify fun state => { state with storage := change state.storage }

def updateFee (msg : Msg) (nextFeeBps : ℕ) : V2Call Hash χ Unit :=
  nonPayable msg <| byOwner msg <| whenPaused do
    revertIf (nextFeeBps > MAX_FEE_BPS) (.feeExceedsMaximum nextFeeBps MAX_FEE_BPS)
    let state ← get
    setStorage fun storage => { storage with feeBps := nextFeeBps }
    emit (.feeUpdated state.storage.feeBps nextFeeBps)

def updateFeeCollector (msg : Msg) (nextCollector : Address) : V2Call Hash χ Unit :=
  nonPayable msg <| byOwner msg <| whenPaused do
    revertIf (nextCollector = 0) .feeCollectorZeroAddress
    let state ← get
    setStorage fun storage => { storage with feeCollector := nextCollector }
    emit (.feeCollectorUpdated state.storage.feeCollector nextCollector)

def emergencyWithdraw (msg : Msg) (amount : ℕ) : V2Call Hash χ Unit :=
  nonPayable msg <| byOwner msg <| whenPaused <| nonReentrant do
    revertIf (amount = 0) .amountMustBeGreaterThanZero
    let balance ← view fun chain => c.ext.balanceOf chain c.canonicalUsdc c.self
    revertIf (balance < amount) (.insufficientTokenBalance balance amount)
    let state ← get
    callExternal (c.ext.safeTransfer c.canonicalUsdc state.storage.owner amount)
    let state ← get
    emit (.emergencyWithdraw c.canonicalUsdc amount state.storage.owner)

def pause (msg : Msg) : V2Call Hash χ Unit :=
  nonPayable msg <| byOwner msg <| whenNotPaused do
    modify fun state => { state with paused := true }
    emit (.paused msg.sender)

def unpause (msg : Msg) : V2Call Hash χ Unit :=
  nonPayable msg <| byOwner msg <| whenPaused do
    modify fun state => { state with paused := false }
    emit (.unpaused msg.sender)

/-- `_transferOwnership`. -/
def setOwner (newOwner : Address) : V2Call Hash χ Unit := do
  let state ← get
  setStorage fun storage => { storage with owner := newOwner }
  emit (.ownershipTransferred state.storage.owner newOwner)

def transferOwnership (msg : Msg) (newOwner : Address) : V2Call Hash χ Unit :=
  nonPayable msg <| byOwner msg do
    revertIf (newOwner = 0) (.ownableInvalidOwner 0)
    setOwner newOwner

def renounceOwnership (msg : Msg) : V2Call Hash χ Unit :=
  nonPayable msg <| byOwner msg <| setOwner 0

/-! ## Transactions -/

inductive Transaction where
  | batchRouteAndPay (msg : Msg) (tokenIn : Address) (tokenOuts recipients : List Address)
      (amountsIn minAmountsOut : List ℕ) (referenceId : ByteArray)
  | updateFee (msg : Msg) (nextFeeBps : ℕ)
  | updateFeeCollector (msg : Msg) (nextCollector : Address)
  | emergencyWithdraw (msg : Msg) (amount : ℕ)
  | pause (msg : Msg)
  | unpause (msg : Msg)
  | transferOwnership (msg : Msg) (newOwner : Address)
  | renounceOwnership (msg : Msg)

def execute [DecidableEq Hash] : Transaction → V2Call Hash χ Unit
  | .batchRouteAndPay msg tokenIn tokenOuts recipients amountsIn minAmountsOut referenceId =>
      discard <|
        batchRouteAndPay c msg tokenIn tokenOuts recipients amountsIn minAmountsOut referenceId
  | .updateFee msg nextFeeBps => updateFee msg nextFeeBps
  | .updateFeeCollector msg nextCollector => updateFeeCollector msg nextCollector
  | .emergencyWithdraw msg amount => emergencyWithdraw c msg amount
  | .pause msg => pause msg
  | .unpause msg => unpause msg
  | .transferOwnership msg newOwner => transferOwnership msg newOwner
  | .renounceOwnership msg => renounceOwnership msg

end WizPay.MainnetV2
