import WizPay.Backend.Number
import WizPay.Intents.Completion
import WizPay.Invoices.Store

/-!
# The invoice payment verifier

One transfer of the receipt has to pay the merchant the exact amount of the
invoice token, from another account. Whatever the node cannot answer yet leaves
the payment open, so a call of the verifier always ends in a verdict.
-/

namespace WizPay.Invoices

open Foundation Backend Intents

abbrev NodeService (α : Type) := Service nodeSignature α

structure VerifyInvoiceTransferInput where
  amountUnits : String
  merchantWalletAddress : String
  tokenAddress : String
  transactionHash : String

structure VerifiedInvoiceTransfer where
  blockNumber : ℕ
  confirmations : ℕ
  payerAddress : String
  transactionHash : String
deriving DecidableEq

structure InvoiceVerificationError where
  code : String
  message : String
  retryable : Bool
deriving DecidableEq

abbrev Verdict := Except InvoiceVerificationError VerifiedInvoiceTransfer

def reject {α : Type} (code message : String) : Except InvoiceVerificationError α :=
  .error ⟨code, message, false⟩

def retry {α : Type} (code message : String) : Except InvoiceVerificationError α :=
  .error ⟨code, message, true⟩

def rejectIf (condition : Prop) [Decidable condition] (code message : String) :
    Except InvoiceVerificationError Unit :=
  if condition then reject code message else pure ()

/-- The last clause of the `catch`: any other error is retried. -/
def retryAfter {α : Type} : NodeFailure → Except InvoiceVerificationError α
  | .transactionReceiptNotFound =>
      retry "INVOICE_RECEIPT_PENDING" "The transaction receipt is not available yet."
  | .transactionNotFound =>
      retry "INVOICE_TRANSACTION_PENDING" "The transaction is not available on Arc Mainnet yet."
  | .other =>
      retry "INVOICE_RPC_UNAVAILABLE" ("Arc Mainnet verification is temporarily unavailable. " ++
        "Retry this same transaction hash.")

def TRANSFER_TOPIC : String :=
  "0xddf252ad1be2c89b69c2b068fc378daa952ba7f163c4a11628f55a4df523b3ef"

/-- `0xfffffffffffffffffffffffffffffffffffffffe`, whose logs mirror native value. -/
def ARC_NATIVE_ACCOUNTING_MIRROR : Evm.Address := BitVec.ofNat 160 (2 ^ 160 - 2)

variable (runtime : Runtime) (routing : PaymentRouting)

/-! ## The transfer of a receipt -/

/-- The logs of ERC-20 transfers, without the mirrored native ones. -/
def canonicalLogs (receipt : TransactionReceipt) : List ReceiptLog :=
  receipt.logs.filter fun log =>
    log.address ≠ ARC_NATIVE_ACCOUNTING_MIRROR &&
      log.topic.any fun topic => runtime.toLowerCase topic = TRANSFER_TOPIC

/-- The checks on the transaction and its receipt, up to the one transfer that pays. -/
def matchTransfer (input : VerifyInvoiceTransferInput) (transaction : Transaction)
    (receipt : TransactionReceipt) : Except InvoiceVerificationError Transfer := do
  rejectIf (receipt.succeeded = false)
    "INVOICE_FAILED_RECEIPT" "The payment transaction reverted."
  rejectIf (transaction.chainId ≠ routing.chainId)
    "INVOICE_WRONG_CHAIN" "The transaction is not a Arc Mainnet transaction."
  rejectIf (transaction.value ≠ 0) "INVOICE_NATIVE_VALUE_NOT_ZERO"
    "The token payment transaction must not include native value."
  let canonical := canonicalLogs runtime receipt
  let tokenLogs := canonical.filter fun log => addressOf input.tokenAddress = some log.address
  rejectIf (tokenLogs = [])
    (if canonical ≠ [] then "INVOICE_WRONG_TOKEN" else "INVOICE_TRANSFER_EVENT_MISSING")
    (if canonical ≠ [] then "The canonical Transfer event was emitted by the wrong token contract."
      else "The receipt is missing a canonical ERC-20 Transfer event.")
  let transfers := tokenLogs.filterMap ReceiptLog.transfer
  rejectIf (transfers = []) "INVOICE_TRANSFER_EVENT_MISSING"
    "The invoice token logs do not contain a valid canonical Transfer event."
  let recipientMatches := transfers.filter fun transfer =>
    addressOf input.merchantWalletAddress = some transfer.target
  rejectIf (recipientMatches = [])
    "INVOICE_WRONG_RECIPIENT" "The transfer recipient does not match this invoice."
  let amountMatches := recipientMatches.filter fun transfer =>
    transfer.amount = bigInt input.amountUnits
  rejectIf (amountMatches = [])
    "INVOICE_WRONG_AMOUNT" "The transfer amount does not exactly match this invoice."
  let externalMatches := amountMatches.filter fun transfer =>
    addressOf input.merchantWalletAddress ≠ some transfer.source
  match externalMatches with
  | [] =>
      reject "INVOICE_SELF_PAYMENT"
        "This invoice cannot be paid from the merchant's receiving wallet."
  | [transfer] => return transfer
  | _ =>
      reject "INVOICE_TRANSFER_EVENT_MISSING"
        ("The receipt contains multiple matching invoice transfers and cannot be accepted " ++
          "unambiguously.")

/-! ## Asking the node -/

def getChainId : NodeService (Except NodeFailure ℕ) :=
  Service.perform (S := nodeSignature) .getChainId

def getTransaction (hash : String) : NodeService (Except NodeFailure (Option Transaction)) :=
  Service.perform (S := nodeSignature) (.getTransaction hash)

def getTransactionReceipt (hash : String) :
    NodeService (Except NodeFailure (Option TransactionReceipt)) :=
  Service.perform (S := nodeSignature) (.getTransactionReceipt hash)

def getBlockNumber : NodeService (Except NodeFailure ℕ) :=
  Service.perform (S := nodeSignature) .getBlockNumber

/-- The verdict on a matched transfer at the current block; a block behind that
of the receipt confirms nothing. -/
def confirmTransfer (confirmationsRequired : ℕ) (transactionHash : String) (transfer : Transfer)
    (receiptBlock currentBlock : ℕ) : Verdict :=
  let confirmations :=
    if receiptBlock ≤ currentBlock then toDouble (currentBlock - receiptBlock + 1) else 0
  if confirmations < confirmationsRequired then
    retry "INVOICE_CONFIRMATIONS_PENDING" ("Payment needs " ++ toString confirmationsRequired ++
      " Arc Mainnet confirmations.")
  else .ok {
    blockNumber := receiptBlock
    confirmations
    payerAddress := checksumAddress runtime (addressText transfer.source)
    transactionHash }

/-- Both questions of the `Promise.all` are asked before either answer counts. -/
def verify (confirmationsRequired : ℕ) (input : VerifyInvoiceTransferInput) :
    NodeService Verdict := do
  match ← getChainId with
  | .error failure => return retryAfter failure
  | .ok configuredChainId =>
      if configuredChainId ≠ routing.chainId then
        return reject "INVOICE_WRONG_CHAIN"
          "The verification provider is not connected to Arc Mainnet."
      else
        let transaction ← getTransaction input.transactionHash
        let receipt ← getTransactionReceipt input.transactionHash
        match transaction, receipt with
        | .error failure, _ => return retryAfter failure
        | .ok _, .error failure => return retryAfter failure
        | .ok none, .ok _ =>
            return retry "INVOICE_TRANSACTION_PENDING"
              "The transaction is not available on Arc Mainnet yet."
        | .ok (some _), .ok none =>
            return retry "INVOICE_RECEIPT_PENDING" "The transaction receipt is not available yet."
        | .ok (some transaction), .ok (some receipt) =>
            match matchTransfer runtime routing input transaction receipt with
            | .error error => return .error error
            | .ok transfer =>
                match ← getBlockNumber with
                | .error failure => return retryAfter failure
                | .ok currentBlock =>
                    return confirmTransfer runtime confirmationsRequired input.transactionHash
                      transfer receipt.blockNumber currentBlock

/-! ## What an accepted payment is -/

/-- The payer of an accepted payment is not the merchant. -/
def ExternalPayer (merchant : String) (verdict : Verdict) : Prop :=
  ∀ verified, verdict = .ok verified → ¬ SameAccount verified.payerAddress merchant

variable {runtime : Runtime} {routing : PaymentRouting}

theorem matchTransfer_source {input : VerifyInvoiceTransferInput} {transaction : Transaction}
    {receipt : TransactionReceipt} {transfer : Transfer}
    (hmatch : matchTransfer runtime routing input transaction receipt = .ok transfer) :
    addressOf input.merchantWalletAddress ≠ some transfer.source := by
  unfold matchTransfer at hmatch
  simp only [except_bind_ok] at hmatch
  obtain ⟨_, -, _, -, _, -, _, -, _, -, _, -, _, -, hmatch⟩ := hmatch
  split at hmatch
  · cases hmatch
  · next found hexternal =>
      cases hmatch
      have hmember := List.mem_of_mem_head? (Option.mem_def.mpr (congrArg List.head? hexternal))
      exact of_decide_eq_true (List.mem_filter.mp hmember).2
  · cases hmatch

/-- The payer a verdict reports is the source of the matched transfer. -/
theorem confirmTransfer_external {confirmationsRequired : ℕ} {merchant hash : String}
    {transfer : Transfer} (hsource : addressOf merchant ≠ some transfer.source)
    (receiptBlock currentBlock : ℕ) :
    ExternalPayer merchant (confirmTransfer runtime confirmationsRequired hash transfer
      receiptBlock currentBlock) := by
  intro verified hverified hsame
  have hpayer : verified.payerAddress = checksumAddress runtime (addressText transfer.source) := by
    unfold confirmTransfer at hverified
    generalize (if receiptBlock ≤ currentBlock then _ else _) = confirmations at hverified
    by_cases hpending : confirmations < confirmationsRequired
    · simp only [hpending, if_true, retry] at hverified
      cases hverified
    · simp only [hpending, if_false] at hverified
      cases hverified
      rfl
  have hsourceText := addressOf_addressText transfer.source
  have hvalid : isHexText 40 (addressText transfer.source) = true := by
    rw [← addressOf_isSome, hsourceText]
    rfl
  apply hsource
  rw [addressOf_eq_iff hsourceText hsame.second, ← hsame.lower, hpayer]
  exact (checksumAddress_spec hvalid).2.symm

open Service in
/-- Whatever the node answers, the merchant is not accepted as the payer. -/
theorem verify_external (confirmationsRequired : ℕ) (input : VerifyInvoiceTransferInput) :
    Returns (ExternalPayer input.merchantWalletAddress)
      (verify runtime routing confirmationsRequired input) := by
  have hrefused : ∀ error : InvoiceVerificationError,
      ExternalPayer input.merchantWalletAddress (.error error) := fun error verified hverified =>
    nomatch hverified
  have hretry : ∀ failure, ExternalPayer input.merchantWalletAddress (retryAfter failure) := by
    intro failure
    cases failure <;> exact hrefused _
  unfold verify
  apply returns_then
  intro chainId
  cases chainId with
  | error failure => exact returns_pure (hretry failure)
  | ok configuredChainId =>
      dsimp only
      split
      · exact returns_pure (hrefused _)
      · apply returns_then
        intro transaction
        apply returns_then
        intro receipt
        rcases transaction with failure | _ | transaction
        · exact returns_pure (hretry failure)
        · cases receipt with
          | error failure => exact returns_pure (hretry failure)
          | ok receipt => exact returns_pure (hrefused _)
        · rcases receipt with failure | _ | receipt
          · exact returns_pure (hretry failure)
          · exact returns_pure (hrefused _)
          · dsimp only
            cases hmatch : matchTransfer runtime routing input transaction receipt with
            | error error => exact returns_pure (hrefused error)
            | ok transfer =>
                apply returns_then
                intro blockNumber
                cases blockNumber with
                | error failure => exact returns_pure (hretry failure)
                | ok currentBlock =>
                    exact returns_pure (confirmTransfer_external (matchTransfer_source hmatch) _ _)

end WizPay.Invoices
