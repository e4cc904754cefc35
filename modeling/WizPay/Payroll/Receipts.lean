import WizPay.Payroll.Store

/-!
# The payroll receipt verifier

What a node answers about a transaction is compared with the immutable batch.
An error marked retryable leaves the question open; every other one is final.
-/

namespace WizPay.Payroll

open Foundation Backend Evm PayrollMainnet Intents

section

variable (Body Calldata : Type)

abbrev PayrollService (α : Type) := Service (payrollSignature Body Calldata) α

end

structure PayrollRecipient where
  address : String
  amountUnits : String
deriving DecidableEq

structure PayrollReceiptInput where
  transactionHash : String
  sourceWallet : String
  token : String
  totalAmountUnits : String
  expectedBatchDigest : String
  referenceId : String
  recipients : List PayrollRecipient

structure VerifiedPayrollReceipt extends VerifiedExecutionReceipt where
  contract : String
  referenceId : String
  recipients : List PayrollRecipient
  blockNumber : String
  confirmations : ℕ

def reject : ServiceError :=
  .unprocessable "PAYROLL_RECEIPT_MISMATCH"
    "Payroll receipt does not match the immutable direct batch."

def receiptPending (message : String) : ServiceError := .pending "PAYROLL_RECEIPT_PENDING" message

/-- The shape `/^(0|[1-9][0-9]*)$/`. -/
def isCanonicalUint (value : String) : Bool := value = "0" || isBaseUnits value

/-- The shape `/^[0-9a-fA-F]{64}$/`. -/
def isDigestText (value : String) : Bool := value.toList.length = 64 && value.toList.all isHexDigit

section

variable {Hash Body Calldata : Type} [DecidableEq Hash] (runtime : Runtime)
  (network : PayrollNetwork Hash Body Calldata)

/-! ## Node calls -/

def getChainId (hash : String) : PayrollService Body Calldata (Option ℕ) :=
  Service.perform (S := payrollSignature Body Calldata) (.getChainId hash)

def getTransaction (hash : String) :
    PayrollService Body Calldata (Option (ChainTransaction Calldata)) :=
  Service.perform (S := payrollSignature Body Calldata) (.getTransaction hash)

def getTransactionReceipt (hash : String) :
    PayrollService Body Calldata (Option (ChainReceipt Body)) :=
  Service.perform (S := payrollSignature Body Calldata) (.getTransactionReceipt hash)

def getBlockNumber (hash : String) (receiptBlock : ℕ) :
    PayrollService Body Calldata (Option ℕ) :=
  Service.perform (S := payrollSignature Body Calldata) (.getBlockNumber hash receiptBlock)

/-! ## The checks -/

/-- The parties a receipt is checked for, parsed. -/
structure PayrollParties where
  sourceWallet : Address
  token : Address
  contract : Address
  recipients : List Address

/-- The checks on the input alone. -/
def wellFormedInput (input : PayrollReceiptInput) : Bool :=
  isHexText 64 input.transactionHash &&
    !(trim input.referenceId = "" || input.recipients.isEmpty ||
      !isCanonicalUint input.totalAmountUnits || !isDigestText input.expectedBatchDigest ||
      input.recipients.any fun recipient =>
        !isCanonicalUint recipient.amountUnits || recipient.amountUnits = "0")

def parseParties (contract : String) (input : PayrollReceiptInput) : Option PayrollParties := do
  let sourceWallet ← addressOf input.sourceWallet
  let token ← addressOf input.token
  let contract ← addressOf contract
  let recipients ← input.recipients.mapM fun recipient => addressOf recipient.address
  return ⟨sourceWallet, token, contract, recipients⟩

/-- The transaction is on the network and was sent by the wallet to the contract,
and the receipt is that of a successful execution of it. -/
def transactionMatches (input : PayrollReceiptInput) (parties : PayrollParties)
    (transaction : ChainTransaction Calldata) (receipt : ChainReceipt Body) : Bool :=
  receipt.succeeded &&
    runtime.toLowerCase transaction.hash = runtime.toLowerCase input.transactionHash &&
    runtime.toLowerCase receipt.transactionHash = runtime.toLowerCase input.transactionHash &&
    transaction.chainId = network.chainId && transaction.target = some parties.contract &&
    transaction.source = parties.sourceWallet

/-- What `verifyMainnetCall` returns. -/
structure VerifiedCall where
  tokenIn : Address
  tokenOut : Address
  recipients : List Address
  amounts : List ℕ

/-- `assertCallRecipients`. -/
def callRecipientsMatch (input : PayrollReceiptInput) (parties : PayrollParties)
    (callToken : Address) (callRecipients : List Address) (callAmounts : List ℕ)
    (callReference : String) : Bool :=
  callToken = parties.token && callReference = input.referenceId &&
    callRecipients = parties.recipients &&
    callAmounts = input.recipients.map fun recipient => bigInt recipient.amountUnits

def verifyMainnetCall (input : PayrollReceiptInput) (parties : PayrollParties) (value : ℕ) :
    MainnetCall → Option VerifiedCall
  | .executeSameTokenPayroll token recipients amounts referenceId =>
      if value = 0 ∧ callRecipientsMatch input parties token recipients amounts referenceId then
        some ⟨token, token, recipients, amounts⟩
      else none
  | .executeCrossTokenPayroll tokenIn tokenOut recipients outputAmounts grossInput _ _ _
      referenceId =>
      let expectedValue := if tokenIn = network.usdc then grossInput * 1000000000000 else 0
      if value = expectedValue ∧
          callRecipientsMatch input parties tokenOut recipients outputAmounts referenceId then
        some ⟨tokenIn, tokenOut, recipients, outputAmounts⟩
      else none
  | .other => none

/-- `getAddress` of an address read from the chain. -/
def checksummed (address : Address) : String := checksumAddress runtime (addressText address)

def verifiedDigest (token : Address) (recipients : List Address) (amounts : List ℕ) :
    Except ServiceError String :=
  createPayrollBatchDigest runtime ((recipients.zip amounts).map fun payment =>
    ⟨checksummed runtime payment.1, checksummed runtime token, toString payment.2⟩)

def payrollEventsInput (input : PayrollReceiptInput) (parties : PayrollParties)
    (verified : VerifiedCall) : PayrollEventsInput where
  chainId := network.chainId
  contract := parties.contract
  employer := parties.sourceWallet
  tokenIn := verified.tokenIn
  tokenOut := verified.tokenOut
  referenceId := input.referenceId
  recipients := verified.recipients
  amounts := verified.amounts

def evidence (input : PayrollReceiptInput) (parties : PayrollParties) (verified : VerifiedCall)
    (transactionHash digest : String) (blockNumber confirmations : ℕ) :
    VerifiedPayrollReceipt where
  network := network.key
  transactionHash := transactionHash
  sourceWallet := checksummed runtime parties.sourceWallet
  token := checksummed runtime verified.tokenOut
  recipient := none
  batchDigest := some digest
  amountUnits := toString verified.amounts.sum
  contract := checksummed runtime parties.contract
  referenceId := input.referenceId
  recipients := (verified.recipients.zip verified.amounts).map fun payment =>
    ⟨checksummed runtime payment.1, toString payment.2⟩
  blockNumber := toString blockNumber
  confirmations := confirmations

def finishMainnetReceipt (input : PayrollReceiptInput) (parties : PayrollParties)
    (verified : VerifiedCall) (transaction : ChainTransaction Calldata)
    (receipt : ChainReceipt Body) :
    PayrollService Body Calldata VerifiedPayrollReceipt := do
  let digest ← Service.ofExcept
    (verifiedDigest runtime verified.tokenOut verified.recipients verified.amounts)
  Service.throwIf (toString verified.amounts.sum ≠ input.totalAmountUnits ∨
    digest ≠ runtime.toLowerCase input.expectedBatchDigest) reject
  match ← getBlockNumber input.transactionHash receipt.blockNumber with
  | none => throw (receiptPending "Payroll confirmation state is not available yet.")
  | some latestBlock =>
      Service.throwIf (latestBlock < receipt.blockNumber) reject
      let confirmations := toDouble (latestBlock - receipt.blockNumber + 1)
      Service.throwIf (confirmations < network.confirmationsRequired)
        (.pending "PAYROLL_CONFIRMATIONS_PENDING"
          ("Payroll receipt needs " ++ toString network.confirmationsRequired ++
            " confirmations."))
      Service.throwIf (verifyMainnetPayrollEvents network.keccak network.codec
        (payrollEventsInput network input parties verified) receipt.logs = false) reject
      return evidence runtime network input parties verified transaction.hash digest
        receipt.blockNumber confirmations

def verify (input : PayrollReceiptInput) :
    PayrollService Body Calldata VerifiedPayrollReceipt := do
  match nonempty network.wizpay with
  | none =>
      throw (.unavailable "PAYROLL_CONTRACT_UNAVAILABLE"
        "Verified payroll contract is unavailable.")
  | some contract =>
      Service.throwIf (wellFormedInput input = false) reject
      match parseParties contract input with
      | none => throw reject
      | some parties =>
          match ← getChainId input.transactionHash with
          | none => throw (receiptPending "Payroll receipt is not available yet.")
          | some chainId => Service.throwIf (chainId ≠ network.chainId) reject
          match ← getTransaction input.transactionHash, ← getTransactionReceipt input.transactionHash with
          | some transaction, some receipt =>
              Service.throwIf
                (transactionMatches runtime network input parties transaction receipt = false) reject
              match (network.decodeFunctionData transaction.input).bind
                  (verifyMainnetCall network input parties transaction.value) with
              | none => throw reject
              | some verified =>
                  finishMainnetReceipt runtime network input parties verified transaction receipt
          | _, _ => throw (receiptPending "Payroll receipt is not available yet.")

end

end WizPay.Payroll
