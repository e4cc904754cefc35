import Mathlib.Data.List.DropRight
import WizPay.Invoices.Verifier

/-!
# The invoice service

The calls on stored invoices as the programs of database steps they run. Lazy
expiry comes first in most of them. Verifying a payment works from one snapshot
of the invoice after another; only the conditions of its writes look at the rows.
-/

namespace WizPay.Invoices

open Foundation Backend Intents

abbrev InvoiceService (α : Type) := Service invoiceSignature α

/-- The verifier a service is built with. -/
abbrev Verifier := VerifyInvoiceTransferInput → NodeService Verdict

structure InvoiceMerchantPrincipal where
  merchantUserId : String

structure ListInvoices where
  status : Option InvoiceStatus
  limit : ℕ
  offset : ℕ

/-! ## Database calls -/

/-- A call of the intent service. -/
def intents {α : Type} (service : IntentService α) : InvoiceService α :=
  Service.lift (T := invoiceSignature) InvoiceOp.intents (fun _ answer => answer) service

def askVerifier (service : NodeService Verdict) : InvoiceService Verdict :=
  Service.lift (T := invoiceSignature) InvoiceOp.node (fun _ answer => answer) service

def currentDate : InvoiceService ℕ := intents currentTime

def findUnique (publicId : String) : InvoiceService (Option InvoiceWithPayment) := do
  Service.orThrow (← Service.perform (S := invoiceSignature) (.findUnique publicId))

def findUniqueOrThrow (publicId : String) : InvoiceService InvoiceWithPayment := do
  Service.orThrow (← Service.perform (S := invoiceSignature) (.findUniqueOrThrow publicId))

def findOwned (merchantUserId id : String) : InvoiceService (Option InvoiceWithPayment) := do
  Service.orThrow (← Service.perform (S := invoiceSignature) (.findOwned merchantUserId id))

def findMany (merchantUserId : String) (query : ListInvoices) :
    InvoiceService (List InvoiceWithPayment × ℕ) := do
  Service.orThrow (← Service.perform (S := invoiceSignature)
    (.findMany merchantUserId query.status query.limit query.offset))

def findPayment (transactionHash : String) : InvoiceService (Option InvoicePayment) := do
  Service.orThrow (← Service.perform (S := invoiceSignature) (.findPayment transactionHash))

def updateInvoices (update : InvoiceUpdate) : InvoiceService ℕ := do
  Service.orThrow (← Service.perform (S := invoiceSignature) (.updateMany update))

def lockPayment (invoiceId transactionHash : String) :
    InvoiceService (Except TransactionError Unit) :=
  Service.perform (S := invoiceSignature) (.lockPayment invoiceId transactionHash)

def settlePayment (invoiceId transactionHash payerAddress : String) (verifiedAt paidAt : ℕ) :
    InvoiceService Unit := do
  Service.orThrow (← Service.perform (S := invoiceSignature)
    (.settlePayment invoiceId transactionHash payerAddress verifiedAt paidAt))

def markPayment (invoiceId transactionHash : String) (rejectionCode : Option String) :
    InvoiceService ℕ := do
  Service.orThrow (← Service.perform (S := invoiceSignature)
    (.markPayment invoiceId transactionHash rejectionCode))

/-! ## Checks -/

def invoiceNotFound (message : String) : ServiceError := .notFound "INVOICE_NOT_FOUND" message

/-- The shape `/^[0-9a-f]{8}-[0-9a-f]{4}-[1-5][0-9a-f]{3}-[89ab][0-9a-f]{3}-[0-9a-f]{12}$/i`. -/
def isUuid (id : String) : Bool :=
  match id.toList.splitOn '-' with
  | [first, second, third, fourth, fifth] =>
      [first, second, third, fourth, fifth].map List.length = [8, 4, 4, 4, 12] &&
        [first, second, third, fourth, fifth].all (·.all isHexDigit) &&
        third.head?.any (fun c => '1' ≤ c && c ≤ '5') &&
        fourth.head?.any fun c => c ∈ ['8', '9', 'a', 'b', 'A', 'B']
  | _ => false

/-- The shape `/^[A-Za-z0-9_-]{22}$/`. -/
def isPublicId (publicId : String) : Bool :=
  publicId.toList.length = 22 && publicId.toList.all fun c =>
    isDigit c || ('a' ≤ c && c ≤ 'z') || ('A' ≤ c && c ≤ 'Z') || c = '_' || c = '-'

def assertUuid (id : String) : InvoiceService Unit :=
  Service.throwIf (isUuid id = false) (invoiceNotFound "Invoice not found.")

def assertPublicId (publicId : String) : InvoiceService Unit :=
  Service.throwIf (isPublicId publicId = false) (invoiceNotFound "Payment request not found.")

/-- `assertAcceptsPayment` at a time. -/
def assertAcceptsPayment (row : InvoiceRow) (now : ℕ) : InvoiceService Unit :=
  match row.status with
  | .PAID => throw (.conflict "INVOICE_ALREADY_PAID" "This invoice is already paid.")
  | .EXPIRED => throw expired
  | .CANCELLED => throw (.gone "INVOICE_CANCELLED" "This invoice was cancelled.")
  | .OPEN => Service.throwIf (row.expiresAt.any (fun expiry => expiry ≤ now) = true) expired
  | .VERIFYING => pure ()
where
  expired : ServiceError := .gone "INVOICE_EXPIRED" "This invoice has expired."

/-! ## What a client sees -/

structure PublicInvoice where
  publicId : String
  settlementOperation : ExecutionIntentOperation
  receivingAddress : String
  receivingAddressShort : String
  chainId : ℕ
  chainName : String
  tokenSymbol : String
  tokenName : Option String
  tokenAddress : String
  tokenDecimals : ℕ
  amount : String
  amountUnits : String
  title : String
  description : Option String
  expiresAt : Option ℕ
  status : InvoiceStatus
  paymentStatus : Option InvoicePaymentStatus
  verificationCode : Option String
  transactionHash : Option String
  paidAt : Option ℕ
deriving DecidableEq

structure MerchantInvoice extends PublicInvoice where
  id : String
  invoiceNumber : Option String
  cancelledAt : Option ℕ
  payerAddress : Option String
deriving DecidableEq

def formatUnits (value decimals : ℕ) : String :=
  let digits := (toString value).toList
  let display := List.replicate (decimals - digits.length) '0' ++ digits
  let whole := display.take (display.length - decimals)
  let fraction := (display.drop (display.length - decimals)).rdropWhile (· = '0')
  (if whole = [] then "0" else String.ofList whole) ++
    if fraction = [] then "" else String.ofList ('.' :: fraction)

/-- `INVOICE_TOKEN_NAMES`. -/
def invoiceTokenNames : List (String × String) := [("USDC", "USD Coin"), ("EURC", "Euro Coin")]

def settlementOperation : InvoiceSettlementKind → ExecutionIntentOperation
  | .PAYMENT_LINK => .PAYMENT_LINK_SETTLEMENT
  | .INVOICE => .INVOICE_SETTLEMENT

theorem settlementOperation_settles (kind : InvoiceSettlementKind) :
    (settlementOperation kind).settles = some kind := by
  cases kind <;> rfl

/-- The payment of an invoice that is paid. -/
def verifiedPayment (invoice : InvoiceWithPayment) : Option InvoicePayment :=
  invoice.payment.filter fun payment => invoice.invoice.status = .PAID && payment.status = .VERIFIED

variable (runtime : Runtime)

def toPublic (invoice : InvoiceWithPayment) : Except ServiceError PublicInvoice :=
  match getAddress runtime invoice.invoice.merchantWalletAddress with
  | none => throw invalidAddress
  | some address => return {
      publicId := invoice.invoice.publicId
      settlementOperation := settlementOperation invoice.invoice.settlementKind
      receivingAddress := address
      receivingAddressShort := String.ofList (address.toList.take 6) ++ "..." ++
        String.ofList (address.toList.drop (address.toList.length - 4))
      chainId := invoice.invoice.chainId
      chainName := "Arc Mainnet"
      tokenSymbol := invoice.invoice.tokenSymbol
      tokenName := invoiceTokenNames.lookup invoice.invoice.tokenSymbol
      tokenAddress := invoice.invoice.tokenAddress
      tokenDecimals := invoice.invoice.tokenDecimals
      amount := formatUnits (bigInt invoice.invoice.amountUnits) invoice.invoice.tokenDecimals
      amountUnits := invoice.invoice.amountUnits
      title := invoice.invoice.title
      description := invoice.invoice.description
      expiresAt := invoice.invoice.expiresAt
      status := invoice.invoice.status
      paymentStatus := invoice.payment.map InvoicePayment.status
      verificationCode := (invoice.payment.filter fun payment =>
        payment.status = .REJECTED).bind InvoicePayment.rejectionCode
      transactionHash := (verifiedPayment invoice).map InvoicePayment.transactionHash
      paidAt := (verifiedPayment invoice).bind fun payment =>
        invoice.invoice.paidAt.or payment.verifiedAt }

def toMerchant (invoice : InvoiceWithPayment) : Except ServiceError MerchantInvoice := do
  let shown ← toPublic runtime invoice
  return {
    shown with
    id := invoice.invoice.id
    invoiceNumber := invoice.invoice.invoiceNumber
    cancelledAt := invoice.invoice.cancelledAt
    payerAddress := (invoice.payment.filter fun payment =>
      payment.status = .VERIFIED).bind InvoicePayment.payerAddress }

variable (routing : PaymentRouting)

def assertInvoiceCapability (row : InvoiceRow) : Except ServiceError Unit :=
  assertCapability routing (match row.settlementKind with
    | .PAYMENT_LINK => .paymentLink
    | .INVOICE => .invoice)

/-! ## Reading and cancelling -/

def expireOpenInvoices (filter : InvoiceFilter) : InvoiceService Unit := do
  let now ← currentDate
  discard <| updateInvoices (.expire filter now)

def list (principal : InvoiceMerchantPrincipal) (query : ListInvoices) :
    InvoiceService (List MerchantInvoice × ℕ) := do
  expireOpenInvoices { merchantUserId := some principal.merchantUserId }
  let (items, total) ← findMany principal.merchantUserId query
  let items ← Service.ofExcept (items.mapM (toMerchant runtime))
  return (items, total)

def getOwned (principal : InvoiceMerchantPrincipal) (id : String) :
    InvoiceService MerchantInvoice := do
  assertUuid id
  expireOpenInvoices { id := some id, merchantUserId := some principal.merchantUserId }
  match ← findOwned principal.merchantUserId id with
  | none => throw (invoiceNotFound "Invoice not found.")
  | some invoice => Service.ofExcept (toMerchant runtime invoice)

def cancel (principal : InvoiceMerchantPrincipal) (id : String) :
    InvoiceService MerchantInvoice := do
  assertUuid id
  expireOpenInvoices { id := some id, merchantUserId := some principal.merchantUserId }
  let now ← currentDate
  let count ← updateInvoices (.cancel principal.merchantUserId id now)
  if count ≠ 1 then
    match ← findOwned principal.merchantUserId id with
    | none => throw (invoiceNotFound "Invoice not found.")
    | some _ => throw (notOpen "Only an open invoice can be cancelled.")
  else getOwned runtime principal id

def getPublic (publicId : String) : InvoiceService PublicInvoice := do
  assertPublicId publicId
  expireOpenInvoices { publicId := some publicId }
  match ← findUnique publicId with
  | none => throw (invoiceNotFound "Payment request not found.")
  | some invoice =>
      Service.ofExcept (assertInvoiceCapability routing invoice.invoice)
      Service.ofExcept (toPublic runtime invoice)

/-! ## Verifying a payment -/

/-- The intent that is bound to the submitted hash and made for the invoice. -/
def settlementIntent (row : InvoiceRow) (transactionHash : String) :
    InvoiceService ExecutionIntent := do
  Service.ofExcept (assertInvoiceCapability routing row)
  discard <| Service.ofExcept (do
    let decision ← decide runtime routing (.string routing.network)
      (match row.settlementKind with | .PAYMENT_LINK => .PAYMENT_LINK | .INVOICE => .INVOICE)
      (.string row.tokenAddress) (.string row.tokenAddress)
    assertExecutable decision)
  let intent ← intents (getByTransactionHash routing transactionHash)
  Service.throwIf (intent.operation ≠ settlementOperation row.settlementKind ∨
      intent.externalReference ≠ row.publicId)
    (.conflict "EXECUTION_INTENT_IMMUTABLE_CONFLICT"
      "The submitted transaction is bound to another operation.")
  return intent

def hashReused (message : String) : ServiceError :=
  .conflict "INVOICE_TRANSACTION_HASH_REUSED" message

/-- The invoice with its payment for the hash, which is submitted now or, as the
re-read after a failed transaction shows, was by another call. -/
def submitPayment (publicId transactionHash : String) (row : InvoiceRow) :
    InvoiceService InvoiceWithPayment := do
  let reused ← findPayment transactionHash
  Service.throwIf (reused.any (fun payment => payment.invoiceId ≠ row.id) = true)
    (hashReused "This transaction hash is already bound to another invoice.")
  match ← lockPayment row.id transactionHash with
  | .ok () => findUniqueOrThrow publicId
  | .error (.thrown error) => throw error
  | .error (.database _) =>
      let invoice ← findUnique publicId
      Service.throwIf (((invoice.bind InvoiceWithPayment.payment).all fun payment =>
          payment.transactionHash ≠ transactionHash) = true)
        (hashReused "This transaction hash or invoice is already bound to another payment.")
      findUniqueOrThrow publicId

/-- What an accepted payment leads to. -/
def settleInvoice (publicId transactionHash : String) (intent : ExecutionIntent)
    (row : InvoiceRow) (verified : VerifiedInvoiceTransfer) : InvoiceService PublicInvoice := do
  discard <| intents (completeWithVerifiedReceipt runtime routing intent.id {
    network := routing.network
    transactionHash
    sourceWallet := verified.payerAddress
    token := row.tokenAddress
    recipient := some row.merchantWalletAddress
    batchDigest := none
    amountUnits := row.amountUnits })
  let verifiedAt ← currentDate
  let paidAt ← currentDate
  settlePayment row.id transactionHash verified.payerAddress verifiedAt paidAt
  getPublic runtime routing publicId

/-- The `try` block with the part of the `catch` that handles a verdict. -/
def verifyPayment (verifier : Verifier) (publicId transactionHash : String)
    (intent : ExecutionIntent) (row : InvoiceRow) : InvoiceService PublicInvoice := do
  let tokenAddress ← Service.ofExcept (requireAddress runtime row.tokenAddress)
  let merchantWalletAddress ← Service.ofExcept (requireAddress runtime row.merchantWalletAddress)
  match ← askVerifier (verifier {
      amountUnits := row.amountUnits, merchantWalletAddress, tokenAddress, transactionHash }) with
  | .ok verified => settleInvoice runtime routing publicId transactionHash intent row verified
  | .error error =>
      if error.retryable then
        discard <| markPayment row.id transactionHash none
        throw (.pending error.code error.message)
      else
        discard <| markPayment row.id transactionHash (some error.code)
        throw (.unprocessable error.code error.message)

/-- A snapshot that was read before the intent was looked up decides most of the
answers; it is read again after a payment was submitted. -/
def verifyPublicPayment (verifier : Verifier) (publicId submittedHash : String) :
    InvoiceService PublicInvoice := do
  assertPublicId publicId
  let transactionHash := runtime.toLowerCase submittedHash
  match ← findUnique publicId with
  | none => throw (invoiceNotFound "Payment request not found.")
  | some invoice =>
      let intent ← settlementIntent runtime routing invoice.invoice transactionHash
      discard <| intents (beginVerification routing intent.id)
      expireOpenInvoices { publicId := some publicId }
      if (verifiedPayment invoice).any fun payment =>
          payment.transactionHash = transactionHash then
        Service.ofExcept (toPublic runtime invoice)
      else
        let now ← currentDate
        assertAcceptsPayment invoice.invoice now
        match invoice.payment with
        | none =>
            let locked ← submitPayment publicId transactionHash invoice.invoice
            verifyPayment runtime routing verifier publicId transactionHash intent locked.invoice
        | some payment =>
            Service.throwIf (payment.transactionHash ≠ transactionHash)
              (.conflict "INVOICE_PAYMENT_ALREADY_SUBMITTED"
                "This invoice already has a different submitted payment.")
            if payment.status = .VERIFIED then Service.ofExcept (toPublic runtime invoice)
            else
              verifyPayment runtime routing verifier publicId transactionHash intent invoice.invoice

/-! ## Concurrent calls -/

/-- A call in flight: one on invoices, or any call of the intent service. -/
inductive InvoiceCall where
  | list (principal : InvoiceMerchantPrincipal) (query : ListInvoices)
  | getOwned (principal : InvoiceMerchantPrincipal) (id : String)
  | cancel (principal : InvoiceMerchantPrincipal) (id : String)
  | getPublic (publicId : String)
  | verifyPublicPayment (publicId submittedHash : String)
  | intent (call : IntentCall)

inductive InvoiceAnswer where
  | page (items : List MerchantInvoice) (total : ℕ)
  | owned (invoice : MerchantInvoice)
  | shown (invoice : PublicInvoice)
  | intent (intent : ExecutionIntent)

def InvoiceCall.program (verifier : Verifier) : InvoiceCall → InvoiceService InvoiceAnswer
  | list principal query => do
      let (items, total) ← Invoices.list runtime principal query
      return .page items total
  | getOwned principal id => InvoiceAnswer.owned <$> Invoices.getOwned runtime principal id
  | cancel principal id => InvoiceAnswer.owned <$> Invoices.cancel runtime principal id
  | getPublic publicId => InvoiceAnswer.shown <$> Invoices.getPublic runtime routing publicId
  | verifyPublicPayment publicId submittedHash =>
      InvoiceAnswer.shown <$>
        Invoices.verifyPublicPayment runtime routing verifier publicId submittedHash
  | intent call => InvoiceAnswer.intent <$> intents (call.program runtime routing)

abbrev InvoicePool := Pool invoiceSignature InvoiceState (Except ServiceError InvoiceAnswer)

/-- Concurrent calls over the stored rows. -/
def invoicePool (verifier : Verifier) (calls : List InvoiceCall) (state : InvoiceState) :
    InvoicePool :=
  ⟨state, calls.map fun call => (call.program runtime routing verifier).run⟩

end WizPay.Invoices
