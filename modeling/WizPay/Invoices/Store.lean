import WizPay.Intents.Controller

/-!
# Stored invoices and their payments

The tables of invoices and of the payments submitted for them, next to that of
the intents, and the operations the invoice service performs: conditional
updates and two transactions over both tables. A transaction holds the rows it
updates first until it commits, so it is one step. The node is asked through
operations of its own, which touch no table.
-/

namespace WizPay.Invoices

open Foundation Backend Intents

/-! ## Tables -/

inductive InvoicePaymentStatus where
  | SUBMITTED | VERIFYING | VERIFIED | REJECTED
deriving DecidableEq, Repr

/-- An invoice with all its columns. -/
structure InvoiceRow extends Intents.Invoice where
  id : String
  merchantUserId : String
  tokenSymbol : String
  tokenDecimals : ℕ
  title : String
  description : Option String
  invoiceNumber : Option String
  paidAt : Option ℕ
  cancelledAt : Option ℕ
deriving DecidableEq

structure InvoicePayment where
  invoiceId : String
  transactionHash : String
  payerAddress : Option String
  status : InvoicePaymentStatus
  verifiedAt : Option ℕ
  rejectionCode : Option String
deriving DecidableEq

/-- An invoice read with `include: { payment: true }`. -/
structure InvoiceWithPayment where
  invoice : InvoiceRow
  payment : Option InvoicePayment
deriving DecidableEq

/-- The stored rows, invoices in the order they were created. -/
structure InvoiceState where
  intents : List ExecutionIntent
  invoices : List InvoiceRow
  payments : List InvoicePayment

/-- What the operations on intents see. -/
def InvoiceState.database (state : InvoiceState) : Database :=
  ⟨state.intents, state.invoices.map InvoiceRow.toInvoice⟩

/-! ## Conditional updates -/

/-- The identifying part of a `where` clause. -/
structure InvoiceFilter where
  id : Option String := none
  publicId : Option String := none
  merchantUserId : Option String := none

def InvoiceFilter.selects (filter : InvoiceFilter) (row : InvoiceRow) : Bool :=
  filter.id.all (fun id => row.id = id) && filter.publicId.all (fun id => row.publicId = id) &&
    filter.merchantUserId.all fun id => row.merchantUserId = id

/-- The `updateMany` calls on invoices outside of the payment transactions. -/
inductive InvoiceUpdate where
  | expire (filter : InvoiceFilter) (now : ℕ)
  | cancel (merchantUserId id : String) (now : ℕ)

namespace InvoiceUpdate

def selects : InvoiceUpdate → InvoiceRow → Bool
  | expire filter now, row =>
      filter.selects row && row.status = .OPEN && row.expiresAt.any fun expiry => expiry ≤ now
  | cancel merchantUserId id _, row =>
      row.id = id && row.merchantUserId = merchantUserId && row.status = .OPEN

def apply : InvoiceUpdate → InvoiceRow → InvoiceRow
  | expire _ _, row => { row with status := .EXPIRED }
  | cancel _ _ now, row => { row with status := .CANCELLED, cancelledAt := some now }

end InvoiceUpdate

/-! ## The node -/

/-- Why a call of the node failed, as far as the name of the error tells. -/
inductive NodeFailure where
  | transactionReceiptNotFound | transactionNotFound | other
deriving DecidableEq

structure Transfer where
  source : Evm.Address
  target : Evm.Address
  amount : ℕ

/-- A log, its first topic, and the transfer that its topics and data decode to. -/
structure ReceiptLog where
  address : Evm.Address
  topic : Option String
  transfer : Option Transfer

structure TransactionReceipt where
  succeeded : Bool
  blockNumber : ℕ
  logs : List ReceiptLog

structure Transaction where
  chainId : ℕ
  value : ℕ

inductive NodeOp where
  | getChainId
  | getTransaction (hash : String)
  | getTransactionReceipt (hash : String)
  | getBlockNumber

def NodeOp.Res : NodeOp → Type
  | .getChainId => Except NodeFailure ℕ
  | .getTransaction _ => Except NodeFailure (Option Transaction)
  | .getTransactionReceipt _ => Except NodeFailure (Option TransactionReceipt)
  | .getBlockNumber => Except NodeFailure ℕ

def nodeSignature : Signature := ⟨NodeOp, NodeOp.Res⟩

/-! ## Operations -/

inductive InvoiceOp where
  | intents (op : IntentOp)
  | node (op : NodeOp)
  | findUnique (publicId : String)
  | findUniqueOrThrow (publicId : String)
  | findOwned (merchantUserId id : String)
  | findMany (merchantUserId : String) (status : Option InvoiceStatus) (limit offset : ℕ)
  | findPayment (transactionHash : String)
  | updateMany (update : InvoiceUpdate)
  | lockPayment (invoiceId transactionHash : String)
  | settlePayment (invoiceId transactionHash payerAddress : String) (verifiedAt paidAt : ℕ)
  | markPayment (invoiceId transactionHash : String) (rejectionCode : Option String)

def InvoiceOp.Res : InvoiceOp → Type
  | .intents op => op.Res
  | .node op => op.Res
  | .findUnique _ => Except DbError (Option InvoiceWithPayment)
  | .findUniqueOrThrow _ => Except DbError InvoiceWithPayment
  | .findOwned _ _ => Except DbError (Option InvoiceWithPayment)
  | .findMany _ _ _ _ => Except DbError (List InvoiceWithPayment × ℕ)
  | .findPayment _ => Except DbError (Option InvoicePayment)
  | .updateMany _ => Except DbError ℕ
  | .lockPayment _ _ => Except TransactionError Unit
  | .settlePayment _ _ _ _ _ => Except DbError Unit
  | .markPayment _ _ _ => Except DbError ℕ

def invoiceSignature : Signature := ⟨InvoiceOp, InvoiceOp.Res⟩

/-- One input of the environment: that of the database, and what the node answers. -/
structure InvoiceInput extends Input where
  chainIdAnswer : Except NodeFailure ℕ
  transactionAnswer : Except NodeFailure (Option Transaction)
  receiptAnswer : Except NodeFailure (Option TransactionReceipt)
  blockNumberAnswer : Except NodeFailure ℕ

def InvoiceInput.answer (input : InvoiceInput) : (op : NodeOp) → op.Res
  | .getChainId => input.chainIdAnswer
  | .getTransaction _ => input.transactionAnswer
  | .getTransactionReceipt _ => input.receiptAnswer
  | .getBlockNumber => input.blockNumberAnswer

def notOpen (message : String) : ServiceError := .conflict "INVOICE_NOT_OPEN" message

namespace InvoiceState

variable (state : InvoiceState)

def withPayment (row : InvoiceRow) : InvoiceWithPayment :=
  ⟨row, state.payments.find? fun payment => payment.invoiceId = row.id⟩

def find (key : InvoiceRow → Bool) : Option InvoiceWithPayment :=
  (state.invoices.find? key).map state.withPayment

/-- One page of the selected invoices, the newest first, and how many there are. -/
def findMany (key : InvoiceRow → Bool) (limit offset : ℕ) : List InvoiceWithPayment × ℕ :=
  let selected := state.invoices.reverse.filter key
  (((selected.drop offset).take limit).map state.withPayment, selected.length)

def updateMany (update : InvoiceUpdate) : Except DbError ℕ × InvoiceState :=
  (.ok (state.invoices.countP update.selects), { state with
    invoices := state.invoices.map fun row =>
      if update.selects row then update.apply row else row })

/-- The row a payment is locked on. -/
def lockable (invoiceId : String) (row : InvoiceRow) : Bool :=
  row.id = invoiceId && row.status = .OPEN

/-- The transaction that accepts a payment for verification; a payment belongs
to one invoice, and a hash to one payment. -/
def lockPayment (invoiceId transactionHash : String) :
    Except TransactionError Unit × InvoiceState :=
  if state.invoices.countP (lockable invoiceId) ≠ 1 then
    (.error (.thrown (notOpen "Invoice state changed before payment verification.")), state)
  else if state.payments.any fun payment =>
      payment.invoiceId = invoiceId || payment.transactionHash = transactionHash then
    (.error (.database .p2002), state)
  else
    (.ok (), { state with
      invoices := state.invoices.map fun row =>
        if lockable invoiceId row then { row with status := .VERIFYING } else row
      payments := state.payments ++ [{
        invoiceId, transactionHash, payerAddress := none, status := .VERIFYING
        verifiedAt := none, rejectionCode := none }] })

/-- A payment of the invoice with the hash that is not verified yet. -/
def unsettled (invoiceId transactionHash : String) (payment : InvoicePayment) : Bool :=
  payment.invoiceId = invoiceId && payment.transactionHash = transactionHash &&
    payment.status ∈ [.SUBMITTED, .VERIFYING, .REJECTED]

/-- The transaction that settles an invoice. -/
def settlePayment (invoiceId transactionHash payerAddress : String) (verifiedAt paidAt : ℕ) :
    Except DbError Unit × InvoiceState :=
  (.ok (), { state with
    payments := state.payments.map fun payment =>
      if unsettled invoiceId transactionHash payment then
        { payment with
          status := .VERIFIED, payerAddress := some payerAddress, verifiedAt := some verifiedAt
          rejectionCode := none }
      else payment
    invoices := state.invoices.map fun row =>
      if row.id = invoiceId && row.status = .VERIFYING then
        { row with status := .PAID, paidAt := some paidAt }
      else row })

/-- A payment is rejected with a code, or goes back to verification without one. -/
def markPayment (invoiceId transactionHash : String) (rejectionCode : Option String) :
    Except DbError ℕ × InvoiceState :=
  (.ok (state.payments.countP (unsettled invoiceId transactionHash)), { state with
    payments := state.payments.map fun payment =>
      if unsettled invoiceId transactionHash payment then
        { payment with
          status := if rejectionCode.isSome then .REJECTED else .VERIFYING
          rejectionCode }
      else payment })

/-- A read through an outage. -/
def readThrough {α : Type} (input : InvoiceInput) (answer : Except DbError α) :
    Except DbError α × InvoiceState :=
  match input.outage with
  | none => (answer, state)
  | some error => (.error error, state)

/-- A write through an outage, which hides the answer and may prevent the write. -/
def writeThrough {ε α : Type} (input : InvoiceInput) (toError : DbError → ε)
    (outcome : Except ε α × InvoiceState) : Except ε α × InvoiceState :=
  match input.outage with
  | none => outcome
  | some error => (.error (toError error), if input.applied then outcome.2 else state)

/-- Whether or not the answer is hidden, a write took place or it did not. -/
theorem writeThrough_cases {ε α : Type} (input : InvoiceInput) (toError : DbError → ε)
    (outcome : Except ε α × InvoiceState) :
    (state.writeThrough input toError outcome).2 = outcome.2 ∨
      (state.writeThrough input toError outcome).2 = state := by
  unfold writeThrough
  cases input.outage with
  | none => exact .inl rfl
  | some error =>
      cases input.applied with
      | true => exact .inl rfl
      | false => exact .inr rfl

end InvoiceState

/-- The database answers as it does for intents alone; the node answers what the
input holds. -/
def invoiceMachine (runtime : Runtime) (routing : PaymentRouting) :
    Machine invoiceSignature InvoiceInput InvoiceState where
  answer
    | .intents op, input, state =>
        let answer := (intentMachine runtime routing).answer op input.toInput state.database
        (answer.1, { state with intents := answer.2.intents })
    | .node op, input, state => (input.answer op, state)
    | .findUnique publicId, input, state =>
        state.readThrough input (.ok (state.find fun row => row.publicId = publicId))
    | .findUniqueOrThrow publicId, input, state =>
        state.readThrough input (match state.find fun row => row.publicId = publicId with
          | some invoice => .ok invoice
          | none => .error (.other "P2025"))
    | .findOwned merchantUserId id, input, state =>
        state.readThrough input (.ok (state.find fun row =>
          row.id = id && row.merchantUserId = merchantUserId))
    | .findMany merchantUserId status limit offset, input, state =>
        state.readThrough input (.ok (state.findMany (fun row =>
          row.merchantUserId = merchantUserId && status.all fun status => row.status = status)
            limit offset))
    | .findPayment transactionHash, input, state =>
        state.readThrough input (.ok (state.payments.find? fun payment =>
          payment.transactionHash = transactionHash))
    | .updateMany update, input, state =>
        state.writeThrough input id (state.updateMany update)
    | .lockPayment invoiceId transactionHash, input, state =>
        state.writeThrough input .database (state.lockPayment invoiceId transactionHash)
    | .settlePayment invoiceId transactionHash payerAddress verifiedAt paidAt, input, state =>
        state.writeThrough input id
          (state.settlePayment invoiceId transactionHash payerAddress verifiedAt paidAt)
    | .markPayment invoiceId transactionHash rejectionCode, input, state =>
        state.writeThrough input id (state.markPayment invoiceId transactionHash rejectionCode)

end WizPay.Invoices
