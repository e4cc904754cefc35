import WizPay.Invoices.Service

/-!
# The life of an invoice

What holds of the stored invoices and payments at every moment, and what one
moment says about all later ones. Every operation keeps it, a settling one under
the condition that there is something to settle: a payment of the invoice with
that hash, and a completed intent for the same payment.
-/

namespace WizPay.Invoices

open Foundation Backend Intents

/-! ## What a row keeps -/

/-- An invoice as it was created. -/
def InvoiceRow.request (row : InvoiceRow) : InvoiceRow :=
  { row with status := .OPEN, paidAt := none, cancelledAt := none }

/-- A status that is final. -/
def closed (status : InvoiceStatus) : Bool := status ∈ [.PAID, .EXPIRED, .CANCELLED]

structure InvoiceRow.Evolves (before after : InvoiceRow) : Prop where
  request : after.request = before.request
  closed : closed before.status = true → after.status = before.status

namespace InvoiceRow.Evolves

theorem refl (row : InvoiceRow) : Evolves row row := ⟨rfl, fun _ => rfl⟩

theorem trans {first second third : InvoiceRow} (hfirst : Evolves first second)
    (hsecond : Evolves second third) : Evolves first third where
  request := hsecond.request.trans hfirst.request
  closed hclosed := by
    have hsame := hfirst.closed hclosed
    exact (hsecond.closed (hsame ▸ hclosed)).trans hsame

/-- A column that no update writes. -/
theorem column {before after : InvoiceRow} (hevolves : Evolves before after) {α : Type}
    (field : InvoiceRow → α) (hfield : ∀ row, field row.request = field row) :
    field after = field before := by
  rw [← hfield after, hevolves.request, hfield]

theorem id {before after : InvoiceRow} (hevolves : Evolves before after) : after.id = before.id :=
  hevolves.column InvoiceRow.id fun _ => rfl

end InvoiceRow.Evolves

/-- A payment keeps its invoice and its hash; a verified one does not change. -/
structure InvoicePayment.Evolves (before after : InvoicePayment) : Prop where
  invoiceId : after.invoiceId = before.invoiceId
  transactionHash : after.transactionHash = before.transactionHash
  verified : before.status = .VERIFIED → after = before

theorem InvoicePayment.Evolves.refl (payment : InvoicePayment) : Evolves payment payment :=
  ⟨rfl, rfl, fun _ => rfl⟩

theorem InvoicePayment.Evolves.trans {first second third : InvoicePayment}
    (hfirst : Evolves first second) (hsecond : Evolves second third) : Evolves first third where
  invoiceId := hsecond.invoiceId.trans hfirst.invoiceId
  transactionHash := hsecond.transactionHash.trans hfirst.transactionHash
  verified hverified := by
    have hsame := hfirst.verified hverified
    exact (hsecond.verified (hsame ▸ hverified)).trans hsame

/-! ## Settled invoices -/

/-- The intent is completed by the payment that settles the invoice. -/
structure Settles (intent : ExecutionIntent) (row : InvoiceRow) (transactionHash payer : String) :
    Prop where
  status : intent.status = .COMPLETED
  transactionHash : intent.transactionHash = some (asciiLower transactionHash)
  operation : intent.operation = settlementOperation row.settlementKind
  externalReference : intent.externalReference = row.publicId
  sourceWallet : SameAccount intent.sourceWallet payer
  token : SameAccount intent.tokenOut row.tokenAddress
  amountUnits : intent.amountUnits = row.amountUnits
  recipient : ∃ recipient, intent.recipient = some recipient ∧
    SameAccount recipient row.merchantWalletAddress

theorem Settles.evolves {intent next : ExecutionIntent} {row later : InvoiceRow}
    {transactionHash payer : String} (hsettles : Settles intent row transactionHash payer)
    (hintent : Intents.Evolves intent next) (hrow : row.Evolves later) :
    Settles next later transactionHash payer := by
  have hrequest := hintent.request
  simp only [ExecutionIntent.request, ExecutionIntent.immutable, Immutable.mk.injEq] at hrequest
  obtain ⟨-, hoperation, -, hsource, hrecipient, -, -, htoken, hamount, hreference⟩ := hrequest
  obtain ⟨h1, h2, h3, h4, h5, h6, h7, h8⟩ := hsettles
  have hbound : intent.transactionHash ≠ none := by
    rw [h2]
    exact Option.some_ne_none _
  refine ⟨hintent.completed h1 hbound, hintent.transactionHash _ h2, ?_, ?_, ?_, ?_, ?_, ?_⟩
  · rw [hoperation, h3, hrow.column (·.settlementKind) fun _ => rfl]
  · rw [hreference, h4, hrow.column (·.publicId) fun _ => rfl]
  · rwa [hsource]
  · rwa [htoken, hrow.column (·.tokenAddress) fun _ => rfl]
  · rw [hamount, h7, hrow.column (·.amountUnits) fun _ => rfl]
  · rwa [hrecipient, hrow.column (·.merchantWalletAddress) fun _ => rfl]

/-- What an accepted payment is known to be, by the merchant, the hash and the payer. -/
abbrev Acceptance := String → String → String → Prop

variable (accepts : Acceptance)

/-- An accepted payment of the invoice by a completed intent. -/
structure Backed (intents : List ExecutionIntent) (row : InvoiceRow)
    (transactionHash payer : String) : Prop where
  accepted : accepts row.merchantWalletAddress transactionHash payer
  completed : ∃ intent ∈ intents, Settles intent row transactionHash payer

def PaidBy (state : InvoiceState) (row : InvoiceRow) (payment : InvoicePayment) : Prop :=
  payment.invoiceId = row.id ∧ payment.status = .VERIFIED ∧
    ∃ payer, payment.payerAddress = some payer ∧
      Backed accepts state.intents row payment.transactionHash payer

/-- The invariant of the invoices and their payments. -/
structure Consistent (state : InvoiceState) : Prop where
  ids : state.invoices.Pairwise fun first second =>
    first.id ≠ second.id ∧ first.publicId ≠ second.publicId
  payments : state.payments.Pairwise fun first second =>
    first.invoiceId ≠ second.invoiceId ∧ first.transactionHash ≠ second.transactionHash
  submitted : ∀ row ∈ state.invoices, (∃ payment ∈ state.payments, payment.invoiceId = row.id) ↔
    row.status = .VERIFYING ∨ row.status = .PAID
  paid : ∀ row ∈ state.invoices, row.status = .PAID →
    ∃ payment ∈ state.payments, PaidBy accepts state row payment
  verified : ∀ row ∈ state.invoices, ∀ payment ∈ state.payments, payment.invoiceId = row.id →
    payment.status = .VERIFIED → row.status = .PAID

/-- What any number of operations leave of an earlier moment. -/
structure Follows (before after : InvoiceState) : Prop where
  consistent : Consistent accepts after
  intents : Progresses before.database after.database
  invoices : ∀ row ∈ before.invoices, ∃ next ∈ after.invoices, row.Evolves next
  payments : ∀ payment ∈ before.payments, ∃ next ∈ after.payments, payment.Evolves next

variable {accepts}

theorem follows_refl {state : InvoiceState} (hconsistent : Consistent accepts state)
    (hunique : UniqueIntents state.intents) : Follows accepts state state where
  consistent := hconsistent
  intents := progresses_refl hunique
  invoices row hmember := ⟨row, hmember, .refl row⟩
  payments payment hmember := ⟨payment, hmember, .refl payment⟩

theorem follows_isRely : IsRely (Follows accepts) where
  trans := by
    intro first second third hfirst hsecond
    refine ⟨hsecond.consistent, progresses_isRely.trans hfirst.intents hsecond.intents, ?_, ?_⟩
    · intro row hmember
      obtain ⟨next, hnext, hevolves⟩ := hfirst.invoices row hmember
      obtain ⟨last, hlast, hlater⟩ := hsecond.invoices next hnext
      exact ⟨last, hlast, hevolves.trans hlater⟩
    · intro payment hmember
      obtain ⟨next, hnext, hevolves⟩ := hfirst.payments payment hmember
      obtain ⟨last, hlast, hlater⟩ := hsecond.payments next hnext
      exact ⟨last, hlast, hevolves.trans hlater⟩
  refl_after hlater := follows_refl hlater.consistent hlater.intents.unique

theorem Backed.evolves {before after : List ExecutionIntent} {row next : InvoiceRow}
    {transactionHash payer : String} (hbacked : Backed accepts before row transactionHash payer)
    (hintents : ∀ intent ∈ before, ∃ next ∈ after, Intents.Evolves intent next)
    (hrow : row.Evolves next) : Backed accepts after next transactionHash payer := by
  obtain ⟨intent, hintent, hsettles⟩ := hbacked.completed
  obtain ⟨later, hlater, hevolves⟩ := hintents intent hintent
  refine ⟨?_, later, hlater, hsettles.evolves hevolves hrow⟩
  rw [hrow.column (·.merchantWalletAddress) fun _ => rfl]
  exact hbacked.accepted

theorem Backed.row_evolves {intents : List ExecutionIntent} {row next : InvoiceRow}
    {transactionHash payer : String} (hbacked : Backed accepts intents row transactionHash payer)
    (hrow : row.Evolves next) : Backed accepts intents next transactionHash payer :=
  hbacked.evolves (fun intent hintent => ⟨intent, hintent, .refl intent⟩) hrow

theorem row_unique {state : InvoiceState} (hconsistent : Consistent accepts state)
    {first second : InvoiceRow} (hfirst : first ∈ state.invoices) (hsecond : second ∈ state.invoices)
    (hsame : first.id = second.id ∨ first.publicId = second.publicId) : first = second := by
  have hsymm : Std.Symm fun one other : InvoiceRow =>
      one.id ≠ other.id ∧ one.publicId ≠ other.publicId :=
    ⟨fun one other hne => ⟨hne.1.symm, hne.2.symm⟩⟩
  by_contra hne
  have hdistinct := List.Pairwise.forall hconsistent.ids hfirst hsecond hne
  rcases hsame with hid | hid
  · exact hdistinct.1 hid
  · exact hdistinct.2 hid

theorem payment_unique {state : InvoiceState} (hconsistent : Consistent accepts state)
    {first second : InvoicePayment} (hfirst : first ∈ state.payments)
    (hsecond : second ∈ state.payments) (hsame : first.invoiceId = second.invoiceId ∨
      first.transactionHash = second.transactionHash) : first = second := by
  have hsymm : Std.Symm fun one other : InvoicePayment =>
      one.invoiceId ≠ other.invoiceId ∧ one.transactionHash ≠ other.transactionHash :=
    ⟨fun one other hne => ⟨hne.1.symm, hne.2.symm⟩⟩
  by_contra hne
  have hdistinct := List.Pairwise.forall hconsistent.payments hfirst hsecond hne
  rcases hsame with hid | hhash
  · exact hdistinct.1 hid
  · exact hdistinct.2 hhash

/-! ## One operation -/

variable {state : InvoiceState}

theorem ids_map {rows : List InvoiceRow} {f : InvoiceRow → InvoiceRow}
    (hevolves : ∀ row ∈ rows, row.Evolves (f row))
    (hids : rows.Pairwise fun first second =>
      first.id ≠ second.id ∧ first.publicId ≠ second.publicId) :
    (rows.map f).Pairwise fun first second =>
      first.id ≠ second.id ∧ first.publicId ≠ second.publicId := by
  rw [List.pairwise_map]
  refine hids.imp_of_mem fun {first second} hfirst hsecond hne => ?_
  have hone := hevolves first hfirst
  have hother := hevolves second hsecond
  rw [hone.id, hother.id, hone.column (·.publicId) fun _ => rfl,
    hother.column (·.publicId) fun _ => rfl]
  exact hne

theorem payments_map {payments : List InvoicePayment} {f : InvoicePayment → InvoicePayment}
    (hevolves : ∀ payment ∈ payments, payment.Evolves (f payment))
    (hpayments : payments.Pairwise fun first second =>
      first.invoiceId ≠ second.invoiceId ∧ first.transactionHash ≠ second.transactionHash) :
    (payments.map f).Pairwise fun first second =>
      first.invoiceId ≠ second.invoiceId ∧ first.transactionHash ≠ second.transactionHash := by
  rw [List.pairwise_map]
  refine hpayments.imp_of_mem fun {first second} hfirst hsecond hne => ?_
  have hone := hevolves first hfirst
  have hother := hevolves second hsecond
  rw [hone.invoiceId, hother.invoiceId, hone.transactionHash, hother.transactionHash]
  exact hne

/-! ### Expiring and cancelling -/

theorem InvoiceUpdate.selects_open {update : InvoiceUpdate} {row : InvoiceRow}
    (hselects : update.selects row = true) : row.status = .OPEN := by
  cases update with
  | expire filter now =>
      simp only [selects, Bool.and_eq_true, decide_eq_true_eq] at hselects
      exact hselects.1.2
  | cancel merchantUserId id now =>
      simp only [selects, Bool.and_eq_true, decide_eq_true_eq] at hselects
      exact hselects.2

theorem InvoiceUpdate.apply_status (update : InvoiceUpdate) (row : InvoiceRow) :
    (update.apply row).status = .EXPIRED ∨ (update.apply row).status = .CANCELLED := by
  cases update with
  | expire => exact .inl rfl
  | cancel => exact .inr rfl

theorem InvoiceUpdate.updated_evolves (update : InvoiceUpdate) (row : InvoiceRow) :
    row.Evolves (if update.selects row then update.apply row else row) := by
  by_cases hselects : update.selects row = true
  · rw [if_pos hselects]
    refine ⟨by cases update <;> rfl, fun hclosed => ?_⟩
    rw [selects_open hselects] at hclosed
    cases hclosed
  · rw [if_neg hselects]
    exact .refl row

theorem updateMany_consistent (hconsistent : Consistent accepts state) (update : InvoiceUpdate) :
    Consistent accepts (state.updateMany update).2 := by
  have hevolves := update.updated_evolves
  refine ⟨ids_map (fun row _ => hevolves row) hconsistent.ids, hconsistent.payments, ?_, ?_, ?_⟩
  all_goals
    intro next hnext
    obtain ⟨row, hrow, rfl⟩ := List.mem_map.mp hnext
  · rw [(hevolves row).id]
    have hsubmitted := hconsistent.submitted row hrow
    by_cases hselects : update.selects row = true
    · rw [if_pos hselects]
      rw [update.selects_open hselects] at hsubmitted
      refine iff_of_false (fun hpayment => ?_) ?_
      · simpa using hsubmitted.mp hpayment
      · rcases update.apply_status row with hstatus | hstatus <;> rw [hstatus] <;> simp
    · rw [if_neg hselects]
      exact hsubmitted
  · intro hpaid
    have hpaid : row.status = .PAID := by
      by_cases hselects : update.selects row = true
      · rw [if_pos hselects] at hpaid
        rcases update.apply_status row with hstatus | hstatus <;> rw [hstatus] at hpaid <;>
          cases hpaid
      · rwa [if_neg hselects] at hpaid
    obtain ⟨payment, hpayment, hinvoice, hverified, payer, hpayer, hbacked⟩ :=
      hconsistent.paid row hrow hpaid
    exact ⟨payment, hpayment, hinvoice.trans (hevolves row).id.symm, hverified, payer, hpayer,
      hbacked.row_evolves (hevolves row)⟩
  · intro payment hpayment hinvoice hverified
    have hpaid := hconsistent.verified row hrow payment hpayment
      (hinvoice.trans (hevolves row).id) hverified
    rw [(hevolves row).closed (by rw [hpaid]; rfl), hpaid]

/-! ### Locking -/

/-- A payment of the hash can be accepted for the invoice. -/
structure Lockable (state : InvoiceState) (invoiceId transactionHash : String) : Prop where
  isOpen : state.invoices.countP (InvoiceState.lockable invoiceId) = 1
  unused : ∀ payment ∈ state.payments,
    payment.invoiceId ≠ invoiceId ∧ payment.transactionHash ≠ transactionHash

theorem lockPayment_cases (state : InvoiceState) (invoiceId transactionHash : String) :
    (∃ error, state.lockPayment invoiceId transactionHash = (.error error, state)) ∨
      Lockable state invoiceId transactionHash ∧
        state.lockPayment invoiceId transactionHash = (.ok (), { state with
          invoices := state.invoices.map fun row =>
            if InvoiceState.lockable invoiceId row then { row with status := .VERIFYING } else row
          payments := state.payments ++ [{
            invoiceId, transactionHash, payerAddress := none, status := .VERIFYING
            verifiedAt := none, rejectionCode := none }] }) := by
  unfold InvoiceState.lockPayment
  split
  · exact .inl ⟨_, rfl⟩
  · next hone =>
      split
      · exact .inl ⟨_, rfl⟩
      · next hused =>
          refine .inr ⟨⟨not_not.mp hone, ?_⟩, rfl⟩
          simpa [not_or] using hused

theorem locked_evolves (invoiceId : String) (row : InvoiceRow) : row.Evolves
    (if InvoiceState.lockable invoiceId row then { row with status := .VERIFYING } else row) := by
  by_cases hlockable : InvoiceState.lockable invoiceId row = true
  · rw [if_pos hlockable]
    refine ⟨rfl, fun hclosed => ?_⟩
    simp only [InvoiceState.lockable, Bool.and_eq_true, decide_eq_true_eq] at hlockable
    rw [hlockable.2] at hclosed
    cases hclosed
  · rw [if_neg hlockable]
    exact .refl row

theorem lockPayment_consistent (hconsistent : Consistent accepts state)
    (invoiceId transactionHash : String) :
    Consistent accepts (state.lockPayment invoiceId transactionHash).2 := by
  rcases lockPayment_cases state invoiceId transactionHash with ⟨error, hfailed⟩ | ⟨hlockable, hlocked⟩
  · rwa [hfailed]
  rw [hlocked]
  have hevolves := locked_evolves invoiceId
  obtain ⟨found, hfound, hopen⟩ :=
    List.countP_pos_iff.mp (Nat.lt_of_lt_of_eq Nat.one_pos hlockable.isOpen.symm)
  -- The invoice of the new payment is the one that is locked.
  have hselected : ∀ row ∈ state.invoices,
      row.id = invoiceId ↔ InvoiceState.lockable invoiceId row = true := by
    intro row hrow
    have hid : InvoiceState.lockable invoiceId found = true → found.id = invoiceId := fun hopen =>
      of_decide_eq_true (Bool.and_eq_true_iff.mp hopen).1
    constructor
    · intro hsame
      rwa [row_unique hconsistent hrow hfound (.inl (hsame.trans (hid hopen).symm))]
    · intro hrowOpen
      exact of_decide_eq_true (Bool.and_eq_true_iff.mp hrowOpen).1
  refine ⟨ids_map (fun row _ => hevolves row) hconsistent.ids, ?_, ?_, ?_, ?_⟩
  · refine List.pairwise_append.mpr ⟨hconsistent.payments, List.pairwise_singleton _ _, ?_⟩
    intro payment hpayment other hother
    rw [List.mem_singleton.mp hother]
    exact hlockable.unused payment hpayment
  all_goals
    intro next hnext
    obtain ⟨row, hrow, rfl⟩ := List.mem_map.mp hnext
  · rw [(hevolves row).id]
    simp only [List.mem_append, List.mem_singleton, or_and_right, exists_or, exists_eq_left]
    by_cases hlock : InvoiceState.lockable invoiceId row = true
    · rw [if_pos hlock]
      exact iff_of_true (.inr ((hselected row hrow).mpr hlock).symm) (.inl rfl)
    · rw [if_neg hlock, ← hconsistent.submitted row hrow]
      refine or_iff_left fun hsame => hlock ((hselected row hrow).mp hsame.symm)
  · intro hpaid
    have hpaid : row.status = .PAID := by
      by_cases hlock : InvoiceState.lockable invoiceId row = true
      · rw [if_pos hlock] at hpaid
        cases hpaid
      · rwa [if_neg hlock] at hpaid
    obtain ⟨payment, hpayment, hinvoice, hverified, payer, hpayer, hbacked⟩ :=
      hconsistent.paid row hrow hpaid
    exact ⟨payment, List.mem_append_left _ hpayment, hinvoice.trans (hevolves row).id.symm,
      hverified, payer, hpayer, hbacked.row_evolves (hevolves row)⟩
  · intro payment hpayment hinvoice hverified
    rcases List.mem_append.mp hpayment with hold | hnew
    · have hpaid := hconsistent.verified row hrow payment hold
        (hinvoice.trans (hevolves row).id) hverified
      rw [(hevolves row).closed (by rw [hpaid]; rfl), hpaid]
    · rw [List.mem_singleton.mp hnew] at hverified
      cases hverified

/-! ### Payments -/

theorem unsettled_unverified {invoiceId transactionHash : String} {payment : InvoicePayment}
    (hunsettled : InvoiceState.unsettled invoiceId transactionHash payment = true) :
    payment.invoiceId = invoiceId ∧ payment.transactionHash = transactionHash ∧
      payment.status ≠ .VERIFIED := by
  simp only [InvoiceState.unsettled, Bool.and_eq_true, decide_eq_true_eq] at hunsettled
  refine ⟨hunsettled.1.1, hunsettled.1.2, fun hverified => ?_⟩
  rw [hverified] at hunsettled
  exact absurd hunsettled.2 (by decide)

theorem unsettled_of_unverified {invoiceId transactionHash : String} {payment : InvoicePayment}
    (hinvoice : payment.invoiceId = invoiceId) (hhash : payment.transactionHash = transactionHash)
    (hunverified : payment.status ≠ .VERIFIED) :
    InvoiceState.unsettled invoiceId transactionHash payment = true := by
  simp only [InvoiceState.unsettled, Bool.and_eq_true, decide_eq_true_eq]
  refine ⟨⟨hinvoice, hhash⟩, ?_⟩
  cases hstatus : payment.status <;> first | exact absurd hstatus hunverified | decide

/-- An update of the unsettled payments of an invoice. -/
theorem unsettled_evolves {invoiceId transactionHash : String}
    {update : InvoicePayment → InvoicePayment}
    (hupdate : ∀ payment, (update payment).invoiceId = payment.invoiceId ∧
      (update payment).transactionHash = payment.transactionHash) (payment : InvoicePayment) :
    payment.Evolves (if InvoiceState.unsettled invoiceId transactionHash payment then update payment
      else payment) := by
  by_cases hunsettled : InvoiceState.unsettled invoiceId transactionHash payment = true
  · rw [if_pos hunsettled]
    exact ⟨(hupdate payment).1, (hupdate payment).2, fun hverified =>
      absurd hverified (unsettled_unverified hunsettled).2.2⟩
  · rw [if_neg hunsettled]
    exact .refl payment

theorem exists_payment_map {payments : List InvoicePayment} {f : InvoicePayment → InvoicePayment}
    (hevolves : ∀ payment : InvoicePayment, payment.Evolves (f payment)) (invoiceId : String) :
    (∃ payment ∈ payments.map f, payment.invoiceId = invoiceId) ↔
      ∃ payment ∈ payments, payment.invoiceId = invoiceId := by
  have hsame : ∀ payment : InvoicePayment, (f payment).invoiceId = payment.invoiceId :=
    fun payment => (hevolves payment).invoiceId
  simp only [List.mem_map, exists_exists_and_eq_and, hsame]

theorem markPayment_consistent (hconsistent : Consistent accepts state)
    (invoiceId transactionHash : String) (rejectionCode : Option String) :
    Consistent accepts (state.markPayment invoiceId transactionHash rejectionCode).2 := by
  have hevolves := @unsettled_evolves invoiceId transactionHash (fun payment =>
    { payment with
      status := if rejectionCode.isSome then .REJECTED else .VERIFYING
      rejectionCode }) fun _ => ⟨rfl, rfl⟩
  refine ⟨hconsistent.ids, payments_map (fun payment _ => hevolves payment) hconsistent.payments,
    fun row hrow => ?_, fun row hrow hpaid => ?_, fun row hrow next hnext hinvoice hverified => ?_⟩
  · exact (exists_payment_map hevolves row.id).trans (hconsistent.submitted row hrow)
  · obtain ⟨payment, hpayment, hpaidBy⟩ := hconsistent.paid row hrow hpaid
    have hsame := (hevolves payment).verified hpaidBy.2.1
    exact ⟨payment, List.mem_map.mpr ⟨payment, hpayment, hsame⟩, hpaidBy⟩
  · obtain ⟨payment, hpayment, rfl⟩ := List.mem_map.mp hnext
    rw [(hevolves payment).invoiceId] at hinvoice
    by_cases hunsettled : InvoiceState.unsettled invoiceId transactionHash payment = true
    · rw [if_pos hunsettled] at hverified
      cases rejectionCode <;> cases hverified
    · rw [if_neg hunsettled] at hverified
      exact hconsistent.verified row hrow payment hpayment hinvoice hverified

/-- There is a payment of the invoice with the hash, backed by a completed intent. -/
def Settleable (accepts : Acceptance) (invoiceId transactionHash payer : String)
    (state : InvoiceState) : Prop :=
  (∃ payment ∈ state.payments,
      payment.invoiceId = invoiceId ∧ payment.transactionHash = transactionHash) ∧
    ∃ row ∈ state.invoices, row.id = invoiceId ∧
      Backed accepts state.intents row transactionHash payer

theorem paid_evolves (invoiceId : String) (paidAt : ℕ) (row : InvoiceRow) : row.Evolves
    (if row.id = invoiceId && row.status = .VERIFYING then
      { row with status := .PAID, paidAt := some paidAt } else row) := by
  by_cases hverifying : (row.id = invoiceId && row.status = .VERIFYING) = true
  · rw [if_pos hverifying]
    refine ⟨rfl, fun hclosed => ?_⟩
    simp only [Bool.and_eq_true, decide_eq_true_eq] at hverifying
    rw [hverifying.2] at hclosed
    cases hclosed
  · rw [if_neg hverifying]
    exact .refl row

theorem settlePayment_consistent {invoiceId transactionHash payer : String}
    (hconsistent : Consistent accepts state)
    (hsettleable : Settleable accepts invoiceId transactionHash payer state)
    (verifiedAt paidAt : ℕ) :
    Consistent accepts
      (state.settlePayment invoiceId transactionHash payer verifiedAt paidAt).2 := by
  have hpayments := @unsettled_evolves invoiceId transactionHash (fun payment =>
    { payment with
      status := .VERIFIED, payerAddress := some payer, verifiedAt := some verifiedAt
      rejectionCode := none }) fun _ => ⟨rfl, rfl⟩
  have hrows := paid_evolves invoiceId paidAt
  obtain ⟨⟨submitted, hsubmitted, hinvoice, hhash⟩, found, hfound, hid, hbacked⟩ := hsettleable
  -- The invoice that has the payment is being verified, or paid already.
  have hstatus := (hconsistent.submitted found hfound).mp
    ⟨submitted, hsubmitted, hinvoice.trans hid.symm⟩
  refine ⟨ids_map (fun row _ => hrows row) hconsistent.ids,
    payments_map (fun payment _ => hpayments payment) hconsistent.payments, ?_, ?_, ?_⟩
  all_goals
    intro next hnext
    obtain ⟨row, hrow, rfl⟩ := List.mem_map.mp hnext
  · rw [(hrows row).id]
    refine (exists_payment_map hpayments row.id).trans ((hconsistent.submitted row hrow).trans ?_)
    by_cases hverifying : (row.id = invoiceId && row.status = .VERIFYING) = true
    · rw [if_pos hverifying]
      simp only [Bool.and_eq_true, decide_eq_true_eq] at hverifying
      exact iff_of_true (.inl hverifying.2) (.inr rfl)
    · rw [if_neg hverifying]
  · intro hpaid
    by_cases hverifying : (row.id = invoiceId && row.status = .VERIFYING) = true
    · simp only [Bool.and_eq_true, decide_eq_true_eq] at hverifying
      have hunverified : submitted.status ≠ .VERIFIED := by
        intro hverified
        have hbefore := hconsistent.verified row hrow submitted hsubmitted
          (hinvoice.trans hverifying.1.symm) hverified
        rw [hverifying.2] at hbefore
        cases hbefore
      have hselected := unsettled_of_unverified hinvoice hhash hunverified
      have hsame : found = row := row_unique hconsistent hfound hrow (.inl (hid.trans hverifying.1.symm))
      refine ⟨_, List.mem_map.mpr ⟨submitted, hsubmitted, if_pos hselected⟩,
        hinvoice.trans (hverifying.1.symm.trans (hrows row).id.symm), rfl, payer, rfl, ?_⟩
      rw [← hhash, hsame] at hbacked
      exact hbacked.row_evolves (hrows row)
    · rw [if_neg hverifying] at hpaid
      obtain ⟨payment, hpayment, hof, hverified, by', hpayer, hold⟩ :=
        hconsistent.paid row hrow hpaid
      refine ⟨payment, List.mem_map.mpr ⟨payment, hpayment, (hpayments payment).verified hverified⟩,
        hof.trans (hrows row).id.symm, hverified, by', hpayer, hold.row_evolves (hrows row)⟩
  · intro next hnext hof hverified
    obtain ⟨payment, hpayment, rfl⟩ := List.mem_map.mp hnext
    rw [(hpayments payment).invoiceId, (hrows row).id] at hof
    by_cases hunsettled : InvoiceState.unsettled invoiceId transactionHash payment = true
    · have hsame : found = row := row_unique hconsistent hfound hrow
        (.inl (hid.trans ((unsettled_unverified hunsettled).1.symm.trans hof)))
      rw [hsame] at hstatus hid
      rcases hstatus with hverifying | hpaid
      · rw [if_pos (by simp [hid, hverifying])]
      · rw [(hrows row).closed (by rw [hpaid]; rfl), hpaid]
    · rw [if_neg hunsettled] at hverified
      have hpaid := hconsistent.verified row hrow payment hpayment hof hverified
      rw [(hrows row).closed (by rw [hpaid]; rfl), hpaid]

/-! ### Any operation -/

/-- An operation that settles an invoice finds something to settle. -/
def SettlesBacked (accepts : Acceptance) (op : InvoiceOp) (_input : InvoiceInput)
    (state : InvoiceState) : Prop :=
  ∀ invoiceId transactionHash payer verifiedAt paidAt,
    op = .settlePayment invoiceId transactionHash payer verifiedAt paidAt →
      Settleable accepts invoiceId transactionHash payer state

variable {runtime : Runtime} {routing : PaymentRouting}

theorem readThrough_state {α : Type} (input : InvoiceInput) (answer : Except DbError α) :
    (state.readThrough input answer).2 = state := by
  unfold InvoiceState.readThrough
  split <;> rfl

theorem follows_writeThrough {ε α : Type} {input : InvoiceInput} {toError : DbError → ε}
    {outcome : Except ε α × InvoiceState} (hstart : Follows accepts state state)
    (hwritten : Follows accepts state outcome.2) :
    Follows accepts state (state.writeThrough input toError outcome).2 := by
  rcases state.writeThrough_cases input toError outcome with hwrite | hsame
  · rwa [hwrite]
  · rwa [hsame]

theorem answer_follows (op : InvoiceOp) (input : InvoiceInput) (state : InvoiceState)
    (hstart : Follows accepts state state) (hguar : SettlesBacked accepts op input state) :
    Follows accepts state ((invoiceMachine runtime routing).answer op input state).2 := by
  have hconsistent := hstart.consistent
  have hintents : ∀ after : InvoiceState, after.intents = state.intents →
      Progresses state.database after.database := by
    intro after hsame
    refine ⟨?_, fun row hmember => ⟨row, ?_, .refl row⟩⟩
    · show UniqueIntents after.intents
      rw [hsame]
      exact hstart.intents.unique
    · show row ∈ after.intents
      rwa [hsame]
  have hkept : ∀ {payments : List InvoicePayment} {f : InvoicePayment → InvoicePayment},
      (∀ payment : InvoicePayment, payment.Evolves (f payment)) → ∀ payment ∈ payments,
        ∃ next ∈ payments.map f, payment.Evolves next :=
    fun hevolves payment hpayment => ⟨_, List.mem_map_of_mem hpayment, hevolves payment⟩
  have hrows : ∀ {rows : List InvoiceRow} {f : InvoiceRow → InvoiceRow},
      (∀ row : InvoiceRow, row.Evolves (f row)) → ∀ row ∈ rows, ∃ next ∈ rows.map f, row.Evolves next :=
    fun hevolves row hrow => ⟨_, List.mem_map_of_mem hrow, hevolves row⟩
  cases op with
  | intents op =>
      have hprogresses := @answer_progresses runtime routing op input.toInput state.database
        hstart.intents.unique
      refine ⟨⟨hconsistent.ids, hconsistent.payments, hconsistent.submitted, ?_,
        hconsistent.verified⟩, ⟨hprogresses.unique, hprogresses.rows⟩, hstart.invoices,
        hstart.payments⟩
      intro row hrow hpaid
      obtain ⟨payment, hpayment, hinvoice, hverified, payer, hpayer, hbacked⟩ :=
        hconsistent.paid row hrow hpaid
      exact ⟨payment, hpayment, hinvoice, hverified, payer, hpayer,
        hbacked.evolves hprogresses.rows (.refl row)⟩
  | node op => exact hstart
  | findUnique | findUniqueOrThrow | findOwned | findMany | findPayment =>
      simp only [invoiceMachine, readThrough_state]
      exact hstart
  | updateMany update =>
      refine follows_writeThrough hstart ⟨updateMany_consistent hconsistent update,
        hintents _ rfl, hrows update.updated_evolves, hstart.payments⟩
  | lockPayment invoiceId transactionHash =>
      refine follows_writeThrough hstart ?_
      have hafter := lockPayment_consistent hconsistent invoiceId transactionHash
      rcases lockPayment_cases state invoiceId transactionHash with ⟨error, hfailed⟩ | ⟨-, hlocked⟩
      · rwa [hfailed]
      · rw [hlocked] at hafter ⊢
        refine ⟨hafter, hintents _ rfl, hrows (locked_evolves invoiceId), ?_⟩
        exact fun payment hpayment => ⟨payment, List.mem_append_left _ hpayment, .refl payment⟩
  | settlePayment invoiceId transactionHash payer verifiedAt paidAt =>
      exact follows_writeThrough hstart ⟨settlePayment_consistent hconsistent
        (hguar _ _ _ _ _ rfl) verifiedAt paidAt, hintents _ rfl, hrows (paid_evolves _ _),
        hkept (unsettled_evolves fun _ => ⟨rfl, rfl⟩)⟩
  | markPayment invoiceId transactionHash rejectionCode =>
      exact follows_writeThrough hstart ⟨markPayment_consistent hconsistent invoiceId
        transactionHash rejectionCode, hintents _ rfl, hstart.invoices,
        hkept (unsettled_evolves fun _ => ⟨rfl, rfl⟩)⟩

end WizPay.Invoices
