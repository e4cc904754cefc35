import WizPay.Invoices.Lifecycle

/-!
# Settling invoices

Concurrent calls settle an invoice only on a payment that was submitted for it
and an intent that its receipt completed, whatever the others do in between.
-/

namespace WizPay.Invoices

open Foundation Backend Intents

variable {runtime : Runtime} {routing : PaymentRouting} {accepts : Acceptance}

/-! ## Calls that settle nothing -/

/-- An operation that settles no invoice. -/
def InvoiceOp.settlesNone : InvoiceOp → Prop
  | .settlePayment _ _ _ _ _ => False
  | _ => True

theorem settlesBacked_of_none (op : InvoiceOp) (hnone : op.settlesNone) (input : InvoiceInput)
    (state : InvoiceState) : SettlesBacked accepts op input state := by
  rintro invoiceId transactionHash payer verifiedAt paidAt rfl
  exact hnone.elim

section

open Service

theorem intents_settlesNone {α : Type} (service : IntentService α) :
    Performs InvoiceOp.settlesNone (intents service) :=
  Program.performs_lift (fun _ => trivial) service.run

theorem askVerifier_settlesNone (service : NodeService Verdict) :
    Performs InvoiceOp.settlesNone (askVerifier service) :=
  Program.performs_lift (fun _ => trivial) service.run

theorem performs_answer {α : Type} {op : InvoiceOp} {toResult : op.Res → InvoiceService α}
    (hop : op.settlesNone) (hresult : ∀ answer, Performs InvoiceOp.settlesNone (toResult answer)) :
    Performs InvoiceOp.settlesNone (perform (S := invoiceSignature) op >>= toResult) :=
  performs_bind (performs_perform hop) hresult

theorem findUnique_settlesNone (publicId : String) :
    Performs InvoiceOp.settlesNone (findUnique publicId) :=
  performs_answer trivial fun _ => performs_orThrow _

theorem findOwned_settlesNone (merchantUserId id : String) :
    Performs InvoiceOp.settlesNone (findOwned merchantUserId id) :=
  performs_answer trivial fun _ => performs_orThrow _

theorem findPayment_settlesNone (transactionHash : String) :
    Performs InvoiceOp.settlesNone (findPayment transactionHash) :=
  performs_answer trivial fun _ => performs_orThrow _

theorem updateInvoices_settlesNone (update : InvoiceUpdate) :
    Performs InvoiceOp.settlesNone (updateInvoices update) :=
  performs_answer trivial fun _ => performs_orThrow _

theorem markPayment_settlesNone (invoiceId transactionHash : String)
    (rejectionCode : Option String) :
    Performs InvoiceOp.settlesNone (markPayment invoiceId transactionHash rejectionCode) :=
  performs_answer trivial fun _ => performs_orThrow _

theorem expireOpenInvoices_settlesNone (filter : InvoiceFilter) :
    Performs InvoiceOp.settlesNone (expireOpenInvoices filter) :=
  performs_bind (intents_settlesNone _) fun _ =>
    performs_discard (updateInvoices_settlesNone _)

theorem list_settlesNone (principal : InvoiceMerchantPrincipal) (query : ListInvoices) :
    Performs InvoiceOp.settlesNone (list runtime principal query) := by
  refine performs_bind (expireOpenInvoices_settlesNone _) fun _ =>
    performs_bind (performs_answer trivial fun _ => performs_orThrow _) fun page => ?_
  exact performs_bind (performs_ofExcept _) fun _ => performs_pure _

theorem getOwned_settlesNone (principal : InvoiceMerchantPrincipal) (id : String) :
    Performs InvoiceOp.settlesNone (getOwned runtime principal id) := by
  refine performs_bind (performs_throwIf _) fun _ =>
    performs_bind (expireOpenInvoices_settlesNone _) fun _ =>
      performs_bind (findOwned_settlesNone _ _) fun found => ?_
  cases found with
  | none => exact performs_throw _
  | some invoice => exact performs_ofExcept _

theorem cancel_settlesNone (principal : InvoiceMerchantPrincipal) (id : String) :
    Performs InvoiceOp.settlesNone (cancel runtime principal id) := by
  refine performs_bind (performs_throwIf _) fun _ =>
    performs_bind (expireOpenInvoices_settlesNone _) fun _ =>
      performs_bind (intents_settlesNone _) fun now =>
        performs_bind (updateInvoices_settlesNone _) fun count => ?_
  split
  · refine performs_bind (findOwned_settlesNone _ _) fun found => ?_
    cases found with
    | none => exact performs_throw _
    | some invoice => exact performs_throw _
  · exact getOwned_settlesNone principal id

theorem getPublic_settlesNone (publicId : String) :
    Performs InvoiceOp.settlesNone (getPublic runtime routing publicId) := by
  refine performs_bind (performs_throwIf _) fun _ =>
    performs_bind (expireOpenInvoices_settlesNone _) fun _ =>
      performs_bind (findUnique_settlesNone _) fun found => ?_
  cases found with
  | none => exact performs_throw _
  | some invoice => exact performs_bind (performs_ofExcept _) fun _ => performs_ofExcept _

theorem assertAcceptsPayment_settlesNone (row : InvoiceRow) (now : ℕ) :
    Performs InvoiceOp.settlesNone (assertAcceptsPayment row now) := by
  unfold assertAcceptsPayment
  split
  · exact performs_throw _
  · exact performs_throw _
  · exact performs_throw _
  · exact performs_throwIf _
  · exact performs_pure _

end

/-! ## Snapshots -/

/-- An invoice that was read: its row and its payment are still there. -/
structure Snapshot (invoice : InvoiceWithPayment) (state : InvoiceState) : Prop where
  row : ∃ row ∈ state.invoices, invoice.invoice.Evolves row
  payment : ∀ payment, invoice.payment = some payment →
    payment.invoiceId = invoice.invoice.id ∧ ∃ next ∈ state.payments, payment.Evolves next

theorem Snapshot.follows {invoice : InvoiceWithPayment} {before after : InvoiceState}
    (hfollows : Follows accepts before after) (hsnapshot : Snapshot invoice before) :
    Snapshot invoice after := by
  obtain ⟨⟨row, hrow, hevolves⟩, hpayment⟩ := hsnapshot
  obtain ⟨next, hnext, hlater⟩ := hfollows.invoices row hrow
  refine ⟨⟨next, hnext, hevolves.trans hlater⟩, fun payment hsome => ?_⟩
  obtain ⟨hinvoice, kept, hkept, hsame⟩ := hpayment payment hsome
  obtain ⟨last, hlast, hlater⟩ := hfollows.payments kept hkept
  exact ⟨hinvoice, last, hlast, hsame.trans hlater⟩

theorem find_snapshot {state : InvoiceState} {publicId : String} {invoice : InvoiceWithPayment}
    (hfound : state.find (fun row => row.publicId = publicId) = some invoice) :
    invoice.invoice.publicId = publicId ∧ Snapshot invoice state := by
  obtain ⟨row, hrow, rfl⟩ := Option.map_eq_some_iff.mp hfound
  have hid : row.publicId = publicId := by simpa using List.find?_some hrow
  refine ⟨hid, ⟨row, List.mem_of_find?_eq_some hrow, .refl row⟩, ?_⟩
  intro payment hpayment
  have hof : payment.invoiceId = row.id := by simpa using List.find?_some hpayment
  exact ⟨hof, payment, List.mem_of_find?_eq_some hpayment, .refl payment⟩

/-- Two snapshots of one invoice were created the same. -/
theorem Snapshot.request_eq {first second : InvoiceWithPayment} {state : InvoiceState}
    (hfirst : Snapshot first state) (hsecond : Snapshot second state)
    (hstate : Follows accepts state state)
    (hpublic : first.invoice.publicId = second.invoice.publicId) :
    first.invoice.request = second.invoice.request := by
  obtain ⟨one, hone, hevolves⟩ := hfirst.row
  obtain ⟨other, hother, hlater⟩ := hsecond.row
  have hsame : one = other := row_unique hstate.consistent hone hother (.inr (by
    rw [hevolves.column (·.publicId) fun _ => rfl, hlater.column (·.publicId) fun _ => rfl,
      hpublic]))
  rw [← hevolves.request, hsame, hlater.request]

theorem readThrough_ok {α : Type} {state : InvoiceState} {input : InvoiceInput}
    {answer : Except DbError α} {value : α}
    (hread : (state.readThrough input answer).1 = .ok value) : answer = .ok value := by
  unfold InvoiceState.readThrough at hread
  split at hread
  · exact hread
  · cases hread

section

open Service

theorem findUnique_snapshot (publicId : String) (state : InvoiceState) :
    Meets (invoiceMachine runtime routing) (Follows accepts) (SettlesBacked accepts)
      (fun found state => ∀ invoice, found = some invoice →
        invoice.invoice.publicId = publicId ∧ Snapshot invoice state)
      (findUnique publicId) state := by
  have hread := @meets_perform invoiceSignature InvoiceInput InvoiceState
    (invoiceMachine runtime routing) (Follows accepts) (SettlesBacked accepts) state
    (.findUnique publicId)
    (fun answer state => ∀ invoice, answer = Except.ok (some invoice) →
      invoice.invoice.publicId = publicId ∧ Snapshot invoice state)
    fun later _ input => ⟨settlesBacked_of_none (.findUnique publicId) trivial input later, ?_⟩
  · refine meets_bind follows_isRely hread fun answer later hlater =>
      meets_orThrow fun found hfound last hlast invoice hinvoice => ?_
    have hsnapshot := hlater invoice (by rw [hfound, hinvoice])
    exact ⟨hsnapshot.1, hsnapshot.2.follows hlast⟩
  · intro last hlast invoice hanswer
    have hsnapshot := find_snapshot (Except.ok.inj (readThrough_ok hanswer))
    simp only [invoiceMachine, readThrough_state] at hlast
    exact ⟨hsnapshot.1, hsnapshot.2.follows hlast⟩

theorem findUniqueOrThrow_snapshot (publicId : String) (state : InvoiceState) :
    Meets (invoiceMachine runtime routing) (Follows accepts) (SettlesBacked accepts)
      (fun invoice state => invoice.invoice.publicId = publicId ∧ Snapshot invoice state)
      (findUniqueOrThrow publicId) state := by
  have hread := @meets_perform invoiceSignature InvoiceInput InvoiceState
    (invoiceMachine runtime routing) (Follows accepts) (SettlesBacked accepts) state
    (.findUniqueOrThrow publicId)
    (fun answer state => ∀ invoice, answer = Except.ok invoice →
      invoice.invoice.publicId = publicId ∧ Snapshot invoice state)
    fun later _ input =>
      ⟨settlesBacked_of_none (.findUniqueOrThrow publicId) trivial input later, ?_⟩
  · refine meets_bind follows_isRely hread fun answer later hlater =>
      meets_orThrow fun invoice hanswer last hlast => ?_
    have hsnapshot := hlater invoice hanswer
    exact ⟨hsnapshot.1, hsnapshot.2.follows hlast⟩
  · intro last hlast invoice hanswer
    have hfound := readThrough_ok hanswer
    have hsnapshot : invoice.invoice.publicId = publicId ∧ Snapshot invoice later := by
      split at hfound
      · next hsome =>
          rw [Except.ok.inj hfound] at hsome
          exact find_snapshot hsome
      · cases hfound
    simp only [invoiceMachine, readThrough_state] at hlast
    exact ⟨hsnapshot.1, hsnapshot.2.follows hlast⟩

/-! ## Submitted payments -/

/-- The invoice has a payment with the hash. -/
def Submitted (publicId transactionHash : String) (state : InvoiceState) : Prop :=
  ∃ row ∈ state.invoices, row.publicId = publicId ∧ ∃ payment ∈ state.payments,
    payment.invoiceId = row.id ∧ payment.transactionHash = transactionHash

theorem Submitted.follows {publicId transactionHash : String} {before after : InvoiceState}
    (hfollows : Follows accepts before after) (hsubmitted : Submitted publicId transactionHash before) :
    Submitted publicId transactionHash after := by
  obtain ⟨row, hrow, hpublic, payment, hpayment, hof, hhash⟩ := hsubmitted
  obtain ⟨next, hnext, hevolves⟩ := hfollows.invoices row hrow
  obtain ⟨kept, hkept, hsame⟩ := hfollows.payments payment hpayment
  refine ⟨next, hnext, (hevolves.column (·.publicId) fun _ => rfl).trans hpublic, kept, hkept, ?_,
    hsame.transactionHash.trans hhash⟩
  rw [hsame.invoiceId, hof, hevolves.id]

theorem Snapshot.submitted {invoice : InvoiceWithPayment} {publicId transactionHash : String}
    {state : InvoiceState} (hsnapshot : Snapshot invoice state)
    (hpublic : invoice.invoice.publicId = publicId) {payment : InvoicePayment}
    (hpayment : invoice.payment = some payment) (hhash : payment.transactionHash = transactionHash) :
    Submitted publicId transactionHash state := by
  obtain ⟨⟨row, hrow, hevolves⟩, hpayments⟩ := hsnapshot
  obtain ⟨hof, next, hnext, hlater⟩ := hpayments payment hpayment
  refine ⟨row, hrow, (hevolves.column (·.publicId) fun _ => rfl).trans hpublic, next, hnext, ?_,
    hlater.transactionHash.trans hhash⟩
  rw [hlater.invoiceId, hof, hevolves.id]

/-- A payment that was locked without an error is there. -/
theorem lockPayment_submitted {state : InvoiceState} {input : InvoiceInput}
    {row : InvoiceRow} {transactionHash : String} {kept : InvoiceRow} (hkept : kept ∈ state.invoices)
    (hevolves : row.Evolves kept)
    (hlocked : ((invoiceMachine runtime routing).answer (.lockPayment row.id transactionHash)
      input state).1 = Except.ok ()) :
    Submitted row.publicId transactionHash ((invoiceMachine runtime routing).answer
      (.lockPayment row.id transactionHash) input state).2 := by
  have hanswer : ((invoiceMachine runtime routing).answer (.lockPayment row.id transactionHash)
      input state) = state.lockPayment row.id transactionHash := by
    simp only [invoiceMachine, InvoiceState.writeThrough] at hlocked ⊢
    split at hlocked
    · rfl
    · cases hlocked
  rw [hanswer] at hlocked ⊢
  rcases lockPayment_cases state row.id transactionHash with ⟨error, hfailed⟩ | ⟨-, hafter⟩
  · rw [hfailed] at hlocked
    cases hlocked
  · rw [hafter]
    have hnext := locked_evolves row.id kept
    refine ⟨_, List.mem_map_of_mem hkept, ?_, _, List.mem_append_right _ List.mem_cons_self, ?_, rfl⟩
    · rw [hnext.column (·.publicId) fun _ => rfl, hevolves.column (·.publicId) fun _ => rfl]
    · rw [hnext.id, hevolves.id]

theorem submitPayment_submitted {publicId transactionHash : String} {row : InvoiceRow}
    {state : InvoiceState} (hpublic : row.publicId = publicId)
    (hrow : ∃ kept ∈ state.invoices, row.Evolves kept) :
    Meets (invoiceMachine runtime routing) (Follows accepts) (SettlesBacked accepts)
      (fun invoice state => (invoice.invoice.publicId = publicId ∧ Snapshot invoice state) ∧
        Submitted publicId transactionHash state)
      (submitPayment publicId transactionHash row) state := by
  have hstable : ∀ {state later : InvoiceState}, Follows accepts state later →
      (∃ kept ∈ state.invoices, row.Evolves kept) → ∃ kept ∈ later.invoices, row.Evolves kept := by
    rintro state later hlater ⟨kept, hkept, hevolves⟩
    obtain ⟨next, hnext, hnextEvolves⟩ := hlater.invoices kept hkept
    exact ⟨next, hnext, hevolves.trans hnextEvolves⟩
  refine meets_bind_keeping follows_isRely hstable answer_follows (meets_of_performs
    settlesBacked_of_none (findPayment_settlesNone _) state) hrow fun reused state _ hrow => ?_
  refine meets_bind_keeping follows_isRely hstable answer_follows (meets_of_performs
    settlesBacked_of_none (performs_throwIf _) state) hrow fun _ state _ hrow => ?_
  have hlock := @meets_perform invoiceSignature InvoiceInput InvoiceState
    (invoiceMachine runtime routing) (Follows accepts) (SettlesBacked accepts) state
    (.lockPayment row.id transactionHash)
    (fun answer state => answer = Except.ok () → Submitted publicId transactionHash state)
    fun later hlater input => ⟨settlesBacked_of_none (.lockPayment row.id transactionHash) trivial
      input later, fun last hlast hanswer => by
        obtain ⟨kept, hkept, hevolves⟩ := hstable hlater hrow
        rw [← hpublic]
        exact (lockPayment_submitted hkept hevolves hanswer).follows hlast⟩
  refine meets_bind follows_isRely hlock fun answer state hanswer => ?_
  have hreread : ∀ state, Submitted publicId transactionHash state →
      Meets (invoiceMachine runtime routing) (Follows accepts) (SettlesBacked accepts)
        (fun invoice state => (invoice.invoice.publicId = publicId ∧ Snapshot invoice state) ∧
          Submitted publicId transactionHash state) (findUniqueOrThrow publicId) state :=
    fun state hsubmitted => (findUniqueOrThrow_snapshot publicId state).frame follows_isRely
      Submitted.follows answer_follows hsubmitted
  match answer with
  | .ok () => exact hreread state (hanswer rfl)
  | .error (.thrown error) => exact meets_throw error
  | .error (.database error) =>
      refine meets_bind follows_isRely (findUnique_snapshot publicId state)
        fun found state hfound => ?_
      have hchecked : Meets (invoiceMachine runtime routing) (Follows accepts)
          (SettlesBacked accepts) (fun _ state => Submitted publicId transactionHash state)
          (throwIf (((found.bind InvoiceWithPayment.payment).all fun payment =>
            payment.transactionHash ≠ transactionHash) = true) (hashReused
              "This transaction hash or invoice is already bound to another payment.") :
            InvoiceService Unit) state := by
        refine meets_throwIf fun hsome last hlast => ?_
        cases found with
        | none => exact absurd rfl hsome
        | some invoice =>
            obtain ⟨hid, hsnapshot⟩ := hfound invoice rfl
            cases hpayment : invoice.payment with
            | none => simp [hpayment] at hsome
            | some payment =>
                have hhash : payment.transactionHash = transactionHash := by
                  simpa [hpayment] using hsome
                exact (hsnapshot.submitted hid hpayment hhash).follows hlast
      exact meets_bind follows_isRely hchecked fun _ state hsubmitted => hreread state hsubmitted

/-! ## Verified payments -/

/-- A call of the intent service sees the intents only. -/
theorem intents_meets {α : Type} {service : IntentService α} {post : α → Database → Prop}
    {state : InvoiceState} (hservice : Meets (intentMachine runtime routing) Progresses
      (fun _ _ _ => True) post service state.database) :
    Meets (invoiceMachine runtime routing) (Follows accepts) (SettlesBacked accepts)
      (fun value state => post value state.database) (intents service) state := by
  refine @Program.Meets.lift _ _ _ _ (intentMachine runtime routing) Progresses (fun _ _ _ => True)
    _ _ _ _ (invoiceMachine runtime routing) (Follows accepts) (SettlesBacked accepts)
    InvoiceOp.intents (fun _ answer => answer) InvoiceState.database InvoiceInput.toInput
    (fun _ _ _ => rfl) ?_ Follows.intents ?_ service.run state hservice
  · intro op input state
    exact congrArg (Database.mk _)
      (answer_invoices runtime routing op input.toInput state.database).symm
  · exact fun op input state _ => settlesBacked_of_none (.intents op) trivial input state

/-- The verifier asks the node only, and answers as it does alone. -/
theorem askVerifier_meets {service : NodeService Verdict} {post : Verdict → Prop}
    (hservice : Returns post service) (state : InvoiceState) :
    Meets (invoiceMachine runtime routing) (Follows accepts) (SettlesBacked accepts)
      (fun verdict _ => post verdict) (askVerifier service) state :=
  Program.Returns.meets_lift
    (fun op input state => settlesBacked_of_none (.node op) trivial input state) hservice state

/-- What verification goes on from: the invoice and the intent that were read,
and a payment of that invoice with the hash. -/
structure Verifying (publicId transactionHash : String) (intent : ExecutionIntent)
    (row : InvoiceRow) (state : InvoiceState) : Prop where
  row : ∃ kept ∈ state.invoices, row.Evolves kept
  submitted : Submitted publicId transactionHash state
  intent : Stored intent.id intent state.database

theorem Verifying.follows {publicId transactionHash : String} {intent : ExecutionIntent}
    {row : InvoiceRow} {before after : InvoiceState} (hfollows : Follows accepts before after)
    (hverifying : Verifying publicId transactionHash intent row before) :
    Verifying publicId transactionHash intent row after := by
  obtain ⟨⟨kept, hkept, hevolves⟩, hsubmitted, hintent⟩ := hverifying
  obtain ⟨next, hnext, hlater⟩ := hfollows.invoices kept hkept
  exact ⟨⟨next, hnext, hevolves.trans hlater⟩, hsubmitted.follows hfollows,
    hintent.progresses hfollows.intents⟩

/-- The intent was found for the invoice. -/
structure MadeFor (intent : ExecutionIntent) (row : InvoiceRow) : Prop where
  operation : intent.operation = settlementOperation row.settlementKind
  externalReference : intent.externalReference = row.publicId

/-- What `completeWithVerifiedReceipt` is called with for a payment of the invoice. -/
def invoiceReceipt (routing : PaymentRouting) (row : InvoiceRow) (transactionHash payer : String) :
    VerifiedExecutionReceipt where
  network := routing.network
  transactionHash := transactionHash
  sourceWallet := payer
  token := row.tokenAddress
  recipient := some row.merchantWalletAddress
  batchDigest := none
  amountUnits := row.amountUnits

/-- A completed intent that was made for an invoice settles it. -/
theorem Settled.settles {transactionHash payer : String} {intent : ExecutionIntent}
    {row : InvoiceRow} {state : InvoiceState} (hunique : UniqueIntents state.intents)
    (hmade : MadeFor intent row) (hstored : Stored intent.id intent state.database)
    (hsettled : Settled intent.id (invoiceReceipt routing row transactionHash payer)
      state.database) :
    ∃ completed ∈ state.intents, Settles completed row transactionHash payer := by
  obtain ⟨completed, hcompleted, hid, hstatus, hagrees⟩ := hsettled
  obtain ⟨kept, hkept, hkeptId, hevolves⟩ := hstored
  rw [row_unique_id hunique hkept hcompleted (hkeptId.trans hid.symm)] at hevolves
  have hrequest := hevolves.request
  simp only [ExecutionIntent.request, ExecutionIntent.immutable, Immutable.mk.injEq] at hrequest
  obtain ⟨-, hoperation, -, -, -, -, -, -, -, hreference⟩ := hrequest
  refine ⟨completed, hcompleted, hstatus, hagrees.transactionHash, hoperation.trans hmade.operation,
    hreference.trans hmade.externalReference, hagrees.sourceWallet, hagrees.token,
    hagrees.amountUnits, ?_⟩
  cases hrecipient : nonempty completed.recipient with
  | none =>
      obtain ⟨digest, -, hnone⟩ := hagrees.batchDigest hrecipient
      cases hnone
  | some recipient =>
      obtain ⟨paid, hpaid, hsame⟩ := hagrees.recipient recipient hrecipient
      cases hpaid
      exact ⟨recipient, nonempty_eq_some hrecipient, hsame⟩

theorem Verifying.settleable {publicId transactionHash payer : String} {intent : ExecutionIntent}
    {row : InvoiceRow} {state : InvoiceState}
    (hverifying : Verifying publicId transactionHash intent row state)
    (hstate : Follows accepts state state) (hpublic : row.publicId = publicId)
    (hmade : MadeFor intent row) (haccepted : accepts row.merchantWalletAddress transactionHash payer)
    (hsettled : Settled intent.id (invoiceReceipt routing row transactionHash payer)
      state.database) :
    Settleable accepts row.id transactionHash payer state := by
  obtain ⟨⟨kept, hkept, hevolves⟩, ⟨found, hfound, hid, payment, hpayment, hof, hhash⟩, hstored⟩ :=
    hverifying
  have hkeptPublic := hevolves.column (·.publicId) fun _ => rfl
  have hsame : found = kept := row_unique hstate.consistent hfound hkept
    (.inr (hid.trans (hpublic.symm.trans hkeptPublic.symm)))
  refine ⟨⟨payment, hpayment, ?_, hhash⟩, kept, hkept, hevolves.id, ?_⟩
  · rw [hof, hsame, hevolves.id]
  · have hbacked : Backed accepts state.intents row transactionHash payer :=
      ⟨haccepted, Settled.settles hstate.intents.unique hmade hstored hsettled⟩
    exact hbacked.row_evolves hevolves

theorem settleInvoice_meets {publicId transactionHash : String} {intent : ExecutionIntent}
    {row : InvoiceRow} {verified : VerifiedInvoiceTransfer} {state : InvoiceState}
    (hverifying : Verifying publicId transactionHash intent row state)
    (hpublic : row.publicId = publicId) (hmade : MadeFor intent row)
    (haccepted : accepts row.merchantWalletAddress transactionHash verified.payerAddress) :
    Meets (invoiceMachine runtime routing) (Follows accepts) (SettlesBacked accepts)
      (fun _ _ => True)
      (settleInvoice runtime routing publicId transactionHash intent row verified) state := by
  have hstable : ∀ {state later : InvoiceState}, Follows accepts state later →
      Verifying publicId transactionHash intent row state ∧ Settled intent.id
        (invoiceReceipt routing row transactionHash verified.payerAddress) state.database →
      Verifying publicId transactionHash intent row later ∧ Settled intent.id
        (invoiceReceipt routing row transactionHash verified.payerAddress) later.database :=
    fun hlater hfacts => ⟨hfacts.1.follows hlater, hfacts.2.progresses hlater.intents⟩
  have hcompletes : Meets (invoiceMachine runtime routing) (Follows accepts)
      (SettlesBacked accepts) (fun _ state => Settled intent.id
        (invoiceReceipt routing row transactionHash verified.payerAddress) state.database)
      (discard (intents (completeWithVerifiedReceipt runtime routing intent.id
        (invoiceReceipt routing row transactionHash verified.payerAddress))) :
          InvoiceService Unit) state :=
    meets_discard (intents_meets (completeWithVerifiedReceipt_settled _ _ _))
  refine meets_bind_keeping follows_isRely Verifying.follows answer_follows hcompletes hverifying
    fun _ state hsettled hverifying => ?_
  refine meets_bind_keeping follows_isRely hstable answer_follows (meets_of_performs
    settlesBacked_of_none (intents_settlesNone _) state) ⟨hverifying, hsettled⟩
      fun verifiedAt state _ hfacts => ?_
  refine meets_bind_keeping follows_isRely hstable answer_follows (meets_of_performs
    settlesBacked_of_none (intents_settlesNone _) state) hfacts fun paidAt state _ hfacts => ?_
  -- The one operation that is guaranteed by what the method has found out.
  refine meets_then follows_isRely ?_ fun _ state =>
    meets_of_performs settlesBacked_of_none (getPublic_settlesNone publicId) state
  refine meets_then follows_isRely (meets_perform fun later hlater input => ⟨?_, fun _ _ => trivial⟩)
    fun answer state => meets_of_performs settlesBacked_of_none (performs_orThrow _) state
  rintro _ _ _ _ _ ⟨⟩
  have hlast := hstable hlater hfacts
  exact hlast.1.settleable (follows_isRely.refl_after hlater) hpublic hmade haccepted hlast.2

/-- The verifier accepts a payment only as one of the acceptance. -/
def Verifier.Accepts (runtime : Runtime) (accepts : Acceptance) (verifier : Verifier) : Prop :=
  ∀ input stored submittedHash, getAddress runtime stored = some input.merchantWalletAddress →
    input.transactionHash = runtime.toLowerCase submittedHash →
      Returns (fun verdict => ∀ verified, verdict = .ok verified →
        accepts stored input.transactionHash verified.payerAddress) (verifier input)

theorem verifyPayment_meets {verifier : Verifier} (hverifier : verifier.Accepts runtime accepts)
    {publicId submittedHash : String} {intent : ExecutionIntent} {row : InvoiceRow}
    {state : InvoiceState}
    (hverifying : Verifying publicId (runtime.toLowerCase submittedHash) intent row state)
    (hpublic : row.publicId = publicId) (hmade : MadeFor intent row) :
    Meets (invoiceMachine runtime routing) (Follows accepts) (SettlesBacked accepts)
      (fun _ _ => True) (verifyPayment runtime routing verifier publicId
        (runtime.toLowerCase submittedHash) intent row) state := by
  refine meets_bind_keeping follows_isRely Verifying.follows answer_follows (meets_of_performs
    settlesBacked_of_none (performs_ofExcept _) state) hverifying
      fun tokenAddress state _ hverifying => ?_
  have haddress : Meets (invoiceMachine runtime routing) (Follows accepts) (SettlesBacked accepts)
      (fun merchant _ => requireAddress runtime row.merchantWalletAddress = .ok merchant)
      (Service.ofExcept (requireAddress runtime row.merchantWalletAddress)) state :=
    meets_ofExcept fun merchant hmerchant _ _ => hmerchant
  refine meets_bind_keeping follows_isRely Verifying.follows answer_follows haddress hverifying
    fun merchantWalletAddress state hmerchant hverifying => ?_
  have hanswer := @askVerifier_meets runtime routing accepts _ _ (hverifier {
    amountUnits := row.amountUnits, merchantWalletAddress, tokenAddress
    transactionHash := runtime.toLowerCase submittedHash } row.merchantWalletAddress submittedHash
      (getAddress_eq_some.mpr (requireAddress_ok.mp hmerchant)) rfl) state
  refine meets_bind_keeping follows_isRely Verifying.follows answer_follows hanswer hverifying
    fun verdict state haccepted hverifying => ?_
  cases verdict with
  | ok verified => exact settleInvoice_meets hverifying hpublic hmade (haccepted verified rfl)
  | error error =>
      refine meets_of_performs settlesBacked_of_none ?_ state
      dsimp only
      split
      · exact performs_bind (performs_discard (markPayment_settlesNone _ _ _)) fun _ =>
          performs_throw _
      · exact performs_bind (performs_discard (markPayment_settlesNone _ _ _)) fun _ =>
          performs_throw _

theorem settlementIntent_meets (row : InvoiceRow) (transactionHash : String)
    (state : InvoiceState) :
    Meets (invoiceMachine runtime routing) (Follows accepts) (SettlesBacked accepts)
      (fun intent state => MadeFor intent row ∧ Stored intent.id intent state.database)
      (settlementIntent runtime routing row transactionHash) state := by
  refine meets_then follows_isRely (meets_of_performs settlesBacked_of_none
    (performs_ofExcept _) state) fun _ state => ?_
  refine meets_then follows_isRely (meets_of_performs settlesBacked_of_none
    (performs_discard (performs_ofExcept _)) state) fun _ state => ?_
  refine meets_bind follows_isRely (intents_meets (getByTransactionHash_stored
    (fun _ _ _ => trivial) state.database)) fun intent state hstored => ?_
  have hchecked : Meets (invoiceMachine runtime routing) (Follows accepts) (SettlesBacked accepts)
      (fun _ state => MadeFor intent row ∧ Stored intent.id intent state.database)
      (throwIf (intent.operation ≠ settlementOperation row.settlementKind ∨
          intent.externalReference ≠ row.publicId)
        (.conflict "EXECUTION_INTENT_IMMUTABLE_CONFLICT"
          "The submitted transaction is bound to another operation.") : InvoiceService Unit)
      state := by
    refine meets_throwIf fun hsame later hlater => ⟨?_, hstored.progresses hlater.intents⟩
    rw [not_or, not_not, not_not] at hsame
    exact ⟨hsame.1, hsame.2⟩
  refine meets_bind follows_isRely hchecked fun _ state hmade => ?_
  exact meets_pure fun later hlater => ⟨hmade.1, hmade.2.progresses hlater.intents⟩

theorem verifyPublicPayment_meets {verifier : Verifier} (hverifier : verifier.Accepts runtime accepts)
    (publicId submittedHash : String) (state : InvoiceState) :
    Meets (invoiceMachine runtime routing) (Follows accepts) (SettlesBacked accepts)
      (fun _ _ => True) (verifyPublicPayment runtime routing verifier publicId submittedHash)
      state := by
  refine meets_then follows_isRely (meets_of_performs settlesBacked_of_none
    (performs_throwIf _) state) fun _ state => ?_
  refine meets_bind follows_isRely (findUnique_snapshot publicId state) fun found state hfound => ?_
  cases found with
  | none => exact meets_throw _
  | some invoice =>
  obtain ⟨hpublic, hsnapshot⟩ := hfound invoice rfl
  refine meets_bind_keeping follows_isRely Snapshot.follows answer_follows
    (settlementIntent_meets invoice.invoice _ state) hsnapshot fun intent state hfound hsnapshot => ?_
  obtain ⟨hmade, hstored⟩ := hfound
  have hstable : ∀ {state later : InvoiceState}, Follows accepts state later →
      Snapshot invoice state ∧ Stored intent.id intent state.database →
      Snapshot invoice later ∧ Stored intent.id intent later.database :=
    fun hlater hfacts => ⟨hfacts.1.follows hlater, hfacts.2.progresses hlater.intents⟩
  refine meets_bind_keeping follows_isRely hstable answer_follows (meets_of_performs
    settlesBacked_of_none (performs_discard (intents_settlesNone _)) state) ⟨hsnapshot, hstored⟩
      fun _ state _ hfacts => ?_
  refine meets_bind_keeping follows_isRely hstable answer_follows (meets_of_performs
    settlesBacked_of_none (expireOpenInvoices_settlesNone _) state) hfacts fun _ state _ hfacts => ?_
  split
  · exact meets_of_performs settlesBacked_of_none (performs_ofExcept _) state
  refine meets_bind_keeping follows_isRely hstable answer_follows (meets_of_performs
    settlesBacked_of_none (intents_settlesNone _) state) hfacts fun now state _ hfacts => ?_
  refine meets_bind_keeping follows_isRely hstable answer_follows (meets_of_performs
    settlesBacked_of_none (assertAcceptsPayment_settlesNone _ _) state) hfacts
      fun _ state _ hfacts => ?_
  split
  · -- No payment yet: the invoice is read again once its payment is there.
    refine meets_bind_keeping follows_isRely hstable answer_follows
      ((submitPayment_submitted hpublic hfacts.1.row).refl_after follows_isRely) hfacts
        fun locked state hlocked hfacts => ?_
    obtain ⟨⟨⟨hlockedPublic, hlocked⟩, hsubmitted⟩, hstate⟩ := hlocked
    have hrequest := hfacts.1.request_eq hlocked hstate (hpublic.trans hlockedPublic.symm)
    have hkind := congrArg (fun row : InvoiceRow => row.settlementKind) hrequest
    have hmadeLocked : MadeFor intent locked.invoice :=
      ⟨hmade.operation.trans (congrArg settlementOperation hkind),
        hmade.externalReference.trans (hpublic.trans hlockedPublic.symm)⟩
    exact verifyPayment_meets hverifier ⟨hlocked.row, hsubmitted, hfacts.2⟩ hlockedPublic hmadeLocked
  · next payment hpayment =>
      have hchecked : Meets (invoiceMachine runtime routing) (Follows accepts)
          (SettlesBacked accepts)
          (fun _ _ => payment.transactionHash = runtime.toLowerCase submittedHash)
          (throwIf (payment.transactionHash ≠ runtime.toLowerCase submittedHash)
            (.conflict "INVOICE_PAYMENT_ALREADY_SUBMITTED"
              "This invoice already has a different submitted payment.") : InvoiceService Unit)
          state := meets_throwIf fun hsame _ _ => not_not.mp hsame
      refine meets_bind_keeping follows_isRely hstable answer_follows hchecked hfacts
        fun _ state hhash hfacts => ?_
      split
      · exact meets_of_performs settlesBacked_of_none (performs_ofExcept _) state
      · exact verifyPayment_meets hverifier ⟨hfacts.1.row,
          hfacts.1.submitted hpublic hpayment hhash, hfacts.2⟩ hpublic hmade

theorem InvoiceCall.meets {verifier : Verifier} (hverifier : verifier.Accepts runtime accepts)
    (call : InvoiceCall) (state : InvoiceState) :
    Meets (invoiceMachine runtime routing) (Follows accepts) (SettlesBacked accepts)
      (fun _ _ => True) (call.program runtime routing verifier) state := by
  cases call with
  | list principal query =>
      exact meets_of_performs settlesBacked_of_none
        (performs_bind (list_settlesNone principal query) fun _ => performs_pure _) state
  | getOwned principal id =>
      exact meets_map (meets_of_performs settlesBacked_of_none (getOwned_settlesNone principal id) state)
  | cancel principal id =>
      exact meets_map (meets_of_performs settlesBacked_of_none (cancel_settlesNone principal id) state)
  | getPublic publicId =>
      exact meets_map (meets_of_performs settlesBacked_of_none (getPublic_settlesNone publicId) state)
  | verifyPublicPayment publicId submittedHash =>
      exact meets_map (verifyPublicPayment_meets hverifier publicId submittedHash state)
  | intent call =>
      exact meets_map (meets_of_performs settlesBacked_of_none (intents_settlesNone _) state)

end

end WizPay.Invoices
