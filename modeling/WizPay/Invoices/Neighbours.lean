import WizPay.Backend.Refusals
import WizPay.Foundation.Windows
import WizPay.Intents.Acquisition
import WizPay.Invoices.Lifecycle

/-!
# A hash that belongs to one intent

A transaction hash is bound to an intent before the chain is asked about it, and it is
unique over all intents. What the calls on other intents can do to an intent is
therefore take the hash of its transaction; nothing else they write is in its way.
-/

namespace WizPay.Invoices

open Foundation Backend Intents ExecutionIntentStatus

/-- The answer to a payment whose hash is bound to an intent of another operation. -/
def otherOperation : ServiceError :=
  .conflict "EXECUTION_INTENT_IMMUTABLE_CONFLICT"
    "The submitted transaction is bound to another operation."

variable {runtime : Runtime} {routing : PaymentRouting}

/-! ## Errors of the parts -/

section

open Service

abbrev Spares {α : Type} (runtime : Runtime) (routing : PaymentRouting)
    (service : IntentService α) : Prop :=
  Avoids (intentMachine runtime routing) otherOperation service

theorem database_ne_otherOperation (failure : DbError) : .database failure ≠ otherOperation :=
  nofun

theorem orThrow_spares {α : Type} {op : IntentOp} {toAnswer : op.Res → Except DbError α} :
    Spares runtime routing (do
      let answer ← Service.perform (S := intentSignature) op
      Service.orThrow (toAnswer answer)) :=
  avoids_bind (avoids_perform _) fun answer =>
    avoids_orThrow (toAnswer answer) database_ne_otherOperation

theorem differentNetwork_ne_otherOperation :
    immutableConflict "Execution intent belongs to a different runtime network." ≠
      otherOperation := by
  simp [immutableConflict, otherOperation]

theorem get_spares (id : String) : Spares runtime routing (Intents.get routing id) := by
  unfold Intents.get
  apply avoids_bind (@orThrow_spares runtime routing _ (.findById id) fun answer => answer)
  intro found
  cases found with
  | none => exact avoids_throw nofun
  | some intent =>
      exact avoids_bind (avoids_throwIf differentNetwork_ne_otherOperation) fun _ =>
        avoids_pure intent

theorem refusedTransition_ne_otherOperation (status : ExecutionIntentStatus) (message : String) :
    (if status.isTerminal then terminal message else invalidTransition message) ≠
      otherOperation := by
  split <;> simp [terminal, invalidTransition, otherOperation]

theorem transition_spares (id : String) (expected target : ExecutionIntentStatus)
    (data : TransitionData) :
    Spares runtime routing (transition routing id expected target data) := by
  have hupdate : ∀ update, Spares runtime routing (updateMany update) := fun update =>
    @orThrow_spares runtime routing _ (.updateMany update) fun answer => answer
  have hnow : Spares runtime routing (some <$> currentTime) :=
    avoids_bind (avoids_perform _) fun now => avoids_pure (some now)
  unfold transition
  repeat' first
    | with_reducible exact hnow
    | with_reducible exact hupdate _
    | with_reducible exact get_spares id
    | with_reducible exact avoids_perform _
    | with_reducible exact avoids_throw (refusedTransition_ne_otherOperation _ _)
    | with_reducible exact avoids_throw (by simp [invalidTransition, otherOperation])
    | with_reducible exact avoids_pure _
    | with_reducible refine avoids_bind ?_ fun _ => ?_
    | split

theorem beginVerification_spares (id : String) :
    Spares runtime routing (beginVerification routing id) := by
  unfold beginVerification
  repeat' first
    | with_reducible exact get_spares id
    | with_reducible exact transition_spares id _ _ _
    | with_reducible exact avoids_pure _
    | with_reducible refine avoids_bind ?_ fun _ => ?_
    | split
    | dsimp only

theorem sameAddress_ne_conflict {first second code message : String} :
    sameAddress runtime first second ≠ .error (.conflict code message) := by
  intro herror
  rcases except_bind_error.mp herror with hfirst | ⟨_, -, hrest⟩
  · exact requireAddress_error hfirst
  · rcases except_bind_error.mp hrest with hsecond | ⟨_, -, hdone⟩
    · exact requireAddress_error hsecond
    · cases hdone

theorem receiptMatches_ne_conflict {intent : ExecutionIntent} {receipt : VerifiedExecutionReceipt}
    {hash code message : String} :
    receiptMatches runtime intent receipt hash ≠ .error (.conflict code message) := by
  intro herror
  unfold receiptMatches at herror
  split at herror
  · cases herror
  · rcases except_bind_error.mp herror with hsource | ⟨_, -, herror⟩
    · exact sameAddress_ne_conflict hsource
    · split at herror
      · cases herror
      · rcases except_bind_error.mp herror with htoken | ⟨_, -, herror⟩
        · exact sameAddress_ne_conflict htoken
        · split at herror
          · cases herror
          · split at herror
            · cases herror
            · unfold receiptRecipientMatches at herror
              split at herror
              · cases herror
              · split at herror
                · cases herror
                · exact sameAddress_ne_conflict herror

theorem transactionHash_ne_otherOperation (value : String) :
    transactionHash value ≠ .error otherOperation := by
  unfold transactionHash
  split
  · nofun
  · simp [hashConflict, otherOperation, throw, throwThe, MonadExceptOf.throw]

theorem completeWithVerifiedReceipt_spares (id : String) (receipt : VerifiedExecutionReceipt) :
    Spares runtime routing (completeWithVerifiedReceipt runtime routing id receipt) := by
  unfold completeWithVerifiedReceipt
  repeat' first
    | with_reducible exact get_spares id
    | with_reducible exact transition_spares id _ _ _
    | with_reducible exact avoids_ofExcept (transactionHash_ne_otherOperation _)
    | with_reducible exact avoids_ofExcept receiptMatches_ne_conflict
    | with_reducible exact avoids_throwIf (by simp [receiptMismatch, otherOperation])
    | with_reducible exact avoids_pure _
    | with_reducible refine avoids_bind ?_ fun _ => ?_
    | split

theorem getByTransactionHash_spares (hash : String) :
    Spares runtime routing (getByTransactionHash routing hash) := by
  unfold getByTransactionHash
  apply avoids_bind (avoids_ofExcept (transactionHash_ne_otherOperation hash))
  intro normalized
  apply avoids_bind
    (@orThrow_spares runtime routing _ (.findByTransactionHash normalized) fun answer => answer)
  intro found
  cases found with
  | none => exact avoids_throw nofun
  | some intent =>
      exact avoids_bind (avoids_throwIf differentNetwork_ne_otherOperation) fun _ =>
        avoids_pure intent

/-! Calls on invoices answer with errors of their own. -/

abbrev Clears {α : Type} (runtime : Runtime) (routing : PaymentRouting)
    (service : InvoiceService α) : Prop :=
  Avoids (invoiceMachine runtime routing) otherOperation service

/-- An intent method throws here what it throws on the intent table alone. -/
theorem alone_intents {α : Type} (service : IntentService α) (input : InvoiceInput)
    (state : InvoiceState) :
    ((intents service).alone (invoiceMachine runtime routing) input state).1 =
      (service.alone (intentMachine runtime routing) input.toInput state.database).1 := by
  apply alone_lift InvoiceInput.toInput InvoiceState.database
  · exact fun _ _ _ => rfl
  · intro op input state
    have hinvoices := answer_invoices runtime routing op input.toInput state.database
    exact congrArg (Database.mk _) hinvoices.symm

theorem intents_clears {α : Type} {service : IntentService α}
    (hservice : Spares runtime routing service) : Clears runtime routing (intents service) := by
  intro input state
  rw [alone_intents]
  exact hservice input.toInput state.database

/-- The node alone. -/
def nodeMachine : Machine nodeSignature InvoiceInput Unit where
  answer op input state := (input.answer op, state)

theorem verify_clears (confirmationsRequired : ℕ) (input : VerifyInvoiceTransferInput) :
    Clears runtime routing (askVerifier (verify runtime routing confirmationsRequired input)) := by
  have hverify : Avoids nodeMachine otherOperation
      (verify runtime routing confirmationsRequired input) := by
    have hchain : Avoids nodeMachine otherOperation getChainId := avoids_perform _
    have htransaction : ∀ hash, Avoids nodeMachine otherOperation (getTransaction hash) :=
      fun _ => avoids_perform _
    have hreceipt : ∀ hash, Avoids nodeMachine otherOperation (getTransactionReceipt hash) :=
      fun _ => avoids_perform _
    have hblock : Avoids nodeMachine otherOperation getBlockNumber := avoids_perform _
    unfold verify
    repeat' first
      | with_reducible exact hchain
      | with_reducible exact htransaction _
      | with_reducible exact hreceipt _
      | with_reducible exact hblock
      | with_reducible exact avoids_pure _
      | with_reducible refine avoids_bind ?_ fun _ => ?_
      | split
  exact avoids_lift id (fun _ => ()) (fun _ _ _ => rfl) (fun _ _ _ => rfl) hverify

theorem perform_clears {α : Type} {op : InvoiceOp} {toAnswer : op.Res → Except DbError α} :
    Clears runtime routing (do
      let answer ← Service.perform (S := invoiceSignature) op
      Service.orThrow (toAnswer answer)) :=
  avoids_bind (avoids_perform _) fun answer =>
    avoids_orThrow (toAnswer answer) database_ne_otherOperation

theorem findUnique_clears (publicId : String) :
    Clears runtime routing (findUnique publicId) :=
  @perform_clears runtime routing _ (.findUnique publicId) fun answer => answer

theorem findUniqueOrThrow_clears (publicId : String) :
    Clears runtime routing (findUniqueOrThrow publicId) :=
  @perform_clears runtime routing _ (.findUniqueOrThrow publicId) fun answer => answer

theorem markPayment_clears (invoiceId hash : String) (rejectionCode : Option String) :
    Clears runtime routing (markPayment invoiceId hash rejectionCode) :=
  @perform_clears runtime routing _ (.markPayment invoiceId hash rejectionCode) fun answer => answer

theorem currentDate_clears : Clears runtime routing currentDate := intents_clears (avoids_perform _)

theorem expireOpenInvoices_clears (filter : InvoiceFilter) :
    Clears runtime routing (expireOpenInvoices filter) :=
  avoids_bind currentDate_clears fun now => avoids_discard
    (@perform_clears runtime routing _ (.updateMany (.expire filter now)) fun answer => answer)

theorem assertPublicId_clears (publicId : String) :
    Clears runtime routing (assertPublicId publicId) := avoids_throwIf nofun

theorem toPublic_ne_otherOperation (invoice : InvoiceWithPayment) :
    toPublic runtime invoice ≠ .error otherOperation := by
  unfold toPublic
  split <;> nofun

theorem assertInvoiceCapability_ne_otherOperation (row : InvoiceRow) :
    assertInvoiceCapability routing row ≠ .error otherOperation := by
  have hassert : ∀ capability, assertCapability routing capability ≠ .error otherOperation := by
    intro capability
    unfold assertCapability
    split <;> nofun
  exact hassert _

theorem getPublic_clears (publicId : String) :
    Clears runtime routing (getPublic runtime routing publicId) := by
  apply avoids_bind (assertPublicId_clears publicId)
  intro _
  apply avoids_bind (expireOpenInvoices_clears _)
  intro _
  apply avoids_bind (findUnique_clears publicId)
  intro found
  cases found with
  | none => exact avoids_throw nofun
  | some invoice =>
      exact avoids_bind (avoids_ofExcept (assertInvoiceCapability_ne_otherOperation _)) fun _ =>
        avoids_ofExcept (toPublic_ne_otherOperation _)

theorem assertAcceptsPayment_clears (row : InvoiceRow) (now : ℕ) :
    Clears runtime routing (assertAcceptsPayment row now) := by
  unfold assertAcceptsPayment
  split
  · exact avoids_throw (by simp [otherOperation])
  · exact avoids_throw nofun
  · exact avoids_throw nofun
  · exact avoids_throwIf nofun
  · exact avoids_pure ()

theorem notOpen_ne_otherOperation (message : String) : notOpen message ≠ otherOperation := by
  simp [notOpen, otherOperation]

theorem hashReused_ne_otherOperation (message : String) : hashReused message ≠ otherOperation := by
  simp [hashReused, otherOperation]

/-- The transaction that locks a payment throws nothing but that the invoice is not open. -/
theorem lockPayment_thrown {state : InvoiceState} {invoiceId hash : String} {error : ServiceError}
    (hthrown : (state.lockPayment invoiceId hash).1 = .error (.thrown error)) :
    error = notOpen "Invoice state changed before payment verification." := by
  unfold InvoiceState.lockPayment at hthrown
  split at hthrown
  · cases hthrown
    rfl
  · split at hthrown <;> cases hthrown

theorem submitPayment_clears (publicId hash : String) (row : InvoiceRow) :
    Clears runtime routing (submitPayment publicId hash row) := by
  apply avoids_bind (@perform_clears runtime routing _ (.findPayment hash) fun answer => answer)
  intro reused
  apply avoids_bind (avoids_throwIf (hashReused_ne_otherOperation _))
  intro _
  apply avoids_perform_bind
  intro input state
  cases hanswer : ((invoiceMachine runtime routing).answer (.lockPayment row.id hash) input
    state).1 with
  | ok value => exact findUniqueOrThrow_clears publicId
  | error failure =>
      cases failure with
      | thrown error =>
          have hthrown : (state.lockPayment row.id hash).1 = .error (.thrown error) := by
            unfold invoiceMachine InvoiceState.writeThrough at hanswer
            dsimp only at hanswer
            split at hanswer
            · exact hanswer
            · cases hanswer
          rw [lockPayment_thrown hthrown]
          exact avoids_throw (notOpen_ne_otherOperation _)
      | database failure =>
          exact avoids_bind (findUnique_clears publicId) fun _ =>
            avoids_bind (avoids_throwIf (hashReused_ne_otherOperation _)) fun _ =>
              findUniqueOrThrow_clears publicId

theorem settleInvoice_clears (publicId hash : String) (intent : ExecutionIntent)
    (row : InvoiceRow) (verified : VerifiedInvoiceTransfer) :
    Clears runtime routing (settleInvoice runtime routing publicId hash intent row verified) := by
  have hsettle : ∀ verifiedAt paidAt, Clears runtime routing
      (settlePayment row.id hash verified.payerAddress verifiedAt paidAt) :=
    fun verifiedAt paidAt => @perform_clears runtime routing _
      (.settlePayment row.id hash verified.payerAddress verifiedAt paidAt) fun answer => answer
  apply avoids_bind (avoids_discard (intents_clears (completeWithVerifiedReceipt_spares _ _)))
  intro _
  apply avoids_bind currentDate_clears
  intro verifiedAt
  apply avoids_bind currentDate_clears
  intro paidAt
  exact avoids_bind (hsettle verifiedAt paidAt) fun _ => getPublic_clears publicId

theorem verifyPayment_clears (confirmationsRequired : ℕ) (publicId hash : String)
    (intent : ExecutionIntent) (row : InvoiceRow) :
    Clears runtime routing (verifyPayment runtime routing
      (verify runtime routing confirmationsRequired) publicId hash intent row) := by
  apply avoids_bind (avoids_ofExcept requireAddress_error)
  intro tokenAddress
  apply avoids_bind (avoids_ofExcept requireAddress_error)
  intro merchantWalletAddress
  apply avoids_bind (verify_clears confirmationsRequired _)
  intro verdict
  cases verdict with
  | ok verified => exact settleInvoice_clears publicId hash intent row verified
  | error error =>
      dsimp only
      split
      · exact avoids_bind (avoids_discard (markPayment_clears _ _ _)) fun _ => avoids_throw nofun
      · exact avoids_bind (avoids_discard (markPayment_clears _ _ _)) fun _ => avoids_throw nofun

end

/-! ## The hash of a stored intent -/

/-- The intent is stored with the hash or without any. -/
structure Reserved (routing : PaymentRouting) (intent : ExecutionIntent) (hash : String)
    (intents : List ExecutionIntent) : Prop where
  unique : UniqueIntents intents
  stored : intent ∈ intents
  network : intent.network = routing.network
  normal : transactionHash hash = .ok hash
  bound : intent.transactionHash = none ∨ intent.transactionHash = some hash

/-- No other intent holds the hash. -/
def Free (intent : ExecutionIntent) (hash : String) (intents : List ExecutionIntent) : Prop :=
  ∀ row ∈ intents, row.transactionHash = some hash → row = intent

section

open Service

variable {intent : ExecutionIntent} {hash : String} {database : Database} {input : Input}

theorem find_reserved (hreserved : Reserved routing intent hash database.intents) :
    database.findUnique (fun row => row.id = intent.id) = some intent := by
  cases hfind : database.findUnique fun row => row.id = intent.id with
  | none =>
      have hnone := List.find?_eq_none.mp hfind intent hreserved.stored
      exact absurd (decide_eq_true rfl) hnone
  | some row =>
      have hid := of_decide_eq_true
        (@List.find?_some _ (fun row : ExecutionIntent => row.id = intent.id) _ _ hfind)
      rw [row_unique_id hreserved.unique (List.mem_of_find?_eq_some hfind) hreserved.stored hid]

theorem alone_get (hreserved : Reserved routing intent hash database.intents)
    (houtage : input.outage = none) :
    (Intents.get routing intent.id).alone (intentMachine runtime routing) input database =
      (.ok intent, database) := by
  have hfound : (findById intent.id).alone (intentMachine runtime routing) input database =
      (.ok (some intent), database) := by
    refine alone_perform_bind_ok.mpr (alone_orThrow_ok.mpr ⟨?_, rfl⟩)
    simp only [intentMachine, intentMachine.read, houtage, find_reserved hreserved]
  unfold Intents.get
  rw [alone_bind_ok]
  refine ⟨some intent, database, hfound, ?_⟩
  exact alone_throwIf_bind_ok.mpr ⟨not_not_intro hreserved.network, rfl⟩

/-- A row without what binding a hash writes. -/
def unhashed (row : ExecutionIntent) : ExecutionIntent :=
  { row with transactionHash := none, status := CREATED, leaseOwner := none, leaseExpiresAt := none }

theorem clashes_iff_unhashed (first second : ExecutionIntent) :
    first.clashes second = true ↔ (unhashed first).clashes (unhashed second) = true ∨
      ∃ hash, first.transactionHash = some hash ∧ second.transactionHash = some hash := by
  have hshared : (first.transactionHash.isSome && first.transactionHash = second.transactionHash) =
      true ↔ ∃ hash, first.transactionHash = some hash ∧ second.transactionHash = some hash := by
    cases first.transactionHash <;> simp [eq_comm]
  rw [← hshared]
  simp only [ExecutionIntent.clashes, Bool.or_eq_true, Bool.and_eq_true, decide_eq_true_eq]
  simp [unhashed]

/-- A row of the table after a hash is bound. -/
def boundRow (id hash : String) (row : ExecutionIntent) : ExecutionIntent :=
  if (IntentUpdate.bindTransactionHash id hash).selects row then
    (IntentUpdate.bindTransactionHash id hash).apply row
  else row

theorem unhashed_boundRow (id hash : String) (row : ExecutionIntent) :
    unhashed (boundRow id hash row) = unhashed row := by
  unfold boundRow
  split <;> rfl

theorem boundRow_hash {id hash shared : String} {row : ExecutionIntent}
    (hshared : (boundRow id hash row).transactionHash = some shared) :
    row.transactionHash = some shared ∨ row.id = id ∧ shared = hash := by
  unfold boundRow at hshared
  split at hshared
  · next hselects =>
      cases hshared
      exact .inr ⟨of_decide_eq_true (Bool.and_eq_true_iff.mp hselects).1, rfl⟩
  · exact .inl hshared

/-- Once the hash is bound two rows clash only if they did before. -/
theorem clashes_of_bound (hfree : Free intent hash database.intents)
    {first second : ExecutionIntent} (hfirst : first ∈ database.intents)
    (hsecond : second ∈ database.intents)
    (hclashes : (boundRow intent.id hash first).clashes (boundRow intent.id hash second) = true) :
    first.clashes second = true := by
  have hholder : ∀ row ∈ database.intents, row.transactionHash = some hash → row.id = intent.id :=
    fun row hmember hhash => congrArg ExecutionIntent.id (hfree row hmember hhash)
  rw [clashes_iff_unhashed, unhashed_boundRow, unhashed_boundRow] at hclashes
  rcases hclashes with hkeys | ⟨shared, hone, hother⟩
  · exact (clashes_iff_unhashed first second).mpr (.inl hkeys)
  · have hsame : first.id = second.id → first.clashes second = true :=
      fun hid => by simp [ExecutionIntent.clashes, hid]
    rcases boundRow_hash hone with hheld | ⟨hid, hhash⟩
    · rcases boundRow_hash hother with hkept | ⟨hid, rfl⟩
      · exact (clashes_iff_unhashed first second).mpr (.inr ⟨shared, hheld, hkept⟩)
      · exact hsame ((hholder first hfirst hheld).trans hid.symm)
    · rcases boundRow_hash hother with hkept | ⟨hlast, -⟩
      · rw [hhash] at hkept
        exact hsame (hid.trans (hholder second hsecond hkept).symm)
      · exact hsame (hid.trans hlast.symm)

/-- Binding the hash can be committed when no other intent holds it. -/
theorem unique_bound (hreserved : Reserved routing intent hash database.intents)
    (hfree : Free intent hash database.intents) :
    UniqueIntents (database.updated (.bindTransactionHash intent.id hash)) := by
  refine List.pairwise_map.mpr (hreserved.unique.imp_of_mem ?_)
  intro first second hfirst hsecond hclashes
  refine Bool.eq_false_iff.mpr fun hbound => ?_
  rw [clashes_of_bound hfree hfirst hsecond hbound] at hclashes
  cases hclashes

theorem boundRow_id (id hash : String) (row : ExecutionIntent) :
    (boundRow id hash row).id = row.id := by
  unfold boundRow
  split
  · exact IntentUpdate.apply_id _ row
  · rfl

/-- The rows of the table after the hash is bound. -/
theorem mem_updated {id : String} {row : ExecutionIntent} (hmember : row ∈ database.intents) :
    boundRow id hash row ∈ database.updated (.bindTransactionHash id hash) :=
  List.mem_map_of_mem hmember

theorem boundRow_of_unbound {row : ExecutionIntent} (hunbound : row.transactionHash = none) :
    (boundRow row.id hash row).transactionHash = some hash := by
  have hselects : (IntentUpdate.bindTransactionHash row.id hash).selects row = true := by
    simp [IntentUpdate.selects, IntentUpdate.id, IntentUpdate.condition, hunbound]
  unfold boundRow
  rw [if_pos hselects]
  rfl

/-- Binding the hash cannot be committed while another intent holds it. -/
theorem not_unique_bound (hreserved : Reserved routing intent hash database.intents)
    {row : ExecutionIntent} (hmember : row ∈ database.intents)
    (hheld : row.transactionHash = some hash) (hother : row ≠ intent) :
    intent.transactionHash = none ∧
      ¬ UniqueIntents (database.updated (.bindTransactionHash intent.id hash)) := by
  have hunbound : intent.transactionHash = none := by
    rcases hreserved.bound with hunbound | hbound
    · exact hunbound
    · exact absurd (row_unique_hash hreserved.unique hmember hreserved.stored hheld hbound) hother
  refine ⟨hunbound, fun hunique => hother ?_⟩
  have hid : row.id ≠ intent.id :=
    fun hid => hother (row_unique_id hreserved.unique hmember hreserved.stored hid)
  have hkept : boundRow intent.id hash row = row :=
    if_neg fun hselects => hid (of_decide_eq_true (Bool.and_eq_true_iff.mp hselects).1)
  have hsame := row_unique_hash hunique (mem_updated hmember) (mem_updated hreserved.stored)
    (hkept.symm ▸ hheld) (boundRow_of_unbound hunbound)
  exact absurd (by rw [← boundRow_id intent.id hash row, hsame, boundRow_id]) hid

/-- A condition that no two elements of a list meet is met by one if by any. -/
theorem countP_eq_one {α : Type} {condition : α → Bool} {elements : List α}
    (hpairwise : elements.Pairwise fun first second =>
      ¬ (condition first = true ∧ condition second = true))
    {element : α} (hmember : element ∈ elements) (hmeets : condition element = true) :
    elements.countP condition = 1 := by
  induction hpairwise with
  | nil => cases hmember
  | @cons head tail hhead htail ih =>
      by_cases hmet : condition head = true
      · have hnone : tail.countP condition = 0 :=
          List.countP_eq_zero.mpr fun other hother hboth => hhead other hother ⟨hmet, hboth⟩
        rw [List.countP_cons_of_pos hmet, hnone]
      · rw [List.countP_cons_of_neg hmet]
        rcases List.mem_cons.mp hmember with rfl | htailed
        · exact absurd hmeets hmet
        · exact ih htailed

/-- The write that binds the hash goes through and selects the one row. -/
theorem answer_bound (hreserved : Reserved routing intent hash database.intents)
    (hfree : Free intent hash database.intents) (hunbound : intent.transactionHash = none)
    (houtage : input.outage = none) :
    ((intentMachine runtime routing).answer
      (.updateMany (.bindTransactionHash intent.id hash)) input database).1 = .ok 1 := by
  have hselects : (IntentUpdate.bindTransactionHash intent.id hash).selects intent = true := by
    simp [IntentUpdate.selects, IntentUpdate.id, IntentUpdate.condition, hunbound]
  have hone : database.intents.countP
      (IntentUpdate.bindTransactionHash intent.id hash).selects = 1 := by
    refine countP_eq_one (hreserved.unique.imp ?_) hreserved.stored hselects
    rintro first second hclashes ⟨hfirst, hsecond⟩
    have hid := (of_decide_eq_true (Bool.and_eq_true_iff.mp hfirst).1).trans
      (of_decide_eq_true (Bool.and_eq_true_iff.mp hsecond).1).symm
    simp [ExecutionIntent.clashes, hid] at hclashes
  simp only [intentMachine, Database.updateMany, if_pos (unique_bound hreserved hfree), houtage,
    hone]
  rfl

/-! Binding the hash to the intent, alone. -/

variable {leaseOwner : Option String} {recovery : Bool}

theorem get_ne_conflict (id message : String) :
    Avoids (intentMachine runtime routing) (hashConflict message) (Intents.get routing id) := by
  have hnetwork : immutableConflict "Execution intent belongs to a different runtime network." ≠
      hashConflict message := by
    simp [immutableConflict, hashConflict]
  refine avoids_bind (avoids_bind (avoids_perform _) fun answer => avoids_orThrow answer nofun) ?_
  intro found
  cases found with
  | none => exact avoids_throw nofun
  | some intent => exact avoids_bind (avoids_throwIf hnetwork) fun _ => avoids_pure intent

theorem assertLease_ne_conflict (id message leaseOwner : String) :
    Avoids (intentMachine runtime routing) (hashConflict message)
      (assertLease routing id leaseOwner) := by
  have hlease : activeLease
      "The active execution lease is missing, expired, or owned by another submitter." ≠
        hashConflict message := by
    simp [activeLease, hashConflict]
  exact avoids_bind (get_ne_conflict id message) fun intent => avoids_bind (avoids_perform _)
    fun now => avoids_bind (avoids_throwIf hlease) fun _ => avoids_pure intent

theorem assertLease_readOnly (id leaseOwner : String) :
    ReadOnly (intentMachine runtime routing) (discard (assertLease routing id leaseOwner)) := by
  rw [discard_eq]
  refine readOnly_bind (readOnly_bind ?_ fun intent => ?_) fun _ => readOnly_pure ()
  · unfold Intents.get
    refine readOnly_bind (readOnly_bind (readOnly_perform fun _ _ => rfl) readOnly_orThrow) ?_
    intro found
    cases found with
    | none => exact readOnly_throw _
    | some intent => exact readOnly_bind (readOnly_throwIf _) fun _ => readOnly_pure intent
  · exact readOnly_bind (readOnly_perform fun _ _ => rfl) fun _ =>
      readOnly_bind (readOnly_throwIf _) fun _ => readOnly_pure intent

theorem write_ne_conflict (hreserved : Reserved routing intent hash database.intents)
    (hfree : Free intent hash database.intents) (hunbound : intent.transactionHash = none)
    (houtage : input.outage = none) (again : IntentService ExecutionIntent) (message : String) :
    (Service.alone (intentMachine runtime routing) input (do
      match ← tryUpdateMany (.bindTransactionHash intent.id hash) with
      | .ok count => if count = 1 then Intents.get routing intent.id else again
      | .error _ =>
          throw (hashConflict
            "The transaction hash is already bound to another execution intent."))
      database).1 ≠ .error (hashConflict message) := by
  intro herror
  rcases alone_bind_error.mp herror with hnone | ⟨answer, middle, hanswer, herror⟩
  · cases hnone
  obtain ⟨hanswered, -⟩ := alone_perform_ok.mp hanswer
  have hone : answer = .ok 1 := hanswered.trans (answer_bound hreserved hfree hunbound houtage)
  rw [hone] at herror
  exact get_ne_conflict intent.id message input middle herror

theorem bindTransactionHash_ne_conflict (hreserved : Reserved routing intent hash database.intents)
    (hfree : Free intent hash database.intents) (houtage : input.outage = none) (attempts : ℕ)
    (message : String) :
    ((bindTransactionHash routing (attempts + 1) intent.id hash leaseOwner recovery).alone
      (intentMachine runtime routing) input database).1 ≠ .error (hashConflict message) := by
  intro herror
  rcases alone_bind_error.mp herror with hnormal | ⟨normalized, middle, hok, hread⟩
  · exact absurd (hreserved.normal.symm.trans hnormal) nofun
  obtain ⟨hnormal, rfl⟩ := alone_ofExcept_ok.mp hok
  cases hreserved.normal.symm.trans hnormal
  rcases alone_bind_error.mp hread with hget | ⟨existing, later, hget, hfound⟩
  · rw [alone_get hreserved houtage] at hget
    cases hget
  cases (alone_get hreserved houtage).symm.trans hget
  dsimp only at hfound
  by_cases hbound : intent.transactionHash = some hash
  · rw [if_pos hbound] at hfound
    cases hfound
  rw [if_neg hbound] at hfound
  have hunbound : intent.transactionHash = none := hreserved.bound.resolve_right hbound
  rcases alone_bind_error.mp hfound with hthrown | ⟨_, last, hchecked, hleft⟩
  · rw [hunbound] at hthrown
    cases hthrown
  obtain ⟨-, rfl⟩ := alone_throwIf_ok.mp hchecked
  have hwrite := @write_ne_conflict runtime routing _ _ _ _ hreserved hfree hunbound houtage
    (bindTransactionHash routing attempts intent.id hash leaseOwner recovery) message
  split at hleft
  · split at hleft
    · rcases alone_bind_error.mp hleft with hthrown | ⟨_, _, hthrown, -⟩
      · exact absurd (Except.error.inj hthrown) (by simp [activeLease, hashConflict])
      · exact alone_throw_ok hthrown
    · next owner howner =>
        rcases alone_bind_error.mp hleft with hthrown | ⟨_, last, hleased, hrest⟩
        · exact avoids_discard (assertLease_ne_conflict intent.id message owner) input _ hthrown
        · have hkept := (congrArg Prod.snd hleased).symm.trans
            (assertLease_readOnly intent.id owner input _)
          rw [show last = _ from hkept] at hrest
          exact hwrite hrest
  · exact hwrite hleft

/-- While another intent holds the hash, its recovery ends in a conflict. -/
theorem bindTransactionHash_conflict (hreserved : Reserved routing intent hash database.intents)
    {row : ExecutionIntent} (hmember : row ∈ database.intents)
    (hheld : row.transactionHash = some hash) (hother : row ≠ intent)
    (houtage : input.outage = none) (attempts : ℕ) :
    ((bindTransactionHash routing (attempts + 1) intent.id hash none true).alone
      (intentMachine runtime routing) input database).1 = .error (hashConflict
        "The transaction hash is already bound to another execution intent.") := by
  obtain ⟨hunbound, hclash⟩ := not_unique_bound hreserved hmember hheld hother
  have hanswer : ((intentMachine runtime routing).answer
      (.updateMany (.bindTransactionHash intent.id hash)) input database).1 =
        (.error .p2002 : Except DbError ℕ) := by
    simp only [intentMachine, Database.updateMany, if_neg hclash, houtage]
    rfl
  refine alone_bind_error.mpr (.inr ⟨hash, database, alone_ofExcept_ok.mpr ⟨hreserved.normal, rfl⟩, ?_⟩)
  refine alone_bind_error.mpr (.inr ⟨intent, database, alone_get hreserved houtage, ?_⟩)
  have hnone : ¬ intent.transactionHash = some hash := by
    rw [hunbound]
    exact (Option.some_ne_none hash).symm
  dsimp only
  rw [if_neg hnone]
  refine alone_bind_error.mpr (.inr ⟨(), database, alone_throwIf_ok.mpr ⟨?_, rfl⟩, ?_⟩)
  · rw [hunbound]
    exact not_not_intro rfl
  · rw [if_neg fun hlease => absurd hlease.2 (by decide)]
    refine alone_bind_error.mpr (.inr ⟨_, _, alone_perform_ok.mpr ⟨rfl, rfl⟩, ?_⟩)
    rw [hanswer]
    rfl

end

/-! ## Verifying the payment of an intent -/

/-- The invoice that an intent refers to is one the intent settles. -/
def RefersTo (intent : ExecutionIntent) (state : InvoiceState) : Prop :=
  ∀ row ∈ state.invoices, row.publicId = intent.externalReference →
    intent.operation = settlementOperation row.settlementKind

section

open Service

variable {intent : ExecutionIntent} {hash : String} {state : InvoiceState} {input : InvoiceInput}

/-- Whoever asks for the hash is shown the intent or nothing. -/
theorem getByTransactionHash_free (hfree : Free intent hash state.intents)
    (hnormal : transactionHash hash = .ok hash) {found : ExecutionIntent} {last : InvoiceState}
    (hfound : (intents (getByTransactionHash routing hash)).alone (invoiceMachine runtime routing)
      input state = (.ok found, last)) : found = intent := by
  have hread : ((getByTransactionHash routing hash).alone (intentMachine runtime routing)
      input.toInput state.database).1 = .ok found := by
    rw [← alone_intents, hfound]
  rcases halone : (getByTransactionHash routing hash).alone (intentMachine runtime routing)
    input.toInput state.database with ⟨outcome, after⟩
  rw [halone] at hread
  dsimp only at hread
  subst hread
  obtain ⟨normalized, hok, hread⟩ := alone_ofExcept_bind_ok.mp halone
  cases hnormal.symm.trans hok
  obtain ⟨answer, middle, hanswer, hshown⟩ := alone_bind_ok.mp hread
  obtain ⟨hlooked, rfl⟩ := alone_orThrow_ok.mp (alone_perform_bind_ok.mp hanswer)
  have hfind : state.database.findUnique (fun row => row.transactionHash = some hash) = answer :=
    read_ok hlooked
  cases answer with
  | none => cases congrArg Prod.fst hshown
  | some row =>
      obtain ⟨-, hshown⟩ := alone_throwIf_bind_ok.mp hshown
      obtain ⟨rfl, -⟩ := alone_pure_ok.mp hshown
      exact hfree _ (List.mem_of_find?_eq_some hfind)
        (of_decide_eq_true (@List.find?_some _
          (fun row : ExecutionIntent => row.transactionHash = some hash) _ _ hfind))

/-- The settlement intent of the invoice an intent refers to is not another's. -/
theorem settlementIntent_free (hfree : Free intent hash state.intents)
    (hnormal : transactionHash hash = .ok hash) {row : InvoiceRow}
    (hsettles : intent.operation = settlementOperation row.settlementKind)
    (hreference : intent.externalReference = row.publicId) :
    ((settlementIntent runtime routing row hash).alone (invoiceMachine runtime routing) input
      state).1 ≠ .error otherOperation := by
  intro herror
  rcases alone_bind_error.mp herror with hcapability | ⟨_, middle, hok, hrest⟩
  · exact assertInvoiceCapability_ne_otherOperation row hcapability
  obtain ⟨-, rfl⟩ := alone_ofExcept_ok.mp hok
  rw [discard_eq] at hrest
  rcases alone_bind_error.mp hrest with hdecision | ⟨_, later, hok, hlooked⟩
  · exact avoids_bind (avoids_ofExcept fun herror => decide_error herror) (fun _ => avoids_pure ())
      input middle hdecision
  obtain ⟨decision, last, hdecided, hdone⟩ := alone_bind_ok.mp hok
  obtain ⟨-, rfl⟩ := alone_ofExcept_ok.mp hdecided
  obtain ⟨-, rfl⟩ := alone_pure_ok.mp hdone
  rcases alone_bind_error.mp hlooked with hthrown | ⟨found, last, hfound, hcompared⟩
  · exact intents_clears (getByTransactionHash_spares hash) input _ hthrown
  · have hsame := getByTransactionHash_free hfree hnormal hfound
    subst hsame
    have hagrees : ¬ (found.operation ≠ settlementOperation row.settlementKind ∨
        found.externalReference ≠ row.publicId) :=
      fun hdiffers => hdiffers.elim (fun hne => hne hsettles) fun hne => hne hreference
    rcases alone_bind_error.mp hcompared with hthrown | ⟨_, _, -, hreturned⟩
    · rw [throwIf, if_neg hagrees] at hthrown
      cases hthrown
    · cases hreturned

theorem findUnique_found {publicId : String} {invoice : InvoiceWithPayment} {last : InvoiceState}
    (hfound : (findUnique publicId).alone (invoiceMachine runtime routing) input state =
      (.ok (some invoice), last)) :
    last = state ∧ invoice.invoice ∈ state.invoices ∧ invoice.invoice.publicId = publicId := by
  obtain ⟨hanswer, hlast⟩ := alone_orThrow_ok.mp (alone_perform_bind_ok.mp hfound)
  have hthrough : ∀ answer : Option InvoiceWithPayment,
      (state.readThrough input (.ok answer)).1 = .ok (some invoice) → answer = some invoice := by
    intro answer hread
    unfold InvoiceState.readThrough at hread
    split at hread
    · exact Except.ok.inj hread
    · cases hread
  have hfind := hthrough _ hanswer
  obtain ⟨row, hrow, rfl⟩ := Option.map_eq_some_iff.mp hfind
  exact ⟨hlast.trans (readThrough_state input _), List.mem_of_find?_eq_some hrow,
    of_decide_eq_true (@List.find?_some _ (fun row : InvoiceRow => row.publicId = publicId) _ _ hrow)⟩

/-- What follows once the intent of a payment is found. -/
theorem verifyFound_clears (confirmationsRequired : ℕ) (publicId hash : String)
    (intent : ExecutionIntent) (invoice : InvoiceWithPayment) :
    Clears runtime routing (do
      discard <| intents (beginVerification routing intent.id)
      expireOpenInvoices { publicId := some publicId }
      if (verifiedPayment invoice).any fun payment => payment.transactionHash = hash then
        Service.ofExcept (toPublic runtime invoice)
      else
        let now ← currentDate
        assertAcceptsPayment invoice.invoice now
        match invoice.payment with
        | none =>
            let locked ← submitPayment publicId hash invoice.invoice
            verifyPayment runtime routing (verify runtime routing confirmationsRequired) publicId
              hash intent locked.invoice
        | some payment =>
            Service.throwIf (payment.transactionHash ≠ hash)
              (.conflict "INVOICE_PAYMENT_ALREADY_SUBMITTED"
                "This invoice already has a different submitted payment.")
            if payment.status = .VERIFIED then Service.ofExcept (toPublic runtime invoice)
            else
              verifyPayment runtime routing (verify runtime routing confirmationsRequired) publicId
                hash intent invoice.invoice) := by
  apply avoids_bind (avoids_discard (intents_clears (beginVerification_spares intent.id)))
  intro _
  apply avoids_bind (expireOpenInvoices_clears _)
  intro _
  split
  · exact avoids_ofExcept (toPublic_ne_otherOperation invoice)
  · apply avoids_bind currentDate_clears
    intro now
    apply avoids_bind (assertAcceptsPayment_clears invoice.invoice now)
    intro _
    cases invoice.payment with
    | none =>
        exact avoids_bind (submitPayment_clears publicId hash invoice.invoice) fun locked =>
          verifyPayment_clears confirmationsRequired publicId hash intent locked.invoice
    | some payment =>
        apply avoids_bind (avoids_throwIf (by simp [otherOperation]))
        intro _
        split
        · exact avoids_ofExcept (toPublic_ne_otherOperation invoice)
        · exact verifyPayment_clears confirmationsRequired publicId hash intent invoice.invoice

/-- A payment with the hash is not refused as one of another operation. -/
theorem verifyPublicPayment_free (hfree : Free intent hash state.intents)
    (hnormal : transactionHash hash = .ok hash) (hrefers : RefersTo intent state)
    (confirmationsRequired : ℕ) {submitted : String} (hsubmitted : runtime.toLowerCase submitted = hash) :
    ((verifyPublicPayment runtime routing (verify runtime routing confirmationsRequired)
      intent.externalReference submitted).alone (invoiceMachine runtime routing) input state).1 ≠
        .error otherOperation := by
  intro herror
  rcases alone_bind_error.mp herror with hid | ⟨_, middle, hok, hrest⟩
  · exact assertPublicId_clears _ input state hid
  obtain ⟨-, rfl⟩ := alone_throwIf_ok.mp hok
  dsimp only at hrest
  rw [hsubmitted] at hrest
  rcases alone_bind_error.mp hrest with hread | ⟨found, later, hok, hfound⟩
  · exact findUnique_clears _ input _ hread
  cases found with
  | none => exact absurd (Except.error.inj hfound) nofun
  | some invoice =>
      obtain ⟨rfl, hmember, hpublic⟩ := findUnique_found hok
      rcases alone_bind_error.mp hfound with hother | ⟨found, last, -, hverified⟩
      · exact settlementIntent_free hfree hnormal (hrefers _ hmember hpublic) hpublic.symm hother
      · exact verifyFound_clears confirmationsRequired intent.externalReference hash found invoice
          input last hverified

end

/-! ## Calls on other intents -/

/-- The hash can be bound to the intent, and a payment with it is not taken for one of
another operation. -/
structure HashAvailable (runtime : Runtime) (routing : PaymentRouting) (intent : ExecutionIntent)
    (hash : String) (state : InvoiceState) : Prop where
  binds : ∀ attempts leaseOwner recovery message (input : InvoiceInput), input.outage = none →
    ((intents (bindTransactionHash routing (attempts + 1) intent.id hash leaseOwner recovery)).alone
      (invoiceMachine runtime routing) input state).1 ≠ .error (hashConflict message)
  verifies : RefersTo intent state → ∀ confirmationsRequired submitted input,
    runtime.toLowerCase submitted = hash →
    ((verifyPublicPayment runtime routing (verify runtime routing confirmationsRequired)
      intent.externalReference submitted).alone (invoiceMachine runtime routing) input state).1 ≠
        .error otherOperation

theorem hashAvailable_iff {intent : ExecutionIntent} {hash : String} {state : InvoiceState}
    (hreserved : Reserved routing intent hash state.intents) :
    HashAvailable runtime routing intent hash state ↔ Free intent hash state.intents := by
  constructor
  · intro havailable row hmember hheld
    by_contra hother
    let quiet : InvoiceInput :=
      ⟨⟨0, "", none, false⟩, .error .other, .error .other, .error .other, .error .other⟩
    apply havailable.binds 0 none true
      "The transaction hash is already bound to another execution intent." quiet rfl
    rw [alone_intents]
    exact @bindTransactionHash_conflict runtime routing intent hash state.database _ hreserved row
      hmember hheld hother rfl 0
  · intro hfree
    constructor
    · intro attempts leaseOwner recovery message input houtage
      rw [alone_intents]
      exact @bindTransactionHash_ne_conflict runtime routing intent hash state.database _ _ _
        hreserved hfree houtage attempts message
    · intro hrefers confirmationsRequired submitted input hsubmitted
      exact verifyPublicPayment_free hfree hreserved.normal hrefers confirmationsRequired hsubmitted

/-- The update of an intent that a thread performs next, if it performs one. -/
def pendingUpdate (pool : InvoicePool) (thread : ℕ) : Option IntentUpdate :=
  match pool.pending thread with
  | some (.intents (.updateMany update)) => some update
  | _ => none

/-- The hash an update binds. -/
def boundHash : IntentUpdate → Option String
  | .bindTransactionHash _ hash => some hash
  | _ => none

/-- The update writes the hash to a row. -/
def Claims (hash : String) (update : IntentUpdate) (input : Input) (database : Database) : Prop :=
  boundHash update = some hash ∧ Commits update input database ∧
    ∃ row ∈ database.intents, update.selects row = true

/-- A step uses only intents other than the one. -/
def UsesOthers (intent : ExecutionIntent) (pool : InvoicePool) (choice : ℕ × InvoiceInput) : Prop :=
  ∀ update ∈ pendingUpdate pool choice.1, update.id ≠ intent.id

/-- A step binds the hash to no intent. -/
def SparesHash (hash : String) (pool : InvoicePool) (choice : ℕ × InvoiceInput) : Prop :=
  ∀ update ∈ pendingUpdate pool choice.1,
    ¬ Claims hash update choice.2.toInput pool.state.database

instance (hash : String) (update : IntentUpdate) (input : Input) (database : Database) :
    Decidable (Claims hash update input database) :=
  inferInstanceAs (Decidable (_ ∧ _ ∧ _))

instance (intent : ExecutionIntent) (pool : InvoicePool) (choice : ℕ × InvoiceInput) :
    Decidable (UsesOthers intent pool choice) :=
  inferInstanceAs (Decidable (∀ update ∈ pendingUpdate pool choice.1, update.id ≠ intent.id))

instance (hash : String) (pool : InvoicePool) (choice : ℕ × InvoiceInput) :
    Decidable (SparesHash hash pool choice) :=
  inferInstanceAs (Decidable (∀ update ∈ pendingUpdate pool choice.1,
    ¬ Claims hash update choice.2.toInput pool.state.database))

theorem pendingUpdate_of_pending {pool : InvoicePool} {thread : ℕ} {op : IntentOp}
    (hpending : pool.pending thread = some (.intents op)) {update : IntentUpdate} :
    update ∈ pendingUpdate pool thread ↔ op = .updateMany update := by
  unfold pendingUpdate
  rw [hpending]
  cases op with
  | updateMany own =>
      constructor
      · exact fun hown => congrArg IntentOp.updateMany (Option.some.inj hown)
      · exact fun hop => congrArg some (IntentOp.updateMany.inj hop)
  | _ => exact ⟨nofun, nofun⟩

theorem pendingUpdate_of_none {pool : InvoicePool} {thread : ℕ}
    (hnone : ∀ op, pool.pending thread ≠ some (.intents op)) : pendingUpdate pool thread = none := by
  unfold pendingUpdate
  split
  · next update hpending => exact absurd hpending (hnone _)
  · rfl

section

variable {intent : ExecutionIntent} {hash : String}

theorem lockPayment_intents (state : InvoiceState) (invoiceId hash : String) :
    (state.lockPayment invoiceId hash).2.intents = state.intents := by
  unfold InvoiceState.lockPayment
  split
  · rfl
  · split <;> rfl

/-- Only the operations on intents write to their table. -/
theorem answer_intents {op : InvoiceOp} (hop : ∀ intentOp, op ≠ .intents intentOp)
    (input : InvoiceInput) (state : InvoiceState) :
    ((invoiceMachine runtime routing).answer op input state).2.intents = state.intents := by
  have hwrite : ∀ {ε α : Type} (toError : DbError → ε) (outcome : Except ε α × InvoiceState),
      outcome.2.intents = state.intents →
        (state.writeThrough input toError outcome).2.intents = state.intents := by
    intro ε α toError outcome hkept
    rcases state.writeThrough_cases input toError outcome with hdone | hsame
    · rw [hdone, hkept]
    · rw [hsame]
  cases op with
  | intents intentOp => exact absurd rfl (hop intentOp)
  | node | findUnique | findUniqueOrThrow | findOwned | findMany | findPayment =>
      simp only [invoiceMachine, readThrough_state]
  | lockPayment invoiceId hash =>
      exact hwrite _ _ (lockPayment_intents state invoiceId hash)
  | updateMany | settlePayment | markPayment => exact hwrite _ _ rfl

/-- A step performs an operation on intents, or leaves their table as it is. -/
theorem step_intents (pool : InvoicePool) (choice : ℕ × InvoiceInput) :
    (∃ op, pool.pending choice.1 = some (.intents op) ∧
      (pool.step (invoiceMachine runtime routing) choice).state.intents =
        ((intentMachine runtime routing).answer op choice.2.toInput pool.state.database).2.intents) ∨
      (∀ op, pool.pending choice.1 ≠ some (.intents op)) ∧
        (pool.step (invoiceMachine runtime routing) choice).state.intents = pool.state.intents := by
  by_cases hintents : ∃ op, pool.pending choice.1 = some (.intents op)
  · obtain ⟨op, hpending⟩ := hintents
    refine .inl ⟨op, hpending, ?_⟩
    rw [Pool.step_state_of_pending hpending]
    rfl
  · refine .inr ⟨fun op hop => hintents ⟨op, hop⟩, ?_⟩
    rcases Pool.step_state choice pool with hsame | ⟨op, hpending, hanswer⟩
    · rw [hsame]
    · rw [hanswer]
      exact answer_intents (fun intentOp hop => hintents ⟨intentOp, hpending.trans (congrArg some hop)⟩)
        choice.2 pool.state

/-- An operation on other intents keeps the intent and its reservation. -/
theorem answer_reserved {op : IntentOp} {input : Input} {database : Database}
    (hothers : ∀ update, op = .updateMany update → update.id ≠ intent.id)
    (hreserved : Reserved routing intent hash database.intents) :
    Reserved routing intent hash ((intentMachine runtime routing).answer op input database).2.intents := by
  rcases answer_cases runtime routing op input database with
    hsame | ⟨canonical, -, hinserted, hunique⟩ | ⟨update, hop, hcommits, hupdated⟩
  · rw [hsame]
    exact hreserved
  · rw [hinserted]
    exact ⟨hunique, List.mem_append_left _ hreserved.stored, hreserved.network, hreserved.normal,
      hreserved.bound⟩
  · rw [hupdated]
    refine ⟨hcommits.1, ?_, hreserved.network, hreserved.normal, hreserved.bound⟩
    have hkept : (if update.selects intent then update.apply intent else intent) = intent :=
      if_neg fun hselects => hothers update hop
        (of_decide_eq_true (Bool.and_eq_true_iff.mp hselects).1).symm
    exact List.mem_map.mpr ⟨intent, hreserved.stored, hkept⟩

/-- A row holds the hash after an update only if it did before, or the update bound it. -/
theorem apply_hash {update : IntentUpdate} {row : ExecutionIntent}
    (hheld : (update.apply row).transactionHash = some hash) :
    row.transactionHash = some hash ∨ boundHash update = some hash := by
  cases update with
  | bindTransactionHash id bound => exact .inr hheld
  | _ => exact .inl hheld

theorem apply_boundHash {update : IntentUpdate} (hbinds : boundHash update = some hash)
    (row : ExecutionIntent) : (update.apply row).transactionHash = some hash := by
  cases update with
  | bindTransactionHash id bound => exact hbinds
  | _ => cases hbinds

/-- The hash stays free exactly as long as no operation claims it. -/
theorem answer_free {op : IntentOp} {input : Input} {database : Database}
    (hothers : ∀ update, op = .updateMany update → update.id ≠ intent.id)
    (hfree : Free intent hash database.intents) :
    Free intent hash ((intentMachine runtime routing).answer op input database).2.intents ↔
      ∀ update, op = .updateMany update → ¬ Claims hash update input database := by
  constructor
  · rintro hnext update rfl ⟨hbinds, hcommits, row, hmember, hselects⟩
    rw [answer_updateMany, if_pos hcommits] at hnext
    have hupdated : update.apply row ∈ database.updated update := by
      refine List.mem_map.mpr ⟨row, hmember, ?_⟩
      rw [if_pos hselects]
    have hclaimed := hnext _ hupdated (apply_boundHash hbinds row)
    apply hothers update rfl
    rw [← hclaimed, IntentUpdate.apply_id]
    exact (of_decide_eq_true (Bool.and_eq_true_iff.mp hselects).1).symm
  · intro hspared
    rcases answer_cases runtime routing op input database with
      hsame | ⟨canonical, -, hinserted, -⟩ | ⟨update, hop, hcommits, hupdated⟩
    · rw [hsame]
      exact hfree
    · rw [hinserted]
      intro row hmember hheld
      rcases List.mem_append.mp hmember with hold | hnew
      · exact hfree row hold hheld
      · rw [List.mem_singleton.mp hnew] at hheld
        cases hheld
    · rw [hupdated]
      intro next hmember hheld
      obtain ⟨row, hrow, rfl⟩ := List.mem_map.mp hmember
      by_cases hselects : update.selects row = true
      · rw [if_pos hselects] at hheld ⊢
        rcases apply_hash hheld with hbefore | hbinds
        · have hintent := hfree row hrow hbefore
          rw [hintent] at hselects
          have hid := of_decide_eq_true (Bool.and_eq_true_iff.mp hselects).1
          exact absurd hid.symm (hothers update hop)
        · exact absurd ⟨hbinds, hcommits, row, hrow, hselects⟩ (hspared update hop)
      · rw [if_neg hselects] at hheld ⊢
        exact hfree row hrow hheld

theorem step_reserved {pool : InvoicePool} {choice : ℕ × InvoiceInput}
    (hothers : UsesOthers intent pool choice)
    (hreserved : Reserved routing intent hash pool.state.intents) :
    Reserved routing intent hash
      (pool.step (invoiceMachine runtime routing) choice).state.intents := by
  rcases @step_intents runtime routing pool choice with ⟨op, hpending, hanswer⟩ | ⟨-, hsame⟩
  · rw [hanswer]
    refine answer_reserved (fun update hop => ?_) hreserved
    exact hothers update ((pendingUpdate_of_pending hpending).mpr hop)
  · rw [hsame]
    exact hreserved

/-- A step of the calls on other intents leaves the hash free unless it claims it. -/
theorem step_free {pool : InvoicePool} {choice : ℕ × InvoiceInput}
    (hothers : UsesOthers intent pool choice) (hfree : Free intent hash pool.state.intents) :
    Free intent hash (pool.step (invoiceMachine runtime routing) choice).state.intents ↔
      SparesHash hash pool choice := by
  rcases @step_intents runtime routing pool choice with ⟨op, hpending, hanswer⟩ | ⟨hnone, hsame⟩
  · have hupdate : ∀ update, update ∈ pendingUpdate pool choice.1 ↔ op = .updateMany update :=
      fun update => pendingUpdate_of_pending hpending
    rw [hanswer, answer_free (fun update hop => hothers update ((hupdate update).mpr hop)) hfree]
    exact forall_congr' fun update => imp_congr_left (hupdate update).symm
  · rw [hsame]
    refine iff_of_true hfree fun update hupdate => ?_
    rw [pendingUpdate_of_none hnone] at hupdate
    cases hupdate

/-- Calls that use only other intents leave the hash available to the intent at every
moment exactly as long as they bind it to none. -/
theorem hash_available_iff {pool : InvoicePool} {choices : List (ℕ × InvoiceInput)}
    (hreserved : Reserved routing intent hash pool.state.intents)
    (havailable : HashAvailable runtime routing intent hash pool.state)
    (hothers : Pool.Along (invoiceMachine runtime routing) (UsesOthers intent) choices pool) :
    Pool.Along (invoiceMachine runtime routing) (SparesHash hash) choices pool ↔
      ∀ first rest, choices = first ++ rest → HashAvailable runtime routing intent hash
        (pool.run (invoiceMachine runtime routing) first).state := by
  have hstep : ∀ (pool : InvoicePool) (choice : ℕ × InvoiceInput), UsesOthers intent pool choice →
      Reserved routing intent hash pool.state.intents →
      HashAvailable runtime routing intent hash pool.state →
      (SparesHash hash pool choice ↔ HashAvailable runtime routing intent hash
        (pool.step (invoiceMachine runtime routing) choice).state) := by
    intro pool choice hothers hreserved havailable
    have hfree := (hashAvailable_iff hreserved).mp havailable
    rw [hashAvailable_iff (step_reserved hothers hreserved), step_free hothers hfree]
  exact @Pool.along_iff_invariant_of _ _ _ _ _
    (fun pool => Reserved routing intent hash pool.state.intents)
    (fun pool => HashAvailable runtime routing intent hash pool.state) _ _
    (fun _ _ => step_reserved) hstep _ _ hothers hreserved havailable

end

/-! ## A hash claimed by another wallet -/

def exampleHash : String := "0x3333333333333333333333333333333333333333333333333333333333333333"

/-- The intent of another wallet, created for a payment of its own. -/
def exampleNeighbour : ExecutionIntent := {
  exampleCanonical.row "intent-2" with
  sourceWallet := "0x4444444444444444444444444444444444444444"
  amountUnits := "1"
  externalReference := "order-2"
  logicalKey := "e07c0e2a17df0b68bc565a5c458c50c7c58fffffbf09359b7619d411b202c783"
  requestFingerprint := "16ed129f3c9ed6a40f3885f389a8c91922b2e6acb005589b32d951e5048c8cf3"
  idempotencyKey := "b65df83d-99a7-5f74-9536-6ba430e03f2a" }

/-- The other wallet reports a hash for its intent. -/
def neighbourPool (hash : String) : InvoicePool :=
  invoicePool exampleRuntime arcMainnet (verify exampleRuntime arcMainnet 1)
    [.intent (.postTransactionHash 1 "intent-2" (.object [
      ("idempotencyKey", .string "b65df83d-99a7-5f74-9536-6ba430e03f2a"),
      ("transactionHash", .string hash)]))]
    ⟨[exampleCanonical.row "intent-1", exampleNeighbour], [], []⟩

/-- The steps of its call. -/
def neighbourChoices : List (ℕ × InvoiceInput) :=
  [0, 0, 0, 0].map fun thread => (thread,
    ⟨exampleInput, .error .other, .error .other, .error .other, .error .other⟩)

theorem exampleIntent_reserved : Reserved arcMainnet (exampleCanonical.row "intent-1") exampleHash
    [exampleCanonical.row "intent-1", exampleNeighbour] :=
  ⟨by decide +kernel, List.mem_cons_self, rfl, by decide +kernel, .inl rfl⟩

theorem exampleIntent_available (hash : String) :
    HashAvailable exampleRuntime arcMainnet (exampleCanonical.row "intent-1") exampleHash
      (neighbourPool hash).state := by
  refine (hashAvailable_iff exampleIntent_reserved).mpr fun row hmember hheld => ?_
  rcases List.mem_cons.mp hmember with hown | hother
  · exact hown
  · rw [List.mem_singleton.mp hother] at hheld
    cases hheld

theorem hash_available_example :
    let pool := neighbourPool "0x5555555555555555555555555555555555555555555555555555555555555555"
    Pool.Along (invoiceMachine exampleRuntime arcMainnet) (SparesHash exampleHash)
        neighbourChoices pool ∧
      ∀ first rest, neighbourChoices = first ++ rest →
        HashAvailable exampleRuntime arcMainnet (exampleCanonical.row "intent-1") exampleHash
          (pool.run (invoiceMachine exampleRuntime arcMainnet) first).state := by
  intro pool
  have hothers : Pool.Along (invoiceMachine exampleRuntime arcMainnet)
      (UsesOthers (exampleCanonical.row "intent-1")) neighbourChoices pool := by
    decide +kernel
  have hspares : Pool.Along (invoiceMachine exampleRuntime arcMainnet) (SparesHash exampleHash)
      neighbourChoices pool := by
    decide +kernel
  exact ⟨hspares, (hash_available_iff exampleIntent_reserved (exampleIntent_available _)
    hothers).mp hspares⟩

/-- The hash that the intent's own wallet is about to report is bound to the intent of
another one. -/
theorem hash_claimed_by_neighbour :
    let pool := neighbourPool exampleHash
    Reserved arcMainnet (exampleCanonical.row "intent-1") exampleHash pool.state.intents ∧
      HashAvailable exampleRuntime arcMainnet (exampleCanonical.row "intent-1") exampleHash
        pool.state ∧
      Pool.Along (invoiceMachine exampleRuntime arcMainnet)
        (UsesOthers (exampleCanonical.row "intent-1")) neighbourChoices pool ∧
      ¬ HashAvailable exampleRuntime arcMainnet (exampleCanonical.row "intent-1") exampleHash
        (pool.run (invoiceMachine exampleRuntime arcMainnet) neighbourChoices).state := by
  intro pool
  have hothers : Pool.Along (invoiceMachine exampleRuntime arcMainnet)
      (UsesOthers (exampleCanonical.row "intent-1")) neighbourChoices pool := by
    decide +kernel
  refine ⟨exampleIntent_reserved, exampleIntent_available _, hothers, fun havailable => ?_⟩
  let last := (pool.run (invoiceMachine exampleRuntime arcMainnet) neighbourChoices).state
  have hreserved : Reserved arcMainnet (exampleCanonical.row "intent-1") exampleHash last.intents := by
    refine ⟨?_, ?_, rfl, by decide, .inl rfl⟩
    · decide +kernel
    · decide +kernel
  have hheld : ∃ row ∈ last.intents, row.transactionHash = some exampleHash ∧ row.id ≠ "intent-1" := by
    decide +kernel
  obtain ⟨row, hmember, hhash, hother⟩ := hheld
  apply hother
  rw [(hashAvailable_iff hreserved).mp havailable row hmember hhash]
  rfl

end WizPay.Invoices
