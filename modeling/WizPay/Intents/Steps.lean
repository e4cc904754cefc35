import WizPay.Intents.Controller

/-!
# Steps on the intent table

What one operation can do to the stored intents, and which statuses the methods
of the service move intents to by a transition.
-/

namespace WizPay.Intents

open Foundation Backend ExecutionIntentStatus

/-! ## One operation -/

/-- An update takes effect: it breaks no unique column, and no outage prevents it. -/
def Commits (update : IntentUpdate) (input : Input) (database : Database) : Prop :=
  UniqueIntents (database.updated update) ∧ (input.outage = none ∨ input.applied = true)

instance (update : IntentUpdate) (input : Input) (database : Database) :
    Decidable (Commits update input database) :=
  inferInstanceAs (Decidable (_ ∧ _))

section

variable (runtime : Runtime) (routing : PaymentRouting)

/-- What an `updateMany` leaves behind, an outage or not. -/
theorem answer_updateMany (update : IntentUpdate) (input : Input) (database : Database) :
    ((intentMachine runtime routing).answer (.updateMany update) input database).2 =
      if Commits update input database then { database with intents := database.updated update }
      else database := by
  by_cases hunique : UniqueIntents (database.updated update)
  · cases houtage : input.outage with
    | none => simp [intentMachine, Database.updateMany, Commits, hunique, houtage]
    | some error =>
        cases happlied : input.applied <;>
          simp [intentMachine, Database.updateMany, Commits, hunique, houtage, happlied]
  · cases houtage : input.outage <;>
      simp [intentMachine, Database.updateMany, Commits, hunique, houtage]

theorem insert_cases (canonical : CanonicalAcquireInput) (input : Input) (database : Database) :
    (database.insert canonical input).2 = database ∨
      (database.insert canonical input).2 =
          { database with intents := database.intents ++ [canonical.row input.freshId] } ∧
        UniqueIntents (database.intents ++ [canonical.row input.freshId]) := by
  dsimp only [Database.insert]
  split
  · next hunique => exact .inr ⟨rfl, hunique⟩
  · exact .inl rfl

theorem create_cases (canonical : CanonicalAcquireInput) (input : Input) (database : Database) :
    (database.create runtime routing canonical input).2 = database ∨
      (database.create runtime routing canonical input).2 =
          { database with intents := database.intents ++ [canonical.row input.freshId] } ∧
        UniqueIntents (database.intents ++ [canonical.row input.freshId]) := by
  unfold Database.create
  split
  · exact .inl rfl
  · split
    · exact insert_cases canonical input database
    · dsimp only
      split
      · exact .inl rfl
      · exact insert_cases canonical input database

/-- An operation leaves the database as it is, inserts the row of its canonical
input, or commits its update. -/
theorem answer_cases (op : IntentOp) (input : Input) (database : Database) :
    ((intentMachine runtime routing).answer op input database).2 = database ∨
      (∃ canonical, op = .create canonical ∧
        ((intentMachine runtime routing).answer op input database).2 =
          { database with intents := database.intents ++ [canonical.row input.freshId] } ∧
        UniqueIntents (database.intents ++ [canonical.row input.freshId])) ∨
      ∃ update, op = .updateMany update ∧ Commits update input database ∧
        ((intentMachine runtime routing).answer op input database).2 =
          { database with intents := database.updated update } := by
  cases op with
  | now | findById | findByTransactionHash | findByLogicalKey => exact .inl rfl
  | create canonical =>
      have hcreate := create_cases runtime routing canonical input database
      cases houtage : input.outage with
      | none =>
          simp only [intentMachine, houtage]
          exact hcreate.imp_right fun hinserted => .inl ⟨canonical, rfl, hinserted⟩
      | some error =>
          cases happlied : input.applied with
          | false => exact .inl (by simp [intentMachine, houtage, happlied])
          | true =>
              simp only [intentMachine, houtage, happlied, if_true]
              exact hcreate.imp_right fun hinserted => .inl ⟨canonical, rfl, hinserted⟩
  | updateMany update =>
      rw [answer_updateMany]
      split
      · next hcommits => exact .inr (.inr ⟨update, rfl, hcommits, rfl⟩)
      · exact .inl rfl

/-- The invoices are only read. -/
theorem answer_invoices (op : IntentOp) (input : Input) (database : Database) :
    ((intentMachine runtime routing).answer op input database).2.invoices = database.invoices := by
  rcases answer_cases runtime routing op input database with
    hsame | ⟨canonical, -, hinserted, -⟩ | ⟨update, -, -, hupdated⟩
  · rw [hsame]
  · rw [hinserted]
  · rw [hupdated]

theorem commits_of_answer {update : IntentUpdate} {input : Input} {database : Database} {count : ℕ}
    (hanswer : ((intentMachine runtime routing).answer (.updateMany update) input database).1 =
      Except.ok count) :
    Commits update input database ∧ database.intents.countP update.selects = count := by
  cases houtage : input.outage with
  | some error =>
      simp only [intentMachine, houtage] at hanswer
      cases hanswer
  | none =>
      simp only [intentMachine, houtage, Database.updateMany] at hanswer
      split at hanswer
      · next hunique => exact ⟨⟨hunique, .inl houtage⟩, Except.ok.inj hanswer⟩
      · cases hanswer

end

/-! ## The statuses a method moves to -/

/-- The status a transition moves to. -/
def IntentOp.target : IntentOp → Option ExecutionIntentStatus
  | .updateMany (.transition _ edge _ _) => some edge.next
  | _ => none

/-- An operation moves no intent by a transition except to one of some statuses. -/
def MovesTo (targets : List ExecutionIntentStatus) (op : IntentOp) : Prop :=
  ∀ status, op.target = some status → status ∈ targets

theorem movesTo_of_target {op : IntentOp} (htarget : op.target = none)
    (targets : List ExecutionIntentStatus) : MovesTo targets op := by
  intro status hstatus
  rw [htarget] at hstatus
  cases hstatus

section

open Service

variable {runtime : Runtime} {routing : PaymentRouting} {targets : List ExecutionIntentStatus}

theorem performs_op {α : Type} {op : IntentOp} {toResult : op.Res → IntentService α}
    (htarget : op.target = none)
    (hresult : ∀ answer, Performs (MovesTo targets) (toResult answer)) :
    Performs (MovesTo targets) (perform (S := intentSignature) op >>= toResult) :=
  performs_bind (performs_perform (movesTo_of_target htarget targets)) hresult

theorem get_movesTo (id : String) : Performs (MovesTo targets) (get routing id) := by
  refine performs_bind (performs_op rfl fun _ => performs_orThrow _) fun found => ?_
  cases found with
  | none => exact performs_throw _
  | some intent => exact performs_bind (performs_throwIf _) fun _ => performs_pure _

theorem updateMany_movesTo {update : IntentUpdate} (hupdate : MovesTo targets (.updateMany update)) :
    Performs (MovesTo targets) (updateMany update) :=
  performs_bind (performs_perform hupdate) fun _ => performs_orThrow _

theorem currentTime_movesTo : Performs (MovesTo targets) currentTime :=
  performs_perform (movesTo_of_target rfl targets)

theorem transition_movesTo (id : String) (expected target : ExecutionIntentStatus)
    (data : TransitionData) (htarget : target ∈ targets) :
    Performs (MovesTo targets) (transition routing id expected target data) := by
  have hmoves : ∀ edge completedAt, edge.next = target → Performs (MovesTo targets)
      (updateMany (.transition id edge data completedAt)) := by
    intro edge completedAt hedge
    refine updateMany_movesTo fun status hstatus => ?_
    cases hstatus
    rwa [hedge]
  unfold transition
  repeat' first
    | exact hmoves _ _ rfl
    | exact get_movesTo id
    | exact currentTime_movesTo
    | exact performs_throw _
    | exact performs_pure _
    | refine performs_bind ?_ fun _ => ?_
    | split

theorem beginVerification_movesTo (id : String)
    (htargets : [SUBMISSION_PENDING, SUBMITTED, VERIFYING] ⊆ targets) :
    Performs (MovesTo targets) (beginVerification routing id) := by
  have hmoves : ∀ expected target, target ∈ [SUBMISSION_PENDING, SUBMITTED, VERIFYING] →
      Performs (MovesTo targets) (transition routing id expected target) :=
    fun expected target hmember => transition_movesTo id expected target {} (htargets hmember)
  unfold beginVerification
  repeat' first
    | exact get_movesTo id
    | exact hmoves _ _ (by decide)
    | exact performs_pure _
    | refine performs_bind ?_ fun _ => ?_
    | split
    | dsimp only

theorem attachTask_movesTo (id taskId : String) :
    Performs (MovesTo targets) (attachTask routing id taskId) := by
  refine performs_bind (get_movesTo id) fun _ => performs_bind (performs_throwIf _) fun _ => ?_
  exact performs_bind (performs_discard (updateMany_movesTo (movesTo_of_target rfl _))) fun _ =>
    get_movesTo id

theorem assertAccess_movesTo (id idempotencyKey : String) :
    Performs (MovesTo targets) (assertAccess routing id idempotencyKey) :=
  performs_bind (get_movesTo id) fun _ =>
    performs_bind (performs_throwIf _) fun _ => performs_pure _

theorem assertLease_movesTo (id leaseOwner : String) :
    Performs (MovesTo targets) (assertLease routing id leaseOwner) :=
  performs_bind (get_movesTo id) fun _ => performs_bind currentTime_movesTo fun _ =>
    performs_bind (performs_throwIf _) fun _ => performs_pure _

theorem acquireLease_movesTo (id leaseOwner : String) (ttlMs : ℕ) :
    Performs (MovesTo targets) (acquireLease routing id leaseOwner ttlMs) := by
  refine performs_bind currentTime_movesTo fun now => performs_bind (performs_throwIf _) fun _ =>
    performs_bind (updateMany_movesTo (movesTo_of_target rfl _)) fun count => ?_
  dsimp only
  split
  · exact performs_bind (get_movesTo id) fun _ => performs_bind (performs_throwIf _) fun _ =>
      performs_bind (performs_throw _) fun _ => get_movesTo id
  · exact get_movesTo id

theorem prepareWalletSignature_movesTo (id idempotencyKey leaseOwner : String) (ttlMs : ℕ)
    (htarget : AWAITING_WALLET_SIGNATURE ∈ targets) :
    Performs (MovesTo targets)
      (prepareWalletSignature routing id idempotencyKey leaseOwner ttlMs) := by
  refine performs_bind (performs_discard (assertAccess_movesTo id idempotencyKey)) fun _ =>
    performs_bind (get_movesTo id) fun current => ?_
  refine performs_bind (performs_throwIf _) fun _ => performs_bind (performs_throwIf _) fun _ => ?_
  refine performs_bind (performs_throwIf _) fun _ => performs_bind (performs_throwIf _) fun _ => ?_
  exact performs_bind (performs_discard (acquireLease_movesTo id leaseOwner ttlMs)) fun _ =>
    transition_movesTo id current.status _ {} htarget

theorem bindImmutableExecutionContext_movesTo (id : String) (input : ExecutionContextInput) :
    Performs (MovesTo targets) (bindImmutableExecutionContext runtime routing id input) := by
  unfold bindImmutableExecutionContext
  repeat' first
    | exact get_movesTo id
    | exact updateMany_movesTo (movesTo_of_target rfl _)
    | exact performs_ofExcept _
    | exact performs_throwIf _
    | exact performs_pure _
    | refine performs_bind ?_ fun _ => ?_

theorem bindCircleCorrelation_movesTo (id challengeId : String) (transactionId : Option String) :
    Performs (MovesTo targets) (bindCircleCorrelation routing id challengeId transactionId) := by
  unfold bindCircleCorrelation
  repeat' first
    | exact get_movesTo id
    | exact performs_perform (movesTo_of_target rfl _)
    | exact performs_throwIf _
    | exact performs_pure _
    | refine performs_bind ?_ fun _ => ?_

theorem bindTransactionHash_movesTo (attempts : ℕ) (id hash : String) (leaseOwner : Option String)
    (recovery : Bool) :
    Performs (MovesTo targets) (bindTransactionHash routing attempts id hash leaseOwner recovery) := by
  induction attempts generalizing hash with
  | zero => exact performs_throw _
  | succ attempts ih =>
      unfold bindTransactionHash
      repeat' first
        | exact get_movesTo id
        | exact ih _
        | exact performs_discard (assertLease_movesTo id _)
        | exact performs_perform (movesTo_of_target rfl _)
        | exact performs_ofExcept _
        | exact performs_throwIf _
        | exact performs_throw _
        | exact performs_pure _
        | refine performs_bind ?_ fun _ => ?_
        | split

theorem bindKnownTransactionHash_movesTo (attempts : ℕ) (id idempotencyKey hash : String) :
    Performs (MovesTo targets)
      (bindKnownTransactionHash routing attempts id idempotencyKey hash) :=
  performs_bind (performs_discard (assertAccess_movesTo id idempotencyKey)) fun _ =>
    performs_bind (get_movesTo id) fun _ => performs_bind (performs_throwIf _) fun _ =>
      bindTransactionHash_movesTo attempts id hash none true

theorem cancelUnsubmitted_movesTo (id idempotencyKey : String) :
    Performs (MovesTo targets) (cancelUnsubmitted routing id idempotencyKey) := by
  refine performs_bind (performs_discard (assertAccess_movesTo id idempotencyKey)) fun _ =>
    performs_bind (get_movesTo id) fun _ => ?_
  refine performs_bind (performs_throwIf _) fun _ => performs_bind (performs_throwIf _) fun _ => ?_
  exact performs_bind (updateMany_movesTo (movesTo_of_target rfl _)) fun _ =>
    performs_bind (performs_throwIf _) fun _ => get_movesTo id

theorem acquireLoop_movesTo (canonical : CanonicalAcquireInput) (attempts : ℕ) :
    Performs (MovesTo targets) (acquireLoop canonical attempts) := by
  induction attempts with
  | zero => exact performs_pure _
  | succ attempts ih =>
      unfold acquireLoop
      repeat' first
        | exact ih
        | exact performs_perform (movesTo_of_target rfl _)
        | exact performs_orThrow _
        | exact performs_throwIf _
        | exact performs_throw _
        | exact performs_pure _
        | refine performs_bind ?_ fun _ => ?_
        | split

theorem acquire_movesTo (input : ExecutionIntentAcquireInput) :
    Performs (MovesTo targets) (acquire runtime routing input) := by
  refine performs_bind (performs_ofExcept _) fun canonical =>
    performs_bind (acquireLoop_movesTo canonical 3) fun found => ?_
  cases found with
  | none => exact performs_throw _
  | some intent =>
      exact performs_bind (performs_throwIf _) fun _ =>
        performs_bind (performs_throwIf _) fun _ => performs_pure _

theorem getByTransactionHash_movesTo (hash : String) :
    Performs (MovesTo targets) (getByTransactionHash routing hash) := by
  refine performs_bind (performs_ofExcept _) fun hash =>
    performs_bind (performs_op rfl fun _ => performs_orThrow _) fun found => ?_
  cases found with
  | none => exact performs_throw _
  | some intent => exact performs_bind (performs_throwIf _) fun _ => performs_pure _

theorem completeWithVerifiedReceipt_movesTo (id : String) (receipt : VerifiedExecutionReceipt)
    (htarget : COMPLETED ∈ targets) :
    Performs (MovesTo targets) (completeWithVerifiedReceipt runtime routing id receipt) := by
  refine performs_bind (get_movesTo id) fun intent => performs_bind (performs_ofExcept _) fun hash =>
    performs_bind (performs_ofExcept _) fun isMatch => performs_bind (performs_throwIf _) fun _ => ?_
  split
  · exact performs_pure _
  · exact transition_movesTo id VERIFYING COMPLETED {} htarget

end

/-- The statuses a call moves intents to. -/
def IntentCall.targets : IntentCall → List ExecutionIntentStatus
  | beginVerification _ => [SUBMISSION_PENDING, SUBMITTED, VERIFYING]
  | prepareWalletSignature _ _ _ _ => [AWAITING_WALLET_SIGNATURE]
  | transition _ _ target _ => [target]
  | completeWithVerifiedReceipt _ _ => [COMPLETED]
  | postPrepareWallet _ _ => [AWAITING_WALLET_SIGNATURE]
  | postVerify _ _ _ => [SUBMISSION_PENDING, SUBMITTED, VERIFYING, COMPLETED]
  | _ => []

theorem verify_movesTo {runtime : Runtime} {routing : PaymentRouting}
    (receipts : DirectTransferVerifier) (id : String) (body : Json) :
    Service.Performs (MovesTo [SUBMISSION_PENDING, SUBMITTED, VERIFYING, COMPLETED])
      (ExecutionIntentController.verify runtime routing receipts id body) := by
  refine Service.performs_bind (Service.performs_discard (assertAccess_movesTo id _)) fun _ =>
    Service.performs_bind (beginVerification_movesTo id (by decide)) fun intent => ?_
  split
  · exact Service.performs_bind (Service.performs_throwIf _) fun _ =>
      Service.performs_bind (Service.performs_ofExcept _) fun verified =>
        completeWithVerifiedReceipt_movesTo id verified (by decide)
  · exact Service.performs_throw _

theorem IntentCall.movesTo (runtime : Runtime) (routing : PaymentRouting) (call : IntentCall) :
    Service.Performs (MovesTo call.targets) (call.program runtime routing) := by
  cases call with
  | acquire input => exact acquire_movesTo input
  | get id => exact get_movesTo id
  | getByTransactionHash hash => exact getByTransactionHash_movesTo hash
  | beginVerification id => exact beginVerification_movesTo id (List.Subset.refl _)
  | attachTask id taskId => exact attachTask_movesTo id taskId
  | acquireLease id leaseOwner ttlMs => exact acquireLease_movesTo id leaseOwner ttlMs
  | prepareWalletSignature id idempotencyKey leaseOwner ttlMs =>
      exact prepareWalletSignature_movesTo id idempotencyKey leaseOwner ttlMs List.mem_cons_self
  | assertLease id leaseOwner => exact assertLease_movesTo id leaseOwner
  | bindImmutableExecutionContext id input => exact bindImmutableExecutionContext_movesTo id input
  | transition id expected target data =>
      exact transition_movesTo id expected target data List.mem_cons_self
  | bindCircleCorrelation id challengeId transactionId =>
      exact bindCircleCorrelation_movesTo id challengeId transactionId
  | bindTransactionHash attempts id hash leaseOwner recovery =>
      exact bindTransactionHash_movesTo attempts id hash leaseOwner recovery
  | bindKnownTransactionHash attempts id idempotencyKey hash =>
      exact bindKnownTransactionHash_movesTo attempts id idempotencyKey hash
  | cancelUnsubmitted id idempotencyKey => exact cancelUnsubmitted_movesTo id idempotencyKey
  | completeWithVerifiedReceipt id receipt =>
      exact completeWithVerifiedReceipt_movesTo id receipt List.mem_cons_self
  | assertAccess id idempotencyKey => exact assertAccess_movesTo id idempotencyKey
  | postAcquire body =>
      dsimp only [program, ExecutionIntentController.acquire]
      split
      · exact Service.performs_throw _
      · exact acquire_movesTo _
  | postTransactionHash attempts id body =>
      exact Service.performs_bind (Service.performs_discard (assertAccess_movesTo id _)) fun _ =>
        bindTransactionHash_movesTo attempts id _ _ false
  | postPrepareWallet id body =>
      exact prepareWalletSignature_movesTo id _ _ _ List.mem_cons_self
  | postRecover id body => exact assertAccess_movesTo id _
  | postRecoverHash attempts id body => exact bindKnownTransactionHash_movesTo attempts id _ _
  | postCancel id body => exact cancelUnsubmitted_movesTo id _
  | postVerify receipts id body => exact verify_movesTo receipts id body

end WizPay.Intents
