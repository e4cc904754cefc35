import WizPay.Backend.Outcomes
import WizPay.Intents.Acquisition

/-!
# Intents under verification

A submitted intent is verified and completed as long as nobody declares it failed. What the
methods of the service do to such an intent: they read it as it is, and move it only ahead.
-/

namespace WizPay.Intents

open Foundation Backend ExecutionIntentStatus

/-- What a submitted intent goes through when no failure is declared. -/
def ExecutionIntentStatus.ahead : ExecutionIntentStatus → List ExecutionIntentStatus
  | SUBMITTED => [SUBMITTED, VERIFYING, COMPLETED]
  | VERIFYING => [VERIFYING, COMPLETED]
  | COMPLETED => [COMPLETED]
  | _ => []

namespace ExecutionIntentStatus

variable {first second third : ExecutionIntentStatus}

theorem ahead_trans (hsecond : second ∈ first.ahead) (hthird : third ∈ second.ahead) :
    third ∈ first.ahead := by
  revert hsecond hthird
  cases first <;> cases second <;> cases third <;> decide

theorem ahead_self (hsecond : second ∈ first.ahead) : second ∈ second.ahead := by
  revert hsecond
  cases first <;> cases second <;> decide

theorem eq_completed_of_ahead (hsecond : second ∈ COMPLETED.ahead) : second = COMPLETED :=
  List.mem_singleton.mp hsecond

end ExecutionIntentStatus

/-! ## The row -/

/-- The row of an intent is in a status, and its hash is the one that was bound. -/
structure Reached (paid : ExecutionIntent) (status : ExecutionIntentStatus)
    (database : Database) : Prop where
  unique : UniqueIntents database.intents
  row : ∃ row ∈ database.intents, row.identity = paid.identity ∧
    row.transactionHash = paid.transactionHash ∧ row.status = status

theorem identity_id {first second : ExecutionIntent} (hsame : first.identity = second.identity) :
    first.id = second.id :=
  congrArg IntentIdentity.id hsame

/-- The row of an intent is the only one with its identifier. -/
theorem Reached.eq {paid row : ExecutionIntent} {status : ExecutionIntentStatus}
    {database : Database} (hreached : Reached paid status database)
    (hmember : row ∈ database.intents) (hid : row.id = paid.id) :
    row.identity = paid.identity ∧ row.transactionHash = paid.transactionHash ∧
      row.status = status := by
  obtain ⟨found, hfound, hidentity, hhash, hstatus⟩ := hreached.row
  obtain rfl := row_unique_id hreached.unique hfound hmember
    ((identity_id hidentity).trans hid.symm)
  exact ⟨hidentity, hhash, hstatus⟩

theorem Reached.unique_status {paid : ExecutionIntent} {first second : ExecutionIntentStatus}
    {database : Database} (hfirst : Reached paid first database)
    (hsecond : Reached paid second database) : first = second := by
  obtain ⟨row, hmember, hidentity, -, hstatus⟩ := hfirst.row
  exact hstatus.symm.trans (hsecond.eq hmember (identity_id hidentity)).2.2

/-- Rows keep their identities, and the intent moves only ahead. -/
structure Settles (paid : ExecutionIntent) (before after : Database) : Prop where
  identities : KeepsIdentities before after
  ahead : ∃ old new, Reached paid old before ∧ Reached paid new after ∧ new ∈ old.ahead

variable {paid : ExecutionIntent} {status : ExecutionIntentStatus} {database later : Database}

theorem settles_isRely : IsRely (Settles paid) where
  trans := by
    rintro first second third ⟨hkept, old, middle, hold, hmiddle, hahead⟩
      ⟨hkept', other, new, hother, hnew, hlater⟩
    obtain rfl := hmiddle.unique_status hother
    have hidentities := keepsIdentities_isRely.trans hkept hkept'
    exact ⟨hidentities, old, new, hold, hnew, ahead_trans hahead hlater⟩
  refl_after := by
    rintro before after ⟨hkept, old, new, _, hnew, hahead⟩
    exact ⟨keepsIdentities_isRely.refl_after hkept, new, new, hnew, hnew, ahead_self hahead⟩

theorem settles_refl (hreached : Reached paid status database)
    (hahead : status ∈ status.ahead) : Settles paid database database :=
  ⟨⟨hreached.unique, List.prefix_refl _⟩, status, status, hreached, hreached, hahead⟩

theorem Reached.settles (hreached : Reached paid status database)
    (hlater : Settles paid database later) :
    ∃ next, Reached paid next later ∧ next ∈ status.ahead := by
  obtain ⟨old, next, hold, hnext, hahead⟩ := hlater.ahead
  obtain rfl := hreached.unique_status hold
  exact ⟨next, hnext, hahead⟩

theorem Reached.completed (hreached : Reached paid COMPLETED database)
    (hlater : Settles paid database later) : Reached paid COMPLETED later := by
  obtain ⟨next, hnext, hahead⟩ := hreached.settles hlater
  obtain rfl := eq_completed_of_ahead hahead
  exact hnext

/-! ## Operations -/

/-- An update moves the intent only ahead, and leaves its hash alone. -/
def Spares (paid : ExecutionIntent) (op : IntentOp) (database : Database) : Prop :=
  ∀ update, op = .updateMany update → ∀ row ∈ database.intents, row.id = paid.id →
    update.selects row = true →
      (update.apply row).status ∈ row.status.ahead ∧
        (update.apply row).transactionHash = row.transactionHash

variable {runtime : Runtime} {routing : PaymentRouting}

theorem updated_reached {update : IntentUpdate} (hreached : Reached paid status database)
    (hahead : status ∈ status.ahead) (hspares : Spares paid (.updateMany update) database)
    (hunique : UniqueIntents (database.updated update)) :
    ∃ next ∈ status.ahead,
      Reached paid next { database with intents := database.updated update } := by
  obtain ⟨row, hmember, hidentity, hhash, hstatus⟩ := hreached.row
  by_cases hselects : update.selects row = true
  · obtain ⟨hnext, hkept⟩ := hspares update rfl row hmember (identity_id hidentity) hselects
    refine ⟨(update.apply row).status, hstatus ▸ hnext, hunique, update.apply row, ?_, ?_, ?_, rfl⟩
    · exact List.mem_map.mpr ⟨row, hmember, if_pos hselects⟩
    · exact (apply_identity update row).trans hidentity
    · exact hkept.trans hhash
  · refine ⟨status, hahead, hunique, row, ?_, hidentity, hhash, hstatus⟩
    exact List.mem_map.mpr ⟨row, hmember, if_neg hselects⟩

theorem answer_settles {op : IntentOp} {input : Input} (hsettles : Settles paid database database)
    (hspares : Spares paid op database) :
    Settles paid database ((intentMachine runtime routing).answer op input database).2 := by
  obtain ⟨old, status, -, hreached, hself⟩ := hsettles.ahead
  have hahead := ahead_self hself
  refine ⟨answer_keepsIdentities op input hreached.unique, status, ?_⟩
  rcases answer_cases runtime routing op input database with
    hsame | ⟨canonical, -, hinserted, hunique⟩ | ⟨update, rfl, hcommits, hupdated⟩
  · rw [hsame]
    exact ⟨status, hreached, hreached, hahead⟩
  · rw [hinserted]
    obtain ⟨row, hmember, hrow⟩ := hreached.row
    exact ⟨status, hreached, ⟨hunique, row, List.mem_append_left _ hmember, hrow⟩, hahead⟩
  · rw [hupdated]
    obtain ⟨next, hnext, hlater⟩ := updated_reached hreached hahead hspares hcommits.1
    exact ⟨next, hreached, hlater, hnext⟩

theorem spares_of_other {op : IntentOp} (hother : ∀ update, op = .updateMany update →
    update.id ≠ paid.id) : Spares paid op database := by
  intro update hop row _ hid hselects
  simp only [IntentUpdate.selects, Bool.and_eq_true, decide_eq_true_eq] at hselects
  exact absurd (hselects.1.symm.trans hid) (hother update hop)

theorem spares_of_read {op : IntentOp} (hread : ∀ update, op ≠ .updateMany update) :
    Spares paid op database :=
  fun update hop => absurd hop (hread update)

/-- The statuses that no method moves a failing intent to. -/
def harmless : List ExecutionIntentStatus :=
  [AWAITING_WALLET_SIGNATURE, SUBMISSION_PENDING, SUBMITTED, VERIFYING, COMPLETED]

/-- Methods that declare no failure move the intent only ahead: its hash is bound, so it can
neither be bound again nor cancelled. -/
theorem spares_of_movesTo {op : IntentOp} (hop : MovesTo harmless op)
    (hbound : paid.transactionHash ≠ none) (hreached : Reached paid status database)
    (hahead : status ∈ status.ahead) : Spares paid op database := by
  rintro update rfl row hmember hid hselects
  obtain ⟨-, hhash, rfl⟩ := hreached.eq hmember hid
  cases update with
  | attachTask | acquireLease | bindImmutableExecutionContext | bindCircleCorrelation =>
      exact ⟨hahead, rfl⟩
  | bindTransactionHash id hash =>
      simp only [IntentUpdate.selects, IntentUpdate.condition, Bool.and_eq_true,
        decide_eq_true_eq] at hselects
      exact absurd (hhash.symm.trans hselects.2) hbound
  | cancelUnsubmitted id =>
      simp only [IntentUpdate.selects, IntentUpdate.condition, Bool.and_eq_true,
        decide_eq_true_eq] at hselects
      exact absurd (hhash.symm.trans hselects.2.1) hbound
  | transition id edge data completedAt =>
      simp only [IntentUpdate.selects, IntentUpdate.condition, Bool.and_eq_true,
        decide_eq_true_eq] at hselects
      refine ⟨?_, rfl⟩
      have hnext : edge.next ∈ harmless := hop edge.next rfl
      have hallowed := edge.allowed
      rw [← hselects.2] at hallowed
      show edge.next ∈ row.status.ahead
      revert hahead hnext hallowed
      cases row.status <;> cases edge.next <;> decide

/-! ## Methods -/

/-- The row of the intent as it was read, from which it can only have moved ahead. -/
structure Snapshot (paid intent : ExecutionIntent) (database : Database) : Prop where
  identity : intent.identity = paid.identity
  hash : intent.transactionHash = paid.transactionHash
  ahead : ∃ status ∈ intent.status.ahead, Reached paid status database

theorem Snapshot.settles {intent : ExecutionIntent} (hsnapshot : Snapshot paid intent database)
    (hlater : Settles paid database later) : Snapshot paid intent later where
  identity := hsnapshot.identity
  hash := hsnapshot.hash
  ahead := by
    obtain ⟨status, hstatus, hreached⟩ := hsnapshot.ahead
    obtain ⟨next, hnext, hahead⟩ := hreached.settles hlater
    exact ⟨next, ahead_trans hstatus hahead, hnext⟩

/-- The row that is found under the identifier of the intent. -/
theorem Reached.find (hreached : Reached paid status database) (hahead : status ∈ status.ahead) :
    ∃ row, (database.findUnique fun row => row.id = paid.id) = some row ∧ row.status = status ∧
      Snapshot paid row database := by
  obtain ⟨stored, hstored, hidentity, hrow⟩ := hreached.row
  cases hfound : database.findUnique fun row => row.id = paid.id with
  | none =>
      have hnone := List.find?_eq_none.mp hfound stored hstored
      simp [identity_id hidentity] at hnone
  | some row =>
      obtain ⟨hsame, hhash, hstatus⟩ := hreached.eq (List.mem_of_find?_eq_some hfound)
        (by simpa using List.find?_some hfound)
      refine ⟨row, rfl, hstatus, hsame, hhash, status, ?_, hreached⟩
      rw [hstatus]
      exact hahead

/-- The database gave an answer. -/
def IntentOp.answered : (op : IntentOp) → op.Res → Bool
  | .findById _, answer => Except.isOk (answer : Except DbError (Option ExecutionIntent))
  | .updateMany _, answer => Except.isOk (answer : Except DbError ℕ)
  | _, _ => true

/-- The database answered that one row was updated. -/
def updatedOne : Except DbError ℕ → Bool
  | .ok count => count = 1
  | .error _ => false

theorem updatedOne_ok {answer : Except DbError ℕ} (hone : updatedOne answer = true) :
    answer = .ok 1 := by
  cases answer with
  | error error => cases hone
  | ok count => exact congrArg Except.ok (of_decide_eq_true hone)

/-- Reads of the intent are answered, and a move that begins its verification finds the status
that was read before. -/
def Begins (runtime : Runtime) (routing : PaymentRouting) (paid : ExecutionIntent) (op : IntentOp)
    (input : Input) (database : Database) : Prop :=
  match op with
  | .findById id => id = paid.id → input.outage = none
  | .updateMany (.transition id edge data completedAt) => id = paid.id → edge.next = VERIFYING →
      updatedOne ((intentMachine runtime routing).answer
        (.updateMany (.transition id edge data completedAt)) input database).1
  | _ => True

/-- Reads and writes of the intent are answered. -/
def Completes (runtime : Runtime) (routing : PaymentRouting) (paid : ExecutionIntent)
    (op : IntentOp) (input : Input) (database : Database) : Prop :=
  match op with
  | .findById id => id = paid.id → input.outage = none
  | .updateMany update => update.id = paid.id →
      IntentOp.answered (.updateMany update)
        ((intentMachine runtime routing).answer (.updateMany update) input database).1
  | _ => True

instance decidableBegins (runtime : Runtime) (routing : PaymentRouting) (paid : ExecutionIntent) :
    (op : IntentOp) → (input : Input) → (database : Database) →
      Decidable (Begins runtime routing paid op input database)
  | .findById id, input, _ => inferInstanceAs (Decidable (id = paid.id → input.outage = none))
  | .updateMany (.transition id edge data completedAt), input, database =>
      inferInstanceAs (Decidable (_ → _ → updatedOne ((intentMachine runtime routing).answer
        (.updateMany (.transition id edge data completedAt)) input database).1 = true))
  | .updateMany (.attachTask ..), _, _ => isTrue trivial
  | .updateMany (.acquireLease ..), _, _ => isTrue trivial
  | .updateMany (.bindImmutableExecutionContext ..), _, _ => isTrue trivial
  | .updateMany (.bindCircleCorrelation ..), _, _ => isTrue trivial
  | .updateMany (.bindTransactionHash ..), _, _ => isTrue trivial
  | .updateMany (.cancelUnsubmitted ..), _, _ => isTrue trivial
  | .now, _, _ => isTrue trivial
  | .findByLogicalKey _, _, _ => isTrue trivial
  | .findByTransactionHash _, _, _ => isTrue trivial
  | .create _, _, _ => isTrue trivial

instance decidableCompletes (runtime : Runtime) (routing : PaymentRouting)
    (paid : ExecutionIntent) : (op : IntentOp) → (input : Input) → (database : Database) →
      Decidable (Completes runtime routing paid op input database)
  | .findById id, input, _ => inferInstanceAs (Decidable (id = paid.id → input.outage = none))
  | .updateMany update, input, database =>
      inferInstanceAs (Decidable (update.id = paid.id → IntentOp.answered (.updateMany update)
        ((intentMachine runtime routing).answer (.updateMany update) input database).1 = true))
  | .now, _, _ => isTrue trivial
  | .findByLogicalKey _, _, _ => isTrue trivial
  | .findByTransactionHash _, _, _ => isTrue trivial
  | .create _, _, _ => isTrue trivial

section Methods

open Service

variable {condition : IntentOp → Input → Database → Prop} {α : Type}

/-- A method that moves the intent only ahead. -/
abbrev Handles (runtime : Runtime) (routing : PaymentRouting) (paid : ExecutionIntent)
    (condition : IntentOp → Input → Database → Prop)
    (post : Except ServiceError α → Database → Prop) (service : IntentService α)
    (database : Database) : Prop :=
  Ends (intentMachine runtime routing) (Settles paid) condition
    (fun op _ state => Spares paid op state) post service database

/-- An answered read finds the intent as it is. -/
theorem get_handles (hnetwork : paid.network = routing.network)
    (hread : ∀ input state, condition (.findById paid.id) input state → input.outage = none)
    (hreached : Reached paid status database) :
    Handles runtime routing paid condition
      (fun outcome later => ∃ intent, outcome = .ok intent ∧ intent.status ∈ status.ahead ∧
        Snapshot paid intent later) (get routing paid.id) database := by
  have hperform : Handles runtime routing paid condition
      (fun outcome later => ∃ answer, outcome = .ok answer ∧ ∃ intent,
        answer = Except.ok (some intent) ∧ intent.status ∈ status.ahead ∧
          Snapshot paid intent later)
      (perform (S := intentSignature) (.findById paid.id)) database := by
    refine @ends_perform intentSignature Input Database _ _ _ _ _ (.findById paid.id) _ ?_
    intro later hlater input hcondition
    obtain ⟨next, hnext, hahead⟩ := hreached.settles hlater
    obtain ⟨row, hfound, hstatus, hsnapshot⟩ := hnext.find (ahead_self hahead)
    refine ⟨spares_of_read (fun _ => IntentOp.noConfusion),
      fun last hlast => ⟨_, rfl, row, ?_, ?_, ?_⟩⟩
    · simp only [intentMachine, intentMachine.read, hread input later hcondition, hfound]
    · exact hstatus.symm ▸ hahead
    · exact hsnapshot.settles hlast
  have hfind : Handles runtime routing paid condition
      (fun outcome later => ∃ found, outcome = .ok found ∧ ∃ intent, found = some intent ∧
        intent.status ∈ status.ahead ∧ Snapshot paid intent later)
      (findById paid.id) database := by
    refine ends_bind_ok settles_isRely hperform ?_
    rintro _ later ⟨intent, rfl, hahead, hsnapshot⟩
    exact ends_pure fun last hlast => ⟨_, rfl, intent, rfl, hahead, hsnapshot.settles hlast⟩
  refine ends_bind_ok settles_isRely hfind ?_
  rintro _ later ⟨intent, rfl, hahead, hsnapshot⟩
  have hselected : intent.network = routing.network :=
    (congrArg IntentIdentity.network hsnapshot.identity).trans hnetwork
  have hchecked : Handles runtime routing paid condition
      (fun outcome last => ∃ checked, outcome = .ok checked ∧ Snapshot paid intent last)
      (assertSelectedNetwork routing intent) later :=
    ends_throwIf (fun hother => absurd hselected hother)
      fun _ last hlast => ⟨(), rfl, hsnapshot.settles hlast⟩
  refine ends_bind_ok settles_isRely hchecked fun _ last hlast => ?_
  exact ends_pure fun final hfinal => ⟨intent, rfl, hahead, hlast.settles hfinal⟩

/-- A transition that is answered writes the row in the status it expects, and no other. -/
theorem transition_reached {id : String} {edge : Edge} {data : TransitionData}
    {completedAt : Option ℕ} {input : Input} {count : ℕ} (hid : id = paid.id)
    (hreached : Reached paid status database)
    (hanswer : ((intentMachine runtime routing).answer
      (.updateMany (.transition id edge data completedAt)) input database).1 = Except.ok count) :
    (status ≠ edge.expected → count = 0) ∧
      Reached paid (if status = edge.expected then edge.next else status)
        ((intentMachine runtime routing).answer
          (.updateMany (.transition id edge data completedAt)) input database).2 := by
  obtain ⟨hcommits, hcount⟩ := commits_of_answer runtime routing hanswer
  obtain ⟨row, hmember, hidentity, hhash, rfl⟩ := hreached.row
  have hselects : ∀ other ∈ database.intents,
      (IntentUpdate.transition id edge data completedAt).selects other = true ↔
        other = row ∧ row.status = edge.expected := by
    intro other hother
    simp only [IntentUpdate.selects, IntentUpdate.condition, Bool.and_eq_true, decide_eq_true_eq]
    constructor
    · rintro ⟨hsame, hstatus⟩
      obtain rfl := row_unique_id hreached.unique hother hmember
        (hsame.trans (hid.trans (identity_id hidentity).symm))
      exact ⟨rfl, hstatus⟩
    · rintro ⟨rfl, hstatus⟩
      exact ⟨(identity_id hidentity).trans hid.symm, hstatus⟩
  rw [answer_updateMany, if_pos hcommits]
  constructor
  · intro hother
    rw [← hcount]
    exact List.countP_eq_zero.mpr fun found hfound hselected =>
      hother ((hselects found hfound).mp hselected).2
  · refine ⟨hcommits.1, _, List.mem_map_of_mem hmember, ?_⟩
    by_cases hstatus : row.status = edge.expected
    · rw [if_pos ((hselects row hmember).mpr ⟨rfl, hstatus⟩), if_pos hstatus]
      exact ⟨hidentity, hhash, rfl⟩
    · rw [if_neg fun hselected => hstatus ((hselects row hmember).mp hselected).2, if_neg hstatus]
      exact ⟨hidentity, hhash, rfl⟩

/-- The only moves of the intent itself are those ahead. -/
theorem spares_transition {id : String} {edge : Edge} {data : TransitionData}
    {completedAt : Option ℕ} (hedge : edge.next ∈ edge.expected.ahead) :
    Spares paid (.updateMany (.transition id edge data completedAt)) database := by
  rintro _ ⟨⟩ row _ _ hselects
  simp only [IntentUpdate.selects, IntentUpdate.condition, Bool.and_eq_true, decide_eq_true_eq]
    at hselects
  refine ⟨?_, rfl⟩
  rw [hselects.2]
  exact hedge

/-- A write ends as it is answered. -/
theorem updateMany_handles {update : IntentUpdate} {final : Except ServiceError ℕ → Database → Prop}
    (hwrite : ∀ later, Settles paid database later → ∀ input,
      condition (.updateMany update) input later → Spares paid (.updateMany update) later ∧
        ∀ last, Settles paid
            ((intentMachine runtime routing).answer (.updateMany update) input later).2 last →
          final (Except.mapError ServiceError.database
            ((intentMachine runtime routing).answer (.updateMany update) input later).1) last) :
    Handles runtime routing paid condition final (updateMany update) database := by
  have hperform : Handles runtime routing paid condition
      (fun outcome later => ∃ answer, outcome = .ok answer ∧ ∀ last, Settles paid later last →
        final (Except.mapError ServiceError.database answer) last)
      (perform (S := intentSignature) (.updateMany update)) database := by
    refine @ends_perform intentSignature Input Database _ _ _ _ _ (.updateMany update) _ ?_
    intro later hlater input hcondition
    obtain ⟨hspares, hfinal⟩ := hwrite later hlater input hcondition
    exact ⟨hspares, fun last hlast => ⟨_, rfl, fun next hnext =>
      hfinal next (settles_isRely.trans hlast hnext)⟩⟩
  refine ends_bind_ok settles_isRely hperform fun answer later hfinal => ?_
  refine ends_orThrow ?_ ?_
  · rintro value rfl last hlast
    exact hfinal last hlast
  · rintro error rfl last hlast
    exact hfinal last hlast

/-- A verification that begins finds the intent submitted, and leaves it under verification. -/
theorem transition_begins (hnetwork : paid.network = routing.network)
    (hreached : Reached paid status database) :
    Handles runtime routing paid (Begins runtime routing paid)
      (fun outcome later => ∃ intent, outcome = .ok intent ∧ intent.status ∈ VERIFYING.ahead ∧
        Snapshot paid intent later) (transition routing paid.id SUBMITTED VERIFYING) database := by
  have hwrite : Handles runtime routing paid (Begins runtime routing paid)
      (fun outcome later => ∃ count, outcome = .ok count ∧ count = 1 ∧
        ∃ next ∈ VERIFYING.ahead, Reached paid next later)
      (updateMany (.transition paid.id ⟨SUBMITTED, VERIFYING, by decide⟩ {} none)) database := by
    refine updateMany_handles fun later hlater input hbegins => ⟨spares_transition (by decide), ?_⟩
    intro last hlast
    have hanswer : ((intentMachine runtime routing).answer (.updateMany
        (.transition paid.id ⟨SUBMITTED, VERIFYING, by decide⟩ {} none)) input later).1 =
          Except.ok 1 := updatedOne_ok (hbegins rfl rfl)
    obtain ⟨next, hnext, -⟩ := hreached.settles hlater
    obtain ⟨hcount, hmoved⟩ := transition_reached rfl hnext hanswer
    have hsubmitted : next = SUBMITTED := by
      by_contra hother
      exact absurd (hcount hother) (by decide)
    rw [if_pos hsubmitted] at hmoved
    obtain ⟨final, hfinal, hahead⟩ := hmoved.settles hlast
    rw [hanswer]
    exact ⟨1, rfl, rfl, final, hahead, hfinal⟩
  unfold transition
  rw [dif_pos (by decide)]
  dsimp only
  rw [if_neg (by decide), pure_bind]
  refine ends_bind_ok settles_isRely hwrite ?_
  rintro count later ⟨hone, next, hahead, hnext⟩
  rw [if_neg (not_not.mpr hone)]
  refine (get_handles hnetwork (fun _ _ hread => hread rfl) hnext).mono ?_
  rintro outcome last ⟨intent, houtcome, hstatus, hsnapshot⟩
  exact ⟨intent, houtcome, ahead_trans hahead hstatus, hsnapshot⟩

/-- The verification of a submitted intent begins, or has begun. -/
theorem beginVerification_begins (hnetwork : paid.network = routing.network)
    (hreached : Reached paid status database) :
    Handles runtime routing paid (Begins runtime routing paid)
      (fun outcome later => ∃ intent, outcome = .ok intent ∧ intent.status ∈ VERIFYING.ahead ∧
        Snapshot paid intent later) (beginVerification routing paid.id) database := by
  refine ends_bind_ok settles_isRely (get_handles hnetwork (fun _ _ hread => hread rfl) hreached) ?_
  rintro intent later ⟨hahead, hsnapshot⟩
  have hstatus : intent.status ∈ SUBMITTED.ahead := by
    revert hahead
    cases status <;> cases intent.status <;> decide
  split
  · next hbegun =>
      refine ends_pure fun last hlast => ⟨intent, rfl, ?_, hsnapshot.settles hlast⟩
      rcases hbegun with hdone | hverifying
      · rw [hdone]
        decide
      · rw [hverifying]
        decide
  · next hnot =>
      have hsubmitted : intent.status = SUBMITTED := by
        revert hstatus hnot
        cases intent.status <;> decide
      obtain ⟨next, -, hnext⟩ := hsnapshot.ahead
      rw [if_neg (by rw [hsubmitted]; decide), pure_bind]
      dsimp only
      rw [if_neg (by rw [hsubmitted]; decide), if_neg (by rw [hsubmitted]; decide), pure_bind,
        if_pos hsubmitted]
      exact transition_begins hnetwork hnext

/-- Reads leave the intent where it is, or ahead. -/
theorem reads_handle {service : IntentService α} (hservice : Service.Performs (MovesTo []) service)
    (hbound : paid.transactionHash ≠ none)
    (hreached : ∃ next ∈ status.ahead, Reached paid next database) :
    Handles runtime routing paid condition
      (fun _ later => ∃ next ∈ status.ahead, Reached paid next later) service database := by
  have hspares : ∀ op, MovesTo [] op → ∀ (_ : Input) (before later : Database),
      Settles paid before later → Spares paid op later := by
    intro op hop _ before later hlater
    obtain ⟨_, next, -, hnext, hahead⟩ := hlater.ahead
    exact spares_of_movesTo (fun moved hmoved => absurd (hop moved hmoved) List.not_mem_nil) hbound
      hnext (ahead_self hahead)
  have hstable : ∀ {before later : Database}, Settles paid before later →
      (∃ next ∈ status.ahead, Reached paid next before) →
        ∃ next ∈ status.ahead, Reached paid next later := by
    rintro before later hlater ⟨next, hahead, hnext⟩
    obtain ⟨moved, hmoved, hmovedAhead⟩ := hnext.settles hlater
    exact ⟨moved, ahead_trans hahead hmovedAhead, hmoved⟩
  refine (Program.Expects.frame settles_isRely hstable
    (fun op input state hstate _ hguar => answer_settles hstate hguar)
    (ends_of_performs hspares hservice database) hreached).mono ?_
  exact fun _ _ hboth => hboth.2

theorem reads_completed {service : IntentService α}
    (hservice : Service.Performs (MovesTo []) service) (hbound : paid.transactionHash ≠ none)
    (hreached : Reached paid COMPLETED database) :
    Handles runtime routing paid condition (fun _ later => Reached paid COMPLETED later) service
      database := by
  have hahead : COMPLETED ∈ COMPLETED.ahead := by decide
  refine (reads_handle hservice hbound ⟨COMPLETED, hahead, hreached⟩).mono ?_
  rintro _ later ⟨next, hnext, hlater⟩
  obtain rfl := eq_completed_of_ahead hnext
  exact hlater

/-- A completing move ends with the intent completed, whoever completes it. -/
theorem transition_completes_paid (hbound : paid.transactionHash ≠ none)
    (hreached : Reached paid status database) (hverifying : status ∈ VERIFYING.ahead) :
    Handles runtime routing paid (Completes runtime routing paid)
      (fun _ later => Reached paid COMPLETED later)
      (transition routing paid.id VERIFYING COMPLETED) database := by
  have hread : ∀ {next : ExecutionIntentStatus} {state : Database}, Reached paid next state →
      next ∈ VERIFYING.ahead → ∀ completedAt, Handles runtime routing paid
        (Completes runtime routing paid)
        (fun outcome later => ∃ count, outcome = .ok count ∧ Reached paid COMPLETED later)
        (updateMany (.transition paid.id ⟨VERIFYING, COMPLETED, by decide⟩ {} completedAt))
        state := by
    intro next state hnext hahead completedAt
    refine updateMany_handles fun later hlater input hanswered =>
      ⟨spares_transition (by decide), ?_⟩
    intro last hlast
    obtain ⟨moved, hmoved, hlaterAhead⟩ := hnext.settles hlater
    have hanswered := hanswered rfl
    generalize hanswer : ((intentMachine runtime routing).answer (.updateMany (.transition paid.id
      ⟨VERIFYING, COMPLETED, by decide⟩ {} completedAt)) input later).1 = answer at hanswered
    cases answer with
    | error error => cases hanswered
    | ok count =>
        have hwritten := (transition_reached rfl hmoved hanswer).2
        have hdone : (if moved = VERIFYING then COMPLETED else moved) = COMPLETED := by
          have hstatus := ahead_trans hahead hlaterAhead
          revert hstatus
          cases moved <;> decide
        rw [hdone] at hwritten
        exact ⟨count, rfl, hwritten.completed hlast⟩
  unfold transition
  rw [dif_pos (by decide)]
  dsimp only
  rw [if_pos rfl]
  rw [bind_map_left]
  have htime : Handles runtime routing paid (Completes runtime routing paid)
      (fun outcome later => ∃ now, outcome = .ok now ∧
        ∃ next ∈ VERIFYING.ahead, Reached paid next later) currentTime database := by
    refine @ends_perform intentSignature Input Database _ _ _ _ _ .now _ ?_
    intro later hlater input _
    refine ⟨spares_of_read (fun _ => IntentOp.noConfusion), fun last hlast => ⟨_, rfl, ?_⟩⟩
    obtain ⟨next, hnext, hahead⟩ := hreached.settles (settles_isRely.trans hlater hlast)
    exact ⟨next, ahead_trans hverifying hahead, hnext⟩
  refine ends_bind_ok settles_isRely htime ?_
  rintro now later ⟨next, hahead, hnext⟩
  refine ends_bind_ok settles_isRely (hread hnext hahead (some now)) fun count last hdone => ?_
  split
  · exact reads_completed (performs_bind (get_movesTo _) fun _ =>
      performs_bind (performs_throw _) fun _ => get_movesTo _) hbound hdone
  · exact reads_completed (get_movesTo _) hbound hdone

/-- A declared failure comes too late for an intent that is completed. -/
theorem transition_fails_late (hbound : paid.transactionHash ≠ none)
    (hreached : Reached paid COMPLETED database) :
    Handles runtime routing paid condition (fun outcome _ => ∃ error, outcome = .error error)
      (transition routing paid.id VERIFYING FAILED_FINAL) database := by
  have hwrite : Handles runtime routing paid condition
      (fun outcome later => (∀ count, outcome = .ok count → count = 0) ∧
        Reached paid COMPLETED later)
      (updateMany (.transition paid.id ⟨VERIFYING, FAILED_FINAL, by decide⟩ {} none))
      database := by
    refine updateMany_handles fun later hlater input _ => ?_
    have hdone := hreached.completed hlater
    have hspares : Spares paid
        (.updateMany (.transition paid.id ⟨VERIFYING, FAILED_FINAL, by decide⟩ {} none)) later := by
      rintro _ ⟨⟩ row hmember hid hselects
      simp only [IntentUpdate.selects, IntentUpdate.condition, Bool.and_eq_true,
        decide_eq_true_eq] at hselects
      have hstatus := (hdone.eq hmember hid).2.2
      rw [hselects.2] at hstatus
      cases hstatus
    refine ⟨hspares, fun last hlast => ⟨fun count hcount => ?_, ?_⟩⟩
    · generalize hanswer : ((intentMachine runtime routing).answer (.updateMany
        (.transition paid.id ⟨VERIFYING, FAILED_FINAL, by decide⟩ {} none)) input later).1 = answer
        at hcount
      cases answer with
      | error error => cases hcount
      | ok found =>
          obtain rfl := Except.ok.inj hcount
          exact (transition_reached rfl hdone hanswer).1 (by decide)
    · exact hdone.completed (settles_isRely.trans
        (answer_settles (settles_isRely.refl_after hlater) hspares) hlast)
  unfold transition
  rw [dif_pos (by decide)]
  dsimp only
  rw [if_neg (by decide), pure_bind]
  refine ends_bind settles_isRely hwrite (fun error _ _ _ _ => ⟨error, rfl⟩) ?_
  rintro count later ⟨hcount, hdone⟩
  rw [if_pos (by rw [hcount count rfl]; decide)]
  refine ends_bind settles_isRely (reads_completed (get_movesTo _) hbound hdone)
    (fun error _ _ _ _ => ⟨error, rfl⟩) fun current last _ => ?_
  exact fun _ _ => ⟨_, rfl⟩

theorem SameAccount.sameAddress {first second : String} (hsame : SameAccount first second) :
    sameAddress runtime first second = .ok true := by
  simp only [Intents.sameAddress, except_bind_ok, requireAddress_ok]
  refine ⟨_, ⟨hsame.first, rfl⟩, _, ⟨hsame.second, rfl⟩, ?_⟩
  rw [(checksumAddress_spec hsame.first).2, (checksumAddress_spec hsame.second).2, hsame.lower]
  exact congrArg Except.ok (decide_eq_true rfl)

/-- A receipt that agrees with the intent matches it. -/
theorem receiptMatches_of_agrees {intent : ExecutionIntent} {receipt : VerifiedExecutionReceipt}
    (hagrees : ReceiptAgrees intent receipt) (hstatus : intent.status ∈ VERIFYING.ahead) :
    receiptMatches runtime intent receipt (asciiLower receipt.transactionHash) = .ok true := by
  have hverifiable : intent.status = VERIFYING ∨ intent.status = COMPLETED := by
    revert hstatus
    cases intent.status <;> decide
  unfold receiptMatches
  rw [if_neg (not_not.mpr ⟨hverifiable, hagrees.transactionHash, hagrees.network⟩)]
  simp only [hagrees.sourceWallet.sameAddress, hagrees.token.sameAddress, bind, Except.bind,
    Bool.true_eq_false, if_false, hagrees.amountUnits, ne_eq, not_true_eq_false]
  unfold receiptRecipientMatches
  cases hrecipient : nonempty intent.recipient with
  | none =>
      obtain ⟨digest, hdigest, hreported⟩ := hagrees.batchDigest hrecipient
      rw [hdigest, hreported]
      exact congrArg Except.ok (by simp)
  | some recipient =>
      obtain ⟨payee, hpayee, hsame⟩ := hagrees.recipient recipient hrecipient
      rw [hpayee, nonempty_hexText hsame.second]
      exact hsame.sameAddress

theorem ReceiptAgrees.of_identity {first second : ExecutionIntent}
    {receipt : VerifiedExecutionReceipt} (hagrees : ReceiptAgrees first receipt)
    (hidentity : second.identity = first.identity)
    (hhash : second.transactionHash = first.transactionHash) : ReceiptAgrees second receipt := by
  simp only [ExecutionIntent.identity, IntentIdentity.mk.injEq] at hidentity
  obtain ⟨-, hnetwork, -, hsource, hrecipient, hdigest, -, htoken, hamount, -⟩ := hidentity
  obtain ⟨h1, h2, h3, h4, h5, h6, h7⟩ := hagrees
  refine ⟨hnetwork.trans h1, hhash.trans h2, ?_, ?_, hamount.trans h5, ?_, ?_⟩
  · rwa [hsource]
  · rwa [htoken]
  · rwa [hrecipient]
  · rwa [hrecipient, hdigest]

/-- An agreeing receipt completes the intent, unless somebody else does. -/
theorem completeWithVerifiedReceipt_completes_paid {receipt : VerifiedExecutionReceipt}
    (hnetwork : paid.network = routing.network)
    (hhex : isHexText 64 receipt.transactionHash = true) (hagrees : ReceiptAgrees paid receipt)
    (hreached : Reached paid status database) (hverifying : status ∈ VERIFYING.ahead) :
    Handles runtime routing paid (Completes runtime routing paid)
      (fun outcome later => Reached paid COMPLETED later ∧
        (status = COMPLETED → ∃ intent, outcome = .ok intent))
      (completeWithVerifiedReceipt runtime routing paid.id receipt) database := by
  refine ends_bind_ok settles_isRely (get_handles hnetwork (fun _ _ hread => hread rfl) hreached) ?_
  rintro intent later ⟨hahead, hsnapshot⟩
  have hagreed := hagrees.of_identity hsnapshot.identity hsnapshot.hash
  obtain ⟨next, hnext, hlater⟩ := hsnapshot.ahead
  have hstatus := ahead_trans hverifying hahead
  refine ends_ofExcept_bind (if_pos hhex) ?_
  refine ends_ofExcept_bind (receiptMatches_of_agrees hagreed hstatus) ?_
  refine ends_throwIf_bind (by decide) ?_
  split
  · next hdone =>
      rw [hdone] at hnext
      obtain rfl := eq_completed_of_ahead hnext
      exact ends_pure fun last hlast => ⟨hlater.completed hlast, fun _ => ⟨intent, rfl⟩⟩
  · next hnot =>
      have hbound : paid.transactionHash ≠ none := hagrees.bound
      refine (transition_completes_paid hbound hlater (ahead_trans hstatus hnext)).mono ?_
      intro outcome last hcompleted
      refine ⟨hcompleted, fun hdone => absurd ?_ hnot⟩
      rw [hdone] at hahead
      exact eq_completed_of_ahead hahead

end Methods

/-! ## Other intents -/

section Others

open Service

variable {condition : IntentOp → Input → Database → Prop} {α : Type} {id : String}

/-- A method that leaves the intent alone, with what it returns. -/
abbrev Avoids (runtime : Runtime) (routing : PaymentRouting) (paid : ExecutionIntent)
    (condition : IntentOp → Input → Database → Prop) (post : α → Prop) (service : IntentService α)
    (database : Database) : Prop :=
  Expects (intentMachine runtime routing) (Settles paid) condition
    (fun op _ state => Spares paid op state) (fun value _ => post value) service database

/-- The row of another intent has another hash. -/
structure OtherIntent (paid intent : ExecutionIntent) : Prop where
  id : intent.id ≠ paid.id
  hash : intent.transactionHash ≠ paid.transactionHash

theorem Reached.other {row : ExecutionIntent} (hbound : paid.transactionHash ≠ none)
    (hreached : Reached paid status database) (hmember : row ∈ database.intents)
    (hid : row.id ≠ paid.id) : OtherIntent paid row := by
  refine ⟨hid, fun hsame => ?_⟩
  obtain ⟨hash, hhash⟩ := Option.ne_none_iff_exists'.mp hbound
  obtain ⟨found, hfound, hidentity, hfoundHash, -⟩ := hreached.row
  obtain rfl := row_unique_hash hreached.unique hmember hfound (hsame.trans hhash)
    (hfoundHash.trans hhash)
  exact hid (identity_id hidentity)

theorem get_avoids (hbound : paid.transactionHash ≠ none) (hother : id ≠ paid.id)
    (database : Database) :
    Avoids runtime routing paid condition (OtherIntent paid) (get routing id) database := by
  have hperform : Avoids runtime routing paid condition
      (fun answer : Except DbError (Option ExecutionIntent) =>
        ∀ intent, answer = .ok (some intent) → OtherIntent paid intent)
      (perform (S := intentSignature) (.findById id)) database := by
    refine @expects_perform intentSignature Input Database _ _ _ _ _ (.findById id) _ ?_
    intro later hlater input _
    refine ⟨spares_of_read (fun _ => IntentOp.noConfusion), fun _ _ intent hanswer => ?_⟩
    obtain ⟨_, status, -, hreached, -⟩ := hlater.ahead
    have hfound := read_ok hanswer
    have hid : intent.id = id := by simpa using List.find?_some hfound
    exact hreached.other hbound (List.mem_of_find?_eq_some hfound) (hid ▸ hother)
  have hfind : Avoids runtime routing paid condition
      (fun found => ∀ intent, found = some intent → OtherIntent paid intent) (findById id)
      database := by
    refine expects_bind settles_isRely hperform fun answer later hanswer => ?_
    refine expects_orThrow fun found hfound _ _ intent hintent => ?_
    exact hanswer intent (by rw [hfound, hintent])
  refine expects_bind settles_isRely hfind fun found later hfound => ?_
  cases found with
  | none => exact expects_throw _
  | some intent =>
      exact expects_then settles_isRely (expects_throwIf fun _ _ _ => trivial) fun _ _ =>
        expects_pure fun _ _ => hfound intent rfl

theorem transition_avoids (hbound : paid.transactionHash ≠ none) (hother : id ≠ paid.id)
    (expected target : ExecutionIntentStatus) (database : Database) :
    Avoids runtime routing paid condition (OtherIntent paid) (transition routing id expected target)
      database := by
  have hwrite : ∀ (edge : Edge) (completedAt : Option ℕ) (state : Database),
      Avoids runtime routing paid condition (fun _ => True)
        (updateMany (.transition id edge {} completedAt)) state := by
    intro edge completedAt state
    refine expects_then settles_isRely ?_ fun answer later => expects_orThrow fun _ _ _ _ => trivial
    refine @expects_perform intentSignature Input Database _ _ _ _ _
      (.updateMany (.transition id edge {} completedAt)) _
      fun later _ input _ => ⟨?_, fun _ _ => trivial⟩
    refine spares_of_other fun update hop => ?_
    obtain rfl := IntentOp.updateMany.inj hop
    exact hother
  have hrest : ∀ (edge : Edge) (completedAt : Option ℕ) (state : Database),
      Avoids runtime routing paid condition (OtherIntent paid) (do
        let count ← updateMany (.transition id edge {} completedAt)
        if count ≠ 1 then
          let current ← get routing id
          let message :=
            "Execution intent is in " ++ current.status.name ++ ", not " ++ expected.name ++ "."
          throw (if current.status.isTerminal then terminal message else invalidTransition message)
        get routing id) state := by
    intro edge completedAt state
    refine expects_then settles_isRely (hwrite edge completedAt state) fun count later => ?_
    split
    · refine expects_then settles_isRely ?_ fun current last => expects_throw _
      exact (get_avoids hbound hother later).mono fun _ _ _ _ _ => trivial
    · exact get_avoids hbound hother later
  unfold transition
  split
  · dsimp only
    split
    · rw [bind_map_left]
      refine expects_then settles_isRely ?_ fun now later => hrest _ _ later
      exact @expects_perform intentSignature Input Database _ _ _ _ _ .now _ fun later _ input _ =>
        ⟨spares_of_read (fun _ => IntentOp.noConfusion), fun _ _ => trivial⟩
    · rw [pure_bind]
      exact hrest _ none database
  · exact expects_throw _

theorem beginVerification_avoids (hbound : paid.transactionHash ≠ none) (hother : id ≠ paid.id)
    (database : Database) :
    Avoids runtime routing paid condition (OtherIntent paid) (beginVerification routing id)
      database := by
  have hmove := @transition_avoids paid runtime routing condition id hbound hother
  have hlast : ∀ (intent : ExecutionIntent) (state : Database), OtherIntent paid intent →
      Avoids runtime routing paid condition (OtherIntent paid)
        (if intent.status = SUBMITTED then transition routing id SUBMITTED VERIFYING
          else if intent.status = FAILED_RETRYABLE then
            transition routing id FAILED_RETRYABLE VERIFYING
          else return intent) state := by
    intro intent state hintent
    split
    · exact hmove _ _ state
    · split
      · exact hmove _ _ state
      · exact expects_pure fun _ _ => hintent
  have hmiddle : ∀ (intent : ExecutionIntent) (state : Database), OtherIntent paid intent →
      Avoids runtime routing paid condition (OtherIntent paid) (do
        let intent ←
          if intent.status = AUTHORIZATION_PENDING then
            transition routing id AUTHORIZATION_PENDING SUBMITTED
          else if intent.status = SUBMISSION_PENDING then
            transition routing id SUBMISSION_PENDING SUBMITTED
          else pure intent
        if intent.status = SUBMITTED then transition routing id SUBMITTED VERIFYING
        else if intent.status = FAILED_RETRYABLE then
          transition routing id FAILED_RETRYABLE VERIFYING
        else return intent) state := by
    intro intent state hintent
    dsimp only
    split
    · exact expects_bind settles_isRely (hmove _ _ state) fun moved later hmoved =>
        hlast moved later hmoved
    · split
      · exact expects_bind settles_isRely (hmove _ _ state) fun moved later hmoved =>
          hlast moved later hmoved
      · exact hlast intent state hintent
  refine expects_bind settles_isRely (get_avoids hbound hother database)
    fun intent later hintent => ?_
  split
  · exact expects_pure fun _ _ => hintent
  · dsimp only
    split
    · exact expects_bind settles_isRely (hmove _ _ later) fun moved last hmoved =>
        hmiddle moved last hmoved
    · exact hmiddle intent later hintent

theorem completeWithVerifiedReceipt_avoids (hbound : paid.transactionHash ≠ none)
    (hother : id ≠ paid.id) (receipt : VerifiedExecutionReceipt) (database : Database) :
    Avoids runtime routing paid condition (OtherIntent paid)
      (completeWithVerifiedReceipt runtime routing id receipt) database := by
  refine expects_bind settles_isRely (get_avoids hbound hother database)
    fun intent later hintent => ?_
  refine expects_then settles_isRely (expects_ofExcept fun _ _ _ _ => trivial) fun hash last => ?_
  refine expects_then settles_isRely (expects_ofExcept fun _ _ _ _ => trivial) fun same last => ?_
  refine expects_then settles_isRely (expects_throwIf fun _ _ _ => trivial) fun _ last => ?_
  split
  · exact expects_pure fun _ _ => hintent
  · exact transition_avoids hbound hother VERIFYING COMPLETED last

end Others

end WizPay.Intents
