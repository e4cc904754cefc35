import WizPay.Foundation.Ghosts
import WizPay.Tasks.Counters

/-!
# The status of a task

As long as nobody moves a task between a call's read of its status and the write that trusts
it, and reports are committed to tasks in progress only, the status of every task moves along
`ALLOWED_TRANSITIONS`, in any interleaving, and a final status is never left.
-/

namespace WizPay.Foundation.Table

variable {α : Type}

/-- What is committed under a key moves as its row does. -/
theorem committedAt_rel {relation : α → α → Prop} {before after : Table α}
    (hrows : List.Forall₂ (fun first second => second.1 = first.1 ∧ relation first.2 second.2)
      before.committed after.committed) (key : String) :
    Option.Rel relation (before.committedAt key) (after.committedAt key) := by
  rw [committedAt_eq, committedAt_eq]
  generalize before.committed = first at hrows ⊢
  generalize after.committed = second at hrows ⊢
  induction hrows with
  | nil => exact .none
  | cons hrow _ ih =>
      rw [List.find?_cons, List.find?_cons, hrow.1]
      split
      · exact .some hrow.2
      · exact ih

/-- The row of the key is the one that a modification changes. -/
theorem find_modify {key : String} {f : Stored α → Stored α} (hf : ∀ row, (f row).key = row.key)
    (table : Table α) : (table.modify key f).find key = (table.find key).map f := by
  unfold modify find
  rw [List.find?_map]
  have hkeys : ((fun row : Stored α => decide (row.key = key)) ∘
      fun row => if row.key = key then f row else row) = fun row => decide (row.key = key) := by
    funext row
    simp only [Function.comp_apply]
    split
    · rw [hf]
    · rfl
  rw [hkeys]
  cases hfound : List.find? (fun row : Stored α => decide (row.key = key)) table with
  | none => rfl
  | some row => simp only [Option.map_some, if_pos (by simpa using List.find?_some hfound)]

end WizPay.Foundation.Table

namespace WizPay.Tasks

open Foundation Backend
open Payroll (TaskStatus TaskUnitStatus ReportTaskUnitInput)

/-! ## Legal moves -/

/-- A status stays or takes an edge of `ALLOWED_TRANSITIONS`. -/
def Follows (old new : TaskStatus) : Prop := new = old ∨ new ∈ old.transitions

namespace TaskState

/-- The committed status of a task. -/
def statusOf (state : TaskState) (taskId : String) : Option TaskStatus :=
  (state.tasks.committedAt taskId).map TaskRow.status

/-- The statuses of the tasks move along a relation. -/
def StatusesMove (relation : TaskStatus → TaskStatus → Prop) (before after : TaskState) : Prop :=
  ∀ taskId, Option.Rel relation (before.statusOf taskId) (after.statusOf taskId)

/-- Every change of a status is an allowed transition. -/
def Disciplined : TaskState → TaskState → Prop := StatusesMove Follows

variable {relation : TaskStatus → TaskStatus → Prop} {before after : TaskState}

theorem statusesMove_of_rows
    (hrows : List.Forall₂ (fun first second => second.1 = first.1 ∧
        relation first.2.status second.2.status) before.tasks.committed after.tasks.committed) :
    before.StatusesMove relation after := by
  intro taskId
  have hrelated : Option.Rel (fun old new => relation old.status new.status)
      (before.tasks.committedAt taskId) (after.tasks.committedAt taskId) :=
    Table.committedAt_rel hrows taskId
  unfold statusOf
  generalize before.tasks.committedAt taskId = old at hrelated ⊢
  generalize after.tasks.committedAt taskId = new at hrelated ⊢
  cases hrelated with
  | none => exact .none
  | some hmoves => exact .some hmoves

theorem statusesMove_of_eq (hrefl : ∀ status, relation status status)
    (htasks : after.tasks.committed = before.tasks.committed) :
    before.StatusesMove relation after := by
  apply statusesMove_of_rows
  rw [htasks]
  exact List.forall₂_same.mpr fun _ _ => ⟨rfl, hrefl _⟩

end TaskState

/-- A move is made from a status that allows it. -/
def Allowed : TaskOp → TaskState → Prop
  | .updateTask taskId status _, state =>
      ∀ old ∈ state.statusOf taskId, status ∈ old.transitions
  | _, _ => True

/-- The session that a statement commits. -/
def TaskOp.commits : TaskOp → Option ℕ
  | .commit session => some session
  | _ => none

/-- A report is committed to a task in progress only. -/
def InProgress (op : TaskOp) (input : TaskInput) (state : TaskState) : Prop :=
  ∀ session ∈ op.commits, input.Commits → ∀ task ∈ state.tasks,
    task.own session ≠ none → task.committed.status = .IN_PROGRESS

instance (op : TaskOp) (input : TaskInput) (state : TaskState) :
    Decidable (InProgress op input state) :=
  inferInstanceAs (Decidable (∀ session ∈ op.commits, input.Commits → ∀ task ∈ state.tasks,
    task.own session ≠ none → task.committed.status = .IN_PROGRESS))

/-- Nobody moves a task before a statement that trusts its status. -/
def StatusWindow (trusts : TaskOp → Option String) (op : TaskOp) (before after : TaskState) : Prop :=
  ∀ taskId ∈ trusts op, after.statusOf taskId = before.statusOf taskId

instance decidableStatusWindow (trusts : TaskOp → Option String) (op : TaskOp)
    (before after : TaskState) : Decidable (StatusWindow trusts op before after) :=
  inferInstanceAs (Decidable (∀ taskId ∈ trusts op,
    after.statusOf taskId = before.statusOf taskId))

theorem statusWindow_isWindow (trusts : TaskOp → Option String) :
    IsWindow (StatusWindow trusts) where
  refl _ _ _ _ := rfl
  trans hfirst hsecond taskId htrusts := (hsecond taskId htrusts).trans (hfirst taskId htrusts)

/-- A write moves a task from the status that its call has read. -/
def TaskOp.moves : TaskOp → Option String
  | .updateTask taskId _ _ => some taskId
  | _ => none

section Answer

variable {op : TaskOp} {input : TaskInput} {state : TaskState} {session : ℕ}
  {relation : TaskStatus → TaskStatus → Prop}

/-- The statuses that a report computes for the tasks of its session. -/
def Recomputes (relation : TaskStatus → TaskStatus → Prop) (session : ℕ) (state : TaskState) :
    Prop :=
  ∀ task ∈ state.tasks, task.own session ≠ none →
    ∀ status ∈ [TaskStatus.IN_PROGRESS, .REVIEW, .EXECUTED], relation task.committed.status status

theorem commit_statusesMove (hrefl : ∀ status, relation status status)
    (hcommits : Commits session state) (hreports : Recomputes relation session state) :
    state.StatusesMove relation (state.committed session) := by
  apply TaskState.statusesMove_of_rows
  refine List.forall₂_map_left_iff.mpr (List.forall₂_map_right_iff.mpr ?_)
  refine List.forall₂_map_right_iff.mpr (List.forall₂_same.mpr fun row hrow => ?_)
  refine ⟨Stored.commit_key session row, ?_⟩
  rw [Stored.commit_committed]
  cases hown : row.own session with
  | none => exact hrefl _
  | some version =>
      have hmoves := hreports row hrow (by rw [hown]; exact Option.some_ne_none version)
      rcases hcommits with ⟨htasks, -⟩ | ⟨taskId, unitId, report, hcounted⟩
      · rw [htasks row hrow] at hown
        cases hown
      · by_cases hkey : row.key = taskId
        · obtain ⟨counted, hcount, hcounts⟩ := hcounted.tasks.own row hrow hkey
          cases hown.symm.trans hcount
          rcases hcounts.status with hsame | hmoved
          · have hkept : relation row.committed.status version.status := hsame ▸ hrefl _
            exact hkept
          · exact hmoves version.status hmoved
        · rw [hcounted.tasks.others row hrow hkey] at hown
          cases hown

/-- What one statement does to the statuses, given what its own moves and reports do. -/
theorem answer_statusesMove (hrefl : ∀ status, relation status status) (hkeyed : state.Keyed)
    (hguar : Guarantee op input state)
    (hmoved : ∀ taskId status result, op = .updateTask taskId status result →
      ∀ old ∈ state.statusOf taskId, relation old status)
    (hreports : ∀ session, op = .commit session → input.Commits →
      Recomputes relation session state) :
    state.StatusesMove relation (taskMachine.answer op input state).2 := by
  have hmoves := answer_moves op input state
  cases op with
  | commit session =>
      by_cases hcommits : input.Commits
      · rw [commit_of_commits hcommits]
        exact commit_statusesMove hrefl hguar (hreports session rfl hcommits)
      · rw [commit_of_not_commits hcommits]
        exact TaskState.statusesMove_of_eq hrefl
          (Table.committed_map (Stored.rollback_key _) (Stored.rollback_committed _) _)
  | updateTask taskId status result =>
      cases hmoves with
      | same htasks _ => exact TaskState.statusesMove_of_eq hrefl (by rw [htasks])
      | rollback hop _ _ => cases hop
      | put htasks _ =>
          apply TaskState.statusesMove_of_rows
          rw [htasks]
          refine List.forall₂_map_left_iff.mpr (List.forall₂_map_right_iff.mpr ?_)
          refine List.forall₂_map_right_iff.mpr (List.forall₂_same.mpr fun row hrow => ?_)
          by_cases hkey : row.key = taskId
          · rw [if_pos hkey]
            refine ⟨rfl, hmoved taskId status result rfl _ ?_⟩
            rw [TaskState.statusOf, Table.committedAt_of_mem hkeyed.tasks hrow hkey]
            rfl
          · rw [if_neg hkey]
            exact ⟨rfl, hrefl _⟩
  | _ => exact TaskState.statusesMove_of_eq hrefl (hmoves.committed rfl).1

theorem answer_disciplined (hkeyed : state.Keyed) (hguar : Guarantee op input state)
    (hallowed : Allowed op state) (hprogress : InProgress op input state) :
    state.Disciplined (taskMachine.answer op input state).2 := by
  refine answer_statusesMove (fun _ => .inl rfl) hkeyed hguar ?_ ?_
  · rintro taskId status result rfl old hold
    exact .inr (hallowed old hold)
  · rintro session rfl hcommits task htask hown status hstatus
    -- every status that is recomputed can be reached from a task in progress
    rw [hprogress session rfl hcommits task htask hown]
    revert status
    unfold Follows
    decide

end Answer

/-! ## The calls -/

section Lawful

open Service

variable {γ : Type} (move : (op : TaskOp) → op.Res → γ → γ)
  (window : TaskOp → TaskState → TaskState → Prop) (guar : TaskOp → TaskState × γ → Prop)

/-- A method performs only what it may, as long as the others keep to the windows. -/
def Lawful (α : Type) (service : TaskService α) : Prop :=
  ∀ pair, Service.Guarded (taskMachine.withGhost move) (KeepsGhost window) (fun _ _ _ => True)
    (fun op _ pair => guar op pair) (fun _ _ => True) service pair

/-- Moves are permitted where the status allows them, and all but the handing over to an agent
anywhere. -/
structure Permits : Prop where
  sameStatus : ∀ {op before after}, window op before after →
    StatusWindow TaskOp.moves op before after
  moves : ∀ {taskId status result pair}, Allowed (.updateTask taskId status result) pair.1 →
    guar (.updateTask taskId status result) pair
  others : ∀ {op : TaskOp} {pair}, op.publishes = false → op.routes = none → guar op pair
  sessions : ∀ {op : TaskOp} {pair}, op.session ≠ none → guar op pair

variable {move window guar} {α : Type} {session : ℕ} {runtime : Runtime} {routing : PaymentRouting}

theorem ensureTransition_ok {currentStatus nextStatus : TaskStatus} {result : Unit}
    (hensured : ensureTransition currentStatus nextStatus = .ok result) :
    nextStatus ∈ currentStatus.transitions := by
  unfold ensureTransition at hensured
  split at hensured
  · next hallowed => exact hallowed
  · cases hensured

/-- A read of the task to be moved finds its status. -/
theorem findTask_status {taskId : String} {nextStatus : TaskStatus} {input : TaskInput}
    {state : TaskState} {found : Option TaskRow}
    (hanswer : (taskMachine.answer (.findTask taskId nextStatus) input state).1 = .ok found) :
    (taskMachine.answer (.findTask taskId nextStatus) input state).2.statusOf taskId =
      found.map TaskRow.status := by
  obtain ⟨hfound, hstate⟩ := TaskState.inSession_ok hanswer
  have hread : (state.tasks.find taskId).map (Stored.view none) = found := Except.ok.inj hfound
  simp only [taskMachine, hstate, TaskState.statusOf, Table.committedAt, ← hread, Option.map_map]
  rfl

/-- Any one statement, with what its answer tells. -/
theorem guarded_statement {op : TaskOp} {toAnswer : op.Res → Except DbError α}
    {post : α → TaskState × γ → Prop} {pair : TaskState × γ}
    (hop : ∀ later, KeepsGhost (S := taskSignature) window op pair later → guar op later ∧
      ∀ input value, toAnswer (taskMachine.answer op input later.1).1 = .ok value →
        post value ((taskMachine.answer op input later.1).2,
          move op (taskMachine.answer op input later.1).1 later.2)) :
    Service.Guarded (taskMachine.withGhost move) (KeepsGhost window) (fun _ _ _ => True)
      (fun op _ pair => guar op pair) post
      (perform (S := taskSignature) op >>= fun answer => orThrow (toAnswer answer)) pair :=
  guarded_perform_bind fun later hlater input _ =>
    ⟨(hop later hlater).1, guarded_orThrow ((hop later hlater).2 input)⟩

/-- A move from the status that a read has found. -/
theorem guarded_updateTask (hpermits : Permits window guar) {taskId : String}
    {nextStatus : TaskStatus} {result : Option Json} {pair : TaskState × γ} {task : TaskRow}
    {ensured : Unit} (hstatus : pair.1.statusOf taskId = some task.status)
    (hensured : ensureTransition task.status nextStatus = .ok ensured)
    {post : Unit → TaskState × γ → Prop}
    (hpost : ∀ later : TaskState × γ, later.2 = pair.2 → ∀ input,
      (taskMachine.answer (.updateTask taskId nextStatus result) input later.1).1 = .ok () →
        post () ((taskMachine.answer (.updateTask taskId nextStatus result) input later.1).2,
          move (.updateTask taskId nextStatus result) (.ok ()) later.2)) :
    Service.Guarded (taskMachine.withGhost move) (KeepsGhost window) (fun _ _ _ => True)
      (fun op _ pair => guar op pair) post (updateTask taskId nextStatus result) pair := by
  refine guarded_statement fun later hlater => ⟨hpermits.moves fun old hold => ?_, ?_⟩
  · have hsame : later.1.statusOf taskId = pair.1.statusOf taskId := hpermits.sameStatus hlater.1 taskId rfl
    rw [hsame, hstatus] at hold
    cases hold
    exact ensureTransition_ok hensured
  · intro input value hanswer
    have hmoved := hpost later hlater.2 input hanswer
    rw [hanswer]
    exact hmoved

theorem lawful_statement (hpermits : Permits window guar) {op : TaskOp} (hop : op.publishes = false)
    (hroutes : op.routes = none) {toAnswer : op.Res → Except DbError α} :
    Lawful move window guar α
      (perform (S := taskSignature) op >>= fun answer => orThrow (toAnswer answer)) :=
  fun _ => guarded_statement fun _ _ => ⟨hpermits.others hop hroutes, fun _ _ _ => trivial⟩

theorem lawful_composes (hpermits : Permits window guar) : Composes (Lawful move window guar) where
  pure _ _ := guarded_pure trivial
  throw error _ := guarded_throw error
  bind hservice hrest pair := guarded_bind (hservice pair) fun value later _ => hrest value later
  attempt {α service} hservice pair := by
    rw [← bind_pure service.attempt]
    exact guarded_attempt_bind (hservice pair) (fun _ _ _ => guarded_pure trivial)
      fun _ _ => guarded_pure trivial
  perform op _ hop hroutes pair := by
    rw [← bind_pure (Service.perform (S := taskSignature) op)]
    exact guarded_perform_bind fun _ _ _ _ => ⟨hpermits.others hop hroutes, guarded_pure trivial⟩
  move {taskId nextStatus result log} hlog pair := by
    have hread : Lawful move window guar TaskDetails (getTaskById taskId) := by
      intro pair
      refine guarded_bind (lawful_statement hpermits (by rfl) (by rfl) pair) fun found later _ => ?_
      cases found with
      | none => exact guarded_throw _
      | some details => exact guarded_pure trivial
    have hfind : Service.Guarded (taskMachine.withGhost move) (KeepsGhost window)
        (fun _ _ _ => True) (fun op _ pair => guar op pair)
        (fun found later => later.1.statusOf taskId = found.map TaskRow.status)
        (findTask taskId nextStatus) pair :=
      guarded_statement fun later _ =>
        ⟨hpermits.others rfl rfl, fun _ _ hanswer => findTask_status hanswer⟩
    refine guarded_bind hfind fun found later hstatus => ?_
    cases found with
    | none => exact guarded_throw _
    | some task =>
        dsimp only
        split
        · exact hread later
        · refine guarded_ofExcept_bind fun _ hensured => ?_
          have hupdate : Service.Guarded (taskMachine.withGhost move) (KeepsGhost window)
              (fun _ _ _ => True) (fun op _ pair => guar op pair) (fun _ _ => True)
              (updateTask taskId nextStatus result) later :=
            guarded_updateTask hpermits hstatus hensured fun _ _ _ _ => trivial
          refine guarded_bind hupdate fun _ moved _ => ?_
          exact guarded_bind (hlog task.status moved) fun _ logged _ => hread logged

/-- A report makes no move outside of its session. -/
theorem reportUnit_lawful (hpermits : Permits window guar) (taskId unitId : String)
    (report : ReportTaskUnitInput) :
    Lawful move window guar ReportTaskUnitResult (Tasks.reportUnit session taskId unitId report) :=
  fun _ => guarded_of_performs (fun _ _ _ _ _ _ => trivial)
    (fun op input later hop _ => ⟨hpermits.sessions (by rw [hop]; exact Option.some_ne_none _),
      trivial⟩) (reportUnit_inSession taskId unitId report) trivial

theorem program_lawful (hpermits : Permits window guar)
    (hexecute : ∀ taskId, Lawful move window guar (Option Json) (executeTask runtime routing taskId))
    (call : TaskCall) : Lawful move window guar Unit (call.program runtime routing session) := by
  cases hcall : call.reports with
  | false => exact (lawful_composes hpermits).program hexecute hcall
  | true =>
      cases call with
      | reportUnit taskId unitId report =>
          exact (lawful_composes hpermits).discard (reportUnit_lawful hpermits taskId unitId report)
      | _ => cases hcall

/-- The calls of a pool are lawful, whatever their ghosts. -/
theorem taskPool_tracked (hpermits : Permits window guar)
    (hexecute : ∀ taskId, Lawful move window guar (Option Json) (executeTask runtime routing taskId))
    (calls : List TaskCall) (state : TaskState) (ghosts : ℕ → γ) :
    (taskPool runtime routing calls state).Tracked taskMachine move (fun _ => window)
      (fun op _ pair => guar op pair) ghosts := by
  intro session program hthread
  simp only [taskPool, List.getElem?_mapIdx, Option.map_eq_some_iff] at hthread
  obtain ⟨call, -, rfl⟩ := hthread
  exact Program.Guarded.mono (fun _ _ _ => trivial)
    (program_lawful hpermits hexecute call (state, ghosts session))

end Lawful

/-! ## Runs -/

section Runs

variable {pool : TaskPool} {choice : ℕ × TaskInput} {runtime : Runtime}
  {routing : PaymentRouting} {calls : List TaskCall} {state : TaskState}

/-- A step that leaves the windows of the others alone, and commits no report late. -/
structure Orders (pool : TaskPool) (choice : ℕ × TaskInput) : Prop where
  proceeds : Proceeds pool choice
  undisturbed : pool.Undisturbed taskMachine (fun _ => StatusWindow TaskOp.moves) choice
  inProgress : pool.Conditioned (fun _ => InProgress) choice

instance decidableUndisturbed (trusts : TaskOp → Option String) (pool : TaskPool)
    (choice : ℕ × TaskInput) :
    Decidable (pool.Undisturbed taskMachine (fun _ => StatusWindow trusts) choice) :=
  @Pool.decidableUndisturbed _ _ _ _ taskMachine (fun _ => StatusWindow trusts)
    (fun _ => decidableStatusWindow trusts) pool choice

instance decidableInProgress (pool : TaskPool) (choice : ℕ × TaskInput) :
    Decidable (pool.Conditioned (fun _ => InProgress) choice) :=
  inferInstanceAs (Decidable (∀ op ∈ upcoming pool choice.1, InProgress op choice.2 pool.state))

instance decidableOrders (pool : TaskPool) (choice : ℕ × TaskInput) :
    Decidable (Orders pool choice) :=
  decidable_of_iff (Proceeds pool choice ∧
      pool.Undisturbed taskMachine (fun _ => StatusWindow TaskOp.moves) choice ∧
      pool.Conditioned (fun _ => InProgress) choice)
    ⟨fun ⟨hproceeds, hothers, hprogress⟩ => ⟨hproceeds, hothers, hprogress⟩,
      fun ⟨hproceeds, hothers, hprogress⟩ => ⟨hproceeds, hothers, hprogress⟩⟩

/-- Every call makes only allowed moves from here on. -/
structure Governed (pool : TaskPool) : Prop where
  orderly : Orderly pool
  lawful : pool.Tracked taskMachine (fun _ _ ghost => ghost) (fun _ => StatusWindow TaskOp.moves)
    (fun op _ pair => Allowed op pair.1) fun _ => ()

theorem allowed_permits :
    Permits (StatusWindow TaskOp.moves) fun (op : TaskOp) (pair : TaskState × Unit) => Allowed op pair.1 where
  sameStatus := id
  moves := id
  others {op _} hop _ := by
    cases op with
    | updateTask taskId status result => cases hop
    | _ => trivial
  sessions {op _} hop := by
    cases op with
    | updateTask taskId status result => exact absurd rfl hop
    | _ => trivial

theorem taskPool_governed (hkeyed : state.Keyed) (hidle : state.Idle) :
    Governed (taskPool runtime routing calls state) where
  orderly := taskPool_orderly hkeyed hidle
  lawful := by
    apply taskPool_tracked allowed_permits
    intro taskId
    refine (lawful_composes allowed_permits).executeTask (fun task pair => ?_) taskId
    -- handing a task over moves nothing
    refine Service.guarded_perform_bind fun later _ input _ => ⟨trivial, ?_⟩
    exact (lawful_composes allowed_permits).ofExcept _ _

namespace Governed

theorem step (hgoverned : Governed pool) (horders : Orders pool choice) :
    Governed (pool.step taskMachine choice) where
  orderly := hgoverned.orderly.step horders.proceeds
  lawful := (hgoverned.lawful.step (fun _ => statusWindow_isWindow _) horders.undisturbed).2

theorem disciplined (hgoverned : Governed pool) (horders : Orders pool choice) :
    pool.state.Disciplined (pool.step taskMachine choice).state := by
  cases hpending : pool.pending choice.1 with
  | none =>
      rw [Pool.step_of_pending_none taskMachine hpending]
      exact TaskState.statusesMove_of_eq (fun _ => .inl rfl) rfl
  | some op =>
      rw [Pool.step_state_of_pending hpending]
      have hallowed := (hgoverned.lawful.step (fun _ => statusWindow_isWindow _)
        horders.undisturbed).1
      exact answer_disciplined hgoverned.orderly.keyed
        (hgoverned.orderly.guarantees choice op hpending) (hallowed op hpending)
        (horders.inProgress op hpending)

theorem run (hgoverned : Governed pool) {choices : List (ℕ × TaskInput)}
    (hrun : Pool.Along taskMachine Orders choices pool) :
    Governed (pool.run taskMachine choices) := by
  induction choices generalizing pool with
  | nil => exact hgoverned
  | cons choice rest ih => exact ih (hgoverned.step hrun.1) hrun.2

/-- A status that no edge leaves is kept. -/
theorem keeps_final (hgoverned : Governed pool) {choices : List (ℕ × TaskInput)}
    (hrun : Pool.Along taskMachine Orders choices pool) {taskId : String} {status : TaskStatus}
    (hfinal : status.transitions = []) (hstatus : pool.state.statusOf taskId = some status) :
    (pool.run taskMachine choices).state.statusOf taskId = some status := by
  induction choices generalizing pool with
  | nil => exact hstatus
  | cons choice rest ih =>
      apply ih (hgoverned.step hrun.1) hrun.2
      have hstep := hgoverned.disciplined hrun.1 taskId
      rw [hstatus] at hstep
      cases hafter : (pool.step taskMachine choice).state.statusOf taskId with
      | none =>
          rw [hafter] at hstep
          cases hstep
      | some next =>
          rw [hafter] at hstep
          cases hstep with
          | some hfollows =>
              rcases hfollows with hsame | hmoved
              · rw [hsame]
              · rw [hfinal] at hmoved
                cases hmoved

end Governed

/-- In a run in which nobody moves a task between a call's read of its status and its write,
and reports are committed to tasks in progress only, every change of a status is an allowed
transition, and a status that allows none is never left. -/
theorem statuses_disciplined (hkeyed : state.Keyed) (hidle : state.Idle)
    {choices : List (ℕ × TaskInput)}
    (hrun : Pool.Along taskMachine Orders choices (taskPool runtime routing calls state)) :
    (∀ first choice rest, choices = first ++ choice :: rest →
        ((taskPool runtime routing calls state).run taskMachine first).state.Disciplined
          ((taskPool runtime routing calls state).run taskMachine (first ++ [choice])).state) ∧
      ∀ first middle last, choices = first ++ middle ++ last → ∀ taskId status,
        status.transitions = [] →
        ((taskPool runtime routing calls state).run taskMachine first).state.statusOf taskId =
          some status →
        ((taskPool runtime routing calls state).run taskMachine
          (first ++ middle)).state.statusOf taskId = some status := by
  have hgoverned : Governed (taskPool runtime routing calls state) :=
    taskPool_governed hkeyed hidle
  constructor
  · rintro first choice rest rfl
    obtain ⟨hfirst, hrest⟩ := Pool.along_append.mp hrun
    rw [Pool.run_append]
    exact (hgoverned.run hfirst).disciplined hrest.1
  · rintro first middle last rfl taskId status hfinal hstatus
    obtain ⟨hfirst, hmiddle⟩ := Pool.along_append.mp (Pool.along_append.mp hrun).1
    rw [Pool.run_append]
    exact (hgoverned.run hfirst).keeps_final hmiddle hfinal hstatus

end Runs

/-! ## Two results for one task -/

def inProgressTask : TaskState where
  tasks := [.stored "task-1" ⟨.BRIDGE, .IN_PROGRESS, 0, 0, 0, .null, none⟩]
  units := []
  logs := []
  transactions := []
  jobs := []
  routed := []

/-- One task is settled as executed and as failed. -/
def settlements : TaskPool :=
  taskPool (.ofTable [] []) arcMainnet
    [.updateStatus "task-1" .EXECUTED {}, .updateStatus "task-1" .FAILED {}] inProgressTask

def firstSettles : List (ℕ × TaskInput) :=
  [0, 0, 0, 0, 1].map fun session => (session, undelayed)

/-- Both calls read the task before either moves it. -/
def bothSettle : List (ℕ × TaskInput) :=
  [0, 1, 0, 0, 0, 1, 1, 1].map fun session => (session, undelayed)

/-- The task stays executed when the second call comes later, and fails after all when both
have read it in progress. -/
theorem statuses_disciplined_settlements :
    (∀ first middle last, firstSettles = first ++ middle ++ last → ∀ taskId status,
        status.transitions = [] →
        (settlements.run taskMachine first).state.statusOf taskId = some status →
        (settlements.run taskMachine (first ++ middle)).state.statusOf taskId = some status) ∧
      (settlements.run taskMachine firstSettles).state.statusOf "task-1" = some .EXECUTED ∧
      ¬ Pool.Along taskMachine Orders bothSettle settlements ∧
      (settlements.run taskMachine (bothSettle.take 4)).state.statusOf "task-1" =
        some .EXECUTED ∧
      (settlements.run taskMachine bothSettle).state.statusOf "task-1" = some .FAILED := by
  have hrun : Pool.Along taskMachine Orders firstSettles settlements := by decide +kernel
  exact ⟨(statuses_disciplined (by decide +kernel) (by decide +kernel) hrun).2, by decide +kernel,
    by decide +kernel, by decide +kernel, by decide +kernel⟩

end WizPay.Tasks
