import WizPay.Tasks.Reports

/-!
# The counters of a task

A counter is never behind the units it counts, in any interleaving of reports, moves, polls
and executions. It runs ahead of them exactly when a report is committed over another one:
nothing but the read at its start keeps a report from a unit that was reported meanwhile.
-/

namespace WizPay.Tasks

open Foundation Backend
open Payroll (TaskStatus TaskUnitStatus ReportTaskUnitInput)

/-! ## What is counted -/

namespace TaskState

/-- The committed units of a task that have a status. -/
def unitsIn (state : TaskState) (taskId : String) (status : TaskUnitStatus) : ℕ :=
  state.units.committed.countP fun unit => unit.2.taskId = taskId && unit.2.status = status

/-- No counter is behind its units. -/
def Covers (state : TaskState) : Prop :=
  ∀ task ∈ state.tasks.committed,
    state.unitsIn task.1 .SUCCESS ≤ task.2.completedUnits ∧
      state.unitsIn task.1 .FAILED ≤ task.2.failedUnits

/-- Every counter is the number of its units. -/
def Exact (state : TaskState) : Prop :=
  ∀ task ∈ state.tasks.committed,
    task.2.completedUnits = state.unitsIn task.1 .SUCCESS ∧
      task.2.failedUnits = state.unitsIn task.1 .FAILED

/-- A unit that was reported stays as it was reported. -/
def KeepsOutcomes (before after : TaskState) : Prop :=
  List.Forall₂ (fun old new => new.1 = old.1 ∧ (old.2.status ≠ .PENDING → new.2 = old.2))
    before.units.committed after.units.committed

/-- Nothing is written and not committed. -/
def Idle (state : TaskState) : Prop :=
  (∀ row ∈ state.tasks, row.Free) ∧ ∀ row ∈ state.units, row.Free

instance (state : TaskState) : Decidable state.Covers :=
  inferInstanceAs (Decidable (∀ task ∈ state.tasks.committed, _ ∧ _))

instance (state : TaskState) : Decidable state.Exact :=
  inferInstanceAs (Decidable (∀ task ∈ state.tasks.committed, _ ∧ _))

instance (state : TaskState) : Decidable state.Idle :=
  inferInstanceAs (Decidable (_ ∧ _))

theorem KeepsOutcomes.refl (state : TaskState) : state.KeepsOutcomes state :=
  List.forall₂_same.mpr fun _ _ => ⟨rfl, fun _ => rfl⟩

theorem KeepsOutcomes.trans {first second third : TaskState} (hfirst : first.KeepsOutcomes second)
    (hsecond : second.KeepsOutcomes third) : first.KeepsOutcomes third := by
  unfold KeepsOutcomes at *
  generalize first.units.committed = before at hfirst
  generalize second.units.committed = middle at hfirst hsecond
  generalize third.units.committed = after at hsecond ⊢
  induction hfirst generalizing after with
  | nil => exact hsecond
  | cons hrow _ ih =>
      cases hsecond with
      | cons hnext hrest =>
          refine .cons ⟨hnext.1.trans hrow.1, fun hreported => ?_⟩ (ih _ hrest)
          have hsame := hrow.2 hreported
          rw [hnext.2 (by rw [hsame]; exact hreported), hsame]

end TaskState

/-! ## What a step publishes -/

/-- The committed tables after a report of a unit, with its count. -/
structure PublishesReport (taskId unitId : String) (report : ReportTaskUnitInput)
    (old version : TaskUnitRow) (before after : TaskState) : Prop where
  reports : Reports taskId report old version
  task : ∃ task ∈ before.tasks.committed, task.1 = taskId
  counts : ∀ condition : TaskUnitRow → Bool,
    after.units.committed.countP (fun unit => condition unit.2) +
        (if condition old then 1 else 0) =
      before.units.committed.countP (fun unit => condition unit.2) +
        if condition version then 1 else 0
  units : List.Forall₂ (fun first second => second.1 = first.1 ∧
      if first.1 = unitId then first.2 = old ∧ second.2 = version else second.2 = first.2)
    before.units.committed after.units.committed
  tasks : List.Forall₂ (fun first second => second.1 = first.1 ∧
      if first.1 = taskId then Counts report.succeeded first.2 second.2 else second.2 = first.2)
    before.tasks.committed after.tasks.committed

/-- The committed tables after a step that neither reports nor counts. -/
structure PublishesNothing (before after : TaskState) : Prop where
  tasks : List.Forall₂ (fun first second => second.1 = first.1 ∧
      second.2.completedUnits = first.2.completedUnits ∧
      second.2.failedUnits = first.2.failedUnits)
    before.tasks.committed after.tasks.committed
  units : after.units.committed = before.units.committed

theorem PublishesNothing.of_eq {before after : TaskState}
    (htasks : after.tasks.committed = before.tasks.committed)
    (hunits : after.units.committed = before.units.committed) : PublishesNothing before after where
  tasks := by
    rw [htasks]
    exact List.forall₂_same.mpr fun _ _ => ⟨rfl, rfl, rfl⟩
  units := hunits

theorem exists_of_forall₂ {α β : Type} {relation : α → β → Prop} {before : List α} {after : List β}
    (hrelated : List.Forall₂ relation before after) {new : β} (hnew : new ∈ after) :
    ∃ old ∈ before, relation old new := by
  induction hrelated with
  | nil => cases hnew
  | cons hrow _ ih =>
      rcases List.mem_cons.mp hnew with hsame | hrest
      · rw [hsame]
        exact ⟨_, List.mem_cons_self, hrow⟩
      · obtain ⟨old, hold, hrelated⟩ := ih hrest
        exact ⟨old, List.mem_cons_of_mem _ hold, hrelated⟩

theorem exists_of_forall₂_left {α β : Type} {relation : α → β → Prop} {before : List α}
    {after : List β} (hrelated : List.Forall₂ relation before after) {old : α} (hold : old ∈ before) :
    ∃ new ∈ after, relation old new := by
  obtain ⟨new, hnew, hflip⟩ := exists_of_forall₂ hrelated.flip hold
  exact ⟨new, hnew, hflip⟩

section Publishes

variable {before after : TaskState} {taskId unitId : String} {report : ReportTaskUnitInput}
  {old version : TaskUnitRow}

/-- What a report adds to the units of a task that have a status. -/
theorem PublishesReport.unitsIn
    (hpublishes : PublishesReport taskId unitId report old version before after) (other : String)
    (status : TaskUnitStatus) :
    after.unitsIn other status + (if taskId = other ∧ old.status = status then 1 else 0) =
      before.unitsIn other status + if taskId = other ∧ outcome report = status then 1 else 0 := by
  have hcount := hpublishes.counts fun unit => unit.taskId = other && unit.status = status
  rw [hpublishes.reports.version] at hcount
  unfold TaskState.unitsIn
  simpa only [TaskUnitRow.reported, hpublishes.reports.task, Bool.and_eq_true,
    decide_eq_true_eq] using hcount

theorem PublishesNothing.unitsIn (hpublishes : PublishesNothing before after) (taskId : String)
    (status : TaskUnitStatus) : after.unitsIn taskId status = before.unitsIn taskId status := by
  unfold TaskState.unitsIn
  rw [hpublishes.units]

theorem PublishesNothing.covers (hpublishes : PublishesNothing before after)
    (hcovers : before.Covers) : after.Covers := by
  intro task htask
  obtain ⟨stored, hstored, hkey, hcompleted, hfailed⟩ := exists_of_forall₂ hpublishes.tasks htask
  rw [hkey, hcompleted, hfailed, hpublishes.unitsIn, hpublishes.unitsIn]
  exact hcovers stored hstored

theorem PublishesNothing.exact (hpublishes : PublishesNothing before after)
    (hexact : before.Exact) : after.Exact := by
  intro task htask
  obtain ⟨stored, hstored, hkey, hcompleted, hfailed⟩ := exists_of_forall₂ hpublishes.tasks htask
  rw [hkey, hcompleted, hfailed, hpublishes.unitsIn, hpublishes.unitsIn]
  exact hexact stored hstored

theorem PublishesReport.covers
    (hpublishes : PublishesReport taskId unitId report old version before after)
    (hcovers : before.Covers) : after.Covers := by
  intro task htask
  obtain ⟨stored, hstored, hkey, hcounted⟩ := exists_of_forall₂ hpublishes.tasks htask
  obtain ⟨hcompleted, hfailed⟩ := hcovers stored hstored
  have hsuccess := hpublishes.unitsIn stored.1 .SUCCESS
  have hfailure := hpublishes.unitsIn stored.1 .FAILED
  rw [hkey]
  by_cases hsame : stored.1 = taskId
  · rw [if_pos hsame] at hcounted
    rw [hcounted.completed, hcounted.failed]
    cases hsucceeded : report.succeeded <;>
      simp only [outcome, hsucceeded, hsame, TaskRow.counted, true_and, if_true, if_false,
        Bool.false_eq_true, reduceCtorEq] at hsuccess hfailure hcompleted hfailed ⊢ <;> omega
  · rw [if_neg hsame] at hcounted
    rw [hcounted]
    simp only [Ne.symm hsame, false_and, if_false] at hsuccess hfailure
    omega

/-- Where the counters were exact, a report keeps them so if and only if its unit was still
pending. -/
theorem PublishesReport.exact_iff
    (hpublishes : PublishesReport taskId unitId report old version before after)
    (hexact : before.Exact) : old.status = .PENDING ↔ after.Exact := by
  constructor
  · intro hpending new hnew
    obtain ⟨stored, hstored, hkey, hcounted⟩ := exists_of_forall₂ hpublishes.tasks hnew
    obtain ⟨hcompleted, hfailed⟩ := hexact stored hstored
    have hsuccess := hpublishes.unitsIn stored.1 .SUCCESS
    have hfailure := hpublishes.unitsIn stored.1 .FAILED
    rw [hkey]
    by_cases hsame : stored.1 = taskId
    · rw [if_pos hsame] at hcounted
      rw [hcounted.completed, hcounted.failed]
      cases hsucceeded : report.succeeded <;>
        simp only [outcome, hsucceeded, hpending, hsame, TaskRow.counted, true_and, if_true,
          if_false, Bool.false_eq_true, reduceCtorEq] at hsuccess hfailure hcompleted hfailed ⊢ <;>
        omega
    · rw [if_neg hsame] at hcounted
      rw [hcounted]
      simp only [Ne.symm hsame, false_and, if_false] at hsuccess hfailure
      omega
  · intro hafter
    obtain ⟨stored, hstored, hkey⟩ := hpublishes.task
    obtain ⟨new, hnew, hsame, hcounted⟩ := exists_of_forall₂_left hpublishes.tasks hstored
    rw [if_pos hkey] at hcounted
    obtain ⟨hcompleted, hfailed⟩ := hexact stored hstored
    obtain ⟨hcompleted', hfailed'⟩ := hafter new hnew
    rw [hsame, hcounted.completed] at hcompleted'
    rw [hsame, hcounted.failed] at hfailed'
    have hsuccess := hpublishes.unitsIn stored.1 .SUCCESS
    have hfailure := hpublishes.unitsIn stored.1 .FAILED
    by_contra hpending
    -- the report took one unit out of the count that it belonged to
    cases hstatus : old.status with
    | PENDING => exact hpending hstatus
    | SUCCESS | FAILED =>
        cases hsucceeded : report.succeeded <;>
          simp only [outcome, hsucceeded, hstatus, hkey, TaskRow.counted, true_and, if_true,
            if_false, Bool.false_eq_true, reduceCtorEq] at * <;> omega

theorem PublishesNothing.keepsOutcomes (hpublishes : PublishesNothing before after) :
    before.KeepsOutcomes after := by
  unfold TaskState.KeepsOutcomes
  rw [hpublishes.units]
  exact List.forall₂_same.mpr fun _ _ => ⟨rfl, fun _ => rfl⟩

theorem PublishesReport.keepsOutcomes
    (hpublishes : PublishesReport taskId unitId report old version before after)
    (hpending : old.status = .PENDING) : before.KeepsOutcomes after := by
  refine hpublishes.units.imp fun first second hrow => ⟨hrow.1, fun hreported => ?_⟩
  by_cases hkey : first.1 = unitId
  · rw [if_pos hkey] at hrow
    rw [hrow.2.1] at hreported
    exact absurd hpending hreported
  · rw [if_neg hkey] at hrow
    exact hrow.2

/-- A report leaves its unit with its task. -/
theorem PublishesReport.unitTasks
    (hpublishes : PublishesReport taskId unitId report old version before after) :
    after.unitTasks = before.unitTasks := by
  unfold TaskState.unitTasks
  have hsame : List.Forall₂
      (fun first second : String × TaskUnitRow =>
        (first.1, first.2.taskId) = (second.1, second.2.taskId))
      before.units.committed after.units.committed := by
    refine hpublishes.units.imp fun first second hrow => ?_
    by_cases hkey : first.1 = unitId
    · rw [if_pos hkey] at hrow
      rw [hrow.1, hrow.2.1, hrow.2.2, hpublishes.reports.version]
      rfl
    · rw [if_neg hkey] at hrow
      rw [hrow.1, hrow.2]
  refine (List.forall₂_eq_eq_eq ▸ List.forall₂_map_left_iff.mpr
    (List.forall₂_map_right_iff.mpr hsame) : _ = _).symm

end Publishes

/-! ## What a statement publishes -/

/-- A commit takes effect, answered or not. -/
def TaskInput.Commits (input : TaskInput) : Prop := input.outage = none ∨ input.applied = true

instance (input : TaskInput) : Decidable input.Commits :=
  match houtage : input.outage with
  | none => isTrue (.inl houtage)
  | some _ =>
      decidable_of_iff (input.applied = true) ⟨.inr, fun hcommits =>
        hcommits.resolve_left (by rw [houtage]; exact Option.some_ne_none _)⟩

/-- A commit that takes effect finds every unit it reports still pending. -/
def Fresh : TaskOp → TaskInput → TaskState → Prop
  | .commit session, input, state => input.Commits → ∀ unit ∈ state.units,
      unit.own session ≠ none → unit.committed.status = .PENDING
  | _, _, _ => True

instance : (op : TaskOp) → (input : TaskInput) → (state : TaskState) →
    Decidable (Fresh op input state)
  | .commit session, input, state =>
      inferInstanceAs (Decidable (input.Commits → ∀ unit ∈ state.units,
        unit.own session ≠ none → unit.committed.status = .PENDING))
  | .taskDetails _ _, _, _ | .findTask _ _, _, _ | .updateTask _ _ _, _, _ | .findUnit _ _ _, _, _
  | .updateUnit _ _ _, _, _ | .findTaskOrThrow _ _, _, _ | .countUnit _ _ _, _, _
  | .setStatus _ _ _, _, _ | .createLog _ _, _, _ | .rollback _, _, _ | .findLog _ _, _, _
  | .findTransaction _, _, _ | .updateTransaction _ _, _, _ | .findTransactions _, _, _
  | .getTransactionReceiptOnChain _, _, _ | .enqueueTransactionPoll _, _, _ | .takePoll, _, _
  | .routeToAgent _, _, _ => isTrue trivial

instance decidableFresh (pool : TaskPool) (choice : ℕ × TaskInput) :
    Decidable (pool.Conditioned (fun _ => Fresh) choice) :=
  inferInstanceAs (Decidable (∀ op ∈ upcoming pool choice.1, Fresh op choice.2 pool.state))

section Answer

variable {op : TaskOp} {input : TaskInput} {state : TaskState} {session : ℕ}
  {taskId unitId : String} {report : ReportTaskUnitInput}

theorem commit_of_commits (hcommits : input.Commits) :
    (taskMachine.answer (.commit session) input state).2 = state.committed session := by
  cases houtage : input.outage with
  | none => simp only [taskMachine, houtage]
  | some error =>
      have happlied : input.applied = true :=
        hcommits.resolve_left (by rw [houtage]; exact Option.some_ne_none _)
      simp only [taskMachine, houtage, happlied, if_true]

theorem commit_of_not_commits (hlost : ¬ input.Commits) :
    (taskMachine.answer (.commit session) input state).2 = state.rolledBack session := by
  unfold TaskInput.Commits at hlost
  cases houtage : input.outage with
  | none => exact absurd (.inl houtage) hlost
  | some error =>
      have happlied : ¬ input.applied = true := fun happlied => hlost (.inr happlied)
      simp only [taskMachine, houtage, if_neg happlied]

/-- The commit of a counted report. -/
theorem Counted.publishes (hkeyed : state.Keyed)
    (hcounted : Counted session taskId unitId report state) :
    ∃ old, PublishesReport taskId unitId report old (old.reported report) state
        (state.committed session) ∧
      ∀ unit ∈ state.units, unit.own session ≠ none → unit.committed = old := by
  obtain ⟨row, hrow, hkey⟩ := hcounted.units.present
  have hold : ∀ unit ∈ state.units, unit.key = unitId → unit = row := fun unit hunit hsame =>
    List.inj_on_of_nodup_map hkeyed.units hunit hrow (hsame.trans hkey.symm)
  have hholds : state.units.Holds session unitId
      (fun old version => old = row.committed ∧ version = row.committed.reported report) := by
    refine ⟨hcounted.units.present, fun unit hunit hsame => ?_, hcounted.units.others⟩
    obtain ⟨version, hown, hreports⟩ := hcounted.units.own unit hunit hsame
    obtain rfl := hold unit hunit hsame
    exact ⟨version, hown, rfl, hreports.version⟩
  obtain ⟨version, ⟨-, rfl⟩, hcounts⟩ := hholds.countP_commit hkeyed.units hrow hkey
  obtain ⟨_, -, hreports⟩ := hcounted.units.own row hrow hkey
  obtain ⟨task, htask, htaskKey⟩ := hcounted.tasks.present
  refine ⟨row.committed, ⟨⟨hreports.task, rfl⟩, ?_, hcounts, hholds.committed_commit,
    hcounted.tasks.committed_commit⟩, fun unit hunit hown => ?_⟩
  · exact ⟨_, List.mem_map.mpr ⟨task, htask, rfl⟩, htaskKey⟩
  · by_cases hsame : unit.key = unitId
    · rw [hold unit hunit hsame]
    · exact absurd (hcounted.units.others unit hunit hsame) hown

/-- A guaranteed statement publishes nothing, or one report with its count, over a unit that
is still pending if and only if the statement is fresh. -/
theorem answer_publishes (hkeyed : state.Keyed) (hguar : Guarantee op input state) :
    (Fresh op input state ∧ PublishesNothing state (taskMachine.answer op input state).2) ∨
      ∃ taskId unitId report old,
        PublishesReport taskId unitId report old (old.reported report) state
            (taskMachine.answer op input state).2 ∧
          (Fresh op input state ↔ old.status = .PENDING) := by
  have hmoves := answer_moves op input state
  cases op with
  | commit session =>
      by_cases hcommits : input.Commits
      · rw [commit_of_commits hcommits]
        rcases hguar with ⟨htasks, hunits⟩ | ⟨taskId, unitId, report, hcounted⟩
        · left
          refine ⟨fun _ unit hunit hown => absurd (hunits unit hunit) hown, .of_eq ?_ ?_⟩
          · exact congrArg Table.committed (Table.commit_of_others htasks)
          · exact congrArg Table.committed (Table.commit_of_others hunits)
        · right
          obtain ⟨old, hpublishes, hunique⟩ := hcounted.publishes hkeyed
          refine ⟨taskId, unitId, report, old, hpublishes, fun hfresh => ?_, fun hpending => ?_⟩
          · obtain ⟨row, hrow, hkey⟩ := hcounted.units.present
            obtain ⟨version, hown, -⟩ := hcounted.units.own row hrow hkey
            have hsome : row.own session ≠ none := by
              rw [hown]
              exact Option.some_ne_none version
            rw [← hunique row hrow hsome]
            exact hfresh hcommits row hrow hsome
          · intro _ unit hunit hown
            rw [hunique unit hunit hown]
            exact hpending
      · rw [commit_of_not_commits hcommits]
        refine .inl ⟨fun htook => absurd htook hcommits, .of_eq ?_ ?_⟩
        · exact Table.committed_map (Stored.rollback_key _) (Stored.rollback_committed _) _
        · exact Table.committed_map (Stored.rollback_key _) (Stored.rollback_committed _) _
  | updateTask taskId status result =>
      refine .inl ⟨trivial, ?_⟩
      cases hmoves with
      | same htasks hunits => exact .of_eq (by rw [htasks]) (by rw [hunits])
      | rollback hop htasks hunits => cases hop
      | put htasks hunits =>
          -- a move writes the status and the result, and no counter
          refine ⟨?_, by rw [hunits]⟩
          rw [htasks]
          refine List.forall₂_map_left_iff.mpr (List.forall₂_map_right_iff.mpr ?_)
          refine List.forall₂_map_right_iff.mpr (List.forall₂_same.mpr fun row _ => ?_)
          split <;> exact ⟨rfl, rfl, rfl⟩
  | _ =>
      obtain ⟨htasks, hunits⟩ := hmoves.committed rfl
      exact .inl ⟨trivial, .of_eq htasks hunits⟩

theorem Interferes.of_answer (hkeyed : state.Keyed) (hguar : Guarantee op input state)
    (hop : op.session ≠ some session) (henabled : Enabled op state) :
    Interferes session state (taskMachine.answer op input state).2 where
  keeps := (answer_moves op input state).keeps hop henabled
  keyed := (answer_moves op input state).keyed
  unitTasks := by
    rcases answer_publishes hkeyed hguar with ⟨-, hnothing⟩ | ⟨_, _, _, _, hreport, -⟩
    · unfold TaskState.unitTasks
      rw [hnothing.units]
    · exact hreport.unitTasks

end Answer

/-! ## Runs of concurrent calls -/

/-- Every call writes in its own session and commits what a report may. -/
structure Orderly (pool : TaskPool) : Prop where
  guarded : pool.Guarded taskMachine (fun session _ => Interferes session) (fun _ _ _ _ => True)
    fun _ => Guarantee
  owned : pool.Performs TaskOp.OwnedBy
  keyed : pool.state.Keyed

theorem untouched_of_idle {state : TaskState} (hkeyed : state.Keyed) (hidle : state.Idle)
    (session : ℕ) : Untouched session state where
  keyed := hkeyed
  tasks row hrow := Stored.own_of_free (hidle.1 row hrow) session
  units row hrow := Stored.own_of_free (hidle.2 row hrow) session

section Runs

variable {pool : TaskPool} {choice : ℕ × TaskInput} {runtime : Runtime}
  {routing : PaymentRouting} {calls : List TaskCall} {state : TaskState}

theorem taskPool_orderly (hkeyed : state.Keyed) (hidle : state.Idle) :
    Orderly (taskPool runtime routing calls state) := by
  have hprogram : ∀ {session program},
      (taskPool runtime routing calls state).threads[session]? = some program →
        ∃ call, program = (TaskCall.program runtime routing session call).run := by
    intro session program hthread
    simp only [taskPool, List.getElem?_mapIdx, Option.map_eq_some_iff] at hthread
    obtain ⟨call, -, hcall⟩ := hthread
    exact ⟨call, hcall.symm⟩
  refine ⟨fun session program hthread => ?_, fun session program hthread => ?_, hkeyed⟩
  · obtain ⟨call, rfl⟩ := hprogram hthread
    exact program_guards call (untouched_of_idle hkeyed hidle session)
  · obtain ⟨call, rfl⟩ := hprogram hthread
    exact program_owned call

namespace Orderly

/-- The others see a step of a call as interference. -/
theorem undisturbed (horderly : Orderly pool) (hguar : pool.Conditioned (fun _ => Guarantee) choice)
    (hproceeds : Proceeds pool choice) :
    pool.Undisturbed taskMachine (fun session _ => Interferes session) choice := by
  intro session hother op _
  cases hpending : pool.pending choice.1 with
  | none =>
      rw [Pool.step_of_pending_none taskMachine hpending]
      exact (interferes_isWindow session).refl op pool.state
  | some performed =>
      rw [Pool.step_state_of_pending hpending]
      apply Interferes.of_answer horderly.keyed (hguar performed hpending)
      · intro hsession
        exact hother (horderly.owned.pending hpending session hsession)
      · exact hproceeds performed hpending

theorem guarantees (horderly : Orderly pool) (choice : ℕ × TaskInput) :
    pool.Conditioned (fun _ => Guarantee) choice := by
  intro op hpending
  obtain ⟨next, hthread⟩ := Pool.pending_eq_some.mp hpending
  exact (horderly.guarded _ _ hthread pool.state ((interferes_isWindow _).refl op _) choice.2
    trivial).1

theorem step (horderly : Orderly pool) (hproceeds : Proceeds pool choice) :
    Orderly (pool.step taskMachine choice) where
  guarded := by
    have hothers := horderly.undisturbed (horderly.guarantees choice) hproceeds
    exact (horderly.guarded.step interferes_isWindow (fun _ _ => trivial) hothers).2
  owned := horderly.owned.step taskMachine choice
  keyed := by
    cases hpending : pool.pending choice.1 with
    | none =>
        rw [Pool.step_of_pending_none taskMachine hpending]
        exact horderly.keyed
    | some op =>
        rw [Pool.step_state_of_pending hpending]
        exact (answer_moves op choice.2 pool.state).keyed horderly.keyed

/-- What a step of an orderly pool publishes. -/
theorem publishes (horderly : Orderly pool) (choice : ℕ × TaskInput) :
    (pool.Conditioned (fun _ => Fresh) choice ∧
        PublishesNothing pool.state (pool.step taskMachine choice).state) ∨
      ∃ taskId unitId report old,
        PublishesReport taskId unitId report old (old.reported report) pool.state
            (pool.step taskMachine choice).state ∧
          (pool.Conditioned (fun _ => Fresh) choice ↔ old.status = .PENDING) := by
  cases hpending : pool.pending choice.1 with
  | none =>
      rw [Pool.step_of_pending_none taskMachine hpending]
      refine .inl ⟨fun op hop => ?_, .of_eq rfl rfl⟩
      rw [hpending] at hop
      cases hop
  | some op =>
      have hfresh : pool.Conditioned (fun _ => Fresh) choice ↔ Fresh op choice.2 pool.state := by
        refine ⟨fun hconditioned => hconditioned op hpending, fun hfresh other hother => ?_⟩
        obtain rfl := Option.some.inj (hpending.symm.trans hother)
        exact hfresh
      rw [Pool.step_state_of_pending hpending, hfresh]
      exact answer_publishes horderly.keyed (horderly.guarantees choice op hpending)

theorem covers_step (horderly : Orderly pool) (choice : ℕ × TaskInput)
    (hcovers : pool.state.Covers) : (pool.step taskMachine choice).state.Covers := by
  rcases horderly.publishes choice with ⟨-, hnothing⟩ | ⟨_, _, _, _, hreport, -⟩
  · exact hnothing.covers hcovers
  · exact hreport.covers hcovers

/-- A step keeps the counters exact if and only if it is fresh. -/
theorem exact_step_iff (horderly : Orderly pool) (choice : ℕ × TaskInput)
    (hexact : pool.state.Exact) :
    pool.Conditioned (fun _ => Fresh) choice ↔ (pool.step taskMachine choice).state.Exact := by
  rcases horderly.publishes choice with ⟨hfresh, hnothing⟩ | ⟨_, _, _, _, hreport, hpending⟩
  · exact iff_of_true hfresh (hnothing.exact hexact)
  · exact hpending.trans (hreport.exact_iff hexact)

theorem keepsOutcomes_step (horderly : Orderly pool)
    (hfresh : pool.Conditioned (fun _ => Fresh) choice) :
    pool.state.KeepsOutcomes (pool.step taskMachine choice).state := by
  rcases horderly.publishes choice with ⟨-, hnothing⟩ | ⟨_, _, _, _, hreport, hpending⟩
  · exact hnothing.keepsOutcomes
  · exact hreport.keepsOutcomes (hpending.mp hfresh)

theorem run (horderly : Orderly pool) {choices : List (ℕ × TaskInput)}
    (hrun : Pool.Along taskMachine Proceeds choices pool) :
    Orderly (pool.run taskMachine choices) := by
  induction choices generalizing pool with
  | nil => exact horderly
  | cons choice rest ih => exact ih (horderly.step hrun.1) hrun.2

theorem covers_run (horderly : Orderly pool) {choices : List (ℕ × TaskInput)}
    (hrun : Pool.Along taskMachine Proceeds choices pool) (hcovers : pool.state.Covers) :
    (pool.run taskMachine choices).state.Covers := by
  induction choices generalizing pool with
  | nil => exact hcovers
  | cons choice rest ih =>
      exact ih (horderly.step hrun.1) hrun.2 (horderly.covers_step choice hcovers)

theorem keepsOutcomes_run (horderly : Orderly pool) {choices : List (ℕ × TaskInput)}
    (hrun : Pool.Along taskMachine Proceeds choices pool)
    (hfresh : Pool.Along taskMachine (Pool.Conditioned fun _ => Fresh) choices pool) :
    pool.state.KeepsOutcomes (pool.run taskMachine choices).state := by
  induction choices generalizing pool with
  | nil => exact .refl pool.state
  | cons choice rest ih =>
      exact (horderly.keepsOutcomes_step hfresh.1).trans
        (ih (horderly.step hrun.1) hrun.2 hfresh.2)

end Orderly

/-- In a run of any calls that starts with exact counters, no counter is ever behind its
units; the counters are exact at every moment if and only if no commit replaces a report; and
then every unit keeps the first report of it that was committed. -/
theorem counters_exact_iff (hkeyed : state.Keyed) (hidle : state.Idle) (hexact : state.Exact)
    {choices : List (ℕ × TaskInput)}
    (hrun : Pool.Along taskMachine Proceeds choices (taskPool runtime routing calls state)) :
    (∀ first rest, choices = first ++ rest →
        ((taskPool runtime routing calls state).run taskMachine first).state.Covers) ∧
      (Pool.Along taskMachine (Pool.Conditioned fun _ => Fresh) choices
          (taskPool runtime routing calls state) ↔
        ∀ first rest, choices = first ++ rest →
          ((taskPool runtime routing calls state).run taskMachine first).state.Exact) ∧
      (Pool.Along taskMachine (Pool.Conditioned fun _ => Fresh) choices
          (taskPool runtime routing calls state) →
        ∀ first middle last, choices = first ++ middle ++ last →
          ((taskPool runtime routing calls state).run taskMachine first).state.KeepsOutcomes
            ((taskPool runtime routing calls state).run taskMachine (first ++ middle)).state) := by
  have horderly : Orderly (taskPool runtime routing calls state) := taskPool_orderly hkeyed hidle
  refine ⟨?_, ?_, ?_⟩
  · rintro first rest rfl
    apply horderly.covers_run (Pool.along_append.mp hrun).1
    intro task htask
    exact ⟨(hexact task htask).1.ge, (hexact task htask).2.ge⟩
  · have hbase : ∀ (pool : TaskPool) (choice : ℕ × TaskInput), Proceeds pool choice →
        Orderly pool → Orderly (pool.step taskMachine choice) :=
      fun _ _ hproceeds hpool => hpool.step hproceeds
    exact Pool.along_iff_invariant_of hbase
      (fun _ choice _ hpool hcounted => hpool.exact_step_iff choice hcounted) hrun horderly hexact
  · rintro hfresh first middle last rfl
    have hproceeds := Pool.along_append.mp (Pool.along_append.mp hrun).1
    have hconditioned := Pool.along_append.mp (Pool.along_append.mp hfresh).1
    rw [Pool.run_append]
    exact (horderly.run hproceeds.1).keepsOutcomes_run hproceeds.2 hconditioned.2

end Runs

/-! ## Two reports of one unit -/

def pendingUnit : TaskState where
  tasks := [.stored "task-1" ⟨.PAYROLL, .IN_PROGRESS, 1, 0, 0, .null, none⟩]
  units := [.stored "unit-1" ⟨"task-1", 0, .PENDING, none, none⟩]
  logs := []
  transactions := []
  jobs := []
  routed := []

/-- One payment reported as a success and as a failure at once. -/
def conflictingReports : TaskPool :=
  taskPool (.ofTable [] []) arcMainnet [
    .reportUnit "task-1" "unit-1" ⟨true, none, none⟩,
    .reportUnit "task-1" "unit-1" ⟨false, none, none⟩] pendingUnit

def undelayed : TaskInput where
  outage := none
  applied := true
  receipt := .ok none
  enqueued := .ok ()
  execution := .ok .null
  delivery := 0
  redelivered := false

/-- Both calls read the unit before either writes it. -/
def bothRead : List (ℕ × TaskInput) :=
  [0, 1, 0, 0, 0, 0, 0, 0, 0, 1, 1, 1, 1, 1, 1, 1].map fun session => (session, undelayed)

/-- The one unit is counted twice, and what the counters cover is never behind it. -/
theorem counters_exact_iff_bothRead :
    (∀ first rest, bothRead = first ++ rest →
        (conflictingReports.run taskMachine first).state.Covers) ∧
      (¬ ∀ first rest, bothRead = first ++ rest →
        (conflictingReports.run taskMachine first).state.Exact) ∧
      (conflictingReports.run taskMachine bothRead).state.tasks.map
        (fun task => (task.committed.completedUnits, task.committed.failedUnits)) = [(1, 1)] := by
  have hrun : Pool.Along taskMachine Proceeds bothRead conflictingReports := by decide +kernel
  obtain ⟨hcovers, hexact, -⟩ :=
    counters_exact_iff (by decide +kernel) (by decide +kernel) (by decide +kernel) hrun
  refine ⟨hcovers, fun hall => ?_, by decide +kernel⟩
  have hstale : ¬ Pool.Along taskMachine (Pool.Conditioned fun _ => Fresh) bothRead
      conflictingReports := by decide +kernel
  exact hstale (hexact.mpr hall)

end WizPay.Tasks
