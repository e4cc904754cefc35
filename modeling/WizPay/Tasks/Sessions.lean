import WizPay.Foundation.Windows
import WizPay.Tasks.Service

/-!
# Sessions over the stored tasks

What one statement does to the rows of tasks and units: what other sessions hold stays as
it is, and what is committed moves only when a session commits, or when a call moves a task
outside of any.
-/

namespace WizPay.Tasks

open Foundation Backend
open Payroll (TaskStatus TaskUnitStatus ReportTaskUnitInput)

/-! ## What a statement does -/

/-- The session a statement belongs to. -/
def TaskOp.session : TaskOp → Option ℕ
  | .taskDetails session _ => session
  | .findUnit session _ _ => some session
  | .updateUnit session _ _ => some session
  | .findTaskOrThrow session _ => some session
  | .countUnit session _ _ => some session
  | .setStatus session _ _ => some session
  | .createLog session _ => session
  | .commit session => some session
  | .rollback session => some session
  | _ => none

/-- A statement of one session, or of none. -/
def TaskOp.OwnedBy (session : ℕ) (op : TaskOp) : Prop := ∀ other ∈ op.session, other = session

/-- The rows of tasks and units before and after a statement. -/
inductive Moves (state after : TaskState) : TaskOp → Prop
  | same {op : TaskOp} (tasks : after.tasks = state.tasks) (units : after.units = state.units) :
      Moves state after op
  | put {taskId : String} {status : TaskStatus} {result : Option Json}
      (tasks : after.tasks = state.tasks.modify taskId fun row =>
        row.put fun task => { task with status, result := result.or task.result })
      (units : after.units = state.units) : Moves state after (.updateTask taskId status result)
  | report {session : ℕ} {unitId : String} {report : ReportTaskUnitInput}
      (tasks : after.tasks = state.tasks)
      (units : after.units = state.units.modify unitId fun row =>
        row.write session (TaskUnitRow.reported report)) :
      Moves state after (.updateUnit session unitId report)
  | count {session : ℕ} {taskId : String} {succeeded : Bool}
      (tasks : after.tasks = state.tasks.modify taskId fun row =>
        row.write session (TaskRow.counted succeeded))
      (units : after.units = state.units) : Moves state after (.countUnit session taskId succeeded)
  | setStatus {session : ℕ} {taskId : String} {status : TaskStatus}
      (tasks : after.tasks = state.tasks.modify taskId fun row =>
        row.write session fun task => { task with status })
      (units : after.units = state.units) : Moves state after (.setStatus session taskId status)
  | commit {session : ℕ} (tasks : after.tasks = state.tasks.map (Stored.commit session))
      (units : after.units = state.units.map (Stored.commit session)) :
      Moves state after (.commit session)
  | rollback {op : TaskOp} {session : ℕ} (hop : op.session = some session)
      (tasks : after.tasks = state.tasks.map (Stored.rollback session))
      (units : after.units = state.units.map (Stored.rollback session)) : Moves state after op

namespace Moves

variable {op : TaskOp} {state : TaskState} {input : TaskInput}

theorem refl (op : TaskOp) (state : TaskState) : Moves state state op := .same rfl rfl

theorem inSession {α : Type} {outcome : Except DbError α × TaskState}
    (houtcome : Moves state outcome.2 op) : Moves state (state.inSession input outcome).2 op := by
  unfold TaskState.inSession
  split
  · exact houtcome
  · exact refl op state

theorem through {ε α : Type} {toError : DbError → ε} {outcome : Except ε α × TaskState}
    (houtcome : Moves state outcome.2 op) :
    Moves state (state.through input toError outcome).2 op := by
  unfold TaskState.through
  split
  · exact houtcome
  · split
    · exact houtcome
    · exact refl op state

theorem written {α : Type} {answer : Option α} {after : TaskState}
    (hafter : Moves state after op) : Moves state (state.written answer after).2 op := by
  unfold TaskState.written
  split
  · exact hafter
  · exact refl op state

end Moves

theorem answer_moves (op : TaskOp) (input : TaskInput) (state : TaskState) :
    Moves state (taskMachine.answer op input state).2 op := by
  cases op with
  | updateTask taskId status result =>
      refine Moves.through (Moves.written ?_)
      exact .put rfl rfl
  | updateUnit session unitId report =>
      refine Moves.inSession (Moves.written ?_)
      exact .report rfl rfl
  | countUnit session taskId succeeded =>
      refine Moves.inSession (Moves.written ?_)
      exact .count rfl rfl
  | setStatus session taskId status =>
      refine Moves.inSession (Moves.written ?_)
      exact .setStatus rfl rfl
  | findTaskOrThrow session taskId => exact Moves.inSession (Moves.written (.refl _ state))
  | createLog session log =>
      cases session with
      | none =>
          refine @Moves.through _ state input _ _ id (.ok (), state.logged none log) ?_
          exact .same rfl rfl
      | some session =>
          refine @Moves.inSession _ state input _ (.ok (), state.logged (some session) log) ?_
          exact .same rfl rfl
  | commit session =>
      cases houtage : input.outage with
      | none =>
          simp only [taskMachine, houtage]
          exact .commit rfl rfl
      | some error =>
          simp only [taskMachine, houtage]
          split
          · exact .commit rfl rfl
          · exact .rollback rfl rfl rfl
  | rollback session => exact .rollback rfl rfl rfl
  | updateTransaction id update =>
      refine Moves.through (Moves.written ?_)
      exact .same rfl rfl
  | enqueueTransactionPoll job =>
      cases henqueued : input.enqueued with
      | ok accepted =>
          simp only [taskMachine, henqueued]
          exact .same rfl rfl
      | error error =>
          simp only [taskMachine, henqueued]
          split <;> exact .same rfl rfl
  | takePoll =>
      simp only [taskMachine]
      split <;> exact .same rfl rfl
  | routeToAgent task => exact .same rfl rfl
  | getTransactionReceiptOnChain txId => exact .same rfl rfl
  | taskDetails session taskId =>
      exact @Moves.inSession _ state input _ (.ok (state.details session taskId), state)
        (.refl _ state)
  | findTask taskId nextStatus =>
      exact @Moves.inSession _ state input _
        (.ok ((state.tasks.find taskId).map (Stored.view none)), state) (.refl _ state)
  | findUnit session taskId unitId =>
      exact @Moves.inSession _ state input _ (.ok (state.findUnit session taskId unitId), state)
        (.refl _ state)
  | findLog taskId step =>
      exact @Moves.inSession _ state input _ (.ok _, state) (.refl _ state)
  | findTransaction txId =>
      exact @Moves.inSession _ state input _ (.ok _, state) (.refl _ state)
  | findTransactions taskId =>
      exact @Moves.inSession _ state input _ (.ok _, state) (.refl _ state)

/-! ## What the others hold -/

namespace TaskState

/-- A step of the others, as a session sees it. -/
structure Keeps (session : ℕ) (before after : TaskState) : Prop where
  tasks : before.tasks.Keeps session after.tasks
  units : before.units.Keeps session after.units

theorem Keeps.refl (session : ℕ) (state : TaskState) : Keeps session state state :=
  ⟨.refl session state.tasks, .refl session state.units⟩

theorem Keeps.trans {session : ℕ} {first second third : TaskState} (hfirst : Keeps session first second)
    (hsecond : Keeps session second third) : Keeps session first third :=
  ⟨hfirst.tasks.trans hsecond.tasks, hfirst.units.trans hsecond.units⟩

/-- Tasks and units have one row each. -/
structure Keyed (state : TaskState) : Prop where
  tasks : state.tasks.Keyed
  units : state.units.Keyed

instance (state : TaskState) : Decidable state.Keyed :=
  decidable_of_iff (state.tasks.Keyed ∧ state.units.Keyed)
    ⟨fun hkeyed => ⟨hkeyed.1, hkeyed.2⟩, fun hkeyed => ⟨hkeyed.tasks, hkeyed.units⟩⟩

end TaskState

variable {op : TaskOp} {state after : TaskState} {session : ℕ}

/-- A statement that need not wait leaves what the other sessions hold as it is. -/
theorem Moves.keeps (hmoves : Moves state after op) (hop : op.session ≠ some session)
    (henabled : Enabled op state) : state.Keeps session after := by
  cases hmoves with
  | same htasks hunits =>
      exact ⟨htasks ▸ .refl session state.tasks, hunits ▸ .refl session state.units⟩
  | put htasks hunits =>
      refine ⟨htasks ▸ .modify fun row hmember hkey => ?_, hunits ▸ .refl session state.units⟩
      exact .put (henabled row hmember hkey) _
  | @report other _ _ htasks hunits =>
      have hother : session ≠ other := fun hsame => hop (congrArg some hsame.symm)
      refine ⟨htasks ▸ .refl session state.tasks, hunits ▸ .modify fun row hmember hkey => ?_⟩
      exact .write hother (henabled row hmember hkey) _
  | @count other _ _ htasks hunits =>
      have hother : session ≠ other := fun hsame => hop (congrArg some hsame.symm)
      refine ⟨htasks ▸ .modify fun row hmember hkey => ?_, hunits ▸ .refl session state.units⟩
      exact .write hother (henabled row hmember hkey) _
  | @setStatus other _ _ htasks hunits =>
      have hother : session ≠ other := fun hsame => hop (congrArg some hsame.symm)
      refine ⟨htasks ▸ .modify fun row hmember hkey => ?_, hunits ▸ .refl session state.units⟩
      exact .write hother (henabled row hmember hkey) _
  | @commit other htasks hunits =>
      have hother : session ≠ other := fun hsame => hop (congrArg some hsame.symm)
      exact ⟨htasks ▸ .map fun row _ => .commit hother, hunits ▸ .map fun row _ => .commit hother⟩
  | @rollback _ other hsession htasks hunits =>
      have hother : session ≠ other := fun hsame => hop (hsession.trans (congrArg some hsame.symm))
      exact ⟨htasks ▸ .map fun row _ => .rollback hother,
        hunits ▸ .map fun row _ => .rollback hother⟩

theorem Moves.keyed (hmoves : Moves state after op) (hkeyed : state.Keyed) : after.Keyed := by
  cases hmoves with
  | same htasks hunits => exact ⟨htasks ▸ hkeyed.tasks, hunits ▸ hkeyed.units⟩
  | put htasks hunits =>
      exact ⟨htasks ▸ Table.keyed_modify (Stored.put_key _) hkeyed.tasks, hunits ▸ hkeyed.units⟩
  | report htasks hunits =>
      exact ⟨htasks ▸ hkeyed.tasks, hunits ▸ Table.keyed_modify (Stored.write_key _ _) hkeyed.units⟩
  | count htasks hunits =>
      exact ⟨htasks ▸ Table.keyed_modify (Stored.write_key _ _) hkeyed.tasks, hunits ▸ hkeyed.units⟩
  | setStatus htasks hunits =>
      exact ⟨htasks ▸ Table.keyed_modify (Stored.write_key _ _) hkeyed.tasks, hunits ▸ hkeyed.units⟩
  | commit htasks hunits =>
      exact ⟨htasks ▸ Table.keyed_map (Stored.commit_key _) hkeyed.tasks,
        hunits ▸ Table.keyed_map (Stored.commit_key _) hkeyed.units⟩
  | rollback _ htasks hunits =>
      exact ⟨htasks ▸ Table.keyed_map (Stored.rollback_key _) hkeyed.tasks,
        hunits ▸ Table.keyed_map (Stored.rollback_key _) hkeyed.units⟩

/-! ## What is committed -/

/-- The statement commits a session, or writes outside of any. -/
def TaskOp.publishes : TaskOp → Bool
  | .commit _ => true
  | .updateTask _ _ _ => true
  | _ => false

/-- Only commits and writes outside of sessions show to the others. -/
theorem Moves.committed (hmoves : Moves state after op) (hop : op.publishes = false) :
    after.tasks.committed = state.tasks.committed ∧
      after.units.committed = state.units.committed := by
  cases hmoves with
  | same htasks hunits => exact ⟨by rw [htasks], by rw [hunits]⟩
  | put htasks hunits => cases hop
  | report htasks hunits =>
      rw [htasks, hunits]
      exact ⟨rfl, Table.committed_modify (Stored.write_key _ _) (Stored.write_committed _ _) state.units⟩
  | count htasks hunits =>
      rw [htasks, hunits]
      exact ⟨Table.committed_modify (Stored.write_key _ _) (Stored.write_committed _ _) state.tasks, rfl⟩
  | setStatus htasks hunits =>
      rw [htasks, hunits]
      exact ⟨Table.committed_modify (Stored.write_key _ _) (Stored.write_committed _ _) state.tasks, rfl⟩
  | commit htasks hunits => cases hop
  | rollback _ htasks hunits =>
      rw [htasks, hunits]
      exact ⟨Table.committed_map (Stored.rollback_key _) (Stored.rollback_committed _) state.tasks,
        Table.committed_map (Stored.rollback_key _) (Stored.rollback_committed _) state.units⟩

/-! ## What the calls perform -/

section

open Service

variable {session : ℕ} {α : Type}

/-- The method performs statements of the session only. -/
abbrev InSession (session : ℕ) (service : TaskService α) : Prop :=
  Performs (S := taskSignature) (fun op : TaskOp => op.session = some session) service

theorem statement_inSession {op : TaskOp} (hop : op.session = some session)
    {toAnswer : op.Res → Except DbError α} :
    InSession session (perform (S := taskSignature) op >>= fun answer => orThrow (toAnswer answer)) :=
  performs_bind (performs_perform hop) fun answer => performs_orThrow (toAnswer answer)

theorem getTaskDetailsInTransaction_inSession (taskId : String) :
    InSession session (getTaskDetailsInTransaction session taskId) := by
  refine performs_bind (statement_inSession (by rfl)) fun found => ?_
  cases found with
  | none => exact performs_throw _
  | some details => exact performs_pure details

theorem reportUnitBody_inSession (taskId unitId : String) (report : ReportTaskUnitInput) :
    InSession session (reportUnitBody session taskId unitId report) := by
  refine performs_bind (statement_inSession (by rfl)) fun found => ?_
  cases found with
  | none => exact performs_throw _
  | some unit =>
      dsimp only
      split
      · exact performs_bind (getTaskDetailsInTransaction_inSession taskId) fun task =>
          performs_pure _
      · refine performs_bind (statement_inSession (by rfl)) fun updated => ?_
        refine performs_bind (statement_inSession (by rfl)) fun task => ?_
        refine performs_bind (statement_inSession (by rfl)) fun _ => ?_
        refine performs_bind (statement_inSession (by rfl)) fun _ => ?_
        refine performs_bind (statement_inSession (by rfl)) fun _ => ?_
        exact performs_bind (getTaskDetailsInTransaction_inSession taskId) fun full =>
          performs_pure _

theorem reportUnit_inSession (taskId unitId : String) (report : ReportTaskUnitInput) :
    InSession session (reportUnit session taskId unitId report) := by
  refine performs_bind (performs_attempt (reportUnitBody_inSession taskId unitId report))
    fun outcome => ?_
  cases outcome with
  | ok value =>
      refine performs_bind (performs_perform (by rfl)) fun answer => ?_
      exact performs_bind (performs_orThrow answer) fun _ => performs_pure value
  | error error => exact performs_bind (performs_perform (by rfl)) fun _ => performs_throw error

end

end WizPay.Tasks
