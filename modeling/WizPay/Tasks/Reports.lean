import WizPay.Backend.Windows
import WizPay.Tasks.Sessions

/-!
# What a report commits

A report writes its unit, counts it on the task and commits both together, or commits
nothing, whatever other calls do in between.
-/

namespace WizPay.Tasks

open Foundation Backend
open Payroll (TaskStatus TaskUnitStatus ReportTaskUnitInput)

/-! ## Statements that answer -/

namespace TaskState

variable {state : TaskState} {input : TaskInput} {α : Type} {value : α}

/-- A statement of a session that answers took effect. -/
theorem inSession_ok {outcome : Except DbError α × TaskState}
    (hanswer : (state.inSession input outcome).1 = .ok value) :
    outcome.1 = .ok value ∧ (state.inSession input outcome).2 = outcome.2 := by
  unfold inSession at hanswer ⊢
  split at hanswer
  · exact ⟨hanswer, rfl⟩
  · cases hanswer

theorem written_ok {answer : Option α} {after : TaskState}
    (hanswer : (state.written answer after).1 = .ok value) :
    answer = some value ∧ (state.written answer after).2 = after := by
  unfold written at hanswer ⊢
  split at hanswer
  · cases hanswer
    exact ⟨rfl, rfl⟩
  · cases hanswer

/-- The task of every unit, as committed. -/
def unitTasks (state : TaskState) : List (String × String) :=
  state.units.committed.map fun unit => (unit.1, unit.2.taskId)

end TaskState

/-! ## What a session has written -/

/-- A version of a unit is the report of the one it was written over. -/
structure Reports (taskId : String) (report : ReportTaskUnitInput) (old version : TaskUnitRow) :
    Prop where
  task : old.taskId = taskId
  version : version = old.reported report

/-- A version of a task counts one unit more than the one it was written over. -/
structure Counts (succeeded : Bool) (old version : TaskRow) : Prop where
  completed : version.completedUnits = (old.counted succeeded).completedUnits
  failed : version.failedUnits = (old.counted succeeded).failedUnits
  status : version.status = old.status ∨ version.status ∈ [.IN_PROGRESS, .REVIEW, .EXECUTED]

/-- A session that has written nothing, in tables with one row a key. -/
structure Untouched (session : ℕ) (state : TaskState) : Prop where
  keyed : state.Keyed
  tasks : state.tasks.HoldsNothing session
  units : state.units.HoldsNothing session

/-- The unit, if there is one, belongs to the task. -/
def InTask (taskId unitId : String) (state : TaskState) : Prop :=
  ∀ unit ∈ state.unitTasks, unit.1 = unitId → unit.2 = taskId

/-- A session that has written a report and not counted it yet. -/
structure Reported (session : ℕ) (taskId unitId : String) (report : ReportTaskUnitInput)
    (state : TaskState) : Prop where
  tasks : state.tasks.HoldsNothing session
  units : state.units.Holds session unitId (Reports taskId report)

/-- A session with a report and its count. -/
structure Counted (session : ℕ) (taskId unitId : String) (report : ReportTaskUnitInput)
    (state : TaskState) : Prop where
  tasks : state.tasks.Holds session taskId (Counts report.succeeded)
  units : state.units.Holds session unitId (Reports taskId report)

/-- What a session may commit: nothing, or one report with its count. -/
def Commits (session : ℕ) (state : TaskState) : Prop :=
  (state.tasks.HoldsNothing session ∧ state.units.HoldsNothing session) ∨
    ∃ taskId unitId report, Counted session taskId unitId report state

/-- What happens between two statements of a session. -/
structure Interferes (session : ℕ) (before after : TaskState) : Prop where
  keeps : before.Keeps session after
  keyed : before.Keyed → after.Keyed
  unitTasks : after.unitTasks = before.unitTasks

theorem interferes_isWindow (session : ℕ) :
    IsWindow (fun _ : TaskOp => Interferes session) where
  refl _ state := ⟨.refl session state, id, rfl⟩
  trans hfirst hsecond := ⟨hfirst.keeps.trans hsecond.keeps, fun hkeyed =>
    hsecond.keyed (hfirst.keyed hkeyed), hsecond.unitTasks.trans hfirst.unitTasks⟩

/-- What a statement is guaranteed to find. -/
def Guarantee : TaskOp → TaskInput → TaskState → Prop
  | .commit session, _, state => Commits session state
  | _, _, _ => True

section Stable

variable {session : ℕ} {taskId unitId : String} {report : ReportTaskUnitInput}
  {state later : TaskState}

theorem Untouched.stable (huntouched : Untouched session state)
    (hlater : Interferes session state later) : Untouched session later where
  keyed := hlater.keyed huntouched.keyed
  tasks := huntouched.tasks.keeps hlater.keeps.tasks
  units := huntouched.units.keeps hlater.keeps.units

theorem InTask.stable (htask : InTask taskId unitId state)
    (hlater : Interferes session state later) : InTask taskId unitId later := by
  unfold InTask
  rw [hlater.unitTasks]
  exact htask

theorem Reported.stable (hreported : Reported session taskId unitId report state)
    (hlater : Interferes session state later) : Reported session taskId unitId report later where
  tasks := hreported.tasks.keeps hlater.keeps.tasks
  units := hreported.units.keeps hlater.keeps.units

theorem Counted.stable (hcounted : Counted session taskId unitId report state)
    (hlater : Interferes session state later) : Counted session taskId unitId report later where
  tasks := hcounted.tasks.keeps hlater.keeps.tasks
  units := hcounted.units.keeps hlater.keeps.units

theorem Commits.stable (hcommits : Commits session state)
    (hlater : Interferes session state later) : Commits session later := by
  rcases hcommits with ⟨htasks, hunits⟩ | ⟨taskId, unitId, report, hcounted⟩
  · exact .inl ⟨htasks.keeps hlater.keeps.tasks, hunits.keeps hlater.keeps.units⟩
  · exact .inr ⟨taskId, unitId, report, hcounted.stable hlater⟩

end Stable

/-! ## The statements of a report -/

section Report

open Service

variable {session : ℕ} {taskId unitId : String} {report : ReportTaskUnitInput}
  {state : TaskState} {α : Type}

/-- A method of a session is guaranteed, and leaves a fact when it returns. -/
abbrev Guards (session : ℕ) (post : α → TaskState → Prop) (service : TaskService α)
    (state : TaskState) : Prop :=
  Service.Guarded taskMachine (fun _ => Interferes session) (fun _ _ _ => True) Guarantee post
    service state

/-- A statement whose answer says what it did. -/
theorem guards_statement {op : TaskOp} {toAnswer : op.Res → Except DbError α}
    {post : α → TaskState → Prop} (hguar : ∀ input later, Guarantee op input later)
    (hpost : ∀ later, Interferes session state later → ∀ input value,
      toAnswer (taskMachine.answer op input later).1 = .ok value →
        post value (taskMachine.answer op input later).2) :
    Guards session post
      (perform (S := taskSignature) op >>= fun answer => orThrow (toAnswer answer)) state :=
  guarded_perform_bind fun later hlater input _ =>
    ⟨hguar input later, guarded_orThrow (hpost later hlater input)⟩

theorem findUnit_guards (huntouched : Untouched session state) :
    Guards session (fun found later => Untouched session later ∧
        ∀ unit, found = some unit → InTask taskId unitId later)
      (findUnit session taskId unitId) state := by
  refine guards_statement (fun _ _ => trivial) fun later hlater input found hanswer => ?_
  have hstart := huntouched.stable hlater
  obtain ⟨hfound, hstate⟩ := TaskState.inSession_ok hanswer
  refine ⟨by simpa only [taskMachine, hstate] using hstart, ?_⟩
  intro unit hunit
  rw [hunit] at hfound
  simp only [taskMachine, hstate]
  -- the row that was found is the only one of its key
  obtain ⟨hsome, htask⟩ := Option.filter_eq_some_iff.mp (Except.ok.inj hfound)
  obtain ⟨row, hrow, hview⟩ := Option.map_eq_some_iff.mp hsome
  intro entry hentry hkey
  simp only [TaskState.unitTasks, Table.committed, List.map_map, List.mem_map,
    Function.comp_apply] at hentry
  obtain ⟨other, hother, rfl⟩ := hentry
  rw [Table.find_of_mem hstart.keyed.units hother hkey] at hrow
  cases hrow
  rw [Stored.view_of_own_none (hstart.units row hother)] at hview
  rw [hview]
  simpa using htask

theorem updateUnit_guards (huntouched : Untouched session state)
    (htask : InTask taskId unitId state) :
    Guards session (fun _ => Reported session taskId unitId report)
      (updateUnit session unitId report) state := by
  refine guards_statement (fun _ _ => trivial) fun later hlater input unit hanswer => ?_
  have hstart := huntouched.stable hlater
  obtain ⟨hwritten, hstate⟩ := TaskState.inSession_ok hanswer
  obtain ⟨hfound, hafter⟩ := TaskState.written_ok hwritten
  have hupdated : (later.updateUnit session unitId report).2 = _ := hafter
  simp only [taskMachine, hstate, hupdated]
  obtain ⟨row, hrow, -⟩ := Option.map_eq_some_iff.mp hfound
  obtain ⟨hmember, hkey⟩ := Table.mem_of_find hrow
  refine ⟨hstart.tasks, hstart.units.write ⟨row, hmember, hkey⟩ fun other hother hsame => ?_⟩
  refine ⟨htask.stable hlater (other.key, other.committed.taskId) ?_ hsame, rfl⟩
  exact List.mem_map.mpr ⟨_, List.mem_map.mpr ⟨other, hother, rfl⟩, rfl⟩

theorem findTaskOrThrow_guards (hreported : Reported session taskId unitId report state) :
    Guards session (fun _ => Reported session taskId unitId report)
      (findTaskOrThrow session taskId) state := by
  refine guards_statement (fun _ _ => trivial) fun later hlater input task hanswer => ?_
  obtain ⟨hwritten, hstate⟩ := TaskState.inSession_ok hanswer
  have hsame := (TaskState.written_ok hwritten).2
  simp only [taskMachine, hstate, hsame]
  exact hreported.stable hlater

theorem countUnit_guards (hreported : Reported session taskId unitId report state) :
    Guards session (fun _ => Counted session taskId unitId report)
      (countUnit session taskId report.succeeded) state := by
  refine guards_statement (fun _ _ => trivial) fun later hlater input _ hanswer => ?_
  have hstart := hreported.stable hlater
  obtain ⟨hwritten, hstate⟩ := TaskState.inSession_ok hanswer
  obtain ⟨hfound, hafter⟩ := TaskState.written_ok hwritten
  have hupdated : (later.writeTask session taskId (TaskRow.counted report.succeeded)).2 = _ := hafter
  simp only [taskMachine, hstate, hupdated]
  obtain ⟨row, hrow, -⟩ := Option.map_eq_some_iff.mp hfound
  exact ⟨hstart.tasks.write ⟨row, Table.mem_of_find hrow⟩ fun _ _ _ => ⟨rfl, rfl, .inl rfl⟩,
    hstart.units⟩

theorem recomputed_mem (task : TaskRow) : task.recomputed ∈ [.IN_PROGRESS, .REVIEW, .EXECUTED] := by
  unfold TaskRow.recomputed Payroll.recomputeTaskStatus
  split
  · decide
  · split <;> decide

theorem setStatus_guards (hcounted : Counted session taskId unitId report state)
    {status : TaskStatus} (hstatus : status ∈ [.IN_PROGRESS, .REVIEW, .EXECUTED]) :
    Guards session (fun _ => Counted session taskId unitId report)
      (setStatus session taskId status) state := by
  refine guards_statement (fun _ _ => trivial) fun later hlater input _ hanswer => ?_
  have hstart := hcounted.stable hlater
  obtain ⟨hwritten, hstate⟩ := TaskState.inSession_ok hanswer
  have hafter := (TaskState.written_ok hwritten).2
  have hupdated : (later.writeTask session taskId fun task => { task with status }).2 = _ := hafter
  simp only [taskMachine, hstate, hupdated]
  refine ⟨hstart.tasks.write fun _ _ hcounts => ?_, hstart.units⟩
  exact ⟨hcounts.completed, hcounts.failed, .inr hstatus⟩

theorem createLog_guards (hcounted : Counted session taskId unitId report state) (log : TaskLog) :
    Guards session (fun _ => Counted session taskId unitId report)
      (createLog (some session) log) state := by
  refine guards_statement (fun _ _ => trivial) fun later hlater input _ hanswer => ?_
  have hstate := (TaskState.inSession_ok hanswer).2
  simp only [taskMachine, hstate]
  have hstart := hcounted.stable hlater
  exact ⟨hstart.tasks, hstart.units⟩

/-- Reading the task again keeps what a session may commit. -/
theorem getTaskDetails_guards (hcommits : Commits session state) :
    Guards session (fun _ => Commits session)
      (getTaskDetailsInTransaction session taskId) state := by
  have hread : Guards session (fun _ : Option TaskDetails => Commits session)
      (perform (S := taskSignature) (.taskDetails (some session) taskId) >>= fun answer =>
        orThrow answer) state := by
    refine guards_statement (fun _ _ => trivial) fun later hlater input _ hanswer => ?_
    have hstate := (TaskState.inSession_ok hanswer).2
    simp only [taskMachine, hstate]
    exact hcommits.stable hlater
  refine guarded_bind hread fun found later hlater => ?_
  cases found with
  | none => exact guarded_throw _
  | some details => exact guarded_pure hlater

theorem reportUnitBody_guards (huntouched : Untouched session state) :
    Guards session (fun _ => Commits session)
      (reportUnitBody session taskId unitId report) state := by
  refine guarded_bind (findUnit_guards huntouched) fun found read hread => ?_
  cases found with
  | none => exact guarded_throw _
  | some unit =>
      dsimp only
      split
      · have hnothing : Commits session read := .inl ⟨hread.1.tasks, hread.1.units⟩
        exact guarded_bind (getTaskDetails_guards hnothing) fun _ _ hcommits =>
          guarded_pure hcommits
      · refine guarded_bind (updateUnit_guards hread.1 (hread.2 unit rfl)) fun _ _ hreported => ?_
        refine guarded_bind (findTaskOrThrow_guards hreported) fun _ _ hfound => ?_
        refine guarded_bind (countUnit_guards hfound) fun _ _ hcounted => ?_
        refine guarded_bind (setStatus_guards hcounted (recomputed_mem _)) fun _ _ hset => ?_
        refine guarded_bind (createLog_guards hset _) fun _ _ hlogged => ?_
        have hcommits : Commits session _ := .inr ⟨taskId, unitId, report, hlogged⟩
        exact guarded_bind (getTaskDetails_guards hcommits) fun _ _ hlast => guarded_pure hlast

theorem reportUnit_guards (huntouched : Untouched session state) :
    Guards session (fun _ _ => True) (reportUnit session taskId unitId report) state := by
  refine guarded_attempt_bind (reportUnitBody_guards huntouched) (fun value later hcommits => ?_)
    fun error later => ?_
  · refine guarded_perform_bind fun last hlast input _ => ⟨hcommits.stable hlast, ?_⟩
    have hcommitted : ∀ answer : Except DbError Unit, Guards session (fun _ _ => True)
        (orThrow answer) (taskMachine.answer (.commit session) input last).2 :=
      fun answer => guarded_orThrow fun _ _ => trivial
    exact guarded_bind (hcommitted _) fun _ _ _ => guarded_pure trivial
  · exact guarded_perform_bind fun _ _ _ _ => ⟨trivial, guarded_throw error⟩

end Report

/-! ## The calls outside of sessions -/

/-- The task that a statement hands to an agent. -/
def TaskOp.routes : TaskOp → Option String
  | .routeToAgent task => some task.id
  | _ => none

/-- The call reports a unit, in a session of its own. -/
def TaskCall.reports : TaskCall → Bool
  | .reportUnit _ _ _ => true
  | _ => false

/-- A property of methods that the moves of tasks and the other statements outside of sessions
have, and that sequencing keeps. -/
structure Composes (property : ∀ α : Type, TaskService α → Prop) : Prop where
  pure : ∀ {α : Type} (value : α), property α (pure value)
  throw : ∀ {α : Type} (error : ServiceError), property α (throw error)
  bind : ∀ {α β : Type} {service : TaskService α} {rest : α → TaskService β},
    property α service → (∀ value, property β (rest value)) → property β (service >>= rest)
  attempt : ∀ {α : Type} {service : TaskService α}, property α service →
    property (Except ServiceError α) service.attempt
  perform : ∀ op : TaskOp, op.session = none → op.publishes = false → op.routes = none →
    property op.Res (Service.perform (S := taskSignature) op)
  move : ∀ {taskId : String} {nextStatus : TaskStatus} {result : Option Json}
    {log : TaskStatus → TaskService Unit}, (∀ status, property Unit (log status)) →
    property TaskDetails (moveTask taskId nextStatus result log)

namespace Composes

variable {property : ∀ α : Type, TaskService α → Prop} (hproperty : Composes property)
  {α : Type} {runtime : Runtime} {routing : PaymentRouting}

include hproperty

theorem ofExcept (outcome : Except ServiceError α) : property α (Service.ofExcept outcome) := by
  cases outcome with
  | ok value => exact hproperty.pure value
  | error error => exact hproperty.throw error

theorem throwIf {check : Prop} [Decidable check] (error : ServiceError) :
    property Unit (Service.throwIf check error) := by
  unfold Service.throwIf
  split
  · exact hproperty.throw error
  · exact hproperty.pure ()

theorem discard {service : TaskService α} (hservice : property α service) :
    property Unit (Functor.discard service) := by
  rw [Service.discard_eq]
  exact hproperty.bind hservice fun _ => hproperty.pure ()

theorem statement {op : TaskOp} (hsession : op.session = none) (hop : op.publishes = false)
    (hroutes : op.routes = none) {toAnswer : op.Res → Except DbError α} :
    property α (Service.perform (S := taskSignature) op >>= fun answer =>
      Service.orThrow (toAnswer answer)) := by
  refine hproperty.bind (hproperty.perform op hsession hop hroutes) fun answer => ?_
  cases toAnswer answer with
  | ok value => exact hproperty.pure value
  | error error => exact hproperty.throw (.database error)

theorem getTaskById (taskId : String) : property TaskDetails (Tasks.getTaskById taskId) := by
  refine hproperty.bind (hproperty.statement (by rfl) (by rfl) (by rfl)) fun found => ?_
  cases found with
  | none => exact hproperty.throw _
  | some details => exact hproperty.pure details

theorem logStep (taskId step status message : String) :
    property Unit (Tasks.logStep taskId step status message) :=
  hproperty.statement (by rfl) (by rfl) (by rfl)

theorem updateStatus (taskId : String) (nextStatus : TaskStatus) (options : UpdateStatusOptions) :
    property TaskDetails (Tasks.updateStatus taskId nextStatus options) :=
  hproperty.move fun _ => hproperty.logStep ..

theorem transitionWithAudit (taskId : String) (nextStatus : TaskStatus) (stepId : String)
    (result : Option Json) (context : List (String × Json)) :
    property TaskDetails (Tasks.transitionWithAudit taskId nextStatus stepId result context) :=
  hproperty.move fun _ => hproperty.statement (by rfl) (by rfl) (by rfl)

/-- What follows the call of the agent. -/
theorem runAgent (taskId : String) (task : TaskDetails)
    (hroute : property Json (routeToAgent task)) :
    property Json (Tasks.runAgent taskId task) := by
  refine hproperty.bind hroute fun result => ?_
  split
  · exact hproperty.bind (hproperty.logStep ..) fun _ => hproperty.pure result
  · refine hproperty.bind (hproperty.discard ?_) fun _ => hproperty.pure result
    exact hproperty.updateStatus taskId .EXECUTED _

theorem markFailed (taskId : String) (error : ServiceError) :
    property Unit (Tasks.markFailed taskId error) := by
  refine hproperty.bind (hproperty.attempt (hproperty.updateStatus taskId .FAILED _))
    fun outcome => ?_
  cases outcome with
  | ok details => exact hproperty.pure ()
  | error statusError => exact hproperty.logStep ..

theorem executeTask (hroute : ∀ task, property Json (routeToAgent task)) (taskId : String) :
    property (Option Json) (Tasks.executeTask runtime routing taskId) := by
  refine hproperty.bind (hproperty.getTaskById taskId) fun task => ?_
  refine hproperty.bind (hproperty.ofExcept _) fun _ => ?_
  split
  · exact hproperty.pure none
  · refine hproperty.bind (hproperty.discard (hproperty.updateStatus taskId .IN_PROGRESS _))
      fun _ => ?_
    refine hproperty.bind (hproperty.attempt (hproperty.runAgent taskId task (hroute task)))
      fun outcome => ?_
    cases outcome with
    | ok result => exact hproperty.pure _
    | error error =>
        exact hproperty.bind (hproperty.markFailed taskId error) fun _ => hproperty.throw error

theorem checkAndFinalizeTask (taskId : String) :
    property Unit (Tasks.checkAndFinalizeTask taskId) := by
  refine hproperty.bind (hproperty.statement (by rfl) (by rfl) (by rfl)) fun submitted => ?_
  split
  · exact hproperty.pure ()
  · have hread : property TransactionAggregation (getTransactionAggregation taskId) := by
      unfold getTransactionAggregation
      rw [map_eq_pure_bind]
      exact hproperty.bind (hproperty.statement (by rfl) (by rfl) (by rfl)) fun rows =>
        hproperty.pure _
    refine hproperty.bind hread fun counts => ?_
    split
    · exact hproperty.pure ()
    · exact hproperty.discard (hproperty.updateStatus taskId _ _)

theorem updateTransaction (txId : String) (update : UpdateTransactionInput) :
    property Unit (Tasks.updateTransaction txId update) := by
  refine hproperty.bind (hproperty.statement (by rfl) (by rfl) (by rfl)) fun found => ?_
  cases found with
  | none => exact hproperty.throw _
  | some row => exact hproperty.statement (by rfl) (by rfl) (by rfl)

theorem settleTransaction (job : TxPollJobData) (update : UpdateTransactionInput)
    (step message : String) : property Unit (Tasks.settleTransaction job update step message) := by
  refine hproperty.bind (hproperty.updateTransaction job.txId update) fun _ => ?_
  refine hproperty.bind (hproperty.logStep ..) fun _ => ?_
  exact hproperty.checkAndFinalizeTask job.taskId

theorem enqueueTransactionPoll (job : TxPollJobData) :
    property Unit (Tasks.enqueueTransactionPoll routing job) := by
  refine hproperty.bind (hproperty.throwIf _) fun _ => ?_
  exact hproperty.bind (hproperty.perform (.enqueueTransactionPoll job) rfl rfl rfl) fun _ =>
    hproperty.ofExcept _

theorem poll (job : TxPollJobData) : property Unit (Tasks.poll routing job) := by
  unfold Tasks.poll
  split
  · exact hproperty.settleTransaction job _ _ _
  · split
    · exact hproperty.settleTransaction job _ _ _
    · refine hproperty.bind
        (hproperty.perform (.getTransactionReceiptOnChain job.txId) rfl rfl rfl) fun receipt => ?_
      cases receipt with
      | error error =>
          exact hproperty.bind (hproperty.enqueueTransactionPoll _) fun _ =>
            hproperty.updateTransaction _ _
      | ok found =>
          cases found with
          | none =>
              exact hproperty.bind (hproperty.updateTransaction _ _) fun _ =>
                hproperty.enqueueTransactionPoll _
          | some receipt =>
              unfold settleReceipt
              dsimp only
              split <;> exact hproperty.settleTransaction job _ _ _

theorem pollWorker : property Unit (Tasks.pollWorker routing) := by
  refine hproperty.bind (hproperty.perform .takePoll rfl rfl rfl) fun taken => ?_
  cases taken with
  | none => exact hproperty.pure ()
  | some job =>
      refine hproperty.bind (hproperty.throwIf _) fun _ => ?_
      exact hproperty.discard (hproperty.attempt (hproperty.poll job))

/-- The property holds of every call but a report, once it holds of an execution. -/
theorem program (hexecute : ∀ taskId, property (Option Json) (Tasks.executeTask runtime routing taskId))
    {session : ℕ} {call : TaskCall} (hcall : call.reports = false) :
    property Unit (call.program runtime routing session) := by
  cases call with
  | reportUnit taskId unitId report => cases hcall
  | updateStatus taskId nextStatus options =>
      exact hproperty.discard (hproperty.updateStatus taskId nextStatus options)
  | transitionWithAudit taskId nextStatus stepId result context =>
      exact hproperty.discard (hproperty.transitionWithAudit taskId nextStatus stepId result context)
  | executeTask taskId => exact hproperty.discard (hexecute taskId)
  | poll job => exact hproperty.poll job
  | pollWorker => exact hproperty.pollWorker

end Composes

/-- The method performs no statement of a session. -/
abbrev Sessionless {α : Type} (service : TaskService α) : Prop :=
  Service.Performs (S := taskSignature) (fun op : TaskOp => op.session = none) service

section

open Service

variable {α : Type} {runtime : Runtime} {routing : PaymentRouting}

theorem statement_sessionless {op : TaskOp} (hop : op.session = none)
    {toAnswer : op.Res → Except DbError α} :
    Sessionless (perform (S := taskSignature) op >>= fun answer => orThrow (toAnswer answer)) :=
  performs_bind (performs_perform hop) fun answer => performs_orThrow (toAnswer answer)

theorem sessionless_composes : Composes fun _ service => Sessionless service where
  pure := performs_pure
  throw := performs_throw
  bind := performs_bind
  attempt := performs_attempt
  perform _ hsession _ _ := performs_perform hsession
  move {taskId nextStatus result log} hlog := by
    have hread : Sessionless (getTaskById taskId) := by
      refine performs_bind (statement_sessionless (by rfl)) fun found => ?_
      cases found with
      | none => exact performs_throw _
      | some details => exact performs_pure details
    refine performs_bind (statement_sessionless (by rfl)) fun found => ?_
    cases found with
    | none => exact performs_throw _
    | some task =>
        dsimp only
        split
        · exact hread
        · refine performs_bind (performs_ofExcept _) fun _ => ?_
          refine performs_bind (statement_sessionless (by rfl)) fun _ => ?_
          exact performs_bind (hlog task.status) fun _ => hread

theorem program_sessionless {session : ℕ} {call : TaskCall} (hcall : call.reports = false) :
    Sessionless (call.program runtime routing session) := by
  refine sessionless_composes.program (fun taskId => ?_) hcall
  refine sessionless_composes.executeTask (fun task => ?_) taskId
  exact performs_bind (performs_perform (by rfl)) fun _ => performs_ofExcept _

end

/-! ## Calls in sessions of their own -/

section Calls

open Service

variable {session : ℕ} {runtime : Runtime} {routing : PaymentRouting} {state : TaskState}

/-- A call performs statements of its own session, or of none. -/
theorem program_owned (call : TaskCall) :
    (call.program runtime routing session).run.Performs (TaskOp.OwnedBy session) := by
  cases hcall : call.reports with
  | false =>
      refine Program.Performs.mono (fun op hop other hother => ?_) (program_sessionless hcall)
      rw [hop] at hother
      cases hother
  | true =>
      cases call with
      | reportUnit taskId unitId report =>
          refine Program.Performs.mono (fun op hop other hother => ?_)
            (performs_discard (reportUnit_inSession taskId unitId report))
          rw [hop] at hother
          exact (Option.some.inj hother).symm
      | _ => cases hcall

/-- A call is guaranteed from a session that has written nothing. -/
theorem program_guards (call : TaskCall) (huntouched : Untouched session state) :
    (call.program runtime routing session).run.Guarded taskMachine (fun _ => Interferes session)
      (fun _ _ _ => True) Guarantee (fun _ _ => True) state := by
  have hfree : ∀ op : TaskOp, op.session = none → ∀ input later, Guarantee op input later := by
    intro op hop input later
    cases op with
    | commit session => cases hop
    | _ => trivial
  cases hcall : call.reports with
  | false =>
      exact Program.Performs.guarded (fun _ _ _ _ _ _ => trivial)
        (fun op input later hop _ => ⟨hfree op hop input later, trivial⟩)
        (program_sessionless hcall) trivial
  | true =>
      cases call with
      | reportUnit taskId unitId report =>
          have hreport : Guards session (fun _ _ => True)
              (discard (Tasks.reportUnit session taskId unitId report)) state :=
            guarded_discard (reportUnit_guards huntouched)
          exact Program.Guarded.mono (fun _ _ _ => trivial) hreport
      | _ => cases hcall

end Calls

end WizPay.Tasks
