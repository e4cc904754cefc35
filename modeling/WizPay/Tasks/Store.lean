import WizPay.Foundation.ReadCommitted
import WizPay.Payroll.Store

/-!
# Stored tasks

The tables of tasks, their units, logs and transactions, the queue of poll jobs, and the
statements the task services run on them. A report of a unit is a transaction of several
statements in a session of its own; every other statement stands alone. A statement that
would write a row held by another session waits, and is no step until it may proceed.
-/

namespace WizPay.Payroll.TaskStatus

def name : TaskStatus → String
  | CREATED => "created"
  | ASSIGNED => "assigned"
  | IN_PROGRESS => "in_progress"
  | REVIEW => "review"
  | APPROVED => "approved"
  | EXECUTED => "executed"
  | PARTIAL => "partial"
  | FAILED => "failed"

/-- `ALLOWED_TRANSITIONS`. -/
def transitions : TaskStatus → List TaskStatus
  | CREATED => [ASSIGNED, FAILED]
  | ASSIGNED => [IN_PROGRESS, FAILED]
  | IN_PROGRESS => [REVIEW, EXECUTED, PARTIAL, FAILED]
  | REVIEW => [APPROVED, FAILED]
  | APPROVED => [EXECUTED, FAILED]
  | EXECUTED => []
  | PARTIAL => []
  | FAILED => []

end WizPay.Payroll.TaskStatus

namespace WizPay.Tasks

open Foundation Backend
open Payroll (TaskStatus TaskUnitStatus ReportTaskUnitInput normalizeChainTxId recomputeTaskStatus)

/-! ## Rows -/

inductive TaskType where
  | PAYROLL | SWAP | BRIDGE | LIQUIDITY | FX
deriving DecidableEq, Repr

/-- A task, its identifier apart. -/
structure TaskRow where
  type : TaskType
  status : TaskStatus
  totalUnits : ℕ
  completedUnits : ℕ
  failedUnits : ℕ
  payload : Json
  result : Option Json

/-- A unit, its identifier apart. -/
structure TaskUnitRow where
  taskId : String
  index : ℕ
  status : TaskUnitStatus
  txHash : Option String
  error : Option String
deriving DecidableEq

inductive TaskLogLevel where
  | INFO | ERROR
deriving DecidableEq, Repr

structure TaskLog where
  taskId : String
  level : TaskLogLevel
  step : String
  status : String
  message : String
  context : Option Json

/-- A log entry and the session that has not committed it, if any. -/
structure TaskLogRow where
  log : TaskLog
  session : Option ℕ

inductive TxStatus where
  | pending | completed | failed
deriving DecidableEq, Repr

structure TaskTransaction where
  id : String
  taskId : String
  txId : String
  recipient : String
  amount : String
  currency : String
  batchIndex : ℕ
  status : TxStatus
  txHash : Option String
  errorReason : Option String
  pollAttempts : ℕ
deriving DecidableEq

/-- The fields of an update; an absent one is left as it is. -/
structure UpdateTransactionInput where
  status : TxStatus
  txHash : Option String := none
  errorReason : Option String := none
  pollAttempts : Option ℕ := none
deriving DecidableEq

def TaskTransaction.updated (update : UpdateTransactionInput) (row : TaskTransaction) :
    TaskTransaction :=
  { row with
    status := update.status
    txHash := update.txHash.or row.txHash
    errorReason := update.errorReason.or row.errorReason
    pollAttempts := update.pollAttempts.getD row.pollAttempts }

structure TxPollJobData where
  network : String
  taskId : String
  txId : String
  attempt : ℕ
deriving DecidableEq

/-- The part of a receipt that a poll reads. -/
structure RpcTransactionReceiptResult where
  transactionHash : String
  status : String
deriving DecidableEq

/-- What a unit is reported as. -/
def outcome (report : ReportTaskUnitInput) : TaskUnitStatus :=
  if report.succeeded then .SUCCESS else .FAILED

def TaskUnitRow.reported (report : ReportTaskUnitInput) (unit : TaskUnitRow) : TaskUnitRow :=
  { unit with
    status := outcome report
    txHash := (report.txHash.map normalizeChainTxId).getD unit.txHash
    error := report.error.getD unit.error }

/-- The increment of one counter. -/
def TaskRow.counted (succeeded : Bool) (task : TaskRow) : TaskRow :=
  { task with
    completedUnits := if succeeded then task.completedUnits + 1 else task.completedUnits
    failedUnits := if succeeded then task.failedUnits else task.failedUnits + 1 }

/-- `recomputeTaskStatus` of a task. -/
def TaskRow.recomputed (task : TaskRow) : TaskStatus :=
  recomputeTaskStatus task.totalUnits task.completedUnits task.failedUnits

/-- A task with its relations, as one session sees them. -/
structure TaskDetails where
  id : String
  task : TaskRow
  units : List (String × TaskUnitRow)
  logs : List TaskLog
  transactions : List TaskTransaction

/-! ## State and statements -/

structure TaskState where
  tasks : Table TaskRow
  units : Table TaskUnitRow
  logs : List TaskLogRow
  transactions : List TaskTransaction
  /-- The queued poll jobs. -/
  jobs : List TxPollJobData
  /-- The tasks handed to an agent so far. -/
  routed : List String

/-- Statements and calls of other services. A read of the task to be moved names the status
it is to be moved to; what it answers does not depend on it. -/
inductive TaskOp where
  | taskDetails (session : Option ℕ) (taskId : String)
  | findTask (taskId : String) (nextStatus : TaskStatus)
  | updateTask (taskId : String) (status : TaskStatus) (result : Option Json)
  | findUnit (session : ℕ) (taskId unitId : String)
  | updateUnit (session : ℕ) (unitId : String) (report : ReportTaskUnitInput)
  | findTaskOrThrow (session : ℕ) (taskId : String)
  | countUnit (session : ℕ) (taskId : String) (succeeded : Bool)
  | setStatus (session : ℕ) (taskId : String) (status : TaskStatus)
  | createLog (session : Option ℕ) (log : TaskLog)
  | commit (session : ℕ)
  | rollback (session : ℕ)
  | findLog (taskId step : String)
  | findTransaction (txId : String)
  | updateTransaction (id : String) (update : UpdateTransactionInput)
  | findTransactions (taskId : String)
  | getTransactionReceiptOnChain (txId : String)
  | enqueueTransactionPoll (job : TxPollJobData)
  | takePoll
  | routeToAgent (task : TaskDetails)

def TaskOp.Res : TaskOp → Type
  | .taskDetails _ _ => Except DbError (Option TaskDetails)
  | .findTask _ _ => Except DbError (Option TaskRow)
  | .updateTask _ _ _ => Except DbError Unit
  | .findUnit _ _ _ => Except DbError (Option TaskUnitRow)
  | .updateUnit _ _ _ => Except DbError TaskUnitRow
  | .findTaskOrThrow _ _ => Except DbError TaskRow
  | .countUnit _ _ _ => Except DbError Unit
  | .setStatus _ _ _ => Except DbError Unit
  | .createLog _ _ => Except DbError Unit
  | .commit _ => Except DbError Unit
  | .rollback _ => Unit
  | .findLog _ _ => Except DbError Bool
  | .findTransaction _ => Except DbError (Option TaskTransaction)
  | .updateTransaction _ _ => Except DbError Unit
  | .findTransactions _ => Except DbError (List TaskTransaction)
  | .getTransactionReceiptOnChain _ => Except ServiceError (Option RpcTransactionReceiptResult)
  | .enqueueTransactionPoll _ => Except ServiceError Unit
  | .takePoll => Option TxPollJobData
  | .routeToAgent _ => Except ServiceError Json

def taskSignature : Signature := ⟨TaskOp, TaskOp.Res⟩

/-- What the environment decides about one operation: an outage, and whether a write took
place all the same; what the node answers; what the agent returns; and which queued job a
worker gets, and whether the queue delivers it again. -/
structure TaskInput where
  outage : Option DbError
  applied : Bool
  receipt : Except ServiceError (Option RpcTransactionReceiptResult)
  enqueued : Except ServiceError Unit
  execution : Except ServiceError Json
  delivery : ℕ
  redelivered : Bool

namespace TaskState

variable (state : TaskState)

/-- The task with its relations: entries of other sessions show once committed. -/
def details (session : Option ℕ) (taskId : String) : Option TaskDetails :=
  (state.tasks.find taskId).map fun row => {
    id := taskId
    task := row.view session
    units := (state.units.map fun unit => (unit.key, unit.view session)).filter fun unit =>
      unit.2.taskId = taskId
    logs := (state.logs.filter fun row =>
      row.log.taskId = taskId && (row.session = none || row.session = session)).map TaskLogRow.log
    transactions := state.transactions.filter fun row => row.taskId = taskId }

def findUnit (session : ℕ) (taskId unitId : String) : Option TaskUnitRow :=
  ((state.units.find unitId).map fun row => row.view (some session)).filter fun unit =>
    unit.taskId = taskId

/-- An update by primary key, which fails when there is no row. -/
def written {α : Type} (answer : Option α) (after : TaskState) : Except DbError α × TaskState :=
  match answer with
  | some answer => (.ok answer, after)
  | none => (.error (.other "P2025"), state)

def updateTask (taskId : String) (status : TaskStatus) (result : Option Json) :
    Except DbError Unit × TaskState :=
  state.written ((state.tasks.find taskId).map fun _ => ()) {
    state with
    tasks := state.tasks.modify taskId fun row =>
      row.put fun task => { task with status, result := result.or task.result } }

def updateUnit (session : ℕ) (unitId : String) (report : ReportTaskUnitInput) :
    Except DbError TaskUnitRow × TaskState :=
  state.written ((state.units.find unitId).map fun row => (row.view (some session)).reported report) {
    state with
    units := state.units.modify unitId fun row => row.write session (TaskUnitRow.reported report) }

def writeTask (session : ℕ) (taskId : String) (f : TaskRow → TaskRow) :
    Except DbError Unit × TaskState :=
  state.written ((state.tasks.find taskId).map fun _ => ()) {
    state with tasks := state.tasks.modify taskId fun row => row.write session f }

/-- An uncommitted log entry of a session. -/
def logged (session : Option ℕ) (log : TaskLog) : TaskState :=
  { state with logs := state.logs ++ [⟨log, session⟩] }

def committed (session : ℕ) : TaskState :=
  { state with
    tasks := state.tasks.map (Stored.commit session)
    units := state.units.map (Stored.commit session)
    logs := state.logs.map fun row =>
      if row.session = some session then { row with session := none } else row }

def rolledBack (session : ℕ) : TaskState :=
  { state with
    tasks := state.tasks.map (Stored.rollback session)
    units := state.units.map (Stored.rollback session)
    logs := state.logs.filter fun row => row.session ≠ some session }

def updateTransaction (id : String) (update : UpdateTransactionInput) :
    Except DbError Unit × TaskState :=
  state.written ((state.transactions.find? fun row => row.id = id).map fun _ => ()) {
    state with
    transactions := state.transactions.map fun row =>
      if row.id = id then row.updated update else row }

/-- A statement through an outage, which hides the answer; a statement that stands alone may
have taken effect all the same. -/
def through {ε α : Type} (input : TaskInput) (toError : DbError → ε)
    (outcome : Except ε α × TaskState) : Except ε α × TaskState :=
  match input.outage with
  | none => outcome
  | some error => (.error (toError error), if input.applied then outcome.2 else state)

/-- A statement of a session through an outage: the transaction is lost with it. -/
def inSession {α : Type} (input : TaskInput) (outcome : Except DbError α × TaskState) :
    Except DbError α × TaskState :=
  match input.outage with
  | none => outcome
  | some error => (.error error, state)

end TaskState

open TaskState in
/-- Every statement answers and takes effect, unless an outage hides the answer. -/
def taskMachine : Machine taskSignature TaskInput TaskState where
  answer
    | .taskDetails session taskId, input, state =>
        state.inSession input (.ok (state.details session taskId), state)
    | .findTask taskId _, input, state =>
        state.inSession input (.ok ((state.tasks.find taskId).map (Stored.view none)), state)
    | .updateTask taskId status result, input, state =>
        state.through input id (state.updateTask taskId status result)
    | .findUnit session taskId unitId, input, state =>
        state.inSession input (.ok (state.findUnit session taskId unitId), state)
    | .updateUnit session unitId report, input, state =>
        state.inSession input (state.updateUnit session unitId report)
    | .findTaskOrThrow session taskId, input, state =>
        state.inSession input
          (state.written ((state.tasks.find taskId).map (Stored.view (some session))) state)
    | .countUnit session taskId succeeded, input, state =>
        state.inSession input (state.writeTask session taskId (TaskRow.counted succeeded))
    | .setStatus session taskId status, input, state =>
        state.inSession input
          (state.writeTask session taskId fun task => { task with status })
    | .createLog none log, input, state => state.through input id (.ok (), state.logged none log)
    | .createLog (some session) log, input, state =>
        state.inSession input (.ok (), state.logged (some session) log)
    | .commit session, input, state =>
        match input.outage with
        | none => (.ok (), state.committed session)
        | some error => (.error error,
            if input.applied then state.committed session else state.rolledBack session)
    | .rollback session, _, state => ((), state.rolledBack session)
    | .findLog taskId step, input, state =>
        state.inSession input (.ok (state.logs.any fun row =>
          row.log.taskId = taskId && row.log.step = step && row.session = none), state)
    | .findTransaction txId, input, state =>
        state.inSession input (.ok (state.transactions.find? fun row => row.txId = txId), state)
    | .updateTransaction id update, input, state =>
        state.through input (fun error => error) (state.updateTransaction id update)
    | .findTransactions taskId, input, state =>
        state.inSession input (.ok (state.transactions.filter fun row => row.taskId = taskId), state)
    | .getTransactionReceiptOnChain _, input, state => (input.receipt, state)
    | .enqueueTransactionPoll job, input, state =>
        (input.enqueued, match input.enqueued with
          | .ok _ => { state with jobs := state.jobs ++ [job] }
          | .error _ => if input.applied then { state with jobs := state.jobs ++ [job] } else state)
    | .takePoll, input, state =>
        (state.jobs[input.delivery]?, if input.redelivered then state
          else { state with jobs := state.jobs.eraseIdx input.delivery })
    | .routeToAgent task, input, state =>
        (input.execution, { state with routed := state.routed ++ [task.id] })

/-- A statement may proceed: no other session holds the row it writes. -/
def Enabled (op : TaskOp) (state : TaskState) : Prop :=
  match op with
  | .updateTask taskId _ _ => state.tasks.All taskId Stored.Free
  | .updateUnit session unitId _ => state.units.All unitId (Stored.Writable session)
  | .countUnit session taskId _ => state.tasks.All taskId (Stored.Writable session)
  | .setStatus session taskId _ => state.tasks.All taskId (Stored.Writable session)
  | _ => True

instance : (op : TaskOp) → (state : TaskState) → Decidable (Enabled op state)
  | .updateTask taskId _ _, state => inferInstanceAs (Decidable (state.tasks.All taskId _))
  | .updateUnit _ unitId _, state => inferInstanceAs (Decidable (state.units.All unitId _))
  | .countUnit _ taskId _, state => inferInstanceAs (Decidable (state.tasks.All taskId _))
  | .setStatus _ taskId _, state => inferInstanceAs (Decidable (state.tasks.All taskId _))
  | .taskDetails _ _, _ | .findTask _ _, _ | .findUnit _ _ _, _ | .findTaskOrThrow _ _, _
  | .createLog _ _, _ | .commit _, _ | .rollback _, _ | .findLog _ _, _ | .findTransaction _, _
  | .updateTransaction _ _, _ | .findTransactions _, _ | .getTransactionReceiptOnChain _, _
  | .enqueueTransactionPoll _, _ | .takePoll, _ | .routeToAgent _, _ => isTrue trivial

end WizPay.Tasks
