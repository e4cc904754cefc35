import WizPay.Tasks.Store

/-!
# The task services

Reporting a unit is one transaction of several statements. Moving a task reads its status,
checks the transition in memory and writes without a condition. A worker executes a task it
finds assigned; a poll reads a receipt, writes what became of the transaction, and tries to
finalize the task.
-/

namespace WizPay.Tasks

open Foundation Backend
open Payroll (TaskStatus TaskUnitStatus ReportTaskUnitInput normalizeChainTxId)

abbrev TaskService (α : Type) := Service taskSignature α

/-! ## Statements -/

def notFound (message : String) : ServiceError := .notFound "Not Found" message

def findTask (taskId : String) (nextStatus : TaskStatus) : TaskService (Option TaskRow) := do
  Service.orThrow (← Service.perform (S := taskSignature) (.findTask taskId nextStatus))

def updateTask (taskId : String) (status : TaskStatus) (result : Option Json) :
    TaskService Unit := do
  Service.orThrow (← Service.perform (S := taskSignature) (.updateTask taskId status result))

def createLog (session : Option ℕ) (log : TaskLog) : TaskService Unit := do
  Service.orThrow (← Service.perform (S := taskSignature) (.createLog session log))

/-- `logStep` with the default options. -/
def logStep (taskId step status message : String) : TaskService Unit :=
  createLog none { taskId, level := .INFO, step, status, message, context := none }

def hasLogStep (taskId step : String) : TaskService Bool := do
  Service.orThrow (← Service.perform (S := taskSignature) (.findLog taskId step))

def getTaskById (taskId : String) : TaskService TaskDetails := do
  match ← (do Service.orThrow (← Service.perform (S := taskSignature)
      (.taskDetails none taskId))) with
  | none => throw (notFound ("Task " ++ taskId ++ " not found"))
  | some details => return details

/-! ## Reporting a unit -/

def findUnit (session : ℕ) (taskId unitId : String) : TaskService (Option TaskUnitRow) := do
  Service.orThrow (← Service.perform (S := taskSignature) (.findUnit session taskId unitId))

def updateUnit (session : ℕ) (unitId : String) (report : ReportTaskUnitInput) :
    TaskService TaskUnitRow := do
  Service.orThrow (← Service.perform (S := taskSignature) (.updateUnit session unitId report))

def findTaskOrThrow (session : ℕ) (taskId : String) : TaskService TaskRow := do
  Service.orThrow (← Service.perform (S := taskSignature) (.findTaskOrThrow session taskId))

def countUnit (session : ℕ) (taskId : String) (succeeded : Bool) : TaskService Unit := do
  Service.orThrow (← Service.perform (S := taskSignature) (.countUnit session taskId succeeded))

def setStatus (session : ℕ) (taskId : String) (status : TaskStatus) : TaskService Unit := do
  Service.orThrow (← Service.perform (S := taskSignature) (.setStatus session taskId status))

def getTaskDetailsInTransaction (session : ℕ) (taskId : String) : TaskService TaskDetails := do
  match ← (do Service.orThrow (← Service.perform (S := taskSignature)
      (.taskDetails (some session) taskId))) with
  | none => throw (.database (.other "P2025"))
  | some details => return details

/-- `prisma.$transaction`: the body is committed, or rolled back when it throws. -/
def inTransaction {α : Type} (session : ℕ) (body : TaskService α) : TaskService α := do
  match ← body.attempt with
  | .ok value =>
      Service.orThrow (← Service.perform (S := taskSignature) (.commit session))
      return value
  | .error error =>
      Service.perform (S := taskSignature) (.rollback session)
      throw error

structure ReportTaskUnitResult where
  task : TaskDetails
  unit : TaskUnitRow
  nextUnit : Option (String × TaskUnitRow)

def findNextPendingUnit (task : TaskDetails) : Option (String × TaskUnitRow) :=
  (task.units.mergeSort fun first second => first.2.index ≤ second.2.index).find? fun unit =>
    unit.2.status = .PENDING

def reportLog (taskId unitId : String) (report : ReportTaskUnitInput) (unit : TaskUnitRow)
    (nextStatus : TaskStatus) : TaskLog where
  taskId := taskId
  level := if report.succeeded then .INFO else .ERROR
  step := "unit.reported"
  status := nextStatus.name
  message := "Unit " ++ toString (unit.index + 1) ++
    if report.succeeded then " reported success" else " reported failure"
  context := some (.object [
    ("error", .ofOption report.error.join),
    ("txHash", .ofOption (report.txHash.bind normalizeChainTxId)),
    ("unitId", .string unitId),
    ("unitIndex", .number (toString unit.index)),
    ("unitStatus", .string (if report.succeeded then "SUCCESS" else "FAILED"))])

/-- The body of the transaction. The status is computed from the counters as they were read
before the increment. -/
def reportUnitBody (session : ℕ) (taskId unitId : String) (report : ReportTaskUnitInput) :
    TaskService ReportTaskUnitResult := do
  match ← findUnit session taskId unitId with
  | none => throw (notFound ("Task unit " ++ unitId ++ " for task " ++ taskId ++ " not found"))
  | some unit =>
      if unit.status ≠ .PENDING then
        let task ← getTaskDetailsInTransaction session taskId
        return ⟨task, unit, findNextPendingUnit task⟩
      else
        let updatedUnit ← updateUnit session unitId report
        let task ← findTaskOrThrow session taskId
        countUnit session taskId report.succeeded
        let nextStatus := (task.counted report.succeeded).recomputed
        setStatus session taskId nextStatus
        createLog (some session) (reportLog taskId unitId report updatedUnit nextStatus)
        let fullTask ← getTaskDetailsInTransaction session taskId
        return ⟨fullTask, updatedUnit, findNextPendingUnit fullTask⟩

def reportUnit (session : ℕ) (taskId unitId : String) (report : ReportTaskUnitInput) :
    TaskService ReportTaskUnitResult :=
  inTransaction session (reportUnitBody session taskId unitId report)

/-! ## Moving a task -/

def ensureTransition (currentStatus nextStatus : TaskStatus) : Except ServiceError Unit :=
  if nextStatus ∈ currentStatus.transitions then return ()
  else throw (.badRequest "Bad Request" ("Invalid task status transition from " ++
    currentStatus.name ++ " to " ++ nextStatus.name))

/-- The read, the check and the write that `updateStatus` and `transitionWithAudit` share;
they differ in the entry they log. -/
def moveTask (taskId : String) (nextStatus : TaskStatus) (result : Option Json)
    (log : TaskStatus → TaskService Unit) : TaskService TaskDetails := do
  match ← findTask taskId nextStatus with
  | none => throw (notFound ("Task " ++ taskId ++ " not found"))
  | some task =>
      if task.status = nextStatus then getTaskById taskId
      else
        Service.ofExcept (ensureTransition task.status nextStatus)
        updateTask taskId nextStatus result
        log task.status
        getTaskById taskId

structure UpdateStatusOptions where
  step : Option String := none
  message : Option String := none
  result : Option Json := none

def updateStatus (taskId : String) (nextStatus : TaskStatus) (options : UpdateStatusOptions) :
    TaskService TaskDetails :=
  moveTask taskId nextStatus options.result fun _ =>
    logStep taskId (options.step.getD ("task." ++ nextStatus.name)) nextStatus.name
      (options.message.getD ("Task moved to " ++ nextStatus.name))

/-- The entry of `appendTransitionLog`, without its time. -/
def transitionLog (taskId : String) (priorStatus newStatus : TaskStatus) (stepId : String)
    (contextData : List (String × Json)) : TaskLog where
  taskId := taskId
  level := .INFO
  step := stepId
  status := newStatus.name
  message := "State transition: " ++ priorStatus.name ++ " → " ++ newStatus.name
  context := some (.object ([
    ("priorStatus", .string priorStatus.name), ("newStatus", .string newStatus.name),
    ("stepId", .string stepId)] ++ contextData))

def transitionWithAudit (taskId : String) (nextStatus : TaskStatus) (stepId : String)
    (result : Option Json) (context : List (String × Json)) : TaskService TaskDetails :=
  moveTask taskId nextStatus result fun currentStatus =>
    createLog none (transitionLog taskId currentStatus nextStatus stepId context)

/-! ## Executing a task -/

/-- `error.message`. -/
def errorMessage : ServiceError → String
  | .conflict _ message | .notFound _ message | .gone _ message | .forbidden _ message
  | .unauthorized _ message | .badRequest _ message | .unprocessable _ message
  | .unavailable _ message | .pending _ message | .error message => message
  | .invalid _ _ _ => "Bad Request Exception"
  | .database .p2002 => "P2002"
  | .database .p2034 => "P2034"
  | .database (.other message) => message

variable (runtime : Runtime) (routing : PaymentRouting)

def assertTaskCapability (type : TaskType) (payload : Json) : Except ServiceError Unit :=
  match type with
  | .PAYROLL => assertPayroll runtime routing payload
  | .SWAP => assertCapability routing .swap
  | .BRIDGE => assertCapability routing .bridge
  | .FX =>
      throw (.unavailable "FX_TASK_TYPE_RETIRED" ("FX tasks are retired on Arc Mainnet. Convert " ++
        "through the external-wallet Uniswap V4 flow."))
  | .LIQUIDITY => assertCapability routing .liquidity

/-- The call of the execution router, and through it of an agent. -/
def routeToAgent (task : TaskDetails) : TaskService Json := do
  Service.ofExcept (← Service.perform (S := taskSignature) (.routeToAgent task))

/-- The `try` block of `executeTask`. -/
def runAgent (taskId : String) (task : TaskDetails) : TaskService Json := do
  let result ← routeToAgent task
  if task.task.type = .PAYROLL then
    logStep taskId "task.submissions_complete" TaskStatus.IN_PROGRESS.name
      "Agent submitted all transfers. Awaiting confirmations via tx_poll queue."
  else
    discard <| updateStatus taskId .EXECUTED {
      step := some "task.executed", message := some "Task execution completed"
      result := some result }
  return result

/-- The `catch` block of `executeTask`. -/
def markFailed (taskId : String) (error : ServiceError) : TaskService Unit := do
  match ← (updateStatus taskId .FAILED {
      step := some "task.failed", message := some (errorMessage error) }).attempt with
  | .ok _ => return ()
  | .error statusError =>
      logStep taskId "task.failed.log" TaskStatus.FAILED.name (errorMessage statusError)

def executeTask (taskId : String) : TaskService (Option Json) := do
  let task ← getTaskById taskId
  Service.ofExcept (assertTaskCapability runtime routing task.task.type task.task.payload)
  if task.task.status ≠ .ASSIGNED then return none
  discard <| updateStatus taskId .IN_PROGRESS {
    step := some "task.in_progress", message := some "Task picked up for execution" }
  match ← (runAgent taskId task).attempt with
  | .ok result => return some result
  | .error error =>
      markFailed taskId error
      throw error

/-! ## Polling a transaction -/

def updateTransaction (txId : String) (update : UpdateTransactionInput) : TaskService Unit := do
  match ← (do Service.orThrow (← Service.perform (S := taskSignature)
      (.findTransaction txId))) with
  | none => throw (notFound ("Transaction " ++ txId ++ " not found"))
  | some existing =>
      Service.orThrow (← Service.perform (S := taskSignature)
        (.updateTransaction existing.id update))

structure TransactionAggregation where
  total : ℕ
  completed : ℕ
  failed : ℕ
  pending : ℕ
  allTerminal : Bool
  txHashes : List String

def aggregation (rows : List TaskTransaction) : TransactionAggregation :=
  let total := rows.length
  let completed := rows.countP fun row => row.status = .completed
  let failed := rows.countP fun row => row.status = .failed
  let pending := total - completed - failed
  { total, completed, failed, pending
    allTerminal := pending = 0 && 0 < total
    txHashes := rows.filterMap TaskTransaction.txHash }

def getTransactionAggregation (taskId : String) : TaskService TransactionAggregation := do
  aggregation <$> (do Service.orThrow (← Service.perform (S := taskSignature)
    (.findTransactions taskId)))

def enqueueTransactionPoll (job : TxPollJobData) : TaskService Unit := do
  Service.throwIf (job.network ≠ routing.network)
    (.error "Queue job network does not match the selected runtime network.")
  Service.ofExcept (← Service.perform (S := taskSignature) (.enqueueTransactionPoll job))

/-- The status that the counts of an aggregation stand for. -/
def finalStatus (aggregation : TransactionAggregation) : TaskStatus :=
  if aggregation.failed = 0 then .EXECUTED
  else if aggregation.completed = 0 then .FAILED
  else .PARTIAL

def finalOptions (aggregation : TransactionAggregation) : UpdateStatusOptions :=
  let result := Json.object [
    ("agent", .string "payroll"), ("total", .number (toString aggregation.total)),
    ("completed", .number (toString aggregation.completed)),
    ("failed", .number (toString aggregation.failed)),
    ("txHashes", .array (aggregation.txHashes.map .string))]
  if aggregation.failed = 0 then {
    step := some "task.executed"
    message := some ("All " ++ toString aggregation.total ++ " transfers completed successfully")
    result := some result }
  else if aggregation.completed = 0 then {
    step := some "task.failed"
    message := some ("All " ++ toString aggregation.total ++ " transfers failed")
    result := some result }
  else {
    step := some "task.partial"
    message := some (toString aggregation.completed ++ "/" ++ toString aggregation.total ++
      " transfers completed, " ++ toString aggregation.failed ++ " failed")
    result := some result }

def checkAndFinalizeTask (taskId : String) : TaskService Unit := do
  let submissionsComplete ← hasLogStep taskId "task.submissions_complete"
  if submissionsComplete = false then return ()
  let aggregation ← getTransactionAggregation taskId
  if aggregation.allTerminal = false then return ()
  discard <| updateStatus taskId (finalStatus aggregation) (finalOptions aggregation)

def MAX_POLL_ATTEMPTS : ℕ := 180

def RECEIPT_SUCCESS_STATUS : String := "0x1"

/-- What a poll does with an outcome it need not wait for: the row, one log entry, and the
attempt to finalize the task. -/
def settleTransaction (job : TxPollJobData) (update : UpdateTransactionInput)
    (step message : String) : TaskService Unit := do
  updateTransaction job.txId update
  logStep job.taskId step TaskStatus.IN_PROGRESS.name message
  checkAndFinalizeTask job.taskId

def failVerification (job : TxPollJobData) (errorReason : String) : TaskService Unit :=
  settleTransaction job {
    status := .failed, errorReason := some errorReason, pollAttempts := some (job.attempt + 1) }
    "tx.receipt_verification_failed" errorReason

def timeOut (job : TxPollJobData) : TaskService Unit :=
  settleTransaction job {
    status := .failed
    errorReason := some ("Transaction did not reach terminal state within 180 poll attempts (360s)")
    pollAttempts := some job.attempt }
    "tx.timeout" ("Transaction " ++ job.txId ++ " timed out after " ++ toString job.attempt ++
      " poll attempts")

/-- The update a poll makes while there is no outcome. -/
def stillPending (job : TxPollJobData) : UpdateTransactionInput where
  status := .pending
  pollAttempts := some (job.attempt + 1)

def nextAttempt (job : TxPollJobData) : TxPollJobData := { job with attempt := job.attempt + 1 }

def receiptReason (receipt : RpcTransactionReceiptResult) : String :=
  "Mainnet transaction ended with receipt status: " ++ receipt.status

/-- The update a poll makes for a receipt. -/
def receiptUpdate (job : TxPollJobData) (receipt : RpcTransactionReceiptResult) :
    UpdateTransactionInput :=
  if receipt.status = RECEIPT_SUCCESS_STATUS then {
    status := .completed, txHash := some receipt.transactionHash
    pollAttempts := some (job.attempt + 1) }
  else {
    status := .failed, errorReason := some (receiptReason receipt)
    pollAttempts := some (job.attempt + 1) }

def settleReceipt (job : TxPollJobData) (receipt : RpcTransactionReceiptResult) :
    TaskService Unit :=
  if receipt.status = RECEIPT_SUCCESS_STATUS then
    settleTransaction job (receiptUpdate job receipt) "tx.completed"
      ("Transaction confirmed: txId=" ++ job.txId ++ " txHash=" ++ receipt.transactionHash)
  else
    settleTransaction job (receiptUpdate job receipt) "tx.failed"
      ("Transaction failed: txId=" ++ job.txId ++ " — " ++ receiptReason receipt)

def poll (job : TxPollJobData) : TaskService Unit := do
  if job.network ≠ "arc-mainnet" then
    failVerification job ("Transaction polling supports Arc Mainnet only (got network=\"" ++
      job.network ++ "\").")
  else if MAX_POLL_ATTEMPTS ≤ job.attempt then timeOut job
  else
    match ← Service.perform (S := taskSignature) (.getTransactionReceiptOnChain job.txId) with
    | .error _ =>
        -- The successor is queued before the row is written.
        enqueueTransactionPoll routing (nextAttempt job)
        updateTransaction job.txId (stillPending job)
    | .ok none =>
        updateTransaction job.txId (stillPending job)
        enqueueTransactionPoll routing (nextAttempt job)
    | .ok (some receipt) => settleReceipt job receipt

/-! ## Workers and calls -/

/-- A worker that takes one job from the queue, if there is one: a job of another network
is refused, and what a poll throws is only logged. -/
def pollWorker : TaskService Unit := do
  match ← Service.perform (S := taskSignature) .takePoll with
  | none => return ()
  | some job =>
      Service.throwIf (job.network ≠ routing.network)
        (.error "Queue job network does not match the selected runtime network.")
      discard <| (poll routing job).attempt

/-- A call in flight. -/
inductive TaskCall where
  | reportUnit (taskId unitId : String) (report : ReportTaskUnitInput)
  | updateStatus (taskId : String) (nextStatus : TaskStatus) (options : UpdateStatusOptions)
  | transitionWithAudit (taskId : String) (nextStatus : TaskStatus) (stepId : String)
      (result : Option Json) (context : List (String × Json))
  | executeTask (taskId : String)
  | poll (job : TxPollJobData)
  | pollWorker

/-- The program of a call in a session of its own. -/
def TaskCall.program (session : ℕ) : TaskCall → TaskService Unit
  | reportUnit taskId unitId report => discard <| Tasks.reportUnit session taskId unitId report
  | updateStatus taskId nextStatus options =>
      discard <| Tasks.updateStatus taskId nextStatus options
  | transitionWithAudit taskId nextStatus stepId result context =>
      discard <| Tasks.transitionWithAudit taskId nextStatus stepId result context
  | executeTask taskId => discard <| Tasks.executeTask runtime routing taskId
  | poll job => Tasks.poll routing job
  | pollWorker => Tasks.pollWorker routing

abbrev TaskPool := Pool taskSignature TaskState (Except ServiceError Unit)

/-- Concurrent calls over the stored rows; the session of a call is its number. -/
def taskPool (calls : List TaskCall) (state : TaskState) : TaskPool :=
  ⟨state, calls.mapIdx fun session call => (call.program runtime routing session).run⟩

/-- The statement that a call performs next. -/
def upcoming (pool : TaskPool) (session : ℕ) : Option TaskOp := pool.pending session

/-- A step that is one: its statement need not wait. -/
def Proceeds (pool : TaskPool) (choice : ℕ × TaskInput) : Prop :=
  ∀ op ∈ upcoming pool choice.1, Enabled op pool.state

instance (pool : TaskPool) (choice : ℕ × TaskInput) : Decidable (Proceeds pool choice) :=
  inferInstanceAs (Decidable (∀ op ∈ upcoming pool choice.1, Enabled op pool.state))

end WizPay.Tasks
