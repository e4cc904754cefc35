import WizPay.Payroll.Receipts

/-!
# The payroll task service

Creating the task of a payroll request, or returning the one that is already
there after its intents were reconciled with the chain.
-/

namespace WizPay.Payroll

open Foundation Backend Evm PayrollMainnet Intents ExecutionIntentStatus

structure CreatePayrollTaskResult where
  taskId : String
  executionIntentId : String
  idempotencyKey : String
  approvalAmount : String
  referenceId : String
  totalUnits : ℕ
  units : List TaskUnit

/-- The message of an error, and whether its response says `retryable: true`. -/
def errorMessage : ServiceError → String
  | .conflict _ message => message
  | .notFound _ message => message
  | .gone _ message => message
  | .forbidden _ message => message
  | .unauthorized _ message => message
  | .badRequest _ message => message
  | .unprocessable _ message => message
  | .unavailable _ message => message
  | .pending _ message => message
  | .invalid _ _ _ => "Bad Request Exception"
  | .error message => message
  | .database (.other message) => message
  | .database .p2002 => "P2002"
  | .database .p2034 => "P2034"

def retryable : ServiceError → Bool
  | .pending _ _ => true
  | _ => false

section

variable {Hash Body Calldata : Type} [DecidableEq Hash] (runtime : Runtime)
  (routing : PaymentRouting) (network : PayrollNetwork Hash Body Calldata)

/-! ## Database calls -/

/-- A method of the intent service. -/
def intents {α : Type} (service : IntentService α) : PayrollService Body Calldata α :=
  Service.lift (T := payrollSignature Body Calldata) .intents (fun _ answer => answer) service

/-- The completion of an intent. -/
def completing {α : Type} (service : IntentService α) : PayrollService Body Calldata α :=
  Service.lift (T := payrollSignature Body Calldata) .completing (fun _ answer => answer) service

def findTask (id : String) : PayrollService Body Calldata (Option TaskWithUnits) := do
  Service.orThrow (← Service.perform (S := payrollSignature Body Calldata) (.findTask id))

def findTaskOrThrow (id : String) : PayrollService Body Calldata TaskWithUnits := do
  Service.orThrow (← Service.perform (S := payrollSignature Body Calldata) (.findTaskOrThrow id))

def tryCreatePayrollTask (task : Task) (units : List (ℕ × UnitPayload)) :
    PayrollService Body Calldata (Except DbError TaskWithUnits) :=
  Service.perform (S := payrollSignature Body Calldata) (.createPayrollTask task units)

def reportUnit (taskId unitId : String) (report : ReportTaskUnitInput) :
    PayrollService Body Calldata ReportTaskUnitResult := do
  match ← Service.perform (S := payrollSignature Body Calldata)
      (.reportUnit taskId unitId report) with
  | .ok result => return result
  | .error (.thrown error) => throw error
  | .error (.database error) => throw (.database error)

def setExecutionIntentStatus (unitId : String) (status : ExecutionIntentStatus) :
    PayrollService Body Calldata Unit := do
  Service.orThrow (← Service.perform (S := payrollSignature Body Calldata)
    (.setExecutionIntentStatus unitId status))

/-! ## Reconciling -/

/-- The body of the `try`: verify the bound transaction, complete the intent and
report the unit. -/
def settleIntent (task : Task) (unit : TaskUnit) (batch : PayrollBatch)
    (intent : ExecutionIntent) (transactionHash : String) :
    PayrollService Body Calldata Unit := do
  match nonempty intent.batchDigest with
  | none =>
      throw (.badRequest "PAYROLL_EXECUTION_INTENT_REQUIRED"
        "Payroll intent is missing its immutable batch digest.")
  | some batchDigest =>
      let verified ← verify runtime network {
        transactionHash
        sourceWallet := intent.sourceWallet
        token := intent.tokenOut
        totalAmountUnits := intent.amountUnits
        expectedBatchDigest := batchDigest
        referenceId := intent.externalReference
        recipients := batch.recipients.map fun recipient =>
          ⟨recipient.address, toString recipient.amountUnits⟩ }
      discard <| completing (completeWithVerifiedReceipt runtime routing intent.id
        verified.toVerifiedExecutionReceipt)
      discard <| reportUnit task.id unit.id ⟨true, some intent.transactionHash, none⟩

/-- The `catch`: what is not retryable is final. -/
def failIntent (task : Task) (unit : TaskUnit) (intent : ExecutionIntent) (error : ServiceError) :
    PayrollService Body Calldata Unit := do
  if retryable error then return
  if intent.status = VERIFYING then
    discard <| intents (transition routing intent.id VERIFYING FAILED_FINAL)
  discard <| reportUnit task.id unit.id
    ⟨false, some intent.transactionHash, some (some (errorMessage error))⟩

/-- The `try` and `catch` around one submitted intent. -/
def verifyIntent (task : Task) (unit : TaskUnit) (batch : PayrollBatch)
    (intent : ExecutionIntent) (transactionHash : String) :
    PayrollService Body Calldata Unit := do
  let begun ←
    if intent.status = SUBMITTED then
      (intents (beginVerification routing intent.id) : PayrollService Body Calldata _).attempt
    else pure (.ok intent)
  match begun with
  | .error error => failIntent routing task unit intent error
  | .ok intent =>
      match ← (settleIntent runtime routing network task unit batch intent transactionHash).attempt
      with
      | .error error => failIntent routing task unit intent error
      | .ok () => return

/-- One turn of the loop. -/
def reconcileIntent (task : TaskWithUnits) (batches : List PayrollBatch) (index : ℕ)
    (initialIntent : ExecutionIntent) : PayrollService Body Calldata Unit := do
  match task.units.find? (fun candidate => candidate.index = index), batches[index]? with
  | some unit, some batch =>
      let intent ← intents (get routing initialIntent.id)
      if intent.status = COMPLETED then
        discard <| reportUnit task.task.id unit.id ⟨true, some intent.transactionHash, none⟩
      else if intent.status ∈ [FAILED_FINAL, EXPIRED, CANCELLED] then
        discard <| reportUnit task.task.id unit.id
          ⟨false, none, some (some ("Execution intent is terminal: " ++ intent.status.name ++ "."))⟩
      else
        match nonempty intent.transactionHash with
        | none => return
        | some transactionHash =>
            if intent.status ∈ [SUBMITTED, VERIFYING] then
              verifyIntent runtime routing network task.task unit batch intent transactionHash
  | _, _ => return

def reconcileIntents (task : TaskWithUnits) (batches : List PayrollBatch) :
    ℕ → List ExecutionIntent → PayrollService Body Calldata Unit
  | _, [] => return
  | index, initialIntent :: rest => do
      reconcileIntent runtime routing network task batches index initialIntent
      reconcileIntents task batches (index + 1) rest

/-- Notes the status of an intent with its unit. -/
def refreshUnit (task : TaskWithUnits) (index : ℕ) (intentPlan : ExecutionIntent) :
    PayrollService Body Calldata Unit := do
  match task.units.find? (fun candidate => candidate.index = index) with
  | none => return
  | some unit =>
      let current ← intents (get routing intentPlan.id)
      setExecutionIntentStatus unit.id current.status

def reconcilePayrollIntents (task : TaskWithUnits) (intentPlans : List ExecutionIntent)
    (batches : List PayrollBatch) : PayrollService Body Calldata TaskWithUnits := do
  reconcileIntents runtime routing network task batches 0 intentPlans
  discard <| Service.all (intentPlans.mapIdx fun index intentPlan =>
    refreshUnit routing task index intentPlan)
  findTaskOrThrow task.task.id

/-! ## Creating -/

def payrollResult (task : TaskWithUnits) (intent : ExecutionIntent) : CreatePayrollTaskResult where
  taskId := task.task.id
  executionIntentId := intent.id
  idempotencyKey := intent.idempotencyKey
  approvalAmount := task.task.metadata.approvalAmount
  referenceId := task.task.metadata.referenceId
  totalUnits := task.task.totalUnits
  units := task.units.mergeSort fun left right => left.index ≤ right.index

/-- The request for the intent of one batch. -/
def batchRequest (accepted : AcceptedPayroll) (sourceTokenAddress referenceId : String)
    (batch : PayrollBatch) : Except ServiceError ExecutionIntentAcquireInput := do
  let batchDigest ← createPayrollBatchDigest runtime (batch.recipients.map fun recipient =>
    ⟨recipient.address, recipient.targetTokenAddress, toString recipient.amountUnits⟩)
  return {
    network := .string routing.network
    operation := .PAYROLL
    ownerId := none
    sourceWallet := accepted.owner
    recipient := none
    batchDigest := some batchDigest
    tokenIn := sourceTokenAddress
    tokenOut := (batch.recipients.head?.map ValidatedRecipient.targetTokenAddress).getD ""
    amountUnits := toString batch.totalAmount
    externalReference := getBatchReferenceId referenceId batch.index
    taskId := none }

def acquireBatch (accepted : AcceptedPayroll) (sourceTokenAddress referenceId : String)
    (batch : PayrollBatch) : IntentService ExecutionIntent := do
  acquire runtime routing
    (← Service.ofExcept (batchRequest runtime routing accepted sourceTokenAddress referenceId batch))

def unitPayload (accepted : AcceptedPayroll) (referenceId : String) (batch : PayrollBatch)
    (intent : ExecutionIntent) : UnitPayload where
  referenceId := getBatchReferenceId referenceId batch.index
  recipientCount := batch.recipients.length
  recipients := batch.recipients.map fun recipient =>
    ⟨recipient.address, recipient.amount, toString recipient.amountUnits, recipient.targetToken⟩
  sourceToken := accepted.sourceToken
  totalAmount := toString batch.totalAmount
  executionIntentId := intent.id
  idempotencyKey := intent.idempotencyKey
  executionIntentStatus := none

def payrollFeeBps : ℕ := 25

def payrollTask (payload : Json) (accepted : AcceptedPayroll) (referenceId : String)
    (batches : List PayrollBatch) (intent : ExecutionIntent) : Task :=
  let totals := calculateTotals batches
  { id := intent.id
    status := .ASSIGNED
    totalUnits := batches.length
    completedUnits := 0
    failedUnits := 0
    metadata := {
      approvalAmount := toString (payrollSameTokenApprovalAmountWithFee accepted.recipients
        accepted.sourceToken payrollFeeBps)
      referenceId
      runReferenceId := (trimmedField payload "runReferenceId").getD referenceId
      sourceToken := accepted.sourceToken
      walletAddress := accepted.owner
      totalBatches := totals.totalBatches
      totalRecipients := totals.totalRecipients
      totalAmount := toString totals.totalAmount }
    payload }

def attachTasks (intentPlans : List ExecutionIntent) (taskId : String) :
    PayrollService Body Calldata Unit :=
  discard <| Service.all (intentPlans.map fun unitIntent =>
    intents (attachTask routing unitIntent.id taskId))

/-- The rest of `createPayrollTask` once every batch has its intent. -/
def planTask (payload : Json) (accepted : AcceptedPayroll) (referenceId : String)
    (batches : List PayrollBatch) (intentPlans : List ExecutionIntent) (intent : ExecutionIntent) :
    PayrollService Body Calldata CreatePayrollTaskResult := do
  match ← findTask intent.id with
  | some existingTask =>
      attachTasks routing intentPlans existingTask.task.id
      let recoveredTask ←
        reconcilePayrollIntents runtime routing network existingTask intentPlans batches
      return payrollResult recoveredTask intent
  | none =>
      let units := (batches.zip intentPlans).map fun (batch, unitIntent) =>
        (batch.index, unitPayload accepted referenceId batch unitIntent)
      let task ←
        match ← tryCreatePayrollTask (payrollTask payload accepted referenceId batches intent)
            units with
        | .ok task => pure task
        | .error error =>
            match ← findTask intent.id with
            | none => throw (.database error)
            | some concurrentlyCreated => pure concurrentlyCreated
      attachTasks routing intentPlans task.task.id
      return payrollResult task intent

def createPayrollTask (payload : Json) : PayrollService Body Calldata CreatePayrollTaskResult := do
  let accepted ← Service.ofExcept (acceptPayroll runtime routing payload)
  let batches := splitIntoBatches accepted.recipients
  let now ← intents currentTime
  let referenceId := normalizeReferenceId payload now
  let sourceTokenAddress := stringField payload "sourceTokenAddress"
  let intentPlans ← Service.all (batches.map fun batch =>
    intents (acquireBatch runtime routing accepted sourceTokenAddress referenceId batch))
  match intentPlans with
  | [] => throw (.error "Cannot read properties of undefined (reading 'id')")
  | intent :: _ =>
      planTask runtime routing network payload accepted referenceId batches intentPlans intent

end

end WizPay.Payroll
