import WizPay.Intents.Controller
import WizPay.Payroll.Events
import WizPay.Payroll.Planner

/-!
# Payroll tasks and the chain they are paid on

The tables a payroll run works on besides the intents, the transactions of the
services over them, and what a node answers about a transaction.
-/

namespace WizPay.Payroll

open Foundation Backend Evm PayrollMainnet Intents

/-! ## Tables -/

inductive TaskStatus where
  | CREATED | ASSIGNED | IN_PROGRESS | REVIEW | APPROVED | EXECUTED | PARTIAL | FAILED
deriving DecidableEq, Repr

inductive TaskUnitStatus where
  | PENDING | SUCCESS | FAILED
deriving DecidableEq, Repr

structure TaskMetadata where
  approvalAmount : String
  referenceId : String
  runReferenceId : String
  sourceToken : String
  walletAddress : String
  totalBatches : ℕ
  totalRecipients : ℕ
  totalAmount : String
deriving DecidableEq

structure Task where
  id : String
  status : TaskStatus
  totalUnits : ℕ
  completedUnits : ℕ
  failedUnits : ℕ
  metadata : TaskMetadata
  payload : Json

/-- A recipient as a unit names it. -/
structure UnitRecipient where
  address : String
  amount : String
  amountUnits : String
  targetToken : String
deriving DecidableEq

structure UnitPayload where
  referenceId : String
  recipientCount : ℕ
  recipients : List UnitRecipient
  sourceToken : String
  totalAmount : String
  executionIntentId : String
  idempotencyKey : String
  executionIntentStatus : Option ExecutionIntentStatus
deriving DecidableEq

structure TaskUnit where
  id : String
  taskId : String
  index : ℕ
  status : TaskUnitStatus
  txHash : Option String
  error : Option String
  payload : UnitPayload
deriving DecidableEq

/-- A task with its units. -/
structure TaskWithUnits where
  task : Task
  units : List TaskUnit

structure PayrollState where
  database : Database
  tasks : List Task
  units : List TaskUnit

/-! ## The chain -/

/-- The calls of the payroll contract that `decodeFunctionData` tells apart. -/
inductive MainnetCall where
  | executeSameTokenPayroll (token : Address) (recipients : List Address) (amounts : List ℕ)
      (referenceId : String)
  | executeCrossTokenPayroll (tokenIn tokenOut : Address) (recipients : List Address)
      (outputAmounts : List ℕ)
      (grossInput minTotalOut minHopPriceX36 deadline : ℕ) (referenceId : String)
  | other
deriving DecidableEq

structure ChainTransaction (Calldata : Type) where
  hash : String
  chainId : ℕ
  source : Address
  target : Option Address
  value : ℕ
  input : Calldata

structure ChainReceipt (Body : Type) where
  transactionHash : String
  succeeded : Bool
  blockNumber : ℕ
  logs : List (Log Body)

/-- The ABI of the contract, its hash function and the deployment the backend is
configured with. -/
structure PayrollNetwork (Hash Body Calldata : Type) where
  key : String
  chainId : ℕ
  wizpay : Option String
  usdc : Address
  confirmationsRequired : ℕ
  confirmations_pos : 0 < confirmationsRequired
  keccak : Keccak Hash
  codec : EventCodec Hash Body
  decodeFunctionData : Calldata → Option MainnetCall

/-! ## Operations -/

/-- What a report says about a unit: the status, the hash if one is given, and
the error if one is given. -/
structure ReportTaskUnitInput where
  succeeded : Bool
  txHash : Option (Option String)
  error : Option (Option String)

structure ReportTaskUnitResult where
  task : TaskWithUnits
  unit : TaskUnit
  nextUnit : Option TaskUnit

/-- Database and node operations. The ones inside the completion of an intent
are told apart, and a block number is asked for one receipt. -/
inductive PayrollOp where
  | intents (op : IntentOp)
  | completing (op : IntentOp)
  | findTask (id : String)
  | findTaskOrThrow (id : String)
  | createPayrollTask (task : Task) (units : List (ℕ × UnitPayload))
  | reportUnit (taskId unitId : String) (report : ReportTaskUnitInput)
  | setExecutionIntentStatus (unitId : String) (status : ExecutionIntentStatus)
  | getChainId (hash : String)
  | getTransaction (hash : String)
  | getTransactionReceipt (hash : String)
  | getBlockNumber (hash : String) (receiptBlock : ℕ)

section

variable (Body Calldata : Type)

def PayrollOp.Res : PayrollOp → Type
  | .intents op => op.Res
  | .completing op => op.Res
  | .findTask _ => Except DbError (Option TaskWithUnits)
  | .findTaskOrThrow _ => Except DbError TaskWithUnits
  | .createPayrollTask _ _ => Except DbError TaskWithUnits
  | .reportUnit _ _ _ => Except TransactionError ReportTaskUnitResult
  | .setExecutionIntentStatus _ _ => Except DbError Unit
  | .getChainId _ => Option ℕ
  | .getTransaction _ => Option (ChainTransaction Calldata)
  | .getTransactionReceipt _ => Option (ChainReceipt Body)
  | .getBlockNumber _ _ => Option ℕ

def payrollSignature : Signature := ⟨PayrollOp, PayrollOp.Res Body Calldata⟩

/-- One input of the environment: that of the database, identifiers for the
units of a task, and what the node answers, or none when it fails. -/
structure PayrollInput extends Input where
  unitIds : ℕ → String
  chainIdAnswer : Option ℕ
  transactionAnswer : Option (ChainTransaction Calldata)
  receiptAnswer : Option (ChainReceipt Body)
  blockNumberAnswer : Option ℕ

end

/-! ## The transactions over tasks and units -/

def isBase58 (c : Char) : Bool :=
  ('1' ≤ c && c ≤ '9') || ('A' ≤ c && c ≤ 'H') || ('J' ≤ c && c ≤ 'N') || ('P' ≤ c && c ≤ 'Z') ||
    ('a' ≤ c && c ≤ 'k') || ('m' ≤ c && c ≤ 'z')

def isSolanaSignature (candidate : String) : Bool :=
  64 ≤ utf16Length candidate && utf16Length candidate ≤ 88 && candidate.toList.all isBase58

def normalizeChainTxId (value : Option String) : Option String :=
  (value.map trim).filter fun candidate => isHexText 64 candidate || isSolanaSignature candidate

def recomputeTaskStatus (totalUnits completedUnits failedUnits : ℕ) : TaskStatus :=
  if 0 < failedUnits then .REVIEW
  else if 0 < totalUnits ∧ completedUnits = totalUnits then .EXECUTED
  else .IN_PROGRESS

namespace PayrollState

variable (state : PayrollState)

def unitsOf (taskId : String) : List TaskUnit :=
  state.units.filter fun unit => unit.taskId = taskId

def findTask (id : String) : Option TaskWithUnits :=
  (state.tasks.find? fun task => task.id = id).map fun task => ⟨task, state.unitsOf task.id⟩

def insertTask (task : Task) (units : List (ℕ × UnitPayload)) (unitIds : ℕ → String) :
    PayrollState :=
  { state with
    tasks := state.tasks ++ [task]
    units := state.units ++ units.map fun unit =>
      ⟨unitIds unit.1, task.id, unit.1, .PENDING, none, none, unit.2⟩ }

/-- The unique columns of the unit table: the identifier, and the index in a task. -/
def UniqueUnits (units : List TaskUnit) : Prop :=
  units.Pairwise fun first second =>
    first.id ≠ second.id ∧ (first.taskId ≠ second.taskId ∨ first.index ≠ second.index)

instance (units : List TaskUnit) : Decidable (UniqueUnits units) :=
  inferInstanceAs (Decidable (units.Pairwise _))

/-- The transaction that creates a task; the identifier is the primary key. -/
def createPayrollTask (task : Task) (units : List (ℕ × UnitPayload)) (unitIds : ℕ → String) :
    Except DbError TaskWithUnits × PayrollState :=
  let next := state.insertTask task units unitIds
  if (state.findTask task.id).isNone ∧ UniqueUnits next.units then
    (.ok ⟨task, next.unitsOf task.id⟩, next)
  else (.error .p2002, state)

def reported (report : ReportTaskUnitInput) (unit : TaskUnit) : TaskUnit :=
  { unit with
    status := if report.succeeded then .SUCCESS else .FAILED
    txHash := (report.txHash.map normalizeChainTxId).getD unit.txHash
    error := report.error.getD unit.error }

def counted (report : ReportTaskUnitInput) (task : Task) : Task :=
  let completedUnits := if report.succeeded then task.completedUnits + 1 else task.completedUnits
  let failedUnits := if report.succeeded then task.failedUnits else task.failedUnits + 1
  { task with
    completedUnits, failedUnits
    status := recomputeTaskStatus task.totalUnits completedUnits failedUnits }

def findNextPendingUnit (task : TaskWithUnits) : Option TaskUnit :=
  (task.units.mergeSort fun first second => first.index ≤ second.index).find? fun unit =>
    unit.status = .PENDING

def reportResult (unit : TaskUnit) (taskId : String) :
    Except TransactionError ReportTaskUnitResult :=
  match state.findTask taskId with
  | none => .error (.database (.other "P2025"))
  | some task => .ok ⟨task, unit, findNextPendingUnit task⟩

/-- The transaction of `reportUnit`: a pending unit takes the reported status, a
reported one is returned as it is. -/
def reportUnit (taskId unitId : String) (report : ReportTaskUnitInput) :
    Except TransactionError ReportTaskUnitResult × PayrollState :=
  match state.units.find? fun unit => unit.id = unitId ∧ unit.taskId = taskId with
  | none =>
      (.error (.thrown (.notFound "Not Found"
        ("Task unit " ++ unitId ++ " for task " ++ taskId ++ " not found"))), state)
  | some unit =>
      if unit.status ≠ .PENDING then (state.reportResult unit taskId, state)
      else
        let next : PayrollState :=
          { state with
            units := state.units.map fun candidate =>
              if candidate.id = unit.id then reported report candidate else candidate
            tasks := state.tasks.map fun task =>
              if task.id = taskId then counted report task else task }
        match next.reportResult (reported report unit) taskId with
        | .ok result => (.ok result, next)
        | .error error => (.error error, state)

/-- The update of one unit's payload; an unknown unit is an error. -/
def setExecutionIntentStatus (unitId : String) (status : ExecutionIntentStatus) :
    Except DbError Unit × PayrollState :=
  if state.units.any fun unit => unit.id = unitId then
    (.ok (), { state with
      units := state.units.map fun unit =>
        if unit.id = unitId then
          { unit with payload := { unit.payload with executionIntentStatus := some status } }
        else unit })
  else (.error (.other "P2025"), state)

end PayrollState

section

variable {Body Calldata : Type} (runtime : Runtime) (routing : PaymentRouting)

/-- A read through an outage. -/
def readThrough {α : Type} (input : Input) (answer : Except DbError α) : Except DbError α :=
  match input.outage with
  | none => answer
  | some error => .error error

/-- A write through an outage, which hides the answer and may prevent the write. -/
def writeThrough {ε α : Type} (input : Input) (before : PayrollState) (toError : DbError → ε)
    (outcome : Except ε α × PayrollState) : Except ε α × PayrollState :=
  match input.outage with
  | none => outcome
  | some error => (.error (toError error), if input.applied then outcome.2 else before)

def answerIntent (op : IntentOp) (input : Input) (state : PayrollState) :
    op.Res × PayrollState :=
  let answer := (intentMachine runtime routing).answer op input state.database
  (answer.1, { state with database := answer.2 })

/-- The database answers as it does for intents alone; the node answers what the
input holds. -/
def payrollMachine :
    Machine (payrollSignature Body Calldata) (PayrollInput Body Calldata) PayrollState where
  answer
    | .intents op, input, state => answerIntent runtime routing op input.toInput state
    | .completing op, input, state => answerIntent runtime routing op input.toInput state
    | .findTask id, input, state =>
        (readThrough input.toInput (.ok (state.findTask id)), state)
    | .findTaskOrThrow id, input, state =>
        (readThrough input.toInput (match state.findTask id with
          | some task => .ok task
          | none => .error (.other "P2025")), state)
    | .createPayrollTask task units, input, state =>
        writeThrough input.toInput state id (state.createPayrollTask task units input.unitIds)
    | .reportUnit taskId unitId report, input, state =>
        writeThrough input.toInput state .database (state.reportUnit taskId unitId report)
    | .setExecutionIntentStatus unitId status, input, state =>
        writeThrough input.toInput state id (state.setExecutionIntentStatus unitId status)
    | .getChainId _, input, state => (input.chainIdAnswer, state)
    | .getTransaction _, input, state => (input.transactionAnswer, state)
    | .getTransactionReceipt _, input, state => (input.receiptAnswer, state)
    | .getBlockNumber _ _, input, state => (input.blockNumberAnswer, state)

end

end WizPay.Payroll
