import WizPay.Backend.Routing

/-!
# Stored execution intents

The intent table with the operations the service performs on it, each one
atomic: lookups by a unique column, the conditional updates, and the
transaction that creates an intent. A transition is an edge of the map of
allowed transitions, so a terminal status has none to leave by.
-/

namespace WizPay.Intents

open Foundation Backend

inductive ExecutionIntentOperation where
  | SEND | PAYROLL | TOKEN_APPROVAL | INVOICE_SETTLEMENT | PAYMENT_LINK_SETTLEMENT
deriving DecidableEq, Repr

/-- `Object.values(ExecutionIntentOperation)`. -/
def ExecutionIntentOperation.names : List (String × ExecutionIntentOperation) :=
  [("SEND", .SEND), ("PAYROLL", .PAYROLL), ("TOKEN_APPROVAL", .TOKEN_APPROVAL),
    ("INVOICE_SETTLEMENT", .INVOICE_SETTLEMENT),
    ("PAYMENT_LINK_SETTLEMENT", .PAYMENT_LINK_SETTLEMENT)]

def ExecutionIntentOperation.name : ExecutionIntentOperation → String
  | SEND => "SEND"
  | PAYROLL => "PAYROLL"
  | TOKEN_APPROVAL => "TOKEN_APPROVAL"
  | INVOICE_SETTLEMENT => "INVOICE_SETTLEMENT"
  | PAYMENT_LINK_SETTLEMENT => "PAYMENT_LINK_SETTLEMENT"

inductive ExecutionIntentRoute where
  | DIRECT_TRANSFER | CROSS_TOKEN_PROVIDER | CROSS_TOKEN_ATOMIC | CROSS_TOKEN_DISABLED
deriving DecidableEq, Repr

inductive ExecutionIntentStatus where
  | CREATED | AWAITING_WALLET_SIGNATURE | AUTHORIZATION_PENDING | SUBMISSION_PENDING | SUBMITTED
  | VERIFYING | COMPLETED | FAILED_RETRYABLE | FAILED_FINAL | EXPIRED | CANCELLED
deriving DecidableEq, Repr

namespace ExecutionIntentStatus

def name : ExecutionIntentStatus → String
  | CREATED => "CREATED"
  | AWAITING_WALLET_SIGNATURE => "AWAITING_WALLET_SIGNATURE"
  | AUTHORIZATION_PENDING => "AUTHORIZATION_PENDING"
  | SUBMISSION_PENDING => "SUBMISSION_PENDING"
  | SUBMITTED => "SUBMITTED"
  | VERIFYING => "VERIFYING"
  | COMPLETED => "COMPLETED"
  | FAILED_RETRYABLE => "FAILED_RETRYABLE"
  | FAILED_FINAL => "FAILED_FINAL"
  | EXPIRED => "EXPIRED"
  | CANCELLED => "CANCELLED"

/-- `EXECUTION_INTENT_TRANSITIONS`. -/
def transitions : ExecutionIntentStatus → List ExecutionIntentStatus
  | CREATED =>
      [AWAITING_WALLET_SIGNATURE, AUTHORIZATION_PENDING, SUBMISSION_PENDING, FAILED_FINAL, EXPIRED,
        CANCELLED]
  | AWAITING_WALLET_SIGNATURE => [SUBMITTED, FAILED_RETRYABLE, FAILED_FINAL, CANCELLED]
  | AUTHORIZATION_PENDING =>
      [SUBMISSION_PENDING, SUBMITTED, FAILED_RETRYABLE, FAILED_FINAL, EXPIRED]
  | SUBMISSION_PENDING => [SUBMITTED, FAILED_RETRYABLE, FAILED_FINAL, EXPIRED]
  | SUBMITTED => [VERIFYING, FAILED_RETRYABLE, FAILED_FINAL]
  | VERIFYING => [COMPLETED, FAILED_RETRYABLE, FAILED_FINAL]
  | FAILED_RETRYABLE =>
      [AWAITING_WALLET_SIGNATURE, AUTHORIZATION_PENDING, SUBMISSION_PENDING, SUBMITTED, VERIFYING,
        FAILED_FINAL, EXPIRED]
  | COMPLETED => []
  | FAILED_FINAL => []
  | EXPIRED => []
  | CANCELLED => []

def isTerminal (status : ExecutionIntentStatus) : Bool :=
  status ∈ [COMPLETED, FAILED_FINAL, EXPIRED, CANCELLED]

/-- Nothing leads out of a terminal status. -/
theorem transitions_of_isTerminal {status : ExecutionIntentStatus}
    (hterminal : status.isTerminal = true) : status.transitions = [] := by
  cases status <;> first | rfl | cases hterminal

end ExecutionIntentStatus

open ExecutionIntentStatus

structure ExecutionIntent where
  id : String
  network : String
  operation : ExecutionIntentOperation
  ownerId : Option String
  walletId : Option String
  sourceWallet : String
  recipient : Option String
  batchDigest : Option String
  tokenIn : String
  tokenOut : String
  amountUnits : String
  externalReference : String
  logicalKey : String
  requestFingerprint : String
  idempotencyKey : String
  route : ExecutionIntentRoute
  provider : Option String
  contractAddress : Option String
  calldataHash : Option String
  status : ExecutionIntentStatus
  circleChallengeId : Option String
  circleTransactionId : Option String
  transactionHash : Option String
  taskId : Option String
  leaseOwner : Option String
  leaseExpiresAt : Option ℕ
  attemptCount : ℕ
  failureCode : Option String
  completedAt : Option ℕ
deriving DecidableEq

/-- What `canonicalize` makes of a request, and `create` stores. -/
structure CanonicalAcquireInput where
  network : String
  operation : ExecutionIntentOperation
  ownerId : Option String
  sourceWallet : String
  recipient : Option String
  batchDigest : Option String
  tokenIn : String
  tokenOut : String
  amountUnits : String
  externalReference : String
  logicalKey : String
  requestFingerprint : String
  idempotencyKey : String
  route : ExecutionIntentRoute
  provider : Option String
  taskId : Option String
deriving DecidableEq

/-- The row a `create` inserts: the input and the column defaults. -/
def CanonicalAcquireInput.row (canonical : CanonicalAcquireInput) (id : String) :
    ExecutionIntent where
  id := id
  network := canonical.network
  operation := canonical.operation
  ownerId := canonical.ownerId
  walletId := none
  sourceWallet := canonical.sourceWallet
  recipient := canonical.recipient
  batchDigest := canonical.batchDigest
  tokenIn := canonical.tokenIn
  tokenOut := canonical.tokenOut
  amountUnits := canonical.amountUnits
  externalReference := canonical.externalReference
  logicalKey := canonical.logicalKey
  requestFingerprint := canonical.requestFingerprint
  idempotencyKey := canonical.idempotencyKey
  route := canonical.route
  provider := canonical.provider
  contractAddress := none
  calldataHash := none
  status := CREATED
  circleChallengeId := none
  circleTransactionId := none
  transactionHash := none
  taskId := canonical.taskId
  leaseOwner := none
  leaseExpiresAt := none
  attemptCount := 0
  failureCode := none
  completedAt := none

/-! ## Conditional updates -/

/-- A transition the map allows. -/
structure Edge where
  expected : ExecutionIntentStatus
  next : ExecutionIntentStatus
  allowed : next ∈ expected.transitions

/-- The optional data of a transition; an absent field is left as it is. -/
structure TransitionData where
  failureCode : Option (Option String) := none
  circleChallengeId : Option (Option String) := none
  circleTransactionId : Option (Option String) := none

/-- The execution context a wallet request binds. -/
structure ExecutionContext where
  ownerId : Option String
  walletId : Option String
  contractAddress : Option String
  calldataHash : Option String
deriving DecidableEq

def ExecutionIntent.context (intent : ExecutionIntent) : ExecutionContext :=
  ⟨intent.ownerId, intent.walletId, intent.contractAddress, intent.calldataHash⟩

/-- The `updateMany` calls of the service, one constructor a call site. -/
inductive IntentUpdate where
  | attachTask (id taskId : String)
  | acquireLease (id leaseOwner : String) (ttlMs now : ℕ)
  | bindImmutableExecutionContext (id : String) (existing normalized : ExecutionContext)
  | transition (id : String) (edge : Edge) (data : TransitionData) (completedAt : Option ℕ)
  | bindCircleCorrelation (id : String) (existing : ExecutionIntent) (challengeId : String)
      (transactionId : Option String)
  | bindTransactionHash (id hash : String)
  | cancelUnsubmitted (id : String)

namespace IntentUpdate

def id : IntentUpdate → String
  | attachTask id _ => id
  | acquireLease id _ _ _ => id
  | bindImmutableExecutionContext id _ _ => id
  | transition id _ _ _ => id
  | bindCircleCorrelation id _ _ _ => id
  | bindTransactionHash id _ => id
  | cancelUnsubmitted id => id

/-- The `where` clause, past the id. -/
def condition : IntentUpdate → ExecutionIntent → Bool
  | attachTask _ _, row => row.taskId = none
  | acquireLease _ _ _ now, row =>
      !row.status.isTerminal &&
        (row.leaseOwner = none || row.leaseExpiresAt = none ||
          row.leaseExpiresAt.any fun expiry => expiry ≤ now)
  | bindImmutableExecutionContext _ existing _, row => row.context = existing
  | transition _ edge _ _, row => row.status = edge.expected
  | bindCircleCorrelation _ existing _ _, row =>
      row.circleChallengeId = existing.circleChallengeId &&
        row.circleTransactionId = existing.circleTransactionId
  | bindTransactionHash _ _, row => row.transactionHash = none
  | cancelUnsubmitted _, row => row.transactionHash = none && row.circleChallengeId = none

def selects (update : IntentUpdate) (row : ExecutionIntent) : Bool :=
  row.id = update.id && update.condition row

/-- The `data` clause. -/
def apply : IntentUpdate → ExecutionIntent → ExecutionIntent
  | attachTask _ taskId, row => { row with taskId := some taskId }
  | acquireLease _ leaseOwner ttlMs now, row =>
      { row with
        leaseOwner := some leaseOwner, leaseExpiresAt := some (now + ttlMs)
        attemptCount := row.attemptCount + 1 }
  | bindImmutableExecutionContext _ existing normalized, row =>
      { row with
        ownerId := existing.ownerId.or normalized.ownerId
        walletId := existing.walletId.or normalized.walletId
        contractAddress := existing.contractAddress.or normalized.contractAddress
        calldataHash := existing.calldataHash.or normalized.calldataHash }
  | transition _ edge data completedAt, row =>
      { row with
        status := edge.next
        failureCode := data.failureCode.getD row.failureCode
        circleChallengeId := data.circleChallengeId.getD row.circleChallengeId
        circleTransactionId := data.circleTransactionId.getD row.circleTransactionId
        completedAt := completedAt.or row.completedAt }
  | bindCircleCorrelation _ existing challengeId transactionId, row =>
      { row with
        circleChallengeId := existing.circleChallengeId.or (some challengeId)
        circleTransactionId := existing.circleTransactionId.or transactionId
        leaseOwner := none, leaseExpiresAt := none }
  | bindTransactionHash _ hash, row =>
      { row with
        transactionHash := some hash, status := SUBMITTED
        leaseOwner := none, leaseExpiresAt := none }
  | cancelUnsubmitted _, row =>
      { row with status := CANCELLED, leaseOwner := none, leaseExpiresAt := none }

theorem apply_id (update : IntentUpdate) (row : ExecutionIntent) :
    (update.apply row).id = row.id := by
  cases update <;> rfl

end IntentUpdate

/-! ## The database -/

inductive InvoiceStatus where
  | OPEN | VERIFYING | PAID | EXPIRED | CANCELLED
deriving DecidableEq, Repr

inductive InvoiceSettlementKind where
  | INVOICE | PAYMENT_LINK
deriving DecidableEq, Repr

/-- The columns of an invoice that the creation of an intent reads. -/
structure Invoice where
  publicId : String
  status : InvoiceStatus
  expiresAt : Option ℕ
  chainId : ℕ
  merchantWalletAddress : String
  tokenAddress : String
  amountUnits : String
  settlementKind : InvoiceSettlementKind
deriving DecidableEq

structure Database where
  intents : List ExecutionIntent
  invoices : List Invoice

/-- Two rows agree on a unique column. -/
def ExecutionIntent.clashes (first second : ExecutionIntent) : Bool :=
  first.id = second.id || first.logicalKey = second.logicalKey ||
    first.requestFingerprint = second.requestFingerprint ||
    first.idempotencyKey = second.idempotencyKey ||
    (first.circleChallengeId.isSome && first.circleChallengeId = second.circleChallengeId) ||
    (first.circleTransactionId.isSome && first.circleTransactionId = second.circleTransactionId) ||
    (first.transactionHash.isSome && first.transactionHash = second.transactionHash)

/-- The unique columns of the table hold each value once. -/
def UniqueIntents (intents : List ExecutionIntent) : Prop :=
  intents.Pairwise fun first second => first.clashes second = false

instance (intents : List ExecutionIntent) : Decidable (UniqueIntents intents) :=
  inferInstanceAs (Decidable (intents.Pairwise _))

/-- What the environment decides about one operation: the time, the identifier
of a created row, and an outage that hides the answer, before or after a write
took place. -/
structure Input where
  now : ℕ
  freshId : String
  outage : Option DbError
  applied : Bool

/-- How a transaction that creates an intent can end without one. -/
inductive TransactionError where
  | database (error : DbError)
  | thrown (error : ServiceError)
deriving DecidableEq

inductive IntentOp where
  | now
  | findById (id : String)
  | findByTransactionHash (hash : String)
  | findByLogicalKey (logicalKey : String)
  | create (canonical : CanonicalAcquireInput)
  | updateMany (update : IntentUpdate)

def IntentOp.Res : IntentOp → Type
  | .now => ℕ
  | .findById _ => Except DbError (Option ExecutionIntent)
  | .findByTransactionHash _ => Except DbError (Option ExecutionIntent)
  | .findByLogicalKey _ => Except DbError (Option ExecutionIntent)
  | .create _ => Except TransactionError ExecutionIntent
  | .updateMany _ => Except DbError ℕ

def intentSignature : Signature := ⟨IntentOp, IntentOp.Res⟩

namespace Database

def findUnique (key : ExecutionIntent → Bool) (database : Database) : Option ExecutionIntent :=
  database.intents.find? key

/-- The table after an `updateMany`, whether or not it may be committed. -/
def updated (update : IntentUpdate) (database : Database) : List ExecutionIntent :=
  database.intents.map fun row => if update.selects row then update.apply row else row

def updateMany (update : IntentUpdate) (database : Database) : Except DbError ℕ × Database :=
  if UniqueIntents (database.updated update) then
    (.ok (database.intents.countP update.selects),
      { database with intents := database.updated update })
  else (.error .p2002, database)

end Database

/-! ## The transaction that creates an intent -/

def businessState : ServiceError :=
  .conflict "EXECUTION_INTENT_BUSINESS_STATE_CONFLICT"
    "The invoice cannot create an executable settlement intent."

def invalidAddress : ServiceError := .error "InvalidAddressError"

def ExecutionIntentOperation.settles : ExecutionIntentOperation → Option InvoiceSettlementKind
  | PAYMENT_LINK_SETTLEMENT => some .PAYMENT_LINK
  | INVOICE_SETTLEMENT => some .INVOICE
  | _ => none

variable (runtime : Runtime) (routing : PaymentRouting)

/-- An address stored with an invoice against one of the request. -/
def assertStoredAddress (stored requested : String) : Except ServiceError Unit :=
  match getAddress runtime stored with
  | none => throw invalidAddress
  | some stored =>
      match isAddressEqual stored requested with
      | none => throw invalidAddress
      | some same => if same then return else throw businessState

/-- The invoice a settlement intent is created for: the disjuncts of the source's
condition in order, some of which throw on a malformed address. -/
def assertSettles (canonical : CanonicalAcquireInput) (kind : InvoiceSettlementKind) (now : ℕ) :
    Option Invoice → Except ServiceError Unit
  | none => throw businessState
  | some invoice => do
      if invoice.status ≠ .OPEN ∨ (invoice.expiresAt.any fun expiry => expiry ≤ now) ∨
          invoice.chainId ≠ routing.chainId then
        throw businessState
      match canonical.recipient with
      | none => throw businessState
      | some recipient => assertStoredAddress runtime invoice.merchantWalletAddress recipient
      assertStoredAddress runtime invoice.tokenAddress canonical.tokenOut
      if invoice.amountUnits ≠ canonical.amountUnits ∨ invoice.settlementKind ≠ kind then
        throw businessState

namespace Database

/-- `upsert` with an empty update, once no row has the logical key. -/
def insert (canonical : CanonicalAcquireInput) (input : Input) (database : Database) :
    Except TransactionError ExecutionIntent × Database :=
  let row := canonical.row input.freshId
  if UniqueIntents (database.intents ++ [row]) then
    (.ok row, { database with intents := database.intents ++ [row] })
  else (.error (.database .p2002), database)

def create (canonical : CanonicalAcquireInput) (input : Input) (database : Database) :
    Except TransactionError ExecutionIntent × Database :=
  match database.findUnique fun row => row.logicalKey = canonical.logicalKey with
  | some existing => (.ok existing, database)
  | none =>
      match canonical.operation.settles with
      | none => database.insert canonical input
      | some kind =>
          let invoice := database.invoices.find? fun invoice =>
            invoice.publicId = canonical.externalReference
          match assertSettles runtime routing canonical kind input.now invoice with
          | .error error => (.error (.thrown error), database)
          | .ok _ => database.insert canonical input

end Database

/-- Every operation answers and takes effect, unless an outage hides the answer;
a write may then have taken effect all the same. -/
def intentMachine : Machine intentSignature Input Database where
  answer
    | .now, input, database => (input.now, database)
    | .findById id, input, database => (read input (fun row => row.id = id) database, database)
    | .findByTransactionHash hash, input, database =>
        (read input (fun row => row.transactionHash = some hash) database, database)
    | .findByLogicalKey logicalKey, input, database =>
        (read input (fun row => row.logicalKey = logicalKey) database, database)
    | .create canonical, input, database =>
        let (result, after) := database.create runtime routing canonical input
        match input.outage with
        | none => (result, after)
        | some error => (.error (.database error), if input.applied then after else database)
    | .updateMany update, input, database =>
        let (result, after) := database.updateMany update
        match input.outage with
        | none => (result, after)
        | some error => (.error error, if input.applied then after else database)
where
  read (input : Input) (key : ExecutionIntent → Bool) (database : Database) :
      Except DbError (Option ExecutionIntent) :=
    match input.outage with
    | none => .ok (database.findUnique key)
    | some error => .error error

end WizPay.Intents
