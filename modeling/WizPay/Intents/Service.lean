import WizPay.Intents.Canonical

/-!
# The execution intent service

Every method as the program of database operations it runs. A method reads a
row, decides, and writes with a condition of its own; what another call did in
between shows only in that condition.
-/

namespace WizPay.Intents

open Foundation Backend ExecutionIntentStatus

/-! ## Database calls -/

abbrev IntentService (α : Type) := Service intentSignature α

def currentTime : IntentService ℕ := Service.perform (S := intentSignature) .now

def findById (id : String) : IntentService (Option ExecutionIntent) := do
  Service.orThrow (← Service.perform (S := intentSignature) (.findById id))

def findByTransactionHash (hash : String) : IntentService (Option ExecutionIntent) := do
  Service.orThrow (← Service.perform (S := intentSignature) (.findByTransactionHash hash))

def findByLogicalKey (logicalKey : String) : IntentService (Option ExecutionIntent) := do
  Service.orThrow (← Service.perform (S := intentSignature) (.findByLogicalKey logicalKey))

def create (canonical : CanonicalAcquireInput) :
    IntentService (Except TransactionError ExecutionIntent) :=
  Service.perform (S := intentSignature) (.create canonical)

def updateMany (update : IntentUpdate) : IntentService ℕ := do
  Service.orThrow (← Service.perform (S := intentSignature) (.updateMany update))

/-- `updateMany` inside a `try`: the error is a value. -/
def tryUpdateMany (update : IntentUpdate) : IntentService (Except DbError ℕ) :=
  Service.perform (S := intentSignature) (.updateMany update)

/-! ## Errors and checks -/

def invalidTransition (message : String) : ServiceError :=
  .conflict "EXECUTION_INTENT_INVALID_TRANSITION" message

def activeLease (message : String) : ServiceError :=
  .conflict "EXECUTION_INTENT_ACTIVE_LEASE" message

def terminal (message : String) : ServiceError := .conflict "EXECUTION_INTENT_TERMINAL" message

def hashConflict (message : String) : ServiceError :=
  .conflict "EXECUTION_INTENT_TRANSACTION_HASH_CONFLICT" message

def receiptMismatch : ServiceError :=
  .conflict "EXECUTION_INTENT_RECEIPT_MISMATCH"
    "Verified receipt data does not match the immutable execution intent."

def intentNotFound (message : String) : ServiceError :=
  .notFound "EXECUTION_INTENT_NOT_FOUND" message

def transactionHash (value : String) : Except ServiceError String :=
  if isHexText 64 value then return asciiLower value
  else throw (hashConflict "Transaction hash is malformed.")

variable (runtime : Runtime) (routing : PaymentRouting)

def assertSelectedNetwork (intent : ExecutionIntent) : IntentService Unit :=
  Service.throwIf (intent.network ≠ routing.network)
    (immutableConflict "Execution intent belongs to a different runtime network.")

/-! ## Reading -/

def get (id : String) : IntentService ExecutionIntent := do
  match ← findById id with
  | none => throw (intentNotFound "Execution intent not found.")
  | some intent =>
      assertSelectedNetwork routing intent
      return intent

def getByTransactionHash (hash : String) : IntentService ExecutionIntent := do
  let hash ← Service.ofExcept (transactionHash hash)
  match ← findByTransactionHash hash with
  | none =>
      throw (intentNotFound "A durable execution intent must be created before submission.")
  | some intent =>
      assertSelectedNetwork routing intent
      return intent

def assertAccess (id idempotencyKey : String) : IntentService ExecutionIntent := do
  let intent ← get routing id
  Service.throwIf (intent.idempotencyKey ≠ idempotencyKey)
    (immutableConflict "Execution intent access key does not match.")
  return intent

def assertLease (id leaseOwner : String) : IntentService ExecutionIntent := do
  let intent ← get routing id
  let now ← currentTime
  Service.throwIf (leaseOwner = "" ∨ intent.leaseOwner ≠ some leaseOwner ∨
      intent.leaseExpiresAt.all fun expiry => expiry ≤ now)
    (activeLease
      "The active execution lease is missing, expired, or owned by another submitter.")
  return intent

/-! ## Acquiring -/

/-- The retry loop: a unique violation or a serialization conflict means that
another transaction may have created the row. -/
def acquireLoop (canonical : CanonicalAcquireInput) : ℕ → IntentService (Option ExecutionIntent)
  | 0 => return none
  | attempts + 1 => do
      match ← create canonical with
      | .ok intent => return some intent
      | .error (.thrown error) => throw error
      | .error (.database error) =>
          Service.throwIf (error ≠ .p2002 ∧ error ≠ .p2034) (.database error)
          match ← findByLogicalKey canonical.logicalKey with
          | some intent => return some intent
          | none =>
              Service.throwIf (attempts = 0) (.database error)
              acquireLoop canonical attempts

def acquire (input : ExecutionIntentAcquireInput) : IntentService ExecutionIntent := do
  let canonical ← Service.ofExcept (canonicalize runtime routing input)
  match ← acquireLoop canonical 3 with
  | none => throw (.error "Execution intent acquisition failed.")
  | some intent =>
      assertSelectedNetwork routing intent
      Service.throwIf (intent.requestFingerprint ≠ canonical.requestFingerprint)
        (immutableConflict
          "The logical operation is already bound to different immutable request data.")
      return intent

/-! ## Transitions -/

def transition (id : String) (expected target : ExecutionIntentStatus)
    (data : TransitionData := {}) : IntentService ExecutionIntent := do
  if allowed : target ∈ expected.transitions then
    let completedAt ← if target = COMPLETED then some <$> currentTime else pure none
    let count ← updateMany (.transition id ⟨expected, target, allowed⟩ data completedAt)
    if count ≠ 1 then
      let current ← get routing id
      let message :=
        "Execution intent is in " ++ current.status.name ++ ", not " ++ expected.name ++ "."
      throw (if current.status.isTerminal then terminal message else invalidTransition message)
    get routing id
  else
    throw (invalidTransition ("Execution intent transition " ++ expected.name ++ " -> " ++
      target.name ++ " is not allowed."))

def beginVerification (id : String) : IntentService ExecutionIntent := do
  let intent ← get routing id
  if intent.status = COMPLETED ∨ intent.status = VERIFYING then return intent
  let intent ← if intent.status = CREATED then transition routing id CREATED SUBMISSION_PENDING
    else pure intent
  let intent ←
    if intent.status = AUTHORIZATION_PENDING then
      transition routing id AUTHORIZATION_PENDING SUBMITTED
    else if intent.status = SUBMISSION_PENDING then
      transition routing id SUBMISSION_PENDING SUBMITTED
    else pure intent
  if intent.status = SUBMITTED then transition routing id SUBMITTED VERIFYING
  else if intent.status = FAILED_RETRYABLE then
    transition routing id FAILED_RETRYABLE VERIFYING
  else return intent

/-! ## Binding -/

def attachTask (id taskId : String) : IntentService ExecutionIntent := do
  let existing ← get routing id
  Service.throwIf ((nonempty existing.taskId).any fun prior => prior ≠ taskId)
    (immutableConflict "Execution intent is already bound to a different task.")
  discard <| updateMany (.attachTask id taskId)
  get routing id

def acquireLease (id leaseOwner : String) (ttlMs : ℕ) : IntentService ExecutionIntent := do
  let now ← currentTime
  Service.throwIf (trim leaseOwner = "" ∨ ttlMs < 1000 ∨ 15 * 60000 < ttlMs)
    (activeLease "Execution lease parameters are invalid.")
  let count ← updateMany (.acquireLease id leaseOwner ttlMs now)
  if count ≠ 1 then
    let existing ← get routing id
    Service.throwIf (existing.status.isTerminal = true)
      (terminal "A terminal execution intent cannot be leased.")
    throw (activeLease "The execution intent already has an active lease.")
  get routing id

def prepareWalletSignature (id idempotencyKey leaseOwner : String) (ttlMs : ℕ := 5 * 60000) :
    IntentService ExecutionIntent := do
  discard <| assertAccess routing id idempotencyKey
  let current ← get routing id
  Service.throwIf (current.status.isTerminal = true)
    (terminal "A terminal execution intent cannot be submitted again.")
  Service.throwIf (nonempty current.transactionHash ≠ none ∨
      nonempty current.circleChallengeId ≠ none)
    (invalidTransition "Existing submission evidence must be reconciled instead of rebroadcast.")
  Service.throwIf (current.status = AWAITING_WALLET_SIGNATURE)
    (invalidTransition ("The wallet outcome is unresolved. Bind a known hash or cancel " ++
      "explicitly; automatic rebroadcast is disabled."))
  Service.throwIf (current.status ≠ CREATED ∧ current.status ≠ FAILED_RETRYABLE)
    (invalidTransition ("Execution intent is in " ++ current.status.name ++
      " and cannot open a wallet submission."))
  discard <| acquireLease routing id leaseOwner ttlMs
  transition routing id current.status AWAITING_WALLET_SIGNATURE

/-- A field of the context bound to one value and requested with another. -/
def rebinds (prior requested : Option String) : Bool :=
  (nonempty prior).isSome && (nonempty requested).isSome && prior ≠ requested

structure ExecutionContextInput where
  ownerId : String
  walletId : String
  contractAddress : Option String
  calldataHash : Option String

def bindImmutableExecutionContext (id : String) (input : ExecutionContextInput) :
    IntentService ExecutionIntent := do
  let existing ← get routing id
  let contractAddress ← Service.ofExcept
    ((nonempty input.contractAddress).mapM fun address =>
      asciiLower <$> requireAddress runtime address)
  let normalized : ExecutionContext := {
    ownerId := some (trim input.ownerId)
    walletId := some (trim input.walletId)
    contractAddress
    calldataHash := input.calldataHash.map runtime.toLowerCase }
  let rebound (key : String) := immutableConflict
    ("Execution intent " ++ key ++ " is already bound to another value.")
  Service.throwIf (rebinds existing.ownerId normalized.ownerId = true) (rebound "ownerId")
  Service.throwIf (rebinds existing.walletId normalized.walletId = true) (rebound "walletId")
  Service.throwIf (rebinds existing.contractAddress normalized.contractAddress = true)
    (rebound "contractAddress")
  Service.throwIf (rebinds existing.calldataHash normalized.calldataHash = true)
    (rebound "calldataHash")
  let count ← updateMany (.bindImmutableExecutionContext id existing.context normalized)
  Service.throwIf (count ≠ 1)
    (immutableConflict "Execution intent context was concurrently bound to another value.")
  let bound ← get routing id
  Service.throwIf (bound.context ≠ normalized)
    (immutableConflict "Execution intent context does not match the transaction request.")
  return bound

def bindCircleCorrelation (id challengeId : String) (transactionId : Option String) :
    IntentService ExecutionIntent := do
  let existing ← get routing id
  Service.throwIf (((nonempty existing.circleChallengeId).any fun prior => prior ≠ challengeId) ∨
      rebinds existing.circleTransactionId transactionId = true)
    (immutableConflict "Circle correlation is already bound to this execution intent.")
  let result ← tryUpdateMany (.bindCircleCorrelation id existing challengeId transactionId)
  Service.throwIf (result ≠ .ok 1)
    (immutableConflict "Circle correlation is already bound to another execution intent.")
  let bound ← get routing id
  Service.throwIf (bound.circleChallengeId ≠ some challengeId ∨
      ((nonempty transactionId).isSome ∧ bound.circleTransactionId ≠ transactionId))
    (immutableConflict "Circle correlation was concurrently changed.")
  return bound

/-- The recursive call starts over when another call bound a hash since the
read; its errors pass the `catch`, as the promise is returned unawaited. -/
def bindTransactionHash : ℕ → String → String → Option String → Bool →
    IntentService ExecutionIntent
  | 0, _, _, _, _ => throw (.error "Maximum call stack size exceeded")
  | attempts + 1, id, hash, leaseOwner, recovery => do
      let normalized ← Service.ofExcept (transactionHash hash)
      let existing ← get routing id
      if existing.transactionHash = some normalized then return existing
      Service.throwIf (nonempty existing.transactionHash ≠ none)
        (hashConflict
          "A different transaction hash is already bound to this execution intent.")
      if existing.status = AWAITING_WALLET_SIGNATURE ∧ recovery = false then
        match nonempty leaseOwner with
        | none => throw (activeLease "The wallet submission lease is required.")
        | some leaseOwner => discard <| assertLease routing id leaseOwner
      match ← tryUpdateMany (.bindTransactionHash id normalized) with
      | .ok count =>
          if count = 1 then get routing id
          else bindTransactionHash attempts id normalized leaseOwner recovery
      | .error _ =>
          throw (hashConflict
            "The transaction hash is already bound to another execution intent.")

def bindKnownTransactionHash (attempts : ℕ) (id idempotencyKey hash : String) :
    IntentService ExecutionIntent := do
  discard <| assertAccess routing id idempotencyKey
  let intent ← get routing id
  Service.throwIf (intent.status.isTerminal = true ∧ intent.status ≠ COMPLETED)
    (terminal "A terminal execution intent cannot accept recovery evidence.")
  bindTransactionHash routing attempts id hash none true

def cancelUnsubmitted (id idempotencyKey : String) : IntentService ExecutionIntent := do
  discard <| assertAccess routing id idempotencyKey
  let intent ← get routing id
  Service.throwIf (nonempty intent.transactionHash ≠ none ∨
      nonempty intent.circleChallengeId ≠ none ∨ nonempty intent.circleTransactionId ≠ none)
    (invalidTransition "An intent with submission evidence cannot be cancelled.")
  Service.throwIf (intent.status ∉ [CREATED, AWAITING_WALLET_SIGNATURE, FAILED_RETRYABLE])
    (invalidTransition ("Execution intent in " ++ intent.status.name ++ " cannot be cancelled."))
  let count ← updateMany (.cancelUnsubmitted id)
  Service.throwIf (count ≠ 1)
    (invalidTransition "Submission evidence appeared while cancellation was processed.")
  get routing id

/-! ## Completing -/

structure VerifiedExecutionReceipt where
  network : String
  transactionHash : String
  sourceWallet : String
  token : String
  recipient : Option String
  batchDigest : Option String
  amountUnits : String
deriving DecidableEq

/-- `isAddressEqual(getAddress(first), getAddress(second))`. -/
def sameAddress (first second : String) : Except ServiceError Bool := do
  let first ← requireAddress runtime first
  let second ← requireAddress runtime second
  return asciiLower first = asciiLower second

/-- The recipient of a receipt against that of the intent, or the batch digests:
a receipt without a digest reports none, not a null one. -/
def receiptRecipientMatches (intent : ExecutionIntent) (receipt : VerifiedExecutionReceipt) :
    Except ServiceError Bool :=
  match nonempty intent.recipient with
  | none => return receipt.batchDigest.isSome && intent.batchDigest = receipt.batchDigest
  | some recipient =>
      match nonempty receipt.recipient with
      | none => return false
      | some paid => sameAddress runtime recipient paid

/-- The conjuncts of the source in order, some of which throw on a malformed address. -/
def receiptMatches (intent : ExecutionIntent) (receipt : VerifiedExecutionReceipt)
    (hash : String) : Except ServiceError Bool := do
  if ¬ ((intent.status = VERIFYING ∨ intent.status = COMPLETED) ∧
      intent.transactionHash = some hash ∧ intent.network = receipt.network) then return false
  if (← sameAddress runtime intent.sourceWallet receipt.sourceWallet) = false then return false
  if (← sameAddress runtime intent.tokenOut receipt.token) = false then return false
  if intent.amountUnits ≠ receipt.amountUnits then return false
  receiptRecipientMatches runtime intent receipt

def completeWithVerifiedReceipt (id : String) (receipt : VerifiedExecutionReceipt) :
    IntentService ExecutionIntent := do
  let intent ← get routing id
  let hash ← Service.ofExcept (transactionHash receipt.transactionHash)
  let isMatch ← Service.ofExcept (receiptMatches runtime intent receipt hash)
  Service.throwIf (isMatch = false) receiptMismatch
  if intent.status = COMPLETED then return intent
  transition routing id VERIFYING COMPLETED

end WizPay.Intents
