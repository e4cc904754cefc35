import WizPay.Intents.Service

/-!
# Calls of the execution intent service

The HTTP endpoints, which read their fields out of a request body, and the
calls any concurrent client can have in flight: endpoints and the methods other
services use. The receipt verifier answers from the chain and touches no row.
-/

namespace WizPay.Intents

open Foundation Backend ExecutionIntentStatus

/-- `stringField`. -/
def stringField (body : Json) (key : String) : String :=
  match body.get? key with
  | some (.string text) => text
  | _ => ""

def optionalStringField (body : Json) (key : String) : Option String :=
  match body.get? key with
  | some (.string text) => some text
  | _ => none

/-- What the direct transfer verifier is asked. -/
structure DirectTransferClaim where
  transactionHash : String
  sender : String
  recipient : String
  token : String
  amountUnits : String

abbrev DirectTransferVerifier := DirectTransferClaim → Except ServiceError VerifiedExecutionReceipt

variable (runtime : Runtime) (routing : PaymentRouting)

namespace ExecutionIntentController

def acquireInput (body : Json) (operation : ExecutionIntentOperation) :
    ExecutionIntentAcquireInput where
  network := (body.get? "network").getD .null
  operation := operation
  ownerId := none
  sourceWallet := stringField body "sourceWallet"
  recipient := optionalStringField body "recipient"
  batchDigest := optionalStringField body "batchDigest"
  tokenIn := stringField body "tokenIn"
  tokenOut := stringField body "tokenOut"
  amountUnits := stringField body "amountUnits"
  externalReference := stringField body "externalReference"
  taskId := none

def acquire (body : Json) : IntentService ExecutionIntent :=
  match ExecutionIntentOperation.names.lookup (stringField body "operation") with
  | none =>
      throw (.badRequest "EXECUTION_INTENT_INVALID_OPERATION"
        "Execution intent operation is invalid.")
  | some operation => Intents.acquire runtime routing (acquireInput body operation)

def bindHash (attempts : ℕ) (id : String) (body : Json) : IntentService ExecutionIntent := do
  discard <| assertAccess routing id (stringField body "idempotencyKey")
  bindTransactionHash routing attempts id (stringField body "transactionHash")
    (some (stringField body "leaseOwner")) false

def prepareWallet (id : String) (body : Json) : IntentService ExecutionIntent :=
  prepareWalletSignature routing id (stringField body "idempotencyKey")
    (stringField body "leaseOwner")

def recover (id : String) (body : Json) : IntentService ExecutionIntent :=
  assertAccess routing id (stringField body "idempotencyKey")

def recoverHash (attempts : ℕ) (id : String) (body : Json) : IntentService ExecutionIntent :=
  bindKnownTransactionHash routing attempts id (stringField body "idempotencyKey")
    (stringField body "transactionHash")

def cancel (id : String) (body : Json) : IntentService ExecutionIntent :=
  cancelUnsubmitted routing id (stringField body "idempotencyKey")

def verify (receipts : DirectTransferVerifier) (id : String) (body : Json) :
    IntentService ExecutionIntent := do
  discard <| assertAccess routing id (stringField body "idempotencyKey")
  let intent ← beginVerification routing id
  match nonempty intent.transactionHash, nonempty intent.recipient with
  | some transactionHash, some recipient =>
      Service.throwIf (intent.operation ≠ .SEND)
        (.badRequest "EXECUTION_INTENT_VERIFIER_MISMATCH"
          "This verifier supports direct Send intents only.")
      let verified ← Service.ofExcept (receipts {
        transactionHash, recipient
        sender := intent.sourceWallet
        token := intent.tokenOut
        amountUnits := intent.amountUnits })
      completeWithVerifiedReceipt runtime routing id verified
  | _, _ =>
      throw (.badRequest "EXECUTION_INTENT_NOT_SUBMITTED"
        "The execution intent has no submitted direct transfer.")

end ExecutionIntentController

/-- A call in flight. The unbounded recursion of the hash binding is cut off
after any number of attempts. -/
inductive IntentCall where
  | acquire (input : ExecutionIntentAcquireInput)
  | get (id : String)
  | getByTransactionHash (hash : String)
  | beginVerification (id : String)
  | attachTask (id taskId : String)
  | acquireLease (id leaseOwner : String) (ttlMs : ℕ)
  | prepareWalletSignature (id idempotencyKey leaseOwner : String) (ttlMs : ℕ)
  | assertLease (id leaseOwner : String)
  | bindImmutableExecutionContext (id : String) (input : ExecutionContextInput)
  | transition (id : String) (expected target : ExecutionIntentStatus) (data : TransitionData)
  | bindCircleCorrelation (id challengeId : String) (transactionId : Option String)
  | bindTransactionHash (attempts : ℕ) (id hash : String) (leaseOwner : Option String)
      (recovery : Bool)
  | bindKnownTransactionHash (attempts : ℕ) (id idempotencyKey hash : String)
  | cancelUnsubmitted (id idempotencyKey : String)
  | completeWithVerifiedReceipt (id : String) (receipt : VerifiedExecutionReceipt)
  | assertAccess (id idempotencyKey : String)
  | postAcquire (body : Json)
  | postTransactionHash (attempts : ℕ) (id : String) (body : Json)
  | postPrepareWallet (id : String) (body : Json)
  | postRecover (id : String) (body : Json)
  | postRecoverHash (attempts : ℕ) (id : String) (body : Json)
  | postCancel (id : String) (body : Json)
  | postVerify (receipts : DirectTransferVerifier) (id : String) (body : Json)

def IntentCall.program : IntentCall → IntentService ExecutionIntent
  | acquire input => Intents.acquire runtime routing input
  | get id => Intents.get routing id
  | getByTransactionHash hash => Intents.getByTransactionHash routing hash
  | beginVerification id => Intents.beginVerification routing id
  | attachTask id taskId => Intents.attachTask routing id taskId
  | acquireLease id leaseOwner ttlMs => Intents.acquireLease routing id leaseOwner ttlMs
  | prepareWalletSignature id idempotencyKey leaseOwner ttlMs =>
      Intents.prepareWalletSignature routing id idempotencyKey leaseOwner ttlMs
  | assertLease id leaseOwner => Intents.assertLease routing id leaseOwner
  | bindImmutableExecutionContext id input =>
      Intents.bindImmutableExecutionContext runtime routing id input
  | transition id expected target data => Intents.transition routing id expected target data
  | bindCircleCorrelation id challengeId transactionId =>
      Intents.bindCircleCorrelation routing id challengeId transactionId
  | bindTransactionHash attempts id hash leaseOwner recovery =>
      Intents.bindTransactionHash routing attempts id hash leaseOwner recovery
  | bindKnownTransactionHash attempts id idempotencyKey hash =>
      Intents.bindKnownTransactionHash routing attempts id idempotencyKey hash
  | cancelUnsubmitted id idempotencyKey => Intents.cancelUnsubmitted routing id idempotencyKey
  | completeWithVerifiedReceipt id receipt =>
      Intents.completeWithVerifiedReceipt runtime routing id receipt
  | assertAccess id idempotencyKey => Intents.assertAccess routing id idempotencyKey
  | postAcquire body => ExecutionIntentController.acquire runtime routing body
  | postTransactionHash attempts id body =>
      ExecutionIntentController.bindHash routing attempts id body
  | postPrepareWallet id body => ExecutionIntentController.prepareWallet routing id body
  | postRecover id body => ExecutionIntentController.recover routing id body
  | postRecoverHash attempts id body =>
      ExecutionIntentController.recoverHash routing attempts id body
  | postCancel id body => ExecutionIntentController.cancel routing id body
  | postVerify receipts id body => ExecutionIntentController.verify runtime routing receipts id body

abbrev IntentPool := Pool intentSignature Database (Except ServiceError ExecutionIntent)

/-- Concurrent calls over one database. -/
def callPool (calls : List IntentCall) (database : Database) : IntentPool :=
  ⟨database, calls.map fun call => (call.program runtime routing).run⟩

end WizPay.Intents
