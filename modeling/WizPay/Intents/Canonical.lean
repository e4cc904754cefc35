import WizPay.Intents.Store

/-!
# Canonical requests

A request for an intent is checked and brought into one form, whose digests
are the logical key, the request fingerprint and the idempotency key.
-/

namespace WizPay.Intents

open Backend

structure ExecutionIntentAcquireInput where
  network : Json
  operation : ExecutionIntentOperation
  ownerId : Option String
  sourceWallet : String
  recipient : Option String
  batchDigest : Option String
  tokenIn : String
  tokenOut : String
  amountUnits : String
  externalReference : String
  taskId : Option String

def immutableConflict (message : String) : ServiceError :=
  .conflict "EXECUTION_INTENT_IMMUTABLE_CONFLICT" message

/-- `value || null`: an empty text counts as none. -/
def nonempty : Option String → Option String
  | some "" => none
  | value => value

def routingOperation : ExecutionIntentOperation → PaymentOperation
  | .SEND => .SEND
  | .PAYROLL => .PAYROLL
  | .TOKEN_APPROVAL => .PAYROLL
  | .INVOICE_SETTLEMENT => .PAYMENT_LINK
  | .PAYMENT_LINK_SETTLEMENT => .PAYMENT_LINK

def baseUnits (value : String) : Except ServiceError String :=
  if isBaseUnits value then return toString (bigInt value)
  else throw (immutableConflict "Execution amount must be exact positive base units.")

/-- A version 5 identifier out of the first half of a digest. -/
def uuidFromHash (hash : String) : String :=
  let chars := (hash.toList.take 32).set 12 '5'
  let chars := chars.set 16 (hexDigit (hexValue (chars.getD 16 '0') % 4 + 8))
  String.intercalate "-" ([chars.take 8, (chars.drop 8).take 4, (chars.drop 12).take 4,
    (chars.drop 16).take 4, chars.drop 20].map String.ofList)

variable (runtime : Runtime) (routing : PaymentRouting)

/-- The part of a request that an intent keeps for good. -/
structure Immutable where
  network : String
  operation : ExecutionIntentOperation
  ownerId : Option String
  sourceWallet : String
  recipient : Option String
  batchDigest : Option String
  tokenIn : String
  tokenOut : String
  amountUnits : String
  externalReference : String
deriving DecidableEq

namespace Immutable

def json (request : Immutable) : Json :=
  .object [("network", .string request.network), ("operation", .string request.operation.name),
    ("ownerId", .ofOption request.ownerId), ("sourceWallet", .string request.sourceWallet),
    ("recipient", .ofOption request.recipient), ("batchDigest", .ofOption request.batchDigest),
    ("tokenIn", .string request.tokenIn), ("tokenOut", .string request.tokenOut),
    ("amountUnits", .string request.amountUnits),
    ("externalReference", .string request.externalReference)]

/-- A settlement is one logical operation whoever pays. -/
def logicalJson (request : Immutable) : Json :=
  .object ([("network", .string request.network), ("operation", .string request.operation.name)] ++
    (if request.operation.settles.isSome then []
      else [("ownerId", .ofOption request.ownerId),
        ("sourceWallet", .string (asciiLower request.sourceWallet))]) ++
    [("externalReference", .string request.externalReference)])

def logicalKey (request : Immutable) : String := runtime.sha256 request.logicalJson.stableJson

def requestFingerprint (request : Immutable) : String := runtime.sha256 request.json.stableJson

def idempotencyKey (request : Immutable) : String :=
  uuidFromHash (runtime.sha256 ("wizpay:" ++ request.requestFingerprint runtime))

end Immutable

/-- What an intent keeps of the request it was created for. -/
def ExecutionIntent.immutable (intent : ExecutionIntent) : Immutable where
  network := intent.network
  operation := intent.operation
  ownerId := intent.ownerId
  sourceWallet := intent.sourceWallet
  recipient := intent.recipient
  batchDigest := intent.batchDigest
  tokenIn := intent.tokenIn
  tokenOut := intent.tokenOut
  amountUnits := intent.amountUnits
  externalReference := intent.externalReference

def requireAddress (address : String) : Except ServiceError String :=
  match getAddress runtime address with
  | some address => return address
  | none => throw invalidAddress

def intentRoute : PaymentRouteKind → ExecutionIntentRoute
  | .DIRECT_TRANSFER => .DIRECT_TRANSFER
  | .CROSS_TOKEN_ATOMIC => .CROSS_TOKEN_ATOMIC
  | .CROSS_TOKEN_DISABLED => .CROSS_TOKEN_DISABLED

/-- The checks of `canonicalize`, in their order. -/
def immutableRequest (input : ExecutionIntentAcquireInput) :
    Except ServiceError (Immutable × PaymentRouteDecision) := do
  let sourceWallet ← requireAddress runtime input.sourceWallet
  let recipient ← (nonempty input.recipient).mapM (requireAddress runtime)
  let amountUnits ← baseUnits input.amountUnits
  let externalReference := trim input.externalReference
  if externalReference = "" ∨ 160 < utf16Length externalReference then
    throw (immutableConflict "A stable external business reference is required.")
  if recipient = none ∧ nonempty input.batchDigest = none then
    throw (immutableConflict
      "An execution intent requires a recipient or deterministic batch digest.")
  let decision ← assertExecutable (← decide runtime routing input.network
    (routingOperation input.operation) (.string input.tokenIn) (.string input.tokenOut))
  return ({
    network := routing.network
    operation := input.operation
    ownerId := nonempty (input.ownerId.map trim)
    sourceWallet, recipient
    batchDigest := nonempty (input.batchDigest.map fun digest => runtime.toLowerCase (trim digest))
    tokenIn := decision.tokenIn
    tokenOut := decision.tokenOut
    amountUnits, externalReference }, decision)

def canonicalize (input : ExecutionIntentAcquireInput) :
    Except ServiceError CanonicalAcquireInput := do
  let (request, decision) ← immutableRequest runtime routing input
  return {
    network := request.network
    operation := request.operation
    ownerId := request.ownerId
    sourceWallet := request.sourceWallet
    recipient := request.recipient
    batchDigest := request.batchDigest
    tokenIn := request.tokenIn
    tokenOut := request.tokenOut
    amountUnits := request.amountUnits
    externalReference := request.externalReference
    logicalKey := request.logicalKey runtime
    requestFingerprint := request.requestFingerprint runtime
    idempotencyKey := request.idempotencyKey runtime
    route := intentRoute decision.kind
    provider := decision.provider
    taskId := input.taskId }

/-! ## The digest of a payroll batch -/

structure BatchEntry where
  recipient : String
  token : String
  amountUnits : String
deriving DecidableEq

/-- An entry as the digest writes it: addresses in lower case, amounts without
leading zeros. -/
def batchEntryJson (index : ℕ) (entry : BatchEntry) : Except ServiceError Json := do
  let recipient ← requireAddress runtime entry.recipient
  let token ← requireAddress runtime entry.token
  if isBaseUnits entry.amountUnits = false then
    throw (.error "Payroll amount must be positive base units.")
  return .object [("index", .number (toString index)), ("recipient", .string (asciiLower recipient)),
    ("token", .string (asciiLower token)),
    ("amountUnits", .string (toString (bigInt entry.amountUnits)))]

def batchEntries : ℕ → List BatchEntry → Except ServiceError (List Json)
  | _, [] => return []
  | index, entry :: rest => do
      let json ← batchEntryJson runtime index entry
      return json :: (← batchEntries (index + 1) rest)

def createPayrollBatchDigest (recipients : List BatchEntry) : Except ServiceError String := do
  if recipients = [] then throw (.error "Payroll batch cannot be empty.")
  return runtime.sha256 (Json.array (← batchEntries runtime 0 recipients)).stableJson

end WizPay.Intents
