import WizPay.Backend.Routing
import WizPay.Bridge.Store

/-!
# The bridge lifecycle service

The calls on one bridge intent. Each reads the row, checks what it needs of the
result it read, asks Circle or the destination node where it has to, and writes.
-/

namespace WizPay.Bridge

open Foundation Backend

abbrev BridgeService (α : Type) := Service bridgeSignature α

/-- The texts a service depends on, and for which chains a node can be asked. -/
structure BridgeConfig where
  runtime : Runtime
  keccak256 : String → String
  destinationRpc : ℕ → Bool

structure BridgeIntentView where
  id : String
  status : BridgeLifecycleStatus
  payload : BridgeIntentPayload
  result : BridgeLifecycleResult
  /-- Only the call that authorizes the destination returns a lease. -/
  destinationLeaseId : Option String
deriving DecidableEq

def view (row : BridgeRow) : BridgeIntentView := ⟨row.id, row.status, row.payload, resultOf row, none⟩

/-! ## Operations -/

def currentTime : BridgeService ℕ := Service.perform (S := bridgeSignature) .now

def randomUUID : BridgeService String := Service.perform (S := bridgeSignature) .randomUUID

def findUnique (id : String) : BridgeService (Option BridgeRow) := do
  Service.orThrow (← Service.perform (S := bridgeSignature) (.findUnique id))

/-- Writes an edit of the result that was read. -/
def update (id : String) (snapshot : BridgeLifecycleResult) (edit : BridgeEdit) :
    BridgeService BridgeRow := do
  Service.orThrow (← Service.perform (S := bridgeSignature) (.update id snapshot edit))

def fetchMessages (sourceDomain : ℕ) (transactionHash : String) :
    BridgeService (Option IrisResponse) :=
  Service.perform (S := bridgeSignature) (.fetchMessages sourceDomain transactionHash)

def readDestination (chainId : ℕ) (transactionHash : String) :
    BridgeService (Option DestinationEvidence) :=
  Service.perform (S := bridgeSignature) (.readDestination chainId transactionHash)

/-! ## Checks -/

def hashConflict (message : String) : ServiceError := .conflict "BRIDGE_HASH_CONFLICT" message

def attestationRequired (message : String) : ServiceError :=
  .conflict "BRIDGE_ATTESTATION_REQUIRED" message

def attestationMismatch (message : String) : ServiceError :=
  .conflict "BRIDGE_ATTESTATION_MISMATCH" message

def attestationUnavailable : ServiceError :=
  .pending "BRIDGE_ATTESTATION_UNAVAILABLE"
    "The Circle attestation service is temporarily unavailable. Retry shortly."

def txHash (value : String) : Except ServiceError String :=
  if isHexText 64 value then return asciiLower value
  else throw (.badRequest "BRIDGE_INVALID_HASH" "Bridge transaction hash is malformed.")

def required (id : String) : BridgeService BridgeRow := do
  match ← findUnique id with
  | none => throw (.notFound "BRIDGE_INTENT_NOT_FOUND" "Bridge intent not found.")
  | some row => return row

variable (config : BridgeConfig)

def ownership (row : BridgeRow) (walletAddress : String) : BridgeService Unit :=
  Service.throwIf (isAddress config.runtime walletAddress = false ∨
      addressOf walletAddress ≠ some row.payload.walletAddress)
    (.forbidden "BRIDGE_INTENT_FORBIDDEN" "This bridge intent belongs to another wallet.")

/-! ## Reports -/

/-- A hash is recorded once: with the recorded one nothing is written, and any
other is refused. -/
def reportOnce (id : String) (row : BridgeRow) (recorded : Option String) (hash message : String)
    (edit : BridgeEdit) : BridgeService BridgeIntentView :=
  match recorded with
  | some prior =>
      if asciiLower prior ≠ asciiLower hash then throw (hashConflict message) else return view row
  | none => do
      let updated ← update id (resultOf row) edit
      return view updated

def reportApproval (id walletAddress transactionHash : String) :
    BridgeService BridgeIntentView := do
  let row ← required id
  ownership config row walletAddress
  let hash ← Service.ofExcept (txHash transactionHash)
  reportOnce id row (resultOf row).approvalTransactionHash hash
    "A different approval transaction is already recorded for this bridge intent."
    (.reportApproval hash)

def reportSource (id walletAddress transactionHash : String) : BridgeService BridgeIntentView := do
  let row ← required id
  ownership config row walletAddress
  let hash ← Service.ofExcept (txHash transactionHash)
  reportOnce id row (resultOf row).sourceTransactionHash hash
    "A different source transaction is already recorded for this bridge intent."
    (.reportSource hash)

/-- The hash of an attested message against the reported one. -/
def messageConflicts (result : BridgeLifecycleResult) (messageHash : String) : Bool :=
  result.attestedMessage.isSome &&
    result.messageHash.any fun prior => asciiLower prior ≠ asciiLower messageHash

def reportDestination (id walletAddress transactionHash messageHash : String) :
    BridgeService BridgeIntentView := do
  let row ← required id
  ownership config row walletAddress
  let hash ← Service.ofExcept (txHash transactionHash)
  let messageHash ← Service.ofExcept (txHash messageHash)
  Service.throwIf (messageConflicts (resultOf row) messageHash = true)
    (.conflict "BRIDGE_MESSAGE_CONFLICT"
      "The reported destination message does not match the Circle attestation.")
  reportOnce id row (resultOf row).destinationTransactionHash hash
    "A different destination transaction is already recorded for this bridge intent."
    (.reportDestination hash messageHash)

/-! ## The destination -/

def DESTINATION_LEASE_TTL_MS : ℕ := 5 * 60000

def authorizeDestination (id walletAddress : String) : BridgeService BridgeIntentView := do
  let row ← required id
  ownership config row walletAddress
  Service.throwIf (row.status ≠ .attestation_ready) (attestationRequired
    "A complete Circle attestation is required before authorizing the destination mint.")
  let destinationLeaseId ← randomUUID
  let now ← currentTime
  let updated ← update id (resultOf row)
    (.authorizeDestination destinationLeaseId (now + DESTINATION_LEASE_TTL_MS))
  return { view updated with destinationLeaseId := some destinationLeaseId }

/-- The lease that was granted last is checked, the hashes are not. -/
def submitDestination (id walletAddress transactionHash messageHash leaseId : String) :
    BridgeService BridgeIntentView := do
  let row ← required id
  ownership config row walletAddress
  Service.throwIf (row.destinationLeaseId ≠ some leaseId ∨ leaseId = "")
    (.conflict "BRIDGE_LEASE_CONFLICT"
      "The destination submission lease is missing or owned by another submitter.")
  let now ← currentTime
  Service.throwIf (row.destinationLeaseExpiresAt.all (fun expiry => expiry ≤ now) = true)
    (.conflict "BRIDGE_LEASE_EXPIRED"
      "The destination submission lease expired. Authorize the destination mint again.")
  let hash ← Service.ofExcept (txHash transactionHash)
  let messageHash ← Service.ofExcept (txHash messageHash)
  let submittedAt ← currentTime
  let updated ← update id (resultOf row) (.submitDestination hash messageHash submittedAt)
  return view updated

/-- The attested message is checked before the node is asked. -/
def proveDestinationReceipt (payload : BridgeIntentPayload) (result : BridgeLifecycleResult) :
    BridgeService Bool :=
  if config.destinationRpc payload.destinationChainId = false then return false
  else match result.destinationTransactionHash, result.attestedMessage with
    | some hash, some message => do
        let decoded ← Service.ofExcept (decodeCctpV2Message config.keccak256 message)
        Service.throwIf (matchesBridgeAttestation payload decoded result.nonce = false)
          (attestationMismatch
            "The stored Circle attestation does not match this bridge intent.")
        match ← readDestination payload.destinationChainId hash with
        | none =>
            throw (.pending "BRIDGE_DESTINATION_PENDING"
              "The destination mint receipt is not available yet.")
        | some evidence =>
            Service.throwIf (evidenceMatches payload message decoded evidence = false)
              (.conflict "BRIDGE_DESTINATION_MISMATCH"
                "The destination transaction does not prove the attested CCTP mint.")
            return true
    | _, _ =>
        throw (.conflict "BRIDGE_DESTINATION_REQUIRED"
          "The destination mint transaction and attested message are required.")

/-- The task of the intent is completed in the same transaction. -/
def verifyDestination (id walletAddress : String) : BridgeService BridgeIntentView := do
  let row ← required id
  ownership config row walletAddress
  let result := resultOf row
  Service.throwIf (result.attestation = none ∨ result.attestedMessage = none) (attestationRequired
    "A complete Circle attestation is required before completing the bridge.")
  Service.throwIf (result.destinationTransactionHash = none)
    (.conflict "BRIDGE_DESTINATION_REQUIRED"
      "The destination mint transaction hash is required before completing the bridge.")
  let verified ← proveDestinationReceipt config row.payload result
  let now ← currentTime
  let updated ← update id result (.verifyDestination verified now)
  return view updated

/-! ## The attestation -/

inductive FetchedAttestation where
  | notIndexed
  | pending (status : String) (delayReason : Option String)
  | complete (message attestation : String)

/-- The text of a property. -/
def textOf (value : Json) (key : String) : Option String :=
  match value.get? key with
  | some (.string text) => some text
  | _ => none

def startsWith0x (text : String) : Bool := text.toList.take 2 = ['0', 'x']

/-- The first message of a response decides. -/
def firstMessage (message : Json) : FetchedAttestation :=
  let pending := FetchedAttestation.pending ((textOf message "status").getD "unknown")
    (textOf message "delayReason")
  match textOf message "message", textOf message "attestation" with
  | some text, some attestation =>
      if textOf message "status" = some "complete" ∧ startsWith0x text = true ∧
          startsWith0x attestation = true then
        .complete text attestation
      else pending
  | _, _ => pending

def readResponse : Option IrisResponse → Except ServiceError FetchedAttestation
  | none => throw attestationUnavailable
  | some response =>
      if response.status = 404 then return .notIndexed
      else if response.status < 200 ∨ 300 ≤ response.status then throw attestationUnavailable
      else match response.body with
        | none => throw (.error "SyntaxError")
        | some .null => throw (.error "TypeError")
        | some body =>
            match body.get? "messages" with
            | some (.array (message :: _)) =>
                return if truthy message then firstMessage message else .notIndexed
            | _ => return .notIndexed

def fetchAttestation (sourceDomain : ℕ) (transactionHash : String) :
    BridgeService FetchedAttestation := do
  Service.ofExcept (readResponse (← fetchMessages sourceDomain transactionHash))

/-- What a fetched attestation makes of the result. -/
def attestationEdit (payload : BridgeIntentPayload) :
    FetchedAttestation → Except ServiceError BridgeEdit
  | .notIndexed => return .awaitAttestation "not_indexed" none
  | .pending status delayReason => return .awaitAttestation status delayReason
  | .complete message attestation => do
      let decoded ← decodeCctpV2Message config.keccak256 message
      if matchesBridgeAttestation payload decoded none = false then
        throw (attestationMismatch
          "The Circle attestation does not match the stored bridge intent.")
      else return .attest message attestation decoded

def refreshAttestation (id walletAddress : String) : BridgeService BridgeIntentView := do
  let row ← required id
  ownership config row walletAddress
  match (resultOf row).sourceTransactionHash with
  | none =>
      throw (.conflict "BRIDGE_SOURCE_REQUIRED"
        "The source burn transaction hash is required before fetching the Circle attestation.")
  | some sourceHash =>
      let fetched ← fetchAttestation row.payload.sourceDomain sourceHash
      let edit ← Service.ofExcept (attestationEdit config row.payload fetched)
      let updated ← update id (resultOf row) edit
      return view updated

def getAttestation (id walletAddress : String) : BridgeService BridgeIntentView :=
  refreshAttestation config id walletAddress

def reattest (id walletAddress : String) : BridgeService BridgeIntentView :=
  refreshAttestation config id walletAddress

/-! ## Calls -/

/-- A call on the intent with an id, by the wallet it names. -/
inductive BridgeCall where
  | reportApproval (walletAddress transactionHash : String)
  | reportSource (walletAddress transactionHash : String)
  | getAttestation (walletAddress : String)
  | reattest (walletAddress : String)
  | reportDestination (walletAddress transactionHash messageHash : String)
  | authorizeDestination (walletAddress : String)
  | submitDestination (walletAddress transactionHash messageHash leaseId : String)
  | verifyDestination (walletAddress : String)

def BridgeCall.program (id : String) : BridgeCall → BridgeService BridgeIntentView
  | reportApproval walletAddress transactionHash =>
      Bridge.reportApproval config id walletAddress transactionHash
  | reportSource walletAddress transactionHash =>
      Bridge.reportSource config id walletAddress transactionHash
  | getAttestation walletAddress => Bridge.getAttestation config id walletAddress
  | reattest walletAddress => Bridge.reattest config id walletAddress
  | reportDestination walletAddress transactionHash messageHash =>
      Bridge.reportDestination config id walletAddress transactionHash messageHash
  | authorizeDestination walletAddress => Bridge.authorizeDestination config id walletAddress
  | submitDestination walletAddress transactionHash messageHash leaseId =>
      Bridge.submitDestination config id walletAddress transactionHash messageHash leaseId
  | verifyDestination walletAddress => Bridge.verifyDestination config id walletAddress

end WizPay.Bridge
