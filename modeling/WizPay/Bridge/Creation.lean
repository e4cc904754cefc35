import WizPay.Bridge.Service

/-!
# Creating bridge intents

A request is checked against the registry of chains, and for a fast route against
the live fee and allowance. Then the intent with its idempotency key is looked
up, and created if there is none. The key is a property of the JSON payload.
-/

namespace WizPay.Bridge

open Foundation Backend

/-! ## The registry -/

structure BridgeChain where
  code : String
  chainId : ℕ
  domain : ℕ
  usdcAddress : Evm.Address
  tokenMessengerV2 : Evm.Address
  messageTransmitterV2 : Evm.Address
  fastTransferSource : Bool

def CCTP_TOKEN_MESSENGER_V2 : Evm.Address := 0x28b5a0e9C621a5BadaA536219b3a228C8168cf5d

def CCTP_MESSAGE_TRANSMITTER_V2 : Evm.Address := 0x81D40F21F12A8F0E3252Bccb954D722d4c464B64

/-- Every chain has the same contracts of Circle. -/
def bridgeChain (code : String) (chainId domain : ℕ) (usdcAddress : Evm.Address)
    (fastTransferSource : Bool) : BridgeChain where
  code
  chainId
  domain
  usdcAddress
  tokenMessengerV2 := CCTP_TOKEN_MESSENGER_V2
  messageTransmitterV2 := CCTP_MESSAGE_TRANSMITTER_V2
  fastTransferSource

def BRIDGE_CHAINS : List BridgeChain := [
  bridgeChain "ARC-MAINNET" 5042 26 0x3600000000000000000000000000000000000000 false,
  bridgeChain "ETH-MAINNET" 1 0 0xA0b86991c6218b36c1d19D4a2e9Eb0cE3606eB48 true,
  bridgeChain "BASE-MAINNET" 8453 6 0x833589fCD6eDb6E08f4c7C32D4f71b54bdA02913 true,
  bridgeChain "ARB-MAINNET" 42161 3 0xaf88d065e77c8cC2239327C5EDb3A432268e5831 true,
  bridgeChain "OP-MAINNET" 10 2 0x0b2C639c533813f4Aa9D7837CAf62653d097Ff85 true,
  bridgeChain "POLYGON-MAINNET" 137 7 0x3c499c542cEF5E3811e1192ce70d8cC03d5c3359 false,
  bridgeChain "AVAX-MAINNET" 43114 1 0xB97EF9Ef8734C71904D8002F8b6Bc66Dd9c48a6E false]

def standardFinalityThreshold : ℕ := 2000

def fastFinalityThreshold : ℕ := 1000

/-- The single-burn limit in base units. -/
def maxBurnAmountUnits : ℕ := 10000000000000

def getBridgeChain (code : String) : Except ServiceError BridgeChain :=
  match BRIDGE_CHAINS.find? fun chain => chain.code = code with
  | some chain => return chain
  | none => throw (.badRequest "BRIDGE_CHAIN_UNKNOWN" ("Unknown bridge chain: " ++
      (Json.string code).stringify ++ ". Bridge is available on Arc Mainnet CCTP routes only."))

def assertBridgeRoute (sourceCode destinationCode : String) :
    Except ServiceError (BridgeChain × BridgeChain) := do
  let source ← getBridgeChain sourceCode
  let destination ← getBridgeChain destinationCode
  if source.code = destination.code then
    throw (.badRequest "BRIDGE_ROUTE_SAME_CHAIN"
      "Bridge source and destination must be different blockchains.")
  else if source.code ≠ "ARC-MAINNET" ∧ destination.code ≠ "ARC-MAINNET" then
    throw (.badRequest "BRIDGE_ROUTE_NOT_ARC"
      "Bridge routes must include Arc Mainnet as source or destination.")
  else return (source, destination)

def BridgeChain.finalityThreshold (source : BridgeChain) : ℕ :=
  if source.fastTransferSource then fastFinalityThreshold else standardFinalityThreshold

/-! ## Stored creations -/

/-- The part of a payload that only its creation reads. -/
structure BridgeCreation where
  idempotencyKey : String
  sourceCode : String
  destinationCode : String
  destinationUsdcAddress : Evm.Address
deriving DecidableEq

/-- A row with its whole payload. -/
structure StoredBridge where
  row : BridgeRow
  creation : BridgeCreation
deriving DecidableEq

/-- The view of a row that a creation returns. -/
structure CreatedView where
  intent : BridgeIntentView
  creation : BridgeCreation
deriving DecidableEq

def StoredBridge.view (stored : StoredBridge) : CreatedView := ⟨Bridge.view stored.row, stored.creation⟩

/-- A new row in status idle. -/
def StoredBridge.created (id : String) (payload : BridgeIntentPayload) (creation : BridgeCreation) :
    StoredBridge where
  row := {
    id
    status := .idle
    payload
    result := none
    messageHash := none
    nonce := none
    destinationTransactionHash := none
    destinationLeaseId := none
    destinationLeaseExpiresAt := none }
  creation

inductive CreationOp where
  | fetchFees (sourceDomain destinationDomain : ℕ)
  | fetchAllowance
  | findFirst (idempotencyKey : String)
  | create (payload : BridgeIntentPayload) (creation : BridgeCreation)

def CreationOp.Res : CreationOp → Type
  | .fetchFees _ _ => Option ℕ
  | .fetchAllowance => Option ℕ
  | .findFirst _ => Except DbError (Option StoredBridge)
  | .create _ _ => Except DbError StoredBridge

def creationSignature : Signature := ⟨CreationOp, CreationOp.Res⟩

/-- One input of the environment. The fee is in hundredths of a basis point and the
allowance in base units, if Circle answers with a number in range. -/
structure CreationInput where
  freshId : String
  outage : Option DbError
  fee : Option ℕ
  allowance : Option ℕ

/-- A creation adds a row, whatever keys are there. -/
def creationMachine : Machine creationSignature CreationInput (List StoredBridge) where
  answer
    | .fetchFees _ _, input, rows => (input.fee, rows)
    | .fetchAllowance, input, rows => (input.allowance, rows)
    | .findFirst idempotencyKey, input, rows =>
        (match input.outage with
          | none => .ok (rows.find? fun stored => stored.creation.idempotencyKey = idempotencyKey)
          | some error => .error error, rows)
    | .create payload creation, input, rows =>
        let stored := StoredBridge.created input.freshId payload creation
        match input.outage with
        | none => (.ok stored, rows ++ [stored])
        | some error => (.error error, rows)

abbrev CreationService (α : Type) := Service creationSignature α

def fetchFees (sourceDomain destinationDomain : ℕ) : CreationService (Option ℕ) :=
  Service.perform (S := creationSignature) (.fetchFees sourceDomain destinationDomain)

def fetchAllowance : CreationService (Option ℕ) :=
  Service.perform (S := creationSignature) .fetchAllowance

def findFirst (idempotencyKey : String) : CreationService (Option StoredBridge) := do
  Service.orThrow (← Service.perform (S := creationSignature) (.findFirst idempotencyKey))

def create (payload : BridgeIntentPayload) (creation : BridgeCreation) :
    CreationService StoredBridge := do
  Service.orThrow (← Service.perform (S := creationSignature) (.create payload creation))

/-! ## Requests -/

/-- `CreateBridgeIntentDto`. -/
structure CreateBridgeIntent where
  idempotencyKey : String
  sourceCode : String
  destinationCode : String
  walletAddress : String
  recipientAddress : String
  amount : String
  maxFee : String
  minFinalityThreshold : ℕ

/-- The shape `/^(0|[1-9][0-9]*)$/`. -/
def isUnsigned (text : String) : Bool := text = "0" || isBaseUnits text

variable (runtime : Runtime)

def parseAddress (value label : String) : Except ServiceError Evm.Address :=
  let invalid := ServiceError.badRequest "BRIDGE_INVALID_ADDRESS"
    ("Bridge " ++ label ++ " must be a valid EVM address.")
  if isAddress runtime (trim value) then
    match addressOf (trim value) with
    | some address => return address
    | none => throw invalid
  else throw invalid

def parseAmount (value label : String) : Except ServiceError ℕ :=
  if isUnsigned value = false then
    throw (.badRequest "BRIDGE_INVALID_AMOUNT"
      ("Bridge " ++ label ++ " must be a canonical positive integer string."))
  else if maxBurnAmountUnits < bigInt value then
    throw (.badRequest "BRIDGE_AMOUNT_ABOVE_MAX"
      "Bridge amount exceeds the CCTP single-transfer limit. Split the transfer.")
  else return bigInt value

def invalidRequest (message : String) : ServiceError := .badRequest "BRIDGE_INVALID_REQUEST" message

/-- A request that passed its checks. -/
structure CheckedRequest where
  source : BridgeChain
  destination : BridgeChain
  walletAddress : Evm.Address
  recipientAddress : Evm.Address
  amount : ℕ
  maxFee : ℕ

def checkRequest (input : CreateBridgeIntent) : Except ServiceError CheckedRequest := do
  let (source, destination) ← assertBridgeRoute input.sourceCode input.destinationCode
  let walletAddress ← parseAddress runtime input.walletAddress "walletAddress"
  let recipientAddress ← parseAddress runtime input.recipientAddress "recipientAddress"
  let amount ← parseAmount input.amount "amount"
  let maxFee ← parseAmount input.maxFee "maxFee"
  if amount = 0 then throw (invalidRequest "Bridge amount must be greater than zero.")
  else if amount < maxFee then
    throw (invalidRequest "Bridge maxFee must not exceed the burn amount.")
  else if input.minFinalityThreshold ≠ source.finalityThreshold then
    throw (.badRequest "BRIDGE_TRANSFER_MODE_MISMATCH" ("Bridge minFinalityThreshold must be " ++
      toString source.finalityThreshold ++ " for " ++ source.code ++ "."))
  else return { source, destination, walletAddress, recipientAddress, amount, maxFee }

def fastUnavailable : ServiceError := .unavailable "BRIDGE_FAST_UNAVAILABLE"
  "Fast CCTP transfer is temporarily unavailable for this route."

/-- The fee of an amount, rounded up. -/
def protocolFee (amount hundredths : ℕ) : ℕ := (amount * hundredths + 999999) / 1000000

def assertFastReady (checked : CheckedRequest) : CreationService Unit := do
  match ← fetchFees checked.source.domain checked.destination.domain with
  | none => throw fastUnavailable
  | some hundredths => do
      Service.throwIf (checked.maxFee < protocolFee checked.amount hundredths) fastUnavailable
      match ← fetchAllowance with
      | none => throw fastUnavailable
      | some allowance => Service.throwIf (allowance < checked.amount) fastUnavailable

/-- What the lookup compares: neither the maximal fee nor the threshold. -/
def sameRequest (stored : StoredBridge) (checked : CheckedRequest) : Bool :=
  stored.row.payload.walletAddress = checked.walletAddress &&
    stored.creation.sourceCode = checked.source.code &&
    stored.creation.destinationCode = checked.destination.code &&
    stored.row.payload.amount = toString checked.amount &&
    stored.row.payload.recipientAddress = checked.recipientAddress

/-- The payload of a new intent; anyone may submit its mint. -/
def intentPayload (checked : CheckedRequest) : BridgeIntentPayload where
  sourceChainId := checked.source.chainId
  destinationChainId := checked.destination.chainId
  sourceDomain := checked.source.domain
  destinationDomain := checked.destination.domain
  sourceUsdcAddress := checked.source.usdcAddress
  sourceTokenMessengerV2 := checked.source.tokenMessengerV2
  destinationTokenMessengerV2 := checked.destination.tokenMessengerV2
  destinationMessageTransmitterV2 := checked.destination.messageTransmitterV2
  walletAddress := checked.walletAddress
  recipientAddress := checked.recipientAddress
  destinationCaller := 0
  amount := toString checked.amount
  maxFee := toString checked.maxFee
  minFinalityThreshold := checked.source.finalityThreshold

def intentCreation (idempotencyKey : String) (checked : CheckedRequest) : BridgeCreation where
  idempotencyKey
  sourceCode := checked.source.code
  destinationCode := checked.destination.code
  destinationUsdcAddress := checked.destination.usdcAddress

/-- The lookup and, if nothing is found, the creation. -/
def findOrCreate (idempotencyKey : String) (checked : CheckedRequest) :
    CreationService CreatedView := do
  match ← findFirst idempotencyKey with
  | some existing => do
      Service.throwIf (sameRequest existing checked = false) (.conflict "BRIDGE_INTENT_CONFLICT"
        "A bridge intent with this idempotency key already exists with different parameters.")
      return existing.view
  | none => do
      let created ← create (intentPayload checked) (intentCreation idempotencyKey checked)
      return created.view

def createIntent (input : CreateBridgeIntent) : CreationService CreatedView := do
  let checked ← Service.ofExcept (checkRequest runtime input)
  if checked.source.fastTransferSource then
    assertFastReady checked
    findOrCreate input.idempotencyKey checked
  else findOrCreate input.idempotencyKey checked

end WizPay.Bridge
