import WizPay.Backend.Service
import WizPay.Backend.Address

/-!
# CCTP messages

The fixed layout of a burn message, what a bridge intent asks of an attested
one, and when the logs of a destination receipt prove that it was received.
-/

namespace WizPay.Bridge

open Backend

/-- The fields of an intent's payload that the later calls read; its addresses
were parsed when it was created. -/
structure BridgeIntentPayload where
  sourceChainId : ℕ
  destinationChainId : ℕ
  sourceDomain : ℕ
  destinationDomain : ℕ
  sourceUsdcAddress : Evm.Address
  sourceTokenMessengerV2 : Evm.Address
  destinationTokenMessengerV2 : Evm.Address
  destinationMessageTransmitterV2 : Evm.Address
  walletAddress : Evm.Address
  recipientAddress : Evm.Address
  destinationCaller : Evm.Address
  amount : String
  maxFee : String
  minFinalityThreshold : ℕ
deriving DecidableEq

structure DecodedCctpMessage where
  version : ℕ
  sourceDomain : ℕ
  destinationDomain : ℕ
  nonce : String
  sender : Evm.Address
  recipient : Evm.Address
  destinationCaller : Evm.Address
  minFinalityThreshold : ℕ
  finalityThresholdExecuted : ℕ
  burnVersion : ℕ
  burnToken : Evm.Address
  mintRecipient : Evm.Address
  amount : ℕ
  messageSender : Evm.Address
  maxFee : ℕ
  feeExecuted : ℕ
  expirationBlock : ℕ
  messageHash : String
deriving DecidableEq

/-! ## Decoding -/

def HEADER_LENGTH : ℕ := 148

def BURN_BODY_LENGTH : ℕ := 228

/-- The digits of `length` bytes of a message, given by its digits. -/
def sliceBytes (digits : List Char) (offset length : ℕ) : List Char :=
  (digits.drop (offset * 2)).take (length * 2)

def readNumber (digits : List Char) (offset length : ℕ) : ℕ :=
  hexNat (sliceBytes digits offset length)

/-- The last twenty of thirty-two bytes. -/
def readAddress (digits : List Char) (offset : ℕ) : Evm.Address :=
  BitVec.ofNat 160 (hexNat ((sliceBytes digits offset 32).drop 24))

def addressToBytes32 (address : Evm.Address) : String :=
  String.ofList ('0' :: 'x' :: hexDigits 64 address.toNat)

/-- `isHex`. -/
def isHex (message : String) : Bool :=
  match message.toList with
  | '0' :: 'x' :: digits => digits.all isHexDigit
  | _ => false

/-- The fields of a message of hex digits; its hash is that of the library. -/
def decodeFields (keccak256 : String → String) (message : String) (digits : List Char) :
    DecodedCctpMessage where
  version := readNumber digits 0 4
  sourceDomain := readNumber digits 4 4
  destinationDomain := readNumber digits 8 4
  nonce := String.ofList ('0' :: 'x' :: sliceBytes digits 12 32)
  sender := readAddress digits 44
  recipient := readAddress digits 76
  destinationCaller := readAddress digits 108
  minFinalityThreshold := readNumber digits 140 4
  finalityThresholdExecuted := readNumber digits 144 4
  burnVersion := readNumber digits HEADER_LENGTH 4
  burnToken := readAddress digits (HEADER_LENGTH + 4)
  mintRecipient := readAddress digits (HEADER_LENGTH + 36)
  amount := readNumber digits (HEADER_LENGTH + 68) 32
  messageSender := readAddress digits (HEADER_LENGTH + 100)
  maxFee := readNumber digits (HEADER_LENGTH + 132) 32
  feeExecuted := readNumber digits (HEADER_LENGTH + 164) 32
  expirationBlock := readNumber digits (HEADER_LENGTH + 196) 32
  messageHash := keccak256 message

def decodeCctpV2Message (keccak256 : String → String) (message : String) :
    Except ServiceError DecodedCctpMessage :=
  let digits := message.toList.drop 2
  if isHex message = false ∨ digits.length < (HEADER_LENGTH + BURN_BODY_LENGTH) * 2 then
    throw (.badRequest "BRIDGE_MESSAGE_INVALID" "The bridge message is invalid or incomplete.")
  else return decodeFields keccak256 message digits

/-- The digits behind the header. -/
def bodyText (message : String) : String :=
  String.ofList ('0' :: 'x' :: message.toList.drop (2 + HEADER_LENGTH * 2))

/-- The body that `MessageReceived` carries: all but the header. -/
def cctpMessageBody (keccak256 : String → String) (message : String) :
    Except ServiceError String := do
  let _ ← decodeCctpV2Message keccak256 message
  return bodyText message

/-- A text of enough hex digits decodes to its fields. -/
theorem decode_ofList (keccak256 : String → String) {digits : List Char}
    (hdigits : digits.all isHexDigit = true)
    (hlength : (HEADER_LENGTH + BURN_BODY_LENGTH) * 2 ≤ digits.length) :
    decodeCctpV2Message keccak256 (String.ofList ('0' :: 'x' :: digits)) =
      .ok (decodeFields keccak256 (String.ofList ('0' :: 'x' :: digits)) digits) := by
  have hcheck : ¬ (isHex (String.ofList ('0' :: 'x' :: digits)) = false ∨
      digits.length < (HEADER_LENGTH + BURN_BODY_LENGTH) * 2) := by
    rw [isHex, String.toList_ofList]
    simpa [hdigits] using hlength
  unfold decodeCctpV2Message
  rw [String.toList_ofList, List.drop_succ_cons, List.drop_succ_cons, List.drop_zero, if_neg hcheck]
  rfl

theorem decode_messageHash {keccak256 : String → String} {message : String}
    {decoded : DecodedCctpMessage} (hdecode : decodeCctpV2Message keccak256 message = .ok decoded) :
    decoded.messageHash = keccak256 message := by
  unfold decodeCctpV2Message at hdecode
  dsimp only at hdecode
  split at hdecode
  · cases hdecode
  · cases hdecode
    rfl

/-! ## Matching -/

def matchesBridgeAttestation (payload : BridgeIntentPayload) (decoded : DecodedCctpMessage)
    (expectedNonce : Option String) : Bool :=
  decoded.version = 1 && decoded.burnVersion = 1 &&
    decoded.sourceDomain = payload.sourceDomain &&
    decoded.destinationDomain = payload.destinationDomain &&
    expectedNonce.all (fun nonce => asciiLower decoded.nonce = asciiLower nonce) &&
    decoded.finalityThresholdExecuted = payload.minFinalityThreshold &&
    decoded.sender = payload.sourceTokenMessengerV2 &&
    decoded.recipient = payload.destinationTokenMessengerV2 &&
    decoded.destinationCaller = payload.destinationCaller &&
    decoded.minFinalityThreshold = payload.minFinalityThreshold &&
    decoded.burnToken = payload.sourceUsdcAddress &&
    decoded.mintRecipient = payload.recipientAddress &&
    decoded.messageSender = payload.walletAddress &&
    decoded.amount = bigInt payload.amount && decoded.maxFee = bigInt payload.maxFee &&
    decoded.feeExecuted ≤ decoded.maxFee && decoded.feeExecuted < decoded.amount

/-- The arguments of a `MessageReceived` event. -/
structure MessageReceived where
  caller : Evm.Address
  sourceDomain : ℕ
  nonce : String
  sender : String
  finalityThresholdExecuted : ℕ
  messageBody : String

/-- A log, and the event that its topics and data decode to. -/
structure DestinationReceiptLog where
  address : Evm.Address
  received : Option MessageReceived

/-- The event that is expected, from whichever caller. -/
structure ExpectedMint where
  messageTransmitter : Evm.Address
  sourceDomain : ℕ
  nonce : String
  sender : String
  finalityThresholdExecuted : ℕ
  messageBody : String

def matchesCctpV2MessageReceived (received : MessageReceived) (expected : ExpectedMint) : Bool :=
  received.sourceDomain = expected.sourceDomain &&
    asciiLower received.nonce = asciiLower expected.nonce &&
    asciiLower received.sender = asciiLower expected.sender &&
    received.finalityThresholdExecuted = expected.finalityThresholdExecuted &&
    asciiLower received.messageBody = asciiLower expected.messageBody

def destinationMintReceiptMatches (logs : List DestinationReceiptLog) (expected : ExpectedMint) :
    Bool :=
  logs.any fun log => log.address = expected.messageTransmitter &&
    log.received.any fun received =>
      received.caller ≠ 0 && matchesCctpV2MessageReceived received expected

/-- What the node of the destination chain reports about a transaction. -/
structure DestinationEvidence where
  chainId : ℕ
  transactionTo : Option Evm.Address
  succeeded : Bool
  logs : List DestinationReceiptLog

/-- The evidence proves the mint of an attested message; that message was decoded before, so
its body is there. -/
def evidenceMatches (payload : BridgeIntentPayload) (message : String)
    (decoded : DecodedCctpMessage) (evidence : DestinationEvidence) : Bool :=
  evidence.chainId = payload.destinationChainId && evidence.succeeded &&
    evidence.transactionTo = some payload.destinationMessageTransmitterV2 &&
    destinationMintReceiptMatches evidence.logs {
      messageTransmitter := payload.destinationMessageTransmitterV2
      sourceDomain := decoded.sourceDomain
      nonce := decoded.nonce
      sender := addressToBytes32 decoded.sender
      finalityThresholdExecuted := decoded.finalityThresholdExecuted
      messageBody := bodyText message }

end WizPay.Bridge
