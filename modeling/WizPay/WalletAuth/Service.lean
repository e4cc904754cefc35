import WizPay.WalletAuth.Store

/-!
# Wallet authentication

The four methods of the service. A challenge is created for an address, a signature of its
message is verified and opens a session, and a session token is authenticated or revoked.
-/

namespace WizPay.WalletAuth

open Foundation Backend

def CHALLENGE_TTL_MS : ℤ := 5 * 60000

def SESSION_TTL_MS : ℤ := 12 * 60 * 60000

def ARC_MAINNET_CHAIN_ID : ℤ := 5042

/-- `new Date(instant.getTime() + duration)`; none is an invalid date. -/
def afterMs (instant : Instant) (duration : ℤ) : Option Instant :=
  if hrange : _ then some ⟨instant.1 + duration, hrange⟩ else none

/-- `/^0x[0-9a-fA-F]+$/`. -/
def isHexSignature (signature : String) : Bool :=
  match signature.toList with
  | '0' :: 'x' :: digits => !digits.isEmpty && digits.all isHexDigit
  | _ => false

inductive AuthResult where
  | challenge (challengeId address : String) (chainId : ℤ) (message expiresAt : String)
  | session (sessionToken expiresAt address : String) (chainId : ℤ) (userId : String)
  | principal (merchantUserId merchantWalletAddress : String)
  | revoked
deriving DecidableEq

/-- `/^Bearer\s+([^\s]+)$/i`, and the token it captures. -/
def bearerToken (authorization : Option String) : Except ServiceError String :=
  let header := (authorization.getD "").toList
  let credentials := header.drop 6
  let token := credentials.dropWhile isSpace
  if (header.take 6).map Char.toLower = "bearer".toList ∧ token.length < credentials.length ∧
      token ≠ [] ∧ token.all (!isSpace ·) then
    .ok (String.ofList token)
  else
    .error (.unauthorized "WALLET_AUTH_SESSION_REQUIRED"
      "A valid wallet authentication session is required.")

def invalidSignature : ServiceError :=
  .unauthorized "WALLET_AUTH_INVALID_SIGNATURE"
    "The wallet signature does not match the requested address."

section

variable (runtime : AuthRuntime)

def hash (domain value : String) : String := runtime.sha256 (domain ++ "\x00" ++ value)

def sessionHash (token : String) : String := hash runtime "wizpay.wallet.session.v1" token

/-- The text a wallet signs. -/
def challengeMessage (address nonce : String) (issuedAt expiresAt : Instant) : String :=
  "\n".intercalate [
    "WizPay wallet authentication",
    "",
    "Sign this message to prove control of your wallet. " ++
      "This does not send a transaction or spend funds.",
    "Wallet: " ++ address,
    "Chain ID: " ++ toString ARC_MAINNET_CHAIN_ID,
    "Nonce: " ++ nonce,
    "Issued At: " ++ toISOString issuedAt,
    "Expiration Time: " ++ toISOString expiresAt]

def createChallenge (rawAddress : String) (chainId : ℤ) : Service authSignature AuthResult := do
  Service.throwIf (chainId ≠ ARC_MAINNET_CHAIN_ID ∨ ¬ isAddress runtime.toRuntime rawAddress)
    (.unauthorized "WALLET_AUTH_ARC_MAINNET_REQUIRED"
      "Wallet authentication requires Arc Mainnet (chain 5042).")
  let address ← Service.required "Address is invalid." (getAddress runtime.toRuntime rawAddress)
  let walletAddress := runtime.toLowerCase address
  let nonce ← Service.perform (S := authSignature) .randomBytes
  let issuedAt ← Service.perform (S := authSignature) .now
  let expiresAt ← Service.required "Invalid time value" (afterMs issuedAt CHALLENGE_TTL_MS)
  let message := challengeMessage address nonce issuedAt expiresAt
  let challenge ← Service.orThrow (← Service.perform (S := authSignature) (.createChallenge
    (hash runtime "wizpay.wallet.challenge.v1" nonce) walletAddress chainId message expiresAt))
  return .challenge challenge.id address chainId message (toISOString expiresAt)

/-- The checks of a found challenge. -/
def checkChallenge (found : Option WalletAuthChallenge) (now : Instant) :
    Except ServiceError WalletAuthChallenge :=
  match found with
  | none => .error (.unauthorized "WALLET_AUTH_CHALLENGE_EXPIRED"
      "The wallet authentication challenge is invalid or expired.")
  | some challenge =>
      if challenge.usedAt ≠ none ∨ ¬ now < challenge.expiresAt then
        .error (.unauthorized
          (if challenge.usedAt ≠ none then "WALLET_AUTH_CHALLENGE_USED"
            else "WALLET_AUTH_CHALLENGE_EXPIRED")
          "The wallet authentication challenge is invalid or expired.")
      else .ok challenge

def verifyChallenge (challengeId signature : String) : Service authSignature AuthResult := do
  Service.throwIf (¬ isHexSignature signature) invalidSignature
  let found ← Service.orThrow
    (← Service.perform (S := authSignature) (.findChallenge challengeId))
  let now ← Service.perform (S := authSignature) .now
  let challenge ← Service.ofExcept (checkChallenge found now)
  let address ← Service.required "Address is invalid."
    (getAddress runtime.toRuntime challenge.walletAddress)
  let valid : Bool ← Service.perform (S := authSignature)
    (.verifyMessage address challenge.message signature)
  Service.throwIf (valid = false) invalidSignature
  let sessionToken ← Service.perform (S := authSignature) .randomBytes
  let expiresAt := afterMs now SESSION_TTL_MS
  let ownerUserId ← Service.ofExcept (← Service.perform (S := authSignature)
    (.login challenge.id address now (sessionHash runtime sessionToken) expiresAt))
  let expiresAt ← Service.required "Invalid time value" expiresAt
  return .session sessionToken (toISOString expiresAt) address ARC_MAINNET_CHAIN_ID ownerUserId

def checkSession (found : Option ActivityAuthSession) : Except ServiceError ActivityAuthSession :=
  match found with
  | some session =>
      if isAddress runtime.toRuntime session.walletAddress then .ok session
      else .error (.unauthorized "WALLET_AUTH_SESSION_REQUIRED"
        "A valid wallet authentication session is required.")
  | none => .error (.unauthorized "WALLET_AUTH_SESSION_REQUIRED"
      "A valid wallet authentication session is required.")

def authenticate (authorization : Option String) : Service authSignature AuthResult := do
  let token ← Service.ofExcept (bearerToken authorization)
  let now ← Service.perform (S := authSignature) .now
  let found ← Service.orThrow
    (← Service.perform (S := authSignature) (.findSession (sessionHash runtime token) now))
  let session ← Service.ofExcept (checkSession runtime found)
  Service.orThrow (← Service.perform (S := authSignature) (.touchSession session.id now))
  let address ← Service.required "Address is invalid."
    (getAddress runtime.toRuntime session.walletAddress)
  return .principal session.ownerUserId address

def revoke (authorization : Option String) : Service authSignature AuthResult := do
  let token ← Service.ofExcept (bearerToken authorization)
  let now ← Service.perform (S := authSignature) .now
  Service.orThrow
    (← Service.perform (S := authSignature) (.revokeSessions (sessionHash runtime token) now))
  return .revoked

/-! ## Concurrent calls -/

inductive WalletCall where
  | createChallenge (rawAddress : String) (chainId : ℤ)
  | verifyChallenge (challengeId signature : String)
  | authenticate (authorization : Option String)
  | revoke (authorization : Option String)

def WalletCall.service : WalletCall → Service authSignature AuthResult
  | .createChallenge rawAddress chainId => WalletAuth.createChallenge runtime rawAddress chainId
  | .verifyChallenge challengeId signature =>
      WalletAuth.verifyChallenge runtime challengeId signature
  | .authenticate authorization => WalletAuth.authenticate runtime authorization
  | .revoke authorization => WalletAuth.revoke runtime authorization

/-- The calls before their first operation, with no wallet and no session stored. -/
def start (calls : List WalletCall) (challenges : List WalletAuthChallenge) :
    Pool authSignature AuthState (Except ServiceError AuthResult) where
  state := { challenges, sessions := [], wallets := [], issued := [] }
  threads := calls.map fun call => (call.service runtime).run

end

end WizPay.WalletAuth
