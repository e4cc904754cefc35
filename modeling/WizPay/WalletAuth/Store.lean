import WizPay.Backend.Address
import WizPay.Backend.Dates
import WizPay.Backend.Service

/-!
# Wallets, challenges and sessions

The tables of wallet authentication and its operations. The transaction of a login is
serializable, so it is one step: it consumes the challenge, resolves the owner of the wallet,
revokes the owner's sessions and creates the new one, or it changes nothing.
-/

namespace WizPay.WalletAuth

open Foundation Backend

def EXTERNAL_WALLET_BLOCKCHAIN : String := "ARC-MAINNET"

def EXTERNAL_WALLET_CHAIN : String := "EVM"

/-! ## Tables -/

structure WalletAuthChallenge where
  id : String
  nonceHash : String
  walletAddress : String
  chainId : ℤ
  message : String
  expiresAt : Instant
  usedAt : Option Instant
deriving DecidableEq

structure ActivityAuthSession where
  id : String
  sessionHash : String
  ownerUserId : String
  walletAddress : String
  expiresAt : Instant
  revokedAt : Option Instant
  lastUsedAt : Option Instant
deriving DecidableEq

structure UserWallet where
  userId : String
  userEmail : Option String
  chain : String
  blockchain : String
  walletId : String
  address : String
  walletSetId : Option String
deriving DecidableEq

structure Database where
  challenges : List WalletAuthChallenge
  sessions : List ActivityAuthSession
  wallets : List UserWallet

/-- The database, and which challenge every session was created for. -/
structure AuthState extends Database where
  issued : List (String × String)

/-- What the runtime computes, and whether a signature of a message is one of a wallet's. -/
structure AuthRuntime extends Runtime where
  verifies : String → String → String → Bool

/-! ## Updates of rows -/

/-- `where: { id, usedAt: null, expiresAt: { gt: now } }`. -/
def WalletAuthChallenge.isOpen (challenge : WalletAuthChallenge) (id : String) (now : Instant) :
    Bool :=
  challenge.id = id && challenge.usedAt = none && decide (now < challenge.expiresAt)

def WalletAuthChallenge.use (id : String) (now : Instant) (challenge : WalletAuthChallenge) :
    WalletAuthChallenge :=
  if challenge.isOpen id now then { challenge with usedAt := some now } else challenge

/-- `where: { revokedAt: null, expiresAt: { gt: now } }`. -/
def ActivityAuthSession.isLive (session : ActivityAuthSession) (now : Instant) : Bool :=
  session.revokedAt = none && decide (now < session.expiresAt)

/-- `updateMany` of the unrevoked sessions among the rows that are hit. -/
def ActivityAuthSession.revoke (hit : Bool) (now : Instant) (session : ActivityAuthSession) :
    ActivityAuthSession :=
  if hit && session.revokedAt = none then { session with revokedAt := some now } else session

def ActivityAuthSession.touch (id : String) (now : Instant) (session : ActivityAuthSession) :
    ActivityAuthSession :=
  if session.id = id && session.isLive now then { session with lastUsedAt := some now } else session

/-! ## The transaction of a login -/

abbrev Transaction (α : Type) := StateT Database (Except ServiceError) α

/-- A row that a unique constraint refuses. -/
def uniqueViolation : ServiceError := .database .p2002

/-- The identifiers that the transaction draws. -/
structure Draws where
  ownerUserId : String
  sessionId : String

section

variable (runtime : AuthRuntime)

/-- The count of the challenges used, at most one. -/
def consume (id : String) (now : Instant) : Transaction ℕ := do
  let database : Database ← get
  set { database with challenges := database.challenges.map (WalletAuthChallenge.use id now) }
  return database.challenges.countP (·.isOpen id now)

/-- `upsert` of a wallet: a stored row stays as it is. -/
def upsertWallet (wallet : UserWallet) : Transaction UserWallet := do
  let database : Database ← get
  match database.wallets.find? (·.walletId = wallet.walletId) with
  | some stored => return stored
  | none =>
      if ∃ stored ∈ database.wallets,
          stored.userId = wallet.userId ∧ stored.blockchain = wallet.blockchain then
        throw uniqueViolation
      set { database with wallets := database.wallets ++ [wallet] }
      return wallet

def resolveOwner (address ownerUserId : String) : Transaction String := do
  let canonical := runtime.toLowerCase address
  let database : Database ← get
  let rows := database.wallets.filter (·.blockchain = EXTERNAL_WALLET_BLOCKCHAIN)
  let found := rows.filter (runtime.toLowerCase ·.address = canonical)
  if 1 < (found.map UserWallet.userId).dedup.length then
    throw (.conflict "WALLET_AUTH_OWNER_CONFLICT"
      "The verified wallet has conflicting canonical owners.")
  match found with
  | first :: _ => return first.userId
  | [] =>
      match getAddress runtime.toRuntime address with
      | none => throw (.error "Address is invalid.")
      | some checksummed =>
          let created ← upsertWallet {
            userId := ownerUserId
            userEmail := none
            chain := EXTERNAL_WALLET_CHAIN
            blockchain := EXTERNAL_WALLET_BLOCKCHAIN
            walletId := "external:arc-mainnet:" ++ canonical
            address := checksummed
            walletSetId := none }
          return created.userId

def revokeOwned (ownerUserId : String) (now : Instant) : Transaction Unit :=
  modify fun database => { database with
    sessions := database.sessions.map fun session =>
      session.revoke (session.ownerUserId = ownerUserId) now }

def createSession (session : ActivityAuthSession) : Transaction Unit := do
  let database : Database ← get
  if ∃ stored ∈ database.sessions,
      stored.id = session.id ∨ stored.sessionHash = session.sessionHash then
    throw uniqueViolation
  set { database with sessions := database.sessions ++ [session] }

/-- The body of the transaction; a date that cannot be written is refused. -/
def login (challengeId address : String) (now : Instant) (sessionHash : String)
    (expiresAt : Option Instant) (draws : Draws) : Transaction String := do
  let consumed ← consume challengeId now
  if consumed ≠ 1 then
    throw (.conflict "WALLET_AUTH_CHALLENGE_USED"
      "The wallet authentication challenge was already used.")
  let ownerUserId ← resolveOwner runtime address draws.ownerUserId
  revokeOwned ownerUserId now
  match expiresAt with
  | none => throw (.error "Invalid time value")
  | some expiresAt =>
      createSession {
        id := draws.sessionId
        sessionHash
        ownerUserId
        walletAddress := runtime.toLowerCase address
        expiresAt
        revokedAt := none
        lastUsedAt := none }
      return ownerUserId

end

/-! ## Operations -/

inductive AuthOp where
  | now
  | randomBytes
  | createChallenge (nonceHash walletAddress : String) (chainId : ℤ) (message : String)
      (expiresAt : Instant)
  | findChallenge (id : String)
  | verifyMessage (address message signature : String)
  | login (challengeId address : String) (now : Instant) (sessionHash : String)
      (expiresAt : Option Instant)
  | findSession (sessionHash : String) (now : Instant)
  | touchSession (id : String) (now : Instant)
  | revokeSessions (sessionHash : String) (now : Instant)

def authSignature : Signature where
  Op := AuthOp
  Res
    | .now => Instant
    | .randomBytes => String
    | .createChallenge .. => Except DbError WalletAuthChallenge
    | .findChallenge _ => Except DbError (Option WalletAuthChallenge)
    | .verifyMessage .. => Bool
    | .login .. => Except ServiceError String
    | .findSession .. => Except DbError (Option ActivityAuthSession)
    | .touchSession .. => Except DbError Unit
    | .revokeSessions .. => Except DbError Unit

/-- What the state does not decide: the clock, random draws, failures of the database, and
whether the node answers. -/
structure Input where
  now : Instant
  random : String
  draws : Draws
  failure : Option DbError
  reached : Bool

/-- An operation of the database, unless it fails. -/
def unlessFailed {α : Type} (input : Input) (state : AuthState)
    (answer : Except DbError α × AuthState) : Except DbError α × AuthState :=
  match input.failure with
  | some error => (.error error, state)
  | none => answer

def storeChallenge (challenge : WalletAuthChallenge) (state : AuthState) :
    Except DbError WalletAuthChallenge × AuthState :=
  if ∃ stored ∈ state.challenges,
      stored.id = challenge.id ∨ stored.nonceHash = challenge.nonceHash then
    (.error .p2002, state)
  else (.ok challenge, { state with challenges := state.challenges ++ [challenge] })

def updateSessions (update : ActivityAuthSession → ActivityAuthSession) (state : AuthState) :
    Except DbError Unit × AuthState :=
  (.ok (), { state with sessions := state.sessions.map update })

/-- The transaction commits, and the session it created is one for the challenge. -/
def commitLogin (runtime : AuthRuntime) (challengeId address : String) (now : Instant)
    (sessionHash : String) (expiresAt : Option Instant) (draws : Draws) (state : AuthState) :
    Except ServiceError String × AuthState :=
  match (login runtime challengeId address now sessionHash expiresAt draws).run
      state.toDatabase with
  | .error error => (.error error, state)
  | .ok (ownerUserId, database) =>
      (.ok ownerUserId, {
        toDatabase := database
        issued := state.issued ++ [(challengeId, draws.sessionId)] })

def answer (runtime : AuthRuntime) :
    (op : AuthOp) → Input → AuthState → authSignature.Res op × AuthState
  | .now, input, state => (input.now, state)
  | .randomBytes, input, state => (input.random, state)
  | .createChallenge nonceHash walletAddress chainId message expiresAt, input, state =>
      unlessFailed input state <| storeChallenge {
        id := input.random, nonceHash, walletAddress, chainId, message, expiresAt
        usedAt := none } state
  | .findChallenge id, input, state =>
      unlessFailed input state (.ok (state.challenges.find? (·.id = id)), state)
  | .verifyMessage address message signature, input, state =>
      (input.reached && runtime.verifies address message signature, state)
  | .login challengeId address now sessionHash expiresAt, input, state =>
      match input.failure with
      | some error => (.error (.database error), state)
      | none =>
          commitLogin runtime challengeId address now sessionHash expiresAt input.draws state
  | .findSession sessionHash now, input, state =>
      unlessFailed input state
        (.ok (state.sessions.find? fun session =>
          session.sessionHash = sessionHash && session.isLive now), state)
  | .touchSession id now, input, state =>
      unlessFailed input state (updateSessions (·.touch id now) state)
  | .revokeSessions sessionHash now, input, state =>
      unlessFailed input state <| updateSessions
        (fun session => session.revoke (session.sessionHash = sessionHash) now) state

def machine (runtime : AuthRuntime) : Machine authSignature Input AuthState where
  answer := answer runtime

end WizPay.WalletAuth
