import WizPay.WalletAuth.Store

/-!
# What a login does

A login that commits uses one open challenge, revokes the sessions of the owner of the wallet
and adds a session. The owner is the one of a stored wallet or a wallet is added for it. Over
wallets that are one for each owner and address, this keeps them so.
-/

namespace WizPay.WalletAuth

open Foundation Backend

theorem transaction_bind_ok {α β : Type} {first : Transaction α} {rest : α → Transaction β}
    {database last : Database} {result : β} :
    (first >>= rest).run database = .ok (result, last) ↔
      ∃ value middle, first.run database = .ok (value, middle) ∧
        (rest value).run middle = .ok (result, last) := by
  rw [StateT.run_bind, except_bind_ok]
  exact ⟨fun ⟨(value, middle), hfirst, hrest⟩ => ⟨value, middle, hfirst, hrest⟩,
    fun ⟨value, middle, hfirst, hrest⟩ => ⟨(value, middle), hfirst, hrest⟩⟩

theorem transaction_pure_ok {α : Type} {value result : α} {database last : Database} :
    (pure value : Transaction α).run database = .ok (result, last) ↔
      result = value ∧ last = database := by
  rw [StateT.run_pure]
  exact ⟨fun hpure => by cases hpure; exact ⟨rfl, rfl⟩, fun ⟨hvalue, hlast⟩ => by rw [hvalue, hlast]; rfl⟩

theorem transaction_throw_ok {α : Type} {error : ServiceError} {result : α}
    {database last : Database} :
    ¬ (throw error : Transaction α).run database = .ok (result, last) := nofun

/-! ## The owner of a wallet -/

section

variable {runtime : AuthRuntime} {address draw owner : String} {database last : Database}

/-- The row that is added for an address. -/
def externalWallet (runtime : AuthRuntime) (address checksummed ownerUserId : String) :
    UserWallet where
  userId := ownerUserId
  userEmail := none
  chain := EXTERNAL_WALLET_CHAIN
  blockchain := EXTERNAL_WALLET_BLOCKCHAIN
  walletId := "external:arc-mainnet:" ++ runtime.toLowerCase address
  address := checksummed
  walletSetId := none

/-- The owner and the wallets once it is resolved. -/
inductive Resolves (runtime : AuthRuntime) (address draw : String) (wallets : List UserWallet) :
    String → List UserWallet → Prop
  | stored {wallet : UserWallet} (hstored : wallet ∈ wallets)
      (hsame : runtime.toLowerCase wallet.address = runtime.toLowerCase address ∨
        wallet.walletId = "external:arc-mainnet:" ++ runtime.toLowerCase address) :
      Resolves runtime address draw wallets wallet.userId wallets
  | created {checksummed : String}
      (hchecksum : getAddress runtime.toRuntime address = some checksummed)
      (haddress : ∀ stored ∈ wallets, stored.blockchain = EXTERNAL_WALLET_BLOCKCHAIN →
        runtime.toLowerCase stored.address ≠ runtime.toLowerCase address)
      (howner : ∀ stored ∈ wallets, stored.blockchain = EXTERNAL_WALLET_BLOCKCHAIN →
        stored.userId ≠ draw) :
      Resolves runtime address draw wallets draw
        (wallets ++ [externalWallet runtime address checksummed draw])

theorem upsertWallet_ok {wallet created : UserWallet}
    (hupsert : (upsertWallet wallet).run database = .ok (created, last)) :
    (created ∈ database.wallets ∧ created.walletId = wallet.walletId ∧ last = database) ∨
      (created = wallet ∧ last = { database with wallets := database.wallets ++ [wallet] } ∧
        ∀ stored ∈ database.wallets, stored.blockchain = wallet.blockchain →
          stored.userId ≠ wallet.userId) := by
  obtain ⟨read, middle, hget, hrest⟩ := transaction_bind_ok.mp hupsert
  cases hget
  split at hrest
  · next stored hfind =>
      obtain ⟨rfl, rfl⟩ := transaction_pure_ok.mp hrest
      left
      exact ⟨List.mem_of_find?_eq_some hfind, by simpa using List.find?_some hfind, rfl⟩
  · split at hrest
    · obtain ⟨_, _, hthrow, -⟩ := transaction_bind_ok.mp hrest
      exact absurd hthrow transaction_throw_ok
    · next hnone =>
        right
        obtain ⟨_, _, hset, hpure⟩ := transaction_bind_ok.mp hrest
        cases hset
        obtain ⟨rfl, rfl⟩ := transaction_pure_ok.mp hpure
        refine ⟨rfl, rfl, fun stored hstored hblockchain hsame => ?_⟩
        exact hnone ⟨stored, hstored, hsame, hblockchain⟩

theorem resolveOwner_ok
    (hresolve : (resolveOwner runtime address draw).run database = .ok (owner, last)) :
    ∃ wallets, Resolves runtime address draw database.wallets owner wallets ∧
      last = { database with wallets } := by
  obtain ⟨read, middle, hget, hrest⟩ := transaction_bind_ok.mp hresolve
  cases hget
  dsimp only at hrest
  split at hrest
  · obtain ⟨_, _, hthrow, -⟩ := transaction_bind_ok.mp hrest
    exact absurd hthrow transaction_throw_ok
  split at hrest
  · next first rest hfound =>
      obtain ⟨rfl, rfl⟩ := transaction_pure_ok.mp hrest
      have hmember : first ∈ first :: rest := List.mem_cons_self
      rw [← hfound, List.mem_filter, List.mem_filter] at hmember
      refine ⟨last.wallets, .stored hmember.1.1 (.inl ?_), rfl⟩
      simpa using hmember.2
  · next hfound =>
      split at hrest
      · exact absurd hrest transaction_throw_ok
      · next checksummed hchecksum =>
          obtain ⟨created, middle, hupsert, hpure⟩ := transaction_bind_ok.mp hrest
          obtain ⟨rfl, rfl⟩ := transaction_pure_ok.mp hpure
          rcases upsertWallet_ok hupsert with ⟨hstored, hwalletId, rfl⟩ | ⟨rfl, rfl, hfree⟩
          · exact ⟨last.wallets, .stored hstored (.inr hwalletId), rfl⟩
          · refine ⟨_, .created hchecksum ?_ hfree, rfl⟩
            intro stored hstored hblockchain hsame
            apply List.not_mem_nil (a := stored)
            rw [← hfound, List.mem_filter, List.mem_filter]
            exact ⟨⟨hstored, by simpa using hblockchain⟩, by simpa using hsame⟩

/-! ## The transaction -/

/-- The database once a login has committed. -/
structure LoggedIn (runtime : AuthRuntime) (challengeId address : String) (now : Instant)
    (draws : Draws) (database : Database) (owner : String) (last : Database) : Prop where
  consumed : database.challenges.countP (·.isOpen challengeId now) = 1
  challenges : last.challenges = database.challenges.map (WalletAuthChallenge.use challengeId now)
  resolved : Resolves runtime address draws.ownerUserId database.wallets owner last.wallets
  fresh : ∀ stored ∈ database.sessions, stored.id ≠ draws.sessionId
  session : ∃ session, session.id = draws.sessionId ∧ session.ownerUserId = owner ∧
    session.walletAddress = runtime.toLowerCase address ∧
    last.sessions = database.sessions.map (fun stored =>
      stored.revoke (stored.ownerUserId = owner) now) ++ [session]

theorem login_ok {challengeId sessionHash : String} {now : Instant} {expiresAt : Option Instant}
    {draws : Draws}
    (hlogin : (login runtime challengeId address now sessionHash expiresAt draws).run database =
      .ok (owner, last)) :
    LoggedIn runtime challengeId address now draws database owner last := by
  obtain ⟨count, used, hconsume, hrest⟩ := transaction_bind_ok.mp hlogin
  cases hconsume
  dsimp only at hrest
  split at hrest
  · obtain ⟨_, _, hthrow, -⟩ := transaction_bind_ok.mp hrest
    exact absurd hthrow transaction_throw_ok
  next hcount =>
  obtain ⟨owner', resolved, hresolve, hrest⟩ := transaction_bind_ok.mp hrest
  obtain ⟨wallets, hresolves, rfl⟩ := resolveOwner_ok hresolve
  obtain ⟨_, _, hrevoke, hrest⟩ := transaction_bind_ok.mp hrest
  cases hrevoke
  split at hrest
  · exact absurd hrest transaction_throw_ok
  next expires =>
  obtain ⟨_, created, hcreate, hpure⟩ := transaction_bind_ok.mp hrest
  obtain ⟨rfl, rfl⟩ := transaction_pure_ok.mp hpure
  obtain ⟨_, _, hget, hrest⟩ := transaction_bind_ok.mp hcreate
  cases hget
  split at hrest
  · obtain ⟨_, _, hthrow, -⟩ := transaction_bind_ok.mp hrest
    exact absurd hthrow transaction_throw_ok
  next hfresh =>
  cases hrest
  refine ⟨not_not.mp hcount, rfl, hresolves, ?_, _, rfl, rfl, rfl, rfl⟩
  intro stored hstored hid
  refine hfresh ⟨_, List.mem_map_of_mem hstored, .inl ?_⟩
  unfold ActivityAuthSession.revoke
  split
  · exact hid
  · exact hid

end

end WizPay.WalletAuth
