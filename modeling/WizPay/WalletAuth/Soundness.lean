import Mathlib.Data.List.Pairwise
import WizPay.Backend.Conditions
import WizPay.WalletAuth.Login
import WizPay.WalletAuth.Service

/-!
# Soundness of wallet authentication

Wallets are one for each owner and each address, an owner has at most one unrevoked session,
and every session was opened by a signature over a challenge of its own wallet. Each operation
keeps this, and so does every interleaving of calls; what a call returns names a stored wallet.
-/

namespace WizPay.WalletAuth

open Foundation Backend Service

/-! ## Wallets -/

/-- A wallet row that a login added. -/
def IsExternal (wallet : UserWallet) : Prop :=
  wallet.blockchain = EXTERNAL_WALLET_BLOCKCHAIN ∧ ∃ address, addressOf wallet.address = some address ∧
    wallet.walletId = "external:arc-mainnet:" ++ addressText address

/-- One owner for an address, and one address for an owner. -/
structure WalletsSound (wallets : List UserWallet) : Prop where
  external : ∀ wallet ∈ wallets, IsExternal wallet
  distinct : wallets.Pairwise fun first second =>
    first.userId ≠ second.userId ∧ addressOf first.address ≠ addressOf second.address

/-- The user is the one of a stored wallet with the address. -/
def Owns (wallets : List UserWallet) (userId address : String) : Prop :=
  ∃ wallet ∈ wallets, wallet.userId = userId ∧ addressOf wallet.address = addressOf address

theorem WalletsSound.eq_of_userId {wallets : List UserWallet} (hsound : WalletsSound wallets)
    {first second : UserWallet} (hfirst : first ∈ wallets) (hsecond : second ∈ wallets)
    (hsame : first.userId = second.userId ∨ addressOf first.address = addressOf second.address) :
    first = second := by
  by_contra hne
  have hsymm : Std.Symm fun first second : UserWallet =>
      first.userId ≠ second.userId ∧ addressOf first.address ≠ addressOf second.address :=
    ⟨fun _ _ hdiffer => ⟨hdiffer.1.symm, hdiffer.2.symm⟩⟩
  have hdiffer := List.Pairwise.forall hsound.distinct hfirst hsecond hne
  rcases hsame with huser | haddress
  · exact hdiffer.1 huser
  · exact hdiffer.2 haddress

/-- Users and addresses determine each other. -/
theorem WalletsSound.owns_iff {wallets : List UserWallet} (hsound : WalletsSound wallets)
    {firstUser firstAddress secondUser secondAddress : String}
    (hfirst : Owns wallets firstUser firstAddress) (hsecond : Owns wallets secondUser secondAddress) :
    firstUser = secondUser ↔ addressOf firstAddress = addressOf secondAddress := by
  obtain ⟨first, hmem, rfl, haddress⟩ := hfirst
  obtain ⟨second, hmem', rfl, haddress'⟩ := hsecond
  rw [← haddress, ← haddress']
  constructor
  · intro huser
    rw [hsound.eq_of_userId hmem hmem' (.inl huser)]
  · intro hsame
    rw [hsound.eq_of_userId hmem hmem' (.inr hsame)]

variable {runtime : AuthRuntime}

/-- Resolving an owner keeps the stored wallets sound, and the owner's is among them. -/
theorem Resolves.sound (hruntime : runtime.Documented) {text draw owner : String}
    {wallets later : List UserWallet} (hresolves : Resolves runtime text draw wallets owner later)
    (hsound : WalletsSound wallets) {address : Evm.Address} (haddress : addressOf text = some address) :
    WalletsSound later ∧ wallets ⊆ later ∧ Owns later owner text := by
  have hlower := toLowerCase_of_addressOf hruntime haddress
  cases hresolves with
  | @stored wallet hstored hsame =>
      refine ⟨hsound, List.Subset.refl _, wallet, hstored, rfl, ?_⟩
      obtain ⟨-, own, hown, hwalletId⟩ := hsound.external wallet hstored
      rw [hlower, toLowerCase_of_addressOf hruntime hown, hwalletId] at hsame
      have htexts : addressText own = addressText address := by
        rcases hsame with hsame | hsame
        · exact hsame
        · exact String.append_right_inj _ |>.mp hsame
      have hback := congrArg addressOf htexts
      rw [addressOf_addressText, addressOf_addressText] at hback
      rw [hown, haddress, hback]
  | @created checksummed hchecksum hfree howner =>
      have hsame := addressOf_getAddress hchecksum
      refine ⟨⟨?_, ?_⟩, List.subset_append_left _ _, _, List.mem_append_right _ List.mem_cons_self,
        rfl, hsame⟩
      · intro wallet hwallet
        rcases List.mem_append.mp hwallet with hwallet | hwallet
        · exact hsound.external wallet hwallet
        · rw [List.mem_singleton.mp hwallet]
          exact ⟨rfl, address, hsame.trans haddress, by rw [← hlower]; rfl⟩
      · refine List.pairwise_append.mpr ⟨hsound.distinct, List.pairwise_singleton _ _, ?_⟩
        intro stored hstored wallet hwallet
        rw [List.mem_singleton.mp hwallet]
        obtain ⟨hblockchain, own, hown, -⟩ := hsound.external stored hstored
        refine ⟨howner stored hstored hblockchain, fun haddresses => ?_⟩
        apply hfree stored hstored hblockchain
        have hboth : addressOf stored.address = some address := by
          rw [haddresses]
          exact hsame.trans haddress
        rw [hlower, toLowerCase_of_addressOf hruntime hboth]

/-! ## Sessions -/

/-- The sessions of an owner that are not revoked. -/
def isActive (owner : String) (session : ActivityAuthSession) : Bool :=
  session.ownerUserId = owner && session.revokedAt = none

/-- An update that leaves a session whose it is, and revoked if it was. -/
structure KeepsSession (update : ActivityAuthSession → ActivityAuthSession) : Prop where
  id : ∀ session, (update session).id = session.id
  owner : ∀ session, (update session).ownerUserId = session.ownerUserId
  address : ∀ session, (update session).walletAddress = session.walletAddress
  revoked : ∀ session, (update session).revokedAt = none → session.revokedAt = none

theorem keepsSession_revoke (hit : ActivityAuthSession → Bool) (now : Instant) :
    KeepsSession fun session => session.revoke (hit session) now := by
  constructor <;> intro session <;> unfold ActivityAuthSession.revoke
  · split <;> rfl
  · split <;> rfl
  · split <;> rfl
  · split
    · exact fun hrevoked => nomatch hrevoked
    · exact id

theorem keepsSession_touch (id : String) (now : Instant) :
    KeepsSession (ActivityAuthSession.touch id now) := by
  constructor <;> intro session <;> unfold ActivityAuthSession.touch
  · split <;> rfl
  · split <;> rfl
  · split <;> rfl
  · split
    · exact fun hrevoked => hrevoked
    · exact fun hrevoked => hrevoked

theorem KeepsSession.countP_le {update : ActivityAuthSession → ActivityAuthSession}
    (hkeeps : KeepsSession update) (owner : String) (sessions : List ActivityAuthSession) :
    (sessions.map update).countP (isActive owner) ≤ sessions.countP (isActive owner) := by
  rw [List.countP_map]
  apply List.countP_mono_left
  intro session _ hactive
  simp only [isActive, Function.comp_apply, Bool.and_eq_true, decide_eq_true_eq] at hactive ⊢
  exact ⟨(hkeeps.owner session).symm.trans hactive.1, hkeeps.revoked session hactive.2⟩

/-- No session of an owner is active once all are revoked. -/
theorem countP_revoke_owned (owner : String) (now : Instant) (sessions : List ActivityAuthSession) :
    (sessions.map fun session => session.revoke (session.ownerUserId = owner) now).countP
      (isActive owner) = 0 := by
  rw [List.countP_map, List.countP_eq_zero]
  intro session _ hactive
  unfold isActive ActivityAuthSession.revoke at hactive
  simp only [Function.comp_apply] at hactive
  split at hactive
  · simp at hactive
  · next hkept =>
      apply hkept
      simp only [Bool.and_eq_true, decide_eq_true_eq] at hactive ⊢
      exact hactive

/-! ## Challenges -/

section

variable (runtime) (calls : List WalletCall) (performed : ℕ → AuthOp → Input → Prop)

/-- A call read the clock before the challenge expired and then had a signature of the challenge
verified as one of its wallet's. -/
def Presented (challenge : WalletAuthChallenge) : Prop :=
  ∃ thread signature address clock input,
    calls[thread]? = some (.verifyChallenge challenge.id signature) ∧
    performed thread .now clock ∧ clock.now < challenge.expiresAt ∧
    addressOf address = addressOf challenge.walletAddress ∧
    performed thread (.verifyMessage address challenge.message signature) input ∧
    runtime.verifies address challenge.message signature = true

end

/-- The same challenge, used or not. -/
structure SameChallenge (first second : WalletAuthChallenge) : Prop where
  id : first.id = second.id
  walletAddress : first.walletAddress = second.walletAddress
  message : first.message = second.message
  expiresAt : first.expiresAt = second.expiresAt

theorem sameChallenge_refl (challenge : WalletAuthChallenge) : SameChallenge challenge challenge :=
  ⟨rfl, rfl, rfl, rfl⟩

theorem SameChallenge.trans {first second third : WalletAuthChallenge}
    (hfirst : SameChallenge first second) (hsecond : SameChallenge second third) :
    SameChallenge first third :=
  ⟨hfirst.id.trans hsecond.id, hfirst.walletAddress.trans hsecond.walletAddress,
    hfirst.message.trans hsecond.message, hfirst.expiresAt.trans hsecond.expiresAt⟩

variable {calls : List WalletCall} {performed : ℕ → AuthOp → Input → Prop}

theorem Presented.congr {first second : WalletAuthChallenge} (hsame : SameChallenge first second)
    (hpresented : Presented runtime calls performed first) :
    Presented runtime calls performed second := by
  unfold Presented at hpresented ⊢
  rw [← hsame.id, ← hsame.walletAddress, ← hsame.message, ← hsame.expiresAt]
  exact hpresented

theorem sameChallenge_use (id : String) (now : Instant) (challenge : WalletAuthChallenge) :
    SameChallenge challenge (challenge.use id now) := by
  unfold WalletAuthChallenge.use
  split <;> exact ⟨rfl, rfl, rfl, rfl⟩

theorem use_used {id : String} {now : Instant} {challenge : WalletAuthChallenge}
    (hused : challenge.usedAt ≠ none) : (challenge.use id now).usedAt ≠ none := by
  unfold WalletAuthChallenge.use
  split
  · exact Option.some_ne_none now
  · exact hused

/-! ## The state -/

variable (runtime) (calls) (performed) in
/-- A challenge of the wallet, presented before, that the session was issued for. -/
def Backed (state : AuthState) (session : ActivityAuthSession) : Prop :=
  ∃ challenge ∈ state.challenges, (challenge.id, session.id) ∈ state.issued ∧
    addressOf challenge.walletAddress = addressOf session.walletAddress ∧
    Presented runtime calls performed challenge

variable (runtime) (calls) (performed) in
structure Sound (state : AuthState) : Prop where
  challenges : (state.challenges.map WalletAuthChallenge.id).Nodup
  wallets : WalletsSound state.wallets
  single : ∀ owner, state.sessions.countP (isActive owner) ≤ 1
  issuedOnce : (state.issued.map Prod.fst).Nodup
  issuedUsed : ∀ issue ∈ state.issued, ∃ challenge ∈ state.challenges,
    challenge.id = issue.1 ∧ challenge.usedAt ≠ none
  issuedSessions : state.issued.map Prod.snd = state.sessions.map ActivityAuthSession.id
  sessionIds : (state.sessions.map ActivityAuthSession.id).Nodup
  owned : ∀ session ∈ state.sessions, Owns state.wallets session.ownerUserId session.walletAddress
  backed : ∀ session ∈ state.sessions, Backed runtime calls performed state session

/-- Challenges and wallets stay. -/
def Grows (state later : AuthState) : Prop :=
  (∀ challenge ∈ state.challenges, ∃ kept ∈ later.challenges, SameChallenge challenge kept) ∧
    state.wallets ⊆ later.wallets

theorem grows_refl (state : AuthState) : Grows state state :=
  ⟨fun challenge hmem => ⟨challenge, hmem, sameChallenge_refl challenge⟩, List.Subset.refl _⟩

theorem Grows.trans {first second third : AuthState} (hfirst : Grows first second)
    (hsecond : Grows second third) : Grows first third := by
  refine ⟨fun challenge hmem => ?_, List.Subset.trans hfirst.2 hsecond.2⟩
  obtain ⟨middle, hmiddle, hsame⟩ := hfirst.1 challenge hmem
  obtain ⟨kept, hkept, hsame'⟩ := hsecond.1 middle hmiddle
  exact ⟨kept, hkept, hsame.trans hsame'⟩

theorem Owns.mono {wallets later : List UserWallet} (hsub : wallets ⊆ later)
    {userId address : String} (howns : Owns wallets userId address) : Owns later userId address := by
  obtain ⟨wallet, hmem, hrest⟩ := howns
  exact ⟨wallet, hsub hmem, hrest⟩

/-! ## Operations -/

section

variable {state : AuthState}

/-- A new challenge has an id of its own. -/
theorem Sound.storeChallenge (hsound : Sound runtime calls performed state)
    (challenge : WalletAuthChallenge) :
    Sound runtime calls performed (storeChallenge challenge state).2 ∧
      Grows state (WalletAuth.storeChallenge challenge state).2 := by
  unfold WalletAuth.storeChallenge
  split
  · exact ⟨hsound, grows_refl state⟩
  · next hfresh =>
      refine ⟨{ hsound with
        challenges := ?_
        issuedUsed := ?_
        backed := ?_ }, ?_, List.Subset.refl _⟩
      · rw [List.map_append, List.nodup_append]
        refine ⟨hsound.challenges, List.nodup_singleton _, ?_⟩
        intro id hid other hother hsame
        obtain ⟨stored, hstored, rfl⟩ := List.mem_map.mp hid
        rw [List.map_singleton, List.mem_singleton] at hother
        exact hfresh ⟨stored, hstored, .inl (hsame.trans hother)⟩
      · intro issue hissue
        obtain ⟨used, hused, hrest⟩ := hsound.issuedUsed issue hissue
        exact ⟨used, List.mem_append_left _ hused, hrest⟩
      · intro session hsession
        obtain ⟨backing, hbacking, hrest⟩ := hsound.backed session hsession
        exact ⟨backing, List.mem_append_left _ hbacking, hrest⟩
      · exact fun stored hstored => ⟨stored, List.mem_append_left _ hstored, sameChallenge_refl stored⟩

theorem Sound.updateSessions (hsound : Sound runtime calls performed state)
    {update : ActivityAuthSession → ActivityAuthSession} (hkeeps : KeepsSession update) :
    Sound runtime calls performed (updateSessions update state).2 ∧
      Grows state (WalletAuth.updateSessions update state).2 := by
  have hids : (state.sessions.map update).map ActivityAuthSession.id =
      state.sessions.map ActivityAuthSession.id := by
    rw [List.map_map]
    exact List.map_congr_left fun session _ => hkeeps.id session
  refine ⟨{ hsound with
    single := fun owner => (hkeeps.countP_le owner state.sessions).trans (hsound.single owner)
    issuedSessions := hsound.issuedSessions.trans hids.symm
    sessionIds := by
      show ((state.sessions.map update).map ActivityAuthSession.id).Nodup
      rw [hids]
      exact hsound.sessionIds
    owned := ?_
    backed := ?_ }, grows_refl state⟩
  · intro session hsession
    obtain ⟨stored, hstored, rfl⟩ := List.mem_map.mp hsession
    rw [hkeeps.owner, hkeeps.address]
    exact hsound.owned stored hstored
  · intro session hsession
    obtain ⟨stored, hstored, rfl⟩ := List.mem_map.mp hsession
    unfold Backed
    rw [hkeeps.id, hkeeps.address]
    exact hsound.backed stored hstored

end

section

variable {state : AuthState} {challengeId text owner : String} {now : Instant} {draws : Draws}
  {last : Database}

/-- A challenge that is open was not issued a session. -/
theorem Sound.open_fresh (hsound : Sound runtime calls performed state)
    {challenge : WalletAuthChallenge} (hmem : challenge ∈ state.challenges)
    (hopen : challenge.isOpen challengeId now = true) :
    challengeId ∉ state.issued.map Prod.fst := by
  intro hissued
  obtain ⟨issue, hissue, rfl⟩ := List.mem_map.mp hissued
  obtain ⟨used, hused, hid, husedAt⟩ := hsound.issuedUsed issue hissue
  simp only [WalletAuthChallenge.isOpen, Bool.and_eq_true, decide_eq_true_eq] at hopen
  obtain rfl := List.inj_on_of_nodup_map hsound.challenges hused hmem (hid.trans hopen.1.1.symm)
  exact husedAt hopen.1.2

/-- An owner of whom all sessions are revoked gets one. -/
theorem single_login {sessions : List ActivityAuthSession}
    (hsingle : ∀ owner, sessions.countP (isActive owner) ≤ 1) {session : ActivityAuthSession}
    (now : Instant) (other : String) :
    (sessions.map (fun stored => stored.revoke (stored.ownerUserId = session.ownerUserId) now) ++
      [session]).countP (isActive other) ≤ 1 := by
  have hkeeps := keepsSession_revoke (fun stored => stored.ownerUserId = session.ownerUserId) now
  rw [List.countP_append, List.countP_singleton]
  by_cases hown : session.ownerUserId = other
  · subst hown
    rw [countP_revoke_owned]
    split <;> omega
  · have hother : isActive other session = false := by
      simp [isActive, hown]
    have hbefore := hkeeps.countP_le other sessions
    have hone := hsingle other
    rw [if_neg (by simp [hother])]
    omega

theorem LoggedIn.sound (hruntime : runtime.Documented) (hsound : Sound runtime calls performed state)
    (hlogin : LoggedIn runtime challengeId text now draws state.toDatabase owner last)
    {challenge : WalletAuthChallenge} (hchallenge : challenge ∈ state.challenges)
    (hid : challenge.id = challengeId) {address : Evm.Address} (haddress : addressOf text = some address)
    (hwallet : addressOf challenge.walletAddress = some address)
    (hpresented : Presented runtime calls performed challenge) :
    Sound runtime calls performed
        ⟨last, state.issued ++ [(challengeId, draws.sessionId)]⟩ ∧
      Grows state ⟨last, state.issued ++ [(challengeId, draws.sessionId)]⟩ ∧
      Owns last.wallets owner text := by
  obtain ⟨hconsumed, hchallenges, hresolved, hfresh, session, hsid, howner, hsaddress, hsessions⟩ :=
    hlogin
  obtain ⟨challenges, sessions, wallets⟩ := last
  subst hchallenges
  subst hsessions
  obtain ⟨hwallets, hsub, howns⟩ := hresolved.sound hruntime hsound.wallets haddress
  obtain ⟨opened, hopened, hisOpen⟩ : ∃ opened ∈ state.challenges,
      opened.isOpen challengeId now = true := by
    have hpos : 0 < state.challenges.countP (·.isOpen challengeId now) := by
      rw [hconsumed]
      exact Nat.one_pos
    exact List.countP_pos_iff.mp hpos
  have hkeeps := keepsSession_revoke (fun stored => stored.ownerUserId = owner) now
  have hids : (state.challenges.map (WalletAuthChallenge.use challengeId now)).map
      WalletAuthChallenge.id = state.challenges.map WalletAuthChallenge.id := by
    rw [List.map_map]
    exact List.map_congr_left fun row _ => (sameChallenge_use challengeId now row).id.symm
  have hsessionIds : (state.sessions.map (fun stored =>
      stored.revoke (stored.ownerUserId = owner) now)).map ActivityAuthSession.id =
        state.sessions.map ActivityAuthSession.id := by
    rw [List.map_map]
    exact List.map_congr_left fun row _ => hkeeps.id row
  have htext : addressOf session.walletAddress = some address := by
    rw [hsaddress, toLowerCase_of_addressOf hruntime haddress, addressOf_addressText]
  refine ⟨⟨?_, hwallets, ?_, ?_, ?_, ?_, ?_, ?_, ?_⟩, ⟨?_, hsub⟩, howns⟩
  · show ((state.challenges.map (WalletAuthChallenge.use challengeId now)).map
      WalletAuthChallenge.id).Nodup
    rw [hids]
    exact hsound.challenges
  · intro other
    subst howner
    exact single_login hsound.single now other
  · rw [List.map_append, List.nodup_append]
    refine ⟨hsound.issuedOnce, List.nodup_singleton _, ?_⟩
    intro id hissued other hother hsame
    rw [List.map_singleton, List.mem_singleton] at hother
    rw [hsame, hother] at hissued
    exact hsound.open_fresh hopened hisOpen hissued
  · intro issue hissue
    rcases List.mem_append.mp hissue with hissue | hissue
    · obtain ⟨used, hused, hsame, husedAt⟩ := hsound.issuedUsed issue hissue
      exact ⟨_, List.mem_map_of_mem hused, (sameChallenge_use challengeId now used).id.symm.trans hsame,
        use_used husedAt⟩
    · rw [List.mem_singleton.mp hissue]
      refine ⟨_, List.mem_map_of_mem hopened, ?_, ?_⟩
      · rw [← (sameChallenge_use challengeId now opened).id]
        simp only [WalletAuthChallenge.isOpen, Bool.and_eq_true, decide_eq_true_eq] at hisOpen
        exact hisOpen.1.1
      · rw [WalletAuthChallenge.use, if_pos hisOpen]
        exact Option.some_ne_none now
  · show (state.issued ++ [(challengeId, draws.sessionId)]).map Prod.snd =
      (state.sessions.map _ ++ [session]).map ActivityAuthSession.id
    rw [List.map_append, List.map_append, hsound.issuedSessions, hsessionIds, List.map_singleton,
      List.map_singleton, hsid]
  · show ((state.sessions.map _ ++ [session]).map ActivityAuthSession.id).Nodup
    rw [List.map_append, hsessionIds, List.nodup_append]
    refine ⟨hsound.sessionIds, List.nodup_singleton _, ?_⟩
    intro id hstored other hother hsame
    obtain ⟨stored, hmem, rfl⟩ := List.mem_map.mp hstored
    rw [List.map_singleton, List.mem_singleton, hsid] at hother
    exact hfresh stored hmem (hsame.trans hother)
  · intro row hrow
    rcases List.mem_append.mp hrow with hrow | hrow
    · obtain ⟨stored, hstored, rfl⟩ := List.mem_map.mp hrow
      rw [hkeeps.owner, hkeeps.address]
      exact (hsound.owned stored hstored).mono hsub
    · rw [List.mem_singleton.mp hrow, howner]
      obtain ⟨wallet, hmem, huser, hsame⟩ := howns
      exact ⟨wallet, hmem, huser, hsame.trans (haddress.trans htext.symm)⟩
  · intro row hrow
    rcases List.mem_append.mp hrow with hrow | hrow
    · obtain ⟨stored, hstored, rfl⟩ := List.mem_map.mp hrow
      obtain ⟨backing, hbacking, hissued, hsame, hpresented⟩ := hsound.backed stored hstored
      have hsameChallenge := sameChallenge_use challengeId now backing
      refine ⟨_, List.mem_map_of_mem hbacking, ?_, ?_, hpresented.congr hsameChallenge⟩
      · rw [hkeeps.id, ← hsameChallenge.id]
        exact List.mem_append_left _ hissued
      · rw [hkeeps.address, ← hsameChallenge.walletAddress]
        exact hsame
    · rw [List.mem_singleton.mp hrow]
      have hsameChallenge := sameChallenge_use challengeId now challenge
      refine ⟨_, List.mem_map_of_mem hchallenge, ?_, ?_, hpresented.congr hsameChallenge⟩
      · rw [← hsameChallenge.id, hid, hsid]
        exact List.mem_append_right _ List.mem_cons_self
      · rw [← hsameChallenge.walletAddress, hwallet, htext]
  · exact fun row hrow => ⟨_, List.mem_map_of_mem hrow, sameChallenge_use challengeId now row⟩

end

end WizPay.WalletAuth
