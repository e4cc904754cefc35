import WizPay.WalletAuth.Soundness

/-!
# Concurrent logins

Any number of calls interleave over one database that starts without wallets and sessions.
Every call logs in only with a challenge that it has presented, so the database stays sound,
and the wallet that a login or an authentication names is one that the user owns.
-/

namespace WizPay.WalletAuth

open Foundation Backend Service

section

variable (runtime : AuthRuntime) (calls : List WalletCall) (performed : ℕ → AuthOp → Input → Prop)

/-- What the other calls do between two operations of one. -/
def Rely (state later : AuthState) : Prop :=
  Sound runtime calls performed later ∧ Grows state later

/-- A login is for a challenge that was presented. -/
def Guarantee (op : AuthOp) (_ : Input) (state : AuthState) : Prop :=
  match op with
  | .login challengeId address _ _ _ => ∃ challenge ∈ state.challenges,
      challenge.id = challengeId ∧ getAddress runtime.toRuntime challenge.walletAddress = some address ∧
        Presented runtime calls performed challenge
  | _ => True

/-- A wallet that is named is its user's, and one that is authenticated was presented. -/
def Identified (result : AuthResult) (state : AuthState) : Prop :=
  match result with
  | .session _ _ address _ userId => Owns state.wallets userId address
  | .principal userId address => Owns state.wallets userId address ∧
      ∃ challenge ∈ state.challenges, addressOf challenge.walletAddress = addressOf address ∧
        Presented runtime calls performed challenge
  | _ => True

end

variable {runtime : AuthRuntime} {calls : List WalletCall} {performed : ℕ → AuthOp → Input → Prop}

theorem rely_isRely : IsRely (Rely runtime calls performed) where
  trans hfirst hsecond := ⟨hsecond.1, hfirst.2.trans hsecond.2⟩
  refl_after hlater := ⟨hlater.1, grows_refl _⟩

theorem Identified.stable {result : AuthResult} {state later : AuthState}
    (hidentified : Identified runtime calls performed result state) (hgrows : Grows state later) :
    Identified runtime calls performed result later := by
  cases result with
  | challenge => trivial
  | revoked => trivial
  | session => exact Owns.mono hgrows.2 hidentified
  | principal userId address =>
      obtain ⟨howns, challenge, hmem, haddress, hpresented⟩ := hidentified
      obtain ⟨kept, hkept, hsame⟩ := hgrows.1 challenge hmem
      refine ⟨howns.mono hgrows.2, kept, hkept, ?_, hpresented.congr hsame⟩
      rw [← hsame.walletAddress]
      exact haddress

/-- A principal may be named by any text of the address. -/
theorem Identified.congr {userId first second : String} {state : AuthState}
    (hsame : addressOf first = addressOf second)
    (hidentified : Identified runtime calls performed (.principal userId first) state) :
    Identified runtime calls performed (.principal userId second) state := by
  obtain ⟨⟨wallet, hwallet, huser, haddress⟩, challenge, hmem, hown, hpresented⟩ := hidentified
  exact ⟨⟨wallet, hwallet, huser, haddress.trans hsame⟩, challenge, hmem, hown.trans hsame,
    hpresented⟩

/-! ## Operations -/

/-- A login that commits leaves a sound state, in which the owner has the wallet. -/
theorem commitLogin_sound (hruntime : runtime.Documented) {state : AuthState}
    (hsound : Sound runtime calls performed state) {challengeId text : String} {now : Instant}
    {sessionHash : String} {expiresAt : Option Instant} {draws : Draws}
    (hguar : ∃ challenge ∈ state.challenges, challenge.id = challengeId ∧
      getAddress runtime.toRuntime challenge.walletAddress = some text ∧
        Presented runtime calls performed challenge) :
    Rely runtime calls performed state
        (commitLogin runtime challengeId text now sessionHash expiresAt draws state).2 ∧
      ∀ owner, (commitLogin runtime challengeId text now sessionHash expiresAt draws state).1 =
          .ok owner →
        Owns (commitLogin runtime challengeId text now sessionHash expiresAt draws state).2.wallets
          owner text := by
  obtain ⟨challenge, hmem, hid, hchecksum, hpresented⟩ := hguar
  obtain ⟨htext, -⟩ := getAddress_eq_some.mp hchecksum
  have hwallet := addressOf_getD htext
  have haddress := (addressOf_getAddress hchecksum).trans hwallet
  unfold commitLogin
  cases hlogin : (login runtime challengeId text now sessionHash expiresAt draws).run
      state.toDatabase with
  | error error =>
      exact ⟨⟨hsound, grows_refl state⟩, fun owner howner => nomatch howner⟩
  | ok outcome =>
      obtain ⟨owner, last⟩ := outcome
      obtain ⟨hlater, hgrows, howns⟩ :=
        (login_ok hlogin).sound hruntime hsound hmem hid haddress hwallet hpresented
      refine ⟨⟨hlater, hgrows⟩, fun other hother => ?_⟩
      obtain rfl := Except.ok.inj hother
      exact howns

theorem answer_moves (hruntime : runtime.Documented) {op : AuthOp} {input : Input}
    {state : AuthState} (hsound : Sound runtime calls performed state)
    (hguar : Guarantee runtime calls performed op input state) :
    Rely runtime calls performed state ((machine runtime).answer op input state).2 := by
  have hstay : Rely runtime calls performed state state := ⟨hsound, grows_refl state⟩
  have hunless : ∀ {α : Type} {answer : Except DbError α × AuthState},
      Rely runtime calls performed state answer.2 →
        Rely runtime calls performed state (unlessFailed input state answer).2 := by
    intro α answer hanswer
    unfold unlessFailed
    cases input.failure with
    | some error => exact hstay
    | none => exact hanswer
  cases op with
  | now => exact hstay
  | randomBytes => exact hstay
  | createChallenge => exact hunless (hsound.storeChallenge _)
  | findChallenge id => exact hunless hstay
  | verifyMessage => exact hstay
  | login challengeId address now sessionHash expiresAt =>
      dsimp only [machine, answer]
      split
      · exact hstay
      · exact (commitLogin_sound hruntime hsound hguar).1
  | findSession => exact hunless hstay
  | touchSession id now => exact hunless (hsound.updateSessions (keepsSession_touch id now))
  | revokeSessions sessionHash now =>
      exact hunless (hsound.updateSessions
        (keepsSession_revoke (fun session => session.sessionHash = sessionHash) now))

/-! ## Calls -/

section

variable {state : AuthState} {thread : ℕ}

variable (runtime calls performed thread) in
/-- What a method of the thread expects, with any promise about what it returns. -/
abbrev CallExpects {α : Type} (post : α → AuthState → Prop) (service : Service authSignature α)
    (state : AuthState) : Prop :=
  Service.Expects (machine runtime) (Rely runtime calls performed)
    (fun op input _ => performed thread op input) (Guarantee runtime calls performed) post service
    state

theorem required_expects {α : Type} {message : String} {value : Option α} :
    CallExpects runtime calls performed thread (fun result _ => value = some result)
      (Service.required message value) state := by
  cases value with
  | none => exact expects_throw _
  | some result => exact expects_pure fun _ _ => rfl

/-- An operation of which nothing need be guaranteed or known. -/
theorem perform_expects {op : AuthOp}
    (hguar : ∀ input later, Guarantee runtime calls performed op input later) :
    CallExpects runtime calls performed thread (fun _ _ => True)
      (Service.perform (S := authSignature) op) state :=
  expects_perform fun later _ input _ => ⟨hguar input later, fun _ _ => trivial⟩

/-- What the others keep is known after an operation too, of which nothing need be guaranteed. -/
theorem perform_keeps (hruntime : runtime.Documented) {op : AuthOp} {fact : AuthState → Prop}
    (hguar : ∀ input later, Guarantee runtime calls performed op input later)
    (hstable : ∀ {state later}, Rely runtime calls performed state later → fact state → fact later)
    (hfact : fact state) :
    CallExpects runtime calls performed thread (fun _ later => fact later)
      (Service.perform (S := authSignature) op) state :=
  ((perform_expects hguar).frame rely_isRely hstable
    (fun _ _ _ hstate _ hguar => answer_moves hruntime hstate.1 hguar) hfact).mono
      fun _ _ houtcome value hvalue => (houtcome value hvalue).2

theorem createChallenge_expects (rawAddress : String) (chainId : ℤ) :
    CallExpects runtime calls performed thread (Identified runtime calls performed)
      (createChallenge runtime rawAddress chainId) state := by
  refine expects_then rely_isRely (expects_throwIf fun _ _ _ => trivial) fun _ later => ?_
  refine expects_bind rely_isRely required_expects fun address later _ => ?_
  refine expects_then rely_isRely (perform_expects fun _ _ => trivial) fun nonce later => ?_
  refine expects_then rely_isRely (perform_expects fun _ _ => trivial) fun issuedAt later => ?_
  refine expects_bind rely_isRely required_expects fun expiresAt later _ => ?_
  refine expects_then rely_isRely (perform_expects fun _ _ => trivial) fun answer later => ?_
  refine expects_then rely_isRely (expects_orThrow fun _ _ _ _ => trivial) fun challenge later => ?_
  exact expects_pure fun _ _ => trivial

theorem revoke_expects (authorization : Option String) :
    CallExpects runtime calls performed thread (Identified runtime calls performed)
      (revoke runtime authorization) state := by
  refine expects_then rely_isRely (expects_ofExcept fun _ _ _ _ => trivial) fun token later => ?_
  refine expects_then rely_isRely (perform_expects fun _ _ => trivial) fun now later => ?_
  refine expects_then rely_isRely (perform_expects fun _ _ => trivial) fun answer later => ?_
  refine expects_then rely_isRely (expects_orThrow fun _ _ _ _ => trivial) fun _ later => ?_
  exact expects_pure fun _ _ => trivial

theorem required_keeps {α : Type} {message : String} {value : Option α} {fact : AuthState → Prop}
    (hstable : ∀ {state later}, Rely runtime calls performed state later → fact state → fact later)
    (hfact : fact state) :
    CallExpects runtime calls performed thread (fun result later => value = some result ∧ fact later)
      (Service.required message value) state := by
  cases value with
  | none => exact expects_throw _
  | some result => exact expects_pure fun _ hlater => ⟨rfl, hstable hlater hfact⟩

/-- A session that is found is its owner's wallet's, and was opened by a presented challenge. -/
theorem findSession_expects (sessionHash : String) (now : Instant) :
    CallExpects runtime calls performed thread
      (fun found later => ∀ session, found = .ok (some session) →
        Identified runtime calls performed
          (.principal session.ownerUserId session.walletAddress) later)
      (Service.perform (S := authSignature) (.findSession sessionHash now)) state := by
  refine expects_perform fun later hlater input _ => ⟨trivial, ?_⟩
  intro last hlast session hfound
  simp only [machine, answer, unlessFailed] at hfound hlast
  split at hfound
  · cases hfound
  · next hnone =>
      have hmem := List.mem_of_find?_eq_some (Except.ok.inj hfound)
      rw [hnone] at hlast
      obtain ⟨challenge, hchallenge, -, haddress, hpresented⟩ := hlater.1.backed session hmem
      exact Identified.stable
        ⟨hlater.1.owned session hmem, challenge, hchallenge, haddress, hpresented⟩ hlast.2

theorem authenticate_expects (hruntime : runtime.Documented) (authorization : Option String) :
    CallExpects runtime calls performed thread (Identified runtime calls performed)
      (authenticate runtime authorization) state := by
  refine expects_then rely_isRely (expects_ofExcept fun _ _ _ _ => trivial) fun token later => ?_
  refine expects_then rely_isRely (perform_expects fun _ _ => trivial) fun now later => ?_
  refine expects_bind rely_isRely (findSession_expects _ _) fun found later hfound => ?_
  have hthrow : CallExpects runtime calls performed thread
      (fun found later => ∀ session, found = some session → Identified runtime calls performed
        (.principal session.ownerUserId session.walletAddress) later) (Service.orThrow found) later :=
    expects_orThrow fun value hvalue last hlast session hsession =>
      (hfound session (hvalue.trans (congrArg Except.ok hsession))).stable hlast.2
  refine expects_bind rely_isRely hthrow fun found later hfound => ?_
  have hcheck : CallExpects runtime calls performed thread
      (fun session later => Identified runtime calls performed
        (.principal session.ownerUserId session.walletAddress) later)
      (Service.ofExcept (checkSession runtime found)) later := by
    refine expects_ofExcept fun session hsession last hlast => ?_
    have hsome : found = some session := by
      unfold checkSession at hsession
      split at hsession
      · split at hsession
        · rw [Except.ok.inj hsession]
        · cases hsession
      · cases hsession
    exact (hfound session hsome).stable hlast.2
  refine expects_bind rely_isRely hcheck fun session later hidentified => ?_
  have hstable : ∀ {later last : AuthState}, Rely runtime calls performed later last →
      Identified runtime calls performed
        (.principal session.ownerUserId session.walletAddress) later →
      Identified runtime calls performed
        (.principal session.ownerUserId session.walletAddress) last :=
    fun hlast hidentified => hidentified.stable hlast.2
  refine expects_bind rely_isRely
    (perform_keeps hruntime (fun _ _ => trivial) hstable hidentified) fun touched later hidentified => ?_
  have hthrow : CallExpects runtime calls performed thread
      (fun _ later => Identified runtime calls performed
        (.principal session.ownerUserId session.walletAddress) later) (Service.orThrow touched) later :=
    expects_orThrow fun _ _ _ hlast => hstable hlast hidentified
  refine expects_bind rely_isRely hthrow fun _ later hidentified => ?_
  refine expects_bind rely_isRely (required_keeps hstable hidentified) ?_
  rintro address later ⟨haddress, howns, hpresented⟩
  have hprincipal := Identified.congr (addressOf_getAddress haddress).symm ⟨howns, hpresented⟩
  exact expects_pure fun last hlast => hprincipal.stable hlast.2

/-! A login holds the challenge that it found. -/

/-- The challenge is stored, used or not. -/
def Held (challenge : WalletAuthChallenge) (state : AuthState) : Prop :=
  ∃ kept ∈ state.challenges, SameChallenge challenge kept

theorem Held.stable {challenge : WalletAuthChallenge} {state later : AuthState}
    (hlater : Rely runtime calls performed state later) (hheld : Held challenge state) :
    Held challenge later := by
  obtain ⟨kept, hkept, hsame⟩ := hheld
  obtain ⟨last, hlast, hsame'⟩ := hlater.2.1 kept hkept
  exact ⟨last, hlast, hsame.trans hsame'⟩

theorem findChallenge_expects (challengeId : String) :
    CallExpects runtime calls performed thread
      (fun found later => ∀ challenge, found = .ok (some challenge) →
        challenge.id = challengeId ∧ Held challenge later)
      (Service.perform (S := authSignature) (.findChallenge challengeId)) state := by
  refine expects_perform fun later hlater input _ => ⟨trivial, ?_⟩
  intro last hlast challenge hfound
  simp only [machine, answer, unlessFailed] at hfound hlast
  split at hfound
  · cases hfound
  · next hnone =>
      have hfind := Except.ok.inj hfound
      rw [hnone] at hlast
      refine ⟨by simpa using List.find?_some hfind, Held.stable hlast ?_⟩
      exact ⟨challenge, List.mem_of_find?_eq_some hfind, sameChallenge_refl challenge⟩

theorem checkChallenge_ok {found : Option WalletAuthChallenge} {now : Instant}
    {challenge : WalletAuthChallenge} (hcheck : checkChallenge found now = .ok challenge) :
    found = some challenge ∧ now < challenge.expiresAt := by
  unfold checkChallenge at hcheck
  split at hcheck
  · cases hcheck
  · split at hcheck
    · cases hcheck
    · next hopen =>
        obtain rfl := Except.ok.inj hcheck
        exact ⟨rfl, not_not.mp fun hlate => hopen (.inr hlate)⟩

/-- A login with a presented challenge names the owner of the wallet. -/
theorem login_expects (hruntime : runtime.Documented) {challenge : WalletAuthChallenge}
    (hheld : Held challenge state) {address : String}
    (haddress : getAddress runtime.toRuntime challenge.walletAddress = some address)
    (hpresented : Presented runtime calls performed challenge) (now : Instant)
    (sessionHash : String) (expiresAt : Option Instant) :
    CallExpects runtime calls performed thread
      (fun outcome later => ∀ owner, outcome = .ok owner → Owns later.wallets owner address)
      (Service.perform (S := authSignature)
        (.login challenge.id address now sessionHash expiresAt)) state := by
  refine expects_perform fun later hlater input _ => ?_
  obtain ⟨kept, hkept, hsame⟩ := hheld.stable hlater
  have hguar : ∃ kept ∈ later.challenges, kept.id = challenge.id ∧
      getAddress runtime.toRuntime kept.walletAddress = some address ∧
        Presented runtime calls performed kept := by
    refine ⟨kept, hkept, hsame.id.symm, ?_, hpresented.congr hsame⟩
    rw [← hsame.walletAddress]
    exact haddress
  refine ⟨hguar, fun last hlast owner howner => ?_⟩
  simp only [machine, answer] at howner hlast
  split at howner
  · cases howner
  · next hnone =>
      rw [hnone] at hlast
      exact ((commitLogin_sound hruntime hlater.1 hguar).2 owner howner).mono hlast.2.2

theorem verifyChallenge_expects (hruntime : runtime.Documented) {challengeId signature : String}
    (hcall : calls[thread]? = some (.verifyChallenge challengeId signature)) :
    CallExpects runtime calls performed thread (Identified runtime calls performed)
      (verifyChallenge runtime challengeId signature) state := by
  refine expects_then rely_isRely (expects_throwIf fun _ _ _ => trivial) fun _ later => ?_
  refine expects_bind rely_isRely (findChallenge_expects challengeId) fun found later hfound => ?_
  have hthrow : CallExpects runtime calls performed thread
      (fun found later => ∀ challenge, found = some challenge →
        challenge.id = challengeId ∧ Held challenge later) (Service.orThrow found) later := by
    refine expects_orThrow fun value hvalue last hlast challenge hchallenge => ?_
    obtain ⟨hid, hheld⟩ := hfound challenge (hvalue.trans (congrArg Except.ok hchallenge))
    exact ⟨hid, hheld.stable hlast⟩
  refine expects_bind rely_isRely hthrow fun found later hfound => ?_
  -- the clock is read after the challenge is found
  have hclock : CallExpects runtime calls performed thread
      (fun (now : authSignature.Res .now) later =>
        (∃ clock, performed thread .now clock ∧ clock.now = now) ∧
        ∀ challenge, found = some challenge → challenge.id = challengeId ∧ Held challenge later)
      (Service.perform (S := authSignature) .now) later := by
    refine expects_perform fun last hlast input hperformed => ⟨trivial, fun final hfinal => ?_⟩
    refine ⟨⟨input, hperformed, rfl⟩, fun challenge hchallenge => ?_⟩
    obtain ⟨hid, hheld⟩ := hfound challenge hchallenge
    exact ⟨hid, (hheld.stable hlast).stable hfinal⟩
  refine expects_bind rely_isRely hclock ?_
  rintro now later ⟨⟨clock, hperformed, rfl⟩, hfound⟩
  have hcheck : CallExpects runtime calls performed thread
      (fun challenge later => (challenge.id = challengeId ∧ clock.now < challenge.expiresAt) ∧
        Held challenge later)
      (Service.ofExcept (checkChallenge found clock.now)) later := by
    refine expects_ofExcept fun challenge hchallenge last hlast => ?_
    obtain ⟨hsome, hbefore⟩ := checkChallenge_ok hchallenge
    obtain ⟨hid, hheld⟩ := hfound challenge hsome
    exact ⟨⟨hid, hbefore⟩, hheld.stable hlast⟩
  refine expects_bind rely_isRely hcheck ?_
  rintro challenge later ⟨⟨rfl, hbefore⟩, hheld⟩
  refine expects_bind rely_isRely (required_keeps Held.stable hheld) ?_
  rintro address later ⟨haddress, hheld⟩
  have hverify : CallExpects runtime calls performed thread
      (fun (valid : authSignature.Res (.verifyMessage address challenge.message signature)) later =>
        (valid = true → Presented runtime calls performed challenge) ∧
        Held challenge later)
      (Service.perform (S := authSignature)
        (.verifyMessage address challenge.message signature)) later := by
    refine expects_perform fun last hlast input hverified => ⟨trivial, fun final hfinal => ?_⟩
    refine ⟨fun hvalid => ?_, (hheld.stable hlast).stable hfinal⟩
    exact ⟨thread, signature, address, clock, input, hcall, hperformed, hbefore,
      addressOf_getAddress haddress, hverified, (Bool.and_eq_true_iff.mp hvalid).2⟩
  refine expects_bind rely_isRely hverify ?_
  rintro valid later ⟨hpresents, hheld⟩
  have hvalid : CallExpects runtime calls performed thread
      (fun _ later => Presented runtime calls performed challenge ∧ Held challenge later)
      (Service.throwIf (valid = false) invalidSignature) later :=
    expects_throwIf fun hvalid last hlast =>
      ⟨hpresents (Bool.eq_true_of_not_eq_false hvalid), hheld.stable hlast⟩
  refine expects_bind rely_isRely hvalid ?_
  rintro _ later ⟨hpresented, hheld⟩
  refine expects_bind rely_isRely
    (perform_keeps hruntime (fun _ _ => trivial) Held.stable hheld) fun token later hheld => ?_
  refine expects_bind rely_isRely
    (login_expects hruntime hheld haddress hpresented _ _ _) fun outcome later howns => ?_
  have hstable : ∀ {owner : String} {later last : AuthState},
      Rely runtime calls performed later last → Owns later.wallets owner address →
        Owns last.wallets owner address :=
    fun hlast howns => howns.mono hlast.2.2
  have howner : CallExpects runtime calls performed thread
      (fun owner later => Owns later.wallets owner address) (Service.ofExcept outcome) later :=
    expects_ofExcept fun owner hok last hlast => hstable hlast (howns owner hok)
  refine expects_bind rely_isRely howner fun owner later howns => ?_
  refine expects_bind rely_isRely (required_keeps hstable howns) ?_
  rintro expires later ⟨-, howns⟩
  exact expects_pure fun last hlast => hstable hlast howns

theorem WalletCall.expects (hruntime : runtime.Documented) {call : WalletCall}
    (hcall : calls[thread]? = some call) :
    CallExpects runtime calls performed thread (Identified runtime calls performed)
      (call.service runtime) state := by
  cases call with
  | createChallenge rawAddress chainId => exact createChallenge_expects rawAddress chainId
  | verifyChallenge challengeId signature => exact verifyChallenge_expects hruntime hcall
  | authenticate authorization => exact authenticate_expects hruntime authorization
  | revoke authorization => exact revoke_expects authorization

end

/-! ## Runs -/

/-- The user and the address that a result names. -/
def AuthResult.identity : AuthResult → Option (String × String)
  | .session _ _ address _ userId => some (userId, address)
  | .principal userId address => some (userId, address)
  | _ => none

/-- The moment after a run of concurrent calls. -/
structure Authentic (runtime : AuthRuntime) (calls : List WalletCall)
    (pool : Pool authSignature AuthState (Except ServiceError AuthResult))
    (choices : List (ℕ × Input)) : Prop where
  issuedOnce : ((pool.run (machine runtime) choices).state.issued.map Prod.fst).Nodup
  issuedSessions : (pool.run (machine runtime) choices).state.issued.map Prod.snd =
    (pool.run (machine runtime) choices).state.sessions.map ActivityAuthSession.id
  single : ∀ owner,
    (pool.run (machine runtime) choices).state.sessions.countP (isActive owner) ≤ 1
  wallets : ∀ first ∈ (pool.run (machine runtime) choices).state.wallets,
    ∀ second ∈ (pool.run (machine runtime) choices).state.wallets,
      first.userId = second.userId ↔ addressOf first.address = addressOf second.address
  identities : ∀ first second firstResult secondResult firstUser firstAddress secondUser secondAddress,
    (pool.run (machine runtime) choices).returned first = some (.ok firstResult) →
    (pool.run (machine runtime) choices).returned second = some (.ok secondResult) →
    firstResult.identity = some (firstUser, firstAddress) →
    secondResult.identity = some (secondUser, secondAddress) →
      (firstUser = secondUser ↔ addressOf firstAddress = addressOf secondAddress)
  principals : ∀ thread userId address,
    (pool.run (machine runtime) choices).returned thread = some (.ok (.principal userId address)) →
      Owns (pool.run (machine runtime) choices).state.wallets userId address ∧
        ∃ challenge ∈ (pool.run (machine runtime) choices).state.challenges,
          addressOf challenge.walletAddress = addressOf address ∧
            Presented runtime calls (pool.Performed (machine runtime) choices) challenge

theorem start_sound {challenges : List WalletAuthChallenge}
    (hids : (challenges.map WalletAuthChallenge.id).Nodup) :
    Sound runtime calls performed (start runtime calls challenges).state where
  challenges := hids
  wallets := ⟨fun _ hwallet => (List.not_mem_nil hwallet).elim, List.Pairwise.nil⟩
  single _ := Nat.zero_le 1
  issuedOnce := List.nodup_nil
  issuedUsed _ hissue := nomatch hissue
  issuedSessions := rfl
  sessionIds := List.nodup_nil
  owned _ hsession := nomatch hsession
  backed _ hsession := nomatch hsession

theorem Identified.owns {result : AuthResult} {state : AuthState} {userId address : String}
    (hidentified : Identified runtime calls performed result state)
    (hidentity : result.identity = some (userId, address)) : Owns state.wallets userId address := by
  cases result with
  | challenge => cases hidentity
  | revoked => cases hidentity
  | session =>
      cases hidentity
      exact hidentified
  | principal =>
      cases hidentity
      exact hidentified.1

/-- Whatever calls run, in whatever order their operations take effect, every challenge opens one
session at most, an owner has one unrevoked session at most, users and wallet addresses
determine each other, and a principal is the user of a wallet that had a challenge of its own
signed before it expired. -/
theorem wallet_auth_sound (hruntime : runtime.Documented) (calls : List WalletCall)
    {challenges : List WalletAuthChallenge}
    (hids : (challenges.map WalletAuthChallenge.id).Nodup) (choices : List (ℕ × Input)) :
    Authentic runtime calls (start runtime calls challenges) choices := by
  have hpool : (start runtime calls challenges).Expects (machine runtime)
      (Rely runtime calls ((start runtime calls challenges).Performed (machine runtime) choices))
      (fun thread op input _ =>
        (start runtime calls challenges).Performed (machine runtime) choices thread op input)
      (fun _ => Guarantee runtime calls
        ((start runtime calls challenges).Performed (machine runtime) choices))
      (fun _ outcome state => ∀ result, outcome = .ok result → Identified runtime calls
        ((start runtime calls challenges).Performed (machine runtime) choices) result state) := by
    intro thread program hprogram
    obtain ⟨call, hcall, rfl⟩ :=
      Option.map_eq_some_iff.mp (List.getElem?_map.symm.trans hprogram)
    exact WalletCall.expects hruntime hcall
  have hrun : Pool.Along (machine runtime) (Pool.Conditioned fun thread op input _ =>
      (start runtime calls challenges).Performed (machine runtime) choices thread op input)
      (choices ++ []) (start runtime calls challenges) := by
    rw [List.append_nil]
    exact Pool.along_performed (machine runtime) _ choices
  obtain ⟨⟨hsound, -⟩, hreturned⟩ := hpool.returned rely_isRely
    (fun _ _ _ _ hstate _ hguar => answer_moves hruntime hstate.1 hguar)
    ⟨start_sound hids, grows_refl _⟩ hrun
  refine ⟨hsound.issuedOnce, hsound.issuedSessions, hsound.single, ?_, ?_, ?_⟩
  · intro first hfirst second hsecond
    exact hsound.wallets.owns_iff ⟨first, hfirst, rfl, rfl⟩ ⟨second, hsecond, rfl, rfl⟩
  · intro first second firstResult secondResult _ _ _ _ hfirst hsecond hfirstNames hsecondNames
    exact hsound.wallets.owns_iff ((hreturned first _ hfirst firstResult rfl).owns hfirstNames)
      ((hreturned second _ hsecond secondResult rfl).owns hsecondNames)
  · exact fun thread userId address hdone => hreturned thread _ hdone _ rfl

/-! One wallet logs in and is authenticated. -/

/-- A runtime in which one signature is valid. -/
def exampleRuntime : AuthRuntime :=
  { Runtime.ofTable [] [] with verifies := fun _ _ signature => signature = "0x1234" }

def exampleChallenge : WalletAuthChallenge where
  id := "challenge-1"
  nonceHash := "nonce-hash"
  walletAddress := "0x1111111111111111111111111111111111111111"
  chainId := ARC_MAINNET_CHAIN_ID
  message := "WizPay wallet authentication"
  expiresAt := ⟨300000, by decide⟩
  usedAt := none

def exampleCalls : List WalletCall :=
  [.verifyChallenge "challenge-1" "0x1234", .authenticate (some "Bearer token")]

def exampleInput : Input where
  now := ⟨0, by decide⟩
  random := "token"
  draws := ⟨"owner-1", "session-1"⟩
  failure := none
  reached := true

def exampleChoices : List (ℕ × Input) :=
  List.replicate 5 (0, exampleInput) ++ List.replicate 3 (1, exampleInput)

def exampleChallenges : List WalletAuthChallenge := [exampleChallenge]

theorem wallet_auth_sound_example :
    (((start exampleRuntime exampleCalls exampleChallenges).run (machine exampleRuntime)
        exampleChoices).returned 1).bind Except.toOption =
      some (.principal "owner-1" "0x1111111111111111111111111111111111111111") ∧
    Authentic exampleRuntime exampleCalls
      (start exampleRuntime exampleCalls exampleChallenges) exampleChoices :=
  ⟨by decide +kernel, wallet_auth_sound
    (@Runtime.ofTable_documented [] [] rfl) exampleCalls
    (show (exampleChallenges.map WalletAuthChallenge.id).Nodup from List.nodup_singleton _)
    exampleChoices⟩

end WizPay.WalletAuth
