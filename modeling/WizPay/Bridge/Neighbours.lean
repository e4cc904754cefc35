import WizPay.Bridge.Completion

/-!
# Intents next to each other

The message hash, the nonce and the destination transaction of an intent are
unique columns that a call fills from what its caller sends. An intent stays
usable as long as no call on another intent takes one of its values.
-/

namespace WizPay.Bridge

open Foundation Backend

variable {config : BridgeConfig} {state : BridgeState}

/-! ## What an edit takes -/

namespace BridgeEdit

def takesMessageHash : BridgeEdit → Option String
  | reportDestination _ messageHash => some messageHash
  | submitDestination _ messageHash _ => some messageHash
  | attest _ _ decoded => some decoded.messageHash
  | _ => none

def takesNonce : BridgeEdit → Option String
  | attest _ _ decoded => some decoded.nonce
  | _ => none

def takesDestination : BridgeEdit → Option String
  | reportDestination hash _ => some hash
  | submitDestination hash _ _ => some hash
  | _ => none

theorem apply_taken (edit : BridgeEdit) (snapshot : BridgeLifecycleResult) (row : BridgeRow) :
    (edit.apply snapshot row).messageHash = edit.takesMessageHash.or row.messageHash ∧
      (edit.apply snapshot row).nonce = edit.takesNonce.or row.nonce ∧
      (edit.apply snapshot row).destinationTransactionHash =
        edit.takesDestination.or row.destinationTransactionHash := by
  cases edit <;> exact ⟨rfl, rfl, rfl⟩

end BridgeEdit

/-! ## An attested intent -/

/-- The burn of an intent, as Circle attests it, and its mint. -/
structure AttestedBurn where
  id : String
  owner : String
  answer : IrisResponse
  message : String
  attestation : String
  decoded : DecodedCctpMessage
  mint : String

namespace AttestedBurn

/-- The attestation is complete and matches the intent, whose burn is reported; a
destination is not, or it is the mint. -/
structure Matches (config : BridgeConfig) (burn : AttestedBurn) (row : BridgeRow) : Prop where
  owns : Owns config row burn.owner
  sourced : (resultOf row).sourceTransactionHash.isSome = true
  answered : readResponse (some burn.answer) = .ok (.complete burn.message burn.attestation)
  decodes : decodeCctpV2Message config.keccak256 burn.message = .ok burn.decoded
  matched : matchesBridgeAttestation row.payload burn.decoded none = true
  mintHash : isHexText 64 burn.mint = true
  unreported : (resultOf row).destinationTransactionHash = none ∨
    (resultOf row).destinationTransactionHash = some (asciiLower burn.mint) ∧
      row.destinationTransactionHash = some (asciiLower burn.mint)

/-- The owner can refresh the attestation, which is then stored, and report the mint. -/
def Usable (config : BridgeConfig) (burn : AttestedBurn) (state : BridgeState) : Prop :=
  ∀ input, input.outage = none → input.irisAnswer = some burn.answer →
    ∃ shown refreshed,
      (refreshAttestation config burn.id burn.owner).alone bridgeMachine input state =
        (.ok shown, refreshed) ∧
      shown.result.attestedMessage = some burn.message ∧
      ((reportDestination config burn.id burn.owner burn.mint burn.decoded.messageHash).alone
        bridgeMachine input refreshed).1.isOk = true

/-- No other intent holds a value of this one. -/
def Free (burn : AttestedBurn) (state : BridgeState) : Prop :=
  ∀ other ∈ state.rows, other.id ≠ burn.id →
    other.messageHash ≠ some burn.decoded.messageHash ∧ other.nonce ≠ some burn.decoded.nonce ∧
      other.destinationTransactionHash ≠ some (asciiLower burn.mint)

end AttestedBurn

/-- The call takes no value of the attested burn. -/
def BridgeCall.Spares (config : BridgeConfig) (burn : AttestedBurn) (input : BridgeInput)
    (row : BridgeRow) : BridgeCall → Prop
  | reportDestination _ hash messageHash => (resultOf row).destinationTransactionHash = none →
      asciiLower messageHash ≠ burn.decoded.messageHash ∧ asciiLower hash ≠ asciiLower burn.mint
  | submitDestination _ hash messageHash _ =>
      asciiLower messageHash ≠ burn.decoded.messageHash ∧ asciiLower hash ≠ asciiLower burn.mint
  | getAttestation _ | reattest _ => ∀ message attestation decoded,
      readResponse input.irisAnswer = .ok (.complete message attestation) →
        decodeCctpV2Message config.keccak256 message = .ok decoded →
        decoded.messageHash ≠ burn.decoded.messageHash ∧ decoded.nonce ≠ burn.decoded.nonce
  | _ => True

/-! ## One call on another intent -/

namespace AttestedBurn

variable {burn : AttestedBurn} {id : String} {row : BridgeRow}

/-- An edit of another intent leaves the values free exactly when it takes none. -/
theorem free_edited_iff (hfree : burn.Free state) (hrow : state.find id = some row)
    (hother : id ≠ burn.id) (edit : BridgeEdit) :
    burn.Free (state.edited id row edit) ↔
      edit.takesMessageHash ≠ some burn.decoded.messageHash ∧
        edit.takesNonce ≠ some burn.decoded.nonce ∧
        edit.takesDestination ≠ some (asciiLower burn.mint) := by
  obtain ⟨hmember, hid⟩ := BridgeState.find_some hrow
  have hor : ∀ {taken stored : Option String} {value : String},
      stored ≠ some value → (taken.or stored ≠ some value ↔ taken ≠ some value) := by
    intro taken stored value hstored
    cases taken with
    | none => simpa using hstored
    | some taken => simp
  have hchanged : ∀ found ∈ state.rows, found.id = id →
      let next := edit.apply (resultOf row) found
      (next.messageHash ≠ some burn.decoded.messageHash ∧ next.nonce ≠ some burn.decoded.nonce ∧
        next.destinationTransactionHash ≠ some (asciiLower burn.mint) ↔
      edit.takesMessageHash ≠ some burn.decoded.messageHash ∧
        edit.takesNonce ≠ some burn.decoded.nonce ∧
        edit.takesDestination ≠ some (asciiLower burn.mint)) := by
    intro found hfound hsame next
    obtain ⟨hmessage, hnonce, hdestination⟩ := hfree found hfound (hsame ▸ hother)
    obtain ⟨htmessage, htnonce, htdestination⟩ := edit.apply_taken (resultOf row) found
    show next.messageHash ≠ _ ∧ next.nonce ≠ _ ∧ next.destinationTransactionHash ≠ _ ↔ _
    rw [htmessage, htnonce, htdestination, hor hmessage, hor hnonce, hor hdestination]
  unfold BridgeState.edited BridgeState.updated Free
  constructor
  · intro hall
    have hnext := hall (edit.apply (resultOf row) row)
      (List.mem_map.mpr ⟨row, hmember, if_pos hid⟩) (by rw [edit.apply_id, hid]; exact hother)
    exact (hchanged row hmember hid).mp hnext
  · intro htaken other hmapped hne
    obtain ⟨found, hfound, rfl⟩ := List.mem_map.mp hmapped
    by_cases hsame : found.id = id
    · rw [if_pos hsame]
      exact (hchanged found hfound hsame).mpr htaken
    · rw [if_neg hsame] at hne ⊢
      exact hfree found hfound hne

/-- The edit that a call writes takes what the call brings. -/
theorem spares_iff {call : BridgeCall} {input : BridgeInput} {edit : BridgeEdit}
    (hedit : call.Edits config input state row edit) :
    call.Spares config burn input row ↔
      edit.takesMessageHash ≠ some burn.decoded.messageHash ∧
        edit.takesNonce ≠ some burn.decoded.nonce ∧
        edit.takesDestination ≠ some (asciiLower burn.mint) := by
  have hrefresh : ∀ fetched, readResponse input.irisAnswer = .ok fetched →
      attestationEdit config row.payload fetched = .ok edit →
      ((∀ message attestation decoded,
        readResponse input.irisAnswer = .ok (.complete message attestation) →
          decodeCctpV2Message config.keccak256 message = .ok decoded →
          decoded.messageHash ≠ burn.decoded.messageHash ∧ decoded.nonce ≠ burn.decoded.nonce) ↔
      edit.takesMessageHash ≠ some burn.decoded.messageHash ∧
        edit.takesNonce ≠ some burn.decoded.nonce ∧
        edit.takesDestination ≠ some (asciiLower burn.mint)) := by
    intro fetched hread hattest
    rcases attestationEdit_ok hattest with
      ⟨status, delayReason, rfl, hwaits⟩ | ⟨message, attestation, decoded, rfl, hdecode, -, rfl⟩
    · refine iff_of_true (fun message attestation _ hcomplete _ => ?_) ⟨nofun, nofun, nofun⟩
      exact absurd (Except.ok.inj (hread.symm.trans hcomplete)) (hwaits message attestation)
    · constructor
      · intro hall
        obtain ⟨hmessage, hnonce⟩ := hall message attestation decoded hread hdecode
        exact ⟨fun heq => hmessage (Option.some.inj heq), fun heq => hnonce (Option.some.inj heq),
          nofun⟩
      · rintro ⟨hmessage, hnonce, -⟩ other otherAttestation otherDecoded hcomplete hother
        cases Except.ok.inj (hread.symm.trans hcomplete)
        obtain rfl := Except.ok.inj (hdecode.symm.trans hother)
        exact ⟨fun heq => hmessage (congrArg some heq), fun heq => hnonce (congrArg some heq)⟩
  cases call with
  | reportApproval =>
      obtain ⟨-, rfl⟩ := hedit
      exact iff_of_true trivial ⟨nofun, nofun, nofun⟩
  | reportSource =>
      obtain ⟨-, rfl⟩ := hedit
      exact iff_of_true trivial ⟨nofun, nofun, nofun⟩
  | getAttestation =>
      obtain ⟨fetched, hread, hattest⟩ := hedit
      exact hrefresh fetched hread hattest
  | reattest =>
      obtain ⟨fetched, hread, hattest⟩ := hedit
      exact hrefresh fetched hread hattest
  | reportDestination =>
      obtain ⟨hnone, -, rfl⟩ := hedit
      simp [BridgeCall.Spares, BridgeEdit.takesMessageHash, BridgeEdit.takesNonce,
        BridgeEdit.takesDestination, hnone]
  | authorizeDestination =>
      obtain ⟨-, rfl⟩ := hedit
      exact iff_of_true trivial ⟨nofun, nofun, nofun⟩
  | submitDestination =>
      obtain rfl := hedit
      simp [BridgeCall.Spares, BridgeEdit.takesMessageHash, BridgeEdit.takesNonce,
        BridgeEdit.takesDestination]
  | verifyDestination =>
      obtain ⟨verified, -, rfl⟩ := hedit
      exact iff_of_true trivial ⟨nofun, nofun, nofun⟩

end AttestedBurn

/-! ## The calls of the owner -/

theorem isOk_iff {service : BridgeService BridgeIntentView} {input : BridgeInput} :
    (service.alone bridgeMachine input state).1.isOk = true ↔
      ∃ shown last, service.alone bridgeMachine input state = (.ok shown, last) := by
  rcases service.alone bridgeMachine input state with ⟨error | shown, last⟩
  · exact iff_of_false nofun fun ⟨_, _, herror⟩ => nomatch herror
  · exact iff_of_true rfl ⟨shown, last, rfl⟩

/-- When a report of the destination succeeds. -/
theorem report_isOk_iff {id owner hash messageHash : String} {input : BridgeInput} {row : BridgeRow}
    (houtage : input.outage = none) (hrow : state.find id = some row) (howns : Owns config row owner)
    (hhash : isHexText 64 hash = true) (hmessage : isHexText 64 messageHash = true) :
    ((reportDestination config id owner hash messageHash).alone bridgeMachine input state).1.isOk =
        true ↔
      messageConflicts (resultOf row) (asciiLower messageHash) = false ∧
        match (resultOf row).destinationTransactionHash with
        | some prior => asciiLower prior = asciiLower hash
        | none => UniqueBridges (state.updated id
            ((BridgeEdit.reportDestination (asciiLower hash) (asciiLower messageHash)).apply
              (resultOf row))) := by
  have htx : ∀ {text : String}, isHexText 64 text = true → txHash text = .ok (asciiLower text) :=
    fun htext => if_pos htext
  rw [isOk_iff]
  unfold reportDestination
  constructor
  · rintro ⟨shown, last, hok⟩
    obtain ⟨found, -, hfound, -, hrest⟩ := owned_ok.mp hok
    obtain rfl := Option.some.inj (hrow.symm.trans hfound)
    obtain ⟨_, hfirst, hreported⟩ := Service.alone_ofExcept_bind_ok.mp hrest
    obtain ⟨_, hsecond, hchecked⟩ := Service.alone_ofExcept_bind_ok.mp hreported
    obtain rfl := Except.ok.inj ((htx hhash).symm.trans hfirst)
    obtain rfl := Except.ok.inj ((htx hmessage).symm.trans hsecond)
    obtain ⟨hconflict, honce⟩ := Service.alone_throwIf_bind_ok.mp hchecked
    refine ⟨by simpa using hconflict, ?_⟩
    unfold reportOnce at honce
    cases hprior : (resultOf row).destinationTransactionHash with
    | some prior =>
        rw [hprior] at honce
        dsimp only at honce
        split at honce
        · exact absurd honce Service.alone_throw_ok
        · next hsame => simpa [asciiLower_asciiLower] using hsame
    | none =>
        rw [hprior] at honce
        exact (written_ok.mp honce).2.1
  · rintro ⟨hconflict, honce⟩
    have hgoes : ∃ shown last, (reportOnce id row (resultOf row).destinationTransactionHash
        (asciiLower hash)
        "A different destination transaction is already recorded for this bridge intent."
        (.reportDestination (asciiLower hash) (asciiLower messageHash))).alone bridgeMachine input
          state = (.ok shown, last) := by
      unfold reportOnce
      cases hprior : (resultOf row).destinationTransactionHash with
      | some prior =>
          rw [hprior] at honce
          dsimp only at honce ⊢
          rw [if_neg (by rw [honce, asciiLower_asciiLower]; exact fun hne => hne rfl)]
          exact ⟨_, _, rfl⟩
      | none =>
          rw [hprior] at honce
          exact ⟨_, _, written_ok.mpr ⟨houtage, honce, ⟨row, hrow, rfl⟩, rfl⟩⟩
    obtain ⟨shown, last, hreport⟩ := hgoes
    refine ⟨shown, last, owned_ok.mpr ⟨row, houtage, hrow, howns, ?_⟩⟩
    refine Service.alone_ofExcept_bind_ok.mpr ⟨_, htx hhash, ?_⟩
    refine Service.alone_ofExcept_bind_ok.mpr ⟨_, htx hmessage, ?_⟩
    exact Service.alone_throwIf_bind_ok.mpr ⟨by simpa using hconflict, hreport⟩

/-- An edited row clashes with another only in what the edit takes. -/
theorem apply_clashes {edit : BridgeEdit} {snapshot : BridgeLifecycleResult}
    {row other : BridgeRow} (hclash : row.clashes other = false)
    (hlease : (edit.apply snapshot row).destinationLeaseId = row.destinationLeaseId) :
    (edit.apply snapshot row).clashes other = false ↔
      (∀ value, edit.takesMessageHash = some value → other.messageHash ≠ some value) ∧
        (∀ value, edit.takesNonce = some value → other.nonce ≠ some value) ∧
        ∀ value, edit.takesDestination = some value →
          other.destinationTransactionHash ≠ some value := by
  obtain ⟨hmessage, hnonce, hdestination⟩ := edit.apply_taken snapshot row
  unfold BridgeRow.clashes at hclash ⊢
  rw [hmessage, hnonce, hdestination, hlease, edit.apply_id]
  cases edit.takesMessageHash <;> cases edit.takesNonce <;> cases edit.takesDestination <;> grind

namespace AttestedBurn

variable {burn : AttestedBurn} {row : BridgeRow}

/-- The row once the attestation is stored. -/
def attestEdit (burn : AttestedBurn) : BridgeEdit :=
  .attest burn.message burn.attestation burn.decoded

theorem refreshes_iff (hunique : UniqueBridges state.rows) (hrow : state.find burn.id = some row)
    (hmatches : burn.Matches config row) {input : BridgeInput} (houtage : input.outage = none)
    (hanswer : input.irisAnswer = some burn.answer) {shown : BridgeIntentView}
    {refreshed : BridgeState} :
    (refreshAttestation config burn.id burn.owner).alone bridgeMachine input state =
        (.ok shown, refreshed) ↔
      (∀ other ∈ state.rows, other.id ≠ burn.id →
        other.messageHash ≠ some burn.decoded.messageHash ∧
          other.nonce ≠ some burn.decoded.nonce) ∧
      shown = view (burn.attestEdit.apply (resultOf row) row) ∧
      refreshed = state.edited burn.id row burn.attestEdit := by
  have hread : readResponse input.irisAnswer = .ok (.complete burn.message burn.attestation) := by
    rw [hanswer, hmatches.answered]
  have hedit : attestationEdit config row.payload (.complete burn.message burn.attestation) =
      .ok burn.attestEdit :=
    except_bind_ok.mpr ⟨burn.decoded, hmatches.decodes, if_neg (by simp [hmatches.matched])⟩
  have hclashes : UniqueBridges (state.updated burn.id (burn.attestEdit.apply (resultOf row))) ↔
      ∀ other ∈ state.rows, other.id ≠ burn.id →
        other.messageHash ≠ some burn.decoded.messageHash ∧
          other.nonce ≠ some burn.decoded.nonce := by
    rw [BridgeState.unique_updated_iff hunique hrow]
    refine forall_congr' fun other => forall_congr' fun hother => forall_congr' fun hne => ?_
    rw [apply_clashes (BridgeState.clash_other hunique hrow hother hne) rfl]
    simp [attestEdit, BridgeEdit.takesMessageHash, BridgeEdit.takesNonce,
      BridgeEdit.takesDestination]
  rw [refresh_ok]
  constructor
  · rintro ⟨found, -, hfound, -, -, fetched, hfetched, edit, hattest, hfree, hshown, hlast⟩
    obtain rfl := Option.some.inj (hrow.symm.trans hfound)
    obtain rfl := Except.ok.inj (hread.symm.trans hfetched)
    obtain rfl := Except.ok.inj (hedit.symm.trans hattest)
    exact ⟨hclashes.mp hfree, hshown, hlast⟩
  · rintro ⟨hfree, hshown, hlast⟩
    exact ⟨row, houtage, hrow, hmatches.owns, hmatches.sourced, _, hread, _, hedit,
      hclashes.mpr hfree, hshown, hlast⟩

/-- After the refresh the mint can be reported, unless another intent holds it. -/
theorem reports_iff
    (hkeccak : ∀ text, isHexText 64 (config.keccak256 text) = true ∧
      asciiLower (config.keccak256 text) = config.keccak256 text)
    (hunique : UniqueBridges state.rows) (hrow : state.find burn.id = some row)
    (hmatches : burn.Matches config row)
    (hfree : ∀ other ∈ state.rows, other.id ≠ burn.id →
      other.messageHash ≠ some burn.decoded.messageHash ∧ other.nonce ≠ some burn.decoded.nonce)
    {input : BridgeInput} (houtage : input.outage = none) :
    ((reportDestination config burn.id burn.owner burn.mint burn.decoded.messageHash).alone
        bridgeMachine input (state.edited burn.id row burn.attestEdit)).1.isOk = true ↔
      ∀ other ∈ state.rows, other.id ≠ burn.id →
        other.destinationTransactionHash ≠ some (asciiLower burn.mint) := by
  have hhash := decode_messageHash hmatches.decodes
  obtain ⟨hhex, hlower⟩ := hkeccak burn.message
  rw [← hhash] at hhex hlower
  have hid := burn.attestEdit.apply_id (resultOf row)
  have hnext : (state.edited burn.id row burn.attestEdit).find burn.id =
      some (burn.attestEdit.apply (resultOf row) row) := BridgeState.find_update hid hrow
  have hwritten : UniqueBridges (state.edited burn.id row burn.attestEdit).rows := by
    refine (BridgeState.unique_updated_iff hunique hrow).mpr fun other hother hne => ?_
    rw [apply_clashes (BridgeState.clash_other hunique hrow hother hne) rfl]
    obtain ⟨hmessage, hnonce⟩ := hfree other hother hne
    refine ⟨?_, ?_, ?_⟩
    · rintro value ⟨⟩
      exact hmessage
    · rintro value ⟨⟩
      exact hnonce
    · intro value hnone
      cases hnone
  have howns : Owns config (burn.attestEdit.apply (resultOf row) row) burn.owner := by
    rw [Owns, BridgeEdit.apply_payload]
    exact hmatches.owns
  rw [report_isOk_iff houtage hnext howns hmatches.mintHash hhex]
  have hresult : resultOf (burn.attestEdit.apply (resultOf row) row) =
      burn.attestEdit.result (resultOf row) := rfl
  have hagrees : messageConflicts (burn.attestEdit.result (resultOf row))
      (asciiLower burn.decoded.messageHash) = false := by
    simp [messageConflicts, attestEdit, BridgeEdit.result, hlower]
  rw [hresult, hagrees]
  simp only [true_and]
  have hdestination : (burn.attestEdit.result (resultOf row)).destinationTransactionHash =
      (resultOf row).destinationTransactionHash := rfl
  rw [hdestination]
  rcases hmatches.unreported with hnone | ⟨hreported, hcolumn⟩
  · rw [hnone]
    show UniqueBridges _ ↔ _
    rw [BridgeState.unique_updated_iff hwritten hnext]
    refine forall_congr' fun other => ?_
    have hmember : other.id ≠ burn.id →
        (other ∈ (state.edited burn.id row burn.attestEdit).rows ↔ other ∈ state.rows) :=
      BridgeState.mem_updated_other hid
    constructor
    · intro hclear hother hne
      have hedited := (hmember hne).mpr hother
      have hclash := (apply_clashes (BridgeState.clash_other hwritten hnext hedited hne) rfl).mp
        (hclear hedited hne)
      exact hclash.2.2 _ rfl
    · intro hclear hedited hne
      have hother := (hmember hne).mp hedited
      refine (apply_clashes (BridgeState.clash_other hwritten hnext hedited hne) rfl).mpr
        ⟨?_, ?_, ?_⟩
      · rintro value ⟨⟩
        rw [hlower]
        exact (hfree other hother hne).1
      · intro value hnone
        cases hnone
      · rintro value ⟨⟩
        exact hclear hother hne
  · rw [hreported]
    refine iff_of_true (asciiLower_asciiLower burn.mint) fun other hother hne hheld => ?_
    have hclash := BridgeState.clash_other hunique hrow hother hne
    simp [BridgeRow.clashes, hcolumn, hheld] at hclash

/-- An intent is usable exactly when no other holds one of its values. -/
theorem usable_iff
    (hkeccak : ∀ text, isHexText 64 (config.keccak256 text) = true ∧
      asciiLower (config.keccak256 text) = config.keccak256 text)
    (hunique : UniqueBridges state.rows) (hrow : state.find burn.id = some row)
    (hmatches : burn.Matches config row) : burn.Usable config state ↔ burn.Free state := by
  constructor
  · intro husable
    obtain ⟨shown, refreshed, hrefresh, -, hreport⟩ := husable ⟨0, "", none, some burn.answer, none⟩
      rfl rfl
    obtain ⟨hfree, -, rfl⟩ := (refreshes_iff hunique hrow hmatches rfl rfl).mp hrefresh
    have hmint := (reports_iff hkeccak hunique hrow hmatches hfree rfl).mp hreport
    exact fun other hother hne =>
      ⟨(hfree other hother hne).1, (hfree other hother hne).2, hmint other hother hne⟩
  · intro hfree input houtage hanswer
    have hvalues : ∀ other ∈ state.rows, other.id ≠ burn.id →
        other.messageHash ≠ some burn.decoded.messageHash ∧
          other.nonce ≠ some burn.decoded.nonce :=
      fun other hother hne => ⟨(hfree other hother hne).1, (hfree other hother hne).2.1⟩
    have hmint : ∀ other ∈ state.rows, other.id ≠ burn.id →
        other.destinationTransactionHash ≠ some (asciiLower burn.mint) :=
      fun other hother hne => (hfree other hother hne).2.2
    exact ⟨_, _, (refreshes_iff hunique hrow hmatches houtage hanswer).mpr ⟨hvalues, rfl, rfl⟩, rfl,
      (reports_iff hkeccak hunique hrow hmatches hvalues houtage).mpr hmint⟩

/-! ## Calls of the others -/

/-- The intent can be used, and nobody has reserved its values. -/
structure Undisturbed (config : BridgeConfig) (burn : AttestedBurn) (state : BridgeState) : Prop where
  usable : burn.Usable config state
  free : burn.Free state

/-- A successful request on the intent with an id takes no value of the burn. -/
def SparedBy (config : BridgeConfig) (burn : AttestedBurn) (state : BridgeState)
    (other : String × BridgeRequest) : Prop :=
  other.2.Succeeds config other.1 state → ∀ row, state.find other.1 = some row →
    other.2.call.Spares config burn other.2.input row

/-- The state after a request on the intent with an id. -/
def otherStep (config : BridgeConfig) (state : BridgeState) (other : String × BridgeRequest) :
    BridgeState := other.2.step config other.1 state

/-- A request on another intent leaves this row as it is, and the values free if
and only if it spares them. -/
theorem otherStep_spec (hfree : burn.Free state) {other : String × BridgeRequest}
    (hother : other.1 ≠ burn.id) :
    (otherStep config state other).find burn.id = state.find burn.id ∧
      (burn.SparedBy config state other ↔ burn.Free (otherStep config state other)) := by
  unfold SparedBy otherStep
  by_cases hok : other.2.Succeeds config other.1 state
  · obtain ⟨found, hfound, ⟨hsame, hrecorded⟩ | ⟨edit, hedit, hnext⟩⟩ := BridgeRequest.step_ok hok
    · rw [hsame]
      refine ⟨rfl, iff_of_true (fun _ row hrow => ?_) hfree⟩
      obtain rfl := Option.some.inj (hfound.symm.trans hrow)
      -- Only a report can find its hash recorded.
      cases hcall : other.2.call with
      | reportApproval => exact trivial
      | reportSource => exact trivial
      | reportDestination =>
          rw [hcall] at hrecorded
          obtain ⟨prior, hprior, -⟩ := hrecorded
          exact fun hnone => nomatch hprior.symm.trans hnone
      | _ =>
          rw [hcall] at hrecorded
          exact hrecorded.elim
    · rw [hnext]
      constructor
      · rw [BridgeState.edited, BridgeState.find_updated _ _ _ (edit.apply_id (resultOf found))]
        cases hrow : state.find burn.id with
        | none => rfl
        | some row =>
            rw [Option.map_some, (BridgeState.find_some hrow).2, if_neg (Ne.symm hother)]
      · rw [free_edited_iff hfree hfound hother, ← spares_iff hedit]
        constructor
        · exact fun hspares => hspares hok found hfound
        · intro hspares _ row hrow
          obtain rfl := Option.some.inj (hfound.symm.trans hrow)
          exact hspares
  · rw [BridgeRequest.step_of_fails hok]
    exact ⟨rfl, iff_of_true (fun hsucceeds => absurd hsucceeds hok) hfree⟩

/-- Whatever calls are made on other intents, an attested intent stays undisturbed
throughout if and only if each of them that succeeds spares its values. -/
theorem undisturbed_iff
    (hkeccak : ∀ text, isHexText 64 (config.keccak256 text) = true ∧
      asciiLower (config.keccak256 text) = config.keccak256 text)
    (hunique : UniqueBridges state.rows) (hrow : state.find burn.id = some row)
    (hmatches : burn.Matches config row) (husable : burn.Usable config state)
    {others : List (String × BridgeRequest)} (hothers : ∀ other ∈ others, other.1 ≠ burn.id) :
    Sequence.Along (otherStep config) (burn.SparedBy config) others state ↔
      ∀ first rest, others = first ++ rest →
        burn.Undisturbed config (Sequence.run (otherStep config) first state) := by
  let invariant (state : BridgeState) : Prop :=
    UniqueBridges state.rows ∧ state.find burn.id = some row ∧ burn.Free state
  have hfact : ∀ state, invariant state → burn.Undisturbed config state := by
    rintro state ⟨hunique, hrow, hfree⟩
    exact ⟨(usable_iff hkeccak hunique hrow hmatches).mpr hfree, hfree⟩
  have hkeeps : ∀ state other, invariant state → other.1 ≠ burn.id →
      burn.SparedBy config state other → invariant (otherStep config state other) := by
    rintro state other ⟨hunique, hrow, hfree⟩ hother hspared
    obtain ⟨hfound, hspares⟩ := otherStep_spec hfree hother
    exact ⟨BridgeRequest.step_unique hunique, hfound.trans hrow, hspares.mp hspared⟩
  have hstart : invariant state :=
    ⟨hunique, hrow, (usable_iff hkeccak hunique hrow hmatches).mp husable⟩
  refine Sequence.along_iff_fact hfact (fun state other hinvariant hother => ?_) hkeeps
    (Sequence.along_of_forall hothers state) hstart
  constructor
  · exact fun hspared => hfact _ (hkeeps state other hinvariant hother hspared)
  · exact fun hundisturbed => (otherStep_spec hinvariant.2.2 hother).2.mpr hundisturbed.free

/-! ## A reserved message hash -/

/-- The intent whose burn is reported, and one of another wallet. -/
def exampleRows : BridgeState where
  rows := [(BridgeEdit.reportSource exampleSourceHash).apply {} createdRow,
    { createdRow with
      id := "bridge-2"
      payload := { createdRow.payload with
        walletAddress := 0x5555555555555555555555555555555555555555 } }]

def exampleBurn : AttestedBurn where
  id := "bridge-1"
  owner := exampleOwner
  answer := attested
  message := exampleMessage
  attestation := "0x01"
  decoded := exampleDecoded
  mint := exampleMintHash

def otherOwner : String := "0x5555555555555555555555555555555555555555"

theorem exampleConfig_keccak : ∀ text, isHexText 64 (exampleConfig.keccak256 text) = true ∧
    asciiLower (exampleConfig.keccak256 text) = exampleConfig.keccak256 text := by
  have hhash : isHexText 64 exampleMessageHash = true ∧
      asciiLower exampleMessageHash = exampleMessageHash := by
    decide +kernel
  exact fun _ => hhash

theorem exampleBurn_starts :
    UniqueBridges exampleRows.rows ∧ exampleRows.find "bridge-1" = exampleRows.rows.head? ∧
      exampleBurn.Matches exampleConfig ((BridgeEdit.reportSource exampleSourceHash).apply {}
        createdRow) ∧
      exampleBurn.Free exampleRows := by
  refine ⟨by decide, rfl, ⟨by decide +kernel, rfl, attested_read, exampleMessage_decodes,
    by decide +kernel, by decide +kernel, .inl rfl⟩, ?_⟩
  intro other hother _
  simp only [exampleRows, List.mem_cons, List.not_mem_nil, or_false] at hother
  rcases hother with rfl | rfl
  · exact ⟨nofun, nofun, nofun⟩
  · exact ⟨nofun, nofun, nofun⟩

theorem exampleBurn_usable : exampleBurn.Usable exampleConfig exampleRows := by
  obtain ⟨hunique, hrow, hmatches, hfree⟩ := exampleBurn_starts
  exact (usable_iff exampleConfig_keccak hunique hrow hmatches).mpr hfree

/-- The other wallet reports its own burn, which takes nothing. -/
theorem undisturbed_iff_source :
    let others := [("bridge-2", bridgeRequest attested (.reportSource otherOwner exampleMintHash))]
    Sequence.Along (otherStep exampleConfig) (exampleBurn.SparedBy exampleConfig) others exampleRows ∧
      ∀ first rest, others = first ++ rest →
        exampleBurn.Undisturbed exampleConfig
          (Sequence.run (otherStep exampleConfig) first exampleRows) := by
  intro others
  obtain ⟨hunique, hrow, hmatches, -⟩ := exampleBurn_starts
  have hothers : ∀ other ∈ others, other.1 ≠ exampleBurn.id := by
    intro other hother
    rw [List.mem_singleton.mp hother]
    decide
  have hspared : Sequence.Along (otherStep exampleConfig) (exampleBurn.SparedBy exampleConfig)
      others exampleRows :=
    Sequence.along_cons.mpr ⟨fun _ _ _ => trivial, Sequence.along_nil _ _⟩
  exact ⟨hspared, (undisturbed_iff exampleConfig_keccak hunique hrow hmatches exampleBurn_usable
    hothers).mp hspared⟩

/-- The other wallet reports the message hash as that of its own mint. -/
def reserving : List (String × BridgeRequest) := [("bridge-2",
  bridgeRequest attested (.reportDestination otherOwner exampleSourceHash exampleMessageHash))]

/-- The owner could use the intent before that report, and cannot after it. -/
theorem reserved_message_hash_disturbs :
    exampleBurn.Usable exampleConfig exampleRows ∧
      (∀ other ∈ reserving, other.1 ≠ exampleBurn.id) ∧
      ¬ ∀ first rest, reserving = first ++ rest →
        exampleBurn.Undisturbed exampleConfig
          (Sequence.run (otherStep exampleConfig) first exampleRows) := by
  refine ⟨exampleBurn_usable, ?_, fun hall => ?_⟩
  · intro other hother
    rw [List.mem_singleton.mp hother]
    decide
  · have hend := (hall reserving [] rfl).free
    have hreserved : ((Sequence.run (otherStep exampleConfig) reserving exampleRows).find
        "bridge-2").map (fun row => row.messageHash) = some (some exampleMessageHash) := by
      decide +kernel
    obtain ⟨row, hrow, hhash⟩ := Option.map_eq_some_iff.mp hreserved
    obtain ⟨hmember, hid⟩ := BridgeState.find_some hrow
    have hother : row.id ≠ exampleBurn.id := by rw [hid]; decide
    exact (hend row hmember hother).1 hhash

end AttestedBurn

end WizPay.Bridge
