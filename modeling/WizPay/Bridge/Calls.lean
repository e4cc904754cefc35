import WizPay.Bridge.Service

/-!
# Calls that run alone

What a successful call found and wrote: it left the row as it was, because the
reported hash is recorded already, or it wrote one edit of the result it read.
-/

namespace WizPay.Bridge

open Foundation Backend

variable {config : BridgeConfig} {input : BridgeInput} {state : BridgeState}

/-! ## What a call writes -/

/-- A reported hash is the recorded one, so that the call writes nothing. -/
def BridgeCall.Recorded (row : BridgeRow) : BridgeCall → Prop
  | reportApproval _ hash => ∃ prior, (resultOf row).approvalTransactionHash = some prior ∧
      asciiLower prior = asciiLower (asciiLower hash)
  | reportSource _ hash => ∃ prior, (resultOf row).sourceTransactionHash = some prior ∧
      asciiLower prior = asciiLower (asciiLower hash)
  | reportDestination _ hash _ => ∃ prior, (resultOf row).destinationTransactionHash = some prior ∧
      asciiLower prior = asciiLower (asciiLower hash)
  | _ => False

/-- The edit a call writes to the row it found, on an input of the environment. -/
def BridgeCall.Edits (config : BridgeConfig) (input : BridgeInput) (state : BridgeState)
    (row : BridgeRow) : BridgeCall → BridgeEdit → Prop
  | reportApproval _ hash, edit => (resultOf row).approvalTransactionHash = none ∧
      edit = .reportApproval (asciiLower hash)
  | reportSource _ hash, edit => (resultOf row).sourceTransactionHash = none ∧
      edit = .reportSource (asciiLower hash)
  | getAttestation _, edit | reattest _, edit =>
      ∃ fetched, readResponse input.irisAnswer = .ok fetched ∧
        attestationEdit config row.payload fetched = .ok edit
  | reportDestination _ hash messageHash, edit =>
      (resultOf row).destinationTransactionHash = none ∧
        messageConflicts (resultOf row) (asciiLower messageHash) = false ∧
        edit = .reportDestination (asciiLower hash) (asciiLower messageHash)
  | authorizeDestination _, edit => row.status = .attestation_ready ∧
      edit = .authorizeDestination input.freshId (input.now + DESTINATION_LEASE_TTL_MS)
  | submitDestination _ hash messageHash _, edit =>
      edit = .submitDestination (asciiLower hash) (asciiLower messageHash) input.now
  | verifyDestination _, edit => ∃ verified,
      (proveDestinationReceipt config row.payload (resultOf row)).alone bridgeMachine input state =
          (.ok verified, state) ∧
        edit = .verifyDestination verified input.now

/-- The state after an edit of the row with an id. -/
def BridgeState.edited (state : BridgeState) (id : String) (row : BridgeRow) (edit : BridgeEdit) :
    BridgeState := ⟨state.updated id (edit.apply (resultOf row))⟩

/-! ## Parts of a call -/

open Service

variable {id walletAddress : String} {last : BridgeState}

theorem txHash_ok {value hash : String} (hhash : txHash value = .ok hash) :
    hash = asciiLower value := by
  unfold txHash at hhash
  split at hhash
  · exact (Except.ok.inj hhash).symm
  · cases hhash

/-- The wallet that a call names is the owner of the intent. -/
def Owns (config : BridgeConfig) (row : BridgeRow) (walletAddress : String) : Prop :=
  isAddress config.runtime walletAddress = true ∧
    addressOf walletAddress = some row.payload.walletAddress

instance (row : BridgeRow) : Decidable (Owns config row walletAddress) :=
  inferInstanceAs (Decidable (_ ∧ _))

theorem required_ok {row : BridgeRow} :
    (required id).alone bridgeMachine input state = (.ok row, last) ↔
      input.outage = none ∧ state.find id = some row ∧ last = state := by
  have hanswer : ∀ found, (bridgeMachine.answer (.findUnique id) input state).1 = .ok found ↔
      input.outage = none ∧ state.find id = found := by
    intro found
    simp only [bridgeMachine]
    cases input.outage with
    | none => exact ⟨fun hread => ⟨rfl, Except.ok.inj hread⟩, fun hfind => congrArg _ hfind.2⟩
    | some error =>
        apply iff_of_false
        · intro hread
          cases hread
        · intro hfind
          cases hfind.1
  unfold required findUnique
  rw [alone_bind_ok]
  constructor
  · rintro ⟨found, middle, hfound, hrest⟩
    obtain ⟨hread, rfl⟩ := alone_orThrow_ok.mp (alone_perform_bind_ok.mp hfound)
    obtain ⟨houtage, hfind⟩ := (hanswer found).mp hread
    cases found with
    | none => exact absurd hrest alone_throw_ok
    | some found =>
        obtain ⟨rfl, rfl⟩ := alone_pure_ok.mp hrest
        exact ⟨houtage, hfind, rfl⟩
  · rintro ⟨houtage, hfind, rfl⟩
    have hread := (hanswer (some row)).mpr ⟨houtage, hfind⟩
    exact ⟨some row, last, alone_perform_bind_ok.mpr (alone_orThrow_ok.mpr ⟨hread, rfl⟩),
      alone_pure_ok.mpr ⟨rfl, rfl⟩⟩

/-- A write that is not refused changes the row with the id, and only that one. -/
theorem update_ok {snapshot : BridgeLifecycleResult} {edit : BridgeEdit} {updated : BridgeRow} :
    (update id snapshot edit).alone bridgeMachine input state = (.ok updated, last) ↔
      input.outage = none ∧ UniqueBridges (state.updated id (edit.apply snapshot)) ∧
        (∃ row, state.find id = some row ∧ updated = edit.apply snapshot row) ∧
        last = ⟨state.updated id (edit.apply snapshot)⟩ := by
  refine alone_perform_bind_ok.trans (alone_orThrow_ok.trans ?_)
  simp only [bridgeMachine]
  cases input.outage with
  | some error => simp
  | none =>
      unfold BridgeState.update
      cases state.find id with
      | none => simp
      | some row =>
          by_cases hunique : UniqueBridges (state.updated id (edit.apply snapshot))
          · simp [hunique, eq_comm]
          · simp [hunique]

/-- The row is found and belongs to the caller. -/
theorem owned_ok {α : Type} {rest : BridgeRow → BridgeService α} {value : α} :
    (required id >>= fun row => ownership config row walletAddress >>= fun _ =>
        rest row).alone bridgeMachine input state = (.ok value, last) ↔
      ∃ row, input.outage = none ∧ state.find id = some row ∧ Owns config row walletAddress ∧
        (rest row).alone bridgeMachine input state = (.ok value, last) := by
  have howns : ∀ row, ¬ (isAddress config.runtime walletAddress = false ∨
      addressOf walletAddress ≠ some row.payload.walletAddress) ↔ Owns config row walletAddress := by
    intro row
    rw [not_or, Bool.not_eq_false, not_not, Owns]
  rw [alone_bind_ok]
  constructor
  · rintro ⟨row, middle, hrow, howned⟩
    obtain ⟨houtage, hfound, rfl⟩ := required_ok.mp hrow
    obtain ⟨howner, hrest⟩ := alone_throwIf_bind_ok.mp howned
    exact ⟨row, houtage, hfound, (howns row).mp howner, hrest⟩
  · rintro ⟨row, houtage, hfound, howner, hrest⟩
    exact ⟨row, state, required_ok.mpr ⟨houtage, hfound, rfl⟩,
      alone_throwIf_bind_ok.mpr ⟨(howns row).mpr howner, hrest⟩⟩

/-- A call that ends with a write shows the row it wrote. -/
theorem written_ok {snapshot : BridgeLifecycleResult} {edit : BridgeEdit}
    {shown : BridgeRow → BridgeIntentView} {value : BridgeIntentView} :
    (update id snapshot edit >>= fun updated => pure (shown updated)).alone bridgeMachine
        input state = (.ok value, last) ↔
      input.outage = none ∧ UniqueBridges (state.updated id (edit.apply snapshot)) ∧
        (∃ row, state.find id = some row ∧ value = shown (edit.apply snapshot row)) ∧
        last = ⟨state.updated id (edit.apply snapshot)⟩ := by
  rw [alone_bind_ok]
  constructor
  · rintro ⟨updated, middle, hwrite, hdone⟩
    obtain ⟨rfl, rfl⟩ := alone_pure_ok.mp hdone
    obtain ⟨houtage, hunique, ⟨row, hrow, rfl⟩, hlast⟩ := update_ok.mp hwrite
    exact ⟨houtage, hunique, ⟨row, hrow, rfl⟩, hlast⟩
  · rintro ⟨houtage, hunique, ⟨row, hrow, rfl⟩, hlast⟩
    exact ⟨_, last, update_ok.mpr ⟨houtage, hunique, ⟨row, hrow, rfl⟩, hlast⟩,
      alone_pure_ok.mpr ⟨rfl, rfl⟩⟩

/-- A report that succeeds finds its hash recorded, or none and records it. -/
theorem reportOnce_ok {hash message : String} {row : BridgeRow} {recorded : Option String}
    {edit : BridgeEdit} {value : BridgeIntentView}
    (hok : (reportOnce id row recorded hash message edit).alone bridgeMachine input state =
      (.ok value, last)) :
    (last = state ∧ ∃ prior, recorded = some prior ∧ asciiLower prior = asciiLower hash) ∨
      recorded = none ∧ last = state.edited id row edit := by
  unfold reportOnce at hok
  cases recorded with
  | none => exact .inr ⟨rfl, (written_ok.mp hok).2.2.2⟩
  | some prior =>
      dsimp only at hok
      split at hok
      · exact absurd hok alone_throw_ok
      · next hsame =>
          obtain ⟨-, rfl⟩ := alone_pure_ok.mp hok
          exact .inl ⟨rfl, prior, rfl, not_not.mp hsame⟩

/-- Asking the destination node leaves the rows alone. -/
theorem prove_ok {payload : BridgeIntentPayload} {result : BridgeLifecycleResult} {verified : Bool}
    (hok : (proveDestinationReceipt config payload result).alone bridgeMachine input state =
      (.ok verified, last)) : last = state := by
  unfold proveDestinationReceipt at hok
  split at hok
  · exact (alone_pure_ok.mp hok).2
  · split at hok
    · obtain ⟨decoded, -, hchecked⟩ := alone_ofExcept_bind_ok.mp hok
      obtain ⟨-, hread⟩ := alone_throwIf_bind_ok.mp hchecked
      have hevidence := alone_perform_bind_ok.mp hread
      split at hevidence
      · exact absurd hevidence alone_throw_ok
      · exact (alone_pure_ok.mp (alone_throwIf_bind_ok.mp hevidence).2).2
    · exact absurd hok alone_throw_ok

theorem refresh_ok {value : BridgeIntentView} :
    (refreshAttestation config id walletAddress).alone bridgeMachine input state =
        (.ok value, last) ↔
      ∃ row, input.outage = none ∧ state.find id = some row ∧ Owns config row walletAddress ∧
        (resultOf row).sourceTransactionHash.isSome = true ∧
        ∃ fetched, readResponse input.irisAnswer = .ok fetched ∧
        ∃ edit, attestationEdit config row.payload fetched = .ok edit ∧
          UniqueBridges (state.updated id (edit.apply (resultOf row))) ∧
          value = view (edit.apply (resultOf row) row) ∧ last = state.edited id row edit := by
  unfold refreshAttestation
  rw [owned_ok]
  refine exists_congr fun row => and_congr_right fun houtage => and_congr_right fun hrow =>
    and_congr_right fun _ => ?_
  cases (resultOf row).sourceTransactionHash with
  | none => exact iff_of_false alone_throw_ok fun hsome => nomatch hsome.1
  | some sourceHash =>
      simp only [Option.isSome_some, true_and]
      constructor
      · intro hok
        obtain ⟨fetched, middle, hfetch, hedited⟩ := alone_bind_ok.mp hok
        obtain ⟨hread, rfl⟩ := alone_ofExcept_ok.mp (alone_perform_bind_ok.mp hfetch)
        obtain ⟨edit, hedit, hwrite⟩ := alone_ofExcept_bind_ok.mp hedited
        obtain ⟨-, hunique, ⟨found, hfound, hvalue⟩, hlast⟩ := written_ok.mp hwrite
        obtain rfl := Option.some.inj (hrow.symm.trans hfound)
        exact ⟨fetched, hread, edit, hedit, hunique, hvalue, hlast⟩
      · rintro ⟨fetched, hread, edit, hedit, hunique, hvalue, hlast⟩
        refine alone_bind_ok.mpr ⟨fetched, state,
          alone_perform_bind_ok.mpr (alone_ofExcept_ok.mpr ⟨hread, rfl⟩), ?_⟩
        exact alone_ofExcept_bind_ok.mpr ⟨edit, hedit,
          written_ok.mpr ⟨houtage, hunique, ⟨row, hrow, hvalue⟩, hlast⟩⟩

/-- A fetched attestation is waited for, or it is complete and matches the intent. -/
theorem attestationEdit_ok {payload : BridgeIntentPayload} {fetched : FetchedAttestation}
    {edit : BridgeEdit} (hedit : attestationEdit config payload fetched = .ok edit) :
    (∃ status delayReason, edit = .awaitAttestation status delayReason ∧
        ∀ message attestation, fetched ≠ .complete message attestation) ∨
      ∃ message attestation decoded, fetched = .complete message attestation ∧
        decodeCctpV2Message config.keccak256 message = .ok decoded ∧
        matchesBridgeAttestation payload decoded none = true ∧
        edit = .attest message attestation decoded := by
  cases fetched with
  | notIndexed =>
      cases hedit
      exact .inl ⟨_, _, rfl, nofun⟩
  | pending status delayReason =>
      cases hedit
      exact .inl ⟨_, _, rfl, nofun⟩
  | complete message attestation =>
      obtain ⟨decoded, hdecode, hchecked⟩ := except_bind_ok.mp hedit
      split at hchecked
      · cases hchecked
      · next hmatches =>
          cases hchecked
          exact .inr ⟨message, attestation, decoded, rfl, hdecode, by simpa using hmatches, rfl⟩

/-! ## The calls -/

/-- A successful call left everything as it was or wrote one edit to its row. -/
theorem call_ok {call : BridgeCall} {value : BridgeIntentView}
    (hok : (call.program config id).alone bridgeMachine input state = (.ok value, last)) :
    ∃ row, state.find id = some row ∧ (last = state ∧ call.Recorded row ∨
      ∃ edit, call.Edits config input state row edit ∧ last = state.edited id row edit) := by
  cases call with
  | reportApproval walletAddress transactionHash =>
      obtain ⟨row, -, hrow, -, hrest⟩ := owned_ok.mp hok
      obtain ⟨hash, hhash, honce⟩ := alone_ofExcept_bind_ok.mp hrest
      rw [txHash_ok hhash] at honce
      refine ⟨row, hrow, ?_⟩
      rcases reportOnce_ok honce with ⟨hsame, hrecorded⟩ | ⟨hnone, hlast⟩
      · exact .inl ⟨hsame, hrecorded⟩
      · exact .inr ⟨_, ⟨hnone, rfl⟩, hlast⟩
  | reportSource walletAddress transactionHash =>
      obtain ⟨row, -, hrow, -, hrest⟩ := owned_ok.mp hok
      obtain ⟨hash, hhash, honce⟩ := alone_ofExcept_bind_ok.mp hrest
      rw [txHash_ok hhash] at honce
      refine ⟨row, hrow, ?_⟩
      rcases reportOnce_ok honce with ⟨hsame, hrecorded⟩ | ⟨hnone, hlast⟩
      · exact .inl ⟨hsame, hrecorded⟩
      · exact .inr ⟨_, ⟨hnone, rfl⟩, hlast⟩
  | getAttestation walletAddress =>
      obtain ⟨row, -, hrow, -, -, fetched, hread, edit, hedit, -, -, hlast⟩ := refresh_ok.mp hok
      exact ⟨row, hrow, .inr ⟨edit, ⟨fetched, hread, hedit⟩, hlast⟩⟩
  | reattest walletAddress =>
      obtain ⟨row, -, hrow, -, -, fetched, hread, edit, hedit, -, -, hlast⟩ := refresh_ok.mp hok
      exact ⟨row, hrow, .inr ⟨edit, ⟨fetched, hread, hedit⟩, hlast⟩⟩
  | reportDestination walletAddress transactionHash messageHash =>
      obtain ⟨row, -, hrow, -, hrest⟩ := owned_ok.mp hok
      obtain ⟨hash, hhash, hreported⟩ := alone_ofExcept_bind_ok.mp hrest
      obtain ⟨message, hmessage, hchecked⟩ := alone_ofExcept_bind_ok.mp hreported
      obtain ⟨hconflict, honce⟩ := alone_throwIf_bind_ok.mp hchecked
      rw [txHash_ok hmessage] at hconflict
      rw [txHash_ok hhash, txHash_ok hmessage] at honce
      refine ⟨row, hrow, ?_⟩
      rcases reportOnce_ok honce with ⟨hsame, hrecorded⟩ | ⟨hnone, hlast⟩
      · exact .inl ⟨hsame, hrecorded⟩
      · exact .inr ⟨_, ⟨hnone, Bool.eq_false_iff.mpr hconflict, rfl⟩, hlast⟩
  | authorizeDestination walletAddress =>
      obtain ⟨row, -, hrow, -, hrest⟩ := owned_ok.mp hok
      obtain ⟨hstatus, hlease⟩ := alone_throwIf_bind_ok.mp hrest
      -- The fresh lease and the clock are read from the input.
      have hwrite := alone_perform_bind_ok.mp (alone_perform_bind_ok.mp hlease)
      exact ⟨row, hrow, .inr ⟨_, ⟨not_not.mp hstatus, rfl⟩, (written_ok.mp hwrite).2.2.2⟩⟩
  | submitDestination walletAddress transactionHash messageHash leaseId =>
      obtain ⟨row, -, hrow, -, hrest⟩ := owned_ok.mp hok
      obtain ⟨-, hnow⟩ := alone_throwIf_bind_ok.mp hrest
      obtain ⟨-, hreported⟩ := alone_throwIf_bind_ok.mp (alone_perform_bind_ok.mp hnow)
      obtain ⟨hash, hhash, hmessage⟩ := alone_ofExcept_bind_ok.mp hreported
      obtain ⟨message, hmessage, hsubmit⟩ := alone_ofExcept_bind_ok.mp hmessage
      have hwrite := alone_perform_bind_ok.mp hsubmit
      rw [txHash_ok hhash, txHash_ok hmessage] at hwrite
      exact ⟨row, hrow, .inr ⟨_, rfl, (written_ok.mp hwrite).2.2.2⟩⟩
  | verifyDestination walletAddress =>
      obtain ⟨row, -, hrow, -, hrest⟩ := owned_ok.mp hok
      obtain ⟨-, hattested⟩ := alone_throwIf_bind_ok.mp hrest
      obtain ⟨-, hproved⟩ := alone_throwIf_bind_ok.mp hattested
      obtain ⟨verified, middle, hverified, hnow⟩ := alone_bind_ok.mp hproved
      obtain rfl := prove_ok hverified
      have hwrite := alone_perform_bind_ok.mp hnow
      exact ⟨row, hrow, .inr ⟨_, ⟨verified, hverified, rfl⟩, (written_ok.mp hwrite).2.2.2⟩⟩

/-! A call that fails leaves everything as it was. -/

theorem required_readOnly (id : String) : ReadOnly bridgeMachine (required id) := by
  refine readOnly_bind (readOnly_bind (readOnly_perform fun _ _ => rfl) fun _ =>
    readOnly_orThrow _) fun found => ?_
  cases found with
  | none => exact readOnly_throw _
  | some row => exact readOnly_pure row

theorem owned_quiet {α : Type} {rest : BridgeRow → BridgeService α}
    (hrest : ∀ row, Quiet bridgeMachine (rest row)) :
    Quiet bridgeMachine (required id >>= fun row => ownership config row walletAddress >>= fun _ =>
      rest row) :=
  quiet_bind (required_readOnly id) fun row => quiet_bind (readOnly_throwIf _) fun _ => hrest row

theorem answer_update_error {snapshot : BridgeLifecycleResult} {edit : BridgeEdit} {error : DbError}
    {last : BridgeState} (herror : bridgeMachine.answer (.update id snapshot edit) input state =
      (.error error, last)) : last = state := by
  simp only [bridgeMachine] at herror
  split at herror
  · unfold BridgeState.update at herror
    split at herror
    · exact (Prod.mk.inj herror).2.symm
    · split at herror
      · cases (Prod.mk.inj herror).1
      · exact (Prod.mk.inj herror).2.symm
  · exact (Prod.mk.inj herror).2.symm

/-- A refused write did not take place. -/
theorem written_quiet {snapshot : BridgeLifecycleResult} {edit : BridgeEdit}
    {shown : BridgeRow → BridgeIntentView} :
    Quiet bridgeMachine (update id snapshot edit >>= fun updated => pure (shown updated)) := by
  intro input state error last herror
  have hrest : (orThrow (bridgeMachine.answer (.update id snapshot edit) input state).1 >>=
      fun updated => pure (shown updated)).alone bridgeMachine input
        (bridgeMachine.answer (.update id snapshot edit) input state).2 = (.error error, last) :=
    herror
  rcases hanswer : bridgeMachine.answer (.update id snapshot edit) input state with ⟨thrown | updated, after⟩
  · rw [hanswer] at hrest
    rw [← answer_update_error hanswer]
    exact (congrArg Prod.snd hrest).symm
  · rw [hanswer] at hrest
    cases congrArg Prod.fst hrest

theorem reportOnce_quiet {row : BridgeRow} {recorded : Option String} {hash message : String}
    {edit : BridgeEdit} : Quiet bridgeMachine (reportOnce id row recorded hash message edit) := by
  unfold reportOnce
  cases recorded with
  | none => exact written_quiet
  | some prior =>
      dsimp only
      split
      · exact quiet_throw _
      · exact (readOnly_pure _).quiet

theorem prove_readOnly (payload : BridgeIntentPayload) (result : BridgeLifecycleResult) :
    ReadOnly bridgeMachine (proveDestinationReceipt config payload result) := by
  unfold proveDestinationReceipt
  split
  · exact readOnly_pure _
  · split
    · refine readOnly_bind (readOnly_ofExcept _) fun decoded => ?_
      refine readOnly_bind (readOnly_throwIf _) fun _ => ?_
      refine readOnly_bind (readOnly_perform fun _ _ => rfl) fun evidence => ?_
      split
      · exact readOnly_throw _
      · exact readOnly_bind (readOnly_throwIf _) fun _ => readOnly_pure _
    · exact readOnly_throw _

theorem refresh_quiet (id walletAddress : String) :
    Quiet bridgeMachine (refreshAttestation config id walletAddress) := by
  refine owned_quiet fun row => ?_
  split
  · exact quiet_throw _
  · refine quiet_bind (readOnly_bind (readOnly_perform fun _ _ => rfl) fun _ =>
      readOnly_ofExcept _) fun fetched => ?_
    exact quiet_bind (readOnly_ofExcept _) fun edit => written_quiet

theorem call_quiet (config : BridgeConfig) (id : String) (call : BridgeCall) :
    Quiet bridgeMachine (call.program config id) := by
  cases call with
  | reportApproval =>
      exact owned_quiet fun row => quiet_bind (readOnly_ofExcept _) fun hash => reportOnce_quiet
  | reportSource =>
      exact owned_quiet fun row => quiet_bind (readOnly_ofExcept _) fun hash => reportOnce_quiet
  | getAttestation walletAddress => exact refresh_quiet id walletAddress
  | reattest walletAddress => exact refresh_quiet id walletAddress
  | reportDestination =>
      refine owned_quiet fun row => quiet_bind (readOnly_ofExcept _) fun hash => ?_
      refine quiet_bind (readOnly_ofExcept _) fun messageHash => ?_
      exact quiet_bind (readOnly_throwIf _) fun _ => reportOnce_quiet
  | authorizeDestination =>
      refine owned_quiet fun row => quiet_bind (readOnly_throwIf _) fun _ => ?_
      refine quiet_bind (readOnly_perform fun _ _ => rfl) fun leaseId => ?_
      exact quiet_bind (readOnly_perform fun _ _ => rfl) fun now => written_quiet
  | submitDestination =>
      refine owned_quiet fun row => quiet_bind (readOnly_throwIf _) fun _ => ?_
      refine quiet_bind (readOnly_perform fun _ _ => rfl) fun now => ?_
      refine quiet_bind (readOnly_throwIf _) fun _ => quiet_bind (readOnly_ofExcept _) fun hash => ?_
      refine quiet_bind (readOnly_ofExcept _) fun messageHash => ?_
      exact quiet_bind (readOnly_perform fun _ _ => rfl) fun submittedAt => written_quiet
  | verifyDestination =>
      refine owned_quiet fun row => quiet_bind (readOnly_throwIf _) fun _ => ?_
      refine quiet_bind (readOnly_throwIf _) fun _ => quiet_bind (prove_readOnly _ _) fun verified => ?_
      exact quiet_bind (readOnly_perform fun _ _ => rfl) fun now => written_quiet

/-! ## One call after the other -/

/-- A call, with the input of the environment it meets. -/
structure BridgeRequest where
  call : BridgeCall
  input : BridgeInput

namespace BridgeRequest

variable (config : BridgeConfig) (id : String)

/-- The state after a request that runs alone. -/
def step (state : BridgeState) (request : BridgeRequest) : BridgeState :=
  ((request.call.program config id).alone bridgeMachine request.input state).2

/-- The request is answered with a view of the intent, not with an error. -/
def Succeeds (state : BridgeState) (request : BridgeRequest) : Prop :=
  ((request.call.program config id).alone bridgeMachine request.input state).1.isOk = true

instance (state : BridgeState) (request : BridgeRequest) :
    Decidable (request.Succeeds config id state) :=
  inferInstanceAs (Decidable (_ = true))

variable {config} {id} {request : BridgeRequest}

/-- A request that fails leaves the rows alone. -/
theorem step_of_fails (hfails : ¬ request.Succeeds config id state) :
    request.step config id state = state := by
  unfold Succeeds at hfails
  unfold step
  rcases hanswer : (request.call.program config id).alone bridgeMachine request.input state with
    ⟨error | view, last⟩
  · exact call_quiet config id request.call _ _ _ _ hanswer
  · rw [hanswer] at hfails
    exact absurd rfl hfails

/-- One that succeeds leaves them alone, too, or edits one row. -/
theorem step_ok (hok : request.Succeeds config id state) :
    ∃ row, state.find id = some row ∧
      (request.step config id state = state ∧ request.call.Recorded row ∨
        ∃ edit, request.call.Edits config request.input state row edit ∧
          request.step config id state = state.edited id row edit) := by
  unfold Succeeds at hok
  unfold step
  rcases hanswer : (request.call.program config id).alone bridgeMachine request.input state with
    ⟨error | view, last⟩
  · rw [hanswer] at hok
    cases hok
  · exact call_ok hanswer

/-- The unique columns stay unique. -/
theorem step_unique (hunique : UniqueBridges state.rows) :
    UniqueBridges (request.step config id state).rows := by
  have hop : ∀ op (before : BridgeState), UniqueBridges before.rows →
      UniqueBridges (bridgeMachine.answer op request.input before).2.rows := by
    intro op before hbefore
    cases op with
    | update other snapshot edit =>
        rw [answer_update]
        split
        · next htakes => exact htakes.2.2
        · exact hbefore
    | _ => exact hbefore
  exact @Program.alone_keeps bridgeSignature BridgeInput BridgeState _ bridgeMachine request.input
    (fun state => UniqueBridges state.rows) hop (request.call.program config id).run state hunique

/-- What a successful request makes of the row it found. -/
theorem step_row (hok : request.Succeeds config id state) :
    ∃ row, state.find id = some row ∧
      (request.step config id state = state ∧ request.call.Recorded row ∨
        ∃ edit, request.call.Edits config request.input state row edit ∧
          (request.step config id state).find id = some (edit.apply (resultOf row) row)) := by
  obtain ⟨row, hrow, hsame | ⟨edit, hedit, hlast⟩⟩ := step_ok hok
  · exact ⟨row, hrow, .inl hsame⟩
  · refine ⟨row, hrow, .inr ⟨edit, hedit, ?_⟩⟩
    rw [hlast]
    exact BridgeState.find_update (edit.apply_id (resultOf row)) hrow

end BridgeRequest

end WizPay.Bridge
