import WizPay.Bridge.Completion

/-!
# What the verified flag stands for

The flag is set when the destination node proved a mint, and no call clears it.
An audit records which transaction and message were proven. The stored ones are
those as long as no call replaces them afterwards.
-/

namespace WizPay.Bridge

open Foundation Backend

variable {config : BridgeConfig} {id : String}

/-! ## The projection to activities -/

/-- A finished bridge in the activity list of a wallet. -/
structure BridgeActivity where
  sourceReferenceId : String
  walletAddress : Evm.Address
  chainId : ℕ
  txHash : String
  inputTokenAddress : Evm.Address
  inputAmount : String
  outputAmount : String
  counterparty : Evm.Address
  destinationChainId : ℕ
  transactionHashes : List String
  occurredAt : Option ℕ

/-- The activity of a row: `where: { status: 'completed' }`, then verified, of this
wallet and with a destination hash. -/
def projectBridge (wallet : Evm.Address) (row : BridgeRow) : Option BridgeActivity :=
  let result := resultOf row
  match result.destinationTransactionHash with
  | none => none
  | some destinationHash =>
      if row.status = .completed ∧ result.destinationReceiptVerified = true ∧
          row.payload.walletAddress = wallet then
        some {
          sourceReferenceId := row.id
          walletAddress := wallet
          chainId := row.payload.sourceChainId
          txHash := destinationHash
          inputTokenAddress := row.payload.sourceUsdcAddress
          inputAmount := row.payload.amount
          outputAmount := (result.mintAmount.map toString).getD row.payload.amount
          counterparty := row.payload.recipientAddress
          destinationChainId := row.payload.destinationChainId
          transactionHashes := result.sourceTransactionHash.toList ++ [destinationHash]
          occurredAt := result.completedAt }
      else none

theorem projectBridge_verified {wallet : Evm.Address} {row : BridgeRow} {activity : BridgeActivity}
    (hactivity : projectBridge wallet row = some activity) :
    (resultOf row).destinationReceiptVerified = true ∧
      (resultOf row).destinationTransactionHash = some activity.txHash := by
  unfold projectBridge at hactivity
  dsimp only at hactivity
  split at hactivity
  · cases hactivity
  · next destinationHash hhash =>
      split at hactivity
      · next hfinished =>
          cases hactivity
          exact ⟨hfinished.2.1, hhash⟩
      · cases hactivity

/-! ## The audit -/

/-- The transaction and the message that a request proves, if it asks the node and
the receipt matches. -/
def BridgeRequest.proves (config : BridgeConfig) (id : String) (state : BridgeState)
    (request : BridgeRequest) : Option (String × String) :=
  match request.call, state.find id with
  | .verifyDestination _, some row =>
      let result := resultOf row
      match ((proveDestinationReceipt config row.payload result).alone bridgeMachine request.input
          state).1, result.destinationTransactionHash, result.attestedMessage with
      | .ok true, some hash, some message => some (hash, message)
      | _, _, _ => none
  | _, _ => none

/-- The rows, and every pair of a transaction and a message that was proven. -/
structure AuditedBridge where
  state : BridgeState
  proven : List (String × String)

def AuditedBridge.step (config : BridgeConfig) (id : String) (audited : AuditedBridge)
    (request : BridgeRequest) : AuditedBridge where
  state := request.step config id audited.state
  proven := audited.proven ++ (request.proves config id audited.state).toList

/-- Auditing does not change what the calls do. -/
theorem audited_run (requests : List BridgeRequest) (audited : AuditedBridge) :
    (Sequence.run (AuditedBridge.step config id) requests audited).state =
      Sequence.run (BridgeRequest.step config id) requests audited.state :=
  Sequence.run_project (fun _ _ => rfl) requests audited

/-- A receipt is proven only for the stored transaction and message, and by a log
of the node's answer. -/
theorem prove_true {payload : BridgeIntentPayload} {result : BridgeLifecycleResult}
    {input : BridgeInput} {state last : BridgeState}
    (hok : (proveDestinationReceipt config payload result).alone bridgeMachine input state =
      (.ok true, last)) :
    ∃ hash message decoded evidence, result.destinationTransactionHash = some hash ∧
      result.attestedMessage = some message ∧
      decodeCctpV2Message config.keccak256 message = .ok decoded ∧
      input.destinationAnswer = some evidence ∧
      evidenceMatches payload message decoded evidence = true := by
  unfold proveDestinationReceipt at hok
  split at hok
  · cases (Service.alone_pure_ok.mp hok).1
  · split at hok
    · next hash message hhash hmessage =>
        obtain ⟨decoded, hdecode, hchecked⟩ := Service.alone_ofExcept_bind_ok.mp hok
        obtain ⟨-, hread⟩ := Service.alone_throwIf_bind_ok.mp hchecked
        have hevidence := Service.alone_perform_bind_ok.mp hread
        split at hevidence
        · exact absurd hevidence Service.alone_throw_ok
        · next evidence hanswer =>
            obtain ⟨hmatches, -⟩ := Service.alone_throwIf_bind_ok.mp hevidence
            exact ⟨hash, message, decoded, evidence, hhash, hmessage, hdecode, hanswer,
              by simpa using hmatches⟩
    · exact absurd hok Service.alone_throw_ok

/-! ## What the stored evidence says -/

/-- The flag stands for the stored transaction and message, the message hash for
the stored message, and a projected transaction is proven. -/
structure EvidenceSound (config : BridgeConfig) (row : BridgeRow)
    (proven : List (String × String)) : Prop where
  verified : (resultOf row).destinationReceiptVerified = true →
    ∃ hash message, (resultOf row).destinationTransactionHash = some hash ∧
      (resultOf row).attestedMessage = some message ∧ (hash, message) ∈ proven
  messageHash : ∀ message, (resultOf row).attestedMessage = some message →
    (resultOf row).messageHash = some (config.keccak256 message) ∧
      row.messageHash = some (config.keccak256 message)
  projected : ∀ wallet activity, projectBridge wallet row = some activity →
    ∃ message, (activity.txHash, message) ∈ proven

/-- Moreover only the stored transaction and message were ever proven. -/
structure EvidenceKept (config : BridgeConfig) (row : BridgeRow)
    (proven : List (String × String)) : Prop extends EvidenceSound config row proven where
  current : ∀ pair ∈ proven, (resultOf row).destinationReceiptVerified = true ∧
    (resultOf row).destinationTransactionHash = some pair.1 ∧
    (resultOf row).attestedMessage = some pair.2

/-- The call replaces no proven transaction or message, and submits the hash of the
stored message. -/
def BridgeCall.RespectsEvidence (config : BridgeConfig) (input : BridgeInput) (row : BridgeRow) :
    BridgeCall → Prop
  | submitDestination _ hash messageHash _ =>
      ((resultOf row).destinationReceiptVerified = true →
        (resultOf row).destinationTransactionHash = some (asciiLower hash)) ∧
      ∀ message, (resultOf row).attestedMessage = some message →
        asciiLower messageHash = config.keccak256 message
  | getAttestation _ | reattest _ => (resultOf row).destinationReceiptVerified = true →
      ∀ message attestation, readResponse input.irisAnswer = .ok (.complete message attestation) →
        (resultOf row).attestedMessage = some message
  | _ => True

variable {row next : BridgeRow} {proven : List (String × String)}

/-- A projected transaction is a verified one. -/
theorem EvidenceSound.of_verified
    (hverified : (resultOf row).destinationReceiptVerified = true →
      ∃ hash message, (resultOf row).destinationTransactionHash = some hash ∧
        (resultOf row).attestedMessage = some message ∧ (hash, message) ∈ proven)
    (hmessage : ∀ message, (resultOf row).attestedMessage = some message →
      (resultOf row).messageHash = some (config.keccak256 message) ∧
        row.messageHash = some (config.keccak256 message)) : EvidenceSound config row proven where
  verified := hverified
  messageHash := hmessage
  projected := by
    intro wallet activity hactivity
    obtain ⟨hflag, htransaction⟩ := projectBridge_verified hactivity
    obtain ⟨hash, message, hhash, -, hproven⟩ := hverified hflag
    obtain rfl := Option.some.inj (htransaction.symm.trans hhash)
    exact ⟨message, hproven⟩

@[simp] theorem resultOf_apply (edit : BridgeEdit) (row : BridgeRow) :
    resultOf (edit.apply (resultOf row) row) = edit.result (resultOf row) := by
  cases edit <;> rfl

/-- A call that touches none of the evidence keeps what is said about it. -/
theorem EvidenceKept.congr (hkept : EvidenceKept config row proven)
    (hflag : (resultOf next).destinationReceiptVerified =
      (resultOf row).destinationReceiptVerified)
    (hhash : (resultOf next).destinationTransactionHash =
      (resultOf row).destinationTransactionHash)
    (hattested : (resultOf next).attestedMessage = (resultOf row).attestedMessage)
    (hmessage : (resultOf next).messageHash = (resultOf row).messageHash)
    (hcolumn : next.messageHash = row.messageHash) : EvidenceKept config next proven where
  toEvidenceSound := by
    apply EvidenceSound.of_verified
    · rw [hflag, hhash, hattested]
      exact hkept.verified
    · rw [hattested, hmessage, hcolumn]
      exact hkept.messageHash
  current := by
    rw [hflag, hhash, hattested]
    exact hkept.current

/-! ## One edit -/

/-- A first report meets no proven transaction, and its message hash is that of the
attested message, if there is one. -/
theorem reportDestination_kept
    (hkeccak : ∀ text, asciiLower (config.keccak256 text) = config.keccak256 text)
    (hkept : EvidenceKept config row proven) {hash messageHash : String}
    (hnone : (resultOf row).destinationTransactionHash = none)
    (hagrees : messageConflicts (resultOf row) (asciiLower messageHash) = false) :
    EvidenceKept config
      ((BridgeEdit.reportDestination hash (asciiLower messageHash)).apply (resultOf row) row)
      proven := by
  have hunverified : (resultOf row).destinationReceiptVerified ≠ true := by
    intro hflag
    obtain ⟨stored, -, hstored, -⟩ := hkept.verified hflag
    cases hnone.symm.trans hstored
  refine ⟨EvidenceSound.of_verified ?_ ?_, ?_⟩
  · rw [resultOf_apply]
    exact fun hflag => absurd hflag hunverified
  · intro message hmessage
    rw [resultOf_apply] at hmessage
    have hstored := (hkept.messageHash message hmessage).1
    have hattested : (resultOf row).attestedMessage = some message := hmessage
    have hsame : config.keccak256 message = asciiLower messageHash := by
      rw [messageConflicts, hattested, hstored] at hagrees
      simpa [asciiLower_asciiLower, hkeccak] using hagrees
    rw [resultOf_apply, hsame]
    exact ⟨rfl, rfl⟩
  · intro pair hpair
    exact absurd (hkept.current pair hpair).1 hunverified

theorem verified_kept (hkept : EvidenceKept config row proven) {hash message : String}
    (hhash : (resultOf row).destinationTransactionHash = some hash)
    (hmessage : (resultOf row).attestedMessage = some message) (now : ℕ) :
    EvidenceKept config ((BridgeEdit.verifyDestination true now).apply (resultOf row) row)
      (proven ++ [(hash, message)]) := by
  refine ⟨EvidenceSound.of_verified (fun _ => ⟨hash, message, ?_, ?_, by simp⟩) ?_, ?_⟩
  · rw [resultOf_apply]
    exact hhash
  · rw [resultOf_apply]
    exact hmessage
  · rw [resultOf_apply]
    exact hkept.messageHash
  · rw [resultOf_apply]
    intro pair hpair
    rcases List.mem_append.mp hpair with hpair | hpair
    · exact ⟨rfl, (hkept.current pair hpair).2⟩
    · rw [List.mem_singleton.mp hpair]
      exact ⟨rfl, hhash, hmessage⟩

theorem unverified_kept (hkept : EvidenceKept config row proven) (now : ℕ) :
    EvidenceKept config ((BridgeEdit.verifyDestination false now).apply (resultOf row) row)
      proven := by
  refine hkept.congr ?_ ?_ ?_ ?_ rfl <;> rw [resultOf_apply] <;> rfl

/-- A submission keeps the evidence sound exactly when it repeats what was proven,
and names the stored message. -/
theorem submitDestination_kept (hkept : EvidenceKept config row proven) {hash messageHash : String}
    {now : ℕ} :
    let next := (BridgeEdit.submitDestination hash messageHash now).apply (resultOf row) row
    let respects := ((resultOf row).destinationReceiptVerified = true →
        (resultOf row).destinationTransactionHash = some hash) ∧
      ∀ message, (resultOf row).attestedMessage = some message →
        messageHash = config.keccak256 message
    (EvidenceSound config next proven → respects) ∧
      (respects → EvidenceKept config next proven) := by
  intro next respects
  constructor
  · intro hsound
    refine ⟨fun hflag => ?_, fun message hmessage => ?_⟩
    · obtain ⟨other, message, hother, -, hproven⟩ := hsound.verified hflag
      obtain rfl : hash = other := Option.some.inj hother
      exact (hkept.current _ hproven).2.1
    · exact Option.some.inj (hsound.messageHash message hmessage).1
  · rintro ⟨hsame, hmessages⟩
    refine ⟨EvidenceSound.of_verified (fun hflag => ?_) fun message hmessage => ?_, ?_⟩
    · obtain ⟨stored, message, hstored, hattested, hproven⟩ := hkept.verified hflag
      obtain rfl := Option.some.inj ((hsame hflag).symm.trans hstored)
      exact ⟨hash, message, rfl, hattested, hproven⟩
    · have hsubmitted := hmessages message hmessage
      exact ⟨congrArg some hsubmitted, congrArg some hsubmitted⟩
    · intro pair hpair
      obtain ⟨hflag, hstored, hattested⟩ := hkept.current pair hpair
      exact ⟨hflag, (hsame hflag).symm.trans hstored, hattested⟩

/-- So does a complete attestation that brings the proven message once more. -/
theorem attest_kept (hkept : EvidenceKept config row proven) {message attestation : String}
    {decoded : DecodedCctpMessage} (hhash : decoded.messageHash = config.keccak256 message) :
    let next := (BridgeEdit.attest message attestation decoded).apply (resultOf row) row
    let respects := (resultOf row).destinationReceiptVerified = true →
      (resultOf row).attestedMessage = some message
    (EvidenceSound config next proven → respects) ∧
      (respects → EvidenceKept config next proven) := by
  intro next respects
  constructor
  · intro hsound hflag
    obtain ⟨hash, other, -, hother, hproven⟩ := hsound.verified hflag
    obtain rfl : message = other := Option.some.inj hother
    exact (hkept.current _ hproven).2.2
  · intro hsame
    refine ⟨EvidenceSound.of_verified (fun hflag => ?_) fun other hother => ?_, ?_⟩
    · obtain ⟨hash, stored, hstored, hattested, hproven⟩ := hkept.verified hflag
      obtain rfl := Option.some.inj ((hsame hflag).symm.trans hattested)
      exact ⟨hash, message, hstored, rfl, hproven⟩
    · obtain rfl : message = other := Option.some.inj hother
      rw [← hhash]
      exact ⟨rfl, rfl⟩
    · intro pair hpair
      obtain ⟨hflag, hstored, hattested⟩ := hkept.current pair hpair
      exact ⟨hflag, hstored, (hsame hflag).symm.trans hattested⟩

/-! ## One request -/

theorem proves_verify {request : BridgeRequest} {state : BridgeState} {walletAddress : String}
    (hcall : request.call = .verifyDestination walletAddress) (hrow : state.find id = some row)
    {verified : Bool} (hproof : (proveDestinationReceipt config row.payload (resultOf row)).alone
      bridgeMachine request.input state = (.ok verified, state)) :
    verified = false ∧ request.proves config id state = none ∨
      verified = true ∧ ∃ hash message, (resultOf row).destinationTransactionHash = some hash ∧
        (resultOf row).attestedMessage = some message ∧
        request.proves config id state = some (hash, message) := by
  unfold BridgeRequest.proves
  rw [hcall, hrow]
  simp only [hproof]
  cases verified with
  | false => exact .inl ⟨rfl, rfl⟩
  | true =>
      obtain ⟨hash, message, decoded, evidence, hhash, hmessage, -⟩ := prove_true hproof
      exact .inr ⟨rfl, hash, message, hhash, hmessage, by rw [hhash, hmessage]⟩

theorem proves_none {request : BridgeRequest} {state : BridgeState}
    (hcall : ∀ walletAddress, request.call ≠ .verifyDestination walletAddress) :
    request.proves config id state = none := by
  unfold BridgeRequest.proves
  split
  · next walletAddress row hverify hrow => exact absurd hverify (hcall walletAddress)
  · rfl

/-- What the audit knows of the intent, if there is one. -/
def AuditedBridge.Sound (config : BridgeConfig) (id : String) (audited : AuditedBridge) : Prop :=
  ∀ row, audited.state.find id = some row → EvidenceSound config row audited.proven

def AuditedBridge.Kept (config : BridgeConfig) (id : String) (audited : AuditedBridge) : Prop :=
  ∀ row, audited.state.find id = some row → EvidenceKept config row audited.proven

def BridgeRequest.RespectsEvidence (config : BridgeConfig) (id : String) (audited : AuditedBridge)
    (request : BridgeRequest) : Prop :=
  ∀ row, audited.state.find id = some row → request.call.RespectsEvidence config request.input row

/-- The row that a request found and the one that it leaves. -/
theorem edit_evidence
    (hkeccak : ∀ text, asciiLower (config.keccak256 text) = config.keccak256 text)
    {request : BridgeRequest} {state : BridgeState} (hrow : state.find id = some row)
    (hkept : EvidenceKept config row proven) {edit : BridgeEdit}
    (hedit : request.call.Edits config request.input state row edit) :
    let next := edit.apply (resultOf row) row
    let audit := proven ++ (request.proves config id state).toList
    (EvidenceSound config next audit → request.call.RespectsEvidence config request.input row) ∧
      (request.call.RespectsEvidence config request.input row → EvidenceKept config next audit) := by
  obtain ⟨call, input⟩ := request
  -- A refreshed attestation is an edit of its own, whichever call asked for it.
  have hrefresh : ∀ fetched, readResponse input.irisAnswer = .ok fetched →
      attestationEdit config row.payload fetched = .ok edit →
      let respects := (resultOf row).destinationReceiptVerified = true → ∀ message attestation,
        readResponse input.irisAnswer = .ok (.complete message attestation) →
          (resultOf row).attestedMessage = some message
      (EvidenceSound config (edit.apply (resultOf row) row) proven → respects) ∧
        (respects → EvidenceKept config (edit.apply (resultOf row) row) proven) := by
    intro fetched hread hattest
    rcases attestationEdit_ok hattest with
      ⟨status, delayReason, rfl, hwaits⟩ | ⟨message, attestation, decoded, rfl, hdecode, -, rfl⟩
    · have hnext := @EvidenceKept.congr config row
        ((BridgeEdit.awaitAttestation status delayReason).apply (resultOf row) row) proven hkept
        (by rw [resultOf_apply]; rfl) (by rw [resultOf_apply]; rfl) (by rw [resultOf_apply]; rfl)
        (by rw [resultOf_apply]; rfl) rfl
      refine ⟨fun _ _ message attestation hcomplete => ?_, fun _ => hnext⟩
      exact absurd (Except.ok.inj (hread.symm.trans hcomplete)) (hwaits message attestation)
    · obtain ⟨hsound, hrespects⟩ := attest_kept hkept (decode_messageHash hdecode)
      refine ⟨fun hnext hflag other otherAttestation hcomplete => ?_, fun hsame => ?_⟩
      · cases Except.ok.inj (hread.symm.trans hcomplete)
        exact hsound hnext hflag
      · exact hrespects fun hflag => hsame hflag message attestation hread
  have hnone : (∀ walletAddress, call ≠ .verifyDestination walletAddress) →
      proven ++ (BridgeRequest.proves config id state ⟨call, input⟩).toList = proven := by
    intro hcall
    rw [proves_none hcall, Option.toList_none, List.append_nil]
  cases call with
  | reportApproval =>
      obtain ⟨-, rfl⟩ := hedit
      rw [hnone nofun]
      refine ⟨fun _ => trivial, fun _ => hkept.congr ?_ ?_ ?_ ?_ rfl⟩ <;> rw [resultOf_apply] <;> rfl
  | reportSource =>
      obtain ⟨-, rfl⟩ := hedit
      rw [hnone nofun]
      refine ⟨fun _ => trivial, fun _ => hkept.congr ?_ ?_ ?_ ?_ rfl⟩ <;> rw [resultOf_apply] <;> rfl
  | getAttestation =>
      obtain ⟨fetched, hread, hattest⟩ := hedit
      rw [hnone nofun]
      exact hrefresh fetched hread hattest
  | reattest =>
      obtain ⟨fetched, hread, hattest⟩ := hedit
      rw [hnone nofun]
      exact hrefresh fetched hread hattest
  | reportDestination =>
      obtain ⟨hfirst, hagrees, rfl⟩ := hedit
      rw [hnone nofun]
      exact ⟨fun _ => trivial, fun _ => reportDestination_kept hkeccak hkept hfirst hagrees⟩
  | authorizeDestination =>
      obtain ⟨-, rfl⟩ := hedit
      rw [hnone nofun]
      refine ⟨fun _ => trivial, fun _ => hkept.congr ?_ ?_ ?_ ?_ rfl⟩ <;> rw [resultOf_apply] <;> rfl
  | submitDestination =>
      obtain rfl := hedit
      rw [hnone nofun]
      exact submitDestination_kept hkept
  | verifyDestination =>
      obtain ⟨verified, hproof, rfl⟩ := hedit
      refine ⟨fun _ => trivial, fun _ => ?_⟩
      rcases proves_verify rfl hrow hproof with
        ⟨rfl, hproves⟩ | ⟨rfl, hash, message, hhash, hmessage, hproves⟩
      · rw [hproves, Option.toList_none, List.append_nil]
        exact unverified_kept hkept input.now
      · rw [hproves]
        exact verified_kept hkept hhash hmessage input.now

theorem audited_step
    (hkeccak : ∀ text, asciiLower (config.keccak256 text) = config.keccak256 text)
    {audited : AuditedBridge} (hkept : audited.Kept config id) {request : BridgeRequest}
    (hok : request.Succeeds config id audited.state) :
    ((audited.step config id request).Sound config id → request.RespectsEvidence config id audited) ∧
      (request.RespectsEvidence config id audited →
        (audited.step config id request).Kept config id) := by
  obtain ⟨row, hrow, ⟨hsame, hrecorded⟩ | ⟨edit, hedit, hnext⟩⟩ := BridgeRequest.step_row hok
  · -- A report of a recorded hash is no verification, and writes nothing.
    obtain ⟨call, input⟩ := request
    have hproves : BridgeRequest.proves config id audited.state ⟨call, input⟩ = none := by
      apply proves_none
      rintro walletAddress rfl
      exact hrecorded
    have hstep : audited.step config id ⟨call, input⟩ = audited := by
      rw [AuditedBridge.step, hsame, hproves, Option.toList_none, List.append_nil]
    rw [hstep]
    refine ⟨fun _ found _ => ?_, fun _ => hkept⟩
    cases call with
    | reportApproval => exact trivial
    | reportSource => exact trivial
    | reportDestination => exact trivial
    | _ => exact hrecorded.elim
  · obtain ⟨hsound, hrespects⟩ := edit_evidence hkeccak hrow (hkept row hrow) hedit
    constructor
    · intro hall found hfound
      obtain rfl := Option.some.inj (hrow.symm.trans hfound)
      exact hsound (hall _ hnext)
    · intro hall found hfound
      obtain rfl := Option.some.inj (hnext.symm.trans hfound)
      exact hrespects (hall row hrow)

/-! ## Sequences of requests -/

/-- Whatever sequence of successful requests follows the creation of an intent, the
flag stands for the stored evidence throughout if and only if every request
respects the evidence it meets. -/
theorem verified_evidence_iff
    (hkeccak : ∀ text, asciiLower (config.keccak256 text) = config.keccak256 text)
    {requests : List BridgeRequest} {state : BridgeState}
    (hcreated : ∀ row, state.find id = some row → row.result = none)
    (hok : Sequence.Along (BridgeRequest.step config id) (BridgeRequest.Succeeds config id)
      requests state) :
    Sequence.Along (AuditedBridge.step config id)
        (fun audited request => request.RespectsEvidence config id audited) requests ⟨state, []⟩ ↔
      ∀ first rest, requests = first ++ rest →
        (Sequence.run (AuditedBridge.step config id) first ⟨state, []⟩).Sound config id := by
  have hstart : AuditedBridge.Kept config id ⟨state, []⟩ := by
    intro row hrow
    have hresult : resultOf row = {} := by rw [resultOf, hcreated row hrow, Option.getD_none]
    refine ⟨EvidenceSound.of_verified ?_ ?_, fun pair hpair => nomatch hpair⟩ <;> rw [hresult]
    · exact nofun
    · exact nofun
  have hvalid : Sequence.Along (AuditedBridge.step config id)
      (fun audited request => request.Succeeds config id audited.state) requests ⟨state, []⟩ :=
    (@Sequence.along_project BridgeState AuditedBridge BridgeRequest (BridgeRequest.step config id)
      (AuditedBridge.step config id) AuditedBridge.state (BridgeRequest.Succeeds config id)
      (fun _ _ => rfl) requests ⟨state, []⟩).mpr hok
  refine Sequence.along_iff_fact (fun audited hkept row hrow => (hkept row hrow).toEvidenceSound)
    (fun audited request hkept hsucceeds => ?_) (fun audited request hkept hsucceeds => ?_) hvalid
    hstart
  · obtain ⟨hsound, hrespects⟩ := audited_step hkeccak hkept hsucceeds
    exact ⟨fun hrequest row hrow => (hrespects hrequest row hrow).toEvidenceSound, hsound⟩
  · exact (audited_step hkeccak hkept hsucceeds).2

theorem verified_evidence_iff_attesting :
    Sequence.Along (AuditedBridge.step exampleConfig "bridge-1")
        (fun audited request => request.RespectsEvidence exampleConfig "bridge-1" audited)
        attesting ⟨⟨[createdRow]⟩, []⟩ ↔
      ∀ first rest, attesting = first ++ rest →
        (Sequence.run (AuditedBridge.step exampleConfig "bridge-1") first
          ⟨⟨[createdRow]⟩, []⟩).Sound exampleConfig "bridge-1" := by
  have hkeccak : ∀ text, asciiLower (exampleConfig.keccak256 text) =
      exampleConfig.keccak256 text := by
    have hlower : asciiLower exampleMessageHash = exampleMessageHash := by decide +kernel
    exact fun _ => hlower
  have hcreated : ∀ row, (BridgeState.mk [createdRow]).find "bridge-1" = some row →
      row.result = none := by
    intro row hrow
    cases hrow
    rfl
  exact verified_evidence_iff hkeccak hcreated attesting_run.1

/-- Another message hash than that of the attested message is submitted. -/
def submitting : List BridgeRequest := [
  bridgeRequest attested (.authorizeDestination exampleOwner),
  bridgeRequest attested
    (.submitDestination exampleOwner exampleMintHash exampleSourceHash "lease-1")]

/-- The submission replaces the hash of the stored message. -/
theorem submitted_message_hash_replaced :
    Sequence.Along (BridgeRequest.step exampleConfig "bridge-1")
        (BridgeRequest.Succeeds exampleConfig "bridge-1") (attesting ++ submitting)
        ⟨[createdRow]⟩ ∧
      ¬ ∀ first rest, attesting ++ submitting = first ++ rest →
        (Sequence.run (AuditedBridge.step exampleConfig "bridge-1") first
          ⟨⟨[createdRow]⟩, []⟩).Sound exampleConfig "bridge-1" := by
  obtain ⟨hattesting, hattested⟩ := attesting_run
  let step := BridgeRequest.step exampleConfig "bridge-1"
  have hruns : Sequence.Along step (BridgeRequest.Succeeds exampleConfig "bridge-1")
        submitting ⟨[attestedRow]⟩ ∧
      ((Sequence.run step submitting ⟨[attestedRow]⟩).find "bridge-1").map
        (fun row => ((resultOf row).messageHash, (resultOf row).attestedMessage.isSome)) =
          some (some exampleSourceHash, true) := by
    decide +kernel
  obtain ⟨hsubmitting, hstored⟩ := hruns
  refine ⟨?_, fun hsound => ?_⟩
  · rw [Sequence.along_append, hattested]
    exact ⟨hattesting, hsubmitting⟩
  · have hend := hsound (attesting ++ submitting) [] (List.append_nil _).symm
    obtain ⟨row, hrow, hfields⟩ := Option.map_eq_some_iff.mp hstored
    obtain ⟨hhash, hsome⟩ := Prod.mk.inj hfields
    obtain ⟨message, hmessage⟩ := Option.isSome_iff_exists.mp hsome
    have hfound : (Sequence.run (AuditedBridge.step exampleConfig "bridge-1")
        (attesting ++ submitting) ⟨⟨[createdRow]⟩, []⟩).state.find "bridge-1" = some row := by
      rw [audited_run, Sequence.run_append, hattested]
      exact hrow
    have hagrees := ((hend row hfound).messageHash message hmessage).1
    rw [hhash, Option.some.injEq] at hagrees
    have hdiffer : exampleSourceHash ≠ exampleMessageHash := by decide
    exact hdiffer hagrees

end WizPay.Bridge
