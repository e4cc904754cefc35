import WizPay.Bridge.Calls

/-!
# How long an intent stays completed

Every write sets the status to its own, whatever it was. A completed intent stays
completed as long as it is only verified again, or told what is recorded already.
-/

namespace WizPay.Bridge

open Foundation Backend

variable {config : BridgeConfig} {id : String} {state : BridgeState}

def BridgeState.Completed (state : BridgeState) (id : String) : Prop :=
  ∃ row, state.find id = some row ∧ row.status = .completed

/-- Nothing is lost between two moments: completed at the first is completed at the other. -/
def StaysCompleted (id : String) (before after : BridgeState) : Prop :=
  before.Completed id → after.Completed id

/-- On a completed row the call verifies once more, or reports a recorded hash. -/
def BridgeCall.RespectsCompletion (call : BridgeCall) (row : BridgeRow) : Prop :=
  (∃ walletAddress, call = .verifyDestination walletAddress) ∨ call.Recorded row

def BridgeRequest.RespectsCompletion (id : String) (state : BridgeState)
    (request : BridgeRequest) : Prop :=
  ∀ row, state.find id = some row → row.status = .completed → request.call.RespectsCompletion row

/-! ## One request -/

theorem attestationEdit_status {payload : BridgeIntentPayload} {fetched : FetchedAttestation}
    {edit : BridgeEdit} (hedit : attestationEdit config payload fetched = .ok edit) :
    edit.status ≠ .completed := by
  rcases attestationEdit_ok hedit with ⟨status, delayReason, rfl, -⟩ | ⟨_, _, _, -, -, -, rfl⟩
  · exact nofun
  · exact nofun

/-- Of the calls that write, only a verification leaves a row completed. -/
theorem edits_completed {call : BridgeCall} {input : BridgeInput} {row : BridgeRow}
    {edit : BridgeEdit} (hedit : call.Edits config input state row edit)
    (hstatus : edit.status = .completed) :
    ∃ walletAddress, call = .verifyDestination walletAddress := by
  cases call with
  | verifyDestination walletAddress => exact ⟨walletAddress, rfl⟩
  | reportApproval =>
      obtain ⟨-, rfl⟩ := hedit
      cases hstatus
  | reportSource =>
      obtain ⟨-, rfl⟩ := hedit
      cases hstatus
  | getAttestation =>
      obtain ⟨fetched, -, hedit⟩ := hedit
      exact absurd hstatus (attestationEdit_status hedit)
  | reattest =>
      obtain ⟨fetched, -, hedit⟩ := hedit
      exact absurd hstatus (attestationEdit_status hedit)
  | reportDestination =>
      obtain ⟨-, -, rfl⟩ := hedit
      cases hstatus
  | authorizeDestination =>
      obtain ⟨-, rfl⟩ := hedit
      cases hstatus
  | submitDestination =>
      obtain rfl := hedit
      cases hstatus

theorem verify_completed {walletAddress : String} {input : BridgeInput} {row : BridgeRow}
    {edit : BridgeEdit}
    (hedit : (BridgeCall.verifyDestination walletAddress).Edits config input state row edit) :
    edit.status = .completed := by
  obtain ⟨verified, -, rfl⟩ := hedit
  rfl

/-- A recorded hash belongs to a report, and a report that finds one does not write. -/
theorem recorded_no_edit {call : BridgeCall} {input : BridgeInput} {row : BridgeRow}
    {edit : BridgeEdit} (hrecorded : call.Recorded row) :
    ¬ call.Edits config input state row edit := by
  cases call with
  | reportApproval =>
      obtain ⟨prior, hprior, -⟩ := hrecorded
      rintro ⟨hnone, -⟩
      cases hprior.symm.trans hnone
  | reportSource =>
      obtain ⟨prior, hprior, -⟩ := hrecorded
      rintro ⟨hnone, -⟩
      cases hprior.symm.trans hnone
  | reportDestination =>
      obtain ⟨prior, hprior, -⟩ := hrecorded
      rintro ⟨hnone, -, -⟩
      cases hprior.symm.trans hnone
  | _ => exact hrecorded.elim

/-- A successful request respects completion exactly when it does not end it. -/
theorem respectsCompletion_iff {request : BridgeRequest}
    (hok : request.Succeeds config id state) :
    request.RespectsCompletion id state ↔
      StaysCompleted id state (request.step config id state) := by
  obtain ⟨row, hrow, ⟨hsame, hrecorded⟩ | ⟨edit, hedit, hnext⟩⟩ := BridgeRequest.step_row hok
  · rw [hsame]
    refine iff_of_true (fun found hfound _ => ?_) fun hcompleted => hcompleted
    obtain rfl := Option.some.inj (hrow.symm.trans hfound)
    exact .inr hrecorded
  · constructor
    · rintro hrespects ⟨found, hfound, hstatus⟩
      obtain rfl := Option.some.inj (hrow.symm.trans hfound)
      refine ⟨_, hnext, ?_⟩
      rw [BridgeEdit.apply_status]
      rcases hrespects row hrow hstatus with ⟨walletAddress, hcall⟩ | hrecorded
      · rw [hcall] at hedit
        exact verify_completed hedit
      · exact absurd hedit (recorded_no_edit hrecorded)
    · intro hkeeps found hfound hstatus
      obtain rfl := Option.some.inj (hrow.symm.trans hfound)
      obtain ⟨last, hlast, hcompleted⟩ := hkeeps ⟨row, hrow, hstatus⟩
      obtain rfl := Option.some.inj (hnext.symm.trans hlast)
      exact .inl (edits_completed hedit hcompleted)

/-! ## Sequences of requests -/

/-- Whatever sequence of successful requests is made, a completed intent stays
completed throughout if and only if every request respects completion. -/
theorem completed_stays_iff {requests : List BridgeRequest}
    (hok : Sequence.Along (BridgeRequest.step config id) (BridgeRequest.Succeeds config id)
      requests state) :
    Sequence.Along (BridgeRequest.step config id) (BridgeRequest.RespectsCompletion id)
        requests state ↔
      ∀ first middle last, requests = first ++ middle ++ last →
        StaysCompleted id (Sequence.run (BridgeRequest.step config id) first state)
          (Sequence.run (BridgeRequest.step config id) (first ++ middle) state) :=
  @Sequence.along_iff_relates BridgeState BridgeRequest (BridgeRequest.step config id)
    (StaysCompleted id) _ _ (fun _ hstart => hstart)
    (fun hfirst hsecond hstart => hsecond (hfirst hstart)) (fun _ _ => respectsCompletion_iff) _ _
    hok

/-! ## A completed intent that waits again -/

def exampleDigits : List Char :=
  hexDigits 8 1 ++ hexDigits 8 26 ++ hexDigits 8 6 ++ hexDigits 64 0x1234 ++
  hexDigits 64 0x28b5a0e9C621a5BadaA536219b3a228C8168cf5d ++
  hexDigits 64 0x28b5a0e9C621a5BadaA536219b3a228C8168cf5d ++ hexDigits 64 0 ++
  hexDigits 8 2000 ++ hexDigits 8 2000 ++
  hexDigits 8 1 ++ hexDigits 64 0x3600000000000000000000000000000000000000 ++
  hexDigits 64 0x2222222222222222222222222222222222222222 ++ hexDigits 64 1000000 ++
  hexDigits 64 0x1111111111111111111111111111111111111111 ++ hexDigits 64 1000 ++
  hexDigits 64 500 ++ hexDigits 64 0

/-- A message that burns one dollar on Arc for a recipient on Base. -/
def exampleMessage : String := String.ofList ('0' :: 'x' :: exampleDigits)

def exampleMessageHash : String :=
  "0x5047bdf0929d46b7390e80f15252b84b50f0ea95b2edffa94be3ca183d80eb4d"

def exampleDecoded : DecodedCctpMessage where
  version := 1
  sourceDomain := 26
  destinationDomain := 6
  nonce := "0x0000000000000000000000000000000000000000000000000000000000001234"
  sender := 0x28b5a0e9C621a5BadaA536219b3a228C8168cf5d
  recipient := 0x28b5a0e9C621a5BadaA536219b3a228C8168cf5d
  destinationCaller := 0
  minFinalityThreshold := 2000
  finalityThresholdExecuted := 2000
  burnVersion := 1
  burnToken := 0x3600000000000000000000000000000000000000
  mintRecipient := 0x2222222222222222222222222222222222222222
  amount := 1000000
  messageSender := 0x1111111111111111111111111111111111111111
  maxFee := 1000
  feeExecuted := 500
  expirationBlock := 0
  messageHash := exampleMessageHash

/-- Arc is the only destination with a node; the hash is that of the message. -/
def exampleConfig : BridgeConfig where
  runtime := .ofTable [] []
  keccak256 := fun _ => exampleMessageHash
  destinationRpc := fun chainId => chainId = 5042

theorem exampleMessage_decodes :
    decodeCctpV2Message exampleConfig.keccak256 exampleMessage = .ok exampleDecoded := by
  have hdigits : exampleDigits.all isHexDigit = true := by decide +kernel
  have hlength : 752 ≤ exampleDigits.length := by decide +kernel
  have hfields : decodeFields exampleConfig.keccak256 exampleMessage exampleDigits =
      exampleDecoded := by
    decide +kernel
  exact (decode_ofList exampleConfig.keccak256 hdigits hlength).trans (congrArg Except.ok hfields)

/-- An intent from Arc to Base, as it is created. -/
def createdRow : BridgeRow where
  id := "bridge-1"
  status := .idle
  payload := {
    sourceChainId := 5042
    destinationChainId := 8453
    sourceDomain := 26
    destinationDomain := 6
    sourceUsdcAddress := 0x3600000000000000000000000000000000000000
    sourceTokenMessengerV2 := 0x28b5a0e9C621a5BadaA536219b3a228C8168cf5d
    destinationTokenMessengerV2 := 0x28b5a0e9C621a5BadaA536219b3a228C8168cf5d
    destinationMessageTransmitterV2 := 0x81D40F21F12A8F0E3252Bccb954D722d4c464B64
    walletAddress := 0x1111111111111111111111111111111111111111
    recipientAddress := 0x2222222222222222222222222222222222222222
    destinationCaller := 0
    amount := "1000000"
    maxFee := "1000"
    minFinalityThreshold := 2000 }
  result := none
  messageHash := none
  nonce := none
  destinationTransactionHash := none
  destinationLeaseId := none
  destinationLeaseExpiresAt := none

def exampleOwner : String := "0x1111111111111111111111111111111111111111"

def exampleSourceHash : String :=
  "0x3333333333333333333333333333333333333333333333333333333333333333"

def exampleMintHash : String :=
  "0x4444444444444444444444444444444444444444444444444444444444444444"

/-- The attestation service knows the message. -/
def attested : IrisResponse where
  status := 200
  body := some (.object [("messages", .array [.object [("status", .string "complete"),
    ("message", .string exampleMessage), ("attestation", .string "0x01")]])])

def notIndexed : IrisResponse := ⟨404, none⟩

def bridgeRequest (irisAnswer : IrisResponse) (call : BridgeCall) : BridgeRequest where
  call
  input := {
    now := 1000
    freshId := "lease-1"
    outage := none
    irisAnswer := some irisAnswer
    destinationAnswer := none }

/-- The burn is reported and its attestation fetched. -/
def attesting : List BridgeRequest := [
  bridgeRequest attested (.reportSource exampleOwner exampleSourceHash),
  bridgeRequest attested (.getAttestation exampleOwner)]

/-- The row once the attestation is stored. -/
def attestedRow : BridgeRow :=
  let burned := (BridgeEdit.reportSource exampleSourceHash).apply {} createdRow
  (BridgeEdit.attest exampleMessage "0x01" exampleDecoded).apply (resultOf burned) burned

theorem startsWith0x_ofList (digits : List Char) :
    startsWith0x (String.ofList ('0' :: 'x' :: digits)) = true := by
  rw [startsWith0x, String.toList_ofList, List.take_succ_cons, List.take_succ_cons, List.take_zero]
  rfl

theorem readResponse_complete {body message : Json} {rest : List Json} {text attestation : String}
    (hbody : body.get? "messages" = some (.array (message :: rest)))
    (htruthy : truthy message = true) (hstatus : textOf message "status" = some "complete")
    (htext : textOf message "message" = some text)
    (hattestation : textOf message "attestation" = some attestation)
    (hprefixes : startsWith0x text = true ∧ startsWith0x attestation = true) :
    readResponse (some ⟨200, some body⟩) = .ok (.complete text attestation) := by
  have hfirst : firstMessage message = .complete text attestation := by
    unfold firstMessage
    simp only [htext, hattestation]
    exact if_pos ⟨hstatus, hprefixes⟩
  unfold readResponse
  cases body with
  | null => cases hbody
  | _ => simp [hbody, htruthy, hfirst, pure, Except.pure]

theorem attested_read : readResponse (some attested) = .ok (.complete exampleMessage "0x01") :=
  readResponse_complete rfl rfl rfl rfl rfl ⟨startsWith0x_ofList _, by decide +kernel⟩

theorem attesting_run :
    Sequence.Along (BridgeRequest.step exampleConfig "bridge-1")
        (BridgeRequest.Succeeds exampleConfig "bridge-1") attesting ⟨[createdRow]⟩ ∧
      Sequence.run (BridgeRequest.step exampleConfig "bridge-1") attesting ⟨[createdRow]⟩ =
        ⟨[attestedRow]⟩ := by
  let report := bridgeRequest attested (.reportSource exampleOwner exampleSourceHash)
  let fetch := bridgeRequest attested (.getAttestation exampleOwner)
  let burned := (BridgeEdit.reportSource exampleSourceHash).apply {} createdRow
  have hreported : BridgeRequest.Succeeds exampleConfig "bridge-1" ⟨[createdRow]⟩ report := by
    decide +kernel
  have hburned : BridgeRequest.step exampleConfig "bridge-1" ⟨[createdRow]⟩ report =
      ⟨[burned]⟩ := by
    decide +kernel
  have hedit : attestationEdit exampleConfig burned.payload (.complete exampleMessage "0x01") =
      .ok (.attest exampleMessage "0x01" exampleDecoded) := by
    have hmatches : ¬ matchesBridgeAttestation burned.payload exampleDecoded none = false := by
      decide +kernel
    exact except_bind_ok.mpr ⟨exampleDecoded, exampleMessage_decodes, if_neg hmatches⟩
  have hfetched : (fetch.call.program exampleConfig "bridge-1").alone bridgeMachine fetch.input
      ⟨[burned]⟩ = (.ok (view attestedRow), ⟨[attestedRow]⟩) := by
    have howns : Owns exampleConfig burned exampleOwner := by decide +kernel
    exact refresh_ok.mpr ⟨burned, rfl, by decide +kernel, howns, rfl, _, attested_read, _, hedit,
      List.pairwise_singleton _ _, rfl, rfl⟩
  constructor
  · refine Sequence.along_cons.mpr ⟨hreported, ?_⟩
    rw [hburned]
    refine Sequence.along_cons.mpr ⟨?_, Sequence.along_nil _ _⟩
    rw [BridgeRequest.Succeeds, hfetched]
    rfl
  · rw [attesting, Sequence.run_cons, hburned, Sequence.run_cons, BridgeRequest.step, hfetched]
    rfl

/-- The mint is reported and the intent completed; no node is asked about Base. -/
def completing : List BridgeRequest := [
  bridgeRequest attested (.reportDestination exampleOwner exampleMintHash exampleMessageHash),
  bridgeRequest attested (.verifyDestination exampleOwner)]

def reattesting : BridgeRequest := bridgeRequest notIndexed (.reattest exampleOwner)

/-- A completed intent is waiting for its attestation when the owner asks for it
once more and Circle does not know it at the moment. -/
theorem completed_intent_waits :
    Sequence.Along (BridgeRequest.step exampleConfig "bridge-1")
        (BridgeRequest.Succeeds exampleConfig "bridge-1")
        (attesting ++ completing ++ [reattesting]) ⟨[createdRow]⟩ ∧
      ¬ ∀ first middle last, attesting ++ completing ++ [reattesting] = first ++ middle ++ last →
        StaysCompleted "bridge-1"
          (Sequence.run (BridgeRequest.step exampleConfig "bridge-1") first ⟨[createdRow]⟩)
          (Sequence.run (BridgeRequest.step exampleConfig "bridge-1") (first ++ middle)
            ⟨[createdRow]⟩) := by
  obtain ⟨hattesting, hattested⟩ := attesting_run
  let step := BridgeRequest.step exampleConfig "bridge-1"
  have hruns : Sequence.Along step (BridgeRequest.Succeeds exampleConfig "bridge-1")
        (completing ++ [reattesting]) ⟨[attestedRow]⟩ ∧
      ((Sequence.run step completing ⟨[attestedRow]⟩).find "bridge-1").map
        (fun row => row.status) = some .completed ∧
      ((Sequence.run step (completing ++ [reattesting]) ⟨[attestedRow]⟩).find "bridge-1").map
        (fun row => row.status) = some .waiting_for_attestation := by
    decide +kernel
  obtain ⟨hrest, hcompleted, hwaiting⟩ := hruns
  refine ⟨?_, fun hstays => ?_⟩
  · rw [List.append_assoc, Sequence.along_append, hattested]
    exact ⟨hattesting, hrest⟩
  · have hends := hstays (attesting ++ completing) [reattesting] []
      (List.append_nil _).symm
    rw [List.append_assoc, Sequence.run_append, Sequence.run_append, hattested] at hends
    obtain ⟨row, hrow, hstatus⟩ := Option.map_eq_some_iff.mp hcompleted
    obtain ⟨last, hlast, hlater⟩ := hends ⟨row, hrow, hstatus⟩
    have hboth := (congrArg (Option.map fun row => row.status) hlast).symm.trans hwaiting
    rw [Option.map_some, hlater] at hboth
    cases hboth

/-- Completing an attested intent respects completion. -/
theorem completed_stays_iff_completing :
    Sequence.Along (BridgeRequest.step exampleConfig "bridge-1")
        (BridgeRequest.RespectsCompletion "bridge-1") completing ⟨[attestedRow]⟩ ∧
      ∀ first middle last, completing = first ++ middle ++ last →
        StaysCompleted "bridge-1"
          (Sequence.run (BridgeRequest.step exampleConfig "bridge-1") first ⟨[attestedRow]⟩)
          (Sequence.run (BridgeRequest.step exampleConfig "bridge-1") (first ++ middle)
            ⟨[attestedRow]⟩) := by
  have hok : Sequence.Along (BridgeRequest.step exampleConfig "bridge-1")
      (BridgeRequest.Succeeds exampleConfig "bridge-1") completing ⟨[attestedRow]⟩ := by
    decide +kernel
  have hrespects : Sequence.Along (BridgeRequest.step exampleConfig "bridge-1")
      (BridgeRequest.RespectsCompletion "bridge-1") completing ⟨[attestedRow]⟩ := by
    refine Sequence.along_cons.mpr ⟨?_, Sequence.along_cons.mpr ⟨?_, Sequence.along_nil _ _⟩⟩
    · intro row hrow hstatus
      cases hrow
      cases hstatus
    · exact fun _ _ _ => .inl ⟨exampleOwner, rfl⟩
  exact ⟨hrespects, (completed_stays_iff hok).mp hrespects⟩

end WizPay.Bridge
