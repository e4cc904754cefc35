import WizPay.Backend.NumberText
import WizPay.Bridge.Verified

/-!
# What an attested bridge delivers

A complete attestation stores the executed fee, and as what was minted the amount
of the burn. The two account for the amount of the intent as long as no attested
message carries a fee.
-/

namespace WizPay.Bridge

open Foundation Backend

variable {config : BridgeConfig} {id : String} {row next : BridgeRow}

/-! ## Rows -/

/-- What was minted and the fee add up to the amount, and an activity shows the
amount without the fee. -/
structure Accounted (row : BridgeRow) : Prop where
  stored : ∀ mint fee, (resultOf row).mintAmount = some mint →
    (resultOf row).feeExecuted = some fee → mint + fee = bigInt row.payload.amount
  projected : ∀ wallet activity, projectBridge wallet row = some activity →
    bigInt activity.outputAmount + (resultOf row).feeExecuted.getD 0 = bigInt row.payload.amount

/-- Nothing is attested yet, or the whole amount without a fee. -/
def WithoutFee (row : BridgeRow) : Prop :=
  (resultOf row).mintAmount = none ∧ (resultOf row).feeExecuted = none ∨
    (resultOf row).mintAmount = some (bigInt row.payload.amount) ∧
      (resultOf row).feeExecuted = some 0

theorem projectBridge_output {wallet : Evm.Address} {activity : BridgeActivity}
    (hactivity : projectBridge wallet row = some activity) :
    activity.outputAmount = ((resultOf row).mintAmount.map toString).getD row.payload.amount := by
  unfold projectBridge at hactivity
  dsimp only at hactivity
  split at hactivity
  · cases hactivity
  · split at hactivity
    · cases hactivity
      rfl
    · cases hactivity

theorem WithoutFee.accounted (hrow : WithoutFee row) : Accounted row where
  stored := by
    intro mint fee hmint hfee
    rcases hrow with ⟨hnone, -⟩ | ⟨hamount, hzero⟩
    · cases hnone.symm.trans hmint
    · obtain rfl := Option.some.inj (hamount.symm.trans hmint)
      obtain rfl := Option.some.inj (hzero.symm.trans hfee)
      exact Nat.add_zero _
  projected := by
    intro wallet activity hactivity
    rw [projectBridge_output hactivity]
    rcases hrow with ⟨hmint, hfee⟩ | ⟨hmint, hfee⟩
    -- without a stored amount the projection falls back on that of the payload
    · rw [hmint, hfee]
      simp
    · rw [hmint, hfee, Option.map_some, Option.getD_some, Option.getD_some, bigInt_toString,
        Nat.add_zero]

/-- An edit that touches neither the mint nor the fee keeps what is said of them. -/
theorem WithoutFee.congr (hrow : WithoutFee row)
    (hmint : (resultOf next).mintAmount = (resultOf row).mintAmount)
    (hfee : (resultOf next).feeExecuted = (resultOf row).feeExecuted)
    (hpayload : next.payload = row.payload) : WithoutFee next := by
  rw [WithoutFee, hmint, hfee, hpayload]
  exact hrow

/-! ## One edit -/

/-- Every edit but an attestation leaves the mint and the fee alone. -/
theorem edit_amounts {edit : BridgeEdit}
    (hedit : ∀ message attestation decoded, edit ≠ .attest message attestation decoded)
    (result : BridgeLifecycleResult) :
    (edit.result result).mintAmount = result.mintAmount ∧
      (edit.result result).feeExecuted = result.feeExecuted := by
  cases edit with
  | attest message attestation decoded => exact absurd rfl (hedit message attestation decoded)
  | _ => exact ⟨rfl, rfl⟩

theorem matches_amount {payload : BridgeIntentPayload} {decoded : DecodedCctpMessage}
    {nonce : Option String} (hmatches : matchesBridgeAttestation payload decoded nonce = true) :
    decoded.amount = bigInt payload.amount := by
  unfold matchesBridgeAttestation at hmatches
  simp only [Bool.and_eq_true, decide_eq_true_eq] at hmatches
  exact hmatches.1.1.1.2

/-- An accepted attestation accounts for the amount exactly if it carries no fee. -/
theorem attest_accounted {message attestation : String} {decoded : DecodedCctpMessage}
    {nonce : Option String}
    (hmatches : matchesBridgeAttestation row.payload decoded nonce = true) :
    let next := (BridgeEdit.attest message attestation decoded).apply (resultOf row) row
    (decoded.feeExecuted = 0 → WithoutFee next) ∧ (Accounted next → decoded.feeExecuted = 0) := by
  intro next
  have hresult : resultOf next =
      (BridgeEdit.attest message attestation decoded).result (resultOf row) := resultOf_apply _ _
  have hamount := matches_amount hmatches
  constructor
  · intro hfee
    refine .inr ⟨?_, ?_⟩
    · rw [hresult, BridgeEdit.apply_payload, ← hamount]
      rfl
    · rw [hresult, ← hfee]
      rfl
  · intro haccounted
    have hsum := haccounted.stored decoded.amount decoded.feeExecuted (by rw [hresult]; rfl)
      (by rw [hresult]; rfl)
    rw [BridgeEdit.apply_payload, ← hamount] at hsum
    exact Nat.add_eq_left.mp hsum

/-! ## One request -/

/-- A complete attestation that the call fetches carries no executed fee. -/
def BridgeCall.FreeOfFee (config : BridgeConfig) (input : BridgeInput) : BridgeCall → Prop
  | getAttestation _ | reattest _ => ∀ message attestation decoded,
      readResponse input.irisAnswer = .ok (.complete message attestation) →
        decodeCctpV2Message config.keccak256 message = .ok decoded → decoded.feeExecuted = 0
  | _ => True

/-- A request that is accepted brings no attestation with a fee. -/
def BridgeRequest.FreeOfFee (config : BridgeConfig) (id : String) (state : BridgeState)
    (request : BridgeRequest) : Prop :=
  request.Succeeds config id state → request.call.FreeOfFee config request.input

def BridgeState.Accounted (state : BridgeState) (id : String) : Prop :=
  ∀ row, state.find id = some row → Bridge.Accounted row

def BridgeState.WithoutFee (state : BridgeState) (id : String) : Prop :=
  ∀ row, state.find id = some row → Bridge.WithoutFee row

variable {state : BridgeState}

/-- A fetched attestation, whichever call asked for it. -/
theorem attestationEdit_accounted {input : BridgeInput} {edit : BridgeEdit}
    {fetched : FetchedAttestation} (hrow : WithoutFee row)
    (hread : readResponse input.irisAnswer = .ok fetched)
    (hedit : attestationEdit config row.payload fetched = .ok edit) :
    let free := ∀ message attestation decoded,
      readResponse input.irisAnswer = .ok (.complete message attestation) →
        decodeCctpV2Message config.keccak256 message = .ok decoded → decoded.feeExecuted = 0
    (free → WithoutFee (edit.apply (resultOf row) row)) ∧
      (Accounted (edit.apply (resultOf row) row) → free) := by
  intro free
  rcases attestationEdit_ok hedit with
    ⟨status, delayReason, rfl, hwaits⟩ | ⟨message, attestation, decoded, rfl, hdecode, hmatches, rfl⟩
  · -- The attestation is waited for: no complete one was fetched.
    refine ⟨fun _ => hrow.congr ?_ ?_ (BridgeEdit.apply_payload _ _ _), ?_⟩
    · rw [resultOf_apply]
      rfl
    · rw [resultOf_apply]
      rfl
    · intro _ message attestation decoded hcomplete
      exact absurd (Except.ok.inj (hread.symm.trans hcomplete)) (hwaits message attestation)
  · obtain ⟨hfree, haccounted⟩ := @attest_accounted row message attestation decoded none hmatches
    refine ⟨fun hall => hfree (hall message attestation decoded hread hdecode), ?_⟩
    intro hnext otherMessage otherAttestation other hcomplete hother
    cases Except.ok.inj (hread.symm.trans hcomplete)
    obtain rfl := Except.ok.inj (hdecode.symm.trans hother)
    exact haccounted hnext

theorem edit_accounted {request : BridgeRequest} (hrow : WithoutFee row) {edit : BridgeEdit}
    (hedit : request.call.Edits config request.input state row edit) :
    (request.call.FreeOfFee config request.input →
        WithoutFee (edit.apply (resultOf row) row)) ∧
      (Accounted (edit.apply (resultOf row) row) →
        request.call.FreeOfFee config request.input) := by
  obtain ⟨call, input⟩ := request
  have hkeeps : (∀ message attestation decoded, edit ≠ .attest message attestation decoded) →
      WithoutFee (edit.apply (resultOf row) row) := by
    intro hother
    obtain ⟨hmint, hfee⟩ := edit_amounts hother (resultOf row)
    refine hrow.congr ?_ ?_ (BridgeEdit.apply_payload _ _ _)
    · rw [resultOf_apply, hmint]
    · rw [resultOf_apply, hfee]
  cases call with
  | reportApproval =>
      obtain ⟨-, rfl⟩ := hedit
      exact ⟨fun _ => hkeeps nofun, fun _ => trivial⟩
  | reportSource =>
      obtain ⟨-, rfl⟩ := hedit
      exact ⟨fun _ => hkeeps nofun, fun _ => trivial⟩
  | getAttestation =>
      obtain ⟨fetched, hread, hattest⟩ := hedit
      exact attestationEdit_accounted hrow hread hattest
  | reattest =>
      obtain ⟨fetched, hread, hattest⟩ := hedit
      exact attestationEdit_accounted hrow hread hattest
  | reportDestination =>
      obtain ⟨-, -, rfl⟩ := hedit
      exact ⟨fun _ => hkeeps nofun, fun _ => trivial⟩
  | authorizeDestination =>
      obtain ⟨-, rfl⟩ := hedit
      exact ⟨fun _ => hkeeps nofun, fun _ => trivial⟩
  | submitDestination =>
      obtain rfl := hedit
      exact ⟨fun _ => hkeeps nofun, fun _ => trivial⟩
  | verifyDestination =>
      obtain ⟨verified, -, rfl⟩ := hedit
      exact ⟨fun _ => hkeeps nofun, fun _ => trivial⟩

/-- A report of what is recorded already fetches nothing. -/
theorem recorded_freeOfFee {call : BridgeCall} (input : BridgeInput)
    (hrecorded : call.Recorded row) : call.FreeOfFee config input := by
  cases call with
  | getAttestation => exact hrecorded.elim
  | reattest => exact hrecorded.elim
  | _ => trivial

theorem step_accounted {request : BridgeRequest} (hstate : state.WithoutFee id) :
    (request.FreeOfFee config id state → (request.step config id state).WithoutFee id) ∧
      ((request.step config id state).Accounted id → request.FreeOfFee config id state) := by
  by_cases hok : request.Succeeds config id state
  · obtain ⟨row, hrow, ⟨hsame, hrecorded⟩ | ⟨edit, hedit, hnext⟩⟩ := BridgeRequest.step_row hok
    · rw [hsame]
      exact ⟨fun _ => hstate, fun _ _ => recorded_freeOfFee request.input hrecorded⟩
    · obtain ⟨hkeeps, hfree⟩ := edit_accounted (hstate row hrow) hedit
      constructor
      · intro hrequest found hfound
        obtain rfl := Option.some.inj (hnext.symm.trans hfound)
        exact hkeeps (hrequest hok)
      · exact fun haccounted _ => hfree (haccounted _ hnext)
  · rw [BridgeRequest.step_of_fails hok]
    exact ⟨fun _ => hstate, fun _ hsucceeds => absurd hsucceeds hok⟩

/-! ## Sequences of requests -/

/-- Whatever requests follow the creation of an intent, its mint and its fee always
account for the amount if and only if no accepted attestation carries a fee. -/
theorem bridge_accounted_iff {requests : List BridgeRequest}
    (hcreated : ∀ row, state.find id = some row → row.result = none) :
    Sequence.Along (BridgeRequest.step config id) (BridgeRequest.FreeOfFee config id)
        requests state ↔
      ∀ first rest, requests = first ++ rest →
        (Sequence.run (BridgeRequest.step config id) first state).Accounted id := by
  have hstart : state.WithoutFee id := by
    intro row hrow
    have hresult : resultOf row = {} := by rw [resultOf, hcreated row hrow, Option.getD_none]
    exact .inl ⟨by rw [hresult], by rw [hresult]⟩
  have hvalid : Sequence.Along (BridgeRequest.step config id) (fun _ _ => True) requests state :=
    @Sequence.along_of_forall BridgeState BridgeRequest _ (fun _ => True) _
      (fun _ _ => trivial) state
  refine @Sequence.along_iff_fact BridgeState BridgeRequest (BridgeRequest.step config id)
    (fun state => state.WithoutFee id) _ _ _ (fun state hstate row hrow =>
      (hstate row hrow).accounted) (fun state request hstate _ => ?_)
    (fun state request hstate _ => ?_) _ _ hvalid hstart
  · obtain ⟨hkeeps, hfree⟩ := @step_accounted config id state request hstate
    exact ⟨fun hrequest row hrow => (hkeeps hrequest row hrow).accounted, hfree⟩
  · exact (step_accounted hstate).1

theorem createdRow_created (row : BridgeRow)
    (hrow : (BridgeState.mk [createdRow]).find "bridge-1" = some row) : row.result = none := by
  cases hrow
  rfl

theorem bridge_accounted_iff_attesting :
    Sequence.Along (BridgeRequest.step exampleConfig "bridge-1")
        (BridgeRequest.FreeOfFee exampleConfig "bridge-1") attesting ⟨[createdRow]⟩ ↔
      ∀ first rest, attesting = first ++ rest →
        (Sequence.run (BridgeRequest.step exampleConfig "bridge-1") first
          ⟨[createdRow]⟩).Accounted "bridge-1" :=
  bridge_accounted_iff createdRow_created

/-- A million units were burned and 500 of them kept as a fee. What is stored as
minted is the million. -/
theorem attested_fee_unaccounted :
    Sequence.Along (BridgeRequest.step exampleConfig "bridge-1")
        (BridgeRequest.Succeeds exampleConfig "bridge-1") attesting ⟨[createdRow]⟩ ∧
      ¬ ∀ first rest, attesting = first ++ rest →
        (Sequence.run (BridgeRequest.step exampleConfig "bridge-1") first
          ⟨[createdRow]⟩).Accounted "bridge-1" := by
  obtain ⟨hattesting, hattested⟩ := attesting_run
  refine ⟨hattesting, fun haccounted => ?_⟩
  have hend := haccounted attesting [] (List.append_nil _).symm
  rw [hattested] at hend
  have hsum := (hend attestedRow rfl).stored 1000000 500 rfl rfl
  have hamount : bigInt attestedRow.payload.amount = 1000000 := by decide +kernel
  rw [hamount] at hsum
  exact absurd hsum (by decide)

end WizPay.Bridge
