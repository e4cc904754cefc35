import WizPay.Bridge.Completion

/-!
# Recorded transaction hashes

A write carries the whole result that its call read before. It keeps the hashes
recorded meanwhile only if that call had read them, and sets none to another one.
-/

namespace WizPay.Bridge

open Foundation Backend

variable {id : String}

/-- The hashes that are recorded once. -/
inductive HashField where
  | approval | source | destination

def BridgeLifecycleResult.hash (result : BridgeLifecycleResult) : HashField → Option String
  | .approval => result.approvalTransactionHash
  | .source => result.sourceTransactionHash
  | .destination => result.destinationTransactionHash

/-- The hash an edit sets in a field, if it sets one. -/
def BridgeEdit.hash : BridgeEdit → HashField → Option String
  | .reportApproval hash, .approval => some hash
  | .reportSource hash, .source => some hash
  | .reportDestination hash _, .destination => some hash
  | .submitDestination hash _ _, .destination => some hash
  | _, _ => none

theorem BridgeEdit.result_hash (edit : BridgeEdit) (result : BridgeLifecycleResult)
    (field : HashField) : (edit.result result).hash field = (edit.hash field).or (result.hash field) := by
  cases edit <;> cases field <;> rfl

/-! ## One operation -/

/-- The row of the intent has kept every hash between two moments. -/
def HashesKept (id : String) (before after : BridgeState) : Prop :=
  ∀ row, before.find id = some row → ∃ later, after.find id = some later ∧
    ∀ field hash, (resultOf row).hash field = some hash → (resultOf later).hash field = some hash

/-- A hash that is recorded by now is in the result that was read, or the edit sets
it once more. Authorizing the destination does not write the result. -/
def BridgeEdit.RespectsHashes (edit : BridgeEdit) (snapshot : BridgeLifecycleResult)
    (row : BridgeRow) : Prop :=
  match edit with
  | .authorizeDestination _ _ => True
  | edit => ∀ field hash, (resultOf row).hash field = some hash →
      match edit.hash field with
      | some written => written = hash
      | none => snapshot.hash field = some hash

/-- A write to the intent that takes place respects the recorded hashes. -/
def RespectsHashes (id : String) : BridgeOp → BridgeInput → BridgeState → Prop
  | .update other snapshot edit, input, state => other = id → input.outage = none →
      UniqueBridges (state.updated id (edit.apply snapshot)) →
      ∀ row, state.find id = some row → edit.RespectsHashes snapshot row
  | _, _, _ => True

theorem HashesKept.refl (id : String) (state : BridgeState) : HashesKept id state state :=
  fun row hrow => ⟨row, hrow, fun _ _ hhash => hhash⟩

theorem HashesKept.trans {first second third : BridgeState} (hfirst : HashesKept id first second)
    (hsecond : HashesKept id second third) : HashesKept id first third := by
  intro row hrow
  obtain ⟨middle, hmiddle, hkept⟩ := hfirst row hrow
  obtain ⟨later, hlater, hagain⟩ := hsecond middle hmiddle
  exact ⟨later, hlater, fun field hash hhash => hagain field hash (hkept field hash hhash)⟩

/-- A write respects the hashes of a row exactly when it keeps them. -/
theorem respectsHashes_iff {edit : BridgeEdit} {snapshot : BridgeLifecycleResult}
    {row : BridgeRow} : edit.RespectsHashes snapshot row ↔
      ∀ field hash, (resultOf row).hash field = some hash →
        (resultOf (edit.apply snapshot row)).hash field = some hash := by
  have hwritten : (∀ leaseId expiresAt, edit ≠ .authorizeDestination leaseId expiresAt) →
      resultOf (edit.apply snapshot row) = edit.result snapshot := by
    intro hedit
    cases edit with
    | authorizeDestination leaseId expiresAt => exact absurd rfl (hedit leaseId expiresAt)
    | _ => rfl
  have hfields : (∀ leaseId expiresAt, edit ≠ .authorizeDestination leaseId expiresAt) →
      ∀ field hash, (resultOf (edit.apply snapshot row)).hash field = some hash ↔
        match edit.hash field with
        | some written => written = hash
        | none => snapshot.hash field = some hash := by
    intro hedit field hash
    rw [hwritten hedit, BridgeEdit.result_hash]
    cases edit.hash field with
    | none => rw [Option.none_or]
    | some written => rw [Option.some_or, Option.some.injEq]
  cases edit with
  | authorizeDestination leaseId expiresAt =>
      exact iff_of_true trivial fun _ _ hhash => hhash
  | _ =>
      exact forall_congr' fun field => forall_congr' fun hash =>
        imp_congr_right fun _ => (hfields nofun field hash).symm

/-- A write that takes place changes the row with its id. -/
theorem written_iff {edit : BridgeEdit} {snapshot : BridgeLifecycleResult} {state : BridgeState}
    {row : BridgeRow} (hrow : state.find id = some row) :
    HashesKept id state ⟨state.updated id (edit.apply snapshot)⟩ ↔
      ∀ found, state.find id = some found → edit.RespectsHashes snapshot found := by
  have hwritten := BridgeState.find_update (edit.apply_id snapshot) hrow
  constructor
  · intro hkept found hfound
    obtain ⟨later, hlater, hhashes⟩ := hkept found hfound
    obtain rfl := Option.some.inj (hrow.symm.trans hfound)
    obtain rfl := Option.some.inj (hwritten.symm.trans hlater)
    exact respectsHashes_iff.mpr hhashes
  · intro hrespects found hfound
    obtain rfl := Option.some.inj (hrow.symm.trans hfound)
    exact ⟨_, hwritten, respectsHashes_iff.mp (hrespects row hrow)⟩

/-- A write to another row keeps this one. -/
theorem other_kept {edit : BridgeEdit} {snapshot : BridgeLifecycleResult} {state : BridgeState}
    {other : String} (hother : other ≠ id) :
    HashesKept id state ⟨state.updated other (edit.apply snapshot)⟩ := by
  intro row hrow
  have hid : row.id = id := by simpa using List.find?_some hrow
  refine ⟨row, ?_, fun _ _ hhash => hhash⟩
  rw [state.find_updated other id (edit.apply_id snapshot), hrow, Option.map_some, hid,
    if_neg (Ne.symm hother)]

theorem respectsHashes_op_iff (op : BridgeOp) (input : BridgeInput) (state : BridgeState) :
    RespectsHashes id op input state ↔
      HashesKept id state (bridgeMachine.answer op input state).2 := by
  cases op with
  | update other snapshot edit =>
      rw [answer_update]
      simp only [RespectsHashes]
      by_cases hsame : other = id
      · obtain rfl := hsame
        by_cases htakes : input.outage = none ∧ (state.find other).isSome = true ∧
            UniqueBridges (state.updated other (edit.apply snapshot))
        · rw [if_pos htakes]
          obtain ⟨houtage, hfound, hunique⟩ := htakes
          obtain ⟨row, hrow⟩ := Option.isSome_iff_exists.mp hfound
          rw [written_iff hrow]
          exact ⟨fun hall => hall rfl houtage hunique, fun hall _ _ _ => hall⟩
        · rw [if_neg htakes]
          refine iff_of_true (fun _ houtage hunique row hrow => ?_) (HashesKept.refl other state)
          exact absurd ⟨houtage, by rw [hrow]; rfl, hunique⟩ htakes
      · refine iff_of_true (fun heq => absurd heq hsame) ?_
        split
        · exact other_kept hsame
        · exact HashesKept.refl id state
  | _ => exact iff_of_true trivial (HashesKept.refl id state)

/-! ## Concurrent calls -/

/-- Concurrent calls on one intent. -/
def bridgePool (config : BridgeConfig) (id : String) (calls : List BridgeCall)
    (state : BridgeState) : Pool bridgeSignature BridgeState (Except ServiceError BridgeIntentView) where
  state
  threads := calls.map fun call => (call.program config id).run

/-- The approval and the burn are reported at the same time. -/
def racingReports : List BridgeCall := [
  .reportApproval exampleOwner exampleSourceHash,
  .reportSource exampleOwner exampleMintHash]

def racingSteps : List (ℕ × BridgeInput) :=
  [0, 1, 0, 1].map fun thread => (thread, (bridgeRequest notIndexed (.reattest exampleOwner)).input)

end WizPay.Bridge
