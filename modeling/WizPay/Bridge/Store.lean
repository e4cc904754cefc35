import Mathlib.Data.List.Pairwise
import WizPay.Backend.Json
import WizPay.Bridge.Message

/-!
# Stored bridge intents

One row a bridge intent, with its result in a JSON column. A call reads the row,
edits the result it read and writes the whole of it back; the write looks at
nothing but the id. A write that is answered with an error did not take place.
-/

namespace WizPay.Bridge

open Foundation Backend

inductive BridgeLifecycleStatus where
  | idle | approving_source | approval_confirmed | source_approved | burning_source
  | source_confirmed | source_burn_confirmed | waiting_for_attestation | attestation_ready
  | switching_destination_chain | awaiting_destination_signature | minting_destination
  | verifying_destination | source_rejected | source_failed_before_burn | attestation_delayed
  | destination_signature_rejected | destination_transaction_failed
  | destination_verification_failed | configuration_error | completed
deriving DecidableEq, Repr

/-- What the calls record. A recorded hash is a text that `txHash` accepted, so
never an empty one. -/
structure BridgeLifecycleResult where
  approvalTransactionHash : Option String := none
  sourceTransactionHash : Option String := none
  destinationTransactionHash : Option String := none
  messageHash : Option String := none
  nonce : Option String := none
  feeExecuted : Option ℕ := none
  mintAmount : Option ℕ := none
  attestedMessage : Option String := none
  attestation : Option String := none
  completedAt : Option ℕ := none
  destinationSubmittedAt : Option ℕ := none
  destinationReceiptVerified : Bool := false
  destinationVerifiedAt : Option ℕ := none
  attestationStatus : Option String := none
  attestationDelayReason : Option String := none
deriving DecidableEq

structure BridgeRow where
  id : String
  status : BridgeLifecycleStatus
  payload : BridgeIntentPayload
  result : Option BridgeLifecycleResult
  messageHash : Option String
  nonce : Option String
  destinationTransactionHash : Option String
  destinationLeaseId : Option String
  destinationLeaseExpiresAt : Option ℕ
deriving DecidableEq

def resultOf (row : BridgeRow) : BridgeLifecycleResult := row.result.getD {}

/-! ## Writes -/

/-- What a call changes in the result it read, and writes with it. -/
inductive BridgeEdit where
  | reportApproval (hash : String)
  | reportSource (hash : String)
  | reportDestination (hash messageHash : String)
  | authorizeDestination (leaseId : String) (expiresAt : ℕ)
  | submitDestination (hash messageHash : String) (now : ℕ)
  | verifyDestination (verified : Bool) (now : ℕ)
  | awaitAttestation (status : String) (delayReason : Option String)
  | attest (message attestation : String) (decoded : DecodedCctpMessage)

namespace BridgeEdit

/-- The edited result. -/
def result : BridgeEdit → BridgeLifecycleResult → BridgeLifecycleResult
  | reportApproval hash, result => { result with approvalTransactionHash := some hash }
  | reportSource hash, result => { result with sourceTransactionHash := some hash }
  | reportDestination hash messageHash, result =>
      { result with destinationTransactionHash := some hash, messageHash := some messageHash }
  | authorizeDestination _ _, result => result
  | submitDestination hash messageHash now, result =>
      { result with
        destinationTransactionHash := some hash, messageHash := some messageHash
        destinationSubmittedAt := some now }
  | verifyDestination verified now, result =>
      { result with
        completedAt := some now
        destinationReceiptVerified := verified || result.destinationReceiptVerified
        destinationVerifiedAt := if verified then some now else result.destinationVerifiedAt }
  | awaitAttestation status delayReason, result =>
      { result with attestationStatus := some status, attestationDelayReason := delayReason }
  | attest message attestation decoded, result =>
      { result with
        attestedMessage := some message, attestation := some attestation
        messageHash := some decoded.messageHash, nonce := some decoded.nonce
        feeExecuted := some decoded.feeExecuted, mintAmount := some decoded.amount
        attestationStatus := some "complete", attestationDelayReason := none }

/-- The status a write leaves, whatever it was. -/
def status : BridgeEdit → BridgeLifecycleStatus
  | reportApproval _ => .approval_confirmed
  | reportSource _ => .source_confirmed
  | reportDestination _ _ => .verifying_destination
  | authorizeDestination _ _ => .awaiting_destination_signature
  | submitDestination _ _ _ => .verifying_destination
  | verifyDestination _ _ => .completed
  | awaitAttestation _ _ => .waiting_for_attestation
  | attest _ _ _ => .attestation_ready

/-- The columns next to the result. -/
def columns : BridgeEdit → BridgeRow → BridgeRow
  | reportDestination hash messageHash, row =>
      { row with messageHash := some messageHash, destinationTransactionHash := some hash }
  | authorizeDestination leaseId expiresAt, row =>
      { row with destinationLeaseId := some leaseId, destinationLeaseExpiresAt := some expiresAt }
  | submitDestination hash messageHash _, row =>
      { row with
        messageHash := some messageHash, destinationTransactionHash := some hash
        destinationLeaseId := none, destinationLeaseExpiresAt := none }
  | attest _ _ decoded, row =>
      { row with messageHash := some decoded.messageHash, nonce := some decoded.nonce }
  | _, row => row

/-- The result column after a write: authorizing leaves it out of its data. -/
def written (edit : BridgeEdit) (snapshot : BridgeLifecycleResult)
    (stored : Option BridgeLifecycleResult) : Option BridgeLifecycleResult :=
  match edit with
  | authorizeDestination _ _ => stored
  | edit => some (edit.result snapshot)

/-- The whole write, from the result that was read before. -/
def apply (edit : BridgeEdit) (snapshot : BridgeLifecycleResult) (row : BridgeRow) : BridgeRow :=
  { edit.columns row with
    status := edit.status, result := edit.written snapshot row.result }

theorem columns_row (edit : BridgeEdit) (row : BridgeRow) :
    (edit.columns row).id = row.id ∧ (edit.columns row).payload = row.payload := by
  cases edit <;> exact ⟨rfl, rfl⟩

@[simp] theorem apply_id (edit : BridgeEdit) (snapshot : BridgeLifecycleResult) (row : BridgeRow) :
    (edit.apply snapshot row).id = row.id := (edit.columns_row row).1

@[simp] theorem apply_payload (edit : BridgeEdit) (snapshot : BridgeLifecycleResult)
    (row : BridgeRow) : (edit.apply snapshot row).payload = row.payload := (edit.columns_row row).2

@[simp] theorem apply_status (edit : BridgeEdit) (snapshot : BridgeLifecycleResult)
    (row : BridgeRow) : (edit.apply snapshot row).status = edit.status := rfl

@[simp] theorem apply_result (edit : BridgeEdit) (snapshot : BridgeLifecycleResult)
    (row : BridgeRow) : (edit.apply snapshot row).result = edit.written snapshot row.result := rfl

end BridgeEdit

/-! ## Tables -/

structure BridgeState where
  rows : List BridgeRow
deriving DecidableEq

/-- Two rows agree on a unique column. -/
def BridgeRow.clashes (first second : BridgeRow) : Bool :=
  first.id = second.id || (first.messageHash.isSome && first.messageHash = second.messageHash) ||
    (first.nonce.isSome && first.nonce = second.nonce) ||
    (first.destinationTransactionHash.isSome &&
      first.destinationTransactionHash = second.destinationTransactionHash) ||
    (first.destinationLeaseId.isSome && first.destinationLeaseId = second.destinationLeaseId)

def UniqueBridges (rows : List BridgeRow) : Prop :=
  rows.Pairwise fun first second => first.clashes second = false

instance (rows : List BridgeRow) : Decidable (UniqueBridges rows) :=
  inferInstanceAs (Decidable (rows.Pairwise _))

namespace BridgeState

def find (state : BridgeState) (id : String) : Option BridgeRow :=
  state.rows.find? fun row => row.id = id

/-- The rows after an update of the one with an id. -/
def updated (state : BridgeState) (id : String) (change : BridgeRow → BridgeRow) :
    List BridgeRow :=
  state.rows.map fun row => if row.id = id then change row else row

def update (state : BridgeState) (id : String) (change : BridgeRow → BridgeRow) :
    Except DbError BridgeRow × BridgeState :=
  match state.find id with
  | none => (.error (.other "P2025"), state)
  | some row =>
      if UniqueBridges (state.updated id change) then (.ok (change row), ⟨state.updated id change⟩)
      else (.error .p2002, state)

theorem find_updated (state : BridgeState) (id other : String) {change : BridgeRow → BridgeRow}
    (hid : ∀ row, (change row).id = row.id) :
    (BridgeState.mk (state.updated id change)).find other =
      (state.find other).map fun row => if row.id = id then change row else row := by
  have hkey : ((fun row : BridgeRow => decide (row.id = other)) ∘
      fun row => if row.id = id then change row else row) = fun row => decide (row.id = other) := by
    funext row
    simp only [Function.comp_apply]
    split
    · rw [hid]
    · rfl
  rw [find, updated, List.find?_map, hkey, find]

/-- The row of an id after that row was updated. -/
theorem find_update {state : BridgeState} {id : String} {change : BridgeRow → BridgeRow}
    (hid : ∀ row, (change row).id = row.id) {row : BridgeRow} (hrow : state.find id = some row) :
    (BridgeState.mk (state.updated id change)).find id = some (change row) := by
  have hsame : row.id = id := by simpa using List.find?_some hrow
  rw [state.find_updated id id hid, hrow, Option.map_some, if_pos hsame]

theorem find_some {state : BridgeState} {id : String} {row : BridgeRow}
    (hrow : state.find id = some row) : row ∈ state.rows ∧ row.id = id :=
  ⟨List.mem_of_find?_eq_some hrow, by simpa using List.find?_some hrow⟩

theorem clashes_symm {first second : BridgeRow} (hclash : first.clashes second = false) :
    second.clashes first = false := by
  grind [BridgeRow.clashes]

/-- An id belongs to one row. -/
theorem find_eq_of_id {state : BridgeState} (hunique : UniqueBridges state.rows) {id : String}
    {row other : BridgeRow} (hrow : state.find id = some row) (hother : other ∈ state.rows)
    (hid : other.id = id) : other = row := by
  by_contra hne
  obtain ⟨hmember, hrowid⟩ := find_some hrow
  have : Std.Symm fun first second : BridgeRow => first.clashes second = false :=
    ⟨fun _ _ => clashes_symm⟩
  have hclash := List.Pairwise.forall hunique hother hmember hne
  simp [BridgeRow.clashes, hid, hrowid] at hclash

theorem clash_other {state : BridgeState} (hunique : UniqueBridges state.rows) {id : String}
    {row other : BridgeRow} (hrow : state.find id = some row) (hother : other ∈ state.rows)
    (hne : other.id ≠ id) : row.clashes other = false := by
  obtain ⟨hmember, hrowid⟩ := find_some hrow
  have : Std.Symm fun first second : BridgeRow => first.clashes second = false :=
    ⟨fun _ _ => clashes_symm⟩
  exact List.Pairwise.forall hunique hmember hother fun heq => hne (heq ▸ hrowid)

/-- The other rows are those before an update. -/
theorem mem_updated_other {state : BridgeState} {id : String} {change : BridgeRow → BridgeRow}
    (hid : ∀ row, (change row).id = row.id) {other : BridgeRow} (hne : other.id ≠ id) :
    other ∈ state.updated id change ↔ other ∈ state.rows := by
  unfold updated
  rw [List.mem_map]
  constructor
  · rintro ⟨found, hfound, rfl⟩
    by_cases hsame : found.id = id
    · rw [if_pos hsame, hid] at hne
      exact absurd hsame hne
    · rwa [if_neg hsame]
  · exact fun hmember => ⟨other, hmember, if_neg hne⟩

/-- An update keeps the columns unique exactly when the changed row clashes with no other. -/
theorem unique_updated_iff {state : BridgeState} (hunique : UniqueBridges state.rows) {id : String}
    {row : BridgeRow} (hrow : state.find id = some row) {change : BridgeRow → BridgeRow} :
    UniqueBridges (state.updated id change) ↔
      ∀ other ∈ state.rows, other.id ≠ id → (change row).clashes other = false := by
  obtain ⟨hmember, hrowid⟩ := find_some hrow
  unfold UniqueBridges updated
  rw [List.pairwise_map]
  constructor
  · intro hupdated other hother hne
    have hdiffer : row ≠ other := fun heq => hne (heq ▸ hrowid)
    have : Std.Symm fun first second : BridgeRow =>
        (if first.id = id then change first else first).clashes
          (if second.id = id then change second else second) = false :=
      ⟨fun _ _ => clashes_symm⟩
    have hclash := List.Pairwise.forall hupdated hmember hother hdiffer
    rwa [if_pos hrowid, if_neg hne] at hclash
  · intro hothers
    refine List.Pairwise.imp_of_mem ?_ hunique
    intro first second hfirst hsecond hclash
    have hids : first.id ≠ second.id := by
      intro heq
      simp [BridgeRow.clashes, heq] at hclash
    by_cases hone : first.id = id
    · have htwo : second.id ≠ id := fun heq => hids (hone.trans heq.symm)
      rw [if_pos hone, if_neg htwo, find_eq_of_id hunique hrow hfirst hone]
      exact hothers second hsecond htwo
    · by_cases htwo : second.id = id
      · rw [if_neg hone, if_pos htwo, find_eq_of_id hunique hrow hsecond htwo]
        exact clashes_symm (hothers first hfirst hone)
      · rwa [if_neg hone, if_neg htwo]

end BridgeState

/-! ## Operations -/

/-- What the attestation service responds: a status code and a body, if it is JSON. -/
structure IrisResponse where
  status : ℕ
  body : Option Json

inductive BridgeOp where
  | now
  | randomUUID
  | findUnique (id : String)
  | update (id : String) (snapshot : BridgeLifecycleResult) (edit : BridgeEdit)
  | fetchMessages (sourceDomain : ℕ) (transactionHash : String)
  | readDestination (chainId : ℕ) (transactionHash : String)

def BridgeOp.Res : BridgeOp → Type
  | .now => ℕ
  | .randomUUID => String
  | .findUnique _ => Except DbError (Option BridgeRow)
  | .update _ _ _ => Except DbError BridgeRow
  | .fetchMessages _ _ => Option IrisResponse
  | .readDestination _ _ => Option DestinationEvidence

def bridgeSignature : Signature := ⟨BridgeOp, BridgeOp.Res⟩

/-- One input of the environment: the clock, a fresh identifier, an outage of the
database, and what Circle and the destination node answer, if they do. -/
structure BridgeInput where
  now : ℕ
  freshId : String
  outage : Option DbError
  irisAnswer : Option IrisResponse
  destinationAnswer : Option DestinationEvidence

def bridgeMachine : Machine bridgeSignature BridgeInput BridgeState where
  answer
    | .now, input, state => (input.now, state)
    | .randomUUID, input, state => (input.freshId, state)
    | .findUnique id, input, state =>
        (match input.outage with
          | none => .ok (state.find id)
          | some error => .error error, state)
    | .update id snapshot edit, input, state =>
        match input.outage with
        | none => state.update id (edit.apply snapshot)
        | some error => (.error error, state)
    | .fetchMessages _ _, input, state => (input.irisAnswer, state)
    | .readDestination _ _, input, state => (input.destinationAnswer, state)

/-- What an update makes of the rows, unless it is answered with an error. -/
theorem answer_update (id : String) (snapshot : BridgeLifecycleResult) (edit : BridgeEdit)
    (input : BridgeInput) (state : BridgeState) :
    (bridgeMachine.answer (.update id snapshot edit) input state).2 =
      if input.outage = none ∧ (state.find id).isSome = true ∧
          UniqueBridges (state.updated id (edit.apply snapshot)) then
        ⟨state.updated id (edit.apply snapshot)⟩
      else state := by
  simp only [bridgeMachine]
  cases input.outage with
  | some error => rw [if_neg fun hnone => nomatch hnone.1]
  | none =>
      unfold BridgeState.update
      cases state.find id with
      | none => rw [if_neg fun hnone => nomatch hnone.2.1]
      | some row =>
          dsimp only
          split
          · next hunique => rw [if_pos ⟨rfl, rfl, hunique⟩]
          · next hclash => rw [if_neg fun hunique => hclash hunique.2.2]

end WizPay.Bridge
