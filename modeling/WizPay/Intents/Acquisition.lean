import WizPay.Backend.Conditions
import WizPay.Backend.JsonText
import WizPay.Intents.Completion
import WizPay.Intents.Terminal

/-!
# Acquiring an intent

`acquire` gets the intent of a logical operation or creates it. Its logical key picks
the one row, and the fingerprint stored with the row tells whether the request is the
one the row was created for.
-/

namespace WizPay.Intents

open Foundation Backend ExecutionIntentStatus

/-! ## Canonical requests -/

/-- The immutable request of a canonical one. -/
def CanonicalAcquireInput.immutable (canonical : CanonicalAcquireInput) : Immutable where
  network := canonical.network
  operation := canonical.operation
  ownerId := canonical.ownerId
  sourceWallet := canonical.sourceWallet
  recipient := canonical.recipient
  batchDigest := canonical.batchDigest
  tokenIn := canonical.tokenIn
  tokenOut := canonical.tokenOut
  amountUnits := canonical.amountUnits
  externalReference := canonical.externalReference

/-- The fields of an immutable request in the order of their keys. -/
def Immutable.fields (request : Immutable) : List (String × Option String) :=
  [("amountUnits", some request.amountUnits), ("batchDigest", request.batchDigest),
    ("externalReference", some request.externalReference), ("network", some request.network),
    ("operation", some request.operation.name), ("ownerId", request.ownerId),
    ("recipient", request.recipient), ("sourceWallet", some request.sourceWallet),
    ("tokenIn", some request.tokenIn), ("tokenOut", some request.tokenOut)]

theorem Immutable.sortKeys_json (request : Immutable) :
    request.json.sortKeys = Json.ofFields request.fields := by
  have hstring : ∀ text, Json.ofOption (some text) = Json.string text := fun _ => rfl
  simp +decide [json, fields, Json.ofFields, Json.sortKeys, Json.sortFields, hstring,
    Json.sortKeys_ofOption, List.insertionSort, List.orderedInsert]

theorem operation_name_inj {first second : ExecutionIntentOperation}
    (hname : first.name = second.name) : first = second := by
  revert hname
  cases first <;> cases second <;> decide

/-- The text a fingerprint is computed over determines the request. -/
theorem Immutable.stableJson_inj {first second : Immutable}
    (hsame : first.json.stableJson = second.json.stableJson) : first = second := by
  rw [Json.stableJson, Json.stableJson, sortKeys_json, sortKeys_json] at hsame
  have hkeys : first.fields.map Prod.fst = second.fields.map Prod.fst := by
    simp only [fields, List.map_cons, List.map_nil]
  have hfields := Json.stringify_ofFields_inj hkeys hsame
  cases first
  cases second
  simp only [fields, List.cons.injEq, Prod.mk.injEq, Option.some.injEq, true_and, and_true]
    at hfields
  obtain ⟨rfl, rfl, rfl, rfl, hoperation, rfl, rfl, rfl, rfl, rfl⟩ := hfields
  rw [operation_name_inj hoperation]

variable {runtime : Runtime} {routing : PaymentRouting}

theorem canonicalize_ok {input : ExecutionIntentAcquireInput} {canonical : CanonicalAcquireInput}
    (hcanonical : canonicalize runtime routing input = .ok canonical) :
    canonical.logicalKey = canonical.immutable.logicalKey runtime ∧
      canonical.requestFingerprint = canonical.immutable.requestFingerprint runtime := by
  unfold canonicalize at hcanonical
  rw [except_bind_ok] at hcanonical
  obtain ⟨⟨request, decision⟩, -, hresult⟩ := hcanonical
  cases hresult
  exact ⟨rfl, rfl⟩

/-- SHA-256 is taken to be injective on the texts of `stableJson`. -/
def Sha256Injective (runtime : Runtime) : Prop :=
  Set.InjOn runtime.sha256 (Set.range Json.stableJson)

theorem requestFingerprint_inj (hsha : Sha256Injective runtime) {first second : Immutable}
    (hsame : first.requestFingerprint runtime = second.requestFingerprint runtime) :
    first = second :=
  Immutable.stableJson_inj (hsha ⟨_, rfl⟩ ⟨_, rfl⟩ hsame)

/-! ## What a row is for good -/

/-- The columns of an intent that no update writes. -/
structure IntentIdentity where
  id : String
  network : String
  operation : ExecutionIntentOperation
  sourceWallet : String
  recipient : Option String
  batchDigest : Option String
  tokenIn : String
  tokenOut : String
  amountUnits : String
  externalReference : String
  logicalKey : String
  requestFingerprint : String
  idempotencyKey : String
deriving DecidableEq

def ExecutionIntent.identity (intent : ExecutionIntent) : IntentIdentity where
  id := intent.id
  network := intent.network
  operation := intent.operation
  sourceWallet := intent.sourceWallet
  recipient := intent.recipient
  batchDigest := intent.batchDigest
  tokenIn := intent.tokenIn
  tokenOut := intent.tokenOut
  amountUnits := intent.amountUnits
  externalReference := intent.externalReference
  logicalKey := intent.logicalKey
  requestFingerprint := intent.requestFingerprint
  idempotencyKey := intent.idempotencyKey

def Database.identities (database : Database) : List IntentIdentity :=
  database.intents.map ExecutionIntent.identity

theorem apply_identity (update : IntentUpdate) (row : ExecutionIntent) :
    (update.apply row).identity = row.identity := by
  cases update <;> rfl

theorem updated_identities (update : IntentUpdate) (database : Database) :
    ({ database with intents := database.updated update } : Database).identities =
      database.identities := by
  rw [Database.identities, Database.identities, Database.updated, List.map_map]
  refine List.map_congr_left fun row _ => ?_
  simp only [Function.comp_apply]
  split
  · exact apply_identity update row
  · rfl

/-- Rows stay, with their identities, and new ones are added at the end. -/
def KeepsIdentities (before after : Database) : Prop :=
  UniqueIntents after.intents ∧ before.identities <+: after.identities

theorem keepsIdentities_isRely : IsRely KeepsIdentities where
  trans hfirst hsecond := ⟨hsecond.1, hfirst.2.trans hsecond.2⟩
  refl_after hlater := ⟨hlater.1, List.prefix_refl _⟩

theorem answer_keepsIdentities (op : IntentOp) (input : Input) {database : Database}
    (hunique : UniqueIntents database.intents) :
    KeepsIdentities database ((intentMachine runtime routing).answer op input database).2 := by
  refine ⟨(answer_progresses op input hunique).unique, ?_⟩
  rcases answer_cases runtime routing op input database with
    hsame | ⟨canonical, -, hinserted, -⟩ | ⟨update, -, -, hupdated⟩
  · exact ⟨[], by rw [List.append_nil, hsame]⟩
  · rw [hinserted, Database.identities, Database.identities, List.map_append]
    exact List.prefix_append _ _
  · exact ⟨[], by rw [List.append_nil, hupdated, updated_identities]⟩

theorem run_keepsIdentities (runtime : Runtime) (routing : PaymentRouting) {pool : IntentPool}
    (hunique : UniqueIntents pool.state.intents) (choices : List (ℕ × Input)) :
    KeepsIdentities pool.state (pool.run (intentMachine runtime routing) choices).state := by
  induction choices generalizing pool with
  | nil => exact ⟨hunique, List.prefix_refl _⟩
  | cons choice rest ih =>
      have hstep : KeepsIdentities pool.state
          (pool.step (intentMachine runtime routing) choice).state := by
        rcases Pool.step_state choice pool with hsame | ⟨op, -, hanswer⟩
        · rw [hsame]
          exact ⟨hunique, List.prefix_refl _⟩
        · rw [hanswer]
          exact answer_keepsIdentities op choice.2 hunique
      exact keepsIdentities_isRely.trans hstep (ih hstep.1)

/-- A logical key has one row. -/
theorem identity_unique {database : Database} (hunique : UniqueIntents database.intents)
    {first second : IntentIdentity} (hfirst : first ∈ database.identities)
    (hsecond : second ∈ database.identities) (hkey : first.logicalKey = second.logicalKey) :
    first = second := by
  obtain ⟨row, hrow, rfl⟩ := List.mem_map.mp hfirst
  obtain ⟨other, hother, rfl⟩ := List.mem_map.mp hsecond
  have hclash : row.clashes other = true := by
    have hkeys : row.logicalKey = other.logicalKey := hkey
    simp [ExecutionIntent.clashes, hkeys]
  rw [row_unique hunique hrow hother hclash]

/-! ## What `acquire` returns -/

/-- An operation of an acquisition: it writes nothing but its own row. -/
def AcquireOp (canonical : CanonicalAcquireInput) (op : IntentOp) : Prop :=
  (∀ other, op = .create other → other = canonical) ∧ ∀ update, op ≠ .updateMany update

/-- The intent is the row of the canonical request's logical key. -/
def Held (canonical : CanonicalAcquireInput) (intent : ExecutionIntent) (database : Database) :
    Prop :=
  intent.identity ∈ database.identities ∧ intent.logicalKey = canonical.logicalKey

theorem Held.keeps {canonical : CanonicalAcquireInput} {intent : ExecutionIntent}
    {before after : Database} (hkeeps : KeepsIdentities before after)
    (hheld : Held canonical intent before) : Held canonical intent after :=
  ⟨hkeeps.2.subset hheld.1, hheld.2⟩

theorem find_held {canonical : CanonicalAcquireInput} {intent : ExecutionIntent}
    {database : Database}
    (hfound : database.findUnique (fun row => row.logicalKey = canonical.logicalKey) =
      some intent) : Held canonical intent database :=
  ⟨List.mem_map_of_mem (List.mem_of_find?_eq_some hfound), by simpa using List.find?_some hfound⟩

theorem insert_held {canonical : CanonicalAcquireInput} {input : Input} {database : Database}
    {intent : ExecutionIntent} (hcreated : (database.insert canonical input).1 = .ok intent) :
    Held canonical intent (database.insert canonical input).2 := by
  dsimp only [Database.insert] at hcreated ⊢
  split at hcreated
  · next hunique =>
      obtain rfl := Except.ok.inj hcreated
      rw [if_pos hunique]
      exact ⟨List.mem_map_of_mem (List.mem_append_right _ List.mem_cons_self), rfl⟩
  · cases hcreated

theorem create_held {canonical : CanonicalAcquireInput} {input : Input} {database : Database}
    {intent : ExecutionIntent}
    (hcreated : (database.create runtime routing canonical input).1 = .ok intent) :
    Held canonical intent (database.create runtime routing canonical input).2 := by
  unfold Database.create at hcreated ⊢
  split at hcreated
  · next existing hfound =>
      obtain rfl := Except.ok.inj hcreated
      exact find_held hfound
  · split at hcreated
    · exact insert_held hcreated
    · dsimp only at hcreated ⊢
      split at hcreated
      · cases hcreated
      · exact insert_held hcreated

section

open Service

/-- Operations of an acquisition among any others. -/
abbrev Acquires (runtime : Runtime) (routing : PaymentRouting)
    (canonical : CanonicalAcquireInput) {α : Type} (post : α → Database → Prop)
    (service : IntentService α) (database : Database) : Prop :=
  Expects (intentMachine runtime routing) KeepsIdentities (fun _ _ _ => True)
    (fun op _ _ => AcquireOp canonical op) post service database

theorem findByLogicalKey_acquires (canonical : CanonicalAcquireInput) (database : Database) :
    Acquires runtime routing canonical
      (fun found state => ∀ intent, found = some intent → Held canonical intent state)
      (findByLogicalKey canonical.logicalKey) database := by
  have hread := @expects_perform intentSignature Input Database (intentMachine runtime routing)
    KeepsIdentities (fun _ _ _ => True) (fun op _ _ => AcquireOp canonical op) database
    (.findByLogicalKey canonical.logicalKey)
    (fun answer state => ∀ intent, answer = Except.ok (some intent) → Held canonical intent state)
    fun later _ input _ => ⟨⟨by simp, by simp⟩, fun last hlast intent hanswer =>
      (find_held (read_ok hanswer)).keeps hlast⟩
  refine expects_bind keepsIdentities_isRely hread fun answer later hanswer =>
    expects_orThrow fun found hfound last hlast intent hintent => ?_
  exact (hanswer intent (by rw [hfound, hintent])).keeps hlast

theorem create_acquires (canonical : CanonicalAcquireInput) (database : Database) :
    Acquires runtime routing canonical
      (fun answer state => ∀ intent, answer = .ok intent → Held canonical intent state)
      (create canonical) database := by
  refine @expects_perform intentSignature Input Database (intentMachine runtime routing)
    KeepsIdentities (fun _ _ _ => True) (fun op _ _ => AcquireOp canonical op) database
    (.create canonical)
    (fun answer state => ∀ intent, answer = Except.ok intent → Held canonical intent state)
    fun later _ input _ => ⟨⟨?_, by simp⟩, fun last hlast intent hanswer => ?_⟩
  · rintro other ⟨⟩
    rfl
  · refine Held.keeps hlast ?_
    cases houtage : input.outage with
    | some error =>
        simp only [intentMachine, houtage] at hanswer
        cases hanswer
    | none =>
        simp only [intentMachine, houtage] at hanswer ⊢
        exact create_held hanswer

theorem acquireLoop_acquires (canonical : CanonicalAcquireInput) (attempts : ℕ)
    (database : Database) :
    Acquires runtime routing canonical
      (fun found state => ∀ intent, found = some intent → Held canonical intent state)
      (acquireLoop canonical attempts) database := by
  induction attempts generalizing database with
  | zero => exact expects_pure fun _ _ _ hnone => nomatch hnone
  | succ attempts ih =>
      refine expects_bind keepsIdentities_isRely (create_acquires canonical database)
        fun answer later hanswer => ?_
      cases answer with
      | ok intent =>
          refine expects_pure fun last hlast found hfound => ?_
          cases hfound
          exact (hanswer intent rfl).keeps hlast
      | error error =>
          cases error with
          | thrown error => exact expects_throw error
          | database error =>
              refine expects_then keepsIdentities_isRely
                (expects_throwIf fun _ _ _ => trivial) fun _ later => ?_
              refine expects_bind keepsIdentities_isRely
                (findByLogicalKey_acquires canonical later) fun found last hfound => ?_
              cases found with
              | some intent =>
                  refine expects_pure fun final hfinal other hother => ?_
                  cases hother
                  exact (hfound intent rfl).keeps hfinal
              | none =>
                  exact expects_then keepsIdentities_isRely
                    (expects_throwIf fun _ _ _ => trivial) fun _ final => ih final

/-- What `acquire` returns is the row of its logical key, created for this request. -/
theorem acquire_acquires {input : ExecutionIntentAcquireInput} {canonical : CanonicalAcquireInput}
    (hcanonical : canonicalize runtime routing input = .ok canonical) (database : Database) :
    Acquires runtime routing canonical
      (fun intent state => Held canonical intent state ∧
        intent.requestFingerprint = canonical.requestFingerprint)
      (acquire runtime routing input) database := by
  have hinput : Acquires runtime routing canonical (fun value _ => value = canonical)
      (Service.ofExcept (canonicalize runtime routing input)) database :=
    expects_ofExcept fun value hvalue _ _ => Except.ok.inj (hvalue.symm.trans hcanonical)
  refine expects_bind keepsIdentities_isRely hinput fun value later hvalue => ?_
  obtain rfl := hvalue
  refine expects_bind keepsIdentities_isRely (acquireLoop_acquires value 3 later)
    fun found last hfound => ?_
  cases found with
  | none => exact expects_throw _
  | some intent =>
      have hheld := hfound intent rfl
      have hnetwork : Acquires runtime routing value (fun _ state => Held value intent state)
          (assertSelectedNetwork routing intent) last :=
        expects_throwIf fun _ _ hlater => hheld.keeps hlater
      refine expects_bind keepsIdentities_isRely hnetwork fun _ next hnext => ?_
      have hfingerprint : Acquires runtime routing value
          (fun _ state => Held value intent state ∧
            intent.requestFingerprint = value.requestFingerprint)
          (throwIf (intent.requestFingerprint ≠ value.requestFingerprint) (immutableConflict
            "The logical operation is already bound to different immutable request data.")) next :=
        expects_throwIf fun hsame _ hlater => ⟨hnext.keeps hlater, not_not.mp hsame⟩
      refine expects_bind keepsIdentities_isRely hfingerprint fun _ final hfinal => ?_
      exact expects_pure fun _ hlater => ⟨hfinal.1.keeps hlater, hfinal.2⟩

end

/-! ## Concurrent acquisitions -/

/-- The request a call acquires an intent for. -/
def IntentCall.acquires : IntentCall → Option ExecutionIntentAcquireInput
  | acquire input => some input
  | postAcquire body =>
      (ExecutionIntentOperation.names.lookup (stringField body "operation")).map
        (ExecutionIntentController.acquireInput body)
  | _ => none

/-- The thread acquires the intent of a canonical request. -/
def AcquiresAs (runtime : Runtime) (routing : PaymentRouting) (calls : List IntentCall)
    (thread : ℕ) (canonical : CanonicalAcquireInput) : Prop :=
  ∃ input, calls[thread]?.bind IntentCall.acquires = some input ∧
    canonicalize runtime routing input = .ok canonical

/-- Concurrent calls after some of their steps. -/
def callsAfter (runtime : Runtime) (routing : PaymentRouting) (calls : List IntentCall)
    (database : Database) (choices : List (ℕ × Input)) : IntentPool :=
  (callPool runtime routing calls database).run (intentMachine runtime routing) choices

/-- What acquiring intents promises in one run of concurrent calls. -/
structure GetsOrCreates (runtime : Runtime) (routing : PaymentRouting) (calls : List IntentCall)
    (database : Database) (choices : List (ℕ × Input)) : Prop where
  /-- At every moment there is at most one intent with a logical key. -/
  unique : ∀ first rest, choices = first ++ rest →
    (callsAfter runtime routing calls database first).state.intents.Pairwise
      fun row other => row.logicalKey ≠ other.logicalKey
  /-- Intents stay, and what identifies them never changes. -/
  kept : ∀ first middle last, choices = first ++ middle ++ last →
    (callsAfter runtime routing calls database first).state.identities <+:
      (callsAfter runtime routing calls database (first ++ middle)).state.identities
  /-- Two acquisitions with one logical key that succeed return the same intent exactly
  when they request the same. -/
  agree : ∀ thread other canonical request, AcquiresAs runtime routing calls thread canonical →
    AcquiresAs runtime routing calls other request → canonical.logicalKey = request.logicalKey →
    ∀ first rest, choices = first ++ rest → ∀ intent found,
      (callsAfter runtime routing calls database first).returned thread = some (.ok intent) →
      (callsAfter runtime routing calls database first).returned other = some (.ok found) →
      (intent.id = found.id ↔ canonical.immutable = request.immutable)
  /-- If they request different things and one of them succeeds, the other one does not,
  and changes nothing. -/
  conflict : ∀ thread other canonical request, AcquiresAs runtime routing calls thread canonical →
    AcquiresAs runtime routing calls other request → canonical.logicalKey = request.logicalKey →
    canonical.immutable ≠ request.immutable →
    ∀ first rest, choices = first ++ rest → ∀ intent,
      (callsAfter runtime routing calls database first).returned thread = some (.ok intent) →
      (∀ before after, choices = before ++ after → ∀ found,
        (callsAfter runtime routing calls database before).returned other ≠ some (.ok found)) ∧
      ∀ before choice after, choices = before ++ choice :: after → choice.1 = other →
        (callsAfter runtime routing calls database (before ++ [choice])).state =
          (callsAfter runtime routing calls database before).state

section

open Service

theorem IntentCall.acquires_program {call : IntentCall} {input : ExecutionIntentAcquireInput}
    (hcall : call.acquires = some input) :
    call.program runtime routing = Intents.acquire runtime routing input := by
  cases call with
  | acquire request =>
      cases hcall
      rfl
  | postAcquire body =>
      obtain ⟨operation, hoperation, rfl⟩ := Option.map_eq_some_iff.mp hcall
      simp only [program, ExecutionIntentController.acquire, hoperation]
  | _ => cases hcall

/-- What an acquisition guarantees, and returns. -/
theorem callPool_acquires (runtime : Runtime) (routing : PaymentRouting) (calls : List IntentCall)
    (database : Database) :
    (callPool runtime routing calls database).Expects (intentMachine runtime routing)
      KeepsIdentities (fun _ _ _ _ => True)
      (fun thread op _ _ => ∀ canonical, AcquiresAs runtime routing calls thread canonical →
        AcquireOp canonical op)
      (fun thread outcome state => ∀ canonical,
        AcquiresAs runtime routing calls thread canonical → ∀ intent, outcome = .ok intent →
          Held canonical intent state ∧
            intent.requestFingerprint = canonical.requestFingerprint) := by
  intro thread program hprogram
  obtain ⟨call, hcall, rfl⟩ := Option.map_eq_some_iff.mp (List.getElem?_map.symm.trans hprogram)
  have hthread : calls[thread]?.bind IntentCall.acquires = call.acquires := by rw [hcall]; rfl
  by_cases hacquires : ∃ canonical, AcquiresAs runtime routing calls thread canonical
  · obtain ⟨canonical, input, hinput, hcanonical⟩ := hacquires
    have hsame : ∀ other, AcquiresAs runtime routing calls thread other → other = canonical := by
      rintro other ⟨request, hrequest, hother⟩
      obtain rfl := Option.some.inj (hrequest.symm.trans hinput)
      exact Except.ok.inj (hother.symm.trans hcanonical)
    rw [IntentCall.acquires_program (hthread.symm.trans hinput)]
    refine ((acquire_acquires hcanonical database).mono_guar ?_).mono ?_
    · intro op _ _ hop other hother
      rwa [hsame other hother]
    · rintro outcome state hpost other hother intent rfl
      rw [hsame other hother]
      exact hpost intent rfl
  · refine (Program.expects_of_forall (fun op input state canonical hcanonical => ?_) _ _).mono
      fun outcome state _ canonical hcanonical => ?_
    · exact absurd ⟨canonical, hcanonical⟩ hacquires
    · exact absurd ⟨canonical, hcanonical⟩ hacquires

end

/-- An acquisition leaves the table as it is, or adds the row of its request. -/
theorem AcquireOp.answer {canonical : CanonicalAcquireInput} {op : IntentOp}
    (hop : AcquireOp canonical op) (input : Input) (database : Database) :
    ((intentMachine runtime routing).answer op input database).2 = database ∨
      (canonical.row input.freshId).identity ∈
        ((intentMachine runtime routing).answer op input database).2.identities := by
  rcases answer_cases runtime routing op input database with
    hsame | ⟨other, hcreate, hinserted, -⟩ | ⟨update, hupdate, -, -⟩
  · exact .inl hsame
  · right
    rw [hinserted, hop.1 other hcreate]
    exact List.mem_map_of_mem (List.mem_append_right _ List.mem_cons_self)
  · exact absurd hupdate (hop.2 update)

variable {calls : List IntentCall} {database : Database}

theorem callsAfter_append (first second : List (ℕ × Input)) :
    callsAfter runtime routing calls database (first ++ second) =
      (callsAfter runtime routing calls database first).run (intentMachine runtime routing) second :=
  Pool.run_append first second _

theorem callsAfter_unique (hunique : UniqueIntents database.intents) (first : List (ℕ × Input)) :
    UniqueIntents (callsAfter runtime routing calls database first).state.intents :=
  (@run_keepsIdentities runtime routing (callPool runtime routing calls database) hunique first).1

theorem callsAfter_kept (hunique : UniqueIntents database.intents)
    (first middle : List (ℕ × Input)) :
    KeepsIdentities (callsAfter runtime routing calls database first).state
      (callsAfter runtime routing calls database (first ++ middle)).state := by
  rw [callsAfter_append]
  exact run_keepsIdentities runtime routing (callsAfter_unique hunique first) middle

theorem keepsIdentities_moves (op : IntentOp) (input : Input) (state : Database)
    (hstate : KeepsIdentities state state) :
    KeepsIdentities state ((intentMachine runtime routing).answer op input state).2 :=
  answer_keepsIdentities op input hstate.1

theorem returned_held (hunique : UniqueIntents database.intents) {thread : ℕ}
    {canonical : CanonicalAcquireInput}
    (hthread : AcquiresAs runtime routing calls thread canonical) {first : List (ℕ × Input)}
    {intent : ExecutionIntent} (hdone : (callsAfter runtime routing calls database first).returned
      thread = some (.ok intent)) :
    Held canonical intent (callsAfter runtime routing calls database first).state ∧
      intent.requestFingerprint = canonical.requestFingerprint := by
  have hrun : Pool.Along (intentMachine runtime routing) (Pool.Conditioned fun _ _ _ _ => True)
      (first ++ []) (callPool runtime routing calls database) :=
    Pool.along_of_forall (fun _ _ _ _ => trivial) _ _
  have hreturned := (callPool_acquires runtime routing calls database).returned
    keepsIdentities_isRely (fun _ op input state hstate _ _ =>
      keepsIdentities_moves op input state hstate) ⟨hunique, List.prefix_refl _⟩ hrun
  exact hreturned.2 thread _ hdone canonical hthread intent rfl

/-- A step of an acquisition changes nothing, or adds the row of its request. -/
theorem acquire_step (hunique : UniqueIntents database.intents) {canonical : CanonicalAcquireInput}
    {before : List (ℕ × Input)} {choice : ℕ × Input}
    (hthread : AcquiresAs runtime routing calls choice.1 canonical) :
    (callsAfter runtime routing calls database (before ++ [choice])).state =
        (callsAfter runtime routing calls database before).state ∨
      (canonical.row choice.2.freshId).identity ∈
        (callsAfter runtime routing calls database (before ++ [choice])).state.identities := by
  have hrun : Pool.Along (intentMachine runtime routing) (Pool.Conditioned fun _ _ _ _ => True)
      (before ++ choice :: []) (callPool runtime routing calls database) :=
    Pool.along_of_forall (fun _ _ _ _ => trivial) _ _
  have hguaranteed := (callPool_acquires runtime routing calls database).guaranteed
    keepsIdentities_isRely (fun _ op input state hstate _ _ =>
      keepsIdentities_moves op input state hstate) ⟨hunique, List.prefix_refl _⟩ hrun
  rw [callsAfter_append]
  rcases Pool.step_state choice (callsAfter runtime routing calls database before) with
    hsame | ⟨op, hop, hanswer⟩
  · exact .inl hsame
  · rcases (hguaranteed op hop canonical hthread).answer choice.2
      (callsAfter runtime routing calls database before).state with hsame | hadded
    · exact .inl (hanswer.trans hsame)
    · right
      rw [Pool.run, Pool.run, hanswer]
      exact hadded

/-- Identities of one table with one logical key were created for one request. -/
theorem immutable_eq (hsha : Sha256Injective runtime) (hunique : UniqueIntents database.intents)
    {canonical request : CanonicalAcquireInput} {thread other : ℕ}
    (hthread : AcquiresAs runtime routing calls thread canonical)
    (hother : AcquiresAs runtime routing calls other request)
    {first second : IntentIdentity} (hfirst : first ∈ database.identities)
    (hsecond : second ∈ database.identities) (hkey : first.logicalKey = second.logicalKey)
    (hcanonical : first.requestFingerprint = canonical.requestFingerprint)
    (hrequest : second.requestFingerprint = request.requestFingerprint) :
    canonical.immutable = request.immutable := by
  obtain ⟨input, -, hinput⟩ := hthread
  obtain ⟨found, -, hfound⟩ := hother
  refine requestFingerprint_inj hsha ?_
  rw [← (canonicalize_ok hinput).2, ← (canonicalize_ok hfound).2, ← hcanonical, ← hrequest,
    identity_unique hunique hfirst hsecond hkey]

theorem getsOrCreates (hsha : Sha256Injective runtime) (calls : List IntentCall)
    (hunique : UniqueIntents database.intents) (choices : List (ℕ × Input)) :
    GetsOrCreates runtime routing calls database choices where
  unique first rest _ := by
    have htable : UniqueIntents (callsAfter runtime routing calls database first).state.intents :=
      callsAfter_unique hunique first
    refine htable.imp fun {row other} hclash hkey => ?_
    simp [ExecutionIntent.clashes, hkey] at hclash
  kept first middle last _ := (callsAfter_kept hunique first middle).2
  agree := by
    intro thread other canonical request hthread hother hkey first rest _ intent found hdone hreturned
    obtain ⟨hintent, hfingerprint⟩ := returned_held hunique hthread hdone
    obtain ⟨hfound, hsecond⟩ := returned_held hunique hother hreturned
    have htable : UniqueIntents (callsAfter runtime routing calls database first).state.intents :=
      callsAfter_unique hunique first
    have hkeys : intent.logicalKey = found.logicalKey :=
      hintent.2.trans (hkey.trans hfound.2.symm)
    refine iff_of_true ?_ ?_
    · exact congrArg IntentIdentity.id (identity_unique htable hintent.1 hfound.1 hkeys)
    · exact immutable_eq hsha htable hthread hother hintent.1 hfound.1 hkeys hfingerprint hsecond
  conflict := by
    intro thread other canonical request hthread hother hkey hdiffer first rest hfirst intent hdone
    obtain ⟨hintent, hfingerprint⟩ := returned_held hunique hthread hdone
    -- Both rows would be in the last table, under one logical key.
    have hlast : ∀ moment tail, choices = moment ++ tail → ∀ identity,
        identity ∈ (callsAfter runtime routing calls database moment).state.identities →
          identity ∈ (callsAfter runtime routing calls database choices).state.identities := by
      rintro moment tail rfl identity hmember
      exact (callsAfter_kept hunique moment tail).2.subset hmember
    have htable : UniqueIntents (callsAfter runtime routing calls database choices).state.intents :=
      callsAfter_unique hunique choices
    have hnone : ∀ moment tail, choices = moment ++ tail → ∀ identity,
        identity ∈ (callsAfter runtime routing calls database moment).state.identities →
          identity.logicalKey = request.logicalKey →
            identity.requestFingerprint ≠ request.requestFingerprint := by
      intro moment tail hmoment identity hmember hidentity hsame
      exact hdiffer (immutable_eq hsha htable hthread hother
        (hlast first rest hfirst _ hintent.1) (hlast moment tail hmoment _ hmember)
        (hintent.2.trans (hkey.trans hidentity.symm)) hfingerprint hsame)
    constructor
    · intro before after hbefore found hreturned
      obtain ⟨hfound, hsecond⟩ := returned_held hunique hother hreturned
      exact hnone before after hbefore _ hfound.1 hfound.2 hsecond
    · rintro before choice after hbefore rfl
      rcases acquire_step hunique hother with hsame | hadded
      · exact hsame
      · exact absurd rfl (hnone (before ++ [choice]) after (by simpa using hbefore) _ hadded rfl)

/-! ## One request in other words -/

/-- The same text, or two texts of one address. -/
def SameAddressText (first second : String) : Prop := first = second ∨ SameAccount first second

/-- Requests that differ only in the letter case of addresses, and in the white space
around the reference and the digest. -/
structure SameRequest (first second : ExecutionIntentAcquireInput) : Prop where
  network : first.network = second.network
  operation : first.operation = second.operation
  ownerId : first.ownerId = second.ownerId
  sourceWallet : SameAddressText first.sourceWallet second.sourceWallet
  recipient : Option.Rel SameAddressText first.recipient second.recipient
  batchDigest : first.batchDigest.map trim = second.batchDigest.map trim
  tokenIn : SameAddressText first.tokenIn second.tokenIn
  tokenOut : SameAddressText first.tokenOut second.tokenOut
  amountUnits : first.amountUnits = second.amountUnits
  externalReference : trim first.externalReference = trim second.externalReference
  taskId : first.taskId = second.taskId

/-- The refusal of a request without a recipient and a digest. -/
def missingTarget : ServiceError :=
  immutableConflict "An execution intent requires a recipient or deterministic batch digest."

/-- The checks of a request before its target is looked at. -/
def reachesTarget (input : ExecutionIntentAcquireInput) : Bool :=
  isHexText 40 input.sourceWallet && isBaseUnits input.amountUnits &&
    trim input.externalReference ≠ "" && utf16Length (trim input.externalReference) ≤ 160

/-- Both requests give a digest or neither does, unless that is not looked at. -/
def DigestsAgree (first second : ExecutionIntentAcquireInput) : Prop :=
  nonempty first.recipient ≠ none ∨ reachesTarget first = false ∨
    (nonempty first.batchDigest = none ↔ nonempty second.batchDigest = none)

theorem checksumAddress_same {first second : String}
    (hlower : asciiLower first = asciiLower second) :
    checksumAddress runtime first = checksumAddress runtime second := by
  have hchars : first.toList.map Char.toLower = second.toList.map Char.toLower :=
    String.ofList_injective hlower
  simp only [checksumAddress, List.map_drop, hchars]

theorem requireAddress_same {first second : String} (hsame : SameAddressText first second) :
    requireAddress runtime first = requireAddress runtime second := by
  rcases hsame with rfl | hsame
  · rfl
  · simp only [requireAddress, getAddress, hsame.first, hsame.second, if_true,
      checksumAddress_same hsame.lower]

theorem trim_hexText {n : ℕ} {text : String} (htext : isHexText n text = true) :
    trim text = text := by
  obtain ⟨digits, rfl, -, hdigits⟩ := isHexText_iff.mp htext
  have hall : ∀ c ∈ "x0123456789abcdefABCDEF".toList, isSpace c = false :=
    List.all_iff_forall_prop.mp (by decide)
  refine trim_eq_self fun c hmember => ?_
  simp only [String.toList_ofList, List.mem_cons] at hmember
  rcases hmember with rfl | rfl | hmember
  · decide
  · decide
  · exact hall c (List.mem_cons_of_mem _ (isHexDigit_cases (hdigits c hmember)))

theorem parseAddress_same {first second : String} (hsame : SameAddressText first second) :
    parseAddress runtime (.string first) = parseAddress runtime (.string second) := by
  rcases hsame with rfl | hsame
  · rfl
  · simp only [parseAddress, trim_hexText hsame.first, trim_hexText hsame.second, if_true,
      getAddress, hsame.first, hsame.second, checksumAddress_same hsame.lower]

theorem decide_same {network : Json} {operation : PaymentOperation}
    {tokenIn tokenOut otherIn otherOut : String} (hin : SameAddressText tokenIn otherIn)
    (hout : SameAddressText tokenOut otherOut) :
    Backend.decide runtime routing network operation (.string tokenIn) (.string tokenOut) =
      Backend.decide runtime routing network operation (.string otherIn) (.string otherOut) := by
  simp only [Backend.decide, identifyToken, parseAddress_same hin, parseAddress_same hout]

theorem nonempty_hexText {n : ℕ} {text : String} (htext : isHexText n text = true) :
    nonempty (some text) = some text := by
  unfold nonempty
  split
  · next heq =>
      cases heq
      cases htext
  · rfl

theorem recipient_same {first second : Option String}
    (hsame : Option.Rel SameAddressText first second) :
    (nonempty first).mapM (requireAddress runtime) =
      (nonempty second).mapM (requireAddress runtime) := by
  cases hsame with
  | none => rfl
  | some hsame =>
      rcases hsame with rfl | hsame
      · rfl
      · rw [nonempty_hexText hsame.first, nonempty_hexText hsame.second]
        simp only [Option.mapM_some, requireAddress_same (.inr hsame)]

theorem except_bind_congr {ε α β : Type} {outcome : Except ε α} {first second : α → Except ε β}
    (hrest : ∀ value, outcome = .ok value → first value = second value) :
    outcome >>= first = outcome >>= second := by
  cases outcome with
  | error error => rfl
  | ok value => exact hrest value rfl

theorem mapM_eq_none {value : Option String} {f : String → Except ServiceError String}
    {result : Option String} (hresult : value.mapM f = .ok result) :
    result = none ↔ value = none := by
  cases value with
  | none =>
      cases hresult
      exact iff_of_true rfl rfl
  | some text =>
      rw [Option.mapM_some] at hresult
      cases hf : f text with
      | error error =>
          rw [hf] at hresult
          cases hresult
      | ok found =>
          rw [hf] at hresult
          cases hresult
          exact iff_of_false nofun nofun

theorem nonempty_recipient_same {first second : Option String}
    (hsame : Option.Rel SameAddressText first second) :
    nonempty first = none ↔ nonempty second = none := by
  cases hsame with
  | none => exact Iff.rfl
  | some hsame =>
      rcases hsame with rfl | hsame
      · exact Iff.rfl
      · rw [nonempty_hexText hsame.first, nonempty_hexText hsame.second]
        exact iff_of_false nofun nofun

/-- A request that passes the checks before the target reaches it. -/
theorem reachesTarget_of_checks {input : ExecutionIntentAcquireInput} {sourceWallet amount : String}
    (hsource : requireAddress runtime input.sourceWallet = .ok sourceWallet)
    (hamount : baseUnits input.amountUnits = .ok amount)
    (hreference : ¬ (trim input.externalReference = "" ∨
      160 < utf16Length (trim input.externalReference))) : reachesTarget input = true := by
  simp only [not_or, not_lt] at hreference
  simp [reachesTarget, (requireAddress_ok.mp hsource).1, (baseUnits_ok.mp hamount).1, hreference]

theorem canonicalize_same {first second : ExecutionIntentAcquireInput}
    (hsame : SameRequest first second) (hdigests : DigestsAgree first second) :
    canonicalize runtime routing first = canonicalize runtime routing second := by
  have hrequest : immutableRequest runtime routing first =
      immutableRequest runtime routing second := by
    have hdigest : first.batchDigest.map (fun digest => runtime.toLowerCase (trim digest)) =
        second.batchDigest.map fun digest => runtime.toLowerCase (trim digest) := by
      have hlower := congrArg (Option.map runtime.toLowerCase) hsame.batchDigest
      simpa only [Option.map_map, Function.comp_def] using hlower
    unfold immutableRequest
    rw [requireAddress_same hsame.sourceWallet, recipient_same hsame.recipient, hsame.amountUnits,
      hsame.externalReference, hdigest, hsame.network, hsame.operation, hsame.ownerId,
      decide_same hsame.tokenIn hsame.tokenOut]
    refine except_bind_congr fun sourceWallet hsource => ?_
    refine except_bind_congr fun recipient hrecipient => ?_
    refine except_bind_congr fun amount hamount => ?_
    by_cases hreference : trim second.externalReference = "" ∨
        160 < utf16Length (trim second.externalReference)
    · simp only [if_pos hreference]
      rfl
    · have hguard : (recipient = none ∧ nonempty first.batchDigest = none) ↔
          (recipient = none ∧ nonempty second.batchDigest = none) := by
        refine and_congr_right fun hnone => ?_
        rcases hdigests with hrecipientGiven | hearlier | hdigests
        · rw [mapM_eq_none hrecipient, ← nonempty_recipient_same hsame.recipient] at hnone
          exact absurd hnone hrecipientGiven
        · rw [← requireAddress_same hsame.sourceWallet] at hsource
          rw [← hsame.amountUnits] at hamount
          rw [← hsame.externalReference] at hreference
          rw [reachesTarget_of_checks hsource hamount hreference] at hearlier
          cases hearlier
        · exact hdigests
      simp only [if_neg hreference, hguard]
  unfold canonicalize
  rw [hrequest, hsame.taskId]

theorem except_bind_error {ε α β : Type} {outcome : Except ε α} {rest : α → Except ε β} {error : ε} :
    outcome >>= rest = .error error ↔
      outcome = .error error ∨ ∃ value, outcome = .ok value ∧ rest value = .error error := by
  cases outcome with
  | error other =>
      constructor
      · intro hother
        exact .inl (congrArg Except.error (Except.error.inj hother))
      · rintro (hother | ⟨_, hok, -⟩)
        · exact congrArg Except.error (Except.error.inj hother)
        · cases hok
  | ok value =>
      constructor
      · exact fun hrest => .inr ⟨value, rfl, hrest⟩
      · rintro (hother | ⟨found, hok, hrest⟩)
        · cases hother
        · cases hok
          exact hrest

/-- The routing of a request does not refuse it as a conflict. -/
theorem decide_error {network tokenIn tokenOut : Json} {operation : PaymentOperation}
    {code message : String}
    (herror : (Backend.decide runtime routing network operation tokenIn tokenOut >>=
      fun decision => assertExecutable decision) = .error (.conflict code message)) : False := by
  have hidentify : ∀ token,
      identifyToken runtime routing token ≠ .error (.conflict code message) := by
    intro token htoken
    unfold identifyToken at htoken
    split at htoken
    · cases htoken
    · split at htoken
      · cases htoken
      · split at htoken
        · split at htoken <;> cases htoken
        · cases htoken
  rcases except_bind_error.mp herror with hdecide | ⟨decision, -, hassert⟩
  · unfold Backend.decide at hdecide
    rcases except_bind_error.mp hdecide with hnetwork | ⟨_, -, hdecide⟩
    · unfold assertNetwork at hnetwork
      split at hnetwork
      · split at hnetwork <;> cases hnetwork
      · cases hnetwork
    · rcases except_bind_error.mp hdecide with hin | ⟨_, -, hdecide⟩
      · exact hidentify _ hin
      · rcases except_bind_error.mp hdecide with hout | ⟨_, -, hdecide⟩
        · exact hidentify _ hout
        · dsimp only at hdecide
          split at hdecide
          · cases hdecide
          · split at hdecide <;> cases hdecide
  · unfold assertExecutable at hassert
    split at hassert <;> cases hassert

theorem requireAddress_error {text code message : String} :
    requireAddress runtime text ≠ .error (.conflict code message) := by
  intro herror
  unfold requireAddress at herror
  split at herror <;> cases herror

/-- A request is refused for its missing target exactly when it gets that far without
a recipient and a digest. -/
theorem canonicalize_missingTarget {input : ExecutionIntentAcquireInput} :
    canonicalize runtime routing input = .error missingTarget ↔
      reachesTarget input = true ∧ nonempty input.recipient = none ∧
        nonempty input.batchDigest = none := by
  constructor
  · intro herror
    rcases except_bind_error.mp herror with herror | ⟨_, -, hresult⟩
    · rcases except_bind_error.mp herror with hsource | ⟨sourceWallet, hsource, herror⟩
      · exact absurd hsource requireAddress_error
      rcases except_bind_error.mp herror with hrecipient | ⟨recipient, hrecipient, herror⟩
      · cases hgiven : nonempty input.recipient with
        | none =>
            rw [hgiven] at hrecipient
            cases hrecipient
        | some text =>
            rw [hgiven, Option.mapM_some] at hrecipient
            rcases except_bind_error.mp hrecipient with herror | ⟨_, -, hresult⟩
            · exact absurd herror requireAddress_error
            · cases hresult
      rcases except_bind_error.mp herror with hamount | ⟨amount, hamount, herror⟩
      · unfold baseUnits at hamount
        split at hamount
        · cases hamount
        · exact absurd (Except.error.inj hamount) (by decide)
      dsimp only at herror
      by_cases hreference : trim input.externalReference = "" ∨
          160 < utf16Length (trim input.externalReference)
      · rw [if_pos hreference] at herror
        exact absurd (Except.error.inj herror) (by decide)
      · rw [if_neg hreference] at herror
        refine ⟨reachesTarget_of_checks hsource hamount hreference, ?_⟩
        by_cases htarget : recipient = none ∧ nonempty input.batchDigest = none
        · exact ⟨(mapM_eq_none hrecipient).mp htarget.1, htarget.2⟩
        · rw [if_neg htarget] at herror
          rw [← bind_assoc] at herror
          rcases except_bind_error.mp herror with hrouting | ⟨_, -, hresult⟩
          · exact (decide_error hrouting).elim
          · cases hresult
    · cases hresult
  · rintro ⟨hreaches, hrecipient, hdigest⟩
    simp only [reachesTarget, Bool.and_eq_true, decide_eq_true_eq] at hreaches
    obtain ⟨⟨⟨hsource, hamount⟩, hempty⟩, hlong⟩ := hreaches
    refine except_bind_error.mpr (.inl ?_)
    refine except_bind_error.mpr (.inr ⟨_, requireAddress_ok.mpr ⟨hsource, rfl⟩, ?_⟩)
    refine except_bind_error.mpr (.inr ⟨none, by rw [hrecipient]; rfl, ?_⟩)
    refine except_bind_error.mpr (.inr ⟨_, baseUnits_ok.mpr ⟨hamount, rfl⟩, ?_⟩)
    simp only [hempty, not_lt.mpr hlong, hdigest, or_self, if_false, and_self, if_true]
    rfl

/-- A request that is refused performs no operation; every other one does. -/
theorem acquire_refused {input : ExecutionIntentAcquireInput} {error : ServiceError} :
    (acquire runtime routing input).run = .done (.error error) ↔
      canonicalize runtime routing input = .error error := by
  unfold acquire
  cases hcanonical : canonicalize runtime routing input with
  | error other =>
      constructor
      · intro hrun
        exact congrArg Except.error (Except.error.inj (Program.done.inj hrun))
      · rintro ⟨⟩
        rfl
  | ok canonical => exact iff_of_false nofun nofun

theorem reachesTarget_same {first second : ExecutionIntentAcquireInput}
    (hsame : SameRequest first second) : reachesTarget first = reachesTarget second := by
  have hsource : isHexText 40 first.sourceWallet = isHexText 40 second.sourceWallet := by
    rcases hsame.sourceWallet with heq | haccount
    · rw [heq]
    · rw [haccount.first, haccount.second]
  unfold reachesTarget
  rw [hsource, hsame.amountUnits, hsame.externalReference]

/-- A request in other words is the same request, unless one digest is blank and the
other is missing. -/
theorem acquire_same_iff {first second : ExecutionIntentAcquireInput}
    (hsame : SameRequest first second) :
    acquire runtime routing first = acquire runtime routing second ↔ DigestsAgree first second := by
  constructor
  · intro hacquire
    have hrefused : canonicalize runtime routing first = .error missingTarget ↔
        canonicalize runtime routing second = .error missingTarget := by
      rw [← acquire_refused, ← acquire_refused, hacquire]
    by_cases hrecipient : nonempty first.recipient = none
    · by_cases hreaches : reachesTarget first = true
      · rw [canonicalize_missingTarget, canonicalize_missingTarget, ← reachesTarget_same hsame,
          ← nonempty_recipient_same hsame.recipient] at hrefused
        right
        right
        simpa only [hreaches, hrecipient, true_and] using hrefused
      · exact .inr (.inl (by simpa using hreaches))
    · exact .inl hrecipient
  · intro hdigests
    unfold acquire
    rw [canonicalize_same hsame hdigests]

/-- In every run of concurrent calls intents are got or created as promised; and two
wordings of one request are acquired alike if and only if their digests agree. -/
theorem acquire_get_or_create_iff (hsha : Sha256Injective runtime) (calls : List IntentCall)
    (hunique : UniqueIntents database.intents) (choices : List (ℕ × Input))
    {first second : ExecutionIntentAcquireInput} (hsame : SameRequest first second) :
    GetsOrCreates runtime routing calls database choices ∧
        acquire runtime routing first = acquire runtime routing second ↔
      DigestsAgree first second := by
  rw [acquire_same_iff hsame]
  exact and_iff_right (getsOrCreates hsha calls hunique choices)

/-! ## Example acquisitions -/

/-- The runtime of `exampleSend`, with texts whose digests it does not know told apart. -/
def distinguishingRuntime : Runtime :=
  { exampleRuntime with
    sha256 := fun text =>
      if exampleRuntime.sha256 text = String.ofList (List.replicate 64 '0') then "?" ++ text
      else exampleRuntime.sha256 text }

theorem ofTable_inj {table keccak : List (String × String)}
    (hdistinct : ∀ row ∈ table, ∀ other ∈ table, row.2 = other.2 → row.1 = other.1)
    {first second : String}
    (hknown : (Runtime.ofTable table keccak).sha256 first ≠ String.ofList (List.replicate 64 '0'))
    (hsame : (Runtime.ofTable table keccak).sha256 first =
      (Runtime.ofTable table keccak).sha256 second) : first = second := by
  have hrow : ∀ text, (Runtime.ofTable table keccak).sha256 text ≠
      String.ofList (List.replicate 64 '0') →
      (text, (Runtime.ofTable table keccak).sha256 text) ∈ table := by
    intro text htext
    simp only [Runtime.ofTable] at htext ⊢
    cases hlookup : table.lookup text with
    | none =>
        rw [hlookup] at htext
        exact absurd rfl htext
    | some digest =>
        obtain ⟨_, _, rfl, -⟩ := List.lookup_eq_some_iff.mp hlookup
        simp
  exact hdistinct _ (hrow first hknown) _ (hrow second (hsame ▸ hknown)) hsame

theorem distinguishingRuntime_injective : Sha256Injective distinguishingRuntime := by
  rintro first - second - hsame
  have hquestion : ∀ text other, "?" ++ text ≠ exampleRuntime.sha256 other := by
    intro text other heq
    have hdigest : isHexDigest (exampleRuntime.sha256 other) = true :=
      (Runtime.ofTable_documented (by decide +kernel)).sha256_hex other
    rw [← heq] at hdigest
    have hmember : '?' ∈ ("?" ++ text).toList := by simp
    have hdigit := ((isHexDigest_spec hdigest).2 '?' hmember).1
    exact absurd hdigit (by decide)
  simp only [distinguishingRuntime] at hsame
  split at hsame
  · split at hsame
    · simpa using hsame
    · exact absurd hsame (hquestion first second)
  · next hknown =>
      split at hsame
      · exact absurd hsame.symm (hquestion second first)
      · exact ofTable_inj (by decide +kernel) hknown hsame

/-- `exampleSend` with white space around its reference. -/
def exampleSpaced : ExecutionIntentAcquireInput :=
  { ExecutionIntentController.acquireInput exampleSend .SEND with externalReference := " order-1 " }

/-- Two clients acquire one intent in different words. -/
theorem acquire_get_or_create_example :
    GetsOrCreates distinguishingRuntime arcMainnet [.postAcquire exampleSend, .acquire exampleSpaced]
        ⟨[], []⟩ [(0, exampleAcquired), (1, exampleInput)] ∧
      acquire distinguishingRuntime arcMainnet
          (ExecutionIntentController.acquireInput exampleSend .SEND) =
        acquire distinguishingRuntime arcMainnet exampleSpaced := by
  have hsame : SameRequest (ExecutionIntentController.acquireInput exampleSend .SEND)
      exampleSpaced := by
    refine ⟨rfl, rfl, rfl, .inl rfl, .some (.inl rfl), rfl, .inl rfl, .inl rfl, rfl, ?_, rfl⟩
    decide +kernel
  have hunique : UniqueIntents (⟨[], []⟩ : Database).intents := List.Pairwise.nil
  exact (acquire_get_or_create_iff distinguishingRuntime_injective _ hunique _ hsame).mpr
    (.inl (by decide +kernel))

/-- A payroll request without a recipient, and with a digest of white space or none. -/
def exampleUntargeted (batchDigest : String) : ExecutionIntentAcquireInput :=
  { ExecutionIntentController.acquireInput exampleSend .PAYROLL with
    recipient := none
    batchDigest := some batchDigest }

/-- A blank digest passes for one: the request is refused without it, and accepted
with it. -/
theorem blank_digest_accepted :
    SameRequest (exampleUntargeted "") (exampleUntargeted " ") ∧
      acquire exampleRuntime arcMainnet (exampleUntargeted "") ≠
        acquire exampleRuntime arcMainnet (exampleUntargeted " ") ∧
      (callsAfter exampleRuntime arcMainnet
        [.acquire (exampleUntargeted ""), .acquire (exampleUntargeted " ")] ⟨[], []⟩
        [(0, exampleAcquired), (1, exampleAcquired)]).state.intents.map
          (fun intent => (intent.recipient, intent.batchDigest)) = [(none, none)] := by
  have hsame : SameRequest (exampleUntargeted "") (exampleUntargeted " ") := by
    refine ⟨rfl, rfl, rfl, .inl rfl, .none, ?_, .inl rfl, .inl rfl, rfl, rfl, rfl⟩
    decide +kernel
  refine ⟨hsame, fun hacquire => ?_, by decide +kernel⟩
  rcases (acquire_same_iff hsame).mp hacquire with hrecipient | hreaches | hdigests
  · exact hrecipient rfl
  · exact absurd hreaches (by decide +kernel)
  · exact absurd (hdigests.mp rfl) (by decide +kernel)

end WizPay.Intents
