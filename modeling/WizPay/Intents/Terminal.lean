import WizPay.Intents.Steps

/-!
# Terminal statuses

Which steps of concurrent calls keep a terminal status, and that a run keeps
them exactly as far as its steps do. A transition checks the status it writes
over; binding a hash and cancelling check it only in an earlier read.
-/

namespace WizPay.Intents

open Foundation Backend ExecutionIntentStatus

/-! ## Rows by id -/

namespace Database

/-- The status of a row. -/
def statusOf (database : Database) (id : String) : Option ExecutionIntentStatus :=
  (database.findUnique fun row => row.id = id).map ExecutionIntent.status

/-- What an update makes of a row. -/
def rewritten (update : IntentUpdate) (row : ExecutionIntent) : ExecutionIntent :=
  if update.selects row then update.apply row else row

theorem rewritten_id (update : IntentUpdate) (row : ExecutionIntent) :
    (rewritten update row).id = row.id := by
  unfold rewritten
  split
  · exact update.apply_id row
  · rfl

theorem find_updated (update : IntentUpdate) (database : Database) (id : String) :
    (database.updated update).find? (fun row => row.id = id) =
      (database.findUnique fun row => row.id = id).map (rewritten update) := by
  have hkey : ((fun row : ExecutionIntent => decide (row.id = id)) ∘ rewritten update) =
      fun row => decide (row.id = id) := by
    funext row
    simp [rewritten_id]
  rw [updated, findUnique, ← hkey, ← List.find?_map, hkey]
  rfl

end Database

/-- The status an update writes over whatever the row's status is. -/
def IntentUpdate.overwrites : IntentUpdate → Option ExecutionIntentStatus
  | bindTransactionHash _ _ => some SUBMITTED
  | cancelUnsubmitted _ => some CANCELLED
  | _ => none

/-- Every other update finds a row in a terminal status unselected, or leaves the
status as it is. -/
theorem apply_status {update : IntentUpdate} {row : ExecutionIntent}
    (hoverwrites : update.overwrites = none) (hselects : update.selects row = true)
    (hterminal : row.status.isTerminal = true) : (update.apply row).status = row.status := by
  cases update with
  | attachTask | acquireLease | bindImmutableExecutionContext | bindCircleCorrelation => rfl
  | transition id edge data completedAt =>
      simp only [IntentUpdate.selects, IntentUpdate.condition, Bool.and_eq_true,
        decide_eq_true_eq] at hselects
      have hallowed := edge.allowed
      rw [← hselects.2, transitions_of_isTerminal hterminal] at hallowed
      cases hallowed
  | bindTransactionHash | cancelUnsubmitted => cases hoverwrites

theorem apply_status_of_overwrites {update : IntentUpdate} {status : ExecutionIntentStatus}
    (hoverwrites : update.overwrites = some status) (row : ExecutionIntent) :
    (update.apply row).status = status := by
  cases update <;> cases hoverwrites <;> rfl

/-! ## One step -/

/-- Every row in a terminal status is still in it. -/
def TerminalKept (before after : Database) : Prop :=
  ∀ id status, before.statusOf id = some status → status.isTerminal = true →
    after.statusOf id = some status

theorem TerminalKept.refl (database : Database) : TerminalKept database database :=
  fun _ _ hstatus _ => hstatus

theorem TerminalKept.trans {first second third : Database} (hfirst : TerminalKept first second)
    (hsecond : TerminalKept second third) : TerminalKept first third :=
  fun id status hstatus hterminal =>
    hsecond id status (hfirst id status hstatus hterminal) hterminal

/-- An update commits that writes its status over a different, terminal one. -/
def Reopens (update : IntentUpdate) (input : Input) (database : Database) : Prop :=
  Commits update input database ∧
    ∃ row written, (database.findUnique fun row => row.id = update.id) = some row ∧
      update.selects row = true ∧ row.status.isTerminal = true ∧
      update.overwrites = some written ∧ written ≠ row.status

theorem create_keeps (runtime : Runtime) (routing : PaymentRouting)
    (canonical : CanonicalAcquireInput) (input : Input) (database : Database) :
    TerminalKept database (database.create runtime routing canonical input).2 := by
  have hinsert : TerminalKept database (database.insert canonical input).2 := by
    intro id status hstatus _
    dsimp only [Database.insert]
    split
    · simp only [Database.statusOf, Database.findUnique, Option.map_eq_some_iff,
        List.find?_append] at hstatus ⊢
      obtain ⟨row, hfound, hrow⟩ := hstatus
      exact ⟨row, by rw [hfound]; rfl, hrow⟩
    · exact hstatus
  unfold Database.create
  cases database.findUnique fun row => row.logicalKey = canonical.logicalKey with
  | some existing => exact .refl database
  | none =>
      cases canonical.operation.settles with
      | none => exact hinsert
      | some kind =>
          dsimp only
          split
          · exact .refl database
          · exact hinsert

theorem statusOf_updated (update : IntentUpdate) (database : Database) (id : String) :
    Database.statusOf { database with intents := database.updated update } id =
      (database.findUnique fun row => row.id = id).map
        fun row => (Database.rewritten update row).status := by
  simp only [Database.statusOf]
  rw [Database.findUnique, Database.find_updated, Option.map_map]
  rfl

/-- A committed update keeps the terminal statuses unless it reopens a row. -/
theorem updated_keeps_iff (update : IntentUpdate) (database : Database) :
    TerminalKept database { database with intents := database.updated update } ↔
      ¬ ∃ row written, (database.findUnique fun row => row.id = update.id) = some row ∧
        update.selects row = true ∧ row.status.isTerminal = true ∧
        update.overwrites = some written ∧ written ≠ row.status := by
  constructor
  · rintro hkept ⟨row, written, hfound, hselects, hterminal, hoverwrites, hne⟩
    have hafter := hkept update.id row.status (by rw [Database.statusOf, hfound]; rfl) hterminal
    rw [statusOf_updated, hfound, Option.map_some, Database.rewritten, if_pos hselects,
      apply_status_of_overwrites hoverwrites] at hafter
    exact hne (Option.some.inj hafter)
  · intro hclosed id status hstatus hterminal
    rw [Database.statusOf, Option.map_eq_some_iff] at hstatus
    obtain ⟨row, hfound, rfl⟩ := hstatus
    rw [statusOf_updated, hfound, Option.map_some, Database.rewritten]
    split
    · next hselects =>
        have hid : id = update.id := by
          have hrow := List.find?_some hfound
          simp only [IntentUpdate.selects, Bool.and_eq_true, decide_eq_true_eq] at hselects hrow
          exact hrow.symm.trans hselects.1
        cases hoverwrites : update.overwrites with
        | none => rw [apply_status hoverwrites hselects hterminal]
        | some written =>
            rw [apply_status_of_overwrites hoverwrites]
            by_contra hne
            exact hclosed ⟨row, written, hid ▸ hfound, hselects, hterminal, hoverwrites,
              fun heq => hne (congrArg some heq)⟩
    · rfl

variable (runtime : Runtime) (routing : PaymentRouting)

/-- An operation keeps the terminal statuses exactly when it is no update that
reopens a row. -/
theorem answer_keeps_iff (op : IntentOp) (input : Input) (database : Database) :
    TerminalKept database ((intentMachine runtime routing).answer op input database).2 ↔
      ∀ update, op = .updateMany update → ¬ Reopens update input database := by
  cases op with
  | now | findById | findByTransactionHash | findByLogicalKey =>
      exact iff_of_true (TerminalKept.refl database) (by simp)
  | create canonical =>
      refine iff_of_true ?_ (by simp)
      have hcreate := create_keeps runtime routing canonical input database
      cases houtage : input.outage with
      | none => simpa [intentMachine, houtage] using hcreate
      | some error =>
          cases happlied : input.applied with
          | false => simpa [intentMachine, houtage, happlied] using TerminalKept.refl database
          | true => simpa [intentMachine, houtage, happlied] using hcreate
  | updateMany update =>
      rw [answer_updateMany]
      have hupdate := updated_keeps_iff update database
      by_cases hcommits : Commits update input database
      · rw [if_pos hcommits, hupdate]
        simp [Reopens, hcommits]
      · rw [if_neg hcommits]
        refine iff_of_true (TerminalKept.refl database) ?_
        rintro _ hop hreopens
        cases hop
        exact hcommits hreopens.1

/-! ## Runs -/

/-- The update a thread performs next, if any, reopens no row. -/
def ReopensNone (pool : IntentPool) (choice : ℕ × Input) : Prop :=
  ∀ update, pool.pending choice.1 = some (.updateMany update) →
    ¬ Reopens update choice.2 pool.state

theorem step_keeps_iff (pool : IntentPool) (choice : ℕ × Input) :
    ReopensNone pool choice ↔
      TerminalKept pool.state (pool.step (intentMachine runtime routing) choice).state := by
  unfold ReopensNone Pool.step Pool.pending
  cases pool.threads[choice.1]? with
  | none => exact iff_of_true (by simp) (TerminalKept.refl _)
  | some program =>
      cases program with
      | done value => exact iff_of_true (by simp) (TerminalKept.refl _)
      | perform op next =>
          have hop := answer_keeps_iff runtime routing op choice.2 pool.state
          exact ⟨fun hnone => hop.mpr fun update heq => hnone update (congrArg some heq),
            fun hkept update heq => hop.mp hkept update (Option.some.inj heq)⟩

/-- In any run of concurrent calls, a terminal status is the status at every
later moment if and only if no step binds a hash to, or cancels, a row that is
terminal by then. -/
theorem terminal_status_permanent_iff (calls : List IntentCall) (database : Database)
    (choices : List (ℕ × Input)) :
    let machine := intentMachine runtime routing
    let pool := callPool runtime routing calls database
    (∀ first middle last, choices = first ++ middle ++ last →
        TerminalKept (pool.run machine first).state (pool.run machine (first ++ middle)).state) ↔
      Pool.Along machine ReopensNone choices pool := by
  intro machine pool
  exact (Pool.along_iff_relates TerminalKept.refl TerminalKept.trans
    (step_keeps_iff runtime routing)).symm

/-! ## A cancelled intent submitted -/

def exampleSend : Json := .object [
  ("network", .string "arc-mainnet"), ("operation", .string "SEND"),
  ("sourceWallet", .string "0x1111111111111111111111111111111111111111"),
  ("recipient", .string "0x2222222222222222222222222222222222222222"),
  ("tokenIn", .string "0x3600000000000000000000000000000000000000"),
  ("tokenOut", .string "0x3600000000000000000000000000000000000000"),
  ("amountUnits", .string "1000000"), ("externalReference", .string "order-1")]

/-- The digests of the logical key, the request and the idempotency key of `exampleSend`. -/
def exampleRuntime : Runtime := .ofTable [
  ("\x7b\"externalReference\":\"order-1\",\"network\":\"arc-mainnet\",\"operation\":\"SEND\"," ++
    "\"ownerId\":null,\"sourceWallet\":\"0x1111111111111111111111111111111111111111\"\x7d",
    "359bc32d3779e82dca05d7c06b63b52a5cde2604fdb475999cc54e4388cba024"),
  ("\x7b\"amountUnits\":\"1000000\",\"batchDigest\":null,\"externalReference\":\"order-1\"," ++
    "\"network\":\"arc-mainnet\",\"operation\":\"SEND\",\"ownerId\":null," ++
    "\"recipient\":\"0x2222222222222222222222222222222222222222\"," ++
    "\"sourceWallet\":\"0x1111111111111111111111111111111111111111\"," ++
    "\"tokenIn\":\"0x3600000000000000000000000000000000000000\"," ++
    "\"tokenOut\":\"0x3600000000000000000000000000000000000000\"\x7d",
    "01aaa4aa4f122acbfb366f2cbedcf9a29e3bd58d94e3f3aab46fcc3939667a5d"),
  ("wizpay:01aaa4aa4f122acbfb366f2cbedcf9a29e3bd58d94e3f3aab46fcc3939667a5d",
    "4c4fed01cc08ff3e141522aaf27433afa69c0f6b9eeabebb7aa29d667b8c5f2e")] []

/-- What `exampleSend` is stored as. -/
def exampleCanonical : CanonicalAcquireInput where
  network := "arc-mainnet"
  operation := .SEND
  ownerId := none
  sourceWallet := "0x1111111111111111111111111111111111111111"
  recipient := some "0x2222222222222222222222222222222222222222"
  batchDigest := none
  tokenIn := "0x3600000000000000000000000000000000000000"
  tokenOut := "0x3600000000000000000000000000000000000000"
  amountUnits := "1000000"
  externalReference := "order-1"
  logicalKey := "359bc32d3779e82dca05d7c06b63b52a5cde2604fdb475999cc54e4388cba024"
  requestFingerprint := "01aaa4aa4f122acbfb366f2cbedcf9a29e3bd58d94e3f3aab46fcc3939667a5d"
  idempotencyKey := "4c4fed01-cc08-5f3e-9415-22aaf27433af"
  route := .DIRECT_TRANSFER
  provider := none
  taskId := none

def exampleDatabase : Database := ⟨[exampleCanonical.row "intent-1"], []⟩

/-- The client that acquired the intent cancels it and then binds a hash to it. -/
def exampleCalls : List IntentCall := [
  .postCancel "intent-1" (.object [
    ("idempotencyKey", .string "4c4fed01-cc08-5f3e-9415-22aaf27433af")]),
  .postTransactionHash 2 "intent-1" (.object [
    ("idempotencyKey", .string "4c4fed01-cc08-5f3e-9415-22aaf27433af"),
    ("transactionHash",
      .string "0x3333333333333333333333333333333333333333333333333333333333333333")])]

def exampleInput : Input := ⟨0, "intent-2", none, false⟩

/-- The input that creates the first intent. -/
def exampleAcquired : Input := ⟨0, "intent-1", none, false⟩

/-- An hour later no lease is active. -/
def exampleLater : Input := ⟨3600000, "intent-2", none, false⟩

/-- One call after the other, the cancelled intent ends up submitted. -/
theorem cancelled_intent_submitted :
    let machine := intentMachine exampleRuntime arcMainnet
    let pool := callPool exampleRuntime arcMainnet exampleCalls exampleDatabase
    let cancelled := [0, 0, 0, 0].map fun thread => (thread, exampleInput)
    let bound := [1, 1, 1, 1].map fun thread => (thread, exampleInput)
    (pool.run machine cancelled).state.statusOf "intent-1" = some CANCELLED ∧
      (pool.run machine (cancelled ++ bound)).state.statusOf "intent-1" = some SUBMITTED ∧
      ¬ TerminalKept (pool.run machine cancelled).state
        (pool.run machine (cancelled ++ bound)).state := by
  intro machine pool cancelled bound
  have hcancelled : (pool.run machine cancelled).state.statusOf "intent-1" = some CANCELLED := by
    decide +kernel
  have hsubmitted : (pool.run machine (cancelled ++ bound)).state.statusOf "intent-1" =
      some SUBMITTED := by
    decide +kernel
  refine ⟨hcancelled, hsubmitted, fun hkept => ?_⟩
  have hstill := hkept "intent-1" CANCELLED hcancelled rfl
  rw [hsubmitted] at hstill
  cases hstill

end WizPay.Intents
