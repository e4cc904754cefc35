import WizPay.Intents.Completion
import WizPay.Intents.Terminal

/-!
# Wallet submissions

Two facts about an intent that waits for a wallet: no hash is bound to it, and
whoever opens it again finds it moved to `FAILED_RETRYABLE` in between. The
second one holds in every run. The first one rests on a read: the update that
opens the wallet compares the status alone.
-/

namespace WizPay.Intents

open Foundation Backend ExecutionIntentStatus

/-! ## Rows waiting for a wallet -/

/-- No row waits for a wallet while a hash is bound to it. -/
def NoneRebroadcast (database : Database) : Prop :=
  ∀ row ∈ database.intents, row.status = AWAITING_WALLET_SIGNATURE → row.transactionHash = none

/-- A transition to `AWAITING_WALLET_SIGNATURE` commits on a row that has a hash. -/
def Rebroadcasts (update : IntentUpdate) (input : Input) (database : Database) : Prop :=
  Commits update input database ∧
    (IntentOp.updateMany update).target = some AWAITING_WALLET_SIGNATURE ∧
    ∃ row ∈ database.intents, update.selects row = true ∧ row.transactionHash ≠ none

/-- The operation is no such transition. -/
def OpensUnsigned (op : IntentOp) (input : Input) (database : Database) : Prop :=
  ∀ update, op = .updateMany update → ¬ Rebroadcasts update input database

/-- Opening the wallet is a transition, and leaves the hash as it is. -/
theorem apply_opened {update : IntentUpdate}
    (htarget : (IntentOp.updateMany update).target = some AWAITING_WALLET_SIGNATURE)
    (row : ExecutionIntent) : (update.apply row).status = AWAITING_WALLET_SIGNATURE ∧
      (update.apply row).transactionHash = row.transactionHash := by
  cases update with
  | transition id edge data completedAt => exact ⟨Option.some.inj htarget, rfl⟩
  | _ => cases htarget

/-- A row that waits after an update waited before it, with the same hash, or was
opened by it. -/
theorem awaiting_of_apply {update : IntentUpdate} {row : ExecutionIntent}
    (hstatus : (update.apply row).status = AWAITING_WALLET_SIGNATURE) :
    (row.status = AWAITING_WALLET_SIGNATURE ∧
        (update.apply row).transactionHash = row.transactionHash) ∨
      (IntentOp.updateMany update).target = some AWAITING_WALLET_SIGNATURE := by
  cases update with
  | transition id edge data completedAt => exact .inr (congrArg some hstatus)
  | bindTransactionHash | cancelUnsubmitted => cases hstatus
  | attachTask | acquireLease | bindImmutableExecutionContext | bindCircleCorrelation =>
      exact .inl ⟨hstatus, rfl⟩

theorem updated_noneRebroadcast_iff {update : IntentUpdate} {database : Database}
    (hnone : NoneRebroadcast database) :
    NoneRebroadcast { database with intents := database.updated update } ↔
      ¬ ((IntentOp.updateMany update).target = some AWAITING_WALLET_SIGNATURE ∧
        ∃ row ∈ database.intents, update.selects row = true ∧ row.transactionHash ≠ none) := by
  constructor
  · rintro hafter ⟨htarget, row, hmember, hselects, hbound⟩
    obtain ⟨hstatus, hhash⟩ := apply_opened htarget row
    have hupdated : update.apply row ∈ database.updated update :=
      List.mem_map.mpr ⟨row, hmember, if_pos hselects⟩
    exact hbound (hhash.symm.trans (hafter _ hupdated hstatus))
  · intro hclosed row hmember hstatus
    obtain ⟨before, hbefore, hrow⟩ := List.mem_map.mp hmember
    by_cases hselects : update.selects before = true
    · rw [if_pos hselects] at hrow
      subst hrow
      rcases awaiting_of_apply hstatus with ⟨hwaiting, hhash⟩ | htarget
      · rw [hhash]
        exact hnone before hbefore hwaiting
      · rw [(apply_opened htarget before).2]
        by_contra hbound
        exact hclosed ⟨htarget, before, hbefore, hselects, hbound⟩
    · rw [if_neg hselects] at hrow
      subst hrow
      exact hnone before hbefore hstatus

variable {runtime : Runtime} {routing : PaymentRouting}

/-- An operation keeps the table free of such rows exactly when it opens none. -/
theorem opensUnsigned_iff (runtime : Runtime) (routing : PaymentRouting) (op : IntentOp)
    (input : Input) (database : Database) (hnone : NoneRebroadcast database) :
    OpensUnsigned op input database ↔
      NoneRebroadcast ((intentMachine runtime routing).answer op input database).2 := by
  cases hop : op with
  | updateMany update =>
      rw [answer_updateMany]
      by_cases hcommits : Commits update input database
      · rw [if_pos hcommits, updated_noneRebroadcast_iff hnone]
        simp [OpensUnsigned, Rebroadcasts, hcommits]
      · rw [if_neg hcommits]
        refine iff_of_true ?_ hnone
        rintro _ ⟨⟩ hrebroadcasts
        exact hcommits hrebroadcasts.1
  | _ =>
      refine iff_of_true (fun update hupdate => nomatch hupdate) ?_
      rcases answer_cases runtime routing op input database with
        hsame | ⟨canonical, -, hinserted, -⟩ | ⟨update, hupdate, -, -⟩
      · rw [← hop, hsame]
        exact hnone
      · rw [← hop, hinserted]
        intro row hmember hstatus
        rcases List.mem_append.mp hmember with hold | hnew
        · exact hnone row hold hstatus
        · rw [List.mem_singleton.mp hnew]
          rfl
      · rw [hop] at hupdate
        cases hupdate

/-! ## Moves of one intent -/

/-- The chosen step commits a transition of the intent to a status. -/
def StepMoves (id : String) (status : ExecutionIntentStatus) (pool : IntentPool)
    (choice : ℕ × Input) : Prop :=
  ∃ update, pool.pending choice.1 = some (.updateMany update) ∧ update.id = id ∧
    (IntentOp.updateMany update).target = some status ∧ Commits update choice.2 pool.state ∧
    ∃ row ∈ pool.state.intents, update.selects row = true

theorem find_of_mem {database : Database} (hunique : UniqueIntents database.intents)
    {row : ExecutionIntent} (hmember : row ∈ database.intents) :
    (database.findUnique fun other => other.id = row.id) = some row := by
  cases hfound : database.findUnique fun other => other.id = row.id with
  | none =>
      have hnone := List.find?_eq_none.mp hfound row hmember
      simp at hnone
  | some other =>
      have hid : other.id = row.id := by simpa using List.find?_some hfound
      rw [row_unique_id hunique (List.mem_of_find?_eq_some hfound) hmember hid]

theorem statusOf_of_mem {database : Database} (hunique : UniqueIntents database.intents)
    {row : ExecutionIntent} (hmember : row ∈ database.intents) :
    database.statusOf row.id = some row.status := by
  rw [Database.statusOf, find_of_mem hunique hmember]
  rfl

/-- A status changes only by a committed transition to it, or by an update that
writes it over any other. -/
theorem answer_statusOf {op : IntentOp} {input : Input} {database : Database} {id : String}
    {old new : ExecutionIntentStatus} (hold : database.statusOf id = some old)
    (hnew : ((intentMachine runtime routing).answer op input database).2.statusOf id = some new) :
    new = old ∨ ∃ update, op = .updateMany update ∧ update.id = id ∧
      Commits update input database ∧ (∃ row ∈ database.intents, update.selects row = true) ∧
      (op.target = some new ∨ update.overwrites = some new) := by
  obtain ⟨row, hfound, rfl⟩ := Option.map_eq_some_iff.mp hold
  rcases answer_cases runtime routing op input database with
    hsame | ⟨canonical, -, hinserted, -⟩ | ⟨update, rfl, hcommits, hupdated⟩
  · rw [hsame, hold] at hnew
    exact .inl (Option.some.inj hnew).symm
  · rw [hinserted, Database.statusOf, Database.findUnique, List.find?_append] at hnew
    rw [Database.findUnique] at hfound
    rw [hfound] at hnew
    exact .inl (Option.some.inj hnew).symm
  · rw [hupdated, statusOf_updated, hfound, Option.map_some, Database.rewritten] at hnew
    by_cases hselects : update.selects row = true
    · rw [if_pos hselects] at hnew
      have hmember : row ∈ database.intents := List.mem_of_find?_eq_some hfound
      have hrow : row.id = id := by simpa using List.find?_some hfound
      have hid : update.id = id := by
        simp only [IntentUpdate.selects, Bool.and_eq_true, decide_eq_true_eq] at hselects
        exact hselects.1.symm.trans hrow
      have hwritten := Option.some.inj hnew
      cases update with
      | attachTask | acquireLease | bindImmutableExecutionContext | bindCircleCorrelation =>
          exact .inl hwritten.symm
      | transition edge data completedAt =>
          exact .inr ⟨_, rfl, hid, hcommits, ⟨row, hmember, hselects⟩, .inl (congrArg some hwritten)⟩
      | bindTransactionHash | cancelUnsubmitted =>
          exact .inr ⟨_, rfl, hid, hcommits, ⟨row, hmember, hselects⟩, .inr (congrArg some hwritten)⟩
    · rw [if_neg hselects] at hnew
      exact .inl (Option.some.inj hnew).symm

theorem statusOf_ne_none {before after : Database} (hprogresses : Progresses before after)
    {id : String} (hstatus : before.statusOf id ≠ none) : after.statusOf id ≠ none := by
  obtain ⟨status, hsome⟩ := Option.ne_none_iff_exists'.mp hstatus
  obtain ⟨row, hfound, -⟩ := Option.map_eq_some_iff.mp hsome
  have hid : row.id = id := by simpa using List.find?_some hfound
  obtain ⟨next, hnext, hevolves⟩ := hprogresses.rows row (List.mem_of_find?_eq_some hfound)
  have hafter := statusOf_of_mem hprogresses.unique hnext
  rw [hevolves.id, hid] at hafter
  rw [hafter]
  exact Option.some_ne_none _

/-- The statuses a wallet can be opened from. -/
theorem expected_of_opening (edge : Edge) (hnext : edge.next = AWAITING_WALLET_SIGNATURE) :
    edge.expected = CREATED ∨ edge.expected = FAILED_RETRYABLE := by
  have hallowed := edge.allowed
  rw [hnext] at hallowed
  cases hexpected : edge.expected <;> rw [hexpected] at hallowed <;>
    first | exact .inl rfl | exact .inr rfl | exact absurd hallowed (by decide)

theorem next_ne_created (edge : Edge) : edge.next ≠ CREATED := by
  intro hnext
  have hallowed := edge.allowed
  rw [hnext] at hallowed
  cases hexpected : edge.expected <;> rw [hexpected] at hallowed <;> exact absurd hallowed (by decide)

/-- Opening the wallet finds the intent created or retryable, and leaves it waiting. -/
theorem StepMoves.opening (runtime : Runtime) (routing : PaymentRouting) {id : String}
    {pool : IntentPool} {choice : ℕ × Input} (hunique : UniqueIntents pool.state.intents)
    (hmoves : StepMoves id AWAITING_WALLET_SIGNATURE pool choice) :
    (pool.state.statusOf id = some CREATED ∨ pool.state.statusOf id = some FAILED_RETRYABLE) ∧
      (pool.step (intentMachine runtime routing) choice).state.statusOf id =
        some AWAITING_WALLET_SIGNATURE := by
  obtain ⟨update, hpending, rfl, htarget, hcommits, row, hmember, hselects⟩ := hmoves
  have hfound := find_of_mem hunique hmember
  have hstatus := statusOf_of_mem hunique hmember
  have hrow : row.id = update.id := by
    simp only [IntentUpdate.selects, Bool.and_eq_true, decide_eq_true_eq] at hselects
    exact hselects.1
  rw [hrow] at hfound hstatus
  constructor
  · cases update with
    | transition id edge data completedAt =>
        simp only [IntentUpdate.selects, IntentUpdate.condition, Bool.and_eq_true,
          decide_eq_true_eq] at hselects
        rw [hstatus, hselects.2]
        exact (expected_of_opening edge (Option.some.inj htarget)).imp (congrArg some) (congrArg some)
    | _ => cases htarget
  · rw [Pool.step_state_of_pending hpending, answer_updateMany, if_pos hcommits, statusOf_updated,
      hfound, Option.map_some, Database.rewritten, if_pos hselects, (apply_opened htarget row).1]

/-- From a waiting intent to one that can be opened again a run moves it to
`FAILED_RETRYABLE`. -/
theorem exists_retryable_of_run {id : String} {pool : IntentPool}
    (hunique : UniqueIntents pool.state.intents)
    (hwaiting : pool.state.statusOf id = some AWAITING_WALLET_SIGNATURE)
    {choices : List (ℕ × Input)}
    (hopen : (pool.run (intentMachine runtime routing) choices).state.statusOf id = some CREATED ∨
      (pool.run (intentMachine runtime routing) choices).state.statusOf id =
        some FAILED_RETRYABLE) :
    ∃ first choice rest, choices = first ++ choice :: rest ∧
      StepMoves id FAILED_RETRYABLE (pool.run (intentMachine runtime routing) first) choice := by
  -- The status becomes the later one at some step, and that step is a transition to it.
  have hreached : ∀ status, status = CREATED ∨ status = FAILED_RETRYABLE →
      (pool.run (intentMachine runtime routing) choices).state.statusOf id = some status →
      ∃ first choice rest, choices = first ++ choice :: rest ∧
        StepMoves id status (pool.run (intentMachine runtime routing) first) choice := by
    intro status hstatus hend
    have hstart : pool.state.statusOf id ≠ some status := by
      rw [hwaiting]
      rcases hstatus with rfl | rfl <;> decide
    obtain ⟨first, choice, rest, hchoices, hbefore, hafter⟩ :=
      @Pool.exists_step_of_run _ _ _ _ (intentMachine runtime routing)
        (fun pool : IntentPool => pool.state.statusOf id = some status) choices pool hstart hend
    refine ⟨first, choice, rest, hchoices, ?_⟩
    have hkept := run_progresses runtime routing hunique first
    obtain ⟨old, hold⟩ := Option.ne_none_iff_exists'.mp
      (statusOf_ne_none hkept (by rw [hwaiting]; exact Option.some_ne_none _))
    rcases Pool.step_state choice (pool.run (intentMachine runtime routing) first) with
      hsame | ⟨op, hpending, hanswer⟩
    · rw [hsame] at hafter
      exact absurd hafter hbefore
    · rw [hanswer] at hafter
      rcases answer_statusOf hold hafter with rfl | ⟨update, rfl, hid, hcommits, hrow, htarget | hwrites⟩
      · exact absurd hold hbefore
      · exact ⟨update, hpending, hid, htarget, hcommits, hrow⟩
      · cases update with
        | bindTransactionHash | cancelUnsubmitted =>
            rcases hstatus with rfl | rfl <;> cases hwrites
        | _ => cases hwrites
  rcases hopen with hcreated | hretryable
  · obtain ⟨first, choice, rest, -, update, -, -, htarget, -, -⟩ := hreached _ (.inl rfl) hcreated
    cases update with
    | transition id edge data completedAt =>
        exact absurd (Option.some.inj htarget) (next_ne_created edge)
    | _ => cases htarget
  · exact hreached _ (.inr rfl) hretryable

/-! ## Successful calls -/

/-- The operation that opens the wallet of an intent, when it takes effect. -/
def Opens (id : String) : (op : IntentOp) → op.Res → Prop
  | .updateMany (.transition intentId edge _ _), answer =>
      intentId = id ∧ edge.next = AWAITING_WALLET_SIGNATURE ∧ answer = .ok 1
  | _, _ => False

theorem Opens.stepMoves {id : String} {op : IntentOp} {pool : IntentPool} {choice : ℕ × Input}
    (hpending : pool.pending choice.1 = some op)
    (hopens : Opens id op ((intentMachine runtime routing).answer op choice.2 pool.state).1) :
    StepMoves id AWAITING_WALLET_SIGNATURE pool choice := by
  cases op with
  | updateMany update =>
      cases update with
      | transition intentId edge data completedAt =>
          obtain ⟨hid, hnext, hanswer⟩ := hopens
          obtain ⟨hcommits, hcount⟩ := commits_of_answer runtime routing hanswer
          have hselected := List.countP_pos_iff.mp (Nat.lt_of_lt_of_eq Nat.one_pos hcount.symm)
          exact ⟨_, hpending, hid, congrArg some hnext, hcommits, hselected⟩
      | _ => exact hopens.elim
  | _ => exact hopens.elim

open Service in
theorem transition_opens (id : String) (expected : ExecutionIntentStatus) :
    Passes (S := intentSignature) (Opens id) (transition routing id expected AWAITING_WALLET_SIGNATURE) := by
  unfold transition
  split
  · next hallowed =>
      dsimp only
      apply passes_then
      intro completedAt
      unfold updateMany
      rw [bind_assoc]
      apply passes_perform
      intro answer
      by_cases hone : answer = Except.ok 1
      · exact .inl ⟨rfl, rfl, hone⟩
      · refine .inr ?_
        cases answer with
        | error error => exact passes_throw _
        | ok count =>
            have hcount : count ≠ 1 := fun heq => hone (congrArg Except.ok heq)
            show Passes (S := intentSignature) (Opens id) (if count ≠ 1 then _ else _)
            rw [if_pos hcount]
            apply passes_then
            intro current
            exact passes_first (passes_throw _)
  · exact passes_throw _

open Service in
/-- A call that prepares a wallet signature returns only after it opened the wallet. -/
theorem prepareWalletSignature_opens (id idempotencyKey leaseOwner : String) (ttlMs : ℕ) :
    Passes (S := intentSignature) (Opens id)
      (prepareWalletSignature routing id idempotencyKey leaseOwner ttlMs) := by
  unfold prepareWalletSignature
  apply passes_then
  intro _
  apply passes_then
  intro current
  apply passes_then
  intro _
  apply passes_then
  intro _
  apply passes_then
  intro _
  apply passes_then
  intro _
  apply passes_then
  intro _
  exact transition_opens id current.status

/-- The call asks for the wallet of the intent to be opened. -/
def IntentCall.Prepares (id : String) : IntentCall → Prop
  | prepareWalletSignature intentId _ _ _ => intentId = id
  | postPrepareWallet intentId _ => intentId = id
  | _ => False

theorem IntentCall.Prepares.opens {id : String} {call : IntentCall} (hcall : call.Prepares id) :
    Service.Passes (S := intentSignature) (Opens id) (call.program runtime routing) := by
  cases call with
  | prepareWalletSignature intentId idempotencyKey leaseOwner ttlMs =>
      obtain rfl : intentId = id := hcall
      exact prepareWalletSignature_opens intentId idempotencyKey leaseOwner ttlMs
  | postPrepareWallet intentId body =>
      obtain rfl : intentId = id := hcall
      exact prepareWalletSignature_opens intentId _ _ _
  | _ => exact hcall.elim

/-- The thread has returned without an error. -/
def Succeeded (pool : IntentPool) (thread : ℕ) : Prop :=
  ∃ intent, pool.threads[thread]? = some (.done (.ok intent))

theorem exists_opening {calls : List IntentCall} {database : Database} {thread : ℕ}
    {call : IntentCall} (hcall : calls[thread]? = some call) {id : String}
    (hprepares : call.Prepares id) {choices : List (ℕ × Input)}
    (hsucceeded : Succeeded ((callPool runtime routing calls database).run
      (intentMachine runtime routing) choices) thread) :
    ∃ first choice rest, choices = first ++ choice :: rest ∧ choice.1 = thread ∧
      StepMoves id AWAITING_WALLET_SIGNATURE ((callPool runtime routing calls database).run
        (intentMachine runtime routing) first) choice := by
  obtain ⟨intent, hdone⟩ := hsucceeded
  have hthread : (callPool runtime routing calls database).threads[thread]? =
      some (call.program runtime routing).run := by
    simp [callPool, hcall]
  obtain ⟨first, choice, rest, op, hchoices, hchosen, hpending, hopens⟩ :=
    Pool.exists_mark_of_done hthread hprepares.opens hdone ⟨intent, rfl⟩
  rw [← hchosen] at hpending
  exact ⟨first, choice, rest, hchoices, hchosen, hopens.stepMoves hpending⟩

/-! ## Runs -/

/-- Wallet submission safety of a run of concurrent calls. -/
structure WalletSafe (runtime : Runtime) (routing : PaymentRouting) (calls : List IntentCall)
    (pool : IntentPool) (choices : List (ℕ × Input)) : Prop where
  /-- At no moment an intent waits for a wallet while a hash is bound to it. -/
  unsigned : ∀ first rest, choices = first ++ rest →
    NoneRebroadcast (pool.run (intentMachine runtime routing) first).state
  /-- Of two calls that both opened the wallet of an intent one did so first, and
  before the other one did the intent was moved to `FAILED_RETRYABLE`. -/
  reopened : ∀ id (one other : ℕ) call rival, one ≠ other → calls[one]? = some call →
    calls[other]? = some rival → call.Prepares id → rival.Prepares id →
    Succeeded (pool.run (intentMachine runtime routing) choices) one →
    Succeeded (pool.run (intentMachine runtime routing) choices) other →
    ∃ first opening before moving after reopening last,
      choices = first ++ opening :: (before ++ moving :: after) ++ reopening :: last ∧
      ((opening.1 = one ∧ reopening.1 = other) ∨ (opening.1 = other ∧ reopening.1 = one)) ∧
      StepMoves id AWAITING_WALLET_SIGNATURE
        (pool.run (intentMachine runtime routing) first) opening ∧
      StepMoves id FAILED_RETRYABLE
        (pool.run (intentMachine runtime routing) (first ++ opening :: before)) moving ∧
      StepMoves id AWAITING_WALLET_SIGNATURE
        (pool.run (intentMachine runtime routing)
          (first ++ opening :: (before ++ moving :: after))) reopening

/-- Between two openings of a wallet the intent was moved to `FAILED_RETRYABLE`. -/
theorem exists_retryable_between {id : String} {pool : IntentPool}
    (hunique : UniqueIntents pool.state.intents) {first middle : List (ℕ × Input)}
    {opening reopening : ℕ × Input}
    (hopening : StepMoves id AWAITING_WALLET_SIGNATURE
      (pool.run (intentMachine runtime routing) first) opening)
    (hreopening : StepMoves id AWAITING_WALLET_SIGNATURE
      (pool.run (intentMachine runtime routing) (first ++ opening :: middle)) reopening) :
    ∃ before moving after, middle = before ++ moving :: after ∧
      StepMoves id FAILED_RETRYABLE
        (pool.run (intentMachine runtime routing) (first ++ opening :: before)) moving := by
  have hfirst := (run_progresses runtime routing hunique first).unique
  have hmiddle := (run_progresses runtime routing hunique (first ++ opening :: middle)).unique
  have hopened := (hopening.opening runtime routing hfirst).2
  have hopen := (hreopening.opening runtime routing hmiddle).1
  have hstep : ∀ rest, pool.run (intentMachine runtime routing) (first ++ opening :: rest) =
      ((pool.run (intentMachine runtime routing) first).step (intentMachine runtime routing)
        opening).run (intentMachine runtime routing) rest := by
    intro rest
    rw [Pool.run_append]
    rfl
  rw [hstep] at hopen
  have hnext := (run_progresses runtime routing hfirst [opening]).unique
  obtain ⟨before, moving, after, hsplit, hmoves⟩ := exists_retryable_of_run hnext hopened hopen
  refine ⟨before, moving, after, hsplit, ?_⟩
  rwa [hstep]

theorem callPool_reopened {calls : List IntentCall} {database : Database}
    (hunique : UniqueIntents database.intents) {choices : List (ℕ × Input)} {id : String}
    {one other : ℕ} {call rival : IntentCall} (hne : one ≠ other) (hone : calls[one]? = some call)
    (hother : calls[other]? = some rival) (hcall : call.Prepares id) (hrival : rival.Prepares id)
    (hsucceeded : Succeeded ((callPool runtime routing calls database).run
      (intentMachine runtime routing) choices) one)
    (hrivalSucceeded : Succeeded ((callPool runtime routing calls database).run
      (intentMachine runtime routing) choices) other) :
    ∃ first opening before moving after reopening last,
      choices = first ++ opening :: (before ++ moving :: after) ++ reopening :: last ∧
      ((opening.1 = one ∧ reopening.1 = other) ∨ (opening.1 = other ∧ reopening.1 = one)) ∧
      StepMoves id AWAITING_WALLET_SIGNATURE ((callPool runtime routing calls database).run
        (intentMachine runtime routing) first) opening ∧
      StepMoves id FAILED_RETRYABLE ((callPool runtime routing calls database).run
        (intentMachine runtime routing) (first ++ opening :: before)) moving ∧
      StepMoves id AWAITING_WALLET_SIGNATURE ((callPool runtime routing calls database).run
        (intentMachine runtime routing) (first ++ opening :: (before ++ moving :: after)))
          reopening := by
  obtain ⟨first, opening, rest, hfirst, hopening, hopens⟩ := exists_opening hone hcall hsucceeded
  obtain ⟨second, reopening, last, hsecond, hreopening, hreopens⟩ :=
    exists_opening hother hrival hrivalSucceeded
  rcases Nat.lt_trichotomy first.length second.length with hlt | heq | hlt
  · obtain ⟨middle, hchoices, rfl⟩ := exists_between hfirst hsecond hlt
    obtain ⟨before, moving, after, rfl, hmoves⟩ := exists_retryable_between hunique hopens hreopens
    exact ⟨first, opening, before, moving, after, reopening, last, hchoices,
      .inl ⟨hopening, hreopening⟩, hopens, hmoves, hreopens⟩
  · -- One step is taken by one thread.
    have hsame := hfirst.symm.trans hsecond
    have hstep := (List.cons.inj (List.append_inj hsame heq).2).1
    exact absurd (hopening.symm.trans ((congrArg Prod.fst hstep).trans hreopening)) hne
  · obtain ⟨middle, hchoices, rfl⟩ := exists_between hsecond hfirst hlt
    obtain ⟨before, moving, after, rfl, hmoves⟩ := exists_retryable_between hunique hreopens hopens
    exact ⟨second, reopening, before, moving, after, opening, rest, hchoices,
      .inr ⟨hreopening, hopening⟩, hreopens, hmoves, hopens⟩

/-- A run of concurrent calls is safe for wallet submissions if and only if none
of its steps opens the wallet of an intent that has a hash by then. -/
theorem wallet_submission_safe_iff (runtime : Runtime) (routing : PaymentRouting)
    (calls : List IntentCall) (invoices : List Invoice) (choices : List (ℕ × Input)) :
    let pool := callPool runtime routing calls ⟨[], invoices⟩
    WalletSafe runtime routing calls pool choices ↔
      Pool.Along (intentMachine runtime routing) (Pool.Guaranteed OpensUnsigned) choices pool := by
  intro pool
  have hempty : UniqueIntents pool.state.intents := List.Pairwise.nil
  have hnone : NoneRebroadcast pool.state := fun row hmember => nomatch hmember
  rw [Pool.along_guaranteed_iff (opensUnsigned_iff runtime routing) hnone]
  constructor
  · exact WalletSafe.unsigned
  · intro hunsigned
    refine ⟨hunsigned, ?_⟩
    intro id one other call rival hne hone hother hcall hrival hsucceeded hrivalSucceeded
    exact callPool_reopened hempty hne hone hother hcall hrival hsucceeded hrivalSucceeded

/-! ## A hash under a prepared wallet -/

/-- A second submitter prepares the wallet while the first one's hash comes in:
the intent is retryable when the second one reads it and when it writes. -/
def exampleRetry : List IntentCall := [
  .postAcquire exampleSend,
  .postPrepareWallet "intent-1" (.object [
    ("idempotencyKey", .string "4c4fed01-cc08-5f3e-9415-22aaf27433af"),
    ("leaseOwner", .string "tab-1")]),
  .transition "intent-1" AWAITING_WALLET_SIGNATURE FAILED_RETRYABLE {},
  .postPrepareWallet "intent-1" (.object [
    ("idempotencyKey", .string "4c4fed01-cc08-5f3e-9415-22aaf27433af"),
    ("leaseOwner", .string "tab-2")]),
  .postRecoverHash 2 "intent-1" (.object [
    ("idempotencyKey", .string "4c4fed01-cc08-5f3e-9415-22aaf27433af"),
    ("transactionHash",
      .string "0x3333333333333333333333333333333333333333333333333333333333333333")]),
  .transition "intent-1" SUBMITTED FAILED_RETRYABLE {}]

theorem hash_bound_while_awaiting :
    let pool := callPool exampleRuntime arcMainnet exampleRetry ⟨[], []⟩
    let choices := ([0, 1, 1, 1, 1, 1, 1, 1].map fun thread => (thread, exampleAcquired)) ++
      ([2, 2, 3, 3, 3, 3, 3, 4, 4, 4, 4, 4, 5, 5, 3, 3].map fun thread => (thread, exampleLater))
    ∃ row ∈ (pool.run (intentMachine exampleRuntime arcMainnet) choices).state.intents,
      row.status = AWAITING_WALLET_SIGNATURE ∧ row.transactionHash ≠ none := by
  decide +kernel

end WizPay.Intents
