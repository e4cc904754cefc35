import Mathlib.Data.List.Induction
import WizPay.Intents.Completion
import WizPay.Intents.Terminal

/-!
# Sound completions

Along any run of concurrent calls a completed intent is one that was being
verified when a receipt agreeing with it was presented. A transition requested
directly is outside of this: the method itself asks for no evidence, and only
`completeWithVerifiedReceipt` requests the one to `COMPLETED`.
-/

namespace WizPay.Intents

open Foundation Backend ExecutionIntentStatus

/-- A receipt that a call presents for an intent. -/
def IntentCall.Presents : IntentCall → String → VerifiedExecutionReceipt → Prop
  | completeWithVerifiedReceipt id receipt, intentId, presented =>
      id = intentId ∧ receipt = presented
  | postVerify receipts id _, intentId, presented =>
      id = intentId ∧ ∃ claim, receipts claim = .ok presented
  | _, _, _ => False

/-- A direct request for the transition to `COMPLETED`. -/
def IntentCall.completesDirectly : IntentCall → Bool
  | transition _ _ target _ => target = COMPLETED
  | _ => false

variable {runtime : Runtime} {routing : PaymentRouting}
  {presented : String → VerifiedExecutionReceipt → Prop}

/-! ## Calls -/

open Service in
theorem verify_completes {receipts : DirectTransferVerifier} {id : String}
    (hpresented : ∀ claim receipt, receipts claim = .ok receipt → presented id receipt)
    (body : Json) (state : Database) :
    Meets (intentMachine runtime routing) Progresses (CompletesAgreed presented) (fun _ _ => True)
      (ExecutionIntentController.verify runtime routing receipts id body) state := by
  have haccess : Performs (MovesTo []) (discard (assertAccess routing id
      (stringField body "idempotencyKey")) : IntentService Unit) :=
    performs_discard (assertAccess_movesTo id _)
  have hbegin : Performs (MovesTo [SUBMISSION_PENDING, SUBMITTED, VERIFYING])
      (beginVerification routing id) := beginVerification_movesTo id (List.Subset.refl _)
  refine meets_then progresses_isRely
    (meets_of_performs (completesAgreed_of_movesTo (by decide)) haccess state) fun _ state => ?_
  refine meets_then progresses_isRely
    (meets_of_performs (completesAgreed_of_movesTo (by decide)) hbegin state) fun intent state => ?_
  split
  · next hash recipient _ _ =>
      refine meets_then progresses_isRely (meets_throwIf fun _ _ _ => trivial) fun _ state => ?_
      refine meets_bind progresses_isRely
        (meets_ofExcept fun receipt hreceipt _ _ => hpresented _ receipt hreceipt) ?_
      exact fun receipt state hreceipt => completeWithVerifiedReceipt_completes hreceipt state
  · exact meets_throw _

theorem IntentCall.completes {call : IntentCall} (hcall : call.completesDirectly = false)
    (hpresents : ∀ id receipt, call.Presents id receipt → presented id receipt)
    (state : Database) :
    Service.Meets (intentMachine runtime routing) Progresses (CompletesAgreed presented)
      (fun _ _ => True) (call.program runtime routing) state := by
  cases hkind : call with
  | completeWithVerifiedReceipt id receipt =>
      subst hkind
      exact completeWithVerifiedReceipt_completes (hpresents id receipt ⟨rfl, rfl⟩) state
  | postVerify receipts id body =>
      subst hkind
      exact verify_completes (fun claim receipt hreceipt =>
        hpresents id receipt ⟨rfl, claim, hreceipt⟩) body state
  | _ =>
      rw [← hkind]
      refine Service.meets_of_performs (completesAgreed_of_movesTo ?_)
        (call.movesTo runtime routing) state
      subst hkind
      simp_all [targets, completesDirectly, eq_comm]

/-! ## One operation -/

/-- A row that is completed after an operation was completed before, or was being
verified and a receipt agreeing with it had been presented. -/
theorem answer_completed {op : IntentOp} {input : Input} {database : Database}
    (hunique : UniqueIntents database.intents) (hguar : CompletesAgreed presented op input database)
    {row : ExecutionIntent}
    (hmember : row ∈ ((intentMachine runtime routing).answer op input database).2.intents)
    (hcompleted : row.status = COMPLETED) :
    ∃ before ∈ database.intents, Evolves before row ∧ (before.status = COMPLETED ∨
      before.status = VERIFYING ∧
        ∃ receipt, presented row.id receipt ∧ ReceiptAgrees before receipt) := by
  rcases answer_cases runtime routing op input database with
    hsame | ⟨canonical, -, hinserted, -⟩ | ⟨update, rfl, -, hupdated⟩
  · rw [hsame] at hmember
    exact ⟨row, hmember, .refl row, .inl hcompleted⟩
  · rw [hinserted, List.mem_append] at hmember
    rcases hmember with hold | hnew
    · exact ⟨row, hold, .refl row, .inl hcompleted⟩
    · rw [List.mem_singleton.mp hnew] at hcompleted
      cases hcompleted
  · rw [hupdated] at hmember
    obtain ⟨before, hbefore, hrow⟩ := List.mem_map.mp hmember
    refine ⟨before, hbefore, ?_⟩
    by_cases hselects : update.selects before = true
    · rw [if_pos hselects] at hrow
      subst hrow
      refine ⟨apply_evolves hselects, ?_⟩
      cases update with
      | transition id edge data completedAt =>
          have hnext : edge.next = COMPLETED := hcompleted
          obtain ⟨agreed, hagreed, hid, receipt, hpresented, hagrees⟩ :=
            hguar _ rfl (congrArg some hnext)
          simp only [IntentUpdate.selects, IntentUpdate.condition, Bool.and_eq_true,
            decide_eq_true_eq] at hselects
          have hexpected : edge.expected = VERIFYING := by
            have hallowed := edge.allowed
            rw [hnext] at hallowed
            cases hedge : edge.expected <;> rw [hedge] at hallowed <;>
              first | rfl | exact absurd hallowed (by decide)
          rw [row_unique_id hunique hagreed hbefore (hid.trans hselects.1.symm)] at hagrees
          refine .inr ⟨hselects.2.trans hexpected, receipt, ?_, hagrees⟩
          rw [IntentUpdate.apply_id, hselects.1]
          exact hpresented
      | bindTransactionHash | cancelUnsubmitted => cases hcompleted
      | attachTask | acquireLease | bindImmutableExecutionContext | bindCircleCorrelation =>
          exact .inl hcompleted
    · rw [if_neg hselects] at hrow
      subst hrow
      exact ⟨.refl before, .inl hcompleted⟩

/-! ## Runs -/

/-- A completed row was being verified at some earlier moment of the run, when a
receipt agreed with it. -/
theorem run_completed {pool : IntentPool} (hunique : UniqueIntents pool.state.intents)
    (hstart : ∀ row ∈ pool.state.intents, row.status ≠ COMPLETED) (choices : List (ℕ × Input))
    (halong : Pool.Along (intentMachine runtime routing)
      (Pool.Guaranteed (CompletesAgreed presented)) choices pool)
    {row : ExecutionIntent}
    (hmember : row ∈ (pool.run (intentMachine runtime routing) choices).state.intents)
    (hcompleted : row.status = COMPLETED) :
    ∃ first rest, choices = first ++ rest ∧
      ∃ before ∈ (pool.run (intentMachine runtime routing) first).state.intents,
        Evolves before row ∧ before.status = VERIFYING ∧
          ∃ receipt, presented row.id receipt ∧ ReceiptAgrees before receipt := by
  induction choices using List.reverseRecOn generalizing row with
  | nil => exact absurd hcompleted (hstart row hmember)
  | append_singleton choices choice ih =>
      rw [Pool.along_append] at halong
      have hmiddle := (run_progresses runtime routing hunique choices).unique
      rw [Pool.run_append] at hmember
      have hearlier : ∃ before ∈ (pool.run (intentMachine runtime routing) choices).state.intents,
          Evolves before row ∧ (before.status = COMPLETED ∨ before.status = VERIFYING ∧
            ∃ receipt, presented row.id receipt ∧ ReceiptAgrees before receipt) := by
        rcases Pool.step_state choice (pool.run (intentMachine runtime routing) choices) with
          hsame | ⟨op, hpending, hanswer⟩
        · rw [Pool.run, Pool.run, hsame] at hmember
          exact ⟨row, hmember, .refl row, .inl hcompleted⟩
        · rw [Pool.run, Pool.run, hanswer] at hmember
          exact answer_completed hmiddle (halong.2.1 op hpending) hmember hcompleted
      obtain ⟨before, hbefore, hevolves, hstatus | ⟨hverifying, receipt, hpresented, hagrees⟩⟩ :=
        hearlier
      · obtain ⟨first, rest, rfl, earlier, hearlier, hearly, hstatus, receipt, hpresented,
          hagrees⟩ := ih halong.1 hbefore hstatus
        refine ⟨first, rest ++ [choice], List.append_assoc _ _ _, earlier, hearlier,
          hearly.trans hevolves, hstatus, receipt, ?_, hagrees⟩
        rwa [hevolves.id]
      · exact ⟨choices, [choice], rfl, before, hbefore, hevolves, hverifying, receipt, hpresented,
          hagrees⟩

theorem callPool_meets {calls : List IntentCall}
    (hcallers : ∀ call ∈ calls, call.completesDirectly = false)
    (hpresents : ∀ call ∈ calls, ∀ id receipt, call.Presents id receipt → presented id receipt)
    (database : Database) :
    (callPool runtime routing calls database).Meets (intentMachine runtime routing) Progresses
      (CompletesAgreed presented) := by
  intro program hprogram
  obtain ⟨call, hmember, rfl⟩ := List.mem_map.mp hprogram
  exact (IntentCall.completes (hcallers call hmember) (hpresents call hmember) database).mono
    fun _ _ _ => trivial

/-- How a completed intent came to be, and what holds of it for good. -/
structure CompletedBy (runtime : Runtime) (routing : PaymentRouting) (pool : IntentPool)
    (choices : List (ℕ × Input)) (row : ExecutionIntent) (receipt : VerifiedExecutionReceipt)
    (hash : String) : Prop where
  bound : row.transactionHash = some hash
  agrees : ReceiptAgrees row receipt
  /-- The hash was bound before the intent was completed. -/
  boundBefore : ∃ first rest, choices = first ++ rest ∧
    ∃ before ∈ (pool.run (intentMachine runtime routing) first).state.intents,
      before.id = row.id ∧ before.status = VERIFYING ∧ before.transactionHash = some hash
  /-- The request is what it was at every earlier moment, and no other intent held the hash. -/
  earlier : ∀ first rest, choices = first ++ rest →
    ∀ other ∈ (pool.run (intentMachine runtime routing) first).state.intents,
      (other.id = row.id → other.request = row.request) ∧
        (other.transactionHash = some hash → other.id = row.id)
  /-- The intent stays completed with its hash, and no other intent gets that hash. -/
  later : ∀ rest,
    (∃ kept ∈ (pool.run (intentMachine runtime routing) (choices ++ rest)).state.intents,
      kept.id = row.id) ∧
    ∀ other ∈ (pool.run (intentMachine runtime routing) (choices ++ rest)).state.intents,
      (other.id = row.id → other.status = COMPLETED ∧ other.transactionHash = some hash ∧
        other.request = row.request) ∧
        (other.transactionHash = some hash → other.id = row.id)

/-- In every run of concurrent calls, none of which requests the transition to
`COMPLETED` itself, an intent is completed only on a receipt that some call
presented for it and that agrees with its request; its hash was bound before,
stays, and belongs to no other intent at any moment. -/
theorem completed_intent_sound (runtime : Runtime) (routing : PaymentRouting)
    (calls : List IntentCall) (hcallers : ∀ call ∈ calls, call.completesDirectly = false)
    (invoices : List Invoice) (choices : List (ℕ × Input)) :
    let pool := callPool runtime routing calls ⟨[], invoices⟩
    ∀ row ∈ (pool.run (intentMachine runtime routing) choices).state.intents,
      row.status = COMPLETED → ∃ receipt hash,
        (∃ call ∈ calls, call.Presents row.id receipt) ∧
          CompletedBy runtime routing pool choices row receipt hash := by
  intro pool row hmember hcompleted
  have hempty : UniqueIntents pool.state.intents := List.Pairwise.nil
  have hmeets : pool.Meets (intentMachine runtime routing) Progresses
      (CompletesAgreed fun id receipt => ∃ call ∈ calls, call.Presents id receipt) :=
    callPool_meets hcallers (fun call hcall id receipt hpresents => ⟨call, hcall, hpresents⟩) _
  obtain ⟨-, -, halong⟩ := hmeets.run progresses_isRely answer_relies (progresses_refl hempty) choices
  obtain ⟨first, rest, hchoices, before, hbefore, hevolves, hverifying, receipt, hpresented,
    hagrees⟩ := run_completed hempty (by simp [pool, callPool]) choices halong hmember hcompleted
  have hunique := (run_progresses runtime routing hempty choices).unique
  have hrow := hagrees.evolves hevolves
  refine ⟨receipt, _, hpresented, hrow.transactionHash, hrow,
    ⟨first, rest, hchoices, before, hbefore, hevolves.id.symm, hverifying, hagrees.transactionHash⟩,
    ?_, ?_⟩
  · rintro first rest rfl other hother
    have hfirst := (run_progresses runtime routing hempty first).unique
    have hlater := run_progresses runtime routing hfirst rest
    rw [← Pool.run_append] at hlater
    obtain ⟨next, hnext, hother⟩ := hlater.rows other hother
    constructor
    · intro hid
      rw [← row_unique_id hunique hnext hmember (hother.id.trans hid)]
      exact hother.request.symm
    · intro hhash
      rw [← row_unique_hash hunique hnext hmember (hother.transactionHash _ hhash)
        hrow.transactionHash]
      exact hother.id.symm
  · intro rest
    have hlater := run_progresses runtime routing hunique rest
    rw [← Pool.run_append] at hlater
    obtain ⟨kept, hkept, hrest⟩ := hlater.rows row hmember
    have hhash := hrest.transactionHash _ hrow.transactionHash
    refine ⟨⟨kept, hkept, hrest.id⟩, fun other hother => ⟨?_, ?_⟩⟩
    · intro hid
      rw [row_unique_id hlater.unique hother hkept (hid.trans hrest.id.symm)]
      refine ⟨hrest.completed hcompleted ?_, hhash, hrest.request⟩
      rw [hrow.transactionHash]
      exact Option.some_ne_none _
    · intro hother'
      rw [row_unique_hash hlater.unique hother hkept hother' hhash]
      exact hrest.id

/-- One payment of `exampleSend`, submitted, verified and completed. -/
def exampleSettlement : List IntentCall := [
  .postAcquire exampleSend,
  .postTransactionHash 2 "intent-1" (.object [
    ("idempotencyKey", .string "4c4fed01-cc08-5f3e-9415-22aaf27433af"),
    ("transactionHash",
      .string "0x3333333333333333333333333333333333333333333333333333333333333333")]),
  .beginVerification "intent-1",
  .completeWithVerifiedReceipt "intent-1" {
    network := "arc-mainnet"
    transactionHash := "0x3333333333333333333333333333333333333333333333333333333333333333"
    sourceWallet := "0x1111111111111111111111111111111111111111"
    token := "0x3600000000000000000000000000000000000000"
    recipient := some "0x2222222222222222222222222222222222222222"
    batchDigest := none
    amountUnits := "1000000" }]

theorem completed_intent_sound_settlement :
    let pool := callPool exampleRuntime arcMainnet exampleSettlement ⟨[], []⟩
    let choices := [0, 1, 1, 1, 1, 2, 2, 2, 3, 3, 3, 3].map fun thread => (thread, exampleAcquired)
    (pool.run (intentMachine exampleRuntime arcMainnet) choices).state.statusOf "intent-1" =
        some COMPLETED ∧
      ∀ row ∈ (pool.run (intentMachine exampleRuntime arcMainnet) choices).state.intents,
        row.status = COMPLETED → ∃ receipt hash,
          (∃ call ∈ exampleSettlement, call.Presents row.id receipt) ∧
            CompletedBy exampleRuntime arcMainnet pool choices row receipt hash := by
  have hcallers : ∀ call ∈ exampleSettlement, call.completesDirectly = false := by
    simp only [exampleSettlement, List.forall_mem_cons]
    exact ⟨rfl, rfl, rfl, rfl, fun _ hnone => nomatch hnone⟩
  refine ⟨?_, completed_intent_sound exampleRuntime arcMainnet exampleSettlement hcallers [] _⟩
  decide +kernel

/-- Requested step by step, the transitions complete the intent without any hash. -/
theorem direct_transitions_complete :
    let calls := [.postAcquire exampleSend,
      .transition "intent-1" CREATED SUBMISSION_PENDING {},
      .transition "intent-1" SUBMISSION_PENDING SUBMITTED {},
      .transition "intent-1" SUBMITTED VERIFYING {},
      .transition "intent-1" VERIFYING COMPLETED {}]
    let pool := callPool exampleRuntime arcMainnet calls ⟨[], []⟩
    let choices := [0, 1, 2, 3, 4, 4].map fun thread => (thread, exampleAcquired)
    ∃ row ∈ (pool.run (intentMachine exampleRuntime arcMainnet) choices).state.intents,
      row.status = COMPLETED ∧ row.transactionHash = none := by
  decide +kernel

end WizPay.Intents
