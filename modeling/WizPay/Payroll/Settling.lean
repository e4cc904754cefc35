import WizPay.Foundation.Windows
import WizPay.Payroll.Admission
import WizPay.Payroll.Paid

/-!
# Settling a paid batch

Resubmissions of a payroll reconcile its intents with the chain, among the other methods of
the intents. The intent of a paid batch only moves ahead, and no unit is reported failed for
its transaction.
-/

namespace WizPay.Payroll

open Foundation Backend Evm PayrollMainnet Intents ExecutionIntentStatus

variable {Hash Body Calldata : Type} {runtime : Runtime}
  {routing : PaymentRouting} {network : PayrollNetwork Hash Body Calldata}
  {payment : Payment Body Calldata} {state : PayrollState} {intent : ExecutionIntent}
  {task : Task} {unit : TaskUnit} {batch : PayrollBatch}

open Service

/-! ## Reports -/

theorem reportUnit_keeps {taskId unitId : String} {report : ReportTaskUnitInput}
    (hreport : report.succeeded = false → report.txHash ≠ some payment.intent.transactionHash) :
    Keeps runtime routing network payment (fun _ _ => True) (reportUnit taskId unitId report)
      state := by
  have hperform : Keeps runtime routing network payment (fun outcome _ => ∃ answer,
      outcome = .ok answer ∧ True)
      (perform (S := payrollSignature Body Calldata) (.reportUnit taskId unitId report)) state :=
    perform_keeps (.reportUnit taskId unitId report) (fun _ => True)
      fun _ _ _ => ⟨hreport, trivial⟩
  refine ends_bind settlesPayment_isRely hperform (fun _ _ _ _ _ => trivial) ?_
  intro answer later _
  split
  · exact ends_pure fun _ _ => trivial
  · exact ends_throw fun _ _ => trivial
  · exact ends_throw fun _ _ => trivial

/-- A success of the transaction is reported. -/
theorem reportUnit_succeeds {taskId unitId : String} :
    Keeps runtime routing network payment (fun outcome _ => ∃ result, outcome = .ok result)
      (reportUnit taskId unitId ⟨true, some payment.intent.transactionHash, none⟩) state := by
  have hperform : Keeps runtime routing network payment (fun outcome _ => ∃ answer,
      outcome = .ok answer ∧
        Except.isOk (answer : Except TransactionError ReportTaskUnitResult) = true)
      (perform (S := payrollSignature Body Calldata)
        (.reportUnit taskId unitId ⟨true, some payment.intent.transactionHash, none⟩)) state :=
    perform_keeps (.reportUnit taskId unitId ⟨true, some payment.intent.transactionHash, none⟩)
      (fun answer : Except TransactionError ReportTaskUnitResult => Except.isOk answer = true)
      fun _ _ htruthful => ⟨Bool.noConfusion, htruthful rfl rfl⟩
  refine ends_bind_ok settlesPayment_isRely hperform fun answer later hanswered => ?_
  cases answer with
  | error error => cases hanswered
  | ok result => exact ends_pure fun _ _ => ⟨result, rfl⟩

/-! ## The intent itself -/

/-- What is verified for the intent as it was read is what is verified for the intent. -/
theorem receiptInput_of_identity (hidentity : intent.identity = payment.intent.identity)
    (transactionHash batchDigest : String) (batch : PayrollBatch) :
    receiptInput intent transactionHash batchDigest batch =
      receiptInput payment.intent transactionHash batchDigest batch := by
  simp only [ExecutionIntent.identity, IntentIdentity.mk.injEq] at hidentity
  obtain ⟨-, -, -, hsource, -, -, -, htoken, hamount, hreference, -⟩ := hidentity
  simp only [receiptInput, hsource, htoken, hamount, hreference]

theorem nonempty_of_isDigestText {digest : String} (hdigest : isDigestText digest = true) :
    nonempty (some digest) = some digest := by
  have hne : digest ≠ "" := by
    rintro rfl
    exact absurd hdigest (by decide)
  simp [nonempty, hne]

variable [DecidableEq Hash]

/-- What goes wrong while a paid batch is settled is retryable, or it is settled already. -/
def LeavesOpen (payment : Payment Body Calldata) (intent : ExecutionIntent) (error : ServiceError)
    (state : PayrollState) : Prop :=
  retryable error = true ∨
    intent.status = VERIFYING ∧ Reached payment.intent COMPLETED state.database

theorem settleIntent_keeps (hbound : payment.Bound routing network)
    (hpays : payment.PaysBatch runtime network batch)
    (hsnapshot : Snapshot payment.intent intent state.database)
    (hverifying : intent.status ∈ VERIFYING.ahead) :
    Keeps runtime routing network payment
      (fun outcome later => ∀ error, outcome = .error error → LeavesOpen payment intent error later)
      (settleIntent runtime routing network task unit batch intent payment.transactionHash)
      state := by
  obtain ⟨contract, parties, verified, hpays⟩ := hpays
  have hdigest : nonempty intent.batchDigest = some payment.batchDigest := by
    have hstored : intent.batchDigest = payment.intent.batchDigest :=
      congrArg IntentIdentity.batchDigest hsnapshot.identity
    have hformed := hpays.wellFormed
    simp only [wellFormedInput, Bool.and_eq_true, Bool.not_eq_true', Bool.or_eq_false_iff,
      Bool.not_eq_false'] at hformed
    rw [hstored, hbound.digest]
    exact nonempty_of_isDigestText hformed.2.1.2
  have hinput := receiptInput_of_identity hsnapshot.identity payment.transactionHash
    payment.batchDigest batch
  have hid := identity_id hsnapshot.identity
  unfold settleIntent
  rw [hdigest]
  dsimp only
  have hverify : Keeps runtime routing network payment
      (fun outcome later => Verified runtime network payment
          (receiptInput payment.intent payment.transactionHash payment.batchDigest batch) parties
          verified outcome ∧
        ∃ next ∈ intent.status.ahead, Reached payment.intent next later.database)
      (verify runtime network (receiptInput intent payment.transactionHash payment.batchDigest
        batch)) state := by
    rw [hinput]
    exact (verify_keeps hpays rfl).framed hsnapshot.ahead
  refine ends_bind settlesPayment_isRely hverify ?_ ?_
  · rintro error later last ⟨hverified, -⟩ - thrown hthrown
    obtain rfl := Except.error.inj hthrown
    obtain ⟨_, _, hnone⟩ | ⟨_, herror, hretryable⟩ := hverified
    · cases hnone
    · obtain rfl := Except.error.inj herror
      exact .inl hretryable
  · rintro value later ⟨hverified, next, hahead, hnext⟩
    obtain ⟨blockNumber, confirmations, hvalue⟩ | ⟨_, hnone, _⟩ := hverified
    swap
    · cases hnone
    obtain rfl := Except.ok.inj hvalue
    have hagrees := hpays.agrees hbound.network hbound.hash hbound.digest hbound.recipient
      blockNumber confirmations
    have hcomplete : Keeps runtime routing network payment
        (fun outcome last => Reached payment.intent COMPLETED last.database ∧
          (next = COMPLETED → ∃ value, outcome = .ok value))
        (discard <| completing (completeWithVerifiedReceipt runtime routing intent.id
          (evidence runtime network
            (receiptInput payment.intent payment.transactionHash payment.batchDigest batch)
            parties verified payment.transaction.hash payment.batchDigest blockNumber
            confirmations).toVerifiedExecutionReceipt)) later := by
      rw [hid]
      refine ends_discard settlesPayment_isRely (completing_keeps
        (completeWithVerifiedReceipt_completes_paid hbound.selected hpays.hex hagrees hnext
          (ahead_trans hverifying hahead))) ?_ ?_
      · rintro error last final ⟨hdone, hcompleted⟩ hlater
        refine ⟨hdone.completed hlater, fun hnow => ?_⟩
        obtain ⟨_, hnone⟩ := hcompleted hnow
        cases hnone
      · rintro value last final ⟨hdone, -⟩ hlater
        exact ⟨hdone.completed hlater, fun _ => ⟨(), rfl⟩⟩
    refine ends_bind settlesPayment_isRely hcomplete ?_ ?_
    · rintro error last final ⟨hdone, hcompleted⟩ hlater thrown -
      refine .inr ⟨?_, hdone.completed hlater⟩
      have hnot : intent.status ≠ COMPLETED := by
        intro hstatus
        rw [hstatus] at hahead
        obtain ⟨_, hnone⟩ := hcompleted (eq_completed_of_ahead hahead)
        cases hnone
      revert hverifying hnot
      cases intent.status <;> decide
    · intro _ last _
      rw [hsnapshot.hash]
      refine ends_discard settlesPayment_isRely reportUnit_succeeds ?_ ?_
      · rintro error last final ⟨result, hnone⟩
        cases hnone
      · intro value last final _ _ error hnone
        cases hnone

omit [DecidableEq Hash] in
/-- What is retryable is not reported, and what is settled already cannot be failed. -/
theorem failIntent_keeps (hbound : payment.Bound routing network) {error : ServiceError}
    (hid : intent.id = payment.intent.id) (hopen : LeavesOpen payment intent error state) :
    Keeps runtime routing network payment (fun _ _ => True)
      (failIntent routing task unit intent error) state := by
  unfold failIntent
  split
  · exact ends_pure fun _ _ => trivial
  · next hfinal =>
      obtain hretryable | ⟨hverifying, hdone⟩ := hopen
      · exact absurd hretryable hfinal
      · rw [if_pos hverifying, hid]
        have hfails : Keeps runtime routing network payment
            (fun outcome _ => ∃ error, outcome = .error error)
            (discard <| intents (transition routing payment.intent.id VERIFYING FAILED_FINAL) :
              PayrollService Body Calldata Unit) state := by
          refine ends_discard settlesPayment_isRely
            (intents_keeps (transition_fails_late hbound.ne_none hdone)) ?_ ?_
          · exact fun error _ _ _ _ => ⟨error, rfl⟩
          · rintro value later last ⟨error, hnone⟩
            cases hnone
        refine ends_bind settlesPayment_isRely hfails (fun _ _ _ _ _ => trivial) ?_
        rintro value later ⟨error, hnone⟩
        cases hnone

theorem verifyIntent_keeps (hbound : payment.Bound routing network)
    (hpays : payment.PaysBatch runtime network batch)
    (hsnapshot : Snapshot payment.intent intent state.database)
    (hstatus : intent.status ∈ [SUBMITTED, VERIFYING]) :
    Keeps runtime routing network payment (fun _ _ => True)
      (verifyIntent runtime routing network task unit batch intent payment.transactionHash)
      state := by
  have hsettle : ∀ (begun : ExecutionIntent) (later : PayrollState)
      (rest : Except ServiceError Unit → PayrollService Body Calldata Unit),
      (∀ error, rest (.error error) = failIntent routing task unit begun error) →
        rest (.ok ()) = pure () → begun.status ∈ VERIFYING.ahead →
          Snapshot payment.intent begun later.database →
            Keeps runtime routing network payment (fun _ _ => True)
              ((settleIntent runtime routing network task unit batch begun
                payment.transactionHash).attempt >>= rest) later := by
    intro begun later rest hfails hsettles hverifying hbegan
    refine ends_attempt_bind settlesPayment_isRely
      (settleIntent_keeps hbound hpays hbegan hverifying) ?_
    intro settled last hsettled
    cases settled with
    | error error =>
        rw [hfails]
        exact failIntent_keeps hbound (identity_id hbegan.identity) (hsettled error rfl)
    | ok value =>
        rw [hsettles]
        exact ends_pure fun _ _ => trivial
  unfold verifyIntent
  dsimp only
  split
  · obtain ⟨status, -, hreached⟩ := hsnapshot.ahead
    have hbegins : Keeps runtime routing network payment
        (fun outcome later => ∃ begun, outcome = .ok begun ∧
          begun.status ∈ VERIFYING.ahead ∧ Snapshot payment.intent begun later.database)
        (intents (beginVerification routing intent.id)) state := by
      rw [identity_id hsnapshot.identity]
      exact intents_keeps (beginVerification_begins hbound.selected hreached)
    refine ends_attempt_bind settlesPayment_isRely hbegins ?_
    rintro _ later ⟨begun, rfl, hverifying, hbegan⟩
    exact hsettle begun later _ (fun _ => rfl) rfl hverifying hbegan
  · next hnot =>
      refine hsettle intent state _ (fun _ => rfl) rfl ?_ hsnapshot
      revert hstatus hnot
      cases intent.status <;> decide

/-! ## Other intents -/

omit [DecidableEq Hash] in
theorem intents_avoid {α : Type} {post : α → Prop} {service : IntentService α}
    (hservice : Avoids runtime routing payment.intent (Begins runtime routing payment.intent) post
      service state.database) :
    Keeps runtime routing network payment (fun outcome _ => ∀ value, outcome = .ok value →
      post value) (intents service) state :=
  intents_keeps (.of_expects hservice)

omit [DecidableEq Hash] in
theorem failIntent_avoids (hbound : payment.Bound routing network) {error : ServiceError}
    (hother : OtherIntent payment.intent intent) :
    Keeps runtime routing network payment (fun _ _ => True)
      (failIntent routing task unit intent error) state := by
  have hreport : ∀ state, Keeps runtime routing network payment (fun _ _ => True)
      (discard <| reportUnit task.id unit.id
        ⟨false, some intent.transactionHash, some (some (errorMessage error))⟩ :
        PayrollService Body Calldata Unit) state := by
    intro state
    refine ends_discard settlesPayment_isRely (reportUnit_keeps fun _ hsame => ?_)
      (fun _ _ _ _ _ => trivial) (fun _ _ _ _ _ => trivial)
    exact hother.hash (Option.some.inj hsame)
  unfold failIntent
  split
  · exact ends_pure fun _ _ => trivial
  · split
    · have hmoved : Keeps runtime routing network payment (fun _ _ => True)
          (discard <| intents (transition routing intent.id VERIFYING FAILED_FINAL) :
            PayrollService Body Calldata Unit) state :=
        ends_discard settlesPayment_isRely (intents_avoid
          (transition_avoids hbound.ne_none hother.id VERIFYING FAILED_FINAL state.database))
          (fun _ _ _ _ _ => trivial) (fun _ _ _ _ _ => trivial)
      exact ends_bind settlesPayment_isRely hmoved (fun _ _ _ _ _ => trivial)
        fun _ later _ => hreport later
    · exact hreport state

theorem settleIntent_avoids (hbound : payment.Bound routing network)
    (hother : OtherIntent payment.intent intent) (transactionHash : String)
    (state : PayrollState) :
    Keeps runtime routing network payment (fun _ _ => True)
      (settleIntent runtime routing network task unit batch intent transactionHash) state := by
  unfold settleIntent
  split
  · exact ends_throw fun _ _ => trivial
  · refine ends_bind settlesPayment_isRely (quiet_keeps hbound (verify_quiet runtime network _)
      state) (fun _ _ _ _ _ => trivial) fun verified later _ => ?_
    have hcomplete : Keeps runtime routing network payment (fun _ _ => True)
        (discard <| completing (completeWithVerifiedReceipt runtime routing intent.id
          verified.toVerifiedExecutionReceipt) : PayrollService Body Calldata Unit) later :=
      ends_discard settlesPayment_isRely (completing_keeps (.of_expects
        (completeWithVerifiedReceipt_avoids hbound.ne_none hother.id _ later.database)))
        (fun _ _ _ _ _ => trivial) (fun _ _ _ _ _ => trivial)
    refine ends_bind settlesPayment_isRely hcomplete (fun _ _ _ _ _ => trivial) fun _ last _ => ?_
    exact ends_discard settlesPayment_isRely (reportUnit_keeps Bool.noConfusion)
      (fun _ _ _ _ _ => trivial) (fun _ _ _ _ _ => trivial)

theorem verifyIntent_avoids (hbound : payment.Bound routing network)
    (hother : OtherIntent payment.intent intent) (transactionHash : String) :
    Keeps runtime routing network payment (fun _ _ => True)
      (verifyIntent runtime routing network task unit batch intent transactionHash) state := by
  have hsettle : ∀ (begun : ExecutionIntent) (later : PayrollState)
      (rest : Except ServiceError Unit → PayrollService Body Calldata Unit),
      (∀ error, rest (.error error) = failIntent routing task unit begun error) →
        rest (.ok ()) = pure () → OtherIntent payment.intent begun →
          Keeps runtime routing network payment (fun _ _ => True)
            ((settleIntent runtime routing network task unit batch begun
              transactionHash).attempt >>= rest) later := by
    intro begun later rest hfails hsettles hbegan
    refine ends_attempt_bind settlesPayment_isRely
      (settleIntent_avoids hbound hbegan transactionHash later) ?_
    intro settled last _
    cases settled with
    | error error =>
        rw [hfails]
        exact failIntent_avoids hbound hbegan
    | ok value =>
        rw [hsettles]
        exact ends_pure fun _ _ => trivial
  unfold verifyIntent
  dsimp only
  split
  · have hbegins : Keeps runtime routing network payment
        (fun outcome _ => ∀ found, outcome = .ok found → OtherIntent payment.intent found)
        (intents (beginVerification routing intent.id)) state :=
      intents_avoid (beginVerification_avoids hbound.ne_none hother.id state.database)
    refine ends_attempt_bind settlesPayment_isRely hbegins ?_
    intro outcome later hfound
    cases outcome with
    | error error => exact failIntent_avoids hbound hother
    | ok begun => exact hsettle begun later _ (fun _ => rfl) rfl (hfound begun rfl)
  · exact hsettle intent state _ (fun _ => rfl) rfl hother

/-! ## The loop -/

omit [DecidableEq Hash] in
/-- An intent read for its turn of the loop is the paid one as it is, or another. -/
theorem get_reads (hbound : payment.Bound routing network)
    (hstands : SettlesPayment payment state state) (id : String) :
    Keeps runtime routing network payment
      (fun outcome later => ∀ intent, outcome = .ok intent →
        (id = payment.intent.id ∧ Snapshot payment.intent intent later.database ∧
            intent.status ∈ intent.status.ahead) ∨
          (id ≠ payment.intent.id ∧ OtherIntent payment.intent intent))
      (intents (get routing id)) state := by
  by_cases hid : id = payment.intent.id
  · obtain ⟨_, status, -, hreached, hahead⟩ := hstands.ahead
    rw [hid]
    refine (intents_keeps (get_handles hbound.selected (fun _ _ hread => hread rfl)
      hreached)).mono ?_
    rintro _ later ⟨found, rfl, hfound, hsnapshot⟩ intent hintent
    obtain rfl := Except.ok.inj hintent
    exact .inl ⟨rfl, hsnapshot, ahead_self hfound⟩
  · refine (intents_avoid (get_avoids hbound.ne_none hid state.database)).mono ?_
    exact fun outcome later hother intent hintent => .inr ⟨hid, hother intent hintent⟩

/-- One turn of the loop, at the batch of its intent. -/
theorem reconcileIntent_keeps (hbound : payment.Bound routing network) {task : TaskWithUnits}
    {batches : List PayrollBatch} {index : ℕ} {planned : ExecutionIntent}
    (hpays : planned.id = payment.intent.id → ∀ batch, batches[index]? = some batch →
      payment.PaysBatch runtime network batch)
    (hstands : SettlesPayment payment state state) :
    Keeps runtime routing network payment (fun _ _ => True)
      (reconcileIntent runtime routing network task batches index planned) state := by
  unfold reconcileIntent
  split
  · next unit batch hunit hbatch =>
      refine ends_bind settlesPayment_isRely (get_reads hbound hstands planned.id)
        (fun _ _ _ _ _ => trivial) ?_
      intro intent later hread
      split
      · exact ends_discard settlesPayment_isRely (reportUnit_keeps Bool.noConfusion)
          (fun _ _ _ _ _ => trivial) (fun _ _ _ _ _ => trivial)
      · split
        · exact ends_discard settlesPayment_isRely (reportUnit_keeps fun _ hnone => by cases hnone)
            (fun _ _ _ _ _ => trivial) (fun _ _ _ _ _ => trivial)
        · split
          · exact ends_pure fun _ _ => trivial
          · next transactionHash hhash =>
              split
              · next hstatus =>
                  obtain ⟨hid, hsnapshot, -⟩ | ⟨-, hother⟩ := hread intent rfl
                  · have hsame : transactionHash = payment.transactionHash := by
                      have hstored := hsnapshot.hash.trans hbound.hash
                      rw [hstored] at hhash
                      exact (Option.some.inj (nonempty_eq_some hhash)).symm
                    rw [hsame]
                    exact verifyIntent_keeps hbound (hpays hid batch hbatch) hsnapshot hstatus
                  · exact verifyIntent_avoids hbound hother transactionHash
              · exact ends_pure fun _ _ => trivial
  · exact ends_pure fun _ _ => trivial

/-- The batches of a request belong to the intents of its plan: the one of the paid intent is
the one that was paid. -/
def PaysPlan (payment : Payment Body Calldata) (runtime : Runtime)
    (network : PayrollNetwork Hash Body Calldata) :
    List PayrollBatch → List ExecutionIntent → Prop :=
  List.Forall₂ fun batch intent =>
    intent.id = payment.intent.id → payment.PaysBatch runtime network batch

theorem reconcileIntents_keeps (hbound : payment.Bound routing network) {task : TaskWithUnits}
    {batches : List PayrollBatch} {index : ℕ} {plans : List ExecutionIntent}
    (hplan : PaysPlan payment runtime network (batches.drop index) plans)
    (hstands : SettlesPayment payment state state) :
    Keeps runtime routing network payment (fun _ later => SettlesPayment payment later later)
      (reconcileIntents runtime routing network task batches index plans) state := by
  induction plans generalizing index state with
  | nil => exact ends_pure fun _ hlater => settlesPayment_isRely.refl_after hlater
  | cons planned rest ih =>
      cases hdrop : batches.drop index with
      | nil =>
          rw [hdrop] at hplan
          cases hplan
      | cons batch others =>
          rw [hdrop] at hplan
          obtain ⟨hfirst, hothers⟩ := List.forall₂_cons.mp hplan
          have hbatch : batches[index]? = some batch := by
            rw [← Nat.add_zero index, ← List.getElem?_drop, hdrop]
            rfl
          have hrest : batches.drop (index + 1) = others := by
            rw [← List.drop_drop, hdrop]
            rfl
          have hturn : planned.id = payment.intent.id → ∀ found, batches[index]? = some found →
              payment.PaysBatch runtime network found := by
            intro hid found hfound
            obtain rfl := Option.some.inj (hbatch.symm.trans hfound)
            exact hfirst hid
          refine ends_bind settlesPayment_isRely
            ((reconcileIntent_keeps hbound hturn hstands).stands hstands)
            (fun _ _ _ _ hlater => settlesPayment_isRely.refl_after hlater) ?_
          rintro _ later ⟨-, hlater⟩
          refine ih ?_ hlater
          rw [hrest]
          exact hothers

theorem refreshUnit_quiet (task : TaskWithUnits) (index : ℕ) (planned : ExecutionIntent) :
    Service.Performs (S := payrollSignature Body Calldata) PayrollOp.quiet
      (refreshUnit routing task index planned) := by
  unfold refreshUnit
  split
  · exact performs_pure _
  · refine performs_bind (intents_quiet (get_movesTo _) (List.nil_subset _)) fun current => ?_
    refine performs_bind ?_ fun answer => performs_orThrow _
    exact performs_perform trivial

theorem findTaskOrThrow_quiet (id : String) :
    Service.Performs (S := payrollSignature Body Calldata) PayrollOp.quiet (findTaskOrThrow id) :=
  performs_bind (performs_perform trivial) fun _ => performs_orThrow _

theorem findTask_quiet (id : String) :
    Service.Performs (S := payrollSignature Body Calldata) PayrollOp.quiet (findTask id) :=
  performs_bind (performs_perform trivial) fun _ => performs_orThrow _

theorem attachTasks_quiet (plans : List ExecutionIntent) (taskId : String) :
    Service.Performs (S := payrollSignature Body Calldata) PayrollOp.quiet
      (attachTasks routing plans taskId) := by
  refine performs_discard (performs_all fun service hservice => ?_)
  obtain ⟨planned, -, rfl⟩ := List.mem_map.mp hservice
  exact intents_quiet (attachTask_movesTo _ _) (List.nil_subset _)

theorem reconcilePayrollIntents_keeps (hbound : payment.Bound routing network)
    {task : TaskWithUnits} {batches : List PayrollBatch} {plans : List ExecutionIntent}
    (hplan : PaysPlan payment runtime network batches plans)
    (hstands : SettlesPayment payment state state) :
    Keeps runtime routing network payment (fun _ _ => True)
      (reconcilePayrollIntents runtime routing network task plans batches) state := by
  refine ends_bind settlesPayment_isRely (reconcileIntents_keeps hbound hplan hstands)
    (fun _ _ _ _ _ => trivial) fun _ later _ => ?_
  refine quiet_keeps hbound (performs_bind (performs_discard (performs_all ?_)) fun _ =>
    findTaskOrThrow_quiet _) later
  intro service hservice
  obtain ⟨index, hindex, rfl⟩ := List.mem_mapIdx.mp hservice
  exact refreshUnit_quiet task index _

/-! ## Resubmissions -/

theorem planTask_keeps (hbound : payment.Bound routing network) {payload : Json}
    {accepted : AcceptedPayroll} {referenceId : String} {batches : List PayrollBatch}
    {plans : List ExecutionIntent} (hplan : PaysPlan payment runtime network batches plans)
    (hstands : SettlesPayment payment state state) :
    Keeps runtime routing network payment (fun _ _ => True)
      (planTask runtime routing network payload accepted referenceId batches plans intent)
      state := by
  unfold planTask
  refine ends_bind settlesPayment_isRely
    ((quiet_keeps hbound (findTask_quiet intent.id) state).stands hstands)
    (fun _ _ _ _ _ => trivial) ?_
  rintro found later ⟨-, hlater⟩
  cases found with
  | some existing =>
      refine ends_bind settlesPayment_isRely
        ((quiet_keeps hbound (attachTasks_quiet plans existing.task.id) later).stands hlater)
        (fun _ _ _ _ _ => trivial) ?_
      rintro _ last ⟨-, hlast⟩
      refine ends_bind settlesPayment_isRely (reconcilePayrollIntents_keeps hbound hplan hlast)
        (fun _ _ _ _ _ => trivial) fun _ _ _ => ?_
      exact ends_pure fun _ _ => trivial
  | none =>
      have hattach : ∀ task : TaskWithUnits, Service.Performs
          (S := payrollSignature Body Calldata) PayrollOp.quiet (do
            attachTasks routing plans task.task.id
            return payrollResult task intent) :=
        fun task => performs_bind (attachTasks_quiet plans task.task.id) fun _ => performs_pure _
      refine quiet_keeps hbound ?_ later
      refine performs_bind (performs_perform trivial) fun created => ?_
      cases created with
      | ok task =>
          exact performs_bind (performs_pure task) hattach
      | error error =>
          refine performs_bind (findTask_quiet intent.id) fun concurrent => ?_
          cases concurrent with
          | none => exact performs_throw _
          | some task => exact performs_bind (performs_pure task) hattach

/-- The batches of the requests the paid intent stands for are the ones that were paid. -/
def Payment.Covers (payment : Payment Body Calldata) (runtime : Runtime)
    (routing : PaymentRouting) (network : PayrollNetwork Hash Body Calldata) (payload : Json) :
    Prop :=
  ∀ accepted, acceptPayroll runtime routing payload = .ok accepted →
    ∀ now, ∀ batch ∈ splitIntoBatches accepted.recipients, ∀ request canonical,
      batchRequest runtime routing accepted (stringField payload "sourceTokenAddress")
          (normalizeReferenceId payload now) batch = .ok request →
        canonicalize runtime routing request = .ok canonical →
          canonical.requestFingerprint = payment.intent.requestFingerprint →
            payment.PaysBatch runtime network batch

/-- The intent was acquired for the request of the batch. -/
def AcquiredFor (runtime : Runtime) (routing : PaymentRouting) (accepted : AcceptedPayroll)
    (sourceTokenAddress referenceId : String) (batch : PayrollBatch) (intent : ExecutionIntent)
    (state : PayrollState) : Prop :=
  ∃ request canonical,
    batchRequest runtime routing accepted sourceTokenAddress referenceId batch = .ok request ∧
      canonicalize runtime routing request = .ok canonical ∧
        intent.identity ∈ state.database.identities ∧
          intent.requestFingerprint = canonical.requestFingerprint

omit [DecidableEq Hash] in
theorem acquireBatch_keeps {accepted : AcceptedPayroll} {sourceTokenAddress referenceId : String}
    (batch : PayrollBatch) (state : PayrollState) :
    Keeps runtime routing network payment
      (fun outcome later => ∀ intent, outcome = .ok intent →
        AcquiredFor runtime routing accepted sourceTokenAddress referenceId batch intent later)
      (intents (acquireBatch runtime routing accepted sourceTokenAddress referenceId batch))
      state := by
  unfold acquireBatch
  cases hrequest : batchRequest runtime routing accepted sourceTokenAddress referenceId batch with
  | error error => exact fun _ _ _ hnone => by cases hnone
  | ok request =>
      cases hcanonical : canonicalize runtime routing request with
      | error error =>
          have hacquire : acquire runtime routing request = throw error := by
            unfold acquire
            rw [hcanonical]
            rfl
          have hthrown : Keeps runtime routing network payment
              (fun outcome later => ∀ intent, outcome = .ok intent → AcquiredFor runtime routing
                accepted sourceTokenAddress referenceId batch intent later)
              (intents (acquire runtime routing request)) state := by
            rw [hacquire]
            exact fun _ _ _ hnone => by cases hnone
          exact hthrown
      | ok canonical =>
          have hacquired : Keeps runtime routing network payment
              (fun outcome later => ∀ intent, outcome = .ok intent →
                Held canonical intent later.database ∧
                  intent.requestFingerprint = canonical.requestFingerprint)
              (intents (acquire runtime routing request)) state :=
            intents_ends (fun _ _ hlater => hlater.identities) (fun _ _ _ _ => trivial)
              (fun _ _ _ hop => spares_of_read hop.2) (acquire_acquires hcanonical state.database)
          refine Ends.mono hacquired fun outcome later hheld intent hintent => ?_
          obtain ⟨hheld, hfingerprint⟩ := hheld intent hintent
          exact ⟨request, canonical, hrequest, hcanonical, hheld.1, hfingerprint⟩

theorem AcquiredFor.settles {accepted : AcceptedPayroll} {sourceTokenAddress referenceId : String}
    {later : PayrollState} (hacquired : AcquiredFor runtime routing accepted sourceTokenAddress
      referenceId batch intent state) (hlater : SettlesPayment payment state later) :
    AcquiredFor runtime routing accepted sourceTokenAddress referenceId batch intent later := by
  obtain ⟨request, canonical, hrequest, hcanonical, hstored, hfingerprint⟩ := hacquired
  exact ⟨request, canonical, hrequest, hcanonical, hlater.identities.2.subset hstored, hfingerprint⟩

/-- An intent that was acquired under the identifier of the paid one is the paid one. -/
theorem AcquiredFor.pays {payload : Json} (hcovers : payment.Covers runtime routing network payload)
    {accepted : AcceptedPayroll} (haccepts : acceptPayroll runtime routing payload = .ok accepted)
    {now : ℕ} (hbatch : batch ∈ splitIntoBatches accepted.recipients)
    (hstands : SettlesPayment payment state state)
    (hacquired : AcquiredFor runtime routing accepted (stringField payload "sourceTokenAddress")
      (normalizeReferenceId payload now) batch intent state)
    (hid : intent.id = payment.intent.id) : payment.PaysBatch runtime network batch := by
  obtain ⟨request, canonical, hrequest, hcanonical, hstored, hfingerprint⟩ := hacquired
  obtain ⟨_, status, -, hreached, -⟩ := hstands.ahead
  obtain ⟨row, hrow, hidentity⟩ := List.mem_map.mp hstored
  have hsame : intent.identity = payment.intent.identity := by
    rw [← hidentity]
    exact (hreached.eq hrow ((identity_id hidentity).trans hid)).1
  refine hcovers accepted haccepts now batch hbatch request canonical hrequest hcanonical ?_
  exact hfingerprint.symm.trans (congrArg IntentIdentity.requestFingerprint hsame)

theorem createPayrollTask_keeps (hbound : payment.Bound routing network) {payload : Json}
    (hcovers : payment.Covers runtime routing network payload)
    (hstands : SettlesPayment payment state state) :
    Keeps runtime routing network payment (fun _ _ => True)
      (createPayrollTask runtime routing network payload) state := by
  unfold createPayrollTask
  cases haccepts : acceptPayroll runtime routing payload with
  | error error => exact fun _ _ => trivial
  | ok accepted =>
      refine ends_ofExcept_bind rfl ?_
      dsimp only
      refine ends_bind settlesPayment_isRely ((quiet_keeps hbound
        (intents_quiet currentTime_movesTo (List.nil_subset _)) state).stands hstands)
        (fun _ _ _ _ _ => trivial) ?_
      rintro now later ⟨-, hlater⟩
      have hplans := @expects_all (payrollSignature Body Calldata) (PayrollInput Body Calldata)
        PayrollState ExecutionIntent PayrollBatch (payrollMachine runtime routing)
        (SettlesPayment payment) (Truthful runtime routing network payment)
        (fun op _ state => SparesPayment payment op state) settlesPayment_isRely
        (fun _ _ _ hsettles _ hspares => answer_settlesPayment hsettles hspares)
        (splitIntoBatches accepted.recipients)
        (fun batch => intents (acquireBatch runtime routing accepted
          (stringField payload "sourceTokenAddress") (normalizeReferenceId payload now) batch))
        (AcquiredFor runtime routing accepted (stringField payload "sourceTokenAddress")
          (normalizeReferenceId payload now))
        (fun _ _ _ _ hkept hacquired => hacquired.settles hkept)
        (fun batch _ state => acquireBatch_keeps batch state) later
      refine ends_bind settlesPayment_isRely (Keeps.stands (.of_expects hplans) hlater)
        (fun _ _ _ _ _ => trivial) ?_
      rintro plans last ⟨hacquired, hlast⟩
      have hplan : PaysPlan payment runtime network (splitIntoBatches accepted.recipients) plans :=
        ((List.forall₂_and_left _ plans).mpr ⟨fun _ => id, hacquired plans rfl⟩).imp
          fun batch intent hplanned => hplanned.2.pays hcovers haccepts hplanned.1 hlast
      cases plans with
      | nil => exact ends_throw fun _ _ => trivial
      | cons intent rest => exact planTask_keeps hbound hplan hlast

/-! ## Runs -/

/-- What is called: a submission of a payroll, or a method of the intents. -/
inductive BackendCall where
  | createPayrollTask (payload : Json)
  | intent (call : IntentCall)

def BackendCall.program (runtime : Runtime) (routing : PaymentRouting)
    (network : PayrollNetwork Hash Body Calldata) :
    BackendCall → PayrollService Body Calldata Unit
  | .createPayrollTask payload =>
      discard <| Payroll.createPayrollTask runtime routing network payload
  | .intent call => discard <| intents (call.program runtime routing)

/-- The payment covers the payrolls that are submitted, and no other call declares a failure. -/
def BackendCall.Fits (runtime : Runtime) (routing : PaymentRouting)
    (network : PayrollNetwork Hash Body Calldata) (payment : Payment Body Calldata) :
    BackendCall → Prop
  | .createPayrollTask payload => payment.Covers runtime routing network payload
  | .intent call => call.targets ⊆ harmless

def backendPool (runtime : Runtime) (routing : PaymentRouting)
    (network : PayrollNetwork Hash Body Calldata) (calls : List BackendCall)
    (state : PayrollState) :
    Pool (payrollSignature Body Calldata) PayrollState (Except ServiceError Unit) :=
  ⟨state, calls.map fun call => (call.program runtime routing network).run⟩

theorem BackendCall.keeps (hbound : payment.Bound routing network) {call : BackendCall}
    (hfits : call.Fits runtime routing network payment)
    (hstands : SettlesPayment payment state state) :
    Keeps runtime routing network payment (fun _ _ => True) (call.program runtime routing network)
      state := by
  cases call with
  | createPayrollTask payload =>
      exact ends_discard settlesPayment_isRely (createPayrollTask_keeps hbound hfits hstands)
        (fun _ _ _ _ _ => trivial) (fun _ _ _ _ _ => trivial)
  | intent call =>
      exact quiet_keeps hbound (performs_discard
        (intents_quiet (call.movesTo runtime routing) hfits)) state

/-- The payment is settled or still open: its intent was moved only ahead. -/
def Payment.Standing (payment : Payment Body Calldata) (state : PayrollState) : Prop :=
  ∃ row ∈ state.database.intents, row.identity = payment.intent.identity ∧
    row.transactionHash = payment.intent.transactionHash ∧ row.status ∈ payment.intent.status.ahead

/-- The step does not report a unit failed for the transaction of the payment. -/
def ReportsNoFailure (payment : Payment Body Calldata)
    (pool : Pool (payrollSignature Body Calldata) PayrollState (Except ServiceError Unit))
    (choice : ℕ × PayrollInput Body Calldata) : Prop :=
  ∀ taskId unitId report, pool.pending choice.1 = some (.reportUnit taskId unitId report) →
    report.txHash = some payment.intent.transactionHash → report.succeeded = true

instance decidableTruthfulRun {Hash Body Calldata α : Type} [DecidableEq Body]
    [DecidableEq Calldata] (runtime : Runtime) (routing : PaymentRouting)
    (network : PayrollNetwork Hash Body Calldata) (payment : Payment Body Calldata)
    (choices : List (ℕ × PayrollInput Body Calldata))
    (pool : Pool (payrollSignature Body Calldata) PayrollState α) :
    Decidable (Pool.Along (payrollMachine runtime routing)
      (Pool.Conditioned fun _ => Truthful runtime routing network payment) choices pool) :=
  @Pool.decidableAlong (payrollSignature Body Calldata) (PayrollInput Body Calldata) PayrollState α
    (payrollMachine runtime routing)
    (Pool.Conditioned fun _ => Truthful runtime routing network payment)
    (fun pool choice => @Pool.decidableConditioned (payrollSignature Body Calldata)
      (PayrollInput Body Calldata) PayrollState α
      (fun _ => Truthful runtime routing network payment)
      (fun _ => decidableTruthful runtime routing network payment) pool choice)
    choices pool

/-! ## A payroll that is paid, and settled -/

deriving instance DecidableEq for PayrollParties
deriving instance DecidableEq for VerifiedCall

instance exampleBodyDecidableEq : DecidableEq (Option (Event ExampleHash)) :=
  @Option.instDecidableEq _ inferInstance

def exampleChain : PayrollNetwork ExampleHash (Option (Event ExampleHash)) MainnetCall where
  key := "arc-mainnet"
  chainId := 5042
  wizpay := some "0x0000000000000000000000000000000000000064"
  usdc := 0x3600000000000000000000000000000000000000
  confirmationsRequired := 1
  confirmations_pos := by decide
  keccak := exampleKeccak
  codec := exampleCodec
  decodeFunctionData := some

def paidIntent : ExecutionIntent where
  id := "intent-1"
  network := "arc-mainnet"
  operation := .PAYROLL
  ownerId := none
  walletId := none
  sourceWallet := "0x0000000000000000000000000000000000000009"
  recipient := none
  batchDigest := some "0000000000000000000000000000000000000000000000000000000000000000"
  tokenIn := "0x3600000000000000000000000000000000000000"
  tokenOut := "0x3600000000000000000000000000000000000000"
  amountUnits := "1000000"
  externalReference := "PAY-1"
  logicalKey := "0000000000000000000000000000000000000000000000000000000000000000"
  requestFingerprint := "0000000000000000000000000000000000000000000000000000000000000000"
  idempotencyKey := "00000000-0000-5000-8000-000000000000"
  route := .DIRECT_TRANSFER
  provider := none
  contractAddress := none
  calldataHash := none
  status := SUBMITTED
  circleChallengeId := none
  circleTransactionId := none
  transactionHash := some "0x3333333333333333333333333333333333333333333333333333333333333333"
  taskId := some "intent-1"
  leaseOwner := none
  leaseExpiresAt := none
  attemptCount := 1
  failureCode := none
  completedAt := none

/-- Account 9 paid account 20 in block 7. -/
def examplePayment : Payment (Option (Event ExampleHash)) MainnetCall where
  intent := paidIntent
  transactionHash := "0x3333333333333333333333333333333333333333333333333333333333333333"
  batchDigest := "0000000000000000000000000000000000000000000000000000000000000000"
  transaction := {
    hash := "0x3333333333333333333333333333333333333333333333333333333333333333"
    chainId := 5042
    source := 9
    target := some 100
    value := 0
    input := .executeSameTokenPayroll 0x3600000000000000000000000000000000000000 [20] [1000000]
      "PAY-1" }
  receipt := {
    transactionHash := "0x3333333333333333333333333333333333333333333333333333333333333333"
    succeeded := true
    blockNumber := 7
    logs := [
      ⟨100, some (.payrollPayment ⟨some (5042, 100, 9, "PAY-1".toUTF8), 9,
        0x3600000000000000000000000000000000000000, 20, 0, 1000000⟩)⟩,
      ⟨100, some (.payrollReferenceConsumed ⟨some (5042, 100, 9, "PAY-1".toUTF8), 9,
        0x3600000000000000000000000000000000000000, 0x3600000000000000000000000000000000000000,
        none, 1010000, 1000000, 10000, 1, "PAY-1".toUTF8⟩)⟩,
      ⟨100, some (.payrollBatchExecuted ⟨9, 0x3600000000000000000000000000000000000000,
        0x3600000000000000000000000000000000000000, 1010000, 1000000, 10000, 1,
        "PAY-1".toUTF8⟩)⟩] }

theorem examplePayment_pays :
    Pays (.ofTable [] []) exampleChain examplePayment.transaction examplePayment.receipt
      (receiptInput paidIntent examplePayment.transactionHash examplePayment.batchDigest
        (singleBatch "0x0000000000000000000000000000000000000014"))
      "0x0000000000000000000000000000000000000064"
      ⟨9, 0x3600000000000000000000000000000000000000, 100, [20]⟩
      ⟨0x3600000000000000000000000000000000000000, 0x3600000000000000000000000000000000000000,
        [20], [1000000]⟩ where
  deployed := by decide +kernel
  wellFormed := by decide +kernel
  parsed := by decide +kernel
  hex := by decide +kernel
  hash := by decide +kernel
  mined := by decide +kernel
  call := by decide +kernel
  total := by decide +kernel
  lower := by decide +kernel
  digest := by decide +kernel
  events := by decide +kernel

theorem examplePayment_covers :
    examplePayment.Covers (.ofTable [] []) arcMainnet exampleChain
      (singlePayload "0x0000000000000000000000000000000000000014") := by
  intro accepted haccepts now batch hbatch request canonical _ _ _
  have hsame : acceptPayroll (.ofTable [] []) arcMainnet
      (singlePayload "0x0000000000000000000000000000000000000014") =
        .ok (singleAccepted "0x0000000000000000000000000000000000000014") := by
    decide +kernel
  obtain rfl := Except.ok.inj (haccepts.symm.trans hsame)
  rw [splitIntoBatches_single] at hbatch
  obtain rfl := List.mem_singleton.mp hbatch
  exact ⟨_, _, _, examplePayment_pays⟩

def exampleAnswers : PayrollInput (Option (Event ExampleHash)) MainnetCall where
  now := 1
  freshId := "intent-2"
  outage := none
  applied := true
  unitIds := fun _ => "unit-2"
  chainIdAnswer := some 5042
  transactionAnswer := some examplePayment.transaction
  receiptAnswer := some examplePayment.receipt
  blockNumberAnswer := some 9

def examplePaidState : PayrollState :=
  let accepted := singleAccepted "0x0000000000000000000000000000000000000014"
  let batch := singleBatch "0x0000000000000000000000000000000000000014"
  PayrollState.insertTask ⟨⟨[paidIntent], []⟩, [], []⟩
    (payrollTask (singlePayload "0x0000000000000000000000000000000000000014") accepted "PAY-1"
      [batch] paidIntent)
    [(0, unitPayload accepted "PAY-1" batch paidIntent)] fun _ => "unit-1"

/-- The payroll is submitted again while its verification is begun elsewhere. -/
def exampleResubmission : List BackendCall :=
  [.createPayrollTask (singlePayload "0x0000000000000000000000000000000000000014"),
    .intent (.beginVerification "intent-1")]

def resubmittedRun : List (ℕ × PayrollInput (Option (Event ExampleHash)) MainnetCall) :=
  List.replicate 22 (0, exampleAnswers) ++ [(1, exampleAnswers)]

end WizPay.Payroll
