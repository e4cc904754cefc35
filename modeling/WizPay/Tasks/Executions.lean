import WizPay.Tasks.Transitions

/-!
# One execution for a task

A delivery claims a task when it moves it from `assigned` to `in_progress`, and hands it to
an agent afterwards. As long as nobody moves a task between the read at the start of a
delivery and its claim, a task is handed to an agent once at most, however often it is
delivered: no status leads back to `assigned`.
-/

namespace WizPay.Tasks

open Foundation Backend
open Payroll (TaskStatus TaskUnitStatus ReportTaskUnitInput)

/-! ## Claims -/

/-- The tasks that a call has claimed and not handed over yet. -/
abbrev Claims := String → Bool

/-- A move to `in_progress` that is answered claims the task; handing it over ends the claim. -/
def claim : (op : TaskOp) → op.Res → Claims → Claims
  | .updateTask taskId .IN_PROGRESS _, answer, claims =>
      match (answer : Except DbError Unit) with
      | .ok _ => Function.update claims taskId true
      | .error _ => claims
  | .routeToAgent task, _, claims => Function.update claims task.id false
  | _, _, claims => claims

/-- A claim trusts the status that its delivery has read, and so does the read before it. -/
def TaskOp.trusts : TaskOp → Option String
  | .updateTask taskId _ _ => some taskId
  | .findTask taskId .IN_PROGRESS => some taskId
  | _ => none

/-- Nobody moves a task before a write that trusts its status, nor before the read that a
claim starts with. -/
abbrev ClaimWindow : TaskOp → TaskState → TaskState → Prop := StatusWindow TaskOp.trusts

/-- A call makes the moves that are allowed, and hands over the tasks it has claimed. -/
def Entitled (op : TaskOp) (pair : TaskState × Claims) : Prop :=
  Allowed op pair.1 ∧ ∀ taskId ∈ op.routes, pair.2 taskId = true

theorem entitled_permits : Permits ClaimWindow Entitled where
  sameStatus {op before after} hwindow taskId hmoves := by
    cases op with
    | updateTask moved status result => exact hwindow taskId hmoves
    | _ => cases hmoves
  moves hallowed := ⟨hallowed, fun _ hroutes => nomatch hroutes⟩
  others {op pair} hop hroutes := by
    refine ⟨@Permits.others _ _ _ allowed_permits op (pair.1, ()) hop hroutes, fun taskId htask => ?_⟩
    rw [hroutes] at htask
    cases htask
  sessions {op pair} hop := by
    refine ⟨@Permits.sessions _ _ _ allowed_permits op (pair.1, ()) hop, fun taskId htask => ?_⟩
    cases op with
    | routeToAgent task => exact absurd rfl hop
    | _ => cases htask

/-! ## A delivery -/

section Delivery

open Service

variable {taskId : String} {runtime : Runtime} {routing : PaymentRouting} {α : Type}
  {pair : TaskState × Claims}

/-- A method under claims. -/
abbrev Claiming (post : α → TaskState × Claims → Prop) (service : TaskService α)
    (pair : TaskState × Claims) : Prop :=
  Service.Guarded (taskMachine.withGhost claim) (KeepsGhost ClaimWindow) (fun _ _ _ => True)
    (fun op _ pair => Entitled op pair) post service pair

theorem entitled_composes : Composes (Lawful claim ClaimWindow Entitled) :=
  lawful_composes entitled_permits

/-- A statement that neither claims nor hands over keeps the claims. -/
def KeepsClaims (op : TaskOp) : Prop := op.publishes = false ∧ op.routes = none

theorem claim_of_keeps {op : TaskOp} (hop : KeepsClaims op) (answer : op.Res) (claims : Claims) :
    claim op answer claims = claims := by
  cases op with
  | updateTask taskId status result => cases hop.1
  | routeToAgent task => cases hop.2
  | _ => rfl

theorem claiming_of_keeps {service : TaskService α}
    (hservice : Service.Performs (S := taskSignature) KeepsClaims service)
    (hclaimed : pair.2 taskId = true) :
    Claiming (fun _ later => later.2 taskId = true) service pair := by
  refine guarded_of_performs (fun op state later _ hlater hheld => ?_)
    (fun op input state hop hheld => ⟨entitled_permits.others hop.1 hop.2, ?_⟩) hservice hclaimed
  · rw [hlater.2]
    exact hheld
  · exact (congrFun (claim_of_keeps hop (taskMachine.answer op input state.1).1 state.2) taskId).trans
      hheld

theorem getTaskById_keepsClaims (taskId : String) :
    Service.Performs (S := taskSignature) KeepsClaims (getTaskById taskId) := by
  refine performs_bind (performs_bind (performs_perform ⟨rfl, rfl⟩) fun answer =>
    performs_orThrow answer) fun found => ?_
  cases found with
  | none => exact performs_throw _
  | some details => exact performs_pure details

/-- The read at the start of a delivery finds the status of its task. -/
theorem getTaskById_claiming (taskId : String) (pair : TaskState × Claims) :
    Claiming (fun details later => details.id = taskId ∧
      later.1.statusOf taskId = some details.task.status) (getTaskById taskId) pair := by
  have hread : Claiming (fun found later => ∀ details, found = some details →
      details.id = taskId ∧ later.1.statusOf taskId = some details.task.status)
      (perform (S := taskSignature) (.taskDetails none taskId) >>= fun answer => orThrow answer)
      pair := by
    refine guarded_statement fun later _ => ⟨entitled_permits.others rfl rfl, ?_⟩
    intro input found hanswer details hdetails
    obtain ⟨hfound, hstate⟩ := TaskState.inSession_ok hanswer
    have hsome : later.1.details none taskId = some details :=
      (Except.ok.inj hfound).trans hdetails
    obtain ⟨row, hrow, rfl⟩ := Option.map_eq_some_iff.mp hsome
    refine ⟨rfl, ?_⟩
    simp only [taskMachine, hstate, TaskState.statusOf, Table.committedAt, hrow]
    rfl
  refine guarded_bind hread fun found later hfound => ?_
  cases found with
  | none => exact guarded_throw _
  | some details => exact guarded_pure (hfound details rfl)

/-- A delivery that moves its task from `assigned` has claimed it. -/
theorem updateStatus_claiming {options : UpdateStatusOptions}
    (hassigned : pair.1.statusOf taskId = some .ASSIGNED) :
    Claiming (fun _ later => later.2 taskId = true)
      (updateStatus taskId .IN_PROGRESS options) pair := by
  have hfind : Claiming (fun found later => later.1.statusOf taskId = some .ASSIGNED ∧
      found.map TaskRow.status = some .ASSIGNED) (findTask taskId .IN_PROGRESS) pair := by
    refine guarded_statement fun later hlater => ⟨entitled_permits.others rfl rfl, ?_⟩
    intro input found hanswer
    have hsame : later.1.statusOf taskId = pair.1.statusOf taskId :=
      hlater.1 taskId rfl
    have hstatus := findTask_status hanswer
    have hstate := (TaskState.inSession_ok hanswer).2
    have hkept : (taskMachine.answer (.findTask taskId .IN_PROGRESS) input later.1).2.statusOf
        taskId = some .ASSIGNED := by
      simp only [taskMachine, hstate, hsame, hassigned]
    exact ⟨hkept, hstatus.symm.trans hkept⟩
  refine guarded_bind hfind fun found later hfound => ?_
  cases found with
  | none => exact guarded_throw _
  | some task =>
      have htask : task.status = .ASSIGNED := Option.some.inj hfound.2
      have hstatus : later.1.statusOf taskId = some task.status := hfound.1.trans hfound.2.symm
      have hmove : task.status ≠ .IN_PROGRESS := by
        rw [htask]
        decide
      dsimp only
      rw [if_neg hmove]
      refine guarded_ofExcept_bind fun _ hensured => ?_
      have hupdate : Claiming (fun _ moved => moved.2 taskId = true)
          (updateTask taskId .IN_PROGRESS options.result) later :=
        guarded_updateTask entitled_permits hstatus hensured fun _ _ _ _ =>
          Function.update_self ..
      refine guarded_bind hupdate fun _ moved hclaimed => ?_
      refine guarded_bind (claiming_of_keeps ?_ hclaimed) fun _ logged hlogged => ?_
      · exact performs_bind (performs_perform ⟨rfl, rfl⟩) fun answer => performs_orThrow answer
      · exact claiming_of_keeps (getTaskById_keepsClaims taskId) hlogged

theorem runAgent_claiming {task : TaskDetails} (hclaimed : pair.2 task.id = true) :
    Claiming (fun _ _ => True) (runAgent taskId task) pair := by
  have hroute : Claiming (fun _ _ => True) (routeToAgent task) pair := by
    refine guarded_perform_bind fun later hlater input _ => ⟨⟨trivial, ?_⟩, ?_⟩
    · rintro _ ⟨⟩
      rw [hlater.2]
      exact hclaimed
    · exact entitled_composes.ofExcept _ _
  refine guarded_bind hroute fun result later _ => ?_
  split
  · exact guarded_bind (entitled_composes.logStep _ _ _ _ later) fun _ _ _ => guarded_pure trivial
  · have hexecuted := entitled_composes.discard (entitled_composes.updateStatus taskId .EXECUTED {
      step := some "task.executed", message := some "Task execution completed"
      result := some result })
    exact guarded_bind (hexecuted later) fun _ _ _ => guarded_pure trivial

/-- A delivery hands over only a task that it has claimed. -/
theorem executeTask_claiming (taskId : String) :
    Lawful claim ClaimWindow Entitled (Option Json) (executeTask runtime routing taskId) := by
  intro pair
  refine guarded_bind (getTaskById_claiming taskId pair) fun task read hread => ?_
  refine guarded_ofExcept_bind fun _ _ => ?_
  obtain ⟨hid, hstatus⟩ := hread
  split
  · exact guarded_pure trivial
  · next hassigned =>
      rw [not_not.mp hassigned] at hstatus
      refine guarded_bind (guarded_discard (updateStatus_claiming hstatus))
        fun _ claimed hclaimed => ?_
      rw [← hid] at hclaimed
      refine guarded_attempt_bind (runAgent_claiming hclaimed) (fun _ _ _ => guarded_pure trivial)
        fun error failed => ?_
      exact guarded_bind (entitled_composes.markFailed taskId error failed)
        fun _ _ _ => guarded_throw error

end Delivery

/-! ## Once at most -/

/-- A task that can still be claimed. -/
def IsEarly (status : Option TaskStatus) : Prop := status = some .CREATED ∨ status = some .ASSIGNED

instance (status : Option TaskStatus) : Decidable (IsEarly status) :=
  inferInstanceAs (Decidable (_ ∨ _))

/-- No edge leads back to a status from which a task can be claimed. -/
theorem Follows.early {old new : TaskStatus} (hfollows : Follows old new)
    (hearly : IsEarly (some new)) : IsEarly (some old) := by
  rcases hfollows with rfl | hmoved
  · exact hearly
  · revert hmoved hearly
    cases old <;> cases new <;> decide

/-- What is left of the budget of a task: one claim if it can still be claimed, and one
handing over if it is claimed. -/
structure AtMost (taskId : String) (budget : ℕ) (ghosts : ℕ → Claims) (state : TaskState) :
    Prop where
  early : IsEarly (state.statusOf taskId) →
    state.routed.count taskId + 1 ≤ budget ∧ ∀ thread, ghosts thread taskId = false
  held : ∀ thread, ghosts thread taskId = true →
    state.routed.count taskId + 1 ≤ budget ∧ ∀ other, ghosts other taskId = true → other = thread
  bound : state.routed.count taskId ≤ budget

section AtMost

variable {taskId : String} {budget : ℕ} {ghosts later : ℕ → Claims} {state after : TaskState}
  {op : TaskOp} {input : TaskInput} {thread : ℕ}

/-- No statement makes a task claimable again. -/
theorem answer_early (hkeyed : state.Keyed) (hguar : Guarantee op input state)
    (hallowed : Allowed op state)
    (hearly : IsEarly ((taskMachine.answer op input state).2.statusOf taskId)) :
    IsEarly (state.statusOf taskId) := by
  have hmoves : state.StatusesMove (fun old new => IsEarly (some new) → IsEarly (some old))
      (taskMachine.answer op input state).2 := by
    refine answer_statusesMove (fun _ => id) hkeyed hguar ?_ ?_
    · rintro taskId status result rfl old hold
      exact Follows.early (.inr (hallowed old hold))
    · -- a report computes no status from which a task can be claimed
      intro session _ _ task _ _ status hstatus hclaimable
      exact absurd hclaimable (by revert status; decide)
  have hrelated := hmoves taskId
  generalize state.statusOf taskId = old at hrelated ⊢
  generalize (taskMachine.answer op input state).2.statusOf taskId = new at hrelated hearly
  cases hrelated with
  | none => exact hearly
  | some hmoved => exact hmoved hearly

/-- A step that neither claims the task nor hands it over. -/
theorem AtMost.same (hatMost : AtMost taskId budget ghosts state)
    (hmoves : IsEarly (after.statusOf taskId) → IsEarly (state.statusOf taskId))
    (hrouted : after.routed.count taskId = state.routed.count taskId)
    (hghosts : ∀ thread, later thread taskId = ghosts thread taskId) :
    AtMost taskId budget later after where
  early hearly := by
    rw [hrouted]
    refine ⟨(hatMost.early (hmoves hearly)).1, fun thread => ?_⟩
    rw [hghosts]
    exact (hatMost.early (hmoves hearly)).2 thread
  held thread hheld := by
    rw [hghosts] at hheld
    rw [hrouted]
    refine ⟨(hatMost.held thread hheld).1, fun other hother => ?_⟩
    rw [hghosts] at hother
    exact (hatMost.held thread hheld).2 other hother
  bound := by
    rw [hrouted]
    exact hatMost.bound

/-- A claim is the only one, and the task cannot be claimed again. -/
theorem AtMost.claimed (hatMost : AtMost taskId budget ghosts state)
    (hearly : IsEarly (state.statusOf taskId))
    (hrouted : after.routed.count taskId = state.routed.count taskId)
    (hafter : ¬ IsEarly (after.statusOf taskId)) (claims : Claims) :
    AtMost taskId budget (Function.update ghosts thread (Function.update claims taskId true))
      after where
  early hagain := absurd hagain hafter
  held holder hheld := by
    obtain ⟨hbudget, hnone⟩ := hatMost.early hearly
    have hholder : ∀ other, Function.update ghosts thread (Function.update claims taskId true) other
        taskId = true → other = thread := by
      intro other hother
      by_contra hne
      rw [Function.update_of_ne hne, hnone other] at hother
      cases hother
    rw [hrouted]
    exact ⟨hbudget, fun other hother => (hholder other hother).trans (hholder holder hheld).symm⟩
  bound := by
    rw [hrouted]
    exact hatMost.bound

/-- The holder hands the task over, and nobody holds it any more. -/
theorem AtMost.handedOver (hatMost : AtMost taskId budget ghosts state)
    (hheld : ghosts thread taskId = true) (hstatus : after.statusOf taskId = state.statusOf taskId)
    (hrouted : after.routed.count taskId = state.routed.count taskId + 1) (claims : Claims) :
    AtMost taskId budget (Function.update ghosts thread (Function.update claims taskId false))
      after where
  early hearly := by
    rw [hstatus] at hearly
    have hfree := (hatMost.early hearly).2 thread
    rw [hheld] at hfree
    cases hfree
  held holder hholds := by
    by_cases hsame : holder = thread
    · rw [hsame, Function.update_self, Function.update_self] at hholds
      cases hholds
    · rw [Function.update_of_ne hsame] at hholds
      exact absurd ((hatMost.held thread hheld).2 holder hholds) hsame
  bound := by
    rw [hrouted]
    exact (hatMost.held thread hheld).1

/-- What is handed over is what a statement names. -/
theorem answer_routed (op : TaskOp) (input : TaskInput) (state : TaskState) :
    (taskMachine.answer op input state).2.routed = state.routed ++ op.routes.toList := by
  have hsession : ∀ {α : Type} {outcome : Except DbError α × TaskState},
      outcome.2.routed = state.routed →
        (state.inSession input outcome).2.routed = state.routed ++ [] := by
    intro α outcome houtcome
    rw [List.append_nil]
    unfold TaskState.inSession
    split
    · exact houtcome
    · rfl
  have hthrough : ∀ {ε α : Type} {toError : DbError → ε} {outcome : Except ε α × TaskState},
      outcome.2.routed = state.routed →
        (state.through input toError outcome).2.routed = state.routed ++ [] := by
    intro ε α toError outcome houtcome
    rw [List.append_nil]
    unfold TaskState.through
    split
    · exact houtcome
    · split
      · exact houtcome
      · rfl
  have hwritten : ∀ {α : Type} {answer : Option α} {after : TaskState},
      after.routed = state.routed → (state.written answer after).2.routed = state.routed := by
    intro α answer after hafter
    unfold TaskState.written
    split
    · exact hafter
    · rfl
  cases op with
  | updateTask taskId status result => exact hthrough (hwritten rfl)
  | updateUnit session unitId report => exact hsession (hwritten rfl)
  | countUnit session taskId succeeded => exact hsession (hwritten rfl)
  | setStatus session taskId status => exact hsession (hwritten rfl)
  | findTaskOrThrow session taskId => exact hsession (hwritten rfl)
  | createLog session log =>
      cases session with
      | none => exact @hthrough _ _ id (.ok (), state.logged none log) rfl
      | some session => exact @hsession _ (.ok (), state.logged (some session) log) rfl
  | commit session =>
      simp only [taskMachine, TaskOp.routes, Option.toList_none, List.append_nil]
      split
      · rfl
      · dsimp only
        split <;> rfl
  | rollback session => exact (List.append_nil _).symm
  | updateTransaction id update => exact hthrough (hwritten rfl)
  | enqueueTransactionPoll job =>
      simp only [taskMachine, TaskOp.routes, Option.toList_none, List.append_nil]
      split
      · rfl
      · split <;> rfl
  | takePoll =>
      simp only [taskMachine, TaskOp.routes, Option.toList_none, List.append_nil]
      split <;> rfl
  | routeToAgent task => rfl
  | getTransactionReceiptOnChain txId => exact (List.append_nil _).symm
  | taskDetails session taskId => exact @hsession _ (.ok (state.details session taskId), state) rfl
  | findTask taskId nextStatus =>
      exact @hsession _ (.ok ((state.tasks.find taskId).map (Stored.view none)), state) rfl
  | findUnit session taskId unitId =>
      exact @hsession _ (.ok (state.findUnit session taskId unitId), state) rfl
  | findLog taskId step => exact @hsession _ (.ok _, state) rfl
  | findTransaction txId => exact @hsession _ (.ok _, state) rfl
  | findTransactions taskId => exact @hsession _ (.ok _, state) rfl

/-- A move that is answered took effect. -/
theorem updateTask_ok {status : TaskStatus} {result : Option Json}
    (hanswer : (taskMachine.answer (.updateTask taskId status result) input state).1 = .ok ()) :
    ∃ row, state.tasks.find taskId = some row ∧
      (taskMachine.answer (.updateTask taskId status result) input state).2.statusOf taskId =
        some status := by
  have hthrough : (state.updateTask taskId status result).1 = .ok () ∧
      (taskMachine.answer (.updateTask taskId status result) input state).2 =
        (state.updateTask taskId status result).2 := by
    simp only [taskMachine, TaskState.through] at hanswer ⊢
    split
    · next houtage =>
        rw [houtage] at hanswer
        exact ⟨hanswer, rfl⟩
    · next error houtage =>
        rw [houtage] at hanswer
        cases hanswer
  obtain ⟨hfound, hafter⟩ := TaskState.written_ok hthrough.1
  obtain ⟨row, hrow, -⟩ := Option.map_eq_some_iff.mp hfound
  have hupdated : (state.updateTask taskId status result).2 = _ := hafter
  refine ⟨row, hrow, ?_⟩
  rw [hthrough.2, hupdated, TaskState.statusOf, Table.committedAt,
    Table.find_modify (Stored.put_key _), hrow]
  rfl

/-- A claim on another task. -/
theorem update_claims_apply {other : String} (hother : taskId ≠ other) (flag : Bool) (holder : ℕ) :
    Function.update ghosts thread (Function.update (ghosts thread) other flag) holder taskId =
      ghosts holder taskId := by
  by_cases hsame : holder = thread
  · rw [hsame, Function.update_self, Function.update_of_ne hother]
  · rw [Function.update_of_ne hsame]

/-- What a statement leaves of the claims of a task. -/
theorem answer_atMost (hentitled : Entitled op (state, ghosts thread))
    (hmoves : IsEarly ((taskMachine.answer op input state).2.statusOf taskId) →
      IsEarly (state.statusOf taskId))
    (hatMost : AtMost taskId budget ghosts state) :
    AtMost taskId budget
      (Function.update ghosts thread
        (claim op (taskMachine.answer op input state).1 (ghosts thread)))
      (taskMachine.answer op input state).2 := by
  have hcount := congrArg (List.count taskId) (answer_routed op input state)
  rw [List.count_append] at hcount
  cases op with
  | updateTask other status result =>
      have hsame : ∀ answer : Except DbError Unit, (status = .IN_PROGRESS → ∀ value, answer ≠ .ok value) →
          claim (.updateTask other status result) answer (ghosts thread) = ghosts thread := by
        intro answer hclaim
        cases answer with
        | error error => cases status <;> rfl
        | ok value =>
            cases status with
            | IN_PROGRESS => exact absurd rfl (hclaim rfl value)
            | _ => rfl
      cases hanswer : (taskMachine.answer (.updateTask other status result) input state).1 with
      | error error =>
          rw [hsame (.error error) fun _ _ herror => (nomatch herror), Function.update_eq_self]
          exact hatMost.same hmoves hcount fun _ => rfl
      | ok value =>
          by_cases hclaims : status = .IN_PROGRESS
          · obtain rfl := hclaims
            by_cases htask : taskId = other
            · obtain rfl := htask
              obtain ⟨row, hrow, hafter⟩ := updateTask_ok hanswer
              have hstatus : state.statusOf taskId = some row.committed.status := by
                rw [TaskState.statusOf, Table.committedAt, hrow]
                rfl
              have hearly : IsEarly (state.statusOf taskId) := by
                have hallowed := hentitled.1 _ hstatus
                rw [hstatus]
                revert hallowed
                cases row.committed.status <;> decide
              refine hatMost.claimed hearly hcount ?_ (ghosts thread)
              rw [hafter]
              decide
            · exact hatMost.same hmoves hcount (update_claims_apply htask true)
          · rw [hsame (.ok value) fun hclaim => absurd hclaim hclaims, Function.update_eq_self]
            exact hatMost.same hmoves hcount fun _ => rfl
  | routeToAgent task =>
      by_cases htask : taskId = task.id
      · obtain rfl := htask
        have hhanded : (state.routed ++ [task.id]).count task.id = state.routed.count task.id + 1 := by
          rw [List.count_append, List.count_singleton_self]
        have hstatus : ({ state with routed := state.routed ++ [task.id] } : TaskState).statusOf
            task.id = state.statusOf task.id := rfl
        exact hatMost.handedOver (hentitled.2 task.id rfl) hstatus hhanded (ghosts thread)
      · refine hatMost.same hmoves ?_ (update_claims_apply htask false)
        rw [hcount]
        exact congrArg _ (List.count_eq_zero.mpr (by simpa [TaskOp.routes] using htask))
  | _ =>
      refine hatMost.same hmoves hcount fun holder => ?_
      exact congrFun (congrFun (Function.update_eq_self thread ghosts) holder) taskId

end AtMost

/-! ## Runs of concurrent deliveries -/

/-- How often a task may have been handed over: as often as at the start, and once more if it
can still be claimed there. -/
def handovers (start : TaskState) (taskId : String) : ℕ :=
  start.routed.count taskId + if IsEarly (start.statusOf taskId) then 1 else 0

/-- A step that leaves the windows of the others alone. -/
structure OrdersClaims (pool : TaskPool) (choice : ℕ × TaskInput) : Prop where
  proceeds : Proceeds pool choice
  undisturbed : pool.Undisturbed taskMachine (fun _ => ClaimWindow) choice

instance decidableOrdersClaims (pool : TaskPool) (choice : ℕ × TaskInput) :
    Decidable (OrdersClaims pool choice) :=
  decidable_of_iff (Proceeds pool choice ∧
      pool.Undisturbed taskMachine (fun _ => ClaimWindow) choice)
    ⟨fun ⟨hproceeds, hothers⟩ => ⟨hproceeds, hothers⟩, fun ⟨hproceeds, hothers⟩ => ⟨hproceeds, hothers⟩⟩

/-- Every call hands over only what it has claimed, and the claims are within the budget. -/
structure Licensed (start : TaskState) (pool : TaskPool) (ghosts : ℕ → Claims) : Prop where
  orderly : Orderly pool
  tracked : pool.Tracked taskMachine claim (fun _ => ClaimWindow)
    (fun op _ pair => Entitled op pair) ghosts
  atMost : ∀ taskId, AtMost taskId (handovers start taskId) ghosts pool.state

section Runs

variable {start state : TaskState} {pool : TaskPool} {choice : ℕ × TaskInput}
  {ghosts : ℕ → Claims} {runtime : Runtime} {routing : PaymentRouting} {calls : List TaskCall}

theorem taskPool_licensed (hkeyed : state.Keyed) (hidle : state.Idle) :
    Licensed state (taskPool runtime routing calls state) fun _ _ => false where
  orderly := taskPool_orderly hkeyed hidle
  tracked := taskPool_tracked entitled_permits executeTask_claiming calls state _
  atMost taskId := by
    unfold handovers
    refine ⟨fun hearly => ?_, fun _ hheld => (nomatch hheld), Nat.le_add_right ..⟩
    have hearly : IsEarly (state.statusOf taskId) := hearly
    rw [if_pos hearly]
    exact ⟨le_rfl, fun _ => rfl⟩

theorem Licensed.step (hlicensed : Licensed start pool ghosts) (horders : OrdersClaims pool choice) :
    ∃ after, Licensed start (pool.step taskMachine choice) after := by
  obtain ⟨hentitled, htracked⟩ := hlicensed.tracked.step (fun _ => statusWindow_isWindow _)
    horders.undisturbed
  refine ⟨_, hlicensed.orderly.step horders.proceeds, htracked, fun taskId => ?_⟩
  unfold Pool.ghostsAfter
  cases hpending : pool.pending choice.1 with
  | none =>
      rw [Pool.step_of_pending_none taskMachine hpending]
      exact hlicensed.atMost taskId
  | some op =>
      rw [Pool.step_state_of_pending hpending]
      refine answer_atMost (hentitled op hpending) ?_ (hlicensed.atMost taskId)
      exact answer_early hlicensed.orderly.keyed
        (hlicensed.orderly.guarantees choice op hpending) (hentitled op hpending).1

theorem Licensed.run (hlicensed : Licensed start pool ghosts) {choices : List (ℕ × TaskInput)}
    (hrun : Pool.Along taskMachine OrdersClaims choices pool) :
    ∃ after, Licensed start (pool.run taskMachine choices) after := by
  induction choices generalizing pool ghosts with
  | nil => exact ⟨ghosts, hlicensed⟩
  | cons choice rest ih =>
      obtain ⟨after, hnext⟩ := hlicensed.step hrun.1
      exact ih hnext hrun.2

end Runs

/-! ## Two deliveries of one task -/

def assignedTask : TaskState where
  tasks := [.stored "task-1" ⟨.BRIDGE, .ASSIGNED, 0, 0, 0, .null, none⟩]
  units := []
  logs := []
  transactions := []
  jobs := []
  routed := []

/-- One task is delivered twice. -/
def deliveries : TaskPool :=
  taskPool (.ofTable [] []) arcMainnet [.executeTask "task-1", .executeTask "task-1"] assignedTask

/-- The second delivery arrives while the first executes the task. -/
def secondLater : List (ℕ × TaskInput) :=
  [0, 0, 0, 1, 0, 0, 0, 0, 0, 0, 0, 1, 1].map fun session => (session, undelayed)

/-- Both deliveries find the task assigned. -/
def bothClaim : List (ℕ × TaskInput) :=
  [0, 0, 1, 1, 0, 1, 0, 0, 0, 1, 1, 1].map fun session => (session, undelayed)

end WizPay.Tasks
