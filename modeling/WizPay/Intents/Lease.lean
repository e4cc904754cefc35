import WizPay.Backend.Windows
import WizPay.Intents.Completion
import WizPay.Intents.Terminal

/-!
# Wallet leases

A hash binding that is no recovery reads the intent, asserts the caller's lease if
a wallet submission is open, and then writes on the one condition that no hash is
bound. The lease it asserted is the one it writes under as long as nobody touches
the status or the lease in between, and the lease does not run out.
-/

namespace WizPay.Intents

open Foundation Backend ExecutionIntentStatus

/-- The row is leased to the owner, and the lease has not expired. -/
def ExecutionIntent.LeasedTo (row : ExecutionIntent) (owner : String) (now : ℕ) : Prop :=
  row.leaseOwner = some owner ∧ row.leaseExpiresAt.any (fun expiry => now < expiry) = true

instance (row : ExecutionIntent) (owner : String) (now : ℕ) : Decidable (row.LeasedTo owner now) :=
  inferInstanceAs (Decidable (_ ∧ _))

/-- The intent that a call binds a hash to without recovery, and the lease owner it
names. -/
def IntentCall.binder : IntentCall → Option (String × Option String)
  | bindTransactionHash _ id _ leaseOwner false => some (id, leaseOwner)
  | postTransactionHash _ id body => some (id, some (stringField body "leaseOwner"))
  | _ => none

/-- The intent and the hash of the update that binds one to the other. -/
def IntentOp.binding : IntentOp → Option (String × String)
  | .updateMany (.bindTransactionHash id hash) => some (id, hash)
  | _ => none

/-- A hash binding takes an intent out of `AWAITING_WALLET_SIGNATURE` only under the
named lease. -/
def BindsUnderLease (leaseOwner : Option String) (op : IntentOp) (input : Input)
    (database : Database) : Prop :=
  ∀ binding ∈ op.binding, Commits (.bindTransactionHash binding.1 binding.2) input database →
    ∀ row ∈ database.intents,
      (IntentUpdate.bindTransactionHash binding.1 binding.2).selects row = true →
        row.status = AWAITING_WALLET_SIGNATURE →
          ∃ owner ∈ leaseOwner, row.LeasedTo owner input.now

instance (leaseOwner : Option String) (op : IntentOp) (input : Input) (database : Database) :
    Decidable (BindsUnderLease leaseOwner op input database) :=
  inferInstanceAs (Decidable (∀ binding ∈ _, _ → ∀ row ∈ _, _))

/-- The same of the operations of every call that binds a hash without recovery. -/
def BindUnderLease (calls : List IntentCall) (thread : ℕ) (op : IntentOp) (input : Input)
    (database : Database) : Prop :=
  ∀ binder ∈ calls[thread]?.bind IntentCall.binder, BindsUnderLease binder.2 op input database

/-- An intent has one holder of an unexpired lease at a time. -/
def OneHolder (database : Database) : Prop :=
  ∀ row ∈ database.intents, ∀ other ∈ database.intents, row.id = other.id →
    ∀ now owner holder, row.LeasedTo owner now → other.LeasedTo holder now → owner = holder

/-- What the lease is for, in one run of concurrent calls: a wallet submission is
closed under the lease of the caller that closes it, and at most one owner holds an
unexpired lease at any moment. -/
structure LeaseDiscipline (runtime : Runtime) (routing : PaymentRouting) (calls : List IntentCall)
    (database : Database) (choices : List (ℕ × Input)) : Prop where
  binds : Pool.Along (intentMachine runtime routing) (Pool.Conditioned (BindUnderLease calls))
    choices (callPool runtime routing calls database)
  holder : ∀ first rest, choices = first ++ rest → OneHolder
    ((callPool runtime routing calls database).run (intentMachine runtime routing) first).state

/-! ## The window -/

/-- The operations of a binding call between its last look at the intent and its write,
and the write itself. -/
def IntentOp.inWindow (op : IntentOp) : Bool :=
  op.binding.isSome || op matches .now

/-- The status and the lease of an intent are as before. -/
def SameLease (id : String) (before after : Database) : Prop :=
  ∀ row ∈ after.intents, row.id = id → ∃ old ∈ before.intents, old.id = id ∧
    old.status = row.status ∧ old.leaseOwner = row.leaseOwner ∧
      old.leaseExpiresAt = row.leaseExpiresAt

instance (id : String) (before after : Database) : Decidable (SameLease id before after) :=
  inferInstanceAs (Decidable (∀ row ∈ _, _))

theorem SameLease.refl (id : String) (database : Database) : SameLease id database database :=
  fun row hmember hid => ⟨row, hmember, hid, rfl, rfl, rfl⟩

theorem SameLease.trans {id : String} {first second third : Database}
    (hfirst : SameLease id first second) (hsecond : SameLease id second third) :
    SameLease id first third := by
  intro row hmember hid
  obtain ⟨middle, hmiddle, hmiddleId, hstatus, howner, hexpiry⟩ := hsecond row hmember hid
  obtain ⟨old, hold, holdId, hsameStatus, hsameOwner, hsameExpiry⟩ := hfirst middle hmiddle hmiddleId
  exact ⟨old, hold, holdId, hsameStatus.trans hstatus, hsameOwner.trans howner,
    hsameExpiry.trans hexpiry⟩

/-- What a binding call expects of the others before each operation: once it has read
the intent, its status and its lease stay. -/
def LeaseWindow (id : String) (op : IntentOp) (before after : Database) : Prop :=
  op.inWindow = true → SameLease id before after

instance (id : String) (op : IntentOp) (before after : Database) :
    Decidable (LeaseWindow id op before after) :=
  inferInstanceAs (Decidable (_ → _))

theorem leaseWindow_isWindow (id : String) : IsWindow (LeaseWindow id) where
  refl _ database _ := SameLease.refl id database
  trans hfirst hsecond hwindow := (hfirst hwindow).trans (hsecond hwindow)

/-- The clock has not reached the end of the lease when a hash is bound. -/
def BindsInTime (op : IntentOp) (input : Input) (database : Database) : Prop :=
  ∀ binding ∈ op.binding, ∀ row ∈ database.intents, row.id = binding.1 →
    ∀ expiry ∈ row.leaseExpiresAt, input.now < expiry

instance (op : IntentOp) (input : Input) (database : Database) :
    Decidable (BindsInTime op input database) :=
  inferInstanceAs (Decidable (∀ binding ∈ _, ∀ row ∈ _, _))

/-- Rows of the intent that wait for a signature are leased to the named owner. -/
def Leased (id : String) (leaseOwner : Option String) (database : Database) : Prop :=
  ∀ row ∈ database.intents, row.id = id → row.status = AWAITING_WALLET_SIGNATURE →
    row.leaseExpiresAt.isSome = true ∧ ∃ owner, leaseOwner = some owner ∧ row.leaseOwner = some owner

theorem Leased.sameLease {id : String} {leaseOwner : Option String} {before after : Database}
    (hsame : SameLease id before after) (hleased : Leased id leaseOwner before) :
    Leased id leaseOwner after := by
  intro row hmember hid hstatus
  obtain ⟨old, hold, holdId, hsameStatus, howner, hexpiry⟩ := hsame row hmember hid
  rw [← howner, ← hexpiry]
  exact hleased old hold holdId (hsameStatus.trans hstatus)

variable {runtime : Runtime} {routing : PaymentRouting}

/-- A write to a leased intent in time is one under the lease. -/
theorem Leased.bindsUnderLease {id hash : String} {leaseOwner : Option String} {input : Input}
    {database : Database} (hleased : Leased id leaseOwner database)
    (htime : BindsInTime (.updateMany (.bindTransactionHash id hash)) input database) :
    BindsUnderLease leaseOwner (.updateMany (.bindTransactionHash id hash)) input database := by
  rintro _ ⟨⟩ - row hmember hselects hstatus
  simp only [IntentUpdate.selects, Bool.and_eq_true, decide_eq_true_eq] at hselects
  obtain ⟨hexpires, owner, hcaller, howner⟩ := hleased row hmember hselects.1 hstatus
  obtain ⟨expiry, hexpiry⟩ := Option.isSome_iff_exists.mp hexpires
  have hnow := htime (id, hash) rfl row hmember hselects.1 expiry hexpiry
  exact ⟨owner, hcaller, howner, by simpa [hexpiry] using hnow⟩

/-- Anything but a hash binding is no matter of leases. -/
theorem bindsUnderLease_of_other {leaseOwner : Option String} {op : IntentOp}
    (hop : op.binding = none) (input : Input) (database : Database) :
    BindsUnderLease leaseOwner op input database := by
  intro binding hbinding
  rw [hop] at hbinding
  cases hbinding

/-! ## Binding in the window -/

section

open Service

variable {leaseOwner : Option String} {id : String}

/-- A binding call of the named owner, inside its window. -/
abbrev Binds (runtime : Runtime) (routing : PaymentRouting) (id : String)
    (leaseOwner : Option String) {α : Type} (post : α → Database → Prop)
    (service : IntentService α) (database : Database) : Prop :=
  Guarded (intentMachine runtime routing) (LeaseWindow id)
    (fun op input state => UniqueIntents state.intents ∧ BindsInTime op input state)
    (BindsUnderLease leaseOwner) post service database

/-- What was read of an intent's status and lease is what its row holds. -/
def LeaseRead (id : String) (intent : ExecutionIntent) (database : Database) : Prop :=
  ∀ row ∈ database.intents, row.id = id → row.status = intent.status ∧
    row.leaseOwner = intent.leaseOwner ∧ row.leaseExpiresAt = intent.leaseExpiresAt

theorem LeaseRead.sameLease {intent : ExecutionIntent} {before after : Database}
    (hsame : SameLease id before after) (hread : LeaseRead id intent before) :
    LeaseRead id intent after := by
  intro row hmember hid
  obtain ⟨old, hold, holdId, hstatus, howner, hexpiry⟩ := hsame row hmember hid
  rw [← hstatus, ← howner, ← hexpiry]
  exact hread old hold holdId

theorem LeaseRead.leased {intent : ExecutionIntent} {database : Database}
    (hread : LeaseRead id intent database)
    (hchecked : intent.status = AWAITING_WALLET_SIGNATURE → intent.leaseExpiresAt.isSome = true ∧
      ∃ owner, leaseOwner = some owner ∧ intent.leaseOwner = some owner) :
    Leased id leaseOwner database := by
  intro row hmember hid hstatus
  obtain ⟨hsameStatus, howner, hexpiry⟩ := hread row hmember hid
  rw [howner, hexpiry]
  exact hchecked (hsameStatus.symm.trans hstatus)

theorem leaseRead_of_find {intent : ExecutionIntent} {database : Database}
    (hunique : UniqueIntents database.intents)
    (hfound : database.findUnique (fun row => row.id = id) = some intent) :
    LeaseRead id intent database := by
  intro row hmember hid
  have hrow : row = intent := row_unique_id hunique hmember (List.mem_of_find?_eq_some hfound)
    (hid.trans (by simpa [eq_comm] using List.find?_some hfound))
  rw [hrow]
  exact ⟨rfl, rfl, rfl⟩

theorem perform_binds (op : IntentOp) {α : Type} {rest : op.Res → IntentService α}
    {post : α → Database → Prop} {database : Database}
    (hop : ∀ later, LeaseWindow id op database later → ∀ input, UniqueIntents later.intents →
      BindsInTime op input later → BindsUnderLease leaseOwner op input later ∧
        Binds runtime routing id leaseOwner post
          (rest ((intentMachine runtime routing).answer op input later).1)
          ((intentMachine runtime routing).answer op input later).2) :
    Binds runtime routing id leaseOwner post
      (perform (S := intentSignature) op >>= rest) database :=
  guarded_perform_bind fun later hlater input hinput => hop later hlater input hinput.1 hinput.2

theorem get_binds (database : Database) :
    Binds runtime routing id leaseOwner (LeaseRead id) (get routing id) database := by
  have hfind : Binds runtime routing id leaseOwner
      (fun found state => ∀ intent, found = some intent → LeaseRead id intent state)
      (findById id) database := by
    refine perform_binds (.findById id) fun later _ input hunique _ => ?_
    refine ⟨bindsUnderLease_of_other rfl input later, ?_⟩
    refine guarded_orThrow fun found hanswer intent hfound => ?_
    rw [hfound] at hanswer
    exact leaseRead_of_find hunique (read_ok hanswer)
  refine guarded_bind hfind fun found later hfound => ?_
  cases found with
  | none => exact guarded_throw _
  | some intent =>
      exact guarded_throwIf_bind fun _ => guarded_pure (hfound intent rfl)

theorem assertLease_binds (owner : String) (database : Database) :
    Binds runtime routing id leaseOwner (fun _ => Leased id (some owner))
      (assertLease routing id owner) database := by
  refine guarded_bind (get_binds database) fun intent later hread => ?_
  refine perform_binds .now fun last hlast input _ _ => ?_
  refine ⟨bindsUnderLease_of_other rfl input last, ?_⟩
  refine guarded_throwIf_bind fun hchecked => guarded_pure ?_
  simp only [not_or, not_not] at hchecked
  obtain ⟨-, howner, hexpiry⟩ := hchecked
  refine (hread.sameLease (hlast rfl)).leased fun _ => ⟨?_, owner, rfl, howner⟩
  cases hexpires : intent.leaseExpiresAt with
  | none => simp [hexpires] at hexpiry
  | some expiry => rfl

/-- The binding write under a lease that was checked; what follows it is arbitrary. -/
theorem tryUpdateMany_binds {rest : Except DbError ℕ → IntentService ExecutionIntent}
    {hash : String} {database : Database} (hleased : Leased id leaseOwner database)
    (hrest : ∀ answer later,
      Binds runtime routing id leaseOwner (fun _ _ => True) (rest answer) later) :
    Binds runtime routing id leaseOwner (fun _ _ => True)
      (tryUpdateMany (.bindTransactionHash id hash) >>= rest) database :=
  perform_binds (.updateMany (.bindTransactionHash id hash)) fun _ hlater _ _ htime =>
    ⟨(hleased.sameLease (hlater rfl)).bindsUnderLease htime, hrest _ _⟩

variable (routing leaseOwner id) in
/-- What both ways through a binding call end with. -/
def writeHash (attempts : ℕ) (hash : String) (answer : Except DbError ℕ) :
    IntentService ExecutionIntent :=
  match answer with
  | .ok count =>
      if count = 1 then get routing id
      else bindTransactionHash routing attempts id hash leaseOwner false
  | .error _ =>
      throw (hashConflict
        "The transaction hash is already bound to another execution intent.")

theorem bindTransactionHash_binds (attempts : ℕ) (hash : String) (leaseOwner : Option String)
    (database : Database) :
    Binds runtime routing id leaseOwner (fun _ _ => True)
      (bindTransactionHash routing attempts id hash leaseOwner false) database := by
  induction attempts generalizing hash database with
  | zero => exact guarded_throw _
  | succ attempts ih =>
      refine guarded_ofExcept_bind fun normalized _ => ?_
      refine guarded_bind (get_binds database) fun existing later hread => ?_
      split
      · exact guarded_pure trivial
      · refine guarded_throwIf_bind fun _ => ?_
        -- Both ways to the write know the row to be leased, if it waits for a signature.
        have hwrite : ∀ last, Leased id leaseOwner last → Binds runtime routing id leaseOwner
            (fun _ _ => True) (tryUpdateMany (.bindTransactionHash id normalized) >>=
              writeHash routing leaseOwner id attempts normalized) last := by
          intro last hleased
          refine tryUpdateMany_binds hleased fun answer final => ?_
          cases answer with
          | error error => exact guarded_throw _
          | ok count =>
              rw [writeHash]
              split
              · exact (get_binds final).mono fun _ _ _ => trivial
              · exact ih normalized final
        split
        · cases howner : nonempty leaseOwner with
          | none => exact guarded_throw _
          | some owner =>
              rw [nonempty_eq_some howner] at hwrite ⊢
              exact guarded_bind (guarded_discard (assertLease_binds owner later))
                fun _ last hleased => hwrite last hleased
        · next hstatus =>
            exact hwrite later (hread.leased fun hwaiting => absurd ⟨hwaiting, rfl⟩ hstatus)

end

/-! ## Concurrent calls -/

/-- What the binding calls expect of the others. -/
def KeepsLease (calls : List IntentCall) (thread : ℕ) (op : IntentOp) (before after : Database) :
    Prop :=
  ∀ binder ∈ calls[thread]?.bind IntentCall.binder, LeaseWindow binder.1 op before after

/-- The binding calls write in time. -/
def BindInTime (calls : List IntentCall) (thread : ℕ) (op : IntentOp) (input : Input)
    (database : Database) : Prop :=
  (calls[thread]?.bind IntentCall.binder).isSome = true → BindsInTime op input database

instance decidableKeepsLease (calls : List IntentCall) (thread : ℕ) (op : IntentOp) (before after : Database) :
    Decidable (KeepsLease calls thread op before after) :=
  inferInstanceAs (Decidable (∀ binder ∈ _, _))

instance decidableBindInTime (calls : List IntentCall) (thread : ℕ) (op : IntentOp) (input : Input)
    (database : Database) : Decidable (BindInTime calls thread op input database) :=
  inferInstanceAs (Decidable (_ → _))

instance decidableBindUnderLease (calls : List IntentCall) (thread : ℕ) (op : IntentOp) (input : Input)
    (database : Database) : Decidable (BindUnderLease calls thread op input database) :=
  inferInstanceAs (Decidable (∀ binder ∈ _, _))

variable (runtime routing) in
/-- No step changes the status or the lease of an intent while another call is about
to bind a hash to it, and hashes are bound before the lease runs out. -/
def LeaseRespected (calls : List IntentCall) (pool : IntentPool) (choice : ℕ × Input) : Prop :=
  pool.Conditioned (BindInTime calls) choice ∧
    pool.Undisturbed (intentMachine runtime routing) (KeepsLease calls) choice

instance (calls : List IntentCall) (pool : IntentPool) (choice : ℕ × Input) :
    Decidable (LeaseRespected runtime routing calls pool choice) :=
  @instDecidableAnd _ _
    (@Pool.decidableConditioned intentSignature Input Database _ (BindInTime calls)
      (decidableBindInTime calls) pool choice)
    (@Pool.decidableUndisturbed intentSignature Input Database _
      (intentMachine runtime routing) (KeepsLease calls) (decidableKeepsLease calls) pool choice)

instance (calls : List IntentCall) (pool : IntentPool) (choice : ℕ × Input) :
    Decidable (pool.Conditioned (BindUnderLease calls) choice) :=
  @Pool.decidableConditioned intentSignature Input Database _ (BindUnderLease calls)
    (decidableBindUnderLease calls) pool choice

open Service in
theorem IntentCall.binds {call : IntentCall} {id : String} {leaseOwner : Option String}
    (hcall : call.binder = some (id, leaseOwner)) (database : Database) :
    Binds runtime routing id leaseOwner (fun _ _ => True) (call.program runtime routing)
      database := by
  cases call with
  | bindTransactionHash attempts id hash leaseOwner recovery =>
      cases recovery with
      | true => cases hcall
      | false =>
          cases hcall
          exact bindTransactionHash_binds attempts hash leaseOwner database
  | postTransactionHash attempts id body =>
      cases hcall
      have haccess : Binds runtime routing id (some (stringField body "leaseOwner"))
          (fun _ _ => True) (Intents.assertAccess routing id (stringField body "idempotencyKey"))
          database :=
        guarded_bind (get_binds database) fun _ _ _ =>
          guarded_throwIf_bind fun _ => guarded_pure trivial
      exact guarded_bind (guarded_discard haccess) fun _ later _ =>
        bindTransactionHash_binds attempts _ _ later
  | _ => cases hcall

theorem oneHolder_of_unique {database : Database} (hunique : UniqueIntents database.intents) :
    OneHolder database := by
  intro row hrow other hother hid now owner holder howner hholder
  rw [row_unique_id hunique hrow hother hid] at howner
  exact Option.some.inj (howner.1.symm.trans hholder.1)

variable (runtime routing) in
/-- In every run of concurrent calls that respects the window between a binding call's
last look at an intent and its write, the leases do what they are for. -/
theorem lease_discipline (calls : List IntentCall) {database : Database}
    (hunique : UniqueIntents database.intents) {choices : List (ℕ × Input)}
    (hrun : Pool.Along (intentMachine runtime routing) (LeaseRespected runtime routing calls)
      choices (callPool runtime routing calls database)) :
    LeaseDiscipline runtime routing calls database choices := by
  have hpool : (callPool runtime routing calls database).Guarded (intentMachine runtime routing)
      (KeepsLease calls)
      (fun thread op input state =>
        UniqueIntents state.intents ∧ BindInTime calls thread op input state)
      (BindUnderLease calls) := by
    intro thread program hprogram
    obtain ⟨call, hcall, rfl⟩ := Option.map_eq_some_iff.mp (List.getElem?_map.symm.trans hprogram)
    have hthread : calls[thread]?.bind IntentCall.binder = call.binder := by rw [hcall]; rfl
    cases hbinder : call.binder with
    | none =>
        refine Program.guarded_of_forall (fun op input state binder hmember => ?_) _ _
        rw [hthread, hbinder] at hmember
        cases hmember
    | some binder =>
        rw [hbinder] at hthread
        refine ((IntentCall.binds hbinder database).imp ?_ ?_ ?_).mono fun _ _ _ => trivial
        · exact fun op before after hkeeps => hkeeps binder hthread
        · intro op input state hcondition
          exact ⟨hcondition.1, hcondition.2 (by rw [hthread]; rfl)⟩
        · intro op input state hunder other hother
          rw [hthread] at hother
          obtain rfl := Option.some.inj hother
          exact hunder
  constructor
  · refine hpool.run (fun thread => ?_) ?_
    · exact ⟨fun op state binder _ => (leaseWindow_isWindow binder.1).refl op state,
        fun hfirst hsecond binder hmember =>
          (leaseWindow_isWindow binder.1).trans (hfirst binder hmember) (hsecond binder hmember)⟩
    · refine @Pool.along_of_invariant intentSignature Input Database _ _
        (fun pool => UniqueIntents pool.state.intents) _ _ (fun pool choice hkept => ?_)
        (fun pool choice hkept hchoice => ?_) _ hunique _ hrun
      · exact (run_progresses runtime routing hkept [choice]).unique
      · exact ⟨fun op hop => ⟨hkept, hchoice.1 op hop⟩, hchoice.2⟩
  · intro first rest _
    exact oneHolder_of_unique (run_progresses runtime routing hunique first).unique

/-- The browser that prepares a wallet submission, and the one that binds its hash. -/
def exampleSubmission (leaseOwner : String) : List IntentCall := [
  .postPrepareWallet "intent-1" (.object [
    ("idempotencyKey", .string "4c4fed01-cc08-5f3e-9415-22aaf27433af"),
    ("leaseOwner", .string "browser-1")]),
  .postTransactionHash 2 "intent-1" (.object [
    ("idempotencyKey", .string "4c4fed01-cc08-5f3e-9415-22aaf27433af"),
    ("leaseOwner", .string leaseOwner),
    ("transactionHash",
      .string "0x3333333333333333333333333333333333333333333333333333333333333333")])]

/-- One call after the other. -/
def submissionInOrder : List (ℕ × Input) :=
  (List.replicate 7 0 ++ List.replicate 6 1).map fun thread => (thread, exampleInput)

/-- A browser that binds the hash of the submission it prepared. -/
theorem lease_discipline_in_order :
    ((callPool exampleRuntime arcMainnet (exampleSubmission "browser-1") exampleDatabase).run
        (intentMachine exampleRuntime arcMainnet) submissionInOrder).state.statusOf "intent-1" =
      some SUBMITTED ∧
    LeaseDiscipline exampleRuntime arcMainnet (exampleSubmission "browser-1") exampleDatabase
      submissionInOrder := by
  have hunique : UniqueIntents exampleDatabase.intents := by decide +kernel
  have hrun : Pool.Along (intentMachine exampleRuntime arcMainnet)
      (LeaseRespected exampleRuntime arcMainnet (exampleSubmission "browser-1")) submissionInOrder
      (callPool exampleRuntime arcMainnet (exampleSubmission "browser-1") exampleDatabase) := by
    decide +kernel
  exact ⟨by decide +kernel,
    lease_discipline exampleRuntime arcMainnet (exampleSubmission "browser-1") hunique hrun⟩

/-- The other browser reads the intent before it is prepared, and writes after. -/
def submissionTakenOver : List (ℕ × Input) :=
  ([1, 1] ++ List.replicate 7 0 ++ [1]).map fun thread => (thread, exampleInput)

/-- It closes the submission without ever having had a lease. -/
theorem submission_closed_without_lease :
    ¬ LeaseDiscipline exampleRuntime arcMainnet (exampleSubmission "browser-2") exampleDatabase
      submissionTakenOver := by
  intro hdiscipline
  have hviolated : ¬ Pool.Along (intentMachine exampleRuntime arcMainnet)
      (Pool.Conditioned (BindUnderLease (exampleSubmission "browser-2"))) submissionTakenOver
      (callPool exampleRuntime arcMainnet (exampleSubmission "browser-2") exampleDatabase) := by
    decide +kernel
  exact hviolated hdiscipline.binds

end WizPay.Intents
