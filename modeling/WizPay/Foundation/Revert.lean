import Mathlib.Data.List.Basic
import Mathlib.Logic.Function.Basic

/-!
# Calls that revert

A call reads and writes a state and either returns a value or reverts. A
reverted call leaves the state it started from, so a run of calls only ever
moves through the states its successful calls produce. The rules below take a
successful call apart and carry facts from one successful call to a whole run.
-/

namespace WizPay.Foundation

/-- A call over state `σ` that may revert with an error of type `ε`. -/
abbrev Call (ε σ α : Type) := StateT σ (Except ε) α

namespace Call

variable {ε σ α β γ τ κ : Type}

def revert (error : ε) : Call ε σ α := throw error

/-- The statement `if (condition) revert error;`. -/
def revertIf (condition : Prop) [Decidable condition] (error : ε) : Call ε σ Unit :=
  if condition then revert error else pure ()

/-- The statement `if (condition) { body }`. -/
def when (condition : Prop) [Decidable condition] (body : Call ε σ Unit) : Call ε σ Unit :=
  if condition then body else pure ()

/-- A call into code outside the caller: the state it leaves, or a revert. -/
def external (effect : σ → Option σ) (error : ε) : Call ε σ Unit := fun state =>
  match effect state with
  | some next => .ok ((), next)
  | none => .error error

/-! ## Taking a successful call apart -/

theorem bind_ok {call : Call ε σ α} {rest : α → Call ε σ β} {state : σ} {result : β × σ} :
    (call >>= rest).run state = .ok result ↔
      ∃ value middle, call.run state = .ok (value, middle) ∧
        (rest value).run middle = .ok result := by
  rw [StateT.run_bind]
  cases hcall : call.run state with
  | error error => simp [Bind.bind, Except.bind]
  | ok first =>
      obtain ⟨value, middle⟩ := first
      simp only [Bind.bind, Except.bind, Except.ok.injEq, Prod.mk.injEq]
      constructor
      · exact fun hrest => ⟨value, middle, ⟨rfl, rfl⟩, hrest⟩
      · rintro ⟨_, _, ⟨rfl, rfl⟩, hrest⟩
        exact hrest

theorem pure_ok {value : α} {state : σ} {result : α × σ} :
    (pure value : Call ε σ α).run state = .ok result ↔ (value, state) = result :=
  ⟨fun hrun => Except.ok.inj hrun, fun hresult => congrArg Except.ok hresult⟩

theorem revert_ok {error : ε} {state : σ} {result : α × σ} :
    (revert error : Call ε σ α).run state = .ok result ↔ False := by
  constructor
  · intro hrun
    cases hrun
  · exact False.elim

theorem revertIf_ok {condition : Prop} [Decidable condition] {error : ε} {state : σ}
    {result : Unit × σ} :
    (revertIf condition error).run state = .ok result ↔ ¬ condition ∧ ((), state) = result := by
  unfold revertIf
  split
  next hcondition => rw [revert_ok]; exact ⟨False.elim, fun h => h.1 hcondition⟩
  next hcondition => rw [pure_ok]; exact ⟨fun h => ⟨hcondition, h⟩, fun h => h.2⟩

theorem when_ok {condition : Prop} [Decidable condition] {body : Call ε σ Unit} {state : σ}
    {result : Unit × σ} :
    (when condition body).run state = .ok result ↔
      (condition ∧ body.run state = .ok result) ∨ (¬ condition ∧ ((), state) = result) := by
  unfold when
  split
  next hcondition => simp [hcondition]
  next hcondition => rw [pure_ok]; simp [hcondition]

theorem external_ok {effect : σ → Option σ} {error : ε} {state : σ} {result : Unit × σ} :
    (external effect error).run state = .ok result ↔
      ∃ next, effect state = some next ∧ ((), next) = result := by
  change (match effect state with
    | some next => Except.ok ((), next)
    | none => Except.error error) = _ ↔ _
  cases effect state with
  | none => simp
  | some next => simp

theorem get_ok {state : σ} {result : σ × σ} :
    (get : Call ε σ σ).run state = .ok result ↔ (state, state) = result :=
  ⟨fun hrun => Except.ok.inj hrun, fun hresult => congrArg Except.ok hresult⟩

theorem modify_ok {change : σ → σ} {state : σ} {result : PUnit × σ} :
    (modify change : Call ε σ PUnit).run state = .ok result ↔
      (PUnit.unit, change state) = result :=
  ⟨fun hrun => Except.ok.inj hrun, fun hresult => congrArg Except.ok hresult⟩

/-! ## Taking the first statement off a successful call -/

section Sequencing

variable {rest : Unit → Call ε σ β} {state : σ} {result : β × σ}

theorem bind_get_ok {rest : σ → Call ε σ β} :
    ((get : Call ε σ σ) >>= rest).run state = .ok result ↔
      (rest state).run state = .ok result := by
  rw [bind_ok]
  exact ⟨fun ⟨_, _, hget, hrest⟩ => by cases get_ok.mp hget; exact hrest,
    fun hrest => ⟨state, state, rfl, hrest⟩⟩

theorem bind_modify_ok {change : σ → σ} {rest : PUnit → Call ε σ β} :
    ((modify change : Call ε σ PUnit) >>= rest).run state = .ok result ↔
      (rest PUnit.unit).run (change state) = .ok result := by
  rw [bind_ok]
  exact ⟨fun ⟨_, _, hmodify, hrest⟩ => by cases modify_ok.mp hmodify; exact hrest,
    fun hrest => ⟨PUnit.unit, change state, rfl, hrest⟩⟩

theorem bind_pure_ok {value : α} {rest : α → Call ε σ β} :
    ((pure value : Call ε σ α) >>= rest).run state = .ok result ↔
      (rest value).run state = .ok result := by
  rw [bind_ok]
  exact ⟨fun ⟨_, _, hpure, hrest⟩ => by cases pure_ok.mp hpure; exact hrest,
    fun hrest => ⟨value, state, rfl, hrest⟩⟩

theorem bind_revertIf_ok {condition : Prop} [Decidable condition] {error : ε} :
    (revertIf condition error >>= rest).run state = .ok result ↔
      ¬ condition ∧ (rest ()).run state = .ok result := by
  rw [bind_ok]
  constructor
  · rintro ⟨value, middle, hcheck, hrest⟩
    obtain ⟨hcondition, hsame⟩ := revertIf_ok.mp hcheck
    cases hsame
    exact ⟨hcondition, hrest⟩
  · rintro ⟨hcondition, hrest⟩
    exact ⟨(), state, revertIf_ok.mpr ⟨hcondition, rfl⟩, hrest⟩

theorem bind_external_ok {effect : σ → Option σ} {error : ε} :
    (external effect error >>= rest).run state = .ok result ↔
      ∃ next, effect state = some next ∧ (rest ()).run next = .ok result := by
  rw [bind_ok]
  constructor
  · rintro ⟨value, middle, hcall, hrest⟩
    obtain ⟨next, hnext, hsame⟩ := external_ok.mp hcall
    cases hsame
    exact ⟨_, hnext, hrest⟩
  · rintro ⟨next, hnext, hrest⟩
    exact ⟨(), next, external_ok.mpr ⟨next, hnext, rfl⟩, hrest⟩

end Sequencing

/-! ## Taking a failed call apart -/

section Failing

variable {state : σ} {error : ε}

theorem bind_error {call : Call ε σ α} {rest : α → Call ε σ β} :
    (call >>= rest).run state = .error error ↔
      call.run state = .error error ∨ ∃ value middle, call.run state = .ok (value, middle) ∧
        (rest value).run middle = .error error := by
  rw [StateT.run_bind]
  cases hcall : call.run state with
  | error first => simp [Bind.bind, Except.bind]
  | ok first =>
      obtain ⟨value, middle⟩ := first
      simp only [Bind.bind, Except.bind, reduceCtorEq, false_or, Except.ok.injEq, Prod.mk.injEq]
      constructor
      · exact fun hrest => ⟨value, middle, ⟨rfl, rfl⟩, hrest⟩
      · rintro ⟨_, _, ⟨rfl, rfl⟩, hrest⟩
        exact hrest

theorem pure_error {value : α} : (pure value : Call ε σ α).run state ≠ .error error :=
  fun hrun => nomatch hrun

theorem modify_error {change : σ → σ} :
    (modify change : Call ε σ PUnit).run state ≠ .error error :=
  fun hrun => nomatch hrun

theorem revert_error {other : ε} :
    (revert other : Call ε σ α).run state = .error error ↔ other = error :=
  ⟨fun hrun => Except.error.inj hrun, fun hsame => congrArg Except.error hsame⟩

theorem revertIf_error {condition : Prop} [Decidable condition] {other : ε} :
    (revertIf condition other).run state = .error error ↔ condition ∧ other = error := by
  unfold revertIf
  split
  next hcondition => rw [revert_error]; exact ⟨fun h => ⟨hcondition, h⟩, And.right⟩
  next hcondition => exact ⟨fun h => absurd h pure_error, fun h => absurd h.1 hcondition⟩

theorem when_error {condition : Prop} [Decidable condition] {body : Call ε σ Unit} :
    (when condition body).run state = .error error ↔
      condition ∧ body.run state = .error error := by
  unfold when
  split
  next hcondition => exact ⟨fun h => ⟨hcondition, h⟩, And.right⟩
  next hcondition => exact ⟨fun h => absurd h pure_error, fun h => absurd h.1 hcondition⟩

theorem bind_get_error {rest : σ → Call ε σ β} :
    ((get : Call ε σ σ) >>= rest).run state = .error error ↔
      (rest state).run state = .error error := Iff.rfl

theorem bind_modify_error {change : σ → σ} {rest : PUnit → Call ε σ β} :
    ((modify change : Call ε σ PUnit) >>= rest).run state = .error error ↔
      (rest PUnit.unit).run (change state) = .error error := Iff.rfl

theorem bind_revertIf_error {condition : Prop} [Decidable condition] {other : ε}
    {rest : Unit → Call ε σ β} :
    (revertIf condition other >>= rest).run state = .error error ↔
      condition ∧ other = error ∨ ¬ condition ∧ (rest ()).run state = .error error := by
  rw [bind_error, revertIf_error]
  refine or_congr_right ⟨?_, fun ⟨hcondition, hrest⟩ => ?_⟩
  · rintro ⟨value, middle, hcheck, hrest⟩
    obtain ⟨hcondition, hsame⟩ := revertIf_ok.mp hcheck
    cases hsame
    exact ⟨hcondition, hrest⟩
  · exact ⟨(), state, revertIf_ok.mpr ⟨hcondition, rfl⟩, hrest⟩

end Failing

/-! ## What a successful call leaves alone -/

/-- From a state with this reading, every successful run ends with the same
reading. -/
def Keeps (view : σ → γ) (reading : γ) (call : Call ε σ α) : Prop :=
  ∀ state value next, view state = reading → call.run state = .ok (value, next) →
    view next = reading

namespace Keeps

variable {view : σ → γ} {reading : γ}

theorem pure (value : α) : Keeps view reading (Pure.pure value : Call ε σ α) := by
  intro state result next hreading hrun
  obtain ⟨_, rfl⟩ := Prod.mk.inj (pure_ok.mp hrun)
  exact hreading

theorem bind {call : Call ε σ α} {rest : α → Call ε σ β} (hcall : Keeps view reading call)
    (hrest : ∀ value, Keeps view reading (rest value)) : Keeps view reading (call >>= rest) := by
  intro state result next hreading hrun
  obtain ⟨value, middle, hfirst, hsecond⟩ := bind_ok.mp hrun
  exact hrest value middle result next (hcall state value middle hreading hfirst) hsecond

theorem revertIf (condition : Prop) [Decidable condition] (error : ε) :
    Keeps view reading (Call.revertIf condition error : Call ε σ Unit) := by
  intro state result next hreading hrun
  obtain ⟨_, hstate⟩ := revertIf_ok.mp hrun
  obtain ⟨_, rfl⟩ := Prod.mk.inj hstate
  exact hreading

theorem get : Keeps view reading (MonadState.get : Call ε σ σ) := by
  intro state result next hreading hrun
  obtain ⟨_, rfl⟩ := Prod.mk.inj (get_ok.mp hrun)
  exact hreading

theorem external {effect : σ → Option σ} {error : ε}
    (heffect : ∀ state next, view state = reading → effect state = some next →
      view next = reading) :
    Keeps view reading (Call.external effect error) := by
  intro state result next hreading hrun
  obtain ⟨after, hafter, hnext⟩ := external_ok.mp hrun
  obtain ⟨_, rfl⟩ := Prod.mk.inj hnext
  exact heffect state after hreading hafter

theorem when {condition : Prop} [Decidable condition] {body : Call ε σ Unit}
    (hbody : condition → Keeps view reading body) :
    Keeps view reading (Call.when condition body) := by
  unfold Call.when
  split
  next hcondition => exact hbody hcondition
  next => exact .pure ()

end Keeps

/-! ## How far a successful call goes -/

/-- Every successful run ends in a state related to the one it started from. -/
def Relates (relation : σ → σ → Prop) (call : Call ε σ α) : Prop :=
  ∀ state value next, call.run state = .ok (value, next) → relation state next

namespace Relates

variable {relation : σ → σ → Prop}

theorem pure (hrefl : ∀ state, relation state state) (value : α) :
    Relates relation (Pure.pure value : Call ε σ α) := by
  intro state result next hrun
  obtain ⟨_, rfl⟩ := Prod.mk.inj (pure_ok.mp hrun)
  exact hrefl state

theorem bind (htrans : ∀ first second third, relation first second → relation second third →
      relation first third) {call : Call ε σ α} {rest : α → Call ε σ β}
    (hcall : Relates relation call) (hrest : ∀ value, Relates relation (rest value)) :
    Relates relation (call >>= rest) := by
  intro state result next hrun
  obtain ⟨value, middle, hfirst, hsecond⟩ := bind_ok.mp hrun
  exact htrans _ _ _ (hcall state value middle hfirst) (hrest value middle result next hsecond)

theorem revertIf (hrefl : ∀ state, relation state state) (condition : Prop) [Decidable condition]
    (error : ε) : Relates relation (Call.revertIf condition error : Call ε σ Unit) := by
  intro state result next hrun
  obtain ⟨_, rfl⟩ := Prod.mk.inj (revertIf_ok.mp hrun).2
  exact hrefl state

theorem get (hrefl : ∀ state, relation state state) :
    Relates relation (MonadState.get : Call ε σ σ) := by
  intro state result next hrun
  obtain ⟨_, rfl⟩ := Prod.mk.inj (get_ok.mp hrun)
  exact hrefl state

theorem external {effect : σ → Option σ} {error : ε}
    (heffect : ∀ state next, effect state = some next → relation state next) :
    Relates relation (Call.external effect error) := by
  intro state result next hrun
  obtain ⟨after, hafter, hnext⟩ := external_ok.mp hrun
  obtain ⟨_, rfl⟩ := Prod.mk.inj hnext
  exact heffect state _ hafter

theorem when (hrefl : ∀ state, relation state state) {condition : Prop} [Decidable condition]
    {body : Call ε σ Unit} (hbody : condition → Relates relation body) :
    Relates relation (Call.when condition body) := by
  unfold Call.when
  split
  next hcondition => exact hbody hcondition
  next => exact .pure hrefl ()

end Relates

/-! ## Runs of calls -/

/-- The state after the call: a revert rolls every write back. -/
def commit (call : Call ε σ α) (state : σ) : σ :=
  match call.run state with
  | .ok (_, next) => next
  | .error _ => state

/-- The call returns normally from `state`. -/
def succeeds (call : Call ε σ α) (state : σ) : Bool :=
  match call.run state with
  | .ok _ => true
  | .error _ => false

/-- Why the call reverts from `state`, if it does. -/
def failure (call : Call ε σ α) (state : σ) : Option ε :=
  match call.run state with
  | .ok _ => none
  | .error error => some error

theorem succeeds_iff {call : Call ε σ α} {state : σ} :
    call.succeeds state = true ↔ ∃ value next, call.run state = .ok (value, next) := by
  unfold succeeds
  cases call.run state with
  | error error => simp
  | ok result => simpa using ⟨result.1, result.2, rfl⟩

theorem commit_of_ok {call : Call ε σ α} {state next : σ} {value : α}
    (hrun : call.run state = .ok (value, next)) : call.commit state = next := by
  simp [commit, hrun]

/-- A failing call changes nothing. -/
theorem commit_of_not_succeeds {call : Call ε σ α} {state : σ}
    (hfails : call.succeeds state = false) : call.commit state = state := by
  unfold succeeds at hfails
  unfold commit
  cases hrun : call.run state with
  | error error => rfl
  | ok result => simp [hrun] at hfails

variable (exec : τ → Call ε σ α)

/-- The state after a sequence of calls, each rolled back when it reverts. -/
def runAll : List τ → σ → σ
  | [], state => state
  | call :: rest, state => runAll rest ((exec call).commit state)

/-- The calls of the sequence that succeeded, in order. -/
def succeeded : List τ → σ → List τ
  | [], _ => []
  | call :: rest, state =>
      if (exec call).succeeds state then call :: succeeded rest ((exec call).commit state)
      else succeeded rest ((exec call).commit state)

/-- A property kept by every successful call holds after every run. -/
theorem runAll_invariant (invariant : σ → Prop)
    (hstep : ∀ call state value next, invariant state →
      (exec call).run state = .ok (value, next) → invariant next)
    (calls : List τ) (state : σ) (hstate : invariant state) :
    invariant (runAll exec calls state) := by
  induction calls generalizing state with
  | nil => exact hstate
  | cons call rest ih =>
      apply ih
      cases hsucceeds : (exec call).succeeds state with
      | false => rw [commit_of_not_succeeds hsucceeds]; exact hstate
      | true =>
          obtain ⟨value, next, hrun⟩ := succeeds_iff.mp hsucceeds
          rw [commit_of_ok hrun]
          exact hstep call state value next hstate hrun

theorem runAll_append (first second : List τ) (state : σ) :
    runAll exec (first ++ second) state = runAll exec second (runAll exec first state) := by
  induction first generalizing state with
  | nil => rfl
  | cons call rest ih => exact ih _

end Call

end WizPay.Foundation
