import WizPay.Foundation.Conditions

/-!
# Windows between operations

A program that reads a row, checks it and then writes is right as long as nobody
moves what it has read in between. What the others may do is therefore stated for
the operation a program is about to perform: anything before a read, and no change
of what was read before the write that trusts it.
-/

namespace WizPay.Foundation

/-- The moves allowed before an operation include none at all, and compose. -/
structure IsWindow {Op σ : Type} (rely : Op → σ → σ → Prop) : Prop where
  refl : ∀ op state, rely op state state
  trans : ∀ {op first second third}, rely op first second → rely op second third →
    rely op first third

namespace Program

variable {S : Signature} {ι σ α β : Type}

/-- As long as its operations meet the condition, and the others keep to what is
allowed before each, the operations are guaranteed. -/
def Guarded (machine : Machine S ι σ) (rely : S.Op → σ → σ → Prop)
    (condition guar : S.Op → ι → σ → Prop) (post : α → σ → Prop) : Program S α → σ → Prop
  | done value, state => post value state
  | perform op next, state => ∀ later, rely op state later → ∀ input, condition op input later →
      guar op input later ∧
        (next (machine.answer op input later).1).Guarded machine rely condition guar post
          (machine.answer op input later).2

variable {machine : Machine S ι σ} {rely : S.Op → σ → σ → Prop}
  {condition guar : S.Op → ι → σ → Prop} {post : α → σ → Prop}

theorem Guarded.mono {weaker : α → σ → Prop}
    (hweaker : ∀ value state, post value state → weaker value state) {program : Program S α}
    {state : σ} (hguarded : program.Guarded machine rely condition guar post state) :
    program.Guarded machine rely condition guar weaker state := by
  induction program generalizing state with
  | done value => exact hweaker value state hguarded
  | perform op next ih =>
      intro later hlater input hop
      obtain ⟨hguar, hnext⟩ := hguarded later hlater input hop
      exact ⟨hguar, ih _ hnext⟩

/-- Narrower windows and a stronger condition guarantee at least as much. -/
theorem Guarded.imp {narrower : S.Op → σ → σ → Prop} {stronger weaker : S.Op → ι → σ → Prop}
    (hrely : ∀ op state later, narrower op state later → rely op state later)
    (hcondition : ∀ op input state, stronger op input state → condition op input state)
    (hguar : ∀ op input state, guar op input state → weaker op input state)
    {program : Program S α} {state : σ}
    (hguarded : program.Guarded machine rely condition guar post state) :
    program.Guarded machine narrower stronger weaker post state := by
  induction program generalizing state with
  | done value => exact hguarded
  | perform op next ih =>
      intro later hlater input hop
      obtain ⟨hguard, hnext⟩ := hguarded later (hrely op state later hlater) input
        (hcondition op input later hop)
      exact ⟨hguar op input later hguard, ih _ hnext⟩

/-- The second part starts right where the first one ends. -/
theorem guarded_bind {program : Program S α} {rest : α → Program S β} {final : β → σ → Prop}
    {state : σ} (hprogram : program.Guarded machine rely condition guar post state)
    (hrest : ∀ value state, post value state →
      (rest value).Guarded machine rely condition guar final state) :
    (program >>= rest).Guarded machine rely condition guar final state := by
  induction program generalizing state with
  | done value => exact hrest value state hprogram
  | perform op next ih =>
      intro later hlater input hop
      obtain ⟨hguar, hnext⟩ := hprogram later hlater input hop
      exact ⟨hguar, ih _ hnext⟩

/-- Operations that are guaranteed in every state, and keep a fact that everybody
keeps before them, need no look at the states. -/
theorem Performs.guarded {allowed : S.Op → Prop} {fact : σ → Prop}
    (hstable : ∀ op state later, allowed op → rely op state later → fact state → fact later)
    (hop : ∀ op input state, allowed op → fact state →
      guar op input state ∧ fact (machine.answer op input state).2)
    {program : Program S α} (hprogram : program.Performs allowed) {state : σ}
    (hfact : fact state) :
    program.Guarded machine rely condition guar (fun _ state => fact state) state := by
  induction program generalizing state with
  | done value => exact hfact
  | perform op next ih =>
      intro later hlater input _
      obtain ⟨hguar, hnext⟩ := hop op input later hprogram.1
        (hstable op state later hprogram.1 hlater hfact)
      exact ⟨hguar, ih _ (hprogram.2 _) hnext⟩

/-- Guarantees that hold of every operation anywhere hold of every program. -/
theorem guarded_of_forall (hguar : ∀ op input state, guar op input state)
    (program : Program S α) (state : σ) :
    program.Guarded machine rely condition guar (fun _ _ => True) state := by
  induction program generalizing state with
  | done value => trivial
  | perform op next ih => exact fun later _ input _ => ⟨hguar op input later, ih _ _⟩

end Program

namespace Pool

variable {S : Signature} {ι σ α : Type} (machine : Machine S ι σ)
  (rely : ℕ → S.Op → σ → σ → Prop) (condition guar : ℕ → S.Op → ι → σ → Prop)

/-- A step moves the state only as the other threads allow before their next
operations. -/
def Undisturbed (pool : Pool S σ α) (choice : ℕ × ι) : Prop :=
  ∀ thread, thread ≠ choice.1 → ∀ op ∈ pool.pending thread,
    rely thread op pool.state (pool.step machine choice).state

/-- Every thread is guarded from here on. -/
def Guarded (pool : Pool S σ α) : Prop :=
  ∀ thread (program : Program S α), pool.threads[thread]? = some program →
    program.Guarded machine (rely thread) (condition thread) (guar thread) (fun _ _ => True)
      pool.state

theorem pending_eq_some {pool : Pool S σ α} {thread : ℕ} {op : S.Op} :
    pool.pending thread = some op ↔ ∃ next, pool.threads[thread]? = some (.perform op next) := by
  unfold pending
  split
  · next found next hthread =>
      rw [hthread]
      constructor
      · intro hop
        obtain rfl := Option.some.inj hop
        exact ⟨next, rfl⟩
      · rintro ⟨_, hsame⟩
        cases hsame
        rfl
  · next hnone =>
      constructor
      · intro hop
        cases hop
      · rintro ⟨next, hthread⟩
        exact absurd hthread (hnone op next)

/-- A thread with nothing to perform makes no step. -/
theorem step_of_pending_none {pool : Pool S σ α} {choice : ℕ × ι}
    (hpending : pool.pending choice.1 = none) : pool.step machine choice = pool := by
  unfold step
  split
  · next op next hthread =>
      rw [pending_eq_some.mpr ⟨next, hthread⟩] at hpending
      cases hpending
  · rfl

/-- Every thread performs allowed operations only. -/
def Performs (allowed : ℕ → S.Op → Prop) (pool : Pool S σ α) : Prop :=
  ∀ thread (program : Program S α), pool.threads[thread]? = some program →
    program.Performs (allowed thread)

theorem Performs.pending {allowed : ℕ → S.Op → Prop} {pool : Pool S σ α}
    (hpool : pool.Performs allowed) {thread : ℕ} {op : S.Op} (hpending : pool.pending thread = some op) :
    allowed thread op := by
  obtain ⟨next, hthread⟩ := pending_eq_some.mp hpending
  exact (hpool thread _ hthread).1

theorem Performs.step {allowed : ℕ → S.Op → Prop} {pool : Pool S σ α} (hpool : pool.Performs allowed)
    (choice : ℕ × ι) : (pool.step machine choice).Performs allowed := by
  unfold Pool.step
  split
  · next op next hchosen =>
      intro thread program hprogram
      by_cases hthread : choice.1 = thread
      · obtain rfl := hthread
        rw [List.getElem?_set_self (List.getElem?_eq_some_iff.mp hchosen).1] at hprogram
        obtain rfl := Option.some.inj hprogram
        exact (hpool _ _ hchosen).2 _
      · rw [List.getElem?_set_ne hthread] at hprogram
        exact hpool thread program hprogram
  · exact hpool

theorem pending_eq_none_of_le {pool : Pool S σ α} {thread : ℕ}
    (hthread : pool.threads.length ≤ thread) : pool.pending thread = none := by
  unfold pending
  rw [List.getElem?_eq_none hthread]

instance decidableUndisturbed [∀ thread op state later, Decidable (rely thread op state later)]
    (pool : Pool S σ α) (choice : ℕ × ι) : Decidable (pool.Undisturbed machine rely choice) :=
  decidable_of_iff (∀ thread < pool.threads.length, thread ≠ choice.1 →
      ∀ op ∈ pool.pending thread, rely thread op pool.state (pool.step machine choice).state) <| by
    refine ⟨fun hbelow thread hother op hop => ?_, fun hall thread _ => hall thread⟩
    by_cases hthread : thread < pool.threads.length
    · exact hbelow thread hthread hother op hop
    · rw [pending_eq_none_of_le (Nat.le_of_not_lt hthread)] at hop
      cases hop

instance decidableConditioned [∀ thread op input state, Decidable (condition thread op input state)]
    (pool : Pool S σ α) (choice : ℕ × ι) : Decidable (pool.Conditioned condition choice) :=
  inferInstanceAs (Decidable (∀ op ∈ pool.pending choice.1,
    condition choice.1 op choice.2 pool.state))

instance decidableAlong (condition : Pool S σ α → ℕ × ι → Prop)
    [∀ pool choice, Decidable (condition pool choice)] :
    (choices : List (ℕ × ι)) → (pool : Pool S σ α) → Decidable (Along machine condition choices pool)
  | [], _ => isTrue trivial
  | choice :: rest, pool =>
      have := decidableAlong condition rest (pool.step machine choice)
      inferInstanceAs (Decidable (_ ∧ _))

variable {machine rely condition guar}

/-- What the steps of a run keep may be assumed of each of them. -/
theorem along_of_invariant {fact : Pool S σ α → Prop} {condition stronger : Pool S σ α → ℕ × ι → Prop}
    (hstep : ∀ pool choice, fact pool → fact (pool.step machine choice))
    (hstronger : ∀ pool choice, fact pool → condition pool choice → stronger pool choice)
    {pool : Pool S σ α} (hstart : fact pool) {choices : List (ℕ × ι)}
    (hrun : Along machine condition choices pool) : Along machine stronger choices pool := by
  induction choices generalizing pool with
  | nil => exact along_nil pool
  | cons choice rest ih =>
      obtain ⟨hchoice, hrest⟩ := along_cons.mp hrun
      exact along_cons.mpr ⟨hstronger pool choice hstart hchoice, ih (hstep pool choice hstart) hrest⟩

/-- A step inside every window is guaranteed, and leaves every thread guarded. -/
theorem Guarded.step (hrely : ∀ thread, IsWindow (rely thread)) {pool : Pool S σ α}
    (hpool : pool.Guarded machine rely condition guar) {choice : ℕ × ι}
    (hown : pool.Conditioned condition choice) (hothers : pool.Undisturbed machine rely choice) :
    pool.Conditioned guar choice ∧
      (pool.step machine choice).Guarded machine rely condition guar := by
  have hkept : ∀ thread program, thread ≠ choice.1 → pool.threads[thread]? = some program →
      program.Guarded machine (rely thread) (condition thread) (guar thread) (fun _ _ => True)
        (pool.step machine choice).state := by
    intro thread program hother hthread
    have hguarded := hpool thread program hthread
    cases program with
    | done value => trivial
    | perform op next =>
        have hpending := pending_eq_some.mpr ⟨next, hthread⟩
        exact fun later hlater =>
          hguarded later ((hrely thread).trans (hothers thread hother op hpending) hlater)
  cases hpending : pool.pending choice.1 with
  | none =>
      rw [step_of_pending_none machine hpending]
      refine ⟨fun op hop => ?_, hpool⟩
      rw [hpending] at hop
      cases hop
  | some op =>
      obtain ⟨next, hchosen⟩ := pending_eq_some.mp hpending
      obtain ⟨hguar, hnext⟩ := hpool _ _ hchosen pool.state ((hrely _).refl op _) choice.2
        (hown op hpending)
      refine ⟨fun other hother => ?_, fun thread program hprogram => ?_⟩
      · obtain rfl := Option.some.inj (hpending.symm.trans hother)
        exact hguar
      · by_cases hother : thread = choice.1
        · obtain rfl := hother
          simp only [Pool.step, hchosen] at hprogram ⊢
          rw [List.getElem?_set_self (List.getElem?_eq_some_iff.mp hchosen).1] at hprogram
          obtain rfl := Option.some.inj hprogram
          exact hnext
        · refine hkept thread program hother ?_
          simp only [Pool.step, hchosen] at hprogram
          rwa [List.getElem?_set_ne (Ne.symm hother)] at hprogram

/-- In a run inside every window all steps are guaranteed. -/
theorem Guarded.run (hrely : ∀ thread, IsWindow (rely thread)) {pool : Pool S σ α}
    (hpool : pool.Guarded machine rely condition guar) {choices : List (ℕ × ι)}
    (hrun : Along machine (fun pool choice => pool.Conditioned condition choice ∧
      pool.Undisturbed machine rely choice) choices pool) :
    Along machine (Conditioned guar) choices pool := by
  induction choices generalizing pool with
  | nil => exact along_nil pool
  | cons choice rest ih =>
      obtain ⟨⟨hown, hothers⟩, hrest⟩ := along_cons.mp hrun
      obtain ⟨hguar, hnext⟩ := hpool.step hrely hown hothers
      exact along_cons.mpr ⟨hguar, ih hnext hrest⟩

end Pool

end WizPay.Foundation
