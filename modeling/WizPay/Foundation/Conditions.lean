import WizPay.Foundation.Interference

/-!
# Programs on a condition

Some programs keep their promises only in runs whose operations meet a condition.
What is known of such a program is what it guarantees and returns if every
operation it performs meets the condition, and the others move the state as the
rely relation allows.
-/

namespace WizPay.Foundation

namespace Program

variable {S : Signature} {ι σ α β : Type}

/-- As long as its operations meet the condition they are guaranteed, and what the
program returns meets the postcondition from then on. -/
def Expects (machine : Machine S ι σ) (rely : σ → σ → Prop)
    (condition guar : S.Op → ι → σ → Prop) (post : α → σ → Prop) : Program S α → σ → Prop
  | done value, state => ∀ later, rely state later → post value later
  | perform op next, state => ∀ later, rely state later → ∀ input, condition op input later →
      guar op input later ∧
        (next (machine.answer op input later).1).Expects machine rely condition guar post
          (machine.answer op input later).2

variable {machine : Machine S ι σ} {rely : σ → σ → Prop} {condition guar : S.Op → ι → σ → Prop}
  {post : α → σ → Prop}

theorem Expects.stable (hrely : IsRely rely) {program : Program S α} {state later : σ}
    (hexpects : program.Expects machine rely condition guar post state) (hlater : rely state later) :
    program.Expects machine rely condition guar post later := by
  cases program with
  | done value => exact fun last hlast => hexpects last (hrely.trans hlater hlast)
  | perform op next => exact fun last hlast => hexpects last (hrely.trans hlater hlast)

theorem Expects.mono {weaker : α → σ → Prop}
    (hweaker : ∀ value state, post value state → weaker value state) {program : Program S α}
    {state : σ} (hexpects : program.Expects machine rely condition guar post state) :
    program.Expects machine rely condition guar weaker state := by
  induction program generalizing state with
  | done value => exact fun later hlater => hweaker value later (hexpects later hlater)
  | perform op next ih =>
      intro later hlater input hop
      obtain ⟨hguar, hnext⟩ := hexpects later hlater input hop
      exact ⟨hguar, ih _ hnext⟩

theorem Expects.mono_condition {stronger : S.Op → ι → σ → Prop}
    (hstronger : ∀ op input state, stronger op input state → condition op input state)
    {program : Program S α} {state : σ}
    (hexpects : program.Expects machine rely condition guar post state) :
    program.Expects machine rely stronger guar post state := by
  induction program generalizing state with
  | done value => exact hexpects
  | perform op next ih =>
      intro later hlater input hop
      obtain ⟨hguar, hnext⟩ := hexpects later hlater input (hstronger op input later hop)
      exact ⟨hguar, ih _ hnext⟩

theorem Expects.mono_guar {weaker : S.Op → ι → σ → Prop}
    (hweaker : ∀ op input state, guar op input state → weaker op input state)
    {program : Program S α} {state : σ}
    (hexpects : program.Expects machine rely condition guar post state) :
    program.Expects machine rely condition weaker post state := by
  induction program generalizing state with
  | done value => exact hexpects
  | perform op next ih =>
      intro later hlater input hop
      obtain ⟨hguar, hnext⟩ := hexpects later hlater input hop
      exact ⟨hweaker op input later hguar, ih _ hnext⟩

/-- What interference keeps, and the program's own operations too, holds at its end. -/
theorem Expects.frame (hrely : IsRely rely) {fact : σ → Prop}
    (hstable : ∀ {state later}, rely state later → fact state → fact later)
    (hmove : ∀ op input state, rely state state → condition op input state →
      guar op input state → rely state (machine.answer op input state).2) {program : Program S α}
    {state : σ} (hexpects : program.Expects machine rely condition guar post state)
    (hfact : fact state) :
    program.Expects machine rely condition guar (fun value state => post value state ∧ fact state)
      state := by
  induction program generalizing state with
  | done value => exact fun later hlater => ⟨hexpects later hlater, hstable hlater hfact⟩
  | perform op next ih =>
      intro later hlater input hop
      obtain ⟨hguar, hnext⟩ := hexpects later hlater input hop
      have hmoved := hmove op input later (hrely.refl_after hlater) hop hguar
      exact ⟨hguar, ih _ hnext (hstable hmoved (hstable hlater hfact))⟩

/-- The second part starts where the first one ends, after some interference. -/
theorem expects_bind (hrely : IsRely rely) {program : Program S α} {rest : α → Program S β}
    {final : β → σ → Prop} {state : σ}
    (hprogram : program.Expects machine rely condition guar post state)
    (hrest : ∀ value state, post value state →
      (rest value).Expects machine rely condition guar final state) :
    (program >>= rest).Expects machine rely condition guar final state := by
  induction program generalizing state with
  | done value =>
      have hstart : ∀ later, rely state later →
          (rest value).Expects machine rely condition guar final later :=
        fun later hlater => hrest value later (hprogram later hlater)
      show (rest value).Expects machine rely condition guar final state
      cases hvalue : rest value with
      | done result =>
          intro later hlater
          have hdone := hstart later hlater
          rw [hvalue] at hdone
          exact hdone later (hrely.refl_after hlater)
      | perform op next =>
          intro later hlater
          have hperform := hstart later hlater
          rw [hvalue] at hperform
          exact hperform later (hrely.refl_after hlater)
  | perform op next ih =>
      intro later hlater input hop
      obtain ⟨hguar, hnext⟩ := hprogram later hlater input hop
      exact ⟨hguar, ih _ hnext⟩

/-- Operations that are guaranteed in every state need no look at the states. -/
theorem Performs.expects {allowed : S.Op → Prop}
    (hguar : ∀ op, allowed op → ∀ input state, guar op input state) {program : Program S α}
    (hprogram : program.Performs allowed) (state : σ) :
    program.Expects machine rely condition guar (fun _ _ => True) state := by
  induction program generalizing state with
  | done value => exact fun _ _ => trivial
  | perform op next ih =>
      exact fun later _ input _ => ⟨hguar op hprogram.1 input later, ih _ (hprogram.2 _) _⟩

section

variable {T : Signature} {κ τ : Type} {larger : Machine T κ τ} {relies : τ → τ → Prop}
  {conditions guards : T.Op → κ → τ → Prop} {embed : S.Op → T.Op}
  {reply : ∀ op, T.Res (embed op) → S.Res op}

/-- A program keeps its promise in the larger machine as in the part it sees. -/
theorem Expects.lift {project : τ → σ} {input : κ → ι}
    (hanswer : ∀ op choice state, reply op (larger.answer (embed op) choice state).1 =
      (machine.answer op (input choice) (project state)).1)
    (hstate : ∀ op choice state, project (larger.answer (embed op) choice state).2 =
      (machine.answer op (input choice) (project state)).2)
    (hrely : ∀ {state later}, relies state later → rely (project state) (project later))
    (hcondition : ∀ op choice state, conditions (embed op) choice state →
      condition op (input choice) (project state))
    (hguar : ∀ op choice state, guar op (input choice) (project state) →
      guards (embed op) choice state)
    {program : Program S α} {state : τ}
    (hprogram : program.Expects machine rely condition guar post (project state)) :
    (program.lift embed reply).Expects larger relies conditions guards
      (fun value state => post value (project state)) state := by
  induction program generalizing state with
  | done value => exact fun later hlater => hprogram _ (hrely hlater)
  | perform op next ih =>
      intro later hlater choice hop
      obtain ⟨hguarded, hnext⟩ := hprogram _ (hrely hlater) (input choice)
        (hcondition op choice later hop)
      refine ⟨hguar op choice later hguarded, ih _ ?_⟩
      rw [hanswer, hstate]
      exact hnext

end

/-- Guarantees that hold of every operation anywhere hold of every program. -/
theorem expects_of_forall (hguar : ∀ op input state, guar op input state)
    (program : Program S α) (state : σ) :
    program.Expects machine rely condition guar (fun _ _ => True) state := by
  induction program generalizing state with
  | done value => exact fun _ _ => trivial
  | perform op next ih => exact fun later _ input _ => ⟨hguar op input later, ih _ _⟩

end Program

namespace Pool

variable {S : Signature} {ι σ α : Type} (machine : Machine S ι σ) (rely : σ → σ → Prop)
  (condition guar : ℕ → S.Op → ι → σ → Prop) (post : ℕ → α → σ → Prop)

/-- What a thread has returned, if it is finished. -/
def returned (pool : Pool S σ α) (thread : ℕ) : Option α :=
  match pool.threads[thread]? with
  | some (.done value) => some value
  | _ => none

theorem returned_eq_some {pool : Pool S σ α} {thread : ℕ} {value : α} :
    pool.returned thread = some value ↔ pool.threads[thread]? = some (.done value) := by
  unfold returned
  split
  · next found hthread =>
      rw [hthread, Option.some.injEq, Option.some.injEq, Program.done.injEq]
  · next hthread => exact iff_of_false nofun fun hdone => hthread value hdone

/-- The operation a step performs, if any, meets the condition of its thread. -/
def Conditioned (pool : Pool S σ α) (choice : ℕ × ι) : Prop :=
  ∀ op, pool.pending choice.1 = some op → condition choice.1 op choice.2 pool.state

/-- A step of the run is the operation of the thread on the input. -/
def Performed (pool : Pool S σ α) (choices : List (ℕ × ι)) (thread : ℕ) (op : S.Op) (input : ι) :
    Prop :=
  ∃ first rest, choices = first ++ (thread, input) :: rest ∧
    (pool.run machine first).pending thread = some op

/-- Every operation of a run is one the run performed. -/
theorem along_performed (pool : Pool S σ α) (choices : List (ℕ × ι)) :
    Along machine (Conditioned fun thread op input _ => Performed machine pool choices thread op input)
      choices pool := by
  have hsuffix : ∀ rest first, choices = first ++ rest →
      Along machine
        (Conditioned fun thread op input _ => Performed machine pool choices thread op input)
        rest (pool.run machine first) := by
    intro rest
    induction rest with
    | nil => exact fun first _ => along_nil _
    | cons choice rest ih =>
        intro first hchoices
        refine along_cons.mpr ⟨fun op hop => ⟨first, rest, hchoices, hop⟩, ?_⟩
        have hnext := ih (first ++ [choice]) (by rw [hchoices, List.append_assoc]; rfl)
        rw [run_append] at hnext
        exact hnext
  exact hsuffix choices [] rfl

/-- Every thread keeps its promise from here on, on its condition. -/
def Expects (pool : Pool S σ α) : Prop :=
  ∀ thread (program : Program S α), pool.threads[thread]? = some program →
    program.Expects machine rely (condition thread) (guar thread) (post thread) pool.state

variable {machine rely condition guar post}

theorem Expects.step (hrely : IsRely rely) {pool : Pool S σ α}
    (hpool : pool.Expects machine rely condition guar post) (hstart : rely pool.state pool.state)
    (hmove : ∀ thread op input, condition thread op input pool.state →
      guar thread op input pool.state → rely pool.state (machine.answer op input pool.state).2) {choice : ℕ × ι}
    (hchoice : pool.Conditioned condition choice) :
    rely pool.state (pool.step machine choice).state ∧
      (pool.step machine choice).Expects machine rely condition guar post := by
  unfold Conditioned pending at hchoice
  unfold Pool.step
  split
  · next op next hthread =>
      rw [hthread] at hchoice
      have hop := hchoice op rfl
      obtain ⟨hguar, hrest⟩ := hpool _ _ hthread pool.state hstart choice.2 hop
      have hnext := hmove choice.1 op choice.2 hop hguar
      refine ⟨hnext, fun thread program hprogram => ?_⟩
      by_cases hchosen : choice.1 = thread
      · obtain rfl := hchosen
        rw [List.getElem?_set_self (List.getElem?_eq_some_iff.mp hthread).1] at hprogram
        obtain rfl := Option.some.inj hprogram
        exact hrest
      · rw [List.getElem?_set_ne hchosen] at hprogram
        exact (hpool thread program hprogram).stable hrely hnext
  · exact ⟨hstart, hpool⟩

/-- Along a run whose steps meet the condition the threads keep their promises, and
the ends are related as they rely on. -/
theorem Expects.run (hrely : IsRely rely)
    (hmove : ∀ thread op input state, rely state state → condition thread op input state →
      guar thread op input state → rely state (machine.answer op input state).2)
    {pool : Pool S σ α} (hpool : pool.Expects machine rely condition guar post)
    (hstart : rely pool.state pool.state) {choices : List (ℕ × ι)}
    (hrun : Along machine (Conditioned condition) choices pool) :
    rely pool.state (pool.run machine choices).state ∧
      (pool.run machine choices).Expects machine rely condition guar post := by
  induction choices generalizing pool with
  | nil => exact ⟨hstart, hpool⟩
  | cons choice rest ih =>
      obtain ⟨hnext, hexpects⟩ := hpool.step hrely hstart
        (fun thread op input => hmove thread op input pool.state hstart) hrun.1
      obtain ⟨hrest, hfinal⟩ := ih hexpects (hrely.refl_after hnext) hrun.2
      exact ⟨hrely.trans hnext hrest, hfinal⟩

/-- Whatever is performed at a moment of such a run is guaranteed. -/
theorem Expects.guaranteed (hrely : IsRely rely)
    (hmove : ∀ thread op input state, rely state state → condition thread op input state →
      guar thread op input state → rely state (machine.answer op input state).2)
    {pool : Pool S σ α} (hpool : pool.Expects machine rely condition guar post)
    (hstart : rely pool.state pool.state) {first rest : List (ℕ × ι)} {choice : ℕ × ι}
    (hrun : Along machine (Conditioned condition) (first ++ choice :: rest) pool) :
    Conditioned guar (pool.run machine first) choice := by
  obtain ⟨hfirst, hrest⟩ := along_append.mp hrun
  obtain ⟨hstate, hthreads⟩ := hpool.run hrely hmove hstart hfirst
  intro op hop
  unfold pending at hop
  split at hop
  · next found next hthread =>
      cases hop
      exact (hthreads _ _ hthread _ (hrely.refl_after hstate) choice.2
        ((along_cons.mp hrest).1 op (by unfold pending; rw [hthread]))).1
  · cases hop

/-- At every moment of such a run, what a thread has returned is as promised. -/
theorem Expects.returned (hrely : IsRely rely)
    (hmove : ∀ thread op input state, rely state state → condition thread op input state →
      guar thread op input state → rely state (machine.answer op input state).2)
    {pool : Pool S σ α} (hpool : pool.Expects machine rely condition guar post)
    (hstart : rely pool.state pool.state) {first rest : List (ℕ × ι)}
    (hrun : Along machine (Conditioned condition) (first ++ rest) pool) :
    rely pool.state (pool.run machine first).state ∧
      ∀ thread value, (pool.run machine first).returned thread = some value →
        post thread value (pool.run machine first).state := by
  obtain ⟨hstate, hthreads⟩ := hpool.run hrely hmove hstart (along_append.mp hrun).1
  exact ⟨hstate, fun thread value hdone =>
    hthreads thread (.done value) (returned_eq_some.mp hdone) _ (hrely.refl_after hstate)⟩

end Pool

end WizPay.Foundation
