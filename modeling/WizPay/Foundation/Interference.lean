import WizPay.Foundation.Runs

/-!
# Programs under interference

Between two operations of a program the others may move the state as the rely
relation allows. A program meets a guarantee when each operation it performs
does, whatever happened before it. When every guaranteed operation is a move the
others rely on, all operations of a pool of such programs are guaranteed.
-/

namespace WizPay.Foundation

/-- A relation for what the other threads may do between two operations: any
number of their moves is one. -/
structure IsRely {σ : Type} (rely : σ → σ → Prop) : Prop where
  trans : ∀ {first second third}, rely first second → rely second third → rely first third
  refl_after : ∀ {state later}, rely state later → rely later later

namespace Program

variable {S : Signature} {ι σ α β : Type}

/-- Every operation is guaranteed where it is performed, and what the program
returns meets the postcondition from then on. -/
def Meets (machine : Machine S ι σ) (rely : σ → σ → Prop) (guar : S.Op → ι → σ → Prop)
    (post : α → σ → Prop) : Program S α → σ → Prop
  | done value, state => ∀ later, rely state later → post value later
  | perform op next, state => ∀ later, rely state later → ∀ input, guar op input later ∧
      (next (machine.answer op input later).1).Meets machine rely guar post
        (machine.answer op input later).2

variable {machine : Machine S ι σ} {rely : σ → σ → Prop} {guar : S.Op → ι → σ → Prop}
  {post : α → σ → Prop}

/-- Interference does not take a guarantee away. -/
theorem Meets.stable (hrely : IsRely rely) {program : Program S α} {state later : σ}
    (hmeets : program.Meets machine rely guar post state) (hlater : rely state later) :
    program.Meets machine rely guar post later := by
  cases program with
  | done value => exact fun last hlast => hmeets last (hrely.trans hlater hlast)
  | perform op next => exact fun last hlast => hmeets last (hrely.trans hlater hlast)

theorem Meets.mono {weaker : α → σ → Prop} (hweaker : ∀ value state, post value state →
      weaker value state) {program : Program S α} {state : σ}
    (hmeets : program.Meets machine rely guar post state) :
    program.Meets machine rely guar weaker state := by
  induction program generalizing state with
  | done value => exact fun later hlater => hweaker value later (hmeets later hlater)
  | perform op next ih =>
      exact fun later hlater input =>
        ⟨(hmeets later hlater input).1, ih _ (hmeets later hlater input).2⟩

/-- What interference keeps, and the program's own operations too, holds at its end. -/
theorem Meets.frame (hrely : IsRely rely) {fact : σ → Prop}
    (hstable : ∀ {state later}, rely state later → fact state → fact later)
    (hstep : ∀ op input state, rely state state → guar op input state →
      rely state (machine.answer op input state).2) {program : Program S α} {state : σ}
    (hmeets : program.Meets machine rely guar post state) (hfact : fact state) :
    program.Meets machine rely guar (fun value state => post value state ∧ fact state) state := by
  induction program generalizing state with
  | done value => exact fun later hlater => ⟨hmeets later hlater, hstable hlater hfact⟩
  | perform op next ih =>
      intro later hlater input
      obtain ⟨hop, hnext⟩ := hmeets later hlater input
      have hmove := hstep op input later (hrely.refl_after hlater) hop
      exact ⟨hop, ih _ hnext (hstable hmove (hstable hlater hfact))⟩

/-- A program ends in a state that interference can lead to. -/
theorem Meets.refl_after (hrely : IsRely rely) {program : Program S α} {state : σ}
    (hmeets : program.Meets machine rely guar post state) :
    program.Meets machine rely guar (fun value state => post value state ∧ rely state state)
      state := by
  induction program generalizing state with
  | done value => exact fun later hlater => ⟨hmeets later hlater, hrely.refl_after hlater⟩
  | perform op next ih =>
      exact fun later hlater input =>
        ⟨(hmeets later hlater input).1, ih _ (hmeets later hlater input).2⟩

/-- The second part starts where the first one ends, after some interference. -/
theorem meets_bind (hrely : IsRely rely) {program : Program S α} {rest : α → Program S β}
    {final : β → σ → Prop} {state : σ} (hprogram : program.Meets machine rely guar post state)
    (hrest : ∀ value state, post value state → (rest value).Meets machine rely guar final state) :
    (program >>= rest).Meets machine rely guar final state := by
  induction program generalizing state with
  | done value =>
      have hstart : ∀ later, rely state later → (rest value).Meets machine rely guar final later :=
        fun later hlater => hrest value later (hprogram later hlater)
      show (rest value).Meets machine rely guar final state
      cases hvalue : rest value with
      | done result =>
          intro later hlater
          have hdone := hstart later hlater
          rw [hvalue] at hdone
          exact hdone later (hrely.refl_after hlater)
      | perform op next =>
          intro later hlater
          have hperform := hstart later hlater
          rw [hvalue] at hperform
          exact hperform later (hrely.refl_after hlater)
  | perform op next ih =>
      exact fun later hlater input =>
        ⟨(hprogram later hlater input).1, ih _ (hprogram later hlater input).2⟩

theorem meets_map {program : Program S α} {f : α → β} {final : β → σ → Prop} {state : σ}
    (hprogram : program.Meets machine rely guar (fun value => final (f value)) state) :
    (program >>= fun value => pure (f value)).Meets machine rely guar final state := by
  induction program generalizing state with
  | done value => exact hprogram
  | perform op next ih =>
      exact fun later hlater input =>
        ⟨(hprogram later hlater input).1, ih _ (hprogram later hlater input).2⟩

theorem meets_call {op : S.Op} {post : S.Res op → σ → Prop} {state : σ}
    (hcall : ∀ later, rely state later → ∀ input, guar op input later ∧
      ∀ last, rely (machine.answer op input later).2 last →
        post (machine.answer op input later).1 last) :
    (call op).Meets machine rely guar post state := hcall

/-- Operations that are guaranteed in every state need no look at the states. -/
theorem Performs.meets {condition : S.Op → Prop}
    (hguar : ∀ op, condition op → ∀ input state, guar op input state) {program : Program S α}
    (hprogram : program.Performs condition) (state : σ) :
    program.Meets machine rely guar (fun _ _ => True) state := by
  induction program generalizing state with
  | done value => exact fun _ _ => trivial
  | perform op next ih =>
      exact fun later _ input => ⟨hguar op hprogram.1 input later, ih _ (hprogram.2 _) _⟩

/-- Whatever its operations are answered, the program returns a value that meets
the postcondition. -/
def Returns (post : α → Prop) : Program S α → Prop
  | done value => post value
  | perform _ next => ∀ answer, (next answer).Returns post

theorem returns_bind {program : Program S α} {rest : α → Program S β} {post : α → Prop}
    {final : β → Prop} (hprogram : program.Returns post)
    (hrest : ∀ value, post value → (rest value).Returns final) :
    (program >>= rest).Returns final := by
  induction program with
  | done value => exact hrest value hprogram
  | perform op next ih => exact fun answer => ih answer (hprogram answer)

theorem Returns.mono {post weaker : α → Prop} (hweaker : ∀ value, post value → weaker value)
    {program : Program S α} (hprogram : program.Returns post) : program.Returns weaker := by
  induction program with
  | done value => exact hweaker value hprogram
  | perform op next ih => exact fun answer => ih answer (hprogram answer)

theorem Returns.of_forall {post : α → Prop} (hpost : ∀ value, post value)
    (program : Program S α) : program.Returns post := by
  induction program with
  | done value => exact hpost value
  | perform op next ih => exact fun answer => ih answer

/-! ## Part of a larger machine -/

section

variable {T : Signature} {κ τ : Type} {larger : Machine T κ τ} {relies : τ → τ → Prop}
  {guards : T.Op → κ → τ → Prop} {embed : S.Op → T.Op}
  {reply : ∀ op, T.Res (embed op) → S.Res op}

/-- A program meets in the larger machine what it meets in the part it sees. -/
theorem Meets.lift {project : τ → σ} {input : κ → ι}
    (hanswer : ∀ op choice state, reply op (larger.answer (embed op) choice state).1 =
      (machine.answer op (input choice) (project state)).1)
    (hstate : ∀ op choice state, project (larger.answer (embed op) choice state).2 =
      (machine.answer op (input choice) (project state)).2)
    (hrely : ∀ {state later}, relies state later → rely (project state) (project later))
    (hguar : ∀ op choice state, guar op (input choice) (project state) →
      guards (embed op) choice state)
    {program : Program S α} {state : τ}
    (hprogram : program.Meets machine rely guar post (project state)) :
    (program.lift embed reply).Meets larger relies guards
      (fun value state => post value (project state)) state := by
  induction program generalizing state with
  | done value => exact fun later hlater => hprogram _ (hrely hlater)
  | perform op next ih =>
      intro later hlater choice
      obtain ⟨hop, hnext⟩ := hprogram _ (hrely hlater) (input choice)
      refine ⟨hguar op choice later hop, ih _ ?_⟩
      rw [hanswer, hstate]
      exact hnext

/-- A program of operations that are guaranteed wherever they are performed. -/
theorem Returns.meets_lift {post : α → Prop}
    (hguar : ∀ op choice state, guards (embed op) choice state) {program : Program S α}
    (hprogram : program.Returns post) (state : τ) :
    (program.lift embed reply).Meets larger relies guards (fun value _ => post value) state := by
  induction program generalizing state with
  | done value => exact fun _ _ => hprogram
  | perform op next ih =>
      exact fun later _ choice => ⟨hguar op choice later, ih _ (hprogram _) _⟩

end

end Program

namespace Pool

variable {S : Signature} {ι σ α : Type} (machine : Machine S ι σ) (rely : σ → σ → Prop)
  (guar : S.Op → ι → σ → Prop)

/-- Every thread meets the guarantee from here on. -/
def Meets (pool : Pool S σ α) : Prop :=
  ∀ program ∈ pool.threads, program.Meets machine rely guar (fun _ _ => True) pool.state

/-- The operation a step performs, if any, is guaranteed. -/
def Guaranteed (pool : Pool S σ α) (choice : ℕ × ι) : Prop :=
  ∀ op, pool.pending choice.1 = some op → guar op choice.2 pool.state

variable {machine rely guar}

/-- Where the guarantee says exactly that an operation keeps a fact, a step is
guaranteed if and only if it keeps the fact. -/
theorem guaranteed_iff {fact : σ → Prop} (hop : ∀ op input state, fact state →
      (guar op input state ↔ fact (machine.answer op input state).2))
    {pool : Pool S σ α} (hstart : fact pool.state) (choice : ℕ × ι) :
    Guaranteed guar pool choice ↔ fact (pool.step machine choice).state := by
  unfold Guaranteed pending step
  cases pool.threads[choice.1]? with
  | none => exact iff_of_true (fun op hnone => nomatch hnone) hstart
  | some program =>
      cases program with
      | done value => exact iff_of_true (fun op hnone => nomatch hnone) hstart
      | perform op next =>
          rw [← hop op choice.2 pool.state hstart]
          exact ⟨fun hguar => hguar op rfl, fun hguar other heq => Option.some.inj heq ▸ hguar⟩

/-- Where the guarantee says exactly that an operation respects a relation, the
steps of a run are guaranteed if and only if any two moments of it are related. -/
theorem along_guaranteed_iff_relates {relation : σ → σ → Prop}
    (hrefl : ∀ state, relation state state)
    (htrans : ∀ {first second third}, relation first second → relation second third →
      relation first third)
    (hop : ∀ op input state, guar op input state ↔ relation state (machine.answer op input state).2)
    (pool : Pool S σ α) (choices : List (ℕ × ι)) :
    Along machine (Guaranteed guar) choices pool ↔
      ∀ first middle last, choices = first ++ middle ++ last →
        relation (pool.run machine first).state (pool.run machine (first ++ middle)).state := by
  refine along_iff_relates hrefl htrans fun pool choice => ?_
  unfold Guaranteed pending step
  cases pool.threads[choice.1]? with
  | none => exact iff_of_true (fun op hnone => nomatch hnone) (hrefl _)
  | some program =>
      cases program with
      | done value => exact iff_of_true (fun op hnone => nomatch hnone) (hrefl _)
      | perform op next =>
          rw [← hop op choice.2 pool.state]
          exact ⟨fun hguar => hguar op rfl, fun hguar other heq => Option.some.inj heq ▸ hguar⟩

/-- Then the steps of a run are guaranteed if and only if the fact holds at every
moment of it. -/
theorem along_guaranteed_iff {fact : σ → Prop} (hop : ∀ op input state, fact state →
      (guar op input state ↔ fact (machine.answer op input state).2))
    {pool : Pool S σ α} (hstart : fact pool.state) (choices : List (ℕ × ι)) :
    Along machine (Guaranteed guar) choices pool ↔
      ∀ first rest, choices = first ++ rest → fact (pool.run machine first).state :=
  @along_iff_invariant S ι σ α machine (fun pool => fact pool.state) (Guaranteed guar)
    (fun _ choice hfact => guaranteed_iff hop hfact choice) choices pool hstart

theorem Meets.guaranteed {pool : Pool S σ α} (hpool : pool.Meets machine rely guar)
    (hrefl : rely pool.state pool.state) (choice : ℕ × ι) : Guaranteed guar pool choice := by
  intro op hop
  unfold pending at hop
  split at hop
  · next program next hthread =>
      cases hop
      exact (hpool _ (List.mem_of_getElem? hthread) pool.state hrefl choice.2).1
  · cases hop

/-- A step is a move the other threads rely on, and leaves every thread as it was
or one operation further. -/
theorem Meets.step (hrely : IsRely rely) {pool : Pool S σ α} (hpool : pool.Meets machine rely guar)
    (hstart : rely pool.state pool.state)
    (hstep : ∀ op input, guar op input pool.state →
      rely pool.state (machine.answer op input pool.state).2) (choice : ℕ × ι) :
    rely pool.state (pool.step machine choice).state ∧
      (pool.step machine choice).Meets machine rely guar := by
  unfold Pool.step
  split
  · next op next hthread =>
      have hop := hpool _ (List.mem_of_getElem? hthread) pool.state hstart choice.2
      have hnext := hstep op choice.2 hop.1
      refine ⟨hnext, fun program hmember => ?_⟩
      rcases List.mem_or_eq_of_mem_set hmember with hold | rfl
      · exact (hpool program hold).stable hrely hnext
      · exact hop.2
  · exact ⟨hstart, hpool⟩

/-- Along a run of threads that meet the guarantee every operation is guaranteed,
and the ends are related as the threads rely on. -/
theorem Meets.run (hrely : IsRely rely)
    (hstep : ∀ op input state, rely state state → guar op input state →
      rely state (machine.answer op input state).2)
    {pool : Pool S σ α} (hpool : pool.Meets machine rely guar) (hstart : rely pool.state pool.state)
    (choices : List (ℕ × ι)) :
    rely pool.state (pool.run machine choices).state ∧
      (pool.run machine choices).Meets machine rely guar ∧
      Along machine (Guaranteed guar) choices pool := by
  induction choices generalizing pool with
  | nil => exact ⟨hstart, hpool, trivial⟩
  | cons choice rest ih =>
      obtain ⟨hnext, hmeets⟩ := hpool.step hrely hstart
        (fun op input => hstep op input pool.state hstart) choice
      obtain ⟨hrest, hfinal, halong⟩ := ih hmeets (hrely.refl_after hnext)
      exact ⟨hrely.trans hnext hrest, hfinal, hpool.guaranteed hstart choice, halong⟩

end Pool

end WizPay.Foundation
