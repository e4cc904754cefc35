import WizPay.Foundation.Program

/-!
# Complete runs

A complete run of one program records each of its steps: the operation, the
input that answered it and the state it met. Runs of a composed program are
composed of runs of its parts, and what every step keeps the run keeps.
-/

namespace WizPay.Foundation

/-- A step of a run. -/
structure Step (S : Signature) (ι σ : Type) where
  op : S.Op
  input : ι
  state : σ

namespace Step

variable {S : Signature} {ι σ : Type} (machine : Machine S ι σ)

/-- The state a step leaves behind. -/
def after (step : Step S ι σ) : σ := (machine.answer step.op step.input step.state).2

end Step

namespace Program

variable {S : Signature} {ι σ α β ρ : Type} (machine : Machine S ι σ)

/-- A program run to its end, with its steps in order. -/
def Runs : Program S α → σ → List (Step S ι σ) → α → σ → Prop
  | done value, start, steps, result, final => steps = [] ∧ result = value ∧ final = start
  | perform op next, start, steps, result, final =>
      ∃ input rest, steps = ⟨op, input, start⟩ :: rest ∧
        (next (machine.answer op input start).1).Runs (machine.answer op input start).2 rest
          result final

/-- The run on given inputs, if they suffice and none is left over. -/
def exec : Program S α → List ι → σ → Option (List (Step S ι σ) × α × σ)
  | done value, [], start => some ([], value, start)
  | done _, _ :: _, _ => none
  | perform _ _, [], _ => none
  | perform op next, input :: rest, start =>
      let answer := machine.answer op input start
      ((next answer.1).exec rest answer.2).map fun run => (⟨op, input, start⟩ :: run.1, run.2)

/-- Every operation a program can perform meets a condition. -/
def Performs (condition : S.Op → Prop) : Program S α → Prop
  | done _ => True
  | perform op next => condition op ∧ ∀ answer, (next answer).Performs condition

variable {machine}

theorem exec_runs {program : Program S α} {inputs : List ι} {start final : σ}
    {steps : List (Step S ι σ)} {result : α}
    (hexec : program.exec machine inputs start = some (steps, result, final)) :
    program.Runs machine start steps result final := by
  induction program generalizing inputs start steps with
  | done value =>
      cases inputs with
      | nil =>
          cases hexec
          exact ⟨rfl, rfl, rfl⟩
      | cons input rest => cases hexec
  | perform op next ih =>
      cases inputs with
      | nil => cases hexec
      | cons input rest =>
          simp only [exec, Option.map_eq_some_iff, Prod.mk.injEq] at hexec
          obtain ⟨⟨tail, _, _⟩, hrest, rfl, rfl, rfl⟩ := hexec
          exact ⟨input, tail, rfl, ih _ hrest⟩

@[simp] theorem runs_pure {value result : α} {start final : σ} {steps : List (Step S ι σ)} :
    (pure value : Program S α).Runs machine start steps result final ↔
      steps = [] ∧ result = value ∧ final = start := Iff.rfl

theorem runs_bind {program : Program S α} {rest : α → Program S β} {start final : σ}
    {steps : List (Step S ι σ)} {result : β} :
    (program >>= rest).Runs machine start steps result final ↔
      ∃ value middle first second, steps = first ++ second ∧
        program.Runs machine start first value middle ∧
        (rest value).Runs machine middle second result final := by
  induction program generalizing start steps with
  | done value =>
      constructor
      · intro hrun
        exact ⟨value, start, [], steps, rfl, ⟨rfl, rfl, rfl⟩, hrun⟩
      · rintro ⟨_, _, _, second, rfl, ⟨rfl, rfl, rfl⟩, hrun⟩
        exact hrun
  | perform op next ih =>
      constructor
      · rintro ⟨input, tail, rfl, hrun⟩
        obtain ⟨value, middle, first, second, rfl, hfirst, hsecond⟩ := (ih _).mp hrun
        exact ⟨value, middle, _ :: first, second, rfl, ⟨input, first, rfl, hfirst⟩, hsecond⟩
      · rintro ⟨value, middle, _, second, rfl, ⟨input, first, rfl, hfirst⟩, hsecond⟩
        exact ⟨input, first ++ second, rfl,
          (ih _).mpr ⟨value, middle, first, second, rfl, hfirst, hsecond⟩⟩

theorem runs_call {op : S.Op} {start final : σ} {steps : List (Step S ι σ)} {result : S.Res op} :
    (call op).Runs machine start steps result final ↔
      ∃ input, steps = [⟨op, input, start⟩] ∧ result = (machine.answer op input start).1 ∧
        final = (machine.answer op input start).2 := by
  constructor
  · rintro ⟨input, _, rfl, rfl, rfl, rfl⟩
    exact ⟨input, rfl, rfl, rfl⟩
  · rintro ⟨input, rfl, rfl, rfl⟩
    exact ⟨input, [], rfl, rfl, rfl, rfl⟩

/-! ## What every step keeps -/

@[simp] theorem performs_pure {condition : S.Op → Prop} (value : α) :
    (pure value : Program S α).Performs condition := trivial

theorem performs_bind {condition : S.Op → Prop} {program : Program S α}
    {rest : α → Program S β} (hprogram : program.Performs condition)
    (hrest : ∀ value, (rest value).Performs condition) : (program >>= rest).Performs condition := by
  induction program with
  | done value => exact hrest value
  | perform op next ih => exact ⟨hprogram.1, fun answer => ih answer (hprogram.2 answer)⟩

theorem performs_lift {T : Signature} {condition : T.Op → Prop} {embed : S.Op → T.Op}
    {reply : ∀ op, T.Res (embed op) → S.Res op} (hembed : ∀ op, condition (embed op))
    (program : Program S α) : (program.lift embed reply).Performs condition := by
  induction program with
  | done value => trivial
  | perform op next ih => exact ⟨hembed op, fun answer => ih (reply op answer)⟩

theorem Performs.mono {condition weaker : S.Op → Prop} (hweaker : ∀ op, condition op → weaker op)
    {program : Program S α} (hprogram : program.Performs condition) :
    program.Performs weaker := by
  induction program with
  | done value => trivial
  | perform op next ih => exact ⟨hweaker op hprogram.1, fun answer => ih answer (hprogram.2 answer)⟩

theorem Runs.performs {condition : S.Op → Prop} {program : Program S α} {start final : σ}
    {steps : List (Step S ι σ)} {result : α} (hrun : program.Runs machine start steps result final)
    (hprogram : program.Performs condition) : ∀ step ∈ steps, condition step.op := by
  induction program generalizing start steps with
  | done value =>
      obtain ⟨rfl, _, _⟩ := hrun
      exact fun step hmember => nomatch hmember
  | perform op next ih =>
      obtain ⟨input, rest, rfl, hrun⟩ := hrun
      intro step hmember
      rcases List.mem_cons.mp hmember with rfl | hmember
      · exact hprogram.1
      · exact ih _ hrun (hprogram.2 _) step hmember

/-- A reading of the state that every step keeps is kept by the run. -/
theorem Runs.keeps {reading : σ → ρ} {program : Program S α} {start final : σ}
    {steps : List (Step S ι σ)} {result : α} (hrun : program.Runs machine start steps result final)
    (hkeeps : ∀ step ∈ steps, reading (step.after machine) = reading step.state) :
    reading final = reading start := by
  induction program generalizing start steps with
  | done value =>
      obtain ⟨_, _, rfl⟩ := hrun
      rfl
  | perform op next ih =>
      obtain ⟨input, rest, rfl, hrun⟩ := hrun
      rw [ih _ hrun fun step hmember => hkeeps step (List.mem_cons_of_mem _ hmember)]
      exact hkeeps _ List.mem_cons_self

end Program

end WizPay.Foundation
