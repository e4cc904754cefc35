import Mathlib.Data.List.Basic
import Mathlib.Logic.Function.Basic

/-!
# Programs of atomic operations

A program performs one atomic operation after another and continues with the
answer of each. Operations only name what is asked; a machine answers them and
moves the state, with one input of the environment for everything the state
does not decide: the clock, fresh identifiers, failures. Programs run alone, or
interleaved with others over one shared state.
-/

namespace WizPay.Foundation

/-- The operations of a machine and the type of each answer. -/
structure Signature where
  Op : Type
  Res : Op → Type

inductive Program (S : Signature) (α : Type) where
  | done (value : α)
  | perform (op : S.Op) (next : S.Res op → Program S α)

/-- How operations are answered, from an input of the environment and the state. -/
structure Machine (S : Signature) (ι σ : Type) where
  answer : (op : S.Op) → ι → σ → S.Res op × σ

namespace Program

variable {S T : Signature} {ι σ α β γ ε : Type}

def bind : Program S α → (α → Program S β) → Program S β
  | done value, rest => rest value
  | perform op next, rest => perform op fun answer => (next answer).bind rest

instance : Monad (Program S) where
  pure := done
  bind := bind

/-- The program that performs one operation and returns the answer. -/
def call (op : S.Op) : Program S (S.Res op) := perform op done

/-- A program over one signature as a program over a larger one. -/
def lift (embed : S.Op → T.Op) (answer : ∀ op, T.Res (embed op) → S.Res op) :
    Program S α → Program T α
  | done value => done value
  | perform op next => perform (embed op) fun result => (next (answer op result)).lift embed answer

@[simp] theorem pure_bind (value : α) (rest : α → Program S β) :
    (pure value : Program S α) >>= rest = rest value := rfl

theorem bind_assoc (program : Program S α) (first : α → Program S β) (second : β → Program S γ) :
    (program >>= first) >>= second = program >>= fun value => first value >>= second := by
  induction program with
  | done value => rfl
  | perform op next ih => exact congrArg (perform op) (funext fun answer => ih answer)

theorem bind_pure (program : Program S α) : program >>= pure = program := by
  induction program with
  | done value => rfl
  | perform op next ih => exact congrArg (perform op) (funext fun answer => ih answer)

instance : LawfulMonad (Program S) :=
  LawfulMonad.mk' (Program S) bind_pure pure_bind bind_assoc

end Program

/-! ## Interleaved runs -/

/-- Programs that share a state. -/
structure Pool (S : Signature) (σ α : Type) where
  state : σ
  threads : List (Program S α)

namespace Pool

variable {S : Signature} {ι σ α : Type} (machine : Machine S ι σ)

/-- The operation a thread performs next; none for a finished or absent thread. -/
def pending (pool : Pool S σ α) (thread : ℕ) : Option S.Op :=
  match pool.threads[thread]? with
  | some (.perform op _) => some op
  | _ => none

/-- One atomic step: the chosen thread performs its operation on the chosen input. -/
def step (choice : ℕ × ι) (pool : Pool S σ α) : Pool S σ α :=
  match pool.threads[choice.1]? with
  | some (.perform op next) =>
      let (result, state) := machine.answer op choice.2 pool.state
      { state, threads := pool.threads.set choice.1 (next result) }
  | _ => pool

/-- A run: any thread may take any step at any time. -/
def run : List (ℕ × ι) → Pool S σ α → Pool S σ α
  | [], pool => pool
  | choice :: rest, pool => run rest (pool.step machine choice)

/-- The steps of a run all meet a condition on the pool and the choice. -/
def Along (condition : Pool S σ α → ℕ × ι → Prop) : List (ℕ × ι) → Pool S σ α → Prop
  | [], _ => True
  | choice :: rest, pool => condition pool choice ∧ Along condition rest (pool.step machine choice)

variable {machine}

theorem run_append (first second : List (ℕ × ι)) (pool : Pool S σ α) :
    pool.run machine (first ++ second) = (pool.run machine first).run machine second := by
  induction first generalizing pool with
  | nil => rfl
  | cons choice rest ih => exact ih _

/-- What one step does to the state: nothing, or what the pending operation does. -/
theorem step_state (choice : ℕ × ι) (pool : Pool S σ α) :
    (pool.step machine choice).state = pool.state ∨
      ∃ op, pool.pending choice.1 = some op ∧
        (pool.step machine choice).state = (machine.answer op choice.2 pool.state).2 := by
  unfold step pending
  cases pool.threads[choice.1]? with
  | none => exact .inl rfl
  | some program =>
      cases program with
      | done value => exact .inl rfl
      | perform op next => exact .inr ⟨op, rfl, rfl⟩

theorem step_state_of_pending {choice : ℕ × ι} {pool : Pool S σ α} {op : S.Op}
    (hpending : pool.pending choice.1 = some op) :
    (pool.step machine choice).state = (machine.answer op choice.2 pool.state).2 := by
  unfold pending at hpending
  unfold step
  split at hpending
  · cases hpending
    rfl
  · cases hpending

theorem along_append {condition : Pool S σ α → ℕ × ι → Prop} {first second : List (ℕ × ι)}
    {pool : Pool S σ α} :
    Along machine condition (first ++ second) pool ↔
      Along machine condition first pool ∧
        Along machine condition second (pool.run machine first) := by
  induction first generalizing pool with
  | nil => simp [Along, run]
  | cons choice rest ih =>
      simp only [List.cons_append, Along, run, ih, and_assoc]

section Relations

variable {relation : σ → σ → Prop} {condition : Pool S σ α → ℕ × ι → Prop}

/-- A relation that every step meeting the condition respects relates the ends
of every run whose steps meet it. -/
theorem run_relates (hrefl : ∀ state, relation state state)
    (htrans : ∀ {first second third}, relation first second → relation second third →
      relation first third)
    (hstep : ∀ pool choice, condition pool choice →
      relation pool.state (pool.step machine choice).state)
    {choices : List (ℕ × ι)} {pool : Pool S σ α} (hrun : Along machine condition choices pool) :
    relation pool.state (pool.run machine choices).state := by
  induction choices generalizing pool with
  | nil => exact hrefl _
  | cons choice rest ih => exact htrans (hstep pool choice hrun.1) (ih hrun.2)

/-- When the condition says exactly that a step respects the relation, it holds
along a run if and only if any two moments of the run are related. -/
theorem along_iff_relates (hrefl : ∀ state, relation state state)
    (htrans : ∀ {first second third}, relation first second → relation second third →
      relation first third)
    (hstep : ∀ pool choice, condition pool choice ↔
      relation pool.state (pool.step machine choice).state)
    {choices : List (ℕ × ι)} {pool : Pool S σ α} :
    Along machine condition choices pool ↔
      ∀ first middle last, choices = first ++ middle ++ last →
        relation (pool.run machine first).state (pool.run machine (first ++ middle)).state := by
  constructor
  · rintro hrun first middle last rfl
    rw [run_append]
    have hmiddle := (along_append.mp (along_append.mp hrun).1).2
    exact run_relates hrefl htrans (fun pool choice => (hstep pool choice).mp) hmiddle
  · intro hrelated
    induction choices generalizing pool with
    | nil => trivial
    | cons choice rest ih =>
        refine ⟨(hstep pool choice).mpr (hrelated [] [choice] rest rfl), ih ?_⟩
        rintro first middle last rfl
        exact hrelated (choice :: first) middle last rfl

end Relations

theorem along_nil {condition : Pool S σ α → ℕ × ι → Prop} (pool : Pool S σ α) :
    Along machine condition [] pool := trivial

theorem along_cons {condition : Pool S σ α → ℕ × ι → Prop} {choice : ℕ × ι}
    {rest : List (ℕ × ι)} {pool : Pool S σ α} :
    Along machine condition (choice :: rest) pool ↔
      condition pool choice ∧ Along machine condition rest (pool.step machine choice) := Iff.rfl

theorem along_of_forall {condition : Pool S σ α → ℕ × ι → Prop}
    (hall : ∀ pool choice, condition pool choice) (choices : List (ℕ × ι)) (pool : Pool S σ α) :
    Along machine condition choices pool := by
  induction choices generalizing pool with
  | nil => exact along_nil pool
  | cons choice rest ih => exact along_cons.mpr ⟨hall pool choice, ih _⟩

/-- When the condition says exactly that a step keeps an invariant, wherever an assumption
about the steps keeps a base fact, it holds along a run that starts in both if and only if
every moment of the run is in the invariant. -/
theorem along_iff_invariant_of {base invariant : Pool S σ α → Prop}
    {assumed condition : Pool S σ α → ℕ × ι → Prop}
    (hbase : ∀ pool choice, assumed pool choice → base pool → base (pool.step machine choice))
    (hstep : ∀ pool choice, assumed pool choice → base pool → invariant pool →
      (condition pool choice ↔ invariant (pool.step machine choice)))
    {choices : List (ℕ × ι)} {pool : Pool S σ α} (hassumed : Along machine assumed choices pool)
    (hpool : base pool) (hstart : invariant pool) :
    Along machine condition choices pool ↔
      ∀ first rest, choices = first ++ rest → invariant (pool.run machine first) := by
  induction choices generalizing pool with
  | nil =>
      refine iff_of_true trivial ?_
      intro first rest hnil
      rw [(List.append_eq_nil_iff.mp hnil.symm).1]
      exact hstart
  | cons choice choices ih =>
      have hkept := hbase pool choice hassumed.1 hpool
      have hexact := hstep pool choice hassumed.1 hpool hstart
      constructor
      · rintro ⟨hchoice, hrest⟩ first rest hsplit
        have hnext := hexact.mp hchoice
        cases first with
        | nil => exact hstart
        | cons head tail =>
            obtain ⟨rfl, htail⟩ := List.cons.inj hsplit
            exact (ih hassumed.2 hkept hnext).mp hrest tail rest htail
      · intro hall
        have hnext := hall [choice] choices rfl
        refine ⟨hexact.mpr hnext, (ih hassumed.2 hkept hnext).mpr ?_⟩
        intro first rest hsplit
        exact hall (choice :: first) rest (by rw [hsplit]; rfl)

/-- When the condition says exactly that a step keeps an invariant, it holds along
a run that starts in it if and only if every moment of the run is in it. -/
theorem along_iff_invariant {invariant : Pool S σ α → Prop}
    {condition : Pool S σ α → ℕ × ι → Prop}
    (hstep : ∀ pool choice, invariant pool →
      (condition pool choice ↔ invariant (pool.step machine choice)))
    {choices : List (ℕ × ι)} {pool : Pool S σ α} (hstart : invariant pool) :
    Along machine condition choices pool ↔
      ∀ first rest, choices = first ++ rest → invariant (pool.run machine first) :=
  @along_iff_invariant_of S ι σ α machine (fun _ => True) invariant (fun _ _ => True) condition
    (fun _ _ _ _ => trivial) (fun pool choice _ _ => hstep pool choice) choices pool
    (along_of_forall (fun _ _ => trivial) choices pool) trivial hstart

/-- What holds at the end of a run and not at its start came to hold at one of its steps. -/
theorem exists_step_of_run {fact : Pool S σ α → Prop} {choices : List (ℕ × ι)} {pool : Pool S σ α}
    (hstart : ¬ fact pool) (hend : fact (pool.run machine choices)) :
    ∃ first choice rest, choices = first ++ choice :: rest ∧ ¬ fact (pool.run machine first) ∧
      fact ((pool.run machine first).step machine choice) := by
  induction choices generalizing pool with
  | nil => exact absurd hend hstart
  | cons choice choices ih =>
      by_cases hnext : fact (pool.step machine choice)
      · exact ⟨[], choice, choices, rfl, hstart, hnext⟩
      · obtain ⟨first, later, rest, rfl, hbefore, hafter⟩ := ih hnext hend
        exact ⟨choice :: first, later, rest, rfl, hbefore, hafter⟩

end Pool

end WizPay.Foundation
