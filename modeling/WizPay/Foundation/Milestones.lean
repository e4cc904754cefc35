import WizPay.Foundation.Program

/-!
# Milestones of a program

A program passes a milestone when no run of it returns a value that counts
without an operation whose answer is marked. In a pool this finds, for every
thread that has returned, the moment at which it took effect.
-/

namespace WizPay.Foundation

namespace Program

variable {S : Signature} {α β : Type} (mark : (op : S.Op) → S.Res op → Prop)

/-- Every way to a value that counts performs a marked operation. -/
def Passes (counts : α → Prop) : Program S α → Prop
  | done value => ¬ counts value
  | perform op next => ∀ answer, mark op answer ∨ (next answer).Passes counts

variable {mark}

theorem passes_of_none (program : Program S α) : program.Passes mark fun _ => False := by
  induction program with
  | done value => exact id
  | perform op next ih => exact fun answer => .inr (ih answer)

/-- The second part has to pass the milestone only after the values of the first
that count as not having passed it. -/
theorem passes_bind {program : Program S α} {rest : α → Program S β} {reached : α → Prop}
    {counts : β → Prop} (hprogram : program.Passes mark reached)
    (hrest : ∀ value, ¬ reached value → (rest value).Passes mark counts) :
    (program >>= rest).Passes mark counts := by
  induction program with
  | done value => exact hrest value hprogram
  | perform op next ih =>
      intro answer
      rcases hprogram answer with hmark | hnext
      · exact .inl hmark
      · exact .inr (ih answer hnext)

end Program

namespace Pool

variable {S : Signature} {ι σ α : Type} {machine : Machine S ι σ}
  {mark : (op : S.Op) → S.Res op → Prop}

/-- A thread of a program that passes the milestone has passed it once it
returned a value that counts. -/
theorem exists_mark_of_done {pool : Pool S σ α} {thread : ℕ} {program : Program S α}
    {counts : α → Prop} (hthread : pool.threads[thread]? = some program)
    (hpasses : program.Passes mark counts) {choices : List (ℕ × ι)} {value : α}
    (hdone : (pool.run machine choices).threads[thread]? = some (.done value))
    (hcounts : counts value) :
    ∃ first choice rest op, choices = first ++ choice :: rest ∧ choice.1 = thread ∧
      (pool.run machine first).pending thread = some op ∧
      mark op (machine.answer op choice.2 (pool.run machine first).state).1 := by
  induction choices generalizing pool program with
  | nil =>
      have hprogram : program = .done value := Option.some.inj (hthread.symm.trans hdone)
      rw [hprogram] at hpasses
      exact absurd hcounts hpasses
  | cons choice choices ih =>
      -- Either this step is the marked one, or the thread still has to pass the milestone.
      have hnext : (∃ op, choice.1 = thread ∧ pool.pending thread = some op ∧
          mark op (machine.answer op choice.2 pool.state).1) ∨
          ∃ next, (pool.step machine choice).threads[thread]? = some next ∧
            next.Passes mark counts := by
        by_cases hchosen : choice.1 = thread
        · unfold pending step
          rw [hchosen, hthread]
          cases program with
          | done result => exact .inr ⟨_, hthread, hpasses⟩
          | perform op next =>
              rcases hpasses (machine.answer op choice.2 pool.state).1 with hmark | hlater
              · exact .inl ⟨op, rfl, rfl, hmark⟩
              · refine .inr ⟨_, ?_, hlater⟩
                exact List.getElem?_set_self (List.getElem?_eq_some_iff.mp hthread).1
        · refine .inr ⟨program, ?_, hpasses⟩
          unfold step
          split
          · exact (List.getElem?_set_ne hchosen).trans hthread
          · exact hthread
      rcases hnext with ⟨op, hchosen, hpending, hmark⟩ | ⟨next, hstepped, hlater⟩
      · exact ⟨[], choice, choices, op, rfl, hchosen, hpending, hmark⟩
      · obtain ⟨first, marked, rest, op, rfl, hchosen, hpending, hmark⟩ := ih hstepped hlater hdone
        exact ⟨choice :: first, marked, rest, op, rfl, hchosen, hpending, hmark⟩

end Pool

/-- Two different moments of a run, the earlier one first. -/
theorem exists_between {α : Type} {list first second rest last : List α} {one other : α}
    (hone : list = first ++ one :: rest) (hother : list = second ++ other :: last)
    (hlt : first.length < second.length) :
    ∃ middle, list = first ++ one :: middle ++ other :: last ∧ second = first ++ one :: middle := by
  have hprefix : first ++ one :: rest = second ++ other :: last := hone.symm.trans hother
  obtain ⟨shared, hshared⟩ | ⟨shared, hshared, -⟩ := List.append_eq_append_iff.mp hprefix
  · cases shared with
    | nil =>
        rw [hshared.1, List.append_nil] at hlt
        exact absurd hlt (Nat.lt_irrefl _)
    | cons head middle =>
        obtain ⟨rfl, -⟩ := List.cons.inj hshared.2
        exact ⟨middle, by rw [hother, hshared.1], hshared.1⟩
  · rw [hshared, List.length_append] at hlt
    omega

end WizPay.Foundation
