import WizPay.Foundation.Windows

/-!
# Programs with a ghost

What a thread may do can depend on what its own operations have answered so far: a ticket
it drew, a claim it made. Such knowledge is a ghost beside the state. The answers of the
thread move it, and the others leave it as it is.
-/

namespace WizPay.Foundation

variable {S : Signature} {ι σ γ α : Type}

/-- The machine that moves a ghost along with the state. -/
def Machine.withGhost (machine : Machine S ι σ) (move : (op : S.Op) → S.Res op → γ → γ) :
    Machine S ι (σ × γ) where
  answer op input pair :=
    ((machine.answer op input pair.1).1,
      (machine.answer op input pair.1).2, move op (machine.answer op input pair.1).1 pair.2)

/-- What the others may do leaves the ghost of a thread as it is. -/
def KeepsGhost (rely : S.Op → σ → σ → Prop) (op : S.Op) (before after : σ × γ) : Prop :=
  rely op before.1 after.1 ∧ after.2 = before.2

theorem IsWindow.keepsGhost {rely : S.Op → σ → σ → Prop} (hrely : IsWindow rely) :
    IsWindow (KeepsGhost rely : S.Op → σ × γ → σ × γ → Prop) where
  refl op state := ⟨hrely.refl op state.1, rfl⟩
  trans hfirst hsecond := ⟨hrely.trans hfirst.1 hsecond.1, hsecond.2.trans hfirst.2⟩

namespace Pool

variable (machine : Machine S ι σ) (move : (op : S.Op) → S.Res op → γ → γ)
  (rely : ℕ → S.Op → σ → σ → Prop) (guar : S.Op → ι → σ × γ → Prop)

/-- Every thread is guarded from here on, with a ghost of its own. -/
def Tracked (pool : Pool S σ α) (ghosts : ℕ → γ) : Prop :=
  ∀ thread (program : Program S α), pool.threads[thread]? = some program →
    program.Guarded (machine.withGhost move) (KeepsGhost (rely thread)) (fun _ _ _ => True) guar
      (fun _ _ => True) (pool.state, ghosts thread)

/-- The ghosts after a step: that of the chosen thread moves with its answer. -/
def ghostsAfter (pool : Pool S σ α) (choice : ℕ × ι) (ghosts : ℕ → γ) : ℕ → γ :=
  match pool.pending choice.1 with
  | some op => Function.update ghosts choice.1
      (move op (machine.answer op choice.2 pool.state).1 (ghosts choice.1))
  | none => ghosts

variable {machine move rely guar}

/-- A step inside every window is guaranteed by the ghost of its thread, and leaves every
thread guarded. -/
theorem Tracked.step (hrely : ∀ thread, IsWindow (rely thread)) {pool : Pool S σ α}
    {ghosts : ℕ → γ} (hpool : pool.Tracked machine move rely guar ghosts) {choice : ℕ × ι}
    (hothers : pool.Undisturbed machine rely choice) :
    (∀ op ∈ pool.pending choice.1, guar op choice.2 (pool.state, ghosts choice.1)) ∧
      (pool.step machine choice).Tracked machine move rely guar
        (pool.ghostsAfter machine move choice ghosts) := by
  cases hpending : pool.pending choice.1 with
  | none =>
      rw [step_of_pending_none machine hpending]
      unfold ghostsAfter
      rw [hpending]
      exact ⟨fun op hop => (nomatch hop), hpool⟩
  | some op =>
      obtain ⟨next, hchosen⟩ := pending_eq_some.mp hpending
      obtain ⟨hguar, hnext⟩ := hpool _ _ hchosen (pool.state, ghosts choice.1)
        ⟨(hrely _).refl op pool.state, rfl⟩ choice.2 trivial
      have hghosts : pool.ghostsAfter machine move choice ghosts =
          Function.update ghosts choice.1
            (move op (machine.answer op choice.2 pool.state).1 (ghosts choice.1)) := by
        unfold ghostsAfter
        rw [hpending]
      rw [hghosts]
      refine ⟨fun other hother => Option.some.inj hother ▸ hguar, fun thread program hprogram => ?_⟩
      by_cases hother : thread = choice.1
      · obtain rfl := hother
        simp only [Pool.step, hchosen] at hprogram ⊢
        rw [List.getElem?_set_self (List.getElem?_eq_some_iff.mp hchosen).1] at hprogram
        obtain rfl := Option.some.inj hprogram
        rw [Function.update_self]
        exact hnext
      · rw [Function.update_of_ne hother]
        have hsame : pool.threads[thread]? = some program := by
          simp only [Pool.step, hchosen] at hprogram
          rwa [List.getElem?_set_ne (Ne.symm hother)] at hprogram
        have hguarded := hpool thread program hsame
        cases program with
        | done value => trivial
        | perform performed rest =>
            have hmoved := hothers thread hother performed (pending_eq_some.mpr ⟨rest, hsame⟩)
            exact fun later hlater => hguarded later
              ⟨(hrely thread).trans hmoved hlater.1, hlater.2⟩

end Pool

end WizPay.Foundation
