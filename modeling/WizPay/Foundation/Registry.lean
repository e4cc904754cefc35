import Mathlib.Data.List.Count
import Mathlib.Data.List.Nodup
import WizPay.Foundation.Revert

/-!
# Registries of consumed keys

A registry marks the keys that were consumed, by a hash of each. It is
consistent with the log of consumptions when it marks exactly the logged keys
and no mark was made twice. Consuming a key whose mark is free keeps it so;
hence a key is consumed at most once, however many calls try.
-/

namespace WizPay.Foundation

/-- A registry read off a state: the log of consumed keys and the marks. -/
structure Registry (σ κ η : Type) where
  hash : κ → η
  log : σ → List κ
  used : σ → η → Bool

namespace Registry

variable {σ κ η : Type} (registry : Registry σ κ η)

structure Consistent (state : σ) : Prop where
  nodup : ((registry.log state).map registry.hash).Nodup
  recorded : ∀ mark, registry.used state mark = true ↔
    mark ∈ (registry.log state).map registry.hash

/-- The registry moves forward only: it stays consistent, its log grows at the
end, and a mark is never taken back. -/
structure Advances (before after : σ) : Prop where
  consistent : registry.Consistent before → registry.Consistent after
  log : registry.log before <+: registry.log after
  used : ∀ mark, registry.used before mark = true → registry.used after mark = true

variable {registry}

/-- A state change that the registry does not see. -/
theorem Advances.of_eq {before after : σ} (hlog : registry.log after = registry.log before)
    (hused : registry.used after = registry.used before) : registry.Advances before after where
  consistent := fun ⟨hnodup, hrecorded⟩ => by
    refine ⟨by rw [hlog]; exact hnodup, fun mark => ?_⟩
    rw [hused, hlog]
    exact hrecorded mark
  log := hlog ▸ List.prefix_rfl
  used := fun mark hmark => by rw [hused]; exact hmark

theorem Advances.refl (state : σ) : registry.Advances state state :=
  .of_eq rfl rfl

theorem Advances.trans {first second third : σ} (hfirst : registry.Advances first second)
    (hsecond : registry.Advances second third) : registry.Advances first third where
  consistent := fun h => hsecond.consistent (hfirst.consistent h)
  log := hfirst.log.trans hsecond.log
  used := fun mark hmark => hsecond.used mark (hfirst.used mark hmark)

/-- Consuming a key whose mark is free. -/
theorem Advances.consume [DecidableEq η] {before after : σ} (key : κ)
    (hfree : registry.used before (registry.hash key) = false)
    (hlog : registry.log after = registry.log before ++ [key])
    (hused : registry.used after =
      Function.update (registry.used before) (registry.hash key) true) :
    registry.Advances before after where
  consistent := fun ⟨hnodup, hrecorded⟩ => by
    have hnew : registry.hash key ∉ (registry.log before).map registry.hash := by
      rw [← hrecorded, hfree]
      decide
    refine ⟨?_, fun mark => ?_⟩
    · rw [hlog, List.map_append, List.map_singleton]
      exact hnodup.append (List.nodup_singleton _)
        (List.disjoint_singleton.mpr hnew)
    · rw [hlog, hused, List.map_append, List.map_singleton, List.mem_append, List.mem_singleton]
      by_cases hmark : mark = registry.hash key
      · simp [hmark]
      · rw [Function.update_of_ne hmark, hrecorded]
        simp [hmark]
  log := ⟨[key], hlog.symm⟩
  used := fun mark hmark => by
    rw [hused]
    by_cases heq : mark = registry.hash key
    · simp [heq]
    · rw [Function.update_of_ne heq]
      exact hmark

theorem Consistent.log_nodup {state : σ} (hstate : registry.Consistent state) :
    (registry.log state).Nodup :=
  hstate.nodup.of_map

/-- With an injective hash, a key's mark tells whether that very key was consumed. -/
theorem Consistent.used_iff {state : σ} (hstate : registry.Consistent state)
    (hinjective : Function.Injective registry.hash) (key : κ) :
    registry.used state (registry.hash key) = true ↔ key ∈ registry.log state := by
  rw [hstate.recorded, List.mem_map_of_injective hinjective]

/-! ## Whole runs -/

section Runs

variable {ε τ α : Type} {exec : τ → Call ε σ α}

theorem advances_commit {call : Call ε σ α} {state : σ}
    (hcall : ∀ value next, call.run state = .ok (value, next) → registry.Advances state next) :
    registry.Advances state (call.commit state) := by
  cases hsucceeds : call.succeeds state with
  | false => rw [Call.commit_of_not_succeeds hsucceeds]; exact .refl state
  | true =>
      obtain ⟨value, next, hrun⟩ := Call.succeeds_iff.mp hsucceeds
      rw [Call.commit_of_ok hrun]
      exact hcall value next hrun

theorem advances_runAll (hstep : ∀ call state, registry.Advances state ((exec call).commit state))
    (calls : List τ) (state : σ) : registry.Advances state (Call.runAll exec calls state) := by
  induction calls generalizing state with
  | nil => exact .refl state
  | cons call rest ih => exact (hstep call state).trans (ih _)

/-- Successful calls that consume a key leave it in the log as often as they
are made. -/
theorem countP_succeeded_le [DecidableEq κ] {key : τ → Option κ}
    (hstep : ∀ call state, registry.Advances state ((exec call).commit state))
    (hkey : ∀ call state value next consumed, (exec call).run state = .ok (value, next) →
      key call = some consumed → registry.log next = registry.log state ++ [consumed])
    (calls : List τ) (state : σ) (consumed : κ) :
    (Call.succeeded exec calls state).countP (fun call => key call = some consumed) +
        (registry.log state).count consumed ≤
      (registry.log (Call.runAll exec calls state)).count consumed := by
  induction calls generalizing state with
  | nil => simp [Call.succeeded, Call.runAll]
  | cons call rest ih =>
      have hrest := ih ((exec call).commit state)
      have hgrows := (hstep call state).log.sublist.count_le consumed
      rw [Call.succeeded, Call.runAll]
      cases hsucceeds : (exec call).succeeds state with
      | false =>
          simp only [Bool.false_eq_true, ↓reduceIte]
          omega
      | true =>
          simp only [↓reduceIte, List.countP_cons, decide_eq_true_eq]
          split
          next hconsumed =>
            obtain ⟨value, next, hrun⟩ := Call.succeeds_iff.mp hsucceeds
            rw [Call.commit_of_ok hrun, hkey call state value next consumed hrun hconsumed,
              List.count_append, List.count_singleton_self] at hrest
            rw [Call.commit_of_ok hrun]
            omega
          next => omega

/-- From a consistent state, no key is consumed by two successful calls. -/
theorem Consistent.countP_succeeded_le_one [DecidableEq κ] {key : τ → Option κ} {state : σ}
    (hstate : registry.Consistent state)
    (hstep : ∀ call state, registry.Advances state ((exec call).commit state))
    (hkey : ∀ call state value next consumed, (exec call).run state = .ok (value, next) →
      key call = some consumed → registry.log next = registry.log state ++ [consumed])
    (calls : List τ) (consumed : κ) :
    (Call.succeeded exec calls state).countP (fun call => key call = some consumed) ≤ 1 := by
  have hfinal := (advances_runAll hstep calls state).consistent hstate
  have honce := List.nodup_iff_count_le_one.mp hfinal.log_nodup consumed
  have hcount := countP_succeeded_le hstep hkey calls state consumed
  omega

/-- Where a call logs its key exactly when it succeeds, the log of a run is the
keys of its successful calls. -/
theorem log_runAll {key : τ → Option κ}
    (hstep : ∀ call state, registry.log ((exec call).commit state) =
      registry.log state ++ if (exec call).succeeds state then (key call).toList else [])
    (calls : List τ) (state : σ) :
    registry.log (Call.runAll exec calls state) =
      registry.log state ++ (Call.succeeded exec calls state).filterMap key := by
  induction calls generalizing state with
  | nil => simp [Call.runAll, Call.succeeded]
  | cons call rest ih =>
      rw [Call.runAll, ih, hstep, Call.succeeded, List.append_assoc]
      congr 1
      cases hsucceeds : (exec call).succeeds state with
      | false => simp
      | true => cases hkey : key call <;> simp [hkey]

end Runs

end Registry

end WizPay.Foundation
