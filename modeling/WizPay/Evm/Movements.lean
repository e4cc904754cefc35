import Mathlib.Algebra.BigOperators.Group.List.Basic
import WizPay.Evm.StandardTokens

/-!
# Transfers in logs

A token reports its transfers in logs, and the chain those of native value. What an account
was sent is a sum over them.
-/

namespace WizPay.Evm

open Foundation

/-- A transfer, as the account that keeps the asset reports it. -/
structure Movement where
  emitter : Address
  source : Address
  target : Address
  amount : ℕ
deriving DecidableEq

/-! ## Sums of transfers -/

/-- What one account sent another of an asset. -/
def moved (emitter source target : Address) (movements : List Movement) : ℕ :=
  ((movements.filter fun movement =>
    movement.emitter = emitter ∧ movement.source = source ∧ movement.target = target).map
      Movement.amount).sum

/-- What an account received of an asset. -/
def received (emitter target : Address) (movements : List Movement) : ℕ :=
  ((movements.filter fun movement => movement.emitter = emitter ∧ movement.target = target).map
    Movement.amount).sum

@[simp] theorem moved_append (emitter source target : Address) (first second : List Movement) :
    moved emitter source target (first ++ second) =
      moved emitter source target first + moved emitter source target second := by
  simp [moved]

@[simp] theorem received_append (emitter target : Address) (first second : List Movement) :
    received emitter target (first ++ second) =
      received emitter target first + received emitter target second := by
  simp [received]

theorem moved_eq_zero {emitter source target : Address} {movements : List Movement}
    (hnone : ∀ movement ∈ movements, ¬ (movement.source = source ∧ movement.target = target)) :
    moved emitter source target movements = 0 := by
  rw [moved, List.filter_eq_nil_iff.mpr]
  · rfl
  · intro movement hmem
    have hother := hnone movement hmem
    simp only [decide_eq_true_eq, not_and]
    intro _ hsource htarget
    exact hother ⟨hsource, htarget⟩

theorem moved_perm {emitter source target : Address} {first second : List Movement}
    (hperm : first.Perm second) :
    moved emitter source target first = moved emitter source target second :=
  ((hperm.filter _).map _).sum_eq

theorem received_perm {emitter target : Address} {first second : List Movement}
    (hperm : first.Perm second) :
    received emitter target first = received emitter target second :=
  ((hperm.filter _).map _).sum_eq

/-- Other accounts report other assets. -/
theorem moved_eq_zero_of_emitter {emitter source target : Address} {movements : List Movement}
    (hothers : ∀ movement ∈ movements, movement.emitter ≠ emitter) :
    moved emitter source target movements = 0 := by
  rw [moved, List.filter_eq_nil_iff.mpr]
  · rfl
  · intro movement hmem
    have hother := hothers movement hmem
    simp [hother]

theorem moved_self (emitter source target : Address) (amount : ℕ) :
    moved emitter source target [⟨emitter, source, target, amount⟩] = amount := by
  simp [moved]

theorem moved_singleton (emitter source target : Address) (movement : Movement) :
    moved emitter source target [movement] =
      if movement.emitter = emitter ∧ movement.source = source ∧ movement.target = target then
        movement.amount
      else 0 := by
  unfold moved
  split
  · next hsame => simp [hsame]
  · next hother => rw [List.filter_cons_of_neg (by simpa using hother), List.filter_nil]; rfl

theorem received_singleton (emitter target : Address) (movement : Movement) :
    received emitter target [movement] =
      if movement.emitter = emitter ∧ movement.target = target then movement.amount else 0 := by
  unfold received
  split
  · next hsame => simp [hsame]
  · next hother => rw [List.filter_cons_of_neg (by simpa using hother), List.filter_nil]; rfl

/-! ## Native value -/

/-- A transfer of native value, which is reported unless there is none. -/
def nativeMovement (native source target : Address) (value : ℕ) : List Movement :=
  if value = 0 then [] else [⟨native, source, target, value⟩]

variable {native : Address}

theorem moved_nativeMovement_self (source target : Address) (value : ℕ) :
    moved native source target (nativeMovement native source target value) = value := by
  unfold nativeMovement
  split
  · next hzero => exact hzero.symm
  · exact moved_self native source target value

theorem moved_nativeMovement_of_ne {emitter source target first second : Address} {value : ℕ}
    (hother : ¬ (first = source ∧ second = target)) :
    moved emitter source target (nativeMovement native first second value) = 0 := by
  apply moved_eq_zero
  intro movement hmem
  unfold nativeMovement at hmem
  split at hmem
  · cases hmem
  · rw [List.mem_singleton.mp hmem]
    exact hother

/-! ## Standard tokens that keep logs -/

/-- Standard tokens on a chain that keeps its logs. -/
structure RecordedChain where
  ledgers : Ledgers
  movements : List Movement

/-- An effect and the transfers it reports, unless one does not fit into a log or the account
`self`, which is no token, would report it. -/
def record {ρ ω : Type} (self : Address) (effect : Ledgers → Option Ledgers) (new : List Movement)
    (state : ContractState ρ ω RecordedChain) : Option (ContractState ρ ω RecordedChain) :=
  if ∀ movement ∈ new, movement.amount < uint256Bound ∧ movement.emitter ≠ self then
    (effect state.chain.ledgers).map fun ledgers =>
      { state with chain := ⟨ledgers, state.chain.movements ++ new⟩ }
  else none

end WizPay.Evm
