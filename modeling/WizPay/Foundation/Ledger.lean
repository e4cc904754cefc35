import Mathlib.Algebra.BigOperators.Group.List.Basic
import Mathlib.Algebra.Group.Pi.Lemmas
import Mathlib.Algebra.GroupWithZero.Nat

/-!
# Ledgers

A ledger gives every account a balance; ledgers add pointwise. A flow from one
ledger to another is what left and what reached each account. Flows compose by
adding up, whichever accounts coincide, so a sequence of movements is accounted
for without a case distinction on aliases.
-/

namespace WizPay.Foundation

abbrev Ledger (α : Type) := α → ℕ

namespace Ledger

variable {α : Type} [DecidableEq α]

def debit (ledger : Ledger α) (account : α) (amount : ℕ) : Ledger α :=
  Function.update ledger account (ledger account - amount)

def credit (ledger : Ledger α) (account : α) (amount : ℕ) : Ledger α :=
  Function.update ledger account (ledger account + amount)

/-- Moves `amount` from `source` to `target`, or fails when `source` holds less. -/
def move (source target : α) (amount : ℕ) (ledger : Ledger α) : Option (Ledger α) :=
  if amount ≤ ledger source then some ((ledger.debit source amount).credit target amount) else none

theorem move_eq_some {source target : α} {amount : ℕ} {before after : Ledger α} :
    move source target amount before = some after ↔
      amount ≤ before source ∧ (before.debit source amount).credit target amount = after := by
  unfold move
  split
  next hamount => simp [hamount]
  next hamount => simp [hamount]

/-! ## Flows -/

omit [DecidableEq α] in
/-- Between two ledgers, `outflow` left the accounts and `inflow` reached them. -/
def Flow (before after outflow inflow : Ledger α) : Prop :=
  after + outflow = before + inflow

namespace Flow

omit [DecidableEq α]

variable {before middle after outflow inflow : Ledger α}

theorem apply (hflow : Flow before after outflow inflow) (account : α) :
    after account + outflow account = before account + inflow account :=
  congrFun hflow account

theorem refl (ledger : Ledger α) : Flow ledger ledger 0 0 := rfl

theorem trans {outflow' inflow' : Ledger α} (hfirst : Flow before middle outflow inflow)
    (hsecond : Flow middle after outflow' inflow') :
    Flow before after (outflow + outflow') (inflow + inflow') := by
  funext account
  have hfirst := hfirst.apply account
  have hsecond := hsecond.apply account
  simp only [Pi.add_apply]
  omega

/-- What leaves and reaches an account alike does not count. -/
theorem cancel {common : Ledger α}
    (hflow : Flow before after (outflow + common) (inflow + common)) :
    Flow before after outflow inflow := by
  funext account
  have hflow := hflow.apply account
  simp only [Pi.add_apply] at hflow ⊢
  omega

theorem eq_of_zero (hflow : Flow before after 0 0) : after = before := hflow

end Flow

theorem move_flow {source target : α} {amount : ℕ} {before after : Ledger α}
    (hmove : move source target amount before = some after) :
    Flow before after (Pi.single source amount) (Pi.single target amount) := by
  obtain ⟨hamount, rfl⟩ := move_eq_some.mp hmove
  funext account
  simp only [Pi.add_apply, Pi.single_apply, credit, debit, Function.update_apply]
  by_cases htarget : account = target
  · subst htarget
    by_cases hsource : account = source
    · subst hsource
      simp only [↓reduceIte]
      omega
    · simp only [hsource, ↓reduceIte]
      omega
  · by_cases hsource : account = source
    · subst hsource
      simp only [htarget, ↓reduceIte]
      omega
    · simp only [htarget, hsource, ↓reduceIte]

/-- Moving nothing changes nothing. -/
theorem move_zero {source target : α} {before after : Ledger α}
    (hmove : move source target 0 before = some after) : after = before := by
  have hflow := move_flow hmove
  rw [Pi.single_zero, Pi.single_zero] at hflow
  exact hflow.eq_of_zero

/-- A gross amount that passed through `keeper`, which paid out a part of it,
leaves the rest there. -/
theorem Flow.retain {payer keeper payee : α} {gross part scale : ℕ} {before after : Ledger α}
    (hpart : part ≤ gross)
    (hflow : Flow before after
      (Pi.single payer (gross * scale) + Pi.single keeper (part * scale))
      (Pi.single keeper (gross * scale) + Pi.single payee (part * scale))) :
    Flow before after (Pi.single payer (gross * scale))
      (Pi.single payee (part * scale) + Pi.single keeper ((gross - part) * scale)) := by
  have hsplit : (Pi.single keeper (gross * scale) : Ledger α) =
      Pi.single keeper (part * scale) + Pi.single keeper ((gross - part) * scale) := by
    rw [← Pi.single_add, ← Nat.add_mul, Nat.add_sub_of_le hpart]
  funext account
  have haccount := hflow.apply account
  simp only [hsplit, Pi.add_apply] at haccount ⊢
  omega

/-! ## Lists of payments -/

def total (payments : List (α × ℕ)) : ℕ := (payments.map Prod.snd).sum

/-- What a list of payments owes to each account, over all its occurrences. -/
def owed (payments : List (α × ℕ)) : Ledger α :=
  (payments.map fun payment => Pi.single payment.1 payment.2).sum

omit [DecidableEq α] in
@[simp] theorem total_nil : total ([] : List (α × ℕ)) = 0 := rfl

omit [DecidableEq α] in
@[simp] theorem total_cons (payment : α × ℕ) (rest : List (α × ℕ)) :
    total (payment :: rest) = payment.2 + total rest := rfl

@[simp] theorem owed_nil : owed ([] : List (α × ℕ)) = 0 := rfl

@[simp] theorem owed_cons (payment : α × ℕ) (rest : List (α × ℕ)) :
    owed (payment :: rest) = Pi.single payment.1 payment.2 + owed rest := rfl

/-- An account that no payment names is owed nothing. -/
theorem owed_of_not_mem {payments : List (α × ℕ)} {account : α}
    (hnot : ∀ payment ∈ payments, payment.1 ≠ account) : owed payments account = 0 := by
  induction payments with
  | nil => rfl
  | cons payment rest ih =>
      rw [owed_cons, Pi.add_apply, Pi.single_eq_of_ne (hnot payment List.mem_cons_self).symm,
        ih fun other hother => hnot other (List.mem_cons_of_mem payment hother)]

/-- An account is owed each of the payments that name it. -/
theorem le_owed {payments : List (α × ℕ)} {payment : α × ℕ} (hmember : payment ∈ payments) :
    payment.2 ≤ owed payments payment.1 := by
  induction payments with
  | nil => cases hmember
  | cons first rest ih =>
      rw [owed_cons, Pi.add_apply]
      rcases List.mem_cons.mp hmember with rfl | hmember
      · rw [Pi.single_eq_same]
        exact Nat.le_add_right _ _
      · exact Nat.le_trans (ih hmember) (Nat.le_add_left _ _)

/-- What an account is owed is the sum of the amounts at its positions. -/
theorem owed_apply (payments : List (α × ℕ)) (account : α) :
    owed payments account =
      ((payments.filter fun payment => payment.1 = account).map Prod.snd).sum := by
  induction payments with
  | nil => rfl
  | cons payment rest ih =>
      rw [owed_cons, Pi.add_apply, ih, List.filter_cons]
      by_cases haccount : payment.1 = account
      · subst haccount
        simp
      · simp [haccount]

omit [DecidableEq α] in
/-- A list of payments zipped from two lists of one length totals the amounts. -/
theorem total_zip {accounts : List α} {amounts : List ℕ}
    (hlength : accounts.length = amounts.length) : total (accounts.zip amounts) = amounts.sum := by
  rw [total, List.map_snd_zip (Nat.le_of_eq hlength.symm)]

end Ledger

end WizPay.Foundation
