import Mathlib.Algebra.BigOperators.Group.Finset.Piecewise
import Mathlib.Algebra.Order.BigOperators.Group.Finset
import WizPay.Evm.StandardTokens

/-!
# Calls on standard tokens that go through

A standard token refuses a movement for three reasons only: the source holds too
little, the spender may spend too little, or an end of it is the zero address.
The balances of a token add up inside `uint256`, so no sum over accounts
overflows.
-/

namespace WizPay.Evm

open Foundation

/-- What a list of payments owes adds up to its total over any accounts that hold them all. -/
theorem sum_owed {payments : List (Address × ℕ)} {accounts : Finset Address}
    (hmember : ∀ payment ∈ payments, payment.1 ∈ accounts) :
    ∑ account ∈ accounts, Ledger.owed payments account = Ledger.total payments := by
  induction payments with
  | nil => simp
  | cons payment rest ih =>
      have hrest := ih fun other hother => hmember other (List.mem_cons_of_mem _ hother)
      rw [Ledger.owed_cons, Ledger.total_cons, ← hrest]
      simp only [Pi.add_apply, Finset.sum_add_distrib]
      rw [Finset.sum_pi_single' payment.1 payment.2 accounts,
        if_pos (hmember payment List.mem_cons_self)]

namespace Ledgers

variable {token source target spender : Address} {amount : ℕ} {before after ledgers : Ledgers}

/-- The token has a `uint256` supply, and the balances share it. -/
def Supplied (token : Address) (ledgers : Ledgers) : Prop :=
  ∀ accounts : Finset Address, ∑ account ∈ accounts, ledgers.balance token account < uint256Bound

theorem Supplied.lt (h : Supplied token ledgers) (account : Address) :
    ledgers.balance token account < uint256Bound := by
  simpa using h {account}

/-- Two accounts together hold a `uint256`. -/
theorem Supplied.add_lt (h : Supplied token ledgers) {first second : Address}
    (hne : first ≠ second) :
    ledgers.balance token first + ledgers.balance token second < uint256Bound := by
  have hpair := h {first, second}
  rwa [Finset.sum_pair hne] at hpair

/-- A flow that brings in no more than it takes out, all of it at some accounts, leaves the
supply shared. -/
theorem TokenFlow.supplied {outflow inflow : Ledger Address} {accounts : Finset Address}
    (hflow : before.TokenFlow token after outflow inflow) (h : before.Supplied token)
    (houtside : ∀ account ∉ accounts, inflow account = 0)
    (htotal : ∑ account ∈ accounts, inflow account ≤ ∑ account ∈ accounts, outflow account) :
    after.Supplied token := by
  intro others
  have hsum : ∑ account ∈ others ∪ accounts, after.balance token account +
      ∑ account ∈ others ∪ accounts, outflow account =
        ∑ account ∈ others ∪ accounts, before.balance token account +
          ∑ account ∈ others ∪ accounts, inflow account := by
    rw [← Finset.sum_add_distrib, ← Finset.sum_add_distrib]
    exact Finset.sum_congr rfl fun account _ => hflow.flow.apply account
  have hin : ∑ account ∈ others ∪ accounts, inflow account = ∑ account ∈ accounts, inflow account :=
    (Finset.sum_subset Finset.subset_union_right fun account _ => houtside account).symm
  have hout : ∑ account ∈ accounts, outflow account ≤
      ∑ account ∈ others ∪ accounts, outflow account :=
    Finset.sum_le_sum_of_subset Finset.subset_union_right
  calc ∑ account ∈ others, after.balance token account
      ≤ ∑ account ∈ others ∪ accounts, after.balance token account :=
        Finset.sum_le_sum_of_subset Finset.subset_union_left
    _ ≤ ∑ account ∈ others ∪ accounts, before.balance token account := by omega
    _ < uint256Bound := h _

theorem moveToken_succeeds (hsource : source ≠ 0) (htarget : target ≠ 0)
    (hcovered : amount ≤ ledgers.balance token source) :
    ∃ next, moveToken token source target amount ledgers = some next := by
  unfold moveToken
  rw [if_neg (not_or.mpr ⟨hsource, htarget⟩)]
  exact ⟨_, congrArg _ (Ledger.move_eq_some.mpr ⟨hcovered, rfl⟩)⟩

theorem moveToken_allowance (hmove : moveToken token source target amount before = some after) :
    after.allowance = before.allowance := by
  unfold moveToken at hmove
  split at hmove
  next => cases hmove
  next =>
    obtain ⟨balance, -, rfl⟩ := Option.map_eq_some_iff.mp hmove
    rfl

/-- Only the source of a movement loses tokens. -/
theorem moveToken_le {account : Address}
    (hmove : moveToken token source target amount before = some after)
    (hsource : account = source → amount = 0) (other : Address) :
    before.balance other account ≤ after.balance other account := by
  have hflow := moveToken_flow hmove
  by_cases hother : other = token
  · subst hother
    have hat := hflow.flow.apply account
    have houtflow : (Pi.single source amount : Ledger Address) account = 0 := by
      by_cases haccount : account = source
      · rw [hsource haccount, Pi.single_zero]
        rfl
      · exact Pi.single_eq_of_ne haccount _
    omega
  · rw [hflow.others other hother]

theorem setAllowance_of_ne {account owner : Address} (haccount : account ≠ owner)
    (token spender : Address) (amount : ℕ) (ledgers : Ledgers) (other : Address) :
    (ledgers.setAllowance token owner spender amount).allowance other account =
      ledgers.allowance other account := by
  simp only [setAllowance]
  by_cases hother : other = token
  · subst hother
    rw [Function.update_self, Function.update_of_ne haccount]
  · rw [Function.update_of_ne hother]

/-- Nothing is spent of what somebody else allowed. -/
theorem spendAllowance_of_ne {account : Address} (haccount : account ≠ source)
    (hspend : spendAllowance token source spender amount before = some after) (other : Address) :
    after.allowance other account = before.allowance other account := by
  simp only [spendAllowance] at hspend
  split at hspend
  next =>
    cases hspend
    rfl
  next =>
    split at hspend
    next => cases hspend
    next =>
      cases hspend
      exact setAllowance_of_ne haccount ..

/-- Where nothing is allowed nothing is spent. -/
theorem spendAllowance_of_zero (hzero : before.allowance token source spender = 0)
    (hspend : spendAllowance token source spender amount before = some after) :
    amount = 0 ∧ after.allowance = before.allowance := by
  simp only [spendAllowance, hzero] at hspend
  split at hspend
  next hunlimited => exact absurd hunlimited (by decide)
  next =>
    split at hspend
    next => cases hspend
    next hcovered =>
      cases hspend
      refine ⟨Nat.le_zero.mp (Nat.not_lt.mp hcovered), ?_⟩
      simp only [setAllowance, Nat.zero_sub]
      rw [← hzero, Function.update_eq_self, Function.update_eq_self, Function.update_eq_self]

/-- An account that allowed the spender nothing loses neither tokens nor allowances. -/
theorem transferFrom_spares {account : Address}
    (hpull : transferFrom token spender source target amount before = some after)
    (haccount : account = source → before.allowance token account spender = 0) :
    (∀ other, before.balance other account ≤ after.balance other account) ∧
      ∀ other, after.allowance other account = before.allowance other account := by
  obtain ⟨spent, hspent, hmoved⟩ := Option.bind_eq_some_iff.mp hpull
  obtain ⟨hbalance, -⟩ := spendAllowance_balances hspent
  rw [← hbalance, moveToken_allowance hmoved]
  by_cases hsource : account = source
  · obtain ⟨hamount, hallowance⟩ := spendAllowance_of_zero (hsource ▸ haccount hsource) hspent
    exact ⟨moveToken_le hmoved fun _ => hamount, fun other => by rw [hallowance]⟩
  · exact ⟨moveToken_le hmoved fun hsame => absurd hsame hsource, spendAllowance_of_ne hsource hspent⟩

@[simp] theorem setAllowance_allowance_self (token owner spender : Address) (amount : ℕ)
    (ledgers : Ledgers) :
    (ledgers.setAllowance token owner spender amount).allowance token owner spender = amount := by
  simp [setAllowance]

/-- A limited allowance that covers the amount is reduced by it. -/
theorem spendAllowance_limited
    (hlimited : ledgers.allowance token source spender ≠ uint256Bound - 1)
    (hallowed : amount ≤ ledgers.allowance token source spender) :
    spendAllowance token source spender amount ledgers =
      some (ledgers.setAllowance token source spender
        (ledgers.allowance token source spender - amount)) := by
  simp only [spendAllowance]
  rw [if_neg hlimited, if_neg (Nat.not_lt.mpr hallowed)]

/-- An unlimited allowance is spent without being reduced. -/
theorem spendAllowance_unlimited
    (hunlimited : ledgers.allowance token source spender = uint256Bound - 1) :
    spendAllowance token source spender amount ledgers = some ledgers := by
  simp only [spendAllowance]
  rw [if_pos hunlimited]

/-- What is left of an allowance once the amount is spent. -/
def leftOver (allowance amount : ℕ) : ℕ :=
  if allowance = uint256Bound - 1 then allowance else allowance - amount

theorem transferFrom_succeeds (hsource : source ≠ 0) (htarget : target ≠ 0)
    (hcovered : amount ≤ ledgers.balance token source)
    (hallowed : amount ≤ ledgers.allowance token source spender) :
    ∃ next, transferFrom token spender source target amount ledgers = some next ∧
      next.allowance token source spender =
        leftOver (ledgers.allowance token source spender) amount := by
  by_cases hlimited : ledgers.allowance token source spender = uint256Bound - 1
  · obtain ⟨next, hnext⟩ := moveToken_succeeds hsource htarget hcovered
    refine ⟨next, ?_, ?_⟩
    · rw [transferFrom, spendAllowance_unlimited hlimited]
      exact hnext
    · rw [moveToken_allowance hnext, leftOver, if_pos hlimited]
  · obtain ⟨next, hnext⟩ := @moveToken_succeeds token source target amount
      (ledgers.setAllowance token source spender (ledgers.allowance token source spender - amount))
      hsource htarget hcovered
    refine ⟨next, ?_, ?_⟩
    · rw [transferFrom, spendAllowance_limited hlimited hallowed]
      exact hnext
    · rw [moveToken_allowance hnext, setAllowance_allowance_self, leftOver, if_neg hlimited]

end Ledgers

section Calls

variable {ρ ω : Type} {ext : Externals (ContractState ρ ω Ledgers) Ledgers}
  {self universalRouter : Address} {router : Router ρ ω} {state : ContractState ρ ω Ledgers}
  (hext : ext = standardExternals self universalRouter router)
include hext

/-- A call without value reaches the contract as it is. -/
theorem receiveValue_nothing (sender : Address) : ext.receiveValue sender 0 state = some state := by
  rw [hext]
  obtain ⟨native, hnative⟩ : ∃ native, Ledger.move sender self 0 state.chain.native = some native :=
    ⟨_, Ledger.move_eq_some.mpr ⟨Nat.zero_le _, rfl⟩⟩
  have hsame := Ledger.move_zero hnative
  change onChain (Ledgers.moveNative sender self 0) state = some state
  refine onChain_eq_some.mpr ⟨state.chain, ?_, rfl⟩
  rw [Ledgers.moveNative, hnative, hsame]
  rfl

/-- The contract pays out what it holds. -/
theorem safeTransfer_succeeds (hself : self ≠ 0) {token target : Address} {amount : ℕ}
    (htarget : target ≠ 0) (hcovered : amount ≤ state.chain.balance token self) :
    ∃ chain, ext.safeTransfer token target amount state = some { state with chain := chain } ∧
      chain.allowance = state.chain.allowance ∧
      state.chain.TokenFlow token chain (Pi.single self amount) (Pi.single target amount) := by
  obtain ⟨chain, hchain⟩ := Ledgers.moveToken_succeeds hself htarget hcovered
  refine ⟨chain, ?_, Ledgers.moveToken_allowance hchain, Ledgers.moveToken_flow hchain⟩
  rw [hext]
  exact onChain_eq_some.mpr ⟨chain, hchain, rfl⟩

/-- The contract pulls what a source holds and allowed. -/
theorem safeTransferFrom_succeeds (hself : self ≠ 0) {token source : Address} {amount : ℕ}
    (hsource : source ≠ 0) (hbound : amount < uint256Bound)
    (hcovered : amount ≤ state.chain.balance token source)
    (hallowed : amount ≤ state.chain.allowance token source self) :
    ∃ chain, ext.safeTransferFrom token source self amount state =
        some { state with chain := chain } ∧
      chain.allowance token source self =
        Ledgers.leftOver (state.chain.allowance token source self) amount ∧
      state.chain.TokenFlow token chain (Pi.single source amount) (Pi.single self amount) := by
  obtain ⟨chain, hchain, hleft⟩ :=
    Ledgers.transferFrom_succeeds hsource hself hcovered hallowed
  refine ⟨chain, ?_, hleft, (Ledgers.transferFrom_flow hbound hchain).1⟩
  rw [hext]
  exact onChain_eq_some.mpr ⟨chain, hchain, rfl⟩

end Calls

end WizPay.Evm
