import WizPay.Evm.StandardTokens
import WizPay.PayrollMainnet.Record

/-!
# Same-token payroll conserves the token

On standard tokens a successful execution moves exactly the payroll: every
recipient gets what the batch owes it, the fee recipient the fees, and the
employer pays for both. Anything else fails and changes nothing.
-/

namespace WizPay.PayrollMainnet

open Foundation Evm

variable {Hash : Type}

/-- The contract is deployed against standard tokens and this router. -/
def Contract.Standard (c : Contract Hash Ledgers) (router : Router (Hash → Bool) (Event Hash)) :
    Prop :=
  c.ext = standardExternals c.self c.universalRouter router

section

variable {c : Contract Hash Ledgers} {router : Router (Hash → Bool) (Event Hash)}
  (hc : c.Standard router)
include hc

/-- Standard tokens run no code of the contract; with a router that reaches it
only by calling back, nothing outside touches its storage. -/
theorem Contract.Standard.sandboxed [DecidableEq Hash]
    (hrouter : ∀ request state next, router request state = some next → Interacts c state next) :
    c.Sandboxed := by
  have hchain : ∀ {effect : Ledgers → Option Ledgers} {state next : State Hash Ledgers},
      onChain effect state = some next → ∃ chain, next = { state with chain := chain } := by
    intro effect state next heffect
    obtain ⟨chain, _, hnext⟩ := onChain_eq_some.mp heffect
    exact ⟨chain, hnext⟩
  have hinteracts : ∀ {effect : Ledgers → Option Ledgers} {state next : State Hash Ledgers},
      onChain effect state = some next → Interacts c state next := by
    intro effect state next heffect
    obtain ⟨chain, rfl⟩ := hchain heffect
    exact .chain chain (.done _)
  have hext : c.ext = standardExternals c.self c.universalRouter router := hc
  constructor <;> intros <;> rename_i hcall <;> simp only [hext, standardExternals] at hcall
  · exact hchain hcall
  · exact hinteracts hcall
  · exact hinteracts hcall
  · exact hinteracts hcall
  · exact hinteracts hcall
  · exact hinteracts hcall
  · obtain ⟨funded, hfunded, hrouted⟩ := Option.bind_eq_some_iff.mp hcall
    obtain ⟨chain, rfl⟩ := hchain hfunded
    exact .chain chain (hrouter _ _ _ hrouted)

/-- The payout loop moves to every recipient what the batch owes it. -/
theorem payRecipients_flow {msg : Msg} {referenceHash : Hash} {token : Address} {i : ℕ}
    {payments : List (Address × ℕ)} {state next : State Hash Ledgers} {value : Unit}
    (hrun : (payRecipients c msg referenceHash token i payments).run state = .ok (value, next)) :
    state.chain.TokenFlow token next.chain (Pi.single c.self (Ledger.total payments))
      (Ledger.owed payments) := by
  induction payments generalizing i state with
  | nil =>
      obtain ⟨_, rfl⟩ := Prod.mk.inj (Call.pure_ok.mp hrun)
      rw [Ledger.total_nil, Pi.single_zero]
      exact .of_eq rfl rfl
  | cons payment rest ih =>
      obtain ⟨recipient, amount⟩ := payment
      simp only [payRecipients, Call.bind_ok, emit_ok, Prod.mk.injEq, true_and] at hrun
      obtain ⟨_, paid, hpaid, _, _, rfl, hrest⟩ := hrun
      simp only [callExternal_ok, Prod.mk.injEq, true_and, exists_eq_right] at hpaid
      have hrest := ih hrest
      rw [Ledger.total_cons, Ledger.owed_cons, Pi.single_add]
      exact (safeTransfer_flow hc hpaid).trans hrest

theorem distributeSameToken_flow {msg : Msg} {token : Address} {payments : List (Address × ℕ)}
    {totalFunding totalFees : ℕ} {referenceHash : Hash} {state next : State Hash Ledgers}
    {value : Unit} (hbound : totalFunding < uint256Bound)
    (hfunding : totalFunding = Ledger.total payments + totalFees)
    (hrun : (distributeSameToken c msg token payments totalFunding totalFees referenceHash).run
      state = .ok (value, next)) :
    state.chain.TokenFlow token next.chain (Pi.single msg.sender totalFunding)
        (Ledger.owed payments + Pi.single c.feeRecipient totalFees) ∧
      next.chain.balance token c.self = state.chain.balance token c.self ∧
      totalFunding ≤ state.chain.balance token msg.sender ∧
      totalFunding ≤ state.chain.allowance token msg.sender c.self := by
  simp only [distributeSameToken, Call.bind_ok, view_ok, checkedAdd, checked_ok, revertIf_ok,
    Prod.mk.injEq, true_and, not_not] at hrun
  obtain ⟨_, _, ⟨rfl, rfl⟩, _, funded, hfunded, _, _, ⟨rfl, rfl⟩, _, _, ⟨_, rfl, rfl⟩, _, _,
    ⟨_, rfl⟩, _, charged, hcharged, _, paid, hpaid, _, _, ⟨rfl, rfl⟩, hresidual, rfl⟩ := hrun
  simp only [callExternal_ok, Prod.mk.injEq, true_and, exists_eq_right] at hfunded
  obtain ⟨hpull, hbalance, hallowance⟩ := safeTransferFrom_flow hc hbound hfunded
  have hflow := (hpull.trans (transferUnlessZero_flow hc hcharged)).trans
    (payRecipients_flow hc hpaid)
  simp only [balanceOf_standard hc] at hresidual
  refine ⟨{ hflow with flow := ?_ }, hresidual, hbalance, hallowance⟩
  -- What passes through the contract cancels.
  have hthrough : (Pi.single c.self totalFunding : Ledger Address) =
      Pi.single c.self totalFees + Pi.single c.self (Ledger.total payments) := by
    rw [hfunding, Nat.add_comm, Pi.single_add]
  funext account
  have haccount := hflow.flow.apply account
  simp only [hthrough, Pi.add_apply] at haccount ⊢
  omega

variable [DecidableEq Hash]

/-- What a successful same-token execution has checked and moved. -/
theorem executeSameTokenPayroll_flow {msg : Msg} {token : Address} {recipients : List Address}
    {amounts : List ℕ} {referenceId : ByteArray} {before after : State Hash Ledgers} {totalOut : ℕ}
    (hrun : (executeSameTokenPayroll c msg token recipients amounts referenceId).run before =
      .ok (totalOut, after)) :
    let fees := (amounts.map fun amount => feeOf c amount).sum
    AdmissibleBatch recipients amounts referenceId ∧
      AdmissiblePayments c msg.sender (recipients.zip amounts) ∧ totalOut = amounts.sum ∧
      before.chain.TokenFlow token after.chain (Pi.single msg.sender (amounts.sum + fees))
        (Ledger.owed (recipients.zip amounts) + Pi.single c.feeRecipient fees) ∧
      after.chain.balance token c.self = before.chain.balance token c.self ∧
      amounts.sum + fees ≤ before.chain.balance token msg.sender ∧
      amounts.sum + fees ≤ before.chain.allowance token msg.sender c.self := by
  obtain ⟨funded, last, hfunded, _, hbody, rfl⟩ := entryPoint_ok hrun
  simp only [Call.bind_ok, validateBatch_ok, revertIf_ok, checkedAdd, checked_ok, emit_ok,
    Call.pure_ok, Prod.mk.injEq, true_and, not_not] at hbody
  obtain ⟨_, _, ⟨_, rfl⟩, _, _, ⟨hvalue, rfl⟩, _, _, ⟨hbatch, rfl⟩, referenceHash, consumed,
    hconsumed, totals, summed, hsum, _, _, ⟨hbound, rfl, rfl⟩, _, paid, hpaid, _, _, rfl, _, _, rfl,
    rfl, rfl⟩ := hbody
  obtain ⟨rfl, _, rfl⟩ := consumeReference_ok hconsumed
  obtain ⟨hpayments, hsum⟩ := sumSameToken_ok c hsum
  obtain ⟨rfl, rfl⟩ := Prod.mk.inj hsum
  have hamounts : (recipients.zip amounts).map Prod.snd = amounts :=
    List.map_snd_zip (Nat.le_of_eq hbatch.lengths.symm)
  have hfees : (recipients.zip amounts).map (fun payment => feeOf c payment.2) =
      amounts.map fun amount => feeOf c amount := by
    conv_rhs => rw [← hamounts]
    rw [List.map_map]
    rfl
  have hchain : funded.chain = before.chain := by
    rw [hvalue] at hfunded
    exact receiveValue_zero hc hfunded
  simp only [Nat.zero_add, hamounts, hfees, true_and] at hbound hpaid ⊢
  have htotal : Ledger.total (recipients.zip amounts) = amounts.sum :=
    Ledger.total_zip hbatch.lengths
  have hflow := distributeSameToken_flow hc hbound (by rw [htotal]) hpaid
  simp only [hchain] at hflow
  exact ⟨hbatch, hpayments, hflow⟩

/-- Same-token payroll conserves the token. A successful call returns the sum
of the amounts; every account ends with what it had, plus what the batch owes
it, plus the fees at the fee recipient, less the funding at the employer. A
call that is not funded or not admissible fails and changes nothing. -/
theorem executeSameTokenPayroll_conserves (msg : Msg) (token : Address)
    (recipients : List Address) (amounts : List ℕ) (referenceId : ByteArray)
    (before : State Hash Ledgers) :
    let call := executeSameTokenPayroll c msg token recipients amounts referenceId
    let fees := (amounts.map fun amount => amount * c.feeBps / 10000).sum
    (∀ totalOut after, call.run before = .ok (totalOut, after) →
      totalOut = amounts.sum ∧
      (∀ account, after.chain.balance token account +
          (Pi.single msg.sender (amounts.sum + fees) : Ledger Address) account =
        before.chain.balance token account + Ledger.owed (recipients.zip amounts) account +
          (Pi.single c.feeRecipient fees : Ledger Address) account) ∧
      after.chain.balance token c.self = before.chain.balance token c.self ∧
      (∀ other, other ≠ token → after.chain.balance other = before.chain.balance other) ∧
      after.chain.native = before.chain.native) ∧
    ((before.chain.balance token msg.sender < amounts.sum + fees ∨
        before.chain.allowance token msg.sender c.self < amounts.sum + fees ∨
        ¬ AdmissibleBatch recipients amounts referenceId ∨ 0 ∈ amounts ∨
        ∃ recipient ∈ recipients, ¬ AdmissibleRecipient c.self msg.sender recipient) →
      call.succeeds before = false ∧ call.commit before = before) := by
  intro call fees
  constructor
  · intro totalOut after hrun
    obtain ⟨_, _, htotal, hflow, hself, _, _⟩ := executeSameTokenPayroll_flow hc hrun
    refine ⟨htotal, fun account => ?_, hself, hflow.others, hflow.native⟩
    rw [Nat.add_assoc]
    exact hflow.flow.apply account
  · intro hinvalid
    have hfails : call.succeeds before = false := by
      rw [Bool.eq_false_iff]
      intro hsucceeds
      obtain ⟨totalOut, after, hrun⟩ := Call.succeeds_iff.mp hsucceeds
      obtain ⟨hbatch, hpayments, _, _, _, hbalance, hallowance⟩ :=
        executeSameTokenPayroll_flow hc hrun
      rcases hinvalid with hpoor | hunapproved | hbad | hzero | ⟨recipient, hmember, hrecipient⟩
      · exact absurd hbalance (Nat.not_le.mpr hpoor)
      · exact absurd hallowance (Nat.not_le.mpr hunapproved)
      · exact hbad hbatch
      · rw [← List.map_snd_zip (Nat.le_of_eq hbatch.lengths.symm)] at hzero
        obtain ⟨payment, hpayment, hamount⟩ := List.mem_map.mp hzero
        exact (hpayments payment hpayment).2 hamount
      · rw [← List.map_fst_zip (Nat.le_of_eq hbatch.lengths)] at hmember
        obtain ⟨payment, hpayment, rfl⟩ := List.mem_map.mp hmember
        exact hrecipient (hpayments payment hpayment).1
    exact ⟨hfails, Call.commit_of_not_succeeds hfails⟩

end

/-! ## A deployment -/

section

/-- A hash that keeps the reference preimage. -/
abbrev ExampleHash := Option (ℕ × Address × Address × ByteArray)

def exampleKeccak : Keccak ExampleHash where
  reference := some
  batch := fun _ => none
  crossToken := fun _ => none

def exampleImmutables : Immutables where
  self := 100
  chainid := ARC_MAINNET_CHAIN_ID
  owner := 7
  USDC := 1
  EURC := 2
  universalRouter := 3
  permit2 := 4
  poolManager := 5
  poolFee := ARC_MAINNET_POOL_FEE
  poolTickSpacing := ARC_MAINNET_POOL_TICK_SPACING
  feeRecipient := 7
  feeBps := 100
  feeRecipient_eq := rfl
  feeBps_le := by decide
  chainid_eq := rfl
  owner_ne_self := by decide
  tokens_ne := by decide

def exampleContract (router : Router (ExampleHash → Bool) (Event ExampleHash)) :
    Contract ExampleHash Ledgers where
  toImmutables := exampleImmutables
  keccak := exampleKeccak
  ext := standardExternals exampleImmutables.self exampleImmutables.universalRouter router

/-- An unpaused contract and an employer, account 9, holding 10 000 of each
asset with every allowance granted. -/
def exampleState : State ExampleHash Ledgers where
  storage := fun _ => false
  paused := false
  entered := false
  events := []
  chain := {
    native := Pi.single 9 (10000 * ARC_NATIVE_USDC_SCALE)
    balance := fun _ => Pi.single 9 10000
    allowance := fun _ _ _ => 10000
    permit2Allowance := fun _ _ _ => (0, 0) }

def exampleReference : ByteArray := ⟨#[80, 49]⟩

/-- Account 9 pays accounts 20, 21 and 20 again; the fee recipient gets 1%. -/
theorem executeSameTokenPayroll_conserves_repeated :
    ∃ after, (executeSameTokenPayroll (exampleContract fun _ _ => none) ⟨9, 0, 0⟩ 1 [20, 21, 20]
        [100, 200, 300] exampleReference).run exampleState = .ok (600, after) ∧
      after.chain.balance 1 20 = 400 ∧ after.chain.balance 1 21 = 200 ∧
      after.chain.balance 1 7 = 6 ∧ after.chain.balance 1 9 = 10000 - 606 := by
  have hsucceeds : (executeSameTokenPayroll (exampleContract fun _ _ => none) ⟨9, 0, 0⟩ 1
      [20, 21, 20] [100, 200, 300] exampleReference).succeeds exampleState = true := by
    decide +kernel
  obtain ⟨totalOut, after, hrun⟩ := Call.succeeds_iff.mp hsucceeds
  have hstandard : (exampleContract fun _ _ => none).Standard fun _ _ => none := rfl
  obtain ⟨htotal, hbalance, _⟩ := (executeSameTokenPayroll_conserves hstandard ⟨9, 0, 0⟩ 1
    [20, 21, 20] [100, 200, 300] exampleReference exampleState).1 totalOut after hrun
  subst htotal
  refine ⟨after, hrun, ?_, ?_, ?_, ?_⟩
  · exact (hbalance 20).trans (by decide)
  · exact (hbalance 21).trans (by decide)
  · exact (hbalance 7).trans (by decide)
  · exact Nat.add_right_cancel ((hbalance 9).trans (by decide))

end

end WizPay.PayrollMainnet
