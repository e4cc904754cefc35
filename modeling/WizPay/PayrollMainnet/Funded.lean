import WizPay.Evm.Solvency
import WizPay.PayrollMainnet.SameToken

/-!
# Funded same-token payroll goes through

On standard tokens an admissible batch whose employer holds and allows the
funding executes: no check of the contract stands against it, and what it
leaves of the allowance is the allowance less the funding.
-/

namespace WizPay.PayrollMainnet

open Foundation Evm

variable {Hash : Type} {c : Contract Hash Ledgers} {router : Router (Hash → Bool) (Event Hash)}

/-- What the contract pulls for a batch at a fee: the amounts and the fee of each. -/
def fundingOf (feeBps : ℕ) (amounts : List ℕ) : ℕ :=
  amounts.sum + (amounts.map fun amount => amount * feeBps / 10000).sum

/-- The fee of every amount can be computed. -/
def FeesFit (feeBps : ℕ) (amounts : List ℕ) : Prop :=
  ∀ amount ∈ amounts, amount * feeBps < uint256Bound

theorem fee_run {amount : ℕ} {state : State Hash Ledgers}
    (hfits : amount * c.feeBps < uint256Bound) :
    (fee c amount).run state = .ok (feeOf c amount, state) := by
  unfold fee bpsFee
  split
  next hzero => rw [feeOf, hzero, Nat.mul_zero, Nat.zero_div]; rfl
  next => exact bind_checked_ok.mpr ⟨hfits, rfl⟩

theorem sumSameToken_run {msg : Msg} {payments : List (Address × ℕ)}
    {totalObligations totalFees : ℕ} {state : State Hash Ledgers}
    (hadmissible : AdmissiblePayments c msg.sender payments)
    (hfits : FeesFit c.feeBps (payments.map Prod.snd))
    (hbound : totalObligations + (payments.map Prod.snd).sum +
      (totalFees + (payments.map fun payment => feeOf c payment.2).sum) < uint256Bound) :
    (sumSameToken c msg payments totalObligations totalFees).run state = .ok
      ((totalObligations + (payments.map Prod.snd).sum,
        totalFees + (payments.map fun payment => feeOf c payment.2).sum), state) := by
  induction payments generalizing totalObligations totalFees with
  | nil => rfl
  | cons payment rest ih =>
      obtain ⟨recipient, amount⟩ := payment
      obtain ⟨hrecipient, hamount⟩ := hadmissible _ List.mem_cons_self
      have hrest := @ih (totalObligations + amount) (totalFees + feeOf c amount)
        (fun payment hmember => hadmissible payment (List.mem_cons_of_mem _ hmember))
        (fun amount hmember => hfits amount (List.mem_cons_of_mem _ hmember))
      simp only [List.map_cons, List.sum_cons, ← Nat.add_assoc] at hbound hrest ⊢
      have hfee : amount * c.feeBps < uint256Bound := hfits amount List.mem_cons_self
      unfold sumSameToken
      refine Call.bind_ok.mpr ⟨(), state, (validateRecipient_ok c).mpr ⟨hrecipient, rfl⟩, ?_⟩
      refine bind_revertIf_ok.mpr ⟨hamount, bind_checked_ok.mpr ⟨by omega, ?_⟩⟩
      refine Call.bind_ok.mpr ⟨_, state, fee_run hfee, bind_checked_ok.mpr ⟨by omega, ?_⟩⟩
      exact hrest (by omega)

section Standard

variable (hc : c.Standard router) (hself : c.self ≠ 0)
include hc hself

/-- The payout loop goes through when the contract holds the total. -/
theorem payRecipients_run {msg : Msg} {referenceHash : Hash} {token : Address} {i : ℕ}
    {payments : List (Address × ℕ)} {state : State Hash Ledgers}
    (hadmissible : AdmissiblePayments c msg.sender payments)
    (hcovered : Ledger.total payments ≤ state.chain.balance token c.self) :
    ∃ events chain, (payRecipients c msg referenceHash token i payments).run state =
        .ok ((), { state with events := events, chain := chain }) ∧
      chain.allowance = state.chain.allowance := by
  induction payments generalizing i state with
  | nil => exact ⟨state.events, state.chain, rfl, rfl⟩
  | cons payment rest ih =>
      obtain ⟨recipient, amount⟩ := payment
      rw [Ledger.total_cons] at hcovered
      obtain ⟨hrecipient, -⟩ := hadmissible _ List.mem_cons_self
      obtain ⟨paid, hpaid, hallowance, hflow⟩ := safeTransfer_succeeds hc hself hrecipient.ne_zero
        (Nat.le_trans (Nat.le_add_right amount _) hcovered)
      -- What the contract pays out of its own account is all it loses.
      have hleft := hflow.flow.apply c.self
      rw [Pi.single_eq_same, Pi.single_eq_of_ne hrecipient.ne_payroll.symm] at hleft
      let event : Event Hash :=
        .payrollPayment ⟨referenceHash, msg.sender, token, recipient, i, amount⟩
      obtain ⟨events, chain, hrest, hkept⟩ := @ih (i + 1)
        { state with events := state.events ++ [event], chain := paid }
        (fun payment hmember => hadmissible payment (List.mem_cons_of_mem _ hmember))
        (by dsimp only at hcovered ⊢; omega)
      refine ⟨events, chain, ?_, hkept.trans hallowance⟩
      unfold payRecipients
      exact bind_callExternal_ok.mpr ⟨_, hpaid, bind_emit_ok.mpr hrest⟩

/-- The token movements of a funded batch go through. -/
theorem distributeSameToken_run {msg : Msg} {token : Address} {payments : List (Address × ℕ)}
    {totalFees : ℕ} {referenceHash : Hash} {state : State Hash Ledgers}
    (hfeeRecipient : c.feeRecipient ≠ 0) (hsender : msg.sender ≠ 0) (hother : msg.sender ≠ c.self)
    (hadmissible : AdmissiblePayments c msg.sender payments)
    (hsupplied : state.chain.Supplied token)
    (hbalance : Ledger.total payments + totalFees ≤ state.chain.balance token msg.sender)
    (hallowance : Ledger.total payments + totalFees ≤
      state.chain.allowance token msg.sender c.self) :
    ∃ events chain, (distributeSameToken c msg token payments (Ledger.total payments + totalFees)
        totalFees referenceHash).run state =
          .ok ((), { state with events := events, chain := chain }) ∧
      chain.allowance token msg.sender c.self =
        Ledgers.leftOver (state.chain.allowance token msg.sender c.self)
          (Ledger.total payments + totalFees) := by
  have hbound := Nat.lt_of_le_of_lt hbalance (hsupplied.lt msg.sender)
  have hfeeSelf : c.feeRecipient ≠ c.self := by
    rw [c.feeRecipient_eq]
    exact c.owner_ne_self
  obtain ⟨funded, hfunded, hleft, hpull⟩ :=
    safeTransferFrom_succeeds hc hself hsender hbound hbalance hallowance
  have hheld := hpull.flow.apply c.self
  rw [Pi.single_eq_same, Pi.single_eq_of_ne hother.symm] at hheld
  -- The fee transfer, which is skipped when there is no fee.
  obtain ⟨charged, hcharged, hchargedAllowance, hchargedBalance⟩ : ∃ charged,
      (Call.when (totalFees ≠ 0) (callExternal
        (c.ext.safeTransfer token c.feeRecipient totalFees)) : PayrollCall Hash Ledgers Unit).run
          { state with chain := funded } = .ok ((), { state with chain := charged }) ∧
      charged.allowance = funded.allowance ∧
      charged.balance token c.self + totalFees = funded.balance token c.self := by
    by_cases hzero : totalFees = 0
    · exact ⟨funded, Call.when_ok.mpr (.inr ⟨not_not.mpr hzero, rfl⟩), rfl, by omega⟩
    · obtain ⟨charged, hcharged, hkept, hfee⟩ := @safeTransfer_succeeds _ _ _ _ _ _
        { state with chain := funded } hc hself token c.feeRecipient totalFees hfeeRecipient
        (by dsimp only; omega)
      refine ⟨charged, Call.when_ok.mpr (.inl ⟨hzero, ?_⟩), hkept, ?_⟩
      · exact callExternal_ok.mpr ⟨_, hcharged, rfl⟩
      · have hcharge := hfee.flow.apply c.self
        rw [Pi.single_eq_same, Pi.single_eq_of_ne hfeeSelf.symm] at hcharge
        exact hcharge
  obtain ⟨events, chain, hpaid, hkept⟩ := @payRecipients_run Hash c router hc hself msg
    referenceHash token 0 payments { state with chain := charged } hadmissible
    (by dsimp only; omega)
  refine ⟨events, chain, ?_, by rw [hkept, hchargedAllowance, hleft]⟩
  have hpaidSelf := (payRecipients_flow hc hpaid).flow.apply c.self
  rw [Pi.single_eq_same, Ledger.owed_of_not_mem fun payment hmember =>
    (hadmissible payment hmember).1.ne_payroll] at hpaidSelf
  dsimp only at hpaidSelf
  unfold distributeSameToken
  refine bind_view_ok.mpr (bind_callExternal_ok.mpr ⟨_, hfunded, bind_view_ok.mpr ?_⟩)
  rw [balanceOf_standard hc]
  refine bind_checked_ok.mpr ⟨?_, bind_revertIf_ok.mpr ⟨?_, ?_⟩⟩
  · have hpair := hsupplied.add_lt hother
    omega
  · rw [balanceOf_standard hc, not_not]
    omega
  · refine Call.bind_ok.mpr ⟨(), _, hcharged, Call.bind_ok.mpr ⟨(), _, hpaid, ?_⟩⟩
    refine bind_view_ok.mpr (revertIf_ok.mpr ⟨?_, rfl⟩)
    rw [balanceOf_standard hc, not_not]
    dsimp only
    omega

end Standard

/-! ## A whole execution -/

/-- What an execution asks of the batch and of the state it meets. -/
structure Executable (c : Contract Hash Ledgers) (msg : Msg) (token : Address)
    (recipients : List Address) (amounts : List ℕ) (referenceId : ByteArray)
    (state : State Hash Ledgers) : Prop where
  supported : token = c.USDC ∨ token = c.EURC
  value : msg.value = 0
  batch : AdmissibleBatch recipients amounts referenceId
  payments : AdmissiblePayments c msg.sender (recipients.zip amounts)
  fees : FeesFit c.feeBps amounts
  supplied : state.chain.Supplied token
  balance : fundingOf c.feeBps amounts ≤ state.chain.balance token msg.sender
  allowance : fundingOf c.feeBps amounts ≤ state.chain.allowance token msg.sender c.self
  fresh : state.storage (canonicalReferenceHash c msg.sender referenceId) = false
  unpaused : state.paused = false
  unlocked : state.entered = false

/-- Accounts as they occur on the chain: nothing is deployed at the zero address,
which sends no transactions, and the contract calls no function of its own. -/
structure Accounts (c : Contract Hash Ledgers) (sender : Address) : Prop where
  self : c.self ≠ 0
  feeRecipient : c.feeRecipient ≠ 0
  sender_ne_zero : sender ≠ 0
  sender_ne_self : sender ≠ c.self

variable [DecidableEq Hash]

/-- An execution that finds what it asks for goes through, and takes its funding
off the allowance. -/
theorem executeSameTokenPayroll_run (hc : c.Standard router) {msg : Msg} {token : Address}
    {recipients : List Address} {amounts : List ℕ} {referenceId : ByteArray}
    {state : State Hash Ledgers} (haccounts : Accounts c msg.sender)
    (h : Executable c msg token recipients amounts referenceId state) :
    ∃ events chain,
      (executeSameTokenPayroll c msg token recipients amounts referenceId).run state =
        .ok (amounts.sum, { state with
          storage := Function.update state.storage
            (canonicalReferenceHash c msg.sender referenceId) true
          events := events
          chain := chain }) ∧
      chain.allowance token msg.sender c.self =
        Ledgers.leftOver (state.chain.allowance token msg.sender c.self)
          (fundingOf c.feeBps amounts) := by
  have hamounts : (recipients.zip amounts).map Prod.snd = amounts :=
    List.map_snd_zip (Nat.le_of_eq h.batch.lengths.symm)
  have hfees : (recipients.zip amounts).map (fun payment => feeOf c payment.2) =
      amounts.map fun amount => amount * c.feeBps / 10000 := by
    conv_rhs => rw [← hamounts]
    rw [List.map_map]
    rfl
  have htotal : Ledger.total (recipients.zip amounts) = amounts.sum :=
    Ledger.total_zip h.batch.lengths
  have hbound : fundingOf c.feeBps amounts < uint256Bound :=
    Nat.lt_of_le_of_lt h.balance (h.supplied.lt msg.sender)
  let referenceHash := canonicalReferenceHash c msg.sender referenceId
  let consumed : State Hash Ledgers := { state with
    entered := true, storage := Function.update state.storage referenceHash true }
  have hsum := @sumSameToken_run Hash c msg (recipients.zip amounts) 0 0 consumed h.payments
    (by rw [hamounts]; exact h.fees) (by
      rw [hamounts, hfees, Nat.zero_add, Nat.zero_add]
      exact hbound)
  rw [hamounts, hfees, Nat.zero_add, Nat.zero_add] at hsum
  obtain ⟨events, chain, hpaid, hleft⟩ := @distributeSameToken_run Hash c router hc haccounts.self
    msg token (recipients.zip amounts) (amounts.map fun amount => amount * c.feeBps / 10000).sum
    referenceHash consumed haccounts.feeRecipient haccounts.sender_ne_zero
    haccounts.sender_ne_self h.payments h.supplied (by rw [htotal]; exact h.balance)
    (by rw [htotal]; exact h.allowance)
  rw [htotal] at hpaid hleft
  let totalFees := (amounts.map fun amount => amount * c.feeBps / 10000).sum
  let reported : List (Event Hash) := [
    .payrollReferenceConsumed
      { referenceHash, employer := msg.sender, tokenIn := token, tokenOut := token
        batchDigest := canonicalBatchDigest c msg.sender token token recipients amounts referenceId
        totalInput := amounts.sum + totalFees, totalOutput := amounts.sum, totalFees
        recipientCount := recipients.length, referenceId },
    .payrollBatchExecuted
      { employer := msg.sender, tokenIn := token, tokenOut := token
        totalInput := amounts.sum + totalFees, totalOutput := amounts.sum, totalFees
        recipientCount := recipients.length, referenceId }]
  refine ⟨events ++ reported, chain, ?_, hleft⟩
  unfold executeSameTokenPayroll
  refine payable_ok.mpr ⟨state, ?_, nonReentrant_ok.mpr ⟨h.unlocked, ?_⟩⟩
  · rw [h.value]
    exact receiveValue_nothing hc msg.sender
  · refine ⟨{ consumed with chain := chain, events := events ++ reported },
      whenNotPaused_ok.mpr ⟨h.unpaused, ?_⟩, ?_⟩
    · refine bind_revertIf_ok.mpr ⟨by have hsupported := h.supported; tauto, ?_⟩
      refine bind_revertIf_ok.mpr ⟨not_not.mpr h.value, ?_⟩
      refine Call.bind_ok.mpr ⟨(), _, validateBatch_ok.mpr ⟨h.batch, rfl⟩, ?_⟩
      refine Call.bind_ok.mpr ⟨referenceHash, consumed, ?_, ?_⟩
      · refine Call.bind_get_ok.mpr (bind_revertIf_ok.mpr ⟨?_, Call.bind_modify_ok.mpr rfl⟩)
        rw [Bool.not_eq_true]
        exact h.fresh
      · refine Call.bind_ok.mpr ⟨_, consumed, hsum, bind_checked_ok.mpr ⟨hbound, ?_⟩⟩
        refine Call.bind_ok.mpr ⟨(), _, hpaid, bind_emit_ok.mpr (bind_emit_ok.mpr ?_)⟩
        rw [List.append_assoc]
        rfl
    · rw [← h.unlocked]

end WizPay.PayrollMainnet
