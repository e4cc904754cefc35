import Mathlib.Algebra.BigOperators.Group.List.Basic
import WizPay.PayrollMainnet.Contract

/-!
# What the payroll checks establish

The checks read the call arguments only. A call that passes them leaves the
state alone and knows that its batch is admissible; the running totals are the
sums over the batch, inside `uint256`.
-/

namespace WizPay.PayrollMainnet

open Foundation Evm

variable {Hash χ : Type}

/-- The conditions of `_validateBatch`. -/
structure AdmissibleBatch (recipients : List Address) (amounts : List ℕ)
    (referenceId : ByteArray) : Prop where
  nonempty : recipients.length ≠ 0
  lengths : recipients.length = amounts.length
  size : recipients.length ≤ MAX_BATCH_SIZE
  reference : referenceId.size ≠ 0
  referenceSize : referenceId.size ≤ MAX_REFERENCE_ID_LENGTH

/-- The conditions of `_validateRecipient` for a call by `employer`. -/
structure AdmissibleRecipient (payroll employer recipient : Address) : Prop where
  ne_zero : recipient ≠ 0
  ne_employer : recipient ≠ employer
  ne_payroll : recipient ≠ payroll

theorem validateBatch_ok {recipients : List Address} {amounts : List ℕ} {referenceId : ByteArray}
    {state : State Hash χ} {result : Unit × State Hash χ} :
    (validateBatch recipients amounts referenceId).run state = .ok result ↔
      AdmissibleBatch recipients amounts referenceId ∧ ((), state) = result := by
  simp only [validateBatch, Call.bind_ok, revertIf_ok, Prod.mk.injEq, true_and, not_not,
    Nat.not_lt, gt_iff_lt]
  constructor
  · rintro ⟨_, _, ⟨hnonempty, rfl⟩, _, _, ⟨hlengths, rfl⟩, _, _, ⟨hsize, rfl⟩, _, _,
      ⟨hreference, rfl⟩, hreferenceSize, hresult⟩
    exact ⟨⟨hnonempty, hlengths, hsize, hreference, hreferenceSize⟩, hresult⟩
  · rintro ⟨⟨hnonempty, hlengths, hsize, hreference, hreferenceSize⟩, hresult⟩
    exact ⟨(), state, ⟨hnonempty, rfl⟩, (), state, ⟨hlengths, rfl⟩, (), state, ⟨hsize, rfl⟩,
      (), state, ⟨hreference, rfl⟩, hreferenceSize, hresult⟩

section

variable (c : Contract Hash χ)

theorem validateRecipient_ok {msg : Msg} {recipient : Address} {state : State Hash χ}
    {result : Unit × State Hash χ} :
    (validateRecipient c msg recipient).run state = .ok result ↔
      AdmissibleRecipient c.self msg.sender recipient ∧ ((), state) = result := by
  simp only [validateRecipient, Call.bind_ok, revertIf_ok, Prod.mk.injEq, true_and]
  constructor
  · rintro ⟨_, _, ⟨hzero, rfl⟩, _, _, ⟨hemployer, rfl⟩, hself, hresult⟩
    exact ⟨⟨hzero, hemployer, hself⟩, hresult⟩
  · rintro ⟨⟨hzero, hemployer, hself⟩, hresult⟩
    exact ⟨(), state, ⟨hzero, rfl⟩, (), state, ⟨hemployer, rfl⟩, hself, hresult⟩

/-- The fee the contract takes on one amount. -/
def feeOf (amount : ℕ) : ℕ := amount * c.feeBps / 10000

theorem fee_ok {amount : ℕ} {state : State Hash χ} {result : ℕ × State Hash χ}
    (hrun : (fee c amount).run state = .ok result) : (feeOf c amount, state) = result :=
  bpsFee_ok hrun

theorem feeOf_le (amount : ℕ) : feeOf c amount ≤ amount :=
  bpsFee_le (Nat.le_trans c.feeBps_le (by decide)) amount

/-- Every payment of the batch is positive and goes to an admissible recipient. -/
def AdmissiblePayments (employer : Address) (payments : List (Address × ℕ)) : Prop :=
  ∀ payment ∈ payments, AdmissibleRecipient c.self employer payment.1 ∧ payment.2 ≠ 0

theorem sumSameToken_ok {msg : Msg} {payments : List (Address × ℕ)}
    {totalObligations totalFees : ℕ} {state : State Hash χ} {result : (ℕ × ℕ) × State Hash χ}
    (hrun : (sumSameToken c msg payments totalObligations totalFees).run state = .ok result) :
    AdmissiblePayments c msg.sender payments ∧
      result = ((totalObligations + (payments.map Prod.snd).sum,
        totalFees + (payments.map fun payment => feeOf c payment.2).sum), state) := by
  induction payments generalizing totalObligations totalFees with
  | nil =>
      rw [sumSameToken] at hrun
      refine ⟨fun payment hpayment => absurd hpayment List.not_mem_nil, ?_⟩
      simpa using (Call.pure_ok.mp hrun).symm
  | cons payment rest ih =>
      obtain ⟨recipient, amount⟩ := payment
      simp only [sumSameToken, Call.bind_ok, validateRecipient_ok, revertIf_ok, checkedAdd,
        checked_ok, Prod.mk.injEq, true_and] at hrun
      obtain ⟨_, _, ⟨hrecipient, rfl⟩, _, _, ⟨hamount, rfl⟩, _, _, ⟨_, rfl, rfl⟩, _, _, hfee, _, _,
        ⟨_, rfl, rfl⟩, hrest⟩ := hrun
      obtain ⟨rfl, rfl⟩ := Prod.mk.inj (fee_ok c hfee)
      obtain ⟨hadmissible, hresult⟩ := ih hrest
      refine ⟨?_, ?_⟩
      · intro payment hpayment
        rcases List.mem_cons.mp hpayment with rfl | hmember
        · exact ⟨hrecipient, hamount⟩
        · exact hadmissible payment hmember
      · rw [hresult]
        simp only [List.map_cons, List.sum_cons, Nat.add_assoc]

theorem sumCrossToken_ok {msg : Msg} {payments : List (Address × ℕ)} {totalObligations : ℕ}
    {state : State Hash χ} {result : ℕ × State Hash χ}
    (hrun : (sumCrossToken c msg payments totalObligations).run state = .ok result) :
    AdmissiblePayments c msg.sender payments ∧
      result = (totalObligations + (payments.map Prod.snd).sum, state) := by
  induction payments generalizing totalObligations with
  | nil =>
      rw [sumCrossToken] at hrun
      refine ⟨fun payment hpayment => absurd hpayment List.not_mem_nil, ?_⟩
      simpa using (Call.pure_ok.mp hrun).symm
  | cons payment rest ih =>
      obtain ⟨recipient, amount⟩ := payment
      simp only [sumCrossToken, Call.bind_ok, validateRecipient_ok, revertIf_ok, checkedAdd,
        checked_ok, Prod.mk.injEq, true_and] at hrun
      obtain ⟨_, _, ⟨hrecipient, rfl⟩, _, _, ⟨hamount, rfl⟩, _, _, ⟨_, rfl, rfl⟩, hrest⟩ := hrun
      obtain ⟨hadmissible, hresult⟩ := ih hrest
      refine ⟨?_, ?_⟩
      · intro payment hpayment
        rcases List.mem_cons.mp hpayment with rfl | hmember
        · exact ⟨hrecipient, hamount⟩
        · exact hadmissible payment hmember
      · rw [hresult]
        simp only [List.map_cons, List.sum_cons, Nat.add_assoc]

/-- What `_validateCrossTokenDetails` establishes. -/
structure CrossTokenDetails (msg : Msg) (recipients : List Address) (outputAmounts : List ℕ)
    (grossInput minTotalOut minHopPriceX36 deadline : ℕ) (referenceId : ByteArray) : Prop where
  batch : AdmissibleBatch recipients outputAmounts referenceId
  payments : AdmissiblePayments c msg.sender (recipients.zip outputAmounts)
  grossInput_ne : grossInput ≠ 0
  grossInput_lt : grossInput < uint128Bound
  minTotalOut_ne : minTotalOut ≠ 0
  minTotalOut_lt : minTotalOut < uint128Bound
  minHopPriceX36_ne : minHopPriceX36 ≠ 0
  deadline_ge : msg.timestamp ≤ deadline
  deadline_le : deadline ≤ msg.timestamp + MAX_DEADLINE_WINDOW
  covered : ((recipients.zip outputAmounts).map Prod.snd).sum ≤ minTotalOut

theorem validateCrossTokenDetails_ok {msg : Msg} {recipients : List Address}
    {outputAmounts : List ℕ} {grossInput minTotalOut minHopPriceX36 deadline : ℕ}
    {referenceId : ByteArray} {state : State Hash χ} {result : ℕ × State Hash χ}
    (hrun : (validateCrossTokenDetails c msg recipients outputAmounts grossInput minTotalOut
      minHopPriceX36 deadline referenceId).run state = .ok result) :
    CrossTokenDetails c msg recipients outputAmounts grossInput minTotalOut minHopPriceX36
        deadline referenceId ∧
      result = (((recipients.zip outputAmounts).map Prod.snd).sum, state) := by
  simp only [validateCrossTokenDetails, Call.bind_ok, validateBatch_ok, revertIf_ok, checkedAdd,
    checked_ok, Call.pure_ok, Prod.mk.injEq, true_and] at hrun
  obtain ⟨_, _, ⟨hbatch, rfl⟩, _, _, ⟨hgross, rfl⟩, _, _, ⟨hgrossBound, rfl⟩, _, _,
    ⟨hmin, rfl⟩, _, _, ⟨hminBound, rfl⟩, _, _, ⟨hhop, rfl⟩, _, _, ⟨hexpired, rfl⟩, _, _,
    ⟨_, rfl, rfl⟩, _, _, ⟨hfar, rfl⟩, _, _, hsum, _, _, ⟨hcovered, rfl⟩, rfl⟩ := hrun
  obtain ⟨hpayments, hresult⟩ := sumCrossToken_ok c hsum
  obtain ⟨rfl, rfl⟩ := Prod.mk.inj hresult
  rw [Nat.zero_add] at hcovered ⊢
  refine ⟨⟨hbatch, hpayments, hgross, ?_, hmin, ?_, hhop, Nat.not_lt.mp hexpired,
    Nat.not_lt.mp hfar, Nat.not_lt.mp hcovered⟩, rfl⟩
  · unfold uint128Bound at hgrossBound ⊢
    omega
  · unfold uint128Bound at hminBound ⊢
    omega

theorem sumCrossToken_run {msg : Msg} {payments : List (Address × ℕ)} {totalObligations : ℕ}
    {state : State Hash χ} (hadmissible : AdmissiblePayments c msg.sender payments)
    (hbound : totalObligations + (payments.map Prod.snd).sum < uint256Bound) :
    (sumCrossToken c msg payments totalObligations).run state =
      .ok (totalObligations + (payments.map Prod.snd).sum, state) := by
  induction payments generalizing totalObligations with
  | nil => rfl
  | cons payment rest ih =>
      obtain ⟨recipient, amount⟩ := payment
      obtain ⟨hrecipient, hamount⟩ := hadmissible _ List.mem_cons_self
      have hrest := @ih (totalObligations + amount)
        fun payment hmember => hadmissible payment (List.mem_cons_of_mem _ hmember)
      simp only [List.map_cons, List.sum_cons, ← Nat.add_assoc] at hbound hrest ⊢
      unfold sumCrossToken
      refine Call.bind_ok.mpr ⟨(), state, (validateRecipient_ok c).mpr ⟨hrecipient, rfl⟩, ?_⟩
      exact bind_revertIf_ok.mpr ⟨hamount, bind_checked_ok.mpr ⟨by omega, hrest hbound⟩⟩

/-- The details pass when they hold and no sum leaves `uint256`. -/
theorem validateCrossTokenDetails_run {msg : Msg} {recipients : List Address}
    {outputAmounts : List ℕ} {grossInput minTotalOut minHopPriceX36 deadline : ℕ}
    {referenceId : ByteArray} {state : State Hash χ}
    (hdetails : CrossTokenDetails c msg recipients outputAmounts grossInput minTotalOut
      minHopPriceX36 deadline referenceId)
    (htimestamp : msg.timestamp + MAX_DEADLINE_WINDOW < uint256Bound) :
    (validateCrossTokenDetails c msg recipients outputAmounts grossInput minTotalOut
      minHopPriceX36 deadline referenceId).run state =
      .ok (((recipients.zip outputAmounts).map Prod.snd).sum, state) := by
  have hgross := hdetails.grossInput_lt
  have hminimum := hdetails.minTotalOut_lt
  have hcovered := hdetails.covered
  have hbound : uint128Bound ≤ uint256Bound := by decide
  have hsum := @sumCrossToken_run Hash χ c msg _ 0 state hdetails.payments (by omega)
  unfold validateCrossTokenDetails
  refine Call.bind_ok.mpr ⟨(), state, validateBatch_ok.mpr ⟨hdetails.batch, rfl⟩, ?_⟩
  refine bind_revertIf_ok.mpr ⟨hdetails.grossInput_ne, bind_revertIf_ok.mpr ⟨by omega, ?_⟩⟩
  refine bind_revertIf_ok.mpr ⟨hdetails.minTotalOut_ne, bind_revertIf_ok.mpr ⟨by omega, ?_⟩⟩
  refine bind_revertIf_ok.mpr ⟨hdetails.minHopPriceX36_ne, bind_revertIf_ok.mpr
    ⟨Nat.not_lt.mpr hdetails.deadline_ge, bind_checked_ok.mpr ⟨htimestamp, ?_⟩⟩⟩
  refine bind_revertIf_ok.mpr ⟨Nat.not_lt.mpr hdetails.deadline_le, ?_⟩
  rw [Nat.zero_add] at hsum
  exact Call.bind_ok.mpr ⟨_, state, hsum, bind_revertIf_ok.mpr ⟨by omega, rfl⟩⟩

end

end WizPay.PayrollMainnet
