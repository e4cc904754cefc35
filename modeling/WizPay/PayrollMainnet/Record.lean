import WizPay.PayrollMainnet.Reentrancy

/-!
# The record of a successful payroll call

A successful execution consumes exactly one fresh reference and appends the
events of its batch, in emission order. Both routes are described by one kind
of statement, for arbitrary code outside the contract.
-/

namespace WizPay.PayrollMainnet

open Foundation Evm

variable {Hash χ : Type}

/-- The `PayrollPayment` events of a batch, from payment index `i` on. -/
def paymentEvents (referenceHash : Hash) (employer token : Address) :
    ℕ → List (Address × ℕ) → List (Event Hash)
  | _, [] => []
  | i, (recipient, amount) :: rest =>
      .payrollPayment ⟨referenceHash, employer, token, recipient, i, amount⟩ ::
        paymentEvents referenceHash employer token (i + 1) rest

section

variable [DecidableEq Hash] {c : Contract Hash χ} (hc : c.Sandboxed)
include hc

theorem payRecipients_record {msg : Msg} {referenceHash : Hash} {token : Address} {i : ℕ}
    {payments : List (Address × ℕ)} {state next : State Hash χ} {value : Unit}
    (hentered : (record state).entered = true)
    (hrun : (payRecipients c msg referenceHash token i payments).run state = .ok (value, next)) :
    record next =
      (record state).append (paymentEvents referenceHash msg.sender token i payments) := by
  induction payments generalizing i state with
  | nil =>
      rw [payRecipients] at hrun
      obtain ⟨_, rfl⟩ := Prod.mk.inj (Call.pure_ok.mp hrun)
      rw [paymentEvents, Record.append_nil]
  | cons payment rest ih =>
      obtain ⟨recipient, amount⟩ := payment
      simp only [payRecipients, Call.bind_ok, emit_ok, Prod.mk.injEq, true_and] at hrun
      obtain ⟨_, paid, htransfer, _, _, rfl, hrest⟩ := hrun
      have hpaid : record paid = record state :=
        keeps_external hc hentered hc.safeTransfer state _ paid rfl htransfer
      have hnext := ih (by rw [record_emit rfl, hpaid]; exact hentered) hrest
      rw [hnext, record_emit rfl, hpaid, Record.append_append]
      rfl

theorem distributeSameToken_record {msg : Msg} {token : Address} {payments : List (Address × ℕ)}
    {totalFunding totalFees : ℕ} {referenceHash : Hash} {state next : State Hash χ} {value : Unit}
    (hentered : (record state).entered = true)
    (hrun : (distributeSameToken c msg token payments totalFunding totalFees referenceHash).run
      state = .ok (value, next)) :
    record next =
      (record state).append (paymentEvents referenceHash msg.sender token 0 payments) := by
  simp only [distributeSameToken, Call.bind_ok, view_ok, checkedAdd, checked_ok, revertIf_ok,
    Prod.mk.injEq, true_and] at hrun
  obtain ⟨_, _, ⟨rfl, rfl⟩, _, funded, hfunded, _, _, ⟨rfl, rfl⟩, _, _, ⟨_, rfl, rfl⟩, _, _,
    ⟨_, rfl⟩, _, charged, hcharged, _, paid, hpaid, _, _, ⟨rfl, rfl⟩, _, rfl⟩ := hrun
  have hfunded : record funded = record state :=
    keeps_external hc hentered hc.safeTransferFrom state _ funded rfl hfunded
  have hcharged : record charged = record state := by
    refine Call.Keeps.when (fun _ => ?_) funded _ charged hfunded hcharged
    exact keeps_external hc hentered hc.safeTransfer
  rw [payRecipients_record hc (by rw [hcharged]; exact hentered) hpaid, hcharged]

/-- The refund event, present exactly when the swap brought a surplus. -/
def refundEvents (referenceHash : Hash) (employer tokenOut : Address) (surplus : ℕ) :
    List (Event Hash) :=
  if surplus ≠ 0 then [.payrollSurplusRefunded ⟨referenceHash, employer, tokenOut, surplus⟩] else []

theorem settleCrossTokenOutputs_record {msg : Msg} {tokenOut : Address}
    {payments : List (Address × ℕ)} {totalObligations startOutputBal minTotalOut : ℕ}
    {referenceHash : Hash} {state next : State Hash χ} {amountOut : ℕ}
    (hentered : (record state).entered = true)
    (hrun : (settleCrossTokenOutputs c msg tokenOut payments totalObligations startOutputBal
      minTotalOut referenceHash).run state = .ok (amountOut, next)) :
    record next =
      (record state).append (paymentEvents referenceHash msg.sender tokenOut 0 payments ++
        refundEvents referenceHash msg.sender tokenOut (amountOut - totalObligations)) := by
  simp only [settleCrossTokenOutputs, Call.bind_ok, view_ok, checkedSub, checked_ok, revertIf_ok,
    Call.pure_ok, Prod.mk.injEq, true_and] at hrun
  obtain ⟨_, _, ⟨rfl, rfl⟩, _, _, ⟨_, rfl, rfl⟩, _, _, ⟨_, rfl⟩, _, _, ⟨_, rfl⟩, _, paid, hpaid,
    _, _, ⟨_, rfl, rfl⟩, _, refunded, hrefunded, _, _, ⟨rfl, rfl⟩, _, _, ⟨_, rfl⟩, rfl, rfl⟩ := hrun
  have hpaid := payRecipients_record hc hentered hpaid
  have hstill : (record paid).entered = true := by rw [hpaid]; exact hentered
  rw [← Record.append_append, ← hpaid]
  rcases Call.when_ok.mp hrefunded with ⟨hsurplus, hrefund⟩ | ⟨hsurplus, hnone⟩
  · simp only [Call.bind_ok, emit_ok, Prod.mk.injEq, true_and] at hrefund
    obtain ⟨_, sent, hsent, rfl⟩ := hrefund
    have hsent : record sent = record paid :=
      keeps_external hc hstill hc.safeTransfer paid _ sent rfl hsent
    rw [refundEvents, if_pos hsurplus, record_emit rfl, hsent]
  · obtain ⟨_, rfl⟩ := Prod.mk.inj hnone
    rw [refundEvents, if_neg hsurplus, Record.append_nil]

theorem executeCrossUsdcInput_record {msg : Msg}
    {grossInput netAmountIn feeAmount minTotalOut minHopPriceX36 deadline : ℕ}
    {reading : Record Hash} (hentered : reading.entered = true) :
    Call.Keeps record reading (executeCrossUsdcInput c msg grossInput netAmountIn feeAmount
      minTotalOut minHopPriceX36 deadline) := by
  refine .bind (keeps_checked _ _) fun _ => .bind (keeps_revertIf _ _) fun _ =>
    .bind (keeps_view _) fun _ => .bind (keeps_checked _ _) fun _ => .bind (.when fun _ => ?_)
      fun _ => .bind (keeps_checked _ _) fun _ => .bind ?_ fun _ => .bind ?_ fun _ =>
        .bind (keeps_view _) fun _ => keeps_revertIf _ _
  · exact .bind (keeps_checked _ _) fun _ => keeps_external hc hentered hc.callValue
  · exact keeps_v4SwapInput
  · exact keeps_external hc hentered hc.execute

theorem executeCrossEurcInput_record {msg : Msg} {tokenIn : Address}
    {grossInput netAmountIn feeAmount minTotalOut minHopPriceX36 deadline : ℕ}
    {reading : Record Hash} (hentered : reading.entered = true) :
    Call.Keeps record reading (executeCrossEurcInput c msg tokenIn grossInput netAmountIn
      feeAmount minTotalOut minHopPriceX36 deadline) := by
  have happrove : ∀ spender amount, Call.Keeps record reading
      (callExternal (c.ext.forceApprove tokenIn spender amount) : PayrollCall Hash χ Unit) :=
    fun _ _ => keeps_external hc hentered hc.forceApprove
  have hpermit : ∀ amount expiration, Call.Keeps record reading (callExternal
      (c.ext.permit2Approve tokenIn c.universalRouter amount expiration) :
        PayrollCall Hash χ Unit) :=
    fun _ _ => keeps_external hc hentered hc.permit2Approve
  refine .bind (keeps_revertIf _ _) fun _ => .bind (keeps_view _) fun _ => .bind ?_ fun _ =>
    .bind (keeps_view _) fun _ => .bind (keeps_checked _ _) fun _ =>
      .bind (keeps_revertIf _ _) fun _ => .bind (.when fun _ => ?_) fun _ =>
        .bind (happrove _ _) fun _ => .bind (keeps_checked _ _) fun _ =>
          .bind (keeps_safeCast _ _) fun _ => .bind (keeps_safeCast _ _) fun _ =>
            .bind (hpermit _ _) fun _ => .bind ?_ fun _ => .bind ?_ fun _ =>
              .bind (happrove _ _) fun _ => hpermit _ _
  · exact keeps_external hc hentered hc.safeTransferFrom
  · exact keeps_external hc hentered hc.safeTransfer
  · exact keeps_v4SwapInput
  · exact keeps_external hc hentered hc.execute

theorem swapAndSettle_record {msg : Msg} {tokenIn tokenOut : Address}
    {payments : List (Address × ℕ)}
    {grossInput netAmountIn feeAmount minTotalOut minHopPriceX36 deadline totalObligations : ℕ}
    {referenceHash : Hash} {state next : State Hash χ} {amountOut : ℕ}
    (hentered : (record state).entered = true)
    (hrun : (swapAndSettle c msg tokenIn tokenOut payments grossInput netAmountIn feeAmount
      minTotalOut minHopPriceX36 deadline totalObligations referenceHash).run state =
        .ok (amountOut, next)) :
    record next =
      (record state).append (paymentEvents referenceHash msg.sender tokenOut 0 payments ++
        refundEvents referenceHash msg.sender tokenOut (amountOut - totalObligations)) := by
  simp only [swapAndSettle, Call.bind_ok, view_ok, Prod.mk.injEq] at hrun
  obtain ⟨_, _, ⟨rfl, rfl⟩, hrun⟩ := hrun
  split at hrun
  next =>
    obtain ⟨_, swapped, hswapped, hsettled⟩ := Call.bind_ok.mp hrun
    have hswapped := executeCrossUsdcInput_record hc hentered state _ swapped rfl hswapped
    rw [settleCrossTokenOutputs_record hc (by rw [hswapped]; exact hentered) hsettled, hswapped]
  next =>
    simp only [Call.bind_ok, view_ok, revertIf_ok, Call.pure_ok, Prod.mk.injEq, true_and] at hrun
    obtain ⟨_, _, ⟨rfl, rfl⟩, _, swapped, hswapped, _, settled, hsettled, _, _, ⟨rfl, rfl⟩, _, _,
      ⟨_, rfl⟩, rfl, rfl⟩ := hrun
    have hswapped := executeCrossEurcInput_record hc hentered state _ swapped rfl hswapped
    rw [settleCrossTokenOutputs_record hc (by rw [hswapped]; exact hentered) hsettled, hswapped]

omit hc in
theorem consumeReference_ok {msg : Msg} {referenceId : ByteArray} {state next : State Hash χ}
    {referenceHash : Hash}
    (hrun : (consumeReference c msg referenceId).run state = .ok (referenceHash, next)) :
    referenceHash = canonicalReferenceHash c msg.sender referenceId ∧
      state.storage referenceHash = false ∧
      next = { state with storage := Function.update state.storage referenceHash true } := by
  simp only [consumeReference, Call.bind_ok, Call.get_ok, revertIf_ok, Call.modify_ok,
    Call.pure_ok, Prod.mk.injEq, true_and, Bool.not_eq_true] at hrun
  obtain ⟨_, _, ⟨rfl, rfl⟩, _, _, ⟨hfree, rfl⟩, _, _, rfl, rfl, rfl⟩ := hrun
  exact ⟨rfl, hfree, rfl⟩

omit hc [DecidableEq Hash] in
theorem record_unlock (state : State Hash χ) :
    record { state with entered := false } = { record state with entered := false } := rfl

/-- The record after a payroll call consumed `referenceHash` and reported `events`. -/
def Record.consumed (before : Record Hash) (referenceHash : Hash) (events : List (Event Hash)) :
    Record Hash where
  usedReferenceHashes := Function.update before.usedReferenceHashes referenceHash true
  entered := false
  payrollEvents := before.payrollEvents ++ events

/-- The events of a same-token execution. -/
def sameTokenEvents (c : Contract Hash χ) (msg : Msg) (token : Address)
    (recipients : List Address) (amounts : List ℕ) (referenceId : ByteArray) :
    List (Event Hash) :=
  let payments := recipients.zip amounts
  let totalOutput := (payments.map Prod.snd).sum
  let totalFees := (payments.map fun payment => feeOf c payment.2).sum
  paymentEvents (canonicalReferenceHash c msg.sender referenceId) msg.sender token 0 payments ++
    [.payrollReferenceConsumed
      { referenceHash := canonicalReferenceHash c msg.sender referenceId
        employer := msg.sender, tokenIn := token, tokenOut := token
        batchDigest := canonicalBatchDigest c msg.sender token token recipients amounts referenceId
        totalInput := totalOutput + totalFees, totalOutput, totalFees
        recipientCount := recipients.length, referenceId },
     .payrollBatchExecuted
      { employer := msg.sender, tokenIn := token, tokenOut := token
        totalInput := totalOutput + totalFees, totalOutput, totalFees
        recipientCount := recipients.length, referenceId }]

/-- What a successful same-token execution leaves on record. -/
theorem executeSameTokenPayroll_record {msg : Msg} {token : Address} {recipients : List Address}
    {amounts : List ℕ} {referenceId : ByteArray} {before after : State Hash χ} {totalOut : ℕ}
    (hrun : (executeSameTokenPayroll c msg token recipients amounts referenceId).run before =
      .ok (totalOut, after)) :
    before.storage (canonicalReferenceHash c msg.sender referenceId) = false ∧
      record after = (record before).consumed (canonicalReferenceHash c msg.sender referenceId)
        (sameTokenEvents c msg token recipients amounts referenceId) := by
  obtain ⟨funded, last, hfunded, _, hbody, rfl⟩ := entryPoint_ok hrun
  obtain ⟨chain, rfl⟩ := hc.receiveValue hfunded
  simp only [Call.bind_ok, validateBatch_ok, revertIf_ok, checkedAdd, checked_ok, emit_ok,
    Call.pure_ok, Prod.mk.injEq, true_and] at hbody
  obtain ⟨_, _, ⟨_, rfl⟩, _, _, ⟨_, rfl⟩, _, _, ⟨_, rfl⟩, referenceHash, consumed, hconsumed,
    totals, summed, hsum, _, _, ⟨_, rfl, rfl⟩, _, paid, hpaid, _, _, rfl, _, _, rfl, rfl, rfl⟩ :=
    hbody
  obtain ⟨rfl, hfree, rfl⟩ := consumeReference_ok hconsumed
  obtain ⟨_, hsum⟩ := sumSameToken_ok c hsum
  obtain ⟨rfl, rfl⟩ := Prod.mk.inj hsum
  refine ⟨hfree, ?_⟩
  rw [record_unlock, record_emit rfl, record_emit rfl, distributeSameToken_record hc rfl hpaid,
    Record.append_append, Record.append_append]
  simp only [sameTokenEvents, Nat.zero_add]
  rfl

/-- The events of a cross-token execution whose swap brought `amountOut`. -/
def crossTokenEvents (c : Contract Hash χ) (msg : Msg) (tokenIn tokenOut : Address)
    (recipients : List Address) (outputAmounts : List ℕ)
    (grossInput minTotalOut minHopPriceX36 deadline : ℕ) (referenceId : ByteArray)
    (amountOut : ℕ) : List (Event Hash) :=
  let payments := recipients.zip outputAmounts
  let totalOutput := (payments.map Prod.snd).sum
  let referenceHash := canonicalReferenceHash c msg.sender referenceId
  paymentEvents referenceHash msg.sender tokenOut 0 payments ++
    refundEvents referenceHash msg.sender tokenOut (amountOut - totalOutput) ++
    [.payrollSwapExecuted
      { referenceHash, employer := msg.sender, tokenIn, tokenOut, grossInput
        feeAmount := feeOf c grossInput, netAmountIn := grossInput - feeOf c grossInput
        amountOut, minTotalOut },
     .payrollReferenceConsumed
      { referenceHash, employer := msg.sender, tokenIn, tokenOut
        batchDigest := canonicalCrossTokenDigest c msg.sender tokenIn tokenOut recipients
          outputAmounts grossInput minTotalOut minHopPriceX36 deadline referenceId
        totalInput := grossInput, totalOutput, totalFees := feeOf c grossInput
        recipientCount := recipients.length, referenceId },
     .payrollBatchExecuted
      { employer := msg.sender, tokenIn, tokenOut, totalInput := grossInput, totalOutput
        totalFees := feeOf c grossInput, recipientCount := recipients.length, referenceId }]

/-- What a successful cross-token execution leaves on record. -/
theorem executeCrossTokenPayroll_record {msg : Msg} {tokenIn tokenOut : Address}
    {recipients : List Address} {outputAmounts : List ℕ}
    {grossInput minTotalOut minHopPriceX36 deadline : ℕ} {referenceId : ByteArray}
    {before after : State Hash χ} {amountOut : ℕ}
    (hrun : (executeCrossTokenPayroll c msg tokenIn tokenOut recipients outputAmounts grossInput
      minTotalOut minHopPriceX36 deadline referenceId).run before = .ok (amountOut, after)) :
    before.storage (canonicalReferenceHash c msg.sender referenceId) = false ∧
      record after = (record before).consumed (canonicalReferenceHash c msg.sender referenceId)
        (crossTokenEvents c msg tokenIn tokenOut recipients outputAmounts grossInput minTotalOut
          minHopPriceX36 deadline referenceId amountOut) := by
  obtain ⟨funded, last, hfunded, _, hbody, rfl⟩ := entryPoint_ok hrun
  obtain ⟨chain, rfl⟩ := hc.receiveValue hfunded
  simp only [Call.bind_ok, revertIf_ok, checkedSub, checked_ok, emit_ok, Call.pure_ok,
    Prod.mk.injEq, true_and] at hbody
  obtain ⟨_, _, ⟨_, rfl⟩, _, _, hdetails, referenceHash, consumed, hconsumed, _, _, hfee, _, _,
    ⟨_, rfl, rfl⟩, _, paid, hpaid, _, _, rfl, _, _, rfl, _, _, rfl, rfl, rfl⟩ := hbody
  obtain ⟨_, hdetails⟩ := validateCrossTokenDetails_ok c hdetails
  obtain ⟨rfl, rfl⟩ := Prod.mk.inj hdetails
  obtain ⟨rfl, hfree, rfl⟩ := consumeReference_ok hconsumed
  obtain ⟨rfl, rfl⟩ := Prod.mk.inj (fee_ok c hfee)
  refine ⟨hfree, ?_⟩
  rw [record_unlock, record_emit rfl, record_emit rfl, record_emit rfl,
    swapAndSettle_record hc rfl hpaid, Record.append_append, Record.append_append,
    Record.append_append]
  simp only [crossTokenEvents, List.append_assoc]
  rfl

/-! ## What a successful execution checked -/

omit hc in
theorem executeSameTokenPayroll_admissible {msg : Msg} {token : Address}
    {recipients : List Address} {amounts : List ℕ} {referenceId : ByteArray}
    {before after : State Hash χ} {totalOut : ℕ}
    (hrun : (executeSameTokenPayroll c msg token recipients amounts referenceId).run before =
      .ok (totalOut, after)) : AdmissibleBatch recipients amounts referenceId := by
  obtain ⟨funded, last, _, _, hbody, rfl⟩ := entryPoint_ok hrun
  simp only [bind_revertIf_ok] at hbody
  obtain ⟨_, _, hbody⟩ := hbody
  obtain ⟨_, _, hbatch, _⟩ := Call.bind_ok.mp hbody
  exact (validateBatch_ok.mp hbatch).1

omit hc in
theorem executeCrossTokenPayroll_admissible {msg : Msg} {tokenIn tokenOut : Address}
    {recipients : List Address} {outputAmounts : List ℕ}
    {grossInput minTotalOut minHopPriceX36 deadline : ℕ} {referenceId : ByteArray}
    {before after : State Hash χ} {amountOut : ℕ}
    (hrun : (executeCrossTokenPayroll c msg tokenIn tokenOut recipients outputAmounts grossInput
      minTotalOut minHopPriceX36 deadline referenceId).run before = .ok (amountOut, after)) :
    AdmissibleBatch recipients outputAmounts referenceId := by
  obtain ⟨funded, last, _, _, hbody, rfl⟩ := entryPoint_ok hrun
  simp only [bind_revertIf_ok] at hbody
  obtain ⟨_, hbody⟩ := hbody
  obtain ⟨_, _, hdetails, _⟩ := Call.bind_ok.mp hbody
  exact (validateCrossTokenDetails_ok c hdetails).1.batch

end

end WizPay.PayrollMainnet
