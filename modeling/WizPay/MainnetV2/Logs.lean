import Mathlib.Algebra.Order.BigOperators.Group.List
import Mathlib.Algebra.Order.Ring.Nat
import WizPay.Evm.Movements
import WizPay.MainnetV2.Quote

/-!
# The logs of a batch

Canonical USDC reports the funding of a batch, and for each of its lines one transfer to the
recipient, after one to the collector where the line is charged a fee. The contract's own
events say the same of the recipients.
-/

namespace WizPay.MainnetV2

open Foundation Evm

variable {Hash χ : Type} (c : Contract Hash χ) (movements : χ → List Movement)

/-- A call of the token reports these transfers and leaves the contract itself alone. -/
structure Reports (before after : State Hash χ) (new : List Movement) : Prop where
  storage : after.storage = before.storage
  events : after.events = before.events
  movements : movements after.chain = movements before.chain ++ new

/-- What is documented of canonical USDC: it reports its transfers and calls nobody back. -/
structure Logged : Prop where
  safeTransfer : ∀ {target amount before after},
    c.ext.safeTransfer c.canonicalUsdc target amount before = some after →
      Reports movements before after [⟨c.canonicalUsdc, c.self, target, amount⟩]
  safeTransferFrom : ∀ {source amount before after},
    c.ext.safeTransferFrom c.canonicalUsdc source c.self amount before = some after →
      Reports movements before after [⟨c.canonicalUsdc, source, c.self, amount⟩]

/-- The transfer of a fee, where there is one. -/
def feeMovements (feeCollector : Address) (feeBps amountIn : ℕ) : List Movement :=
  if feeOf feeBps amountIn = 0 then []
  else [⟨c.canonicalUsdc, c.self, feeCollector, feeOf feeBps amountIn⟩]

/-- The transfers of one line. -/
def lineMovements (feeCollector : Address) (feeBps : ℕ) (payment : Payment) : List Movement :=
  feeMovements c feeCollector feeBps payment.amountIn ++
    [⟨c.canonicalUsdc, c.self, payment.recipient, netOf feeBps payment.amountIn⟩]

/-- The events of the payment loop, from payment index `i` on. -/
def lineEvents (payer : Address) (referenceHash : Hash) (feeBps : ℕ) :
    ℕ → List Payment → List (Event Hash)
  | _, [] => []
  | i, payment :: rest =>
      (if feeOf feeBps payment.amountIn = 0 then []
        else [.feeCollected c.canonicalUsdc (feeOf feeBps payment.amountIn)]) ++
      .directUsdcPayment ⟨referenceHash, payer, payment.recipient, i, payment.amountIn,
        netOf feeBps payment.amountIn, feeOf feeBps payment.amountIn⟩ ::
      lineEvents payer referenceHash feeBps (i + 1) rest

def Event.directPayment : Event Hash → Option (DirectUsdcPayment Hash)
  | .directUsdcPayment args => some args
  | _ => none

/-- The payments that events report. -/
def directPayments (events : List (Event Hash)) : List (DirectUsdcPayment Hash) :=
  events.filterMap Event.directPayment

variable {c movements}

theorem Reports.trans {first second third : State Hash χ} {new new' : List Movement}
    (hfirst : Reports movements first second new) (hsecond : Reports movements second third new') :
    Reports movements first third (new ++ new') where
  storage := hsecond.storage.trans hfirst.storage
  events := hsecond.events.trans hfirst.events
  movements := by rw [hsecond.movements, hfirst.movements, List.append_assoc]

/-- The events of the lines report what each of them paid. -/
theorem directPayments_lineEvents (payer : Address) (referenceHash : Hash) (feeBps i : ℕ)
    (batch : List Payment) :
    (directPayments (lineEvents c payer referenceHash feeBps i batch)).map
      (fun args => (args.recipient, args.netAmount)) = nets feeBps batch := by
  induction batch generalizing i with
  | nil => rfl
  | cons payment rest ih =>
      have hfee : directPayments (if feeOf feeBps payment.amountIn = 0 then []
          else [.feeCollected c.canonicalUsdc (feeOf feeBps payment.amountIn)] :
            List (Event Hash)) = [] := by
        split
        · rfl
        · rfl
      rw [lineEvents, directPayments, List.filterMap_append, ← directPayments, hfee,
        List.nil_append]
      exact congrArg _ (ih (i + 1))

section Runs

variable (hlogged : Logged c movements)
include hlogged

/-- The fee of one line. -/
theorem payFee_reports {feeAmount : ℕ} {state next : State Hash χ} {result : Unit}
    (hrun : (Call.when (feeAmount ≠ 0) do
        let state ← get
        callExternal (c.ext.safeTransfer c.canonicalUsdc state.storage.feeCollector feeAmount)
        emit (.feeCollected c.canonicalUsdc feeAmount) : V2Call Hash χ Unit).run state =
      .ok (result, next)) :
    next.storage = state.storage ∧
      next.events = state.events ++
        (if feeAmount = 0 then [] else [.feeCollected c.canonicalUsdc feeAmount]) ∧
      movements next.chain = movements state.chain ++
        (if feeAmount = 0 then []
          else [⟨c.canonicalUsdc, c.self, state.storage.feeCollector, feeAmount⟩]) := by
  unfold Call.when at hrun
  split at hrun
  · next hfee =>
      have hrun := Call.bind_get_ok.mp hrun
      obtain ⟨paid, hpaid, hrun⟩ := bind_callExternal_ok.mp hrun
      obtain ⟨_, rfl⟩ := Prod.mk.inj (emit_ok.mp hrun)
      have hreports := hlogged.safeTransfer hpaid
      rw [if_neg hfee, if_neg hfee]
      refine ⟨hreports.storage, ?_, hreports.movements⟩
      show paid.events ++ _ = _
      rw [hreports.events]
  · next hzero =>
      obtain ⟨_, rfl⟩ := Prod.mk.inj (Call.pure_ok.mp hrun)
      rw [if_pos (not_not.mp hzero), if_pos (not_not.mp hzero), List.append_nil, List.append_nil]
      exact ⟨rfl, rfl, rfl⟩

theorem payAll_reports {msg : Msg} {referenceHash : Hash} {i : ℕ} {batch : List Payment}
    {totalFees totalOut : ℕ} {state next : State Hash χ} {result : ℕ × ℕ}
    (hrun : (payAll c msg referenceHash i batch totalFees totalOut).run state =
      .ok (result, next)) :
    next.storage = state.storage ∧
      next.events = state.events ++
        lineEvents c msg.sender referenceHash state.storage.feeBps i batch ∧
      movements next.chain = movements state.chain ++
        batch.flatMap (lineMovements c state.storage.feeCollector state.storage.feeBps) ∧
      result.2 = totalOut + totalNet state.storage.feeBps batch ∧
      (∀ payment ∈ batch, feeOf state.storage.feeBps payment.amountIn ≤ payment.amountIn) ∧
      (totalFees < uint256Bound → totalOut < uint256Bound →
        result.1 < uint256Bound ∧ result.2 < uint256Bound) := by
  induction batch generalizing i totalFees totalOut state with
  | nil =>
      obtain ⟨rfl, rfl⟩ := Prod.mk.inj (Call.pure_ok.mp hrun)
      exact ⟨rfl, (List.append_nil _).symm, (List.append_nil _).symm, rfl,
        fun _ hmember => absurd hmember List.not_mem_nil, fun hfees hout => ⟨hfees, hout⟩⟩
  | cons payment rest ih =>
      unfold payAll at hrun
      obtain ⟨_, _, hfee, hrun⟩ := Call.bind_ok.mp hrun
      obtain ⟨-, hsame⟩ := fee_ok.mp hfee
      obtain ⟨rfl, rfl⟩ := Prod.mk.inj hsame
      obtain ⟨hle, hrun⟩ := bind_checked_ok.mp hrun
      obtain ⟨-, hrun⟩ := bind_revertIf_ok.mp hrun
      obtain ⟨_, charged, hcharged, hrun⟩ := Call.bind_ok.mp hrun
      obtain ⟨hstorage, hevents, hmovements⟩ := payFee_reports hlogged hcharged
      obtain ⟨paid, hpaid, hrun⟩ := bind_callExternal_ok.mp hrun
      have hreports := hlogged.safeTransfer hpaid
      obtain ⟨hfeesBound, hrun⟩ := bind_checked_ok.mp hrun
      obtain ⟨houtBound, hrun⟩ := bind_checked_ok.mp hrun
      obtain ⟨hnext, hlines, htransfers, hout, hless, hbound⟩ := ih (bind_emit_ok.mp hrun)
      have hkept : paid.storage = _ := hreports.storage.trans hstorage
      simp only [hkept] at hnext hlines htransfers hout hless
      refine ⟨hnext, ?_, ?_, ?_, ?_, fun _ _ => hbound hfeesBound houtBound⟩
      · rw [hlines, hreports.events, hevents, lineEvents]
        simp only [List.append_assoc, List.singleton_append, netOf]
      · rw [htransfers, hreports.movements, hmovements, List.flatMap_cons, lineMovements,
          feeMovements, netOf]
        simp only [List.append_assoc]
      · rw [hout, totalNet, totalNet, List.map_cons, List.sum_cons, netOf, Nat.add_assoc]
      · intro other hmember
        rcases List.mem_cons.mp hmember with rfl | hmember
        · exact hle
        · exact hless other hmember

theorem fundAndPay_reports {msg : Msg} {batch : List Payment} {totalAmount : ℕ}
    {referenceHash : Hash} {state next : State Hash χ} {totals : ℕ × ℕ}
    (hrun : (fundAndPay c msg batch totalAmount referenceHash).run state = .ok (totals, next)) :
    next.events = state.events ++
        lineEvents c msg.sender referenceHash state.storage.feeBps 0 batch ∧
      movements next.chain = movements state.chain ++
        ⟨c.canonicalUsdc, msg.sender, c.self, totalAmount⟩ ::
          batch.flatMap (lineMovements c state.storage.feeCollector state.storage.feeBps) ∧
      totals.2 = totalNet state.storage.feeBps batch ∧
      (∀ payment ∈ batch, feeOf state.storage.feeBps payment.amountIn ≤ payment.amountIn) ∧
      totals.1 < uint256Bound ∧ totals.2 < uint256Bound := by
  unfold fundAndPay at hrun
  have hrun := bind_view_ok.mp hrun
  obtain ⟨funded, hfunded, hrun⟩ := bind_callExternal_ok.mp hrun
  have hrun := bind_view_ok.mp hrun
  obtain ⟨-, hrun⟩ := bind_checked_ok.mp hrun
  obtain ⟨-, hrun⟩ := bind_revertIf_ok.mp hrun
  obtain ⟨_, paid, hpaid, hrun⟩ := Call.bind_ok.mp hrun
  have hrun := bind_view_ok.mp hrun
  obtain ⟨-, hrun⟩ := bind_revertIf_ok.mp hrun
  obtain ⟨rfl, rfl⟩ := Prod.mk.inj (Call.pure_ok.mp hrun)
  have hreports := hlogged.safeTransferFrom hfunded
  obtain ⟨-, hlines, htransfers, hout, hless, hbound⟩ := payAll_reports hlogged hpaid
  simp only [hreports.storage] at hlines htransfers hout hless
  refine ⟨?_, ?_, ?_, hless, hbound (by decide) (by decide)⟩
  · rw [hlines, hreports.events]
  · rw [htransfers, hreports.movements, List.append_assoc, List.singleton_append]
  · rw [hout, Nat.zero_add]

end Runs

/-- The amounts of a batch event are words. -/
structure BatchPaymentRouted.Fits (args : BatchPaymentRouted) : Prop where
  totalAmountIn : args.totalAmountIn < uint256Bound
  totalAmountOut : args.totalAmountOut < uint256Bound
  totalFees : args.totalFees < uint256Bound
  recipientCount : args.recipientCount ≤ MAX_BATCH_SIZE

/-- What a successful batch leaves in the logs. -/
structure BatchLogs (c : Contract Hash χ) (movements : χ → List Movement) (payer : Address)
    (batch : List Payment) (totalOut : ℕ) (before after : State Hash χ) : Prop where
  nonempty : batch ≠ []
  paid : totalOut = totalNet before.storage.feeBps batch
  events : ∃ referenceHash consumed routed, after.events = before.events ++
      (lineEvents c payer referenceHash before.storage.feeBps 0 batch ++
        [.payrollReferenceConsumed consumed, .batchPaymentRouted routed]) ∧
    routed.sender = payer ∧ routed.totalAmountOut = totalOut ∧ routed.Fits
  movements : ∃ totalAmount, movements after.chain = movements before.chain ++
      ⟨c.canonicalUsdc, payer, c.self, totalAmount⟩ ::
        batch.flatMap (lineMovements c before.storage.feeCollector before.storage.feeBps) ∧
    totalAmount < uint256Bound
  bounded : ∀ payment ∈ batch, payment.amountIn < uint256Bound ∧
    feeOf before.storage.feeBps payment.amountIn ≤ payment.amountIn

theorem payments_ne_nil {tokenOuts recipients : List Address} {amountsIn minAmountsOut : List ℕ}
    {referenceId : ByteArray} (hvalid : Valid tokenOuts recipients amountsIn minAmountsOut referenceId) :
    payments tokenOuts recipients amountsIn minAmountsOut ≠ [] := by
  obtain ⟨-, hrecipients, -, -⟩ := payments_amounts hvalid.tokens hvalid.amounts hvalid.minimums
  intro hempty
  rw [hempty] at hrecipients
  exact hvalid.nonempty (by rw [← hrecipients]; rfl)

theorem batchRouteAndPay_reports [DecidableEq Hash] (hlogged : Logged c movements) {msg : Msg}
    {tokenIn : Address} {tokenOuts recipients : List Address} {amountsIn minAmountsOut : List ℕ}
    {referenceId : ByteArray} {before after : State Hash χ} {totalOut : ℕ}
    (hrun : (batchRouteAndPay c msg tokenIn tokenOuts recipients amountsIn minAmountsOut
      referenceId).run before = .ok (totalOut, after)) :
    BatchLogs c movements msg.sender (payments tokenOuts recipients amountsIn minAmountsOut)
      totalOut before after := by
  obtain ⟨-, hguarded⟩ := Call.bind_revertIf_ok.mp hrun
  obtain ⟨-, last, hpausable, rfl⟩ := nonReentrant_ok.mp hguarded
  obtain ⟨-, hbody⟩ := whenNotPaused_ok.mp hpausable
  obtain ⟨-, hchecks⟩ := bind_revertIf_ok.mp hbody
  obtain ⟨_, valid, hvalidate, hrest⟩ := Call.bind_ok.mp hchecks
  obtain ⟨hvalid, hsame⟩ := validate_ok hvalidate
  obtain ⟨-, rfl⟩ := Prod.mk.inj hsame
  obtain ⟨referenceHash, consumed, hconsumed, hrest⟩ := Call.bind_ok.mp hrest
  have hconsumed := Call.bind_get_ok.mp hconsumed
  obtain ⟨-, hconsumed⟩ := bind_revertIf_ok.mp hconsumed
  have hconsumed := Call.bind_modify_ok.mp hconsumed
  obtain ⟨rfl, rfl⟩ := Prod.mk.inj (Call.pure_ok.mp hconsumed)
  obtain ⟨totalAmount, summed, hsum, hrest⟩ := Call.bind_ok.mp hrest
  obtain ⟨-, hsummed, hbound⟩ := sumAmounts_ok hsum
  obtain ⟨htotal, rfl⟩ := Prod.mk.inj hsummed
  have hbound : totalAmount < uint256Bound := hbound (by decide)
  obtain ⟨totals, paid, hpaid, hrest⟩ := Call.bind_ok.mp hrest
  obtain ⟨hevents, hmovements, hout, hless, hfees, hnet⟩ := fundAndPay_reports hlogged hpaid
  have hrest := bind_emit_ok.mp (bind_emit_ok.mp hrest)
  obtain ⟨rfl, rfl⟩ := Prod.mk.inj (Call.pure_ok.mp hrest)
  refine ⟨payments_ne_nil hvalid, hout, ?_, ⟨totalAmount, hmovements, hbound⟩, ?_⟩
  · let reference : PayrollReferenceConsumed Hash := {
      referenceHash := canonicalReferenceHash c msg.sender referenceId, payer := msg.sender
      token := c.canonicalUsdc
      batchDigest := canonicalBatchDigest c msg.sender recipients amountsIn
      totalAmount, totalOut := totals.2, totalFees := totals.1
      recipientCount := recipients.length, referenceId }
    let routed : BatchPaymentRouted := {
      sender := msg.sender, tokenIn := c.canonicalUsdc, tokenOut := c.canonicalUsdc
      totalAmountIn := totalAmount, totalAmountOut := totals.2, totalFees := totals.1
      recipientCount := recipients.length, referenceId }
    refine ⟨canonicalReferenceHash c msg.sender referenceId, reference, routed, ?_, rfl, rfl,
      ⟨hbound, hnet, hfees, hvalid.size⟩⟩
    show paid.events ++ [.payrollReferenceConsumed reference] ++ [.batchPaymentRouted routed] = _
    rw [hevents, List.append_assoc, List.append_assoc]
    rfl
  · intro payment hmember
    have hle : payment.amountIn ≤ totalAmount := by
      rw [htotal, Nat.zero_add]
      exact List.le_sum_of_mem (List.mem_map_of_mem hmember)
    exact ⟨hle.trans_lt hbound, hless payment hmember⟩

end WizPay.MainnetV2
