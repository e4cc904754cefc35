import WizPay.Evm.StandardTokens
import WizPay.MainnetV2.Contract

/-!
# The contract pays what it quotes

The quote and the payment take the same fee from the same amounts, one in a view and one
between transfers. On a standard token a payment that succeeds has moved exactly what the
quote said beforehand, whichever accounts coincide.
-/

namespace WizPay.MainnetV2

open Foundation Evm

variable {Hash χ : Type} {c : Contract Hash χ}

/-! ## Fees -/

/-- The fee on one amount. -/
def feeOf (feeBps amount : ℕ) : ℕ := amount * feeBps / 10000

/-- What is left of it. -/
def netOf (feeBps amount : ℕ) : ℕ := amount - feeOf feeBps amount

/-- The fee on an amount can be computed, and is no more than it. -/
def Divides (feeBps amount : ℕ) : Prop :=
  (feeBps = 0 ∨ amount * feeBps < uint256Bound) ∧ feeOf feeBps amount ≤ amount

theorem bpsFee_ok_iff {E ρ ω : Type} {feeBps amount : ℕ} {state : ContractState ρ ω χ}
    {result : ℕ × ContractState ρ ω χ} :
    (bpsFee feeBps amount : ContractCall E ρ ω χ ℕ).run state = .ok result ↔
      (feeBps = 0 ∨ amount * feeBps < uint256Bound) ∧ (feeOf feeBps amount, state) = result := by
  unfold bpsFee
  by_cases hzero : feeBps = 0
  · rw [if_pos hzero, Call.pure_ok, feeOf, hzero]
    simp
  · rw [if_neg hzero, checkedMul, bind_checked_ok, Call.pure_ok]
    simp [hzero, feeOf]

theorem fee_ok {amount : ℕ} {state : State Hash χ} {result : ℕ × State Hash χ} :
    (fee amount).run state = .ok result ↔
      (state.storage.feeBps = 0 ∨ amount * state.storage.feeBps < uint256Bound) ∧
        (feeOf state.storage.feeBps amount, state) = result := by
  unfold fee
  rw [Call.bind_get_ok, bpsFee_ok_iff]

/-! ## The quote -/

/-- A quote of amounts whose fees can be taken, in canonical USDC throughout. -/
theorem estimate_run {lines : List (Address × ℕ)} {state : State Hash χ} {outputs : List ℕ}
    {totalOut totalFees : ℕ}
    (hlines : ∀ line ∈ lines, line.1 = c.canonicalUsdc ∧ line.2 ≠ 0 ∧
      Divides state.storage.feeBps line.2)
    (hout : totalOut + (lines.map fun line => netOf state.storage.feeBps line.2).sum < uint256Bound)
    (hfees : totalFees + (lines.map fun line => feeOf state.storage.feeBps line.2).sum <
      uint256Bound) :
    (estimate c lines outputs totalOut totalFees).run state = .ok
      ((outputs ++ lines.map fun line => netOf state.storage.feeBps line.2,
        totalOut + (lines.map fun line => netOf state.storage.feeBps line.2).sum,
        totalFees + (lines.map fun line => feeOf state.storage.feeBps line.2).sum), state) := by
  induction lines generalizing outputs totalOut totalFees with
  | nil =>
      simp only [List.map_nil, List.sum_nil, List.append_nil, Nat.add_zero]
      rfl
  | cons line rest ih =>
      obtain ⟨tokenOut, amountIn⟩ := line
      obtain ⟨htoken, hamount, hfits, hle⟩ := hlines _ List.mem_cons_self
      simp only [List.map_cons, List.sum_cons, ← Nat.add_assoc] at hout hfees
      have hrest := @ih (outputs ++ [netOf state.storage.feeBps amountIn])
        (totalOut + netOf state.storage.feeBps amountIn)
        (totalFees + feeOf state.storage.feeBps amountIn)
        (fun line hmember => hlines line (List.mem_cons_of_mem _ hmember)) hout hfees
      unfold estimate
      refine bind_revertIf_ok.mpr ⟨not_not.mpr htoken, bind_revertIf_ok.mpr ⟨hamount, ?_⟩⟩
      refine Call.bind_ok.mpr ⟨_, state, fee_ok.mpr ⟨hfits, rfl⟩, ?_⟩
      refine bind_checked_ok.mpr ⟨hle, bind_checked_ok.mpr ⟨?_, bind_checked_ok.mpr ⟨?_, ?_⟩⟩⟩
      · exact Nat.lt_of_le_of_lt (Nat.le_add_right _ _) hout
      · exact Nat.lt_of_le_of_lt (Nat.le_add_right _ _) hfees
      · refine hrest.trans ?_
        simp only [List.map_cons, List.sum_cons, List.append_assoc, List.singleton_append,
          Nat.add_assoc]

/-! ## The payment -/

/-- What the first loop checks of a line. -/
structure Payable (c : Contract Hash χ) (payer : Address) (payment : Payment) : Prop where
  token : payment.tokenOut = c.canonicalUsdc
  recipient : payment.recipient ≠ 0
  other : payment.recipient ≠ payer
  amount : payment.amountIn ≠ 0

theorem sumAmounts_ok {msg : Msg} {batch : List Payment} {totalAmount : ℕ} {state : State Hash χ}
    {result : ℕ × State Hash χ}
    (hrun : (sumAmounts c msg batch totalAmount).run state = .ok result) :
    (∀ payment ∈ batch, Payable c msg.sender payment) ∧
      result = (totalAmount + (batch.map Payment.amountIn).sum, state) ∧
      (totalAmount < uint256Bound → result.1 < uint256Bound) := by
  induction batch generalizing totalAmount with
  | nil =>
      obtain rfl := Call.pure_ok.mp hrun
      exact ⟨fun payment hmember => (nomatch hmember), rfl, fun hbound => hbound⟩
  | cons payment rest ih =>
      unfold sumAmounts at hrun
      obtain ⟨htoken, hrun⟩ := bind_revertIf_ok.mp hrun
      obtain ⟨hrecipient, hrun⟩ := bind_revertIf_ok.mp hrun
      obtain ⟨hother, hrun⟩ := bind_revertIf_ok.mp hrun
      obtain ⟨hamount, hrun⟩ := bind_revertIf_ok.mp hrun
      obtain ⟨hbound, hrun⟩ := bind_checked_ok.mp hrun
      obtain ⟨hpayable, hresult, hless⟩ := ih hrun
      refine ⟨fun other hmember => ?_, ?_, fun _ => hless hbound⟩
      · rcases List.mem_cons.mp hmember with rfl | hmember
        · exact ⟨not_not.mp htoken, hrecipient, hother, hamount⟩
        · exact hpayable other hmember
      · rw [hresult, List.map_cons, List.sum_cons, Nat.add_assoc]

/-- The totals of a batch at a fee. -/
def totalNet (feeBps : ℕ) (batch : List Payment) : ℕ :=
  (batch.map fun payment => netOf feeBps payment.amountIn).sum

def totalFee (feeBps : ℕ) (batch : List Payment) : ℕ :=
  (batch.map fun payment => feeOf feeBps payment.amountIn).sum

/-- What every line pays its recipient. -/
def nets (feeBps : ℕ) (batch : List Payment) : List (Address × ℕ) :=
  batch.map fun payment => (payment.recipient, netOf feeBps payment.amountIn)

theorem sum_amounts_of_divides {feeBps : ℕ} {batch : List Payment}
    (hdivides : ∀ payment ∈ batch, Divides feeBps payment.amountIn) :
    (batch.map Payment.amountIn).sum = totalNet feeBps batch + totalFee feeBps batch := by
  induction batch with
  | nil => rfl
  | cons payment rest ih =>
      have hrest := ih fun other hmember => hdivides other (List.mem_cons_of_mem _ hmember)
      have hle := (hdivides payment List.mem_cons_self).2
      simp only [totalNet, totalFee, netOf, List.map_cons, List.sum_cons] at hrest ⊢
      omega

theorem total_nets (feeBps : ℕ) (batch : List Payment) :
    Ledger.total (nets feeBps batch) = totalNet feeBps batch := by
  simp [Ledger.total, nets, totalNet, Function.comp_def]

section Standard

variable {c : Contract Hash Ledgers} {universalRouter : Address}
  {router : Router (Storage Hash) (Event Hash)}

/-- The contract runs on a standard token; it has no router to call. -/
def Contract.Standard (c : Contract Hash Ledgers) (universalRouter : Address)
    (router : Router (Storage Hash) (Event Hash)) : Prop :=
  c.ext = standardExternals c.self universalRouter router

theorem safeTransfer_storage (hc : c.Standard universalRouter router) {token target : Address}
    {amount : ℕ} {state next : State Hash Ledgers}
    (htransfer : c.ext.safeTransfer token target amount state = some next) :
    next.storage = state.storage := by
  rw [hc] at htransfer
  obtain ⟨chain, -, rfl⟩ := onChain_eq_some.mp htransfer
  rfl

/-- What the payment loop does from a state on. -/
structure Pays (c : Contract Hash Ledgers) (batch : List Payment) (totalFees totalOut : ℕ)
    (before after : State Hash Ledgers) (result : ℕ × ℕ) : Prop where
  divides : ∀ payment ∈ batch, Divides before.storage.feeBps payment.amountIn
  minimum : ∀ payment ∈ batch,
    payment.minAmountOut ≤ netOf before.storage.feeBps payment.amountIn
  totals : result = (totalFees + totalFee before.storage.feeBps batch,
    totalOut + totalNet before.storage.feeBps batch)
  bounded : totalFees < uint256Bound → totalOut < uint256Bound →
    result.1 < uint256Bound ∧ result.2 < uint256Bound
  flow : before.chain.TokenFlow c.canonicalUsdc after.chain
    (Pi.single c.self (totalFee before.storage.feeBps batch + totalNet before.storage.feeBps batch))
    (Ledger.owed (nets before.storage.feeBps batch) +
      Pi.single before.storage.feeCollector (totalFee before.storage.feeBps batch))

/-- The fee of one line, if there is any, goes to the collector. -/
theorem payFee_flow (hc : c.Standard universalRouter router) {feeAmount : ℕ}
    {state next : State Hash Ledgers} {result : Unit}
    (hrun : (Call.when (feeAmount ≠ 0) do
        let state ← get
        callExternal (c.ext.safeTransfer c.canonicalUsdc state.storage.feeCollector feeAmount)
        emit (.feeCollected c.canonicalUsdc feeAmount) : V2Call Hash Ledgers Unit).run state =
      .ok (result, next)) :
    next.storage = state.storage ∧
      state.chain.TokenFlow c.canonicalUsdc next.chain (Pi.single c.self feeAmount)
        (Pi.single state.storage.feeCollector feeAmount) := by
  unfold Call.when at hrun
  split at hrun
  · have hrun := Call.bind_get_ok.mp hrun
    obtain ⟨paid, hpaid, hrun⟩ := bind_callExternal_ok.mp hrun
    obtain ⟨_, rfl⟩ := Prod.mk.inj (emit_ok.mp hrun)
    have hstorage := safeTransfer_storage hc hpaid
    have hflow := safeTransfer_flow hc hpaid
    exact ⟨hstorage, hflow⟩
  · next hzero =>
      obtain ⟨_, rfl⟩ := Prod.mk.inj (Call.pure_ok.mp hrun)
      rw [not_not.mp hzero, Pi.single_zero, Pi.single_zero]
      exact ⟨rfl, .of_eq rfl rfl⟩

theorem payAll_pays (hc : c.Standard universalRouter router) {msg : Msg} {referenceHash : Hash}
    {i : ℕ} {batch : List Payment} {totalFees totalOut : ℕ} {state next : State Hash Ledgers}
    {result : ℕ × ℕ}
    (hrun : (payAll c msg referenceHash i batch totalFees totalOut).run state =
      .ok (result, next)) : Pays c batch totalFees totalOut state next result := by
  induction batch generalizing i totalFees totalOut state with
  | nil =>
      obtain ⟨rfl, rfl⟩ := Prod.mk.inj (Call.pure_ok.mp hrun)
      refine ⟨fun _ hmember => (nomatch hmember), fun _ hmember => (nomatch hmember), rfl,
        fun hfees hout => ⟨hfees, hout⟩, ?_⟩
      simp only [totalFee, totalNet, nets, List.map_nil, List.sum_nil, Ledger.owed_nil,
        Pi.single_zero, Nat.add_zero]
      exact .of_eq rfl rfl
  | cons payment rest ih =>
      unfold payAll at hrun
      obtain ⟨_, _, hfee, hrun⟩ := Call.bind_ok.mp hrun
      obtain ⟨hfits, hsame⟩ := fee_ok.mp hfee
      obtain ⟨rfl, rfl⟩ := Prod.mk.inj hsame
      obtain ⟨hle, hrun⟩ := bind_checked_ok.mp hrun
      obtain ⟨hminimum, hrun⟩ := bind_revertIf_ok.mp hrun
      obtain ⟨_, charged, hcharged, hrun⟩ := Call.bind_ok.mp hrun
      obtain ⟨hstorage, hfeeFlow⟩ := payFee_flow hc hcharged
      obtain ⟨paid, hpaid, hrun⟩ := bind_callExternal_ok.mp hrun
      have hpaidStorage := (safeTransfer_storage hc hpaid).trans hstorage
      obtain ⟨hfeesBound, hrun⟩ := bind_checked_ok.mp hrun
      obtain ⟨houtBound, hrun⟩ := bind_checked_ok.mp hrun
      have hrest := ih (bind_emit_ok.mp hrun)
      have hflow := hrest.flow
      have hdivides := hrest.divides
      have hless := hrest.minimum
      have hresult := hrest.totals
      simp only [hpaidStorage] at hflow hdivides hless hresult
      refine ⟨?_, ?_, ?_, fun _ _ => hrest.bounded hfeesBound houtBound, ?_⟩
      · intro other hmember
        rcases List.mem_cons.mp hmember with rfl | hmember
        · exact ⟨hfits, hle⟩
        · exact hdivides other hmember
      · intro other hmember
        rcases List.mem_cons.mp hmember with rfl | hmember
        · exact Nat.le_of_not_lt hminimum
        · exact hless other hmember
      · rw [hresult]
        simp only [totalFee, totalNet, netOf, List.map_cons, List.sum_cons, Nat.add_assoc]
      · -- One line: the fee out to the collector, the net out to the recipient.
        have hline := (hfeeFlow.trans (safeTransfer_flow hc hpaid)).trans hflow
        refine { hline with flow := ?_ }
        funext account
        have haccount := hline.flow.apply account
        simp only [totalFee, totalNet, nets, netOf, List.map_cons, List.sum_cons,
          Ledger.owed_cons, Pi.single_add, Pi.add_apply] at haccount ⊢
        omega

/-- What the transfers of a batch do, between the two readings of the contract's balance. -/
theorem fundAndPay_pays (hc : c.Standard universalRouter router) {msg : Msg} {batch : List Payment}
    {totalAmount : ℕ} {referenceHash : Hash} {state next : State Hash Ledgers} {totals : ℕ × ℕ}
    (hbound : totalAmount < uint256Bound) (htotal : totalAmount = (batch.map Payment.amountIn).sum)
    (hrun : (fundAndPay c msg batch totalAmount referenceHash).run state = .ok (totals, next)) :
    (∀ payment ∈ batch, Divides state.storage.feeBps payment.amountIn ∧
      payment.minAmountOut ≤ netOf state.storage.feeBps payment.amountIn) ∧
    totals = (totalFee state.storage.feeBps batch, totalNet state.storage.feeBps batch) ∧
    totals.1 < uint256Bound ∧ totals.2 < uint256Bound ∧
    state.chain.TokenFlow c.canonicalUsdc next.chain (Pi.single msg.sender totalAmount)
      (Ledger.owed (nets state.storage.feeBps batch) +
        Pi.single state.storage.feeCollector (totalFee state.storage.feeBps batch)) ∧
    next.chain.balance c.canonicalUsdc c.self = state.chain.balance c.canonicalUsdc c.self := by
  unfold fundAndPay at hrun
  have hrun := bind_view_ok.mp hrun
  obtain ⟨funded, hfunded, hrun⟩ := bind_callExternal_ok.mp hrun
  have hrun := bind_view_ok.mp hrun
  obtain ⟨-, hrun⟩ := bind_checked_ok.mp hrun
  obtain ⟨-, hrun⟩ := bind_revertIf_ok.mp hrun
  obtain ⟨_, paid, hpaid, hrun⟩ := Call.bind_ok.mp hrun
  have hrun := bind_view_ok.mp hrun
  obtain ⟨hresidual, hrun⟩ := bind_revertIf_ok.mp hrun
  obtain ⟨rfl, rfl⟩ := Prod.mk.inj (Call.pure_ok.mp hrun)
  obtain ⟨hpull, -, -⟩ := safeTransferFrom_flow hc hbound hfunded
  have hstorage : funded.storage = state.storage := by
    rw [hc] at hfunded
    obtain ⟨chain, -, rfl⟩ := onChain_eq_some.mp hfunded
    rfl
  have hpays := payAll_pays hc hpaid
  have hdivides := hpays.divides
  have hminimum := hpays.minimum
  have htotals := hpays.totals
  have hflow := hpull.trans hpays.flow
  simp only [hstorage, Nat.zero_add] at hdivides hminimum htotals hflow
  have hbounded := hpays.bounded (by decide) (by decide)
  simp only [balanceOf_standard hc, not_not] at hresidual
  refine ⟨fun payment hmember => ⟨hdivides payment hmember, hminimum payment hmember⟩, htotals,
    hbounded.1, hbounded.2, { hflow with flow := ?_ }, hresidual⟩
  -- What passes through the contract cancels.
  have hthrough := sum_amounts_of_divides hdivides
  funext account
  have haccount := hflow.flow.apply account
  simp only [htotal, hthrough, Pi.single_add, Pi.add_apply] at haccount ⊢
  omega

/-! ## The batch -/

theorem payments_amounts {tokenOuts recipients : List Address} {amountsIn minAmountsOut : List ℕ}
    (htokens : recipients.length = tokenOuts.length) (hamounts : recipients.length = amountsIn.length)
    (hminimums : recipients.length = minAmountsOut.length) :
    (payments tokenOuts recipients amountsIn minAmountsOut).map
        (fun payment => (payment.tokenOut, payment.amountIn)) = tokenOuts.zip amountsIn ∧
      (payments tokenOuts recipients amountsIn minAmountsOut).map Payment.recipient = recipients ∧
      (payments tokenOuts recipients amountsIn minAmountsOut).map Payment.amountIn = amountsIn ∧
      (payments tokenOuts recipients amountsIn minAmountsOut).map Payment.minAmountOut =
        minAmountsOut := by
  induction recipients generalizing tokenOuts amountsIn minAmountsOut with
  | nil =>
      obtain rfl := List.length_eq_zero_iff.mp htokens.symm
      obtain rfl := List.length_eq_zero_iff.mp hamounts.symm
      obtain rfl := List.length_eq_zero_iff.mp hminimums.symm
      exact ⟨rfl, rfl, rfl, rfl⟩
  | cons recipient rest ih =>
      cases tokenOuts with
      | nil => cases htokens
      | cons tokenOut tokenOuts =>
          cases amountsIn with
          | nil => cases hamounts
          | cons amountIn amountsIn =>
              cases minAmountsOut with
              | nil => cases hminimums
              | cons minAmountOut minAmountsOut =>
                  obtain ⟨hlines, hrecipients, hsums, hmins⟩ := ih (Nat.succ.inj htokens)
                    (Nat.succ.inj hamounts) (Nat.succ.inj hminimums)
                  simp only [payments, List.map_cons, List.zip_cons_cons, hlines, hrecipients,
                    hsums, hmins, and_self]

/-- The conditions of `_validate`. -/
structure Valid (tokenOuts recipients : List Address) (amounts minimums : List ℕ)
    (referenceId : ByteArray) : Prop where
  nonempty : recipients.length ≠ 0
  tokens : recipients.length = tokenOuts.length
  amounts : recipients.length = amounts.length
  minimums : recipients.length = minimums.length
  size : recipients.length ≤ MAX_BATCH_SIZE
  reference : referenceId.size ≠ 0
  referenceSize : referenceId.size ≤ MAX_REFERENCE_ID_LENGTH

theorem validate_ok {tokenOuts recipients : List Address} {amounts minimums : List ℕ}
    {referenceId : ByteArray} {state : State Hash χ} {result : Unit × State Hash χ}
    (hrun : (validate tokenOuts recipients amounts minimums referenceId).run state = .ok result) :
    Valid tokenOuts recipients amounts minimums referenceId ∧ ((), state) = result := by
  unfold validate at hrun
  obtain ⟨hnonempty, hrun⟩ := bind_revertIf_ok.mp hrun
  obtain ⟨hlengths, hrun⟩ := bind_revertIf_ok.mp hrun
  obtain ⟨hsize, hrun⟩ := bind_revertIf_ok.mp hrun
  obtain ⟨hreference, hrun⟩ := bind_revertIf_ok.mp hrun
  obtain ⟨hreferenceSize, hsame⟩ := revertIf_ok.mp hrun
  simp only [not_or, not_not, Nat.not_lt] at hlengths hsize hreferenceSize
  exact ⟨⟨hnonempty, hlengths.1, hlengths.2.1, hlengths.2.2, hsize, hreference, hreferenceSize⟩,
    hsame⟩

theorem consumeReference_ok [DecidableEq Hash] {msg : Msg} {referenceId : ByteArray}
    {state next : State Hash Ledgers} {referenceHash : Hash}
    (hrun : (consumeReference c msg referenceId).run state = .ok (referenceHash, next)) :
    next.chain = state.chain ∧ next.storage.feeBps = state.storage.feeBps ∧
      next.storage.feeCollector = state.storage.feeCollector := by
  unfold consumeReference at hrun
  have hrun := Call.bind_get_ok.mp hrun
  obtain ⟨-, hrun⟩ := bind_revertIf_ok.mp hrun
  have hrun := Call.bind_modify_ok.mp hrun
  obtain ⟨_, rfl⟩ := Prod.mk.inj (Call.pure_ok.mp hrun)
  exact ⟨rfl, rfl, rfl⟩

/-- What a successful payment has checked and moved. -/
structure Paid (c : Contract Hash Ledgers) (payer tokenIn : Address) (tokenOuts recipients : List Address)
    (amountsIn minAmountsOut : List ℕ) (referenceId : ByteArray) (before after : State Hash Ledgers)
    (totalOut : ℕ) (batch : List Payment) : Prop where
  tokenIn : tokenIn = c.canonicalUsdc
  valid : Valid tokenOuts recipients amountsIn minAmountsOut referenceId
  payable : ∀ payment ∈ batch, Payable c payer payment
  divides : ∀ payment ∈ batch, Divides before.storage.feeBps payment.amountIn
  minimum : ∀ payment ∈ batch,
    payment.minAmountOut ≤ netOf before.storage.feeBps payment.amountIn
  totalOut : totalOut = totalNet before.storage.feeBps batch
  netBound : totalNet before.storage.feeBps batch < uint256Bound
  feeBound : totalFee before.storage.feeBps batch < uint256Bound
  flow : before.chain.TokenFlow c.canonicalUsdc after.chain
    (Pi.single payer (batch.map Payment.amountIn).sum)
    (Ledger.owed (nets before.storage.feeBps batch) +
      Pi.single before.storage.feeCollector (totalFee before.storage.feeBps batch))
  contract : after.chain.balance c.canonicalUsdc c.self =
    before.chain.balance c.canonicalUsdc c.self

theorem batchRouteAndPay_paid [DecidableEq Hash] (hc : c.Standard universalRouter router)
    {msg : Msg} {tokenIn : Address} {tokenOuts recipients : List Address}
    {amountsIn minAmountsOut : List ℕ} {referenceId : ByteArray} {before after : State Hash Ledgers}
    {totalOut : ℕ}
    (hrun : (batchRouteAndPay c msg tokenIn tokenOuts recipients amountsIn minAmountsOut
      referenceId).run before = .ok (totalOut, after)) :
    Paid c msg.sender tokenIn tokenOuts recipients amountsIn minAmountsOut referenceId before after
      totalOut (payments tokenOuts recipients amountsIn minAmountsOut) := by
  obtain ⟨-, hguarded⟩ := Call.bind_revertIf_ok.mp hrun
  obtain ⟨-, last, hpausable, rfl⟩ := nonReentrant_ok.mp hguarded
  obtain ⟨-, hbody⟩ := whenNotPaused_ok.mp hpausable
  obtain ⟨htoken, hchecks⟩ := bind_revertIf_ok.mp hbody
  obtain ⟨_, valid, hvalidate, hrest⟩ := Call.bind_ok.mp hchecks
  obtain ⟨hvalid, hsame⟩ := validate_ok hvalidate
  obtain ⟨-, rfl⟩ := Prod.mk.inj hsame
  obtain ⟨referenceHash, consumed, hconsumed, hbatch⟩ := Call.bind_ok.mp hrest
  obtain ⟨hchain, hfeeBps, hcollector⟩ := consumeReference_ok hconsumed
  obtain ⟨totalAmount, summed, hsummed, hmoves⟩ := Call.bind_ok.mp hbatch
  obtain ⟨hpayable, htotal, hbound⟩ := sumAmounts_ok hsummed
  obtain ⟨rfl, rfl⟩ := Prod.mk.inj htotal
  obtain ⟨totals, paid, hpaid, hevents⟩ := Call.bind_ok.mp hmoves
  obtain ⟨hlines, htotals, hfeesBound, houtBound, hflow, hself⟩ :=
    fundAndPay_pays hc (hbound (by decide)) (Nat.zero_add _) hpaid
  have hlast := bind_emit_ok.mp (bind_emit_ok.mp hevents)
  obtain ⟨rfl, rfl⟩ := Prod.mk.inj (Call.pure_ok.mp hlast)
  simp only [hfeeBps, hcollector, hchain, Nat.zero_add] at hlines htotals hflow hself
  rw [htotals] at hfeesBound houtBound
  exact {
    tokenIn := not_not.mp htoken
    valid := hvalid
    payable := hpayable
    divides := fun payment hmember => (hlines payment hmember).1
    minimum := fun payment hmember => (hlines payment hmember).2
    totalOut := congrArg Prod.snd htotals
    netBound := houtBound
    feeBound := hfeesBound
    flow := hflow
    contract := hself }

/-- The quote of a batch that could be paid. -/
theorem getBatchEstimatedOutputs_run {payer tokenIn : Address} {tokenOuts recipients : List Address}
    {amountsIn minAmountsOut : List ℕ} {referenceId : ByteArray} {before after : State Hash Ledgers}
    {totalOut : ℕ} {batch : List Payment}
    (hlines : batch.map (fun payment => (payment.tokenOut, payment.amountIn)) =
      tokenOuts.zip amountsIn)
    (hpaid : Paid c payer tokenIn tokenOuts recipients amountsIn minAmountsOut referenceId before
      after totalOut batch) :
    (getBatchEstimatedOutputs c tokenIn tokenOuts amountsIn).run before = .ok
      ((batch.map fun payment => netOf before.storage.feeBps payment.amountIn,
        totalNet before.storage.feeBps batch, totalFee before.storage.feeBps batch), before) := by
  have hnets : (tokenOuts.zip amountsIn).map (fun line => netOf before.storage.feeBps line.2) =
      batch.map fun payment => netOf before.storage.feeBps payment.amountIn := by
    rw [← hlines, List.map_map]
    rfl
  have hfees : (tokenOuts.zip amountsIn).map (fun line => feeOf before.storage.feeBps line.2) =
      batch.map fun payment => feeOf before.storage.feeBps payment.amountIn := by
    rw [← hlines, List.map_map]
    rfl
  have hquote := @estimate_run Hash Ledgers c (tokenOuts.zip amountsIn) before [] 0 0
    (fun line hmember => by
      rw [← hlines] at hmember
      obtain ⟨payment, hpayment, rfl⟩ := List.mem_map.mp hmember
      exact ⟨(hpaid.payable payment hpayment).token, (hpaid.payable payment hpayment).amount,
        hpaid.divides payment hpayment⟩)
    (by rw [hnets, Nat.zero_add]; exact hpaid.netBound)
    (by rw [hfees, Nat.zero_add]; exact hpaid.feeBound)
  rw [hnets, hfees, List.nil_append, Nat.zero_add, Nat.zero_add] at hquote
  have hvalid := hpaid.valid
  refine bind_revertIf_ok.mpr ⟨not_not.mpr hpaid.tokenIn, bind_revertIf_ok.mpr ⟨?_, ?_⟩⟩
  · rw [← hvalid.amounts]
    exact hvalid.nonempty
  · refine bind_revertIf_ok.mpr ⟨not_not.mpr (hvalid.amounts.symm.trans hvalid.tokens), ?_⟩
    exact bind_revertIf_ok.mpr ⟨Nat.not_lt.mpr (hvalid.amounts ▸ hvalid.size), hquote⟩

/-- What a batch pays, against what was quoted for it: the recipients get their nets and the
collector the fees, whichever accounts coincide, and the payer pays for both. -/
structure PaysQuote (c : Contract Hash Ledgers) (payer : Address) (recipients : List Address)
    (amountsIn minAmountsOut : List ℕ) (before after : State Hash Ledgers) (totalOut : ℕ)
    (quote : List ℕ × ℕ × ℕ) : Prop where
  length : quote.1.length = recipients.length
  sum : quote.1.sum = quote.2.1
  minimum : List.Forall₂ (fun minAmountOut net => minAmountOut ≤ net) minAmountsOut quote.1
  returned : totalOut = quote.2.1
  funding : amountsIn.sum = quote.2.1 + quote.2.2
  balances : ∀ account, after.chain.balance c.canonicalUsdc account +
      (Pi.single payer amountsIn.sum : Ledger Address) account =
    before.chain.balance c.canonicalUsdc account +
      Ledger.owed (recipients.zip quote.1) account +
      (Pi.single before.storage.feeCollector quote.2.2 : Ledger Address) account
  contract : after.chain.balance c.canonicalUsdc c.self =
    before.chain.balance c.canonicalUsdc c.self
  others : ∀ token, token ≠ c.canonicalUsdc →
    after.chain.balance token = before.chain.balance token
  native : after.chain.native = before.chain.native

/-- In whatever state governance has left the contract, a batch that is paid is paid as it
would have been quoted. -/
theorem batchRouteAndPay_pays_quote [DecidableEq Hash] (hc : c.Standard universalRouter router)
    {msg : Msg} {tokenIn : Address} {tokenOuts recipients : List Address}
    {amountsIn minAmountsOut : List ℕ} {referenceId : ByteArray} {before after : State Hash Ledgers}
    {totalOut : ℕ}
    (hrun : (batchRouteAndPay c msg tokenIn tokenOuts recipients amountsIn minAmountsOut
      referenceId).run before = .ok (totalOut, after)) :
    ∃ quote, (getBatchEstimatedOutputs c tokenIn tokenOuts amountsIn).run before =
        .ok (quote, before) ∧
      PaysQuote c msg.sender recipients amountsIn minAmountsOut before after totalOut quote := by
  have hpaid := batchRouteAndPay_paid hc hrun
  obtain ⟨hlines, hrecipients, hamounts, hminimums⟩ :=
    payments_amounts hpaid.valid.tokens hpaid.valid.amounts hpaid.valid.minimums
  refine ⟨_, getBatchEstimatedOutputs_run hlines hpaid, ?_⟩
  generalize payments tokenOuts recipients amountsIn minAmountsOut = batch at *
  have hzip : recipients.zip (batch.map fun payment => netOf before.storage.feeBps payment.amountIn) =
      nets before.storage.feeBps batch := by
    rw [← hrecipients, List.zip_map']
    rfl
  have hfunding := sum_amounts_of_divides hpaid.divides
  have hflow := hpaid.flow
  rw [hamounts] at hfunding hflow
  refine ⟨?_, rfl, ?_, hpaid.totalOut, hfunding, fun account => ?_, hpaid.contract, hflow.others,
    hflow.native⟩
  · rw [← hrecipients, List.length_map, List.length_map]
  · rw [← hminimums]
    exact List.forall₂_map_left_iff.mpr (List.forall₂_map_right_iff.mpr
      (List.forall₂_same.mpr hpaid.minimum))
  · rw [hzip, Nat.add_assoc]
    exact hflow.flow.apply account

end Standard

/-! ## A deployment -/

/-- A contract that takes 1% for account 7, on standard tokens. -/
def exampleContract : Contract Unit Ledgers where
  self := 100
  chainid := 5042
  canonicalUsdc := 1
  keccak := ⟨fun _ => (), fun _ => ()⟩
  ext := standardExternals 100 3 fun _ _ => none

/-- Unpaused; account 9 holds 10 000 and has approved them. -/
def exampleState : State Unit Ledgers where
  storage := { owner := 7, feeBps := 100, feeCollector := 7, usedReferenceHashes := fun _ => false }
  paused := false
  entered := false
  events := []
  chain := {
    native := 0
    balance := fun _ => Pi.single 9 10000
    allowance := fun _ _ _ => 10000
    permit2Allowance := fun _ _ _ => (0, 0) }

/-- Account 9 pays account 20 twice and the collector once: 99 are fees. -/
theorem batchRouteAndPay_pays_quote_twice :
    ∃ totalOut after, (batchRouteAndPay exampleContract ⟨9, 0, 0⟩ 1 [1, 1, 1] [20, 7, 20]
        [1000, 5000, 3999] [990, 0, 3960] ⟨#[80, 49]⟩).run exampleState = .ok (totalOut, after) ∧
      ∃ quote, (getBatchEstimatedOutputs exampleContract 1 [1, 1, 1] [1000, 5000, 3999]).run
          exampleState = .ok (quote, exampleState) ∧
        PaysQuote exampleContract 9 [20, 7, 20] [1000, 5000, 3999] [990, 0, 3960] exampleState after
          totalOut quote := by
  have hsucceeds : (batchRouteAndPay exampleContract ⟨9, 0, 0⟩ 1 [1, 1, 1] [20, 7, 20]
      [1000, 5000, 3999] [990, 0, 3960] ⟨#[80, 49]⟩).succeeds exampleState = true := by
    decide +kernel
  obtain ⟨totalOut, after, hrun⟩ := Call.succeeds_iff.mp hsucceeds
  have hstandard : exampleContract.Standard 3 fun _ _ => none := rfl
  exact ⟨totalOut, after, hrun, batchRouteAndPay_pays_quote hstandard hrun⟩

end WizPay.MainnetV2
