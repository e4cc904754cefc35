import WizPay.Evm.Solvency
import WizPay.MainnetV2.Quote

/-!
# When the balance check refuses a batch

The contract ends a payment by comparing its own balance with the one it started
from. Nothing keeps a recipient or the fee collector from being the contract
itself, and what it pays to itself stays there: the check then refuses a batch
that every other check lets through.
-/

namespace WizPay.MainnetV2

open Foundation Evm

variable {Hash : Type} {c : Contract Hash Ledgers} {universalRouter : Address}
  {router : Router (Storage Hash) (Event Hash)}

/-! ## What governance can reach -/

/-- The constructor and the setters accept this fee and this collector only. -/
structure Governed (storage : Storage Hash) : Prop where
  feeBps : storage.feeBps ≤ MAX_FEE_BPS
  feeCollector : storage.feeCollector ≠ 0

theorem constructor_governed {codeLength : Address → ℕ}
    {canonicalUsdc initialOwner feeCollector : Address} {feeBps : ℕ} {storage : Storage Hash}
    (hdeployed : constructor codeLength canonicalUsdc initialOwner feeCollector feeBps =
      .ok storage) : Governed storage := by
  unfold constructor at hdeployed
  repeat' split at hdeployed
  all_goals cases hdeployed
  exact ⟨Nat.not_lt.mp ‹¬ feeBps > MAX_FEE_BPS›, ‹¬ feeCollector = 0›⟩

/-- A call that leaves the storage governed and the contract unlocked. -/
def Governs {α : Type} (call : V2Call Hash Ledgers α) : Prop :=
  call.Relates fun before after =>
    Governed before.storage ∧ before.entered = false →
      Governed after.storage ∧ after.entered = false

namespace Governs

variable {α β : Type}

theorem bind {call : V2Call Hash Ledgers α} {rest : α → V2Call Hash Ledgers β}
    (hcall : Governs call) (hrest : ∀ value, Governs (rest value)) : Governs (call >>= rest) :=
  Call.Relates.bind (fun _ _ _ hfirst hsecond hgoverned => hsecond (hfirst hgoverned)) hcall hrest

theorem pure (value : α) : Governs (Pure.pure value : V2Call Hash Ledgers α) :=
  Call.Relates.pure (fun _ => id) value

theorem get : Governs (MonadState.get : V2Call Hash Ledgers (State Hash Ledgers)) :=
  Call.Relates.get fun _ => id

theorem revertIf (condition : Prop) [Decidable condition] (error : Error Hash) :
    Governs (Evm.revertIf condition error : V2Call Hash Ledgers Unit) :=
  Call.Relates.revertIf (fun _ => id) condition _

theorem emit (event : Event Hash) : Governs (Evm.emit event : V2Call Hash Ledgers PUnit) := by
  intro state value next hrun hgoverned
  obtain ⟨_, rfl⟩ := Prod.mk.inj (emit_ok.mp hrun)
  exact hgoverned

theorem setStorage {change : Storage Hash → Storage Hash}
    (hchange : ∀ storage, Governed storage → Governed (change storage)) :
    Governs (MainnetV2.setStorage change : V2Call Hash Ledgers PUnit) := by
  intro state value next hrun hgoverned
  obtain ⟨_, rfl⟩ := Prod.mk.inj (Call.modify_ok.mp hrun)
  exact ⟨hchange _ hgoverned.1, hgoverned.2⟩

theorem setPaused (paused : Bool) :
    Governs (modify fun state => { state with paused := paused } : V2Call Hash Ledgers PUnit) := by
  intro state value next hrun hgoverned
  obtain ⟨_, rfl⟩ := Prod.mk.inj (Call.modify_ok.mp hrun)
  exact hgoverned

/-- What follows a check may rely on it. -/
theorem check {condition : Prop} [Decidable condition] {error : Error Hash}
    {rest : Unit → V2Call Hash Ledgers β} (hrest : ¬ condition → Governs (rest ())) :
    Governs (Evm.revertIf condition error >>= rest) := by
  intro state value next hrun
  obtain ⟨hcondition, hrun⟩ := bind_revertIf_ok.mp hrun
  exact hrest hcondition state value next hrun

/-- The entry checks of the owner's functions. -/
theorem governance {msg : Msg} {body : V2Call Hash Ledgers α} (hbody : Governs body) :
    Governs (nonPayable msg (byOwner msg body)) :=
  .bind (Call.Relates.revertIf (fun _ => id) _ _) fun _ => .bind .get fun _ =>
    .bind (Call.Relates.revertIf (fun _ => id) _ _) fun _ => hbody

theorem whenPaused {body : V2Call Hash Ledgers α} (hbody : Governs body) :
    Governs (Evm.whenPaused body) :=
  .bind .get fun _ => .bind (Call.Relates.revertIf (fun _ => id) _ _) fun _ => hbody

theorem whenNotPaused {body : V2Call Hash Ledgers α} (hbody : Governs body) :
    Governs (Evm.whenNotPaused body) :=
  .bind .get fun _ => .bind (Call.Relates.revertIf (fun _ => id) _ _) fun _ => hbody

end Governs

/-- A call that leaves the storage governed, under the guard or not. -/
def GovernsStorage {α : Type} (call : V2Call Hash Ledgers α) : Prop :=
  call.Relates fun before after => Governed before.storage → Governed after.storage

namespace GovernsStorage

variable {α β : Type}

theorem bind {call : V2Call Hash Ledgers α} {rest : α → V2Call Hash Ledgers β}
    (hcall : GovernsStorage call) (hrest : ∀ value, GovernsStorage (rest value)) :
    GovernsStorage (call >>= rest) :=
  Call.Relates.bind (fun _ _ _ hfirst hsecond hgoverned => hsecond (hfirst hgoverned)) hcall hrest

/-- Calls that end with the storage they met. -/
theorem of_same {call : V2Call Hash Ledgers α}
    (hsame : ∀ state value next, call.run state = .ok (value, next) →
      next.storage = state.storage) : GovernsStorage call := by
  intro state value next hrun hgoverned
  rw [hsame state value next hrun]
  exact hgoverned

theorem pure (value : α) : GovernsStorage (Pure.pure value : V2Call Hash Ledgers α) :=
  Call.Relates.pure (fun _ => id) value

theorem get : GovernsStorage (MonadState.get : V2Call Hash Ledgers (State Hash Ledgers)) :=
  Call.Relates.get fun _ => id

theorem revertIf (condition : Prop) [Decidable condition] (error : Error Hash) :
    GovernsStorage (Evm.revertIf condition error : V2Call Hash Ledgers Unit) :=
  Call.Relates.revertIf (fun _ => id) condition _

theorem checked (fits : Prop) [Decidable fits] (value : ℕ) :
    GovernsStorage (Evm.checked fits value : V2Call Hash Ledgers ℕ) :=
  .bind (Call.Relates.revertIf (fun _ => id) _ _) fun _ => .pure _

theorem view (reading : Ledgers → α) :
    GovernsStorage (Evm.view reading : V2Call Hash Ledgers α) :=
  .bind .get fun _ => .pure _

theorem emit (event : Event Hash) :
    GovernsStorage (Evm.emit event : V2Call Hash Ledgers PUnit) := by
  apply of_same
  intro state value next hrun
  obtain ⟨_, rfl⟩ := Prod.mk.inj (emit_ok.mp hrun)
  rfl

theorem callExternal {effect : State Hash Ledgers → Option (State Hash Ledgers)}
    (heffect : ∀ state next, effect state = some next → next.storage = state.storage) :
    GovernsStorage (Evm.callExternal effect : V2Call Hash Ledgers Unit) := by
  apply of_same
  intro state value next hrun
  obtain ⟨after, hafter, hsame⟩ := callExternal_ok.mp hrun
  obtain ⟨_, rfl⟩ := Prod.mk.inj hsame
  exact heffect state _ hafter

/-- Under the guard, what keeps the storage governed leaves the contract unlocked. -/
theorem nonReentrant {body : V2Call Hash Ledgers α} (hbody : GovernsStorage body) :
    Governs (Evm.nonReentrant body) := by
  intro state value next hrun hgoverned
  obtain ⟨-, last, hlast, rfl⟩ := nonReentrant_ok.mp hrun
  have hkept := hbody { state with entered := true } value last hlast
  exact ⟨hkept hgoverned.1, rfl⟩

theorem whenNotPaused {body : V2Call Hash Ledgers α} (hbody : GovernsStorage body) :
    GovernsStorage (Evm.whenNotPaused body) :=
  .bind .get fun _ => .bind (Call.Relates.revertIf (fun _ => id) _ _) fun _ => hbody

end GovernsStorage

section Standard

variable (hc : c.Standard universalRouter router)
include hc

theorem safeTransferFrom_storage {token source : Address} {amount : ℕ}
    {state next : State Hash Ledgers}
    (hpull : c.ext.safeTransferFrom token source c.self amount state = some next) :
    next.storage = state.storage := by
  rw [hc] at hpull
  obtain ⟨chain, -, rfl⟩ := onChain_eq_some.mp hpull
  rfl

theorem payAll_governs (msg : Msg) (referenceHash : Hash) (i : ℕ) (batch : List Payment)
    (totalFees totalOut : ℕ) :
    GovernsStorage (payAll c msg referenceHash i batch totalFees totalOut) := by
  induction batch generalizing i totalFees totalOut with
  | nil => exact .pure _
  | cons payment rest ih =>
      have htransfer (token target : Address) (amount : ℕ) : GovernsStorage
          (callExternal (c.ext.safeTransfer token target amount) : V2Call Hash Ledgers Unit) :=
        .callExternal fun _ _ hpaid => safeTransfer_storage hc hpaid
      have hfee : GovernsStorage (fee payment.amountIn : V2Call Hash Ledgers ℕ) := by
        apply GovernsStorage.of_same
        intro state value next hrun
        obtain ⟨_, rfl⟩ := Prod.mk.inj (fee_ok.mp hrun).2
        rfl
      unfold payAll
      refine .bind hfee fun feeAmount => .bind (.checked _ _) fun net => ?_
      refine .bind (.revertIf _ _) fun _ => .bind ?_ fun _ => ?_
      · exact Call.Relates.when (fun _ => id) fun _ =>
          GovernsStorage.bind .get fun _ => .bind (htransfer _ _ _) fun _ => .emit _
      · exact .bind (htransfer _ _ _) fun _ => .bind (.checked _ _) fun _ =>
          .bind (.checked _ _) fun _ => .bind (.emit _) fun _ => ih _ _ _

theorem fundAndPay_governs (msg : Msg) (batch : List Payment) (totalAmount : ℕ)
    (referenceHash : Hash) : GovernsStorage (fundAndPay c msg batch totalAmount referenceHash) := by
  refine .bind (.view _) fun _ => .bind ?_ fun _ => .bind (.view _) fun _ => ?_
  · exact .callExternal fun _ _ hpull => safeTransferFrom_storage hc hpull
  · refine .bind (.checked _ _) fun _ => .bind (.revertIf _ _) fun _ => ?_
    exact .bind (payAll_governs hc msg referenceHash 0 batch 0 0) fun _ =>
      .bind (.view _) fun _ => .bind (.revertIf _ _) fun _ => .pure _

theorem batchRouteAndPay_governs [DecidableEq Hash] (msg : Msg) (tokenIn : Address)
    (tokenOuts recipients : List Address) (amountsIn minAmountsOut : List ℕ)
    (referenceId : ByteArray) :
    Governs (batchRouteAndPay c msg tokenIn tokenOuts recipients amountsIn minAmountsOut
      referenceId) := by
  have hvalidate : GovernsStorage (validate tokenOuts recipients amountsIn minAmountsOut
      referenceId : V2Call Hash Ledgers Unit) := by
    apply GovernsStorage.of_same
    intro state value next hrun
    obtain ⟨_, rfl⟩ := Prod.mk.inj (validate_ok hrun).2
    rfl
  have hconsume : GovernsStorage (consumeReference c msg referenceId) := by
    intro state value next hrun hgoverned
    obtain ⟨-, hfeeBps, hcollector⟩ := consumeReference_ok hrun
    exact ⟨hfeeBps ▸ hgoverned.feeBps, hcollector ▸ hgoverned.feeCollector⟩
  have hsum (batch : List Payment) : GovernsStorage (sumAmounts c msg batch 0) := by
    apply GovernsStorage.of_same
    intro state value next hrun
    obtain ⟨_, rfl⟩ := Prod.mk.inj (sumAmounts_ok hrun).2.1
    rfl
  refine .bind (Call.Relates.revertIf (fun _ => id) _ _) fun _ =>
    GovernsStorage.nonReentrant ?_
  refine .whenNotPaused (.bind (.revertIf _ _) fun _ => .bind hvalidate fun _ => ?_)
  refine .bind hconsume fun referenceHash => .bind (hsum _) fun totalAmount => ?_
  exact .bind (fundAndPay_governs hc msg _ totalAmount referenceHash) fun _ =>
    .bind (.emit _) fun _ => .bind (.emit _) fun _ => .pure _

theorem emergencyWithdraw_governs (msg : Msg) (amount : ℕ) :
    Governs (emergencyWithdraw c msg amount) := by
  refine .governance (.whenPaused (GovernsStorage.nonReentrant ?_))
  refine .bind (.revertIf _ _) fun _ => .bind (.view _) fun _ => .bind (.revertIf _ _) fun _ => ?_
  refine .bind .get fun _ => .bind ?_ fun _ => .bind .get fun _ => .emit _
  exact .callExternal fun _ _ hpaid => safeTransfer_storage hc hpaid

/-- No transaction leads out of the governed states. -/
theorem execute_governs [DecidableEq Hash] (call : Transaction) : Governs (execute c call) := by
  have hsetOwner (newOwner : Address) : Governs (setOwner newOwner : V2Call Hash Ledgers Unit) :=
    .bind .get fun _ => .bind (.setStorage fun _ hgoverned => ⟨hgoverned.feeBps,
      hgoverned.feeCollector⟩) fun _ => .emit _
  cases call with
  | batchRouteAndPay msg tokenIn tokenOuts recipients amountsIn minAmountsOut referenceId =>
      exact .bind (batchRouteAndPay_governs hc msg tokenIn tokenOuts recipients amountsIn
        minAmountsOut referenceId) fun _ => .pure _
  | updateFee msg nextFeeBps =>
      refine .governance (.whenPaused (.check fun hfee => .bind .get fun _ => ?_))
      exact .bind (.setStorage fun _ hgoverned => ⟨Nat.not_lt.mp hfee, hgoverned.feeCollector⟩)
        fun _ => .emit _
  | updateFeeCollector msg nextCollector =>
      refine .governance (.whenPaused (.check fun hcollector => .bind .get fun _ => ?_))
      exact .bind (.setStorage fun _ hgoverned => ⟨hgoverned.feeBps, hcollector⟩) fun _ => .emit _
  | emergencyWithdraw msg amount => exact emergencyWithdraw_governs hc msg amount
  | pause msg => exact .governance (.whenNotPaused (.bind (.setPaused true) fun _ => .emit _))
  | unpause msg => exact .governance (.whenPaused (.bind (.setPaused false) fun _ => .emit _))
  | transferOwnership msg newOwner =>
      exact .governance (.bind (.revertIf _ _) fun _ => hsetOwner newOwner)
  | renounceOwnership msg => exact .governance (hsetOwner 0)

/-! ## Batches that go through -/

/-- The fee of one line takes no more than itself from the contract. -/
theorem payFee_run (hself : c.self ≠ 0) {feeAmount : ℕ} {state : State Hash Ledgers}
    (hcollector : state.storage.feeCollector ≠ 0)
    (hcovered : feeAmount ≤ state.chain.balance c.canonicalUsdc c.self) :
    ∃ events charged,
      (Call.when (feeAmount ≠ 0) do
          let state ← get
          callExternal (c.ext.safeTransfer c.canonicalUsdc state.storage.feeCollector feeAmount)
          emit (.feeCollected c.canonicalUsdc feeAmount) : V2Call Hash Ledgers Unit).run state =
        .ok ((), { state with events := events, chain := charged }) ∧
      state.chain.balance c.canonicalUsdc c.self ≤
        charged.balance c.canonicalUsdc c.self + feeAmount := by
  by_cases hzero : feeAmount = 0
  · exact ⟨state.events, state.chain, Call.when_ok.mpr (.inr ⟨not_not.mpr hzero, rfl⟩),
      Nat.le_add_right _ _⟩
  · obtain ⟨charged, hcharged, -, hflow⟩ := safeTransfer_succeeds hc hself hcollector hcovered
    have hleft := hflow.flow.apply c.self
    rw [Pi.single_eq_same] at hleft
    refine ⟨state.events ++ [.feeCollected c.canonicalUsdc feeAmount], charged,
      Call.when_ok.mpr (.inl ⟨hzero, ?_⟩), by omega⟩
    exact Call.bind_get_ok.mpr (bind_callExternal_ok.mpr ⟨_, hcharged, emit_ok.mpr rfl⟩)

/-- The payment loop goes through when the contract holds the gross amounts. -/
theorem payAll_run (hself : c.self ≠ 0) {msg : Msg} {referenceHash : Hash} {i : ℕ}
    {batch : List Payment} {totalFees totalOut : ℕ} {state : State Hash Ledgers}
    (hcollector : state.storage.feeCollector ≠ 0)
    (hrecipients : ∀ payment ∈ batch, payment.recipient ≠ 0)
    (hdivides : ∀ payment ∈ batch, Divides state.storage.feeBps payment.amountIn)
    (hminimum : ∀ payment ∈ batch,
      payment.minAmountOut ≤ netOf state.storage.feeBps payment.amountIn)
    (hcovered : (batch.map Payment.amountIn).sum ≤ state.chain.balance c.canonicalUsdc c.self)
    (hbound : totalFees + totalOut + (batch.map Payment.amountIn).sum < uint256Bound) :
    ∃ totals events chain, (payAll c msg referenceHash i batch totalFees totalOut).run state =
      .ok (totals, { state with events := events, chain := chain }) := by
  induction batch generalizing i totalFees totalOut state with
  | nil => exact ⟨_, state.events, state.chain, rfl⟩
  | cons payment rest ih =>
      have hrecipient := hrecipients payment List.mem_cons_self
      obtain ⟨hfits, hle⟩ := hdivides payment List.mem_cons_self
      have hnet := hminimum payment List.mem_cons_self
      rw [List.map_cons, List.sum_cons] at hcovered hbound
      generalize hfee : feeOf state.storage.feeBps payment.amountIn = feeAmount at hle
      have hnetOf : netOf state.storage.feeBps payment.amountIn = payment.amountIn - feeAmount := by
        rw [netOf, hfee]
      -- The fee, if there is any, and then the net leave the contract's account.
      obtain ⟨events, charged, hcharged, hheld⟩ :=
        @payFee_run Hash c universalRouter router hc hself feeAmount state hcollector (by omega)
      obtain ⟨paid, hpaid, -, hflow⟩ := @safeTransfer_succeeds _ _ _ _ _ _
        { state with events := events, chain := charged } hc hself c.canonicalUsdc
        payment.recipient (payment.amountIn - feeAmount) hrecipient (by dsimp only; omega)
      have hleft := hflow.flow.apply c.self
      rw [Pi.single_eq_same] at hleft
      dsimp only at hleft
      let event : Event Hash := .directUsdcPayment ⟨referenceHash, msg.sender, payment.recipient, i,
        payment.amountIn, payment.amountIn - feeAmount, feeAmount⟩
      obtain ⟨totals, last, chain, hrest⟩ := @ih (i + 1) (totalFees + feeAmount)
        (totalOut + (payment.amountIn - feeAmount))
        { state with events := events ++ [event], chain := paid } hcollector
        (fun other hmember => hrecipients other (List.mem_cons_of_mem _ hmember))
        (fun other hmember => hdivides other (List.mem_cons_of_mem _ hmember))
        (fun other hmember => hminimum other (List.mem_cons_of_mem _ hmember))
        (by dsimp only; omega) (by omega)
      refine ⟨totals, last, chain, ?_⟩
      unfold payAll
      refine Call.bind_ok.mpr ⟨feeAmount, state, fee_ok.mpr ⟨hfits, by rw [hfee]⟩, ?_⟩
      refine bind_checked_ok.mpr ⟨hle, bind_revertIf_ok.mpr ⟨by omega, ?_⟩⟩
      refine Call.bind_ok.mpr ⟨(), _, hcharged, bind_callExternal_ok.mpr ⟨_, hpaid, ?_⟩⟩
      exact bind_checked_ok.mpr ⟨by omega, bind_checked_ok.mpr ⟨by omega,
        bind_emit_ok.mpr hrest⟩⟩

/-- Nothing of a batch is paid to the contract itself, and its fees can be computed. -/
structure PaysOthers (c : Contract Hash Ledgers) (storage : Storage Hash) (batch : List Payment) :
    Prop where
  recipients : ∀ payment ∈ batch, payment.recipient ≠ c.self
  collector : storage.feeCollector = c.self → totalFee storage.feeBps batch = 0
  fees : ∀ payment ∈ batch, payment.amountIn * storage.feeBps < uint256Bound

omit hc in
theorem feeOf_le {feeBps : ℕ} (hfeeBps : feeBps ≤ MAX_FEE_BPS) (amount : ℕ) :
    feeOf feeBps amount ≤ amount :=
  bpsFee_le (Nat.le_trans hfeeBps (by decide)) amount

/-- The token movements of a batch that pays others go through, and leave the contract what
it had. -/
theorem fundAndPay_run (hself : c.self ≠ 0) {msg : Msg} {referenceHash : Hash}
    {batch : List Payment} {state : State Hash Ledgers} (hsender : msg.sender ≠ 0)
    (hother : msg.sender ≠ c.self) (hgoverned : Governed state.storage)
    (hpayable : ∀ payment ∈ batch, Payable c msg.sender payment)
    (hminimum : ∀ payment ∈ batch,
      payment.minAmountOut ≤ netOf state.storage.feeBps payment.amountIn)
    (hsupplied : state.chain.Supplied c.canonicalUsdc)
    (hbalance : (batch.map Payment.amountIn).sum ≤
      state.chain.balance c.canonicalUsdc msg.sender)
    (hallowance : (batch.map Payment.amountIn).sum ≤
      state.chain.allowance c.canonicalUsdc msg.sender c.self)
    (hothers : PaysOthers c state.storage batch) :
    ∃ totals next, (fundAndPay c msg batch (batch.map Payment.amountIn).sum referenceHash).run
      state = .ok (totals, next) := by
  have hbound := Nat.lt_of_le_of_lt hbalance (hsupplied.lt msg.sender)
  have hdivides : ∀ payment ∈ batch, Divides state.storage.feeBps payment.amountIn :=
    fun payment hmember => ⟨.inr (hothers.fees payment hmember), feeOf_le hgoverned.feeBps _⟩
  obtain ⟨funded, hfunded, -, hpull⟩ :=
    safeTransferFrom_succeeds hc hself hsender hbound hbalance hallowance
  have hheld := hpull.flow.apply c.self
  rw [Pi.single_eq_same, Pi.single_eq_of_ne hother.symm] at hheld
  obtain ⟨totals, events, chain, hpaid⟩ := @payAll_run Hash c universalRouter router hc hself msg
    referenceHash 0 batch 0 0 { state with chain := funded } hgoverned.feeCollector
    (fun payment hmember => (hpayable payment hmember).recipient) hdivides hminimum
    (by dsimp only; omega) (by omega)
  refine ⟨totals, { state with events := events, chain := chain }, ?_⟩
  have hflow := (payAll_pays hc hpaid).flow.flow.apply c.self
  have hnone : Ledger.owed (nets state.storage.feeBps batch) c.self = 0 := by
    apply Ledger.owed_of_not_mem
    intro payment hmember
    obtain ⟨line, hline, rfl⟩ := List.mem_map.mp hmember
    exact hothers.recipients line hline
  have hcollected : (Pi.single state.storage.feeCollector (totalFee state.storage.feeBps batch) :
      Ledger Address) c.self = 0 := by
    by_cases hcollector : state.storage.feeCollector = c.self
    · rw [hothers.collector hcollector, Pi.single_zero]
      rfl
    · exact Pi.single_eq_of_ne (Ne.symm hcollector) _
  have hthrough := sum_amounts_of_divides hdivides
  rw [Pi.add_apply, Pi.single_eq_same, hnone, hcollected] at hflow
  dsimp only at hflow
  unfold fundAndPay
  refine bind_view_ok.mpr (bind_callExternal_ok.mpr ⟨_, hfunded, bind_view_ok.mpr ?_⟩)
  rw [balanceOf_standard hc]
  have hpair := hsupplied.add_lt hother
  refine bind_checked_ok.mpr ⟨by omega, bind_revertIf_ok.mpr ⟨?_, ?_⟩⟩
  · rw [balanceOf_standard hc, not_not]
    exact hheld
  · refine Call.bind_ok.mpr ⟨totals, _, hpaid, bind_view_ok.mpr (bind_revertIf_ok.mpr ⟨?_, rfl⟩)⟩
    rw [balanceOf_standard hc, not_not]
    dsimp only
    omega

/-! ## Every governed state -/

omit hc in
/-- The states of a deployed contract: any transactions, and anything elsewhere on the chain
between them. -/
inductive Reachable [DecidableEq Hash] (c : Contract Hash Ledgers) : State Hash Ledgers → Prop where
  | deployed {codeLength : Address → ℕ} {initialOwner feeCollector : Address} {feeBps : ℕ}
      {storage : Storage Hash} (events : List (Event Hash)) (chain : Ledgers)
      (constructed : constructor codeLength c.canonicalUsdc initialOwner feeCollector feeBps =
        .ok storage) :
      Reachable c { storage, paused := false, entered := false, events, chain }
  | transaction {state : State Hash Ledgers} (call : Transaction) (before : Reachable c state) :
      Reachable c ((execute c call).commit state)
  | elsewhere {state : State Hash Ledgers} (chain : Ledgers) (before : Reachable c state) :
      Reachable c { state with chain := chain }

theorem Reachable.governed [DecidableEq Hash] {state : State Hash Ledgers}
    (h : Reachable c state) : Governed state.storage ∧ state.entered = false := by
  induction h with
  | deployed events chain constructed => exact ⟨constructor_governed constructed, rfl⟩
  | @transaction state call before ih =>
      cases hsucceeds : (execute c call).succeeds state with
      | false => rw [Call.commit_of_not_succeeds hsucceeds]; exact ih
      | true =>
          obtain ⟨value, next, hrun⟩ := Call.succeeds_iff.mp hsucceeds
          rw [Call.commit_of_ok hrun]
          exact execute_governs hc call state value next hrun ih
  | elsewhere chain before ih => exact ih

omit hc in
/-- A batch that passes every check of its arguments, in a state that has what it takes. -/
structure Accepted (c : Contract Hash Ledgers) (msg : Msg) (tokenIn : Address)
    (tokenOuts recipients : List Address) (amountsIn minAmountsOut : List ℕ)
    (referenceId : ByteArray) (state : State Hash Ledgers) : Prop where
  value : msg.value = 0
  tokenIn : tokenIn = c.canonicalUsdc
  valid : Valid tokenOuts recipients amountsIn minAmountsOut referenceId
  payable : ∀ payment ∈ payments tokenOuts recipients amountsIn minAmountsOut,
    Payable c msg.sender payment
  fresh : state.storage.usedReferenceHashes (canonicalReferenceHash c msg.sender referenceId) = false
  unpaused : state.paused = false
  supplied : state.chain.Supplied c.canonicalUsdc
  balance : amountsIn.sum ≤ state.chain.balance c.canonicalUsdc msg.sender
  allowance : amountsIn.sum ≤ state.chain.allowance c.canonicalUsdc msg.sender c.self
  minimum : ∀ payment ∈ payments tokenOuts recipients amountsIn minAmountsOut,
    payment.minAmountOut ≤ netOf state.storage.feeBps payment.amountIn

omit hc in
theorem sumAmounts_run {msg : Msg} {batch : List Payment} {totalAmount : ℕ}
    {state : State Hash Ledgers} (hpayable : ∀ payment ∈ batch, Payable c msg.sender payment)
    (hbound : totalAmount + (batch.map Payment.amountIn).sum < uint256Bound) :
    (sumAmounts c msg batch totalAmount).run state =
      .ok (totalAmount + (batch.map Payment.amountIn).sum, state) := by
  induction batch generalizing totalAmount with
  | nil => rfl
  | cons payment rest ih =>
      have hline := hpayable payment List.mem_cons_self
      rw [List.map_cons, List.sum_cons, ← Nat.add_assoc] at hbound ⊢
      unfold sumAmounts
      refine bind_revertIf_ok.mpr ⟨not_not.mpr hline.token, bind_revertIf_ok.mpr
        ⟨hline.recipient, bind_revertIf_ok.mpr ⟨hline.other, bind_revertIf_ok.mpr
          ⟨hline.amount, bind_checked_ok.mpr ⟨by omega, ?_⟩⟩⟩⟩⟩
      exact ih (fun other hmember => hpayable other (List.mem_cons_of_mem _ hmember)) hbound

omit hc in
theorem validate_run {tokenOuts recipients : List Address} {amounts minimums : List ℕ}
    {referenceId : ByteArray} {state : State Hash Ledgers}
    (hvalid : Valid tokenOuts recipients amounts minimums referenceId) :
    (validate tokenOuts recipients amounts minimums referenceId).run state = .ok ((), state) := by
  refine bind_revertIf_ok.mpr ⟨hvalid.nonempty, bind_revertIf_ok.mpr ⟨?_, ?_⟩⟩
  · simp only [not_or, not_not]
    exact ⟨hvalid.tokens, hvalid.amounts, hvalid.minimums⟩
  · exact bind_revertIf_ok.mpr ⟨Nat.not_lt.mpr hvalid.size, bind_revertIf_ok.mpr
      ⟨hvalid.reference, revertIf_ok.mpr ⟨Nat.not_lt.mpr hvalid.referenceSize, rfl⟩⟩⟩

omit hc in
/-- At a fee in force, a line that sends anything pays something to its recipient. -/
theorem netOf_pos {feeBps amount : ℕ} (hfeeBps : feeBps ≤ MAX_FEE_BPS) (hamount : amount ≠ 0) :
    0 < netOf feeBps amount := by
  have hle : feeOf feeBps amount ≤ amount / 100 := by
    calc feeOf feeBps amount ≤ amount * 100 / 10000 :=
          Nat.div_le_div_right (Nat.mul_le_mul_left amount hfeeBps)
      _ = amount / 100 := by omega
  rw [netOf]
  omega

variable [DecidableEq Hash]

/-- An accepted batch that pays others goes through. -/
theorem batchRouteAndPay_run (hself : c.self ≠ 0) {msg : Msg} {tokenIn : Address}
    {tokenOuts recipients : List Address} {amountsIn minAmountsOut : List ℕ}
    {referenceId : ByteArray} {state : State Hash Ledgers} (hsender : msg.sender ≠ 0)
    (hother : msg.sender ≠ c.self) (hgoverned : Governed state.storage)
    (hunlocked : state.entered = false)
    (h : Accepted c msg tokenIn tokenOuts recipients amountsIn minAmountsOut referenceId state)
    (hothers : PaysOthers c state.storage (payments tokenOuts recipients amountsIn minAmountsOut)) :
    ∃ totalOut after, (batchRouteAndPay c msg tokenIn tokenOuts recipients amountsIn minAmountsOut
      referenceId).run state = .ok (totalOut, after) := by
  obtain ⟨-, -, hamounts, -⟩ :=
    payments_amounts h.valid.tokens h.valid.amounts h.valid.minimums
  have hbalance := h.balance
  have hallowance := h.allowance
  have hbound := Nat.lt_of_le_of_lt hbalance (h.supplied.lt msg.sender)
  rw [← hamounts] at hbalance hallowance hbound
  let referenceHash := canonicalReferenceHash c msg.sender referenceId
  let consumed : State Hash Ledgers := { state with
    entered := true
    storage := { state.storage with
      usedReferenceHashes := Function.update state.storage.usedReferenceHashes referenceHash true } }
  have hsum := @sumAmounts_run Hash c msg
    (payments tokenOuts recipients amountsIn minAmountsOut) 0 consumed h.payable
    (by rw [Nat.zero_add]; exact hbound)
  rw [Nat.zero_add] at hsum
  obtain ⟨⟨totalFees, totalOut⟩, next, hpaid⟩ := @fundAndPay_run Hash c universalRouter router hc hself msg
    referenceHash (payments tokenOuts recipients amountsIn minAmountsOut) consumed hsender hother
    ⟨hgoverned.feeBps, hgoverned.feeCollector⟩ h.payable h.minimum h.supplied hbalance hallowance
    ⟨hothers.recipients, hothers.collector, hothers.fees⟩
  let reported : List (Event Hash) := [
    .payrollReferenceConsumed {
      referenceHash, payer := msg.sender, token := c.canonicalUsdc
      batchDigest := canonicalBatchDigest c msg.sender recipients amountsIn
      totalAmount :=
        ((payments tokenOuts recipients amountsIn minAmountsOut).map Payment.amountIn).sum
      totalOut, totalFees, recipientCount := recipients.length, referenceId },
    .batchPaymentRouted {
      sender := msg.sender, tokenIn := c.canonicalUsdc, tokenOut := c.canonicalUsdc
      totalAmountIn :=
        ((payments tokenOuts recipients amountsIn minAmountsOut).map Payment.amountIn).sum
      totalAmountOut := totalOut, totalFees, recipientCount := recipients.length, referenceId }]
  let last : State Hash Ledgers := { next with events := next.events ++ reported }
  refine ⟨totalOut, { last with entered := false }, Call.bind_revertIf_ok.mpr ⟨?_, ?_⟩⟩
  · exact not_not.mpr h.value
  refine nonReentrant_ok.mpr ⟨hunlocked, last, whenNotPaused_ok.mpr ⟨h.unpaused, ?_⟩, rfl⟩
  refine bind_revertIf_ok.mpr ⟨not_not.mpr h.tokenIn, ?_⟩
  refine Call.bind_ok.mpr ⟨(), _, validate_run h.valid, ?_⟩
  refine Call.bind_ok.mpr ⟨referenceHash, consumed, ?_, ?_⟩
  · refine Call.bind_get_ok.mpr (bind_revertIf_ok.mpr ⟨?_, Call.bind_modify_ok.mpr rfl⟩)
    rw [Bool.not_eq_true]
    exact h.fresh
  · refine Call.bind_ok.mpr ⟨_, consumed, hsum, Call.bind_ok.mpr ⟨_, next, hpaid, ?_⟩⟩
    refine bind_emit_ok.mpr (bind_emit_ok.mpr ?_)
    rw [List.append_assoc]
    rfl

/-- In every state of a deployed contract, an accepted batch is paid exactly when none of it
goes to the contract itself: no recipient is the contract, nor is the collector of its fees,
and the fees fit the arithmetic. -/
theorem batchRouteAndPay_succeeds_iff {state : State Hash Ledgers} (hstate : Reachable c state)
    {msg : Msg} {tokenIn : Address} {tokenOuts recipients : List Address}
    {amountsIn minAmountsOut : List ℕ} {referenceId : ByteArray} (hself : c.self ≠ 0)
    (hsender : msg.sender ≠ 0) (hother : msg.sender ≠ c.self)
    (h : Accepted c msg tokenIn tokenOuts recipients amountsIn minAmountsOut referenceId state) :
    (∃ totalOut after, (batchRouteAndPay c msg tokenIn tokenOuts recipients amountsIn minAmountsOut
      referenceId).run state = .ok (totalOut, after)) ↔
      PaysOthers c state.storage (payments tokenOuts recipients amountsIn minAmountsOut) := by
  obtain ⟨hgoverned, hunlocked⟩ := hstate.governed hc
  constructor
  · intro ⟨totalOut, after, hrun⟩
    have hpaid := batchRouteAndPay_paid hc hrun
    -- the contract ends with what it had, so nothing came to it
    have hflow := hpaid.flow.flow.apply c.self
    rw [hpaid.contract, Pi.single_eq_of_ne hother.symm, Pi.add_apply] at hflow
    refine ⟨fun payment hmember hrecipient => ?_, fun hcollector => ?_, fun payment hmember => ?_⟩
    · have howed := Ledger.le_owed (List.mem_map_of_mem
        (f := fun payment => (payment.recipient, netOf state.storage.feeBps payment.amountIn))
        hmember)
      have hnet := netOf_pos hgoverned.feeBps (hpaid.payable payment hmember).amount
      dsimp only at howed
      rw [hrecipient] at howed
      rw [nets] at hflow
      omega
    · rw [hcollector, Pi.single_eq_same] at hflow
      omega
    · rcases (hpaid.divides payment hmember).1 with hzero | hfits
      · rw [hzero, Nat.mul_zero]
        decide
      · exact hfits
  · exact batchRouteAndPay_run hc hself hsender hother hgoverned hunlocked h

end Standard

/-! ## A deployment that refuses -/

theorem exampleState_reachable : Reachable exampleContract exampleState :=
  @Reachable.deployed _ _ exampleContract (fun _ => 1) 7 7 100 _ [] exampleState.chain
    rfl

theorem exampleState_supplied : exampleState.chain.Supplied 1 := by
  intro accounts
  have hsum : ∑ account ∈ accounts, exampleState.chain.balance 1 account =
      if (9 : Address) ∈ accounts then 10000 else 0 :=
    Finset.sum_pi_single' (9 : Address) 10000 accounts
  rw [hsum]
  split <;> decide

theorem exampleState_accepts {recipient : Address} (hzero : recipient ≠ 0) (hpayer : recipient ≠ 9)
    {storage : Storage Unit} (hfee : storage.feeBps = 100)
    (hfresh : storage.usedReferenceHashes () = false) (events : List (Event Unit)) :
    Accepted exampleContract ⟨9, 0, 0⟩ 1 [1] [recipient] [1000] [990] ⟨#[80, 49]⟩
      { exampleState with storage := storage, events := events } where
  value := rfl
  tokenIn := rfl
  valid := {
    nonempty := Nat.one_ne_zero
    tokens := rfl
    amounts := rfl
    minimums := rfl
    size := (by decide : 1 ≤ MAX_BATCH_SIZE)
    reference := (by decide : (⟨#[80, 49]⟩ : ByteArray).size ≠ 0)
    referenceSize := (by decide : (⟨#[80, 49]⟩ : ByteArray).size ≤ MAX_REFERENCE_ID_LENGTH) }
  payable := by
    intro payment hmember
    obtain rfl := List.mem_singleton.mp hmember
    exact ⟨rfl, hzero, hpayer, (by decide : 1000 ≠ 0)⟩
  fresh := hfresh
  unpaused := rfl
  supplied := exampleState_supplied
  balance := (by decide : [1000].sum ≤ exampleState.chain.balance 1 9)
  allowance := (by decide : [1000].sum ≤ exampleState.chain.allowance 1 9 100)
  minimum := by
    intro payment hmember
    obtain rfl := List.mem_singleton.mp hmember
    dsimp only
    rw [hfee]
    exact (by decide : 990 ≤ netOf 100 1000)

/-- The contract once its owner has made it its own collector. -/
def exampleSelfCollector : State Unit Ledgers :=
  Call.runAll (execute exampleContract)
    [.pause ⟨7, 0, 0⟩, .updateFeeCollector ⟨7, 0, 0⟩ 100, .unpause ⟨7, 0, 0⟩] exampleState

/-- Account 9 pays account 20 out of 1 000 units and is paid for. -/
theorem batchRouteAndPay_succeeds_iff_thousand :
    ∃ totalOut after, (batchRouteAndPay exampleContract ⟨9, 0, 0⟩ 1 [1] [20] [1000] [990]
      ⟨#[80, 49]⟩).run exampleState = .ok (totalOut, after) := by
  have hstandard : exampleContract.Standard 3 fun _ _ => none := rfl
  refine (batchRouteAndPay_succeeds_iff hstandard exampleState_reachable (by decide) (by decide)
    (by decide) (exampleState_accepts (by decide) (by decide) rfl rfl [])).mpr ?_
  constructor <;> decide

/-- Two accepted batches that the balance check refuses: the owner has made the contract the
collector of its own fees, or the batch names the contract as a recipient. -/
theorem batchRouteAndPay_refused_by_balance :
    (Reachable exampleContract exampleSelfCollector ∧
      Accepted exampleContract ⟨9, 0, 0⟩ 1 [1] [20] [1000] [990] ⟨#[80, 49]⟩
        exampleSelfCollector ∧
      (batchRouteAndPay exampleContract ⟨9, 0, 0⟩ 1 [1] [20] [1000] [990] ⟨#[80, 49]⟩).failure
        exampleSelfCollector = some (.custom (.unexpectedUsdcBalance 0 10))) ∧
    (Reachable exampleContract exampleState ∧
      Accepted exampleContract ⟨9, 0, 0⟩ 1 [1] [100] [1000] [990] ⟨#[80, 49]⟩ exampleState ∧
      (batchRouteAndPay exampleContract ⟨9, 0, 0⟩ 1 [1] [100] [1000] [990] ⟨#[80, 49]⟩).failure
        exampleState = some (.custom (.unexpectedUsdcBalance 0 990))) := by
  refine ⟨⟨?_, ?_, by decide +kernel⟩, exampleState_reachable, ?_, by decide +kernel⟩
  · exact .transaction (.unpause ⟨7, 0, 0⟩) (.transaction (.updateFeeCollector ⟨7, 0, 0⟩ 100)
      (.transaction (.pause ⟨7, 0, 0⟩) exampleState_reachable))
  · exact exampleState_accepts (by decide) (by decide) rfl rfl
      [.paused 7, .feeCollectorUpdated 7 100, .unpaused 7]
  · exact exampleState_accepts (by decide) (by decide) rfl rfl []

end WizPay.MainnetV2
