import WizPay.Evm.Allowances
import WizPay.PayrollMainnet.CrossToken

/-!
# The payroll contract owes no allowance between transactions

Only the EURC leg of a cross-token payroll grants allowances, and it takes both back once
the router returns. The router cannot start a payroll of its own meanwhile, and whatever
fails is rolled back with its grants.
-/

namespace WizPay.PayrollMainnet

open Foundation Evm

/-- `rescueTokens` calls a token of the owner's choice; nested in outside code it shows as
what that token does, and its event. -/
def Transaction.isNested : Transaction → Prop
  | .rescueTokens _ _ _ _ => False
  | _ => True

section

variable {Hash χ : Type} [DecidableEq Hash] {c : Contract Hash χ} {a : Allowances χ}

/-- The code that the payroll contract calls keeps its EURC allowances the standard way. -/
abbrev Standing (c : Contract Hash χ) (a : Allowances χ) : Prop :=
  a.Standing (execute c) Transaction.isNested c.ext c.EURC c.permit2 c.universalRouter

/-- A call nested in a guarded one grants nothing. -/
theorem execute_guards (hc : Standing c a) (call : Transaction) (hnested : call.isNested)
    (state : State Hash χ) (hentered : state.entered = true) :
    a.Guards state ((execute c call).commit state) := by
  cases call with
  | executeSameTokenPayroll msg token recipients amounts referenceId =>
      exact Allowances.entryPoint_guards hc hentered
  | executeCrossTokenPayroll msg tokenIn tokenOut recipients outputAmounts grossInput minTotalOut
      minHopPriceX36 deadline referenceId =>
      exact Allowances.entryPoint_guards hc hentered
  | pause msg =>
      exact Allowances.guards_of_outlook hentered (Allowances.pause_keeps.bind fun _ => .pure _)
  | unpause msg =>
      exact Allowances.guards_of_outlook hentered (Allowances.unpause_keeps.bind fun _ => .pure _)
  | rescueTokens msg token target amount => exact hnested.elim
  | transferOwnership newOwner => exact ⟨hentered, .refl state.chain⟩
  | renounceOwnership => exact ⟨hentered, .refl state.chain⟩

/-! ## The checks and the payments -/

section Keeps

variable {γ : Type} {reading : State Hash χ → γ} {value : γ}

omit [DecidableEq Hash] in
theorem validateBatch_keeps (recipients : List Address) (amounts : List ℕ)
    (referenceId : ByteArray) :
    Call.Keeps reading value (validateBatch recipients amounts referenceId) := by
  intro state result next hreading hrun
  obtain ⟨-, hsame⟩ := validateBatch_ok.mp hrun
  obtain ⟨_, rfl⟩ := Prod.mk.inj hsame
  exact hreading

omit [DecidableEq Hash] in
theorem fee_keeps (amount : ℕ) : Call.Keeps reading value (fee c amount) := by
  intro state result next hreading hrun
  obtain ⟨_, rfl⟩ := Prod.mk.inj (fee_ok c hrun)
  exact hreading

omit [DecidableEq Hash] in
theorem sumSameToken_keeps (msg : Msg) (payments : List (Address × ℕ))
    (totalObligations totalFees : ℕ) :
    Call.Keeps reading value (sumSameToken c msg payments totalObligations totalFees) := by
  intro state result next hreading hrun
  obtain ⟨_, rfl⟩ := Prod.mk.inj (sumSameToken_ok c hrun).2
  exact hreading

omit [DecidableEq Hash] in
theorem sumCrossToken_keeps (msg : Msg) (payments : List (Address × ℕ)) (totalObligations : ℕ) :
    Call.Keeps reading value (sumCrossToken c msg payments totalObligations) := by
  intro state result next hreading hrun
  obtain ⟨_, rfl⟩ := Prod.mk.inj (sumCrossToken_ok c hrun).2
  exact hreading

end Keeps

omit [DecidableEq Hash] in
theorem keeps_emit {event : Event Hash} {reading : Bool × ℕ × ℕ} :
    Call.Keeps a.standing reading (emit event : PayrollCall Hash χ PUnit) :=
  Allowances.keeps_modify fun _ => rfl

theorem consumeReference_keeps (msg : Msg) (referenceId : ByteArray) {reading : Bool × ℕ × ℕ} :
    Call.Keeps a.standing reading (consumeReference c msg referenceId) :=
  .bind .get fun _ => .bind (keeps_revertIf _ _) fun _ =>
    .bind (Allowances.keeps_modify fun _ => rfl) fun _ => .pure _

theorem payRecipients_keeps (hc : Standing c a) (msg : Msg) (referenceHash : Hash)
    (token : Address) (i : ℕ) (payments : List (Address × ℕ)) :
    Call.Keeps a.standing (true, 0, 0) (payRecipients c msg referenceHash token i payments) := by
  induction payments generalizing i with
  | nil => exact .pure ()
  | cons payment rest ih =>
      refine .bind (Allowances.keeps_acts (execute_guards hc) hc.safeTransfer) fun _ => ?_
      exact .bind keeps_emit fun _ => ih (i + 1)

theorem distributeSameToken_keeps (hc : Standing c a) (msg : Msg) (token : Address)
    (payments : List (Address × ℕ)) (totalFunding totalFees : ℕ) (referenceHash : Hash) :
    Call.Keeps a.standing (true, 0, 0)
      (distributeSameToken c msg token payments totalFunding totalFees referenceHash) := by
  refine .bind (keeps_view _) fun balanceBefore => ?_
  refine .bind (Allowances.keeps_acts (execute_guards hc) hc.safeTransferFrom) fun _ => ?_
  refine .bind (keeps_view _) fun balanceAfterFunding => ?_
  refine .bind (keeps_checked _ _) fun expectedBalance => ?_
  refine .bind (keeps_revertIf _ _) fun _ => ?_
  refine .bind (.when fun _ => Allowances.keeps_acts (execute_guards hc) hc.safeTransfer)
    fun _ => ?_
  refine .bind (payRecipients_keeps hc msg referenceHash token 0 payments) fun _ => ?_
  exact .bind (keeps_view _) fun balanceAfter => keeps_revertIf _ _

theorem settleCrossTokenOutputs_keeps (hc : Standing c a) (msg : Msg) (tokenOut : Address)
    (payments : List (Address × ℕ)) (totalObligations startOutputBal minTotalOut : ℕ)
    (referenceHash : Hash) :
    Call.Keeps a.standing (true, 0, 0) (settleCrossTokenOutputs c msg tokenOut payments
      totalObligations startOutputBal minTotalOut referenceHash) := by
  refine .bind (keeps_view _) fun outputBal => ?_
  refine .bind (keeps_checked _ _) fun amountOut => ?_
  refine .bind (keeps_revertIf _ _) fun _ => ?_
  refine .bind (keeps_revertIf _ _) fun _ => ?_
  refine .bind (payRecipients_keeps hc msg referenceHash tokenOut 0 payments) fun _ => ?_
  refine .bind (keeps_checked _ _) fun surplus => ?_
  refine .bind (.when fun _ => ?_) fun _ => ?_
  · exact .bind (Allowances.keeps_acts (execute_guards hc) hc.safeTransfer) fun _ => keeps_emit
  · exact .bind (keeps_view _) fun _ => .bind (keeps_revertIf _ _) fun _ => .pure _

/-! ## The legs of a cross-token payroll -/

theorem executeCrossUsdcInput_keeps (hc : Standing c a) (msg : Msg)
    (grossInput netAmountIn feeAmount minTotalOut minHopPriceX36 deadline : ℕ) :
    Call.Keeps a.standing (true, 0, 0) (executeCrossUsdcInput c msg grossInput netAmountIn
      feeAmount minTotalOut minHopPriceX36 deadline) := by
  refine .bind (keeps_checked _ _) fun expectedNative => ?_
  refine .bind (keeps_revertIf _ _) fun _ => ?_
  refine .bind (keeps_view _) fun nativeBal => ?_
  refine .bind (keeps_checked _ _) fun priorNativeBal => ?_
  refine .bind (.when fun _ => ?_) fun _ => ?_
  · exact .bind (keeps_checked _ _) fun _ =>
      Allowances.keeps_acts (execute_guards hc) hc.callValue
  · refine .bind (keeps_checked _ _) fun netNative => ?_
    refine .bind keeps_v4SwapInput fun input => ?_
    refine .bind (Allowances.keeps_acts (execute_guards hc) hc.execute) fun _ => ?_
    exact .bind (keeps_view _) fun endNativeBal => keeps_revertIf _ _

/-- The EURC leg grants both allowances, and takes them back after the router returned. -/
theorem executeCrossEurcInput_clears (hc : Standing c a) (msg : Msg)
    (grossInput netAmountIn feeAmount minTotalOut minHopPriceX36 deadline : ℕ)
    {state next : State Hash χ} {result : Unit} (hentered : state.entered = true)
    (hrun : (executeCrossEurcInput c msg c.EURC grossInput netAmountIn feeAmount minTotalOut
      minHopPriceX36 deadline).run state = .ok (result, next)) :
    a.standing next = (true, 0, 0) := by
  -- Up to the last two calls the guard is all that is known.
  have hsplit : executeCrossEurcInput c msg c.EURC grossInput netAmountIn feeAmount minTotalOut
      minHopPriceX36 deadline = (do
        revertIf (msg.value ≠ 0) (.nativeMsgValueMismatch msg.value 0)
        let startInputBal ← view fun chain => c.ext.balanceOf chain c.EURC c.self
        callExternal (c.ext.safeTransferFrom c.EURC msg.sender c.self grossInput)
        let afterFunding ← view fun chain => c.ext.balanceOf chain c.EURC c.self
        let expectedBalance ← checkedAdd startInputBal grossInput
        revertIf (afterFunding ≠ expectedBalance)
          (.residualInputBalance expectedBalance afterFunding)
        Call.when (feeAmount ≠ 0) do
          callExternal (c.ext.safeTransfer c.EURC c.feeRecipient feeAmount)
        callExternal (c.ext.forceApprove c.EURC c.permit2 netAmountIn)
        let expiry ← checkedAdd deadline 1
        let expiry ← safeCast 48 expiry
        let amount ← safeCast 160 netAmountIn
        callExternal (c.ext.permit2Approve c.EURC c.universalRouter amount expiry)
        let input ← buildV4SwapInput c c.EURC c.USDC netAmountIn minTotalOut minHopPriceX36 c.self
          true
        callExternal (c.ext.execute
          { value := 0, commands := [cmdV4Swap], inputs := [input], deadline }) :
        PayrollCall Hash χ Unit) >>= fun _ => (do
          callExternal (c.ext.forceApprove c.EURC c.permit2 0)
          callExternal (c.ext.permit2Approve c.EURC c.universalRouter 0 0) :
          PayrollCall Hash χ Unit) := by
    simp only [bind_assoc]
    rfl
  rw [hsplit] at hrun
  obtain ⟨_, middle, hgrant, hrevoke⟩ := Call.bind_ok.mp hrun
  refine Allowances.revoke_clear hc ?_ hrevoke
  have hkeeps := @Allowances.keeps_entered _ _ _ _ _ _ a _ _ (execute_guards hc)
  refine Call.Keeps.bind (keeps_revertIf _ _) (fun _ => ?_) state _ middle hentered hgrant
  refine .bind (keeps_view _) fun startInputBal => ?_
  refine .bind (hkeeps hc.safeTransferFrom) fun _ => ?_
  refine .bind (keeps_view _) fun afterFunding => ?_
  refine .bind (keeps_checked _ _) fun expectedBalance => ?_
  refine .bind (keeps_revertIf _ _) fun _ => ?_
  refine .bind (.when fun _ => hkeeps hc.safeTransfer) fun _ => ?_
  refine .bind (Allowances.keeps_forceApprove hc netAmountIn) fun _ => ?_
  refine .bind (keeps_checked _ _) fun expiry => ?_
  refine .bind (keeps_safeCast _ _) fun expiry => ?_
  refine .bind (keeps_safeCast _ _) fun amount => ?_
  refine .bind (Allowances.keeps_permit2Approve hc amount expiry) fun _ => ?_
  exact .bind keeps_v4SwapInput fun input => hkeeps hc.execute

theorem swapAndSettle_keeps (hc : Standing c a) (msg : Msg) (tokenIn tokenOut : Address)
    (htokens : ¬ (tokenIn = c.USDC ∧ tokenOut = c.EURC) → tokenIn = c.EURC)
    (payments : List (Address × ℕ))
    (grossInput netAmountIn feeAmount minTotalOut minHopPriceX36 deadline totalObligations : ℕ)
    (referenceHash : Hash) :
    Call.Keeps a.standing (true, 0, 0) (swapAndSettle c msg tokenIn tokenOut payments grossInput
      netAmountIn feeAmount minTotalOut minHopPriceX36 deadline totalObligations
      referenceHash) := by
  refine .bind (keeps_view _) fun startOutputBal => ?_
  split
  · refine .bind (executeCrossUsdcInput_keeps hc msg _ _ _ _ _ _) fun _ => ?_
    exact settleCrossTokenOutputs_keeps hc msg tokenOut payments _ _ _ referenceHash
  · next hleg =>
      obtain rfl := htokens hleg
      refine .bind (keeps_view _) fun startInputBal => ?_
      refine .bind (fun state result next hstanding hrun => ?_) fun _ => ?_
      · exact executeCrossEurcInput_clears hc msg _ _ _ _ _ _
          (Allowances.standing_eq.mp hstanding).1 hrun
      · refine .bind (settleCrossTokenOutputs_keeps hc msg tokenOut payments _ _ _ referenceHash)
          fun amountOut => ?_
        exact .bind (keeps_view _) fun _ => .bind (keeps_revertIf _ _) fun _ => .pure _

/-! ## Transactions -/

theorem executeSameTokenPayroll_settled (hc : Standing c a) (msg : Msg) (token : Address)
    (recipients : List Address) (amounts : List ℕ) (referenceId : ByteArray)
    {state next : State Hash χ} {value : ℕ} (hsettled : a.Settled state)
    (hrun : (executeSameTokenPayroll c msg token recipients amounts referenceId).run state =
      .ok (value, next)) : a.Settled next := by
  refine Allowances.entryPoint_settled hc ?_ hsettled hrun
  refine .bind (keeps_revertIf _ _) fun _ => ?_
  refine .bind (keeps_revertIf _ _) fun _ => ?_
  refine .bind (validateBatch_keeps _ _ _) fun _ => ?_
  refine .bind (consumeReference_keeps msg referenceId) fun referenceHash => ?_
  refine .bind (sumSameToken_keeps msg _ 0 0) fun totals => ?_
  refine .bind (keeps_checked _ _) fun totalFunding => ?_
  refine .bind (distributeSameToken_keeps hc msg token _ totalFunding _ referenceHash) fun _ => ?_
  exact .bind keeps_emit fun _ => .bind keeps_emit fun _ => .pure _

omit [DecidableEq Hash] in
theorem validateCrossTokenDetails_keeps {γ : Type} {reading : State Hash χ → γ} {value : γ}
    (msg : Msg) (recipients : List Address) (outputAmounts : List ℕ)
    (grossInput minTotalOut minHopPriceX36 deadline : ℕ) (referenceId : ByteArray) :
    Call.Keeps reading value (validateCrossTokenDetails c msg recipients outputAmounts grossInput
      minTotalOut minHopPriceX36 deadline referenceId) := by
  refine .bind (validateBatch_keeps _ _ _) fun _ => ?_
  refine .bind (keeps_revertIf _ _) fun _ => .bind (keeps_revertIf _ _) fun _ => ?_
  refine .bind (keeps_revertIf _ _) fun _ => .bind (keeps_revertIf _ _) fun _ => ?_
  refine .bind (keeps_revertIf _ _) fun _ => .bind (keeps_revertIf _ _) fun _ => ?_
  refine .bind (keeps_checked _ _) fun maximumDeadline => .bind (keeps_revertIf _ _) fun _ => ?_
  refine .bind (sumCrossToken_keeps msg _ 0) fun totalObligations => ?_
  exact .bind (keeps_revertIf _ _) fun _ => .pure _

theorem executeCrossTokenPayroll_settled (hc : Standing c a) (msg : Msg)
    (tokenIn tokenOut : Address) (recipients : List Address) (outputAmounts : List ℕ)
    (grossInput minTotalOut minHopPriceX36 deadline : ℕ) (referenceId : ByteArray)
    {state next : State Hash χ} {value : ℕ} (hsettled : a.Settled state)
    (hrun : (executeCrossTokenPayroll c msg tokenIn tokenOut recipients outputAmounts grossInput
      minTotalOut minHopPriceX36 deadline referenceId).run state = .ok (value, next)) :
    a.Settled next := by
  refine Allowances.entryPoint_settled hc ?_ hsettled hrun
  refine Allowances.keeps_check fun hpair => ?_
  have htokens : ¬ (tokenIn = c.USDC ∧ tokenOut = c.EURC) → tokenIn = c.EURC := by
    intro hleg
    by_contra hother
    exact hpair (by simp [hleg, hother])
  refine .bind (validateCrossTokenDetails_keeps msg _ _ _ _ _ _ _) fun totalObligations => ?_
  refine .bind (consumeReference_keeps msg referenceId) fun referenceHash => ?_
  refine .bind (fee_keeps grossInput) fun feeAmount => ?_
  refine .bind (keeps_checked _ _) fun netAmountIn => ?_
  refine .bind (swapAndSettle_keeps hc msg tokenIn tokenOut htokens _ _ _ _ _ _ _ _ referenceHash)
    fun amountOut => ?_
  exact .bind keeps_emit fun _ => .bind keeps_emit fun _ => .bind keeps_emit fun _ => .pure _

theorem nested_settled (hc : Standing c a) (call : Transaction) (hnested : call.isNested)
    (state : State Hash χ) (hsettled : a.Settled state) :
    a.Settled ((execute c call).commit state) := by
  cases call with
  | executeSameTokenPayroll msg token recipients amounts referenceId =>
      exact Allowances.commit_settled hsettled fun value next hrun =>
        executeSameTokenPayroll_settled hc msg token recipients amounts referenceId hsettled hrun
  | executeCrossTokenPayroll msg tokenIn tokenOut recipients outputAmounts grossInput minTotalOut
      minHopPriceX36 deadline referenceId =>
      exact Allowances.commit_settled hsettled fun value next hrun =>
        executeCrossTokenPayroll_settled hc msg tokenIn tokenOut recipients outputAmounts grossInput
          minTotalOut minHopPriceX36 deadline referenceId hsettled hrun
  | pause msg =>
      exact Allowances.settled_of_outlook hsettled (Allowances.pause_keeps.bind fun _ => .pure _)
  | unpause msg =>
      exact Allowances.settled_of_outlook hsettled (Allowances.unpause_keeps.bind fun _ => .pure _)
  | rescueTokens msg token target amount => exact hnested.elim
  | transferOwnership newOwner => exact hsettled
  | renounceOwnership => exact hsettled

/-- The rescued token runs unguarded, and may itself start whole payrolls. -/
theorem rescueTokens_settled (hc : Standing c a) (msg : Msg) (token target : Address) (amount : ℕ)
    {state next : State Hash χ} {value : Unit} (hsettled : a.Settled state)
    (hrun : (rescueTokens c msg token target amount).run state = .ok (value, next)) :
    a.Settled next := by
  unfold rescueTokens nonPayable onlyOwner at hrun
  obtain ⟨-, hrun⟩ := Call.bind_revertIf_ok.mp hrun
  obtain ⟨-, hrun⟩ := Call.bind_revertIf_ok.mp hrun
  obtain ⟨-, hrun⟩ := Call.bind_revertIf_ok.mp (Call.bind_get_ok.mp hrun)
  obtain ⟨-, hrun⟩ := bind_revertIf_ok.mp hrun
  obtain ⟨-, hrun⟩ := bind_revertIf_ok.mp hrun
  obtain ⟨-, hrun⟩ := bind_revertIf_ok.mp hrun
  obtain ⟨moved, hmoved, hrun⟩ := bind_callExternal_ok.mp hrun
  obtain ⟨_, rfl⟩ := Prod.mk.inj (emit_ok.mp hrun)
  exact (hc.safeTransfer hmoved).settled (nested_settled hc) hsettled

/-- Whoever calls the contract, it owes nothing when the call is over. -/
theorem execute_settled (hc : Standing c a) (call : Transaction) (state : State Hash χ)
    (hsettled : a.Settled state) : a.Settled ((execute c call).commit state) := by
  by_cases hnested : call.isNested
  · exact nested_settled hc call hnested state hsettled
  · cases call with
    | rescueTokens msg token target amount =>
        refine Allowances.commit_settled hsettled fun value next hrun => ?_
        obtain ⟨_, last, hrescue, hlast⟩ := Call.bind_ok.mp hrun
        obtain ⟨_, rfl⟩ := Prod.mk.inj (Call.pure_ok.mp hlast)
        exact rescueTokens_settled hc msg token target amount hsettled hrescue
    | _ => exact absurd trivial hnested

/-- At no moment between transactions does Permit2 or the router have an allowance. -/
theorem standing_settled (hc : Standing c a) {owner : Address} {chain : χ} (hfresh : a.Clear chain)
    {state : State Hash χ} (hreachable : a.Reachable (execute c) Transaction.isNested
      (deployedState owner chain) state) : a.Clear state.chain :=
  (hreachable.settled (execute_settled hc) ⟨rfl, hfresh⟩).2

end

end WizPay.PayrollMainnet
