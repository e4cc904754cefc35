import WizPay.PayrollMainnet.SameToken

/-!
# Cross-token payroll settles against any router

Around one call of an arbitrary Universal Router the contract charges the
employer, pays the fee, and distributes what the router delivered. Whatever the
router does, a successful execution leaves the contract as it was, every
recipient paid, and the surplus with the employer.
-/

namespace WizPay.PayrollMainnet

open Foundation Evm

variable {Hash : Type}

/-- The ledger of the input asset: native value when the employer pays in USDC. -/
def inputLedger (c : Contract Hash Ledgers) (tokenIn : Address) (ledgers : Ledgers) :
    Ledger Address :=
  if tokenIn = c.USDC then ledgers.native else ledgers.balance tokenIn

/-- Native USDC counts 18 decimals where the token counts 6. -/
def inputScale (c : Contract Hash Ledgers) (tokenIn : Address) : ℕ :=
  if tokenIn = c.USDC then ARC_NATIVE_USDC_SCALE else 1

/-- A settled cross-token execution, in the states before the call, when the
contract calls the router, when the router returns, and after the call. What
the router sent an account is the difference between the middle two. -/
structure CrossTokenSettlement (c : Contract Hash Ledgers) (employer tokenIn tokenOut : Address)
    (payments : List (Address × ℕ)) (grossInput minTotalOut amountOut : ℕ)
    (before handed received after : Ledgers) : Prop where
  /-- Until the router runs the output token does not move. -/
  handed_output : handed.balance tokenOut = before.balance tokenOut
  /-- The contract receives `amountOut` from the router. -/
  received_output :
    received.balance tokenOut c.self = before.balance tokenOut c.self + amountOut
  covered : Ledger.total payments ≤ minTotalOut
  sufficient : minTotalOut ≤ amountOut
  /-- Everyone gets what the batch owes on top of what the router sent. -/
  paid : ∀ account, account ≠ employer → account ≠ c.self →
    after.balance tokenOut account = received.balance tokenOut account +
      Ledger.owed payments account
  /-- The employer gets the surplus back. -/
  refunded : employer ≠ c.self → after.balance tokenOut employer =
    received.balance tokenOut employer + (amountOut - Ledger.total payments)
  /-- The employer is charged the gross input, of which the fee goes to the fee
  recipient and the rest waits at the contract for the router. -/
  charged : (inputLedger c tokenIn before).Flow (inputLedger c tokenIn handed)
    (Pi.single employer (grossInput * inputScale c tokenIn))
    (Pi.single c.feeRecipient (feeOf c grossInput * inputScale c tokenIn) +
      Pi.single c.self ((grossInput - feeOf c grossInput) * inputScale c tokenIn))
  /-- After the router nothing more moves in the input asset. -/
  input_after : inputLedger c tokenIn after = inputLedger c tokenIn received
  contract_output : after.balance tokenOut c.self = before.balance tokenOut c.self
  contract_input : employer ≠ c.self →
    inputLedger c tokenIn after c.self = inputLedger c tokenIn before c.self

section

variable {c : Contract Hash Ledgers} {router : Router (Hash → Bool) (Event Hash)}
  (hc : c.Standard router)
include hc

theorem settleCrossTokenOutputs_flow {msg : Msg} {tokenOut : Address}
    {payments : List (Address × ℕ)} {startOutputBal minTotalOut : ℕ} {referenceHash : Hash}
    {state next : State Hash Ledgers} {amountOut : ℕ}
    (hrun : (settleCrossTokenOutputs c msg tokenOut payments (Ledger.total payments)
      startOutputBal minTotalOut referenceHash).run state = .ok (amountOut, next)) :
    state.chain.balance tokenOut c.self = startOutputBal + amountOut ∧
      Ledger.total payments ≤ amountOut ∧ minTotalOut ≤ amountOut ∧
      state.chain.TokenFlow tokenOut next.chain
        (Pi.single c.self (Ledger.total payments) +
          Pi.single c.self (amountOut - Ledger.total payments))
        (Ledger.owed payments + Pi.single msg.sender (amountOut - Ledger.total payments)) ∧
      next.chain.balance tokenOut c.self = startOutputBal := by
  simp only [settleCrossTokenOutputs, checkedSub, bind_view_ok, bind_checked_ok, bind_revertIf_ok,
    balanceOf_standard hc, Nat.not_lt] at hrun
  obtain ⟨hstart, hobligations, hminimum, hrun⟩ := hrun
  obtain ⟨_, paid, hpaid, hrun⟩ := Call.bind_ok.mp hrun
  simp only [bind_checked_ok] at hrun
  obtain ⟨_, hrun⟩ := hrun
  obtain ⟨_, refunded, hrefunded, hrun⟩ := Call.bind_ok.mp hrun
  simp only [bind_view_ok, bind_revertIf_ok, Call.pure_ok, Prod.mk.injEq, not_not] at hrun
  obtain ⟨hresidual, rfl, rfl⟩ := hrun
  have hrefund : paid.chain.TokenFlow tokenOut refunded.chain
      (Pi.single c.self (state.chain.balance tokenOut c.self - startOutputBal -
        Ledger.total payments))
      (Pi.single msg.sender (state.chain.balance tokenOut c.self - startOutputBal -
        Ledger.total payments)) := by
    rcases Call.when_ok.mp hrefunded with ⟨_, hrefund⟩ | ⟨hnone, hstate⟩
    · simp only [bind_callExternal_ok, emit_ok, Prod.mk.injEq, true_and] at hrefund
      obtain ⟨sent, hsent, rfl⟩ := hrefund
      have hflow := safeTransfer_flow hc hsent
      exact ⟨hflow.flow, hflow.others, hflow.native⟩
    · obtain ⟨_, rfl⟩ := Prod.mk.inj hstate
      rw [not_not.mp hnone, Pi.single_zero, Pi.single_zero]
      exact .of_eq rfl rfl
  exact ⟨by omega, hobligations, hminimum, (payRecipients_flow hc hpaid).trans hrefund, hresidual⟩

/-- The USDC leg: the fee leaves as native value, the router runs, and the
contract is left with what it held before `msg.value` arrived. -/
theorem executeCrossUsdcInput_flow {msg : Msg}
    {grossInput netAmountIn feeAmount minTotalOut minHopPriceX36 deadline : ℕ}
    {state next : State Hash Ledgers} {value : Unit}
    (hrun : (executeCrossUsdcInput c msg grossInput netAmountIn feeAmount minTotalOut
      minHopPriceX36 deadline).run state = .ok (value, next)) :
    ∃ request handed, c.ext.execute request handed = some next ∧
      msg.value = grossInput * ARC_NATIVE_USDC_SCALE ∧
      state.chain.NativeFlow handed.chain
        (Pi.single c.self (feeAmount * ARC_NATIVE_USDC_SCALE))
        (Pi.single c.feeRecipient (feeAmount * ARC_NATIVE_USDC_SCALE)) ∧
      next.chain.native c.self + msg.value = state.chain.native c.self := by
  simp only [executeCrossUsdcInput, checkedMul, checkedSub, bind_view_ok, bind_checked_ok,
    bind_revertIf_ok, nativeBalance_standard hc, not_not] at hrun
  obtain ⟨_, hvalue, hprior, hrun⟩ := hrun
  obtain ⟨_, charged, hcharged, hrun⟩ := Call.bind_ok.mp hrun
  simp only [bind_checked_ok] at hrun
  obtain ⟨_, hrun⟩ := hrun
  obtain ⟨input, built, hbuilt, hrun⟩ := Call.bind_ok.mp hrun
  rw [v4SwapInput_ok hbuilt] at hrun
  simp only [bind_callExternal_ok, bind_view_ok, revertIf_ok, not_not, Prod.mk.injEq,
    true_and] at hrun
  obtain ⟨received, hreceived, hresidual, rfl⟩ := hrun
  exact ⟨_, charged, hreceived, hvalue, sendUnlessZero_flow hc hcharged, by omega⟩

/-- The EURC leg: the gross input is pulled, the fee paid, and the router runs
on an exact allowance; revoking it moves nothing. -/
theorem executeCrossEurcInput_flow {msg : Msg} {tokenIn : Address}
    {grossInput netAmountIn feeAmount minTotalOut minHopPriceX36 deadline : ℕ}
    {state next : State Hash Ledgers} {value : Unit} (hbound : grossInput < uint256Bound)
    (hrun : (executeCrossEurcInput c msg tokenIn grossInput netAmountIn feeAmount minTotalOut
      minHopPriceX36 deadline).run state = .ok (value, next)) :
    ∃ request handed received, c.ext.execute request handed = some received ∧ msg.value = 0 ∧
      state.chain.TokenFlow tokenIn handed.chain
        (Pi.single msg.sender grossInput + Pi.single c.self feeAmount)
        (Pi.single c.self grossInput + Pi.single c.feeRecipient feeAmount) ∧
      next.chain.balance = received.chain.balance := by
  simp only [executeCrossEurcInput, checkedAdd, bind_view_ok, bind_checked_ok, bind_revertIf_ok,
    bind_callExternal_ok, not_not] at hrun
  obtain ⟨hvalue, funded, hfunded, _, _, hrun⟩ := hrun
  obtain ⟨_, charged, hcharged, hrun⟩ := Call.bind_ok.mp hrun
  have hfee := transferUnlessZero_flow hc hcharged
  simp only [bind_callExternal_ok, bind_checked_ok, bind_safeCast_ok] at hrun
  obtain ⟨approved, happroved, _, _, _, permitted, hpermitted, hrun⟩ := hrun
  obtain ⟨input, built, hbuilt, hrun⟩ := Call.bind_ok.mp hrun
  rw [v4SwapInput_ok hbuilt] at hrun
  simp only [bind_callExternal_ok, callExternal_ok, Prod.mk.injEq, true_and,
    exists_eq_right] at hrun
  obtain ⟨received, hreceived, revoked, hrevoked, hcleared⟩ := hrun
  obtain ⟨hpull, _, _⟩ := safeTransferFrom_flow hc hbound hfunded
  have hhanded : permitted.chain.balance = charged.chain.balance ∧
      permitted.chain.native = charged.chain.native := by
    rw [permit2Approve_chain hc hpermitted, forceApprove_chain hc happroved]
    exact ⟨rfl, rfl⟩
  have hkept : next.chain.balance = received.chain.balance := by
    rw [permit2Approve_chain hc hcleared, forceApprove_chain hc hrevoked]
    rfl
  have hflow := (hpull.trans hfee).trans (.of_eq hhanded.1 hhanded.2)
  rw [add_zero, add_zero] at hflow
  exact ⟨_, _, received, hreceived, hvalue, hflow, hkept⟩

omit hc in
/-- The output side of a settlement, from the flow that follows the router. -/
theorem settled_output {employer : Address} {payments : List (Address × ℕ)} {amountOut : ℕ}
    {received after : Ledger Address} (hemployer : ∀ payment ∈ payments, payment.1 ≠ employer)
    (hflow : received.Flow after
      (Pi.single c.self (Ledger.total payments) +
        Pi.single c.self (amountOut - Ledger.total payments))
      (Ledger.owed payments + Pi.single employer (amountOut - Ledger.total payments))) :
    (∀ account, account ≠ employer → account ≠ c.self →
      after account = received account + Ledger.owed payments account) ∧
    (employer ≠ c.self →
      after employer = received employer + (amountOut - Ledger.total payments)) := by
  constructor
  · intro account hnotEmployer hnotSelf
    simpa [hnotEmployer, hnotSelf] using hflow.apply account
  · intro hnotSelf
    simpa [hnotSelf, Ledger.owed_of_not_mem hemployer] using hflow.apply employer

/-- Settlement of the USDC leg, from the state the value has reached. -/
theorem swapAndSettle_usdc {msg : Msg} {payments : List (Address × ℕ)}
    {grossInput minTotalOut minHopPriceX36 deadline : ℕ} {referenceHash : Hash}
    {before : Ledgers} {state next : State Hash Ledgers} {amountOut : ℕ}
    (hrun : (swapAndSettle c msg c.USDC c.EURC payments grossInput
      (grossInput - feeOf c grossInput) (feeOf c grossInput) minTotalOut minHopPriceX36 deadline
      (Ledger.total payments) referenceHash).run state = .ok (amountOut, next))
    (hpayments : ∀ payment ∈ payments, payment.1 ≠ msg.sender)
    (hcovered : Ledger.total payments ≤ minTotalOut)
    (hvalue : before.NativeFlow state.chain (Pi.single msg.sender msg.value)
      (Pi.single c.self msg.value)) :
    ∃ request handed received, c.ext.execute request handed = some received ∧
      CrossTokenSettlement c msg.sender c.USDC c.EURC payments grossInput minTotalOut amountOut
        before handed.chain received.chain next.chain := by
  simp only [swapAndSettle, bind_view_ok, and_self, ↓reduceIte] at hrun
  obtain ⟨_, received, hswapped, hsettled⟩ := Call.bind_ok.mp hrun
  obtain ⟨request, handed, hrouted, hgross, hfee, hresidual⟩ :=
    executeCrossUsdcInput_flow hc hswapped
  obtain ⟨hreceived, _, hminimum, hflow, hend⟩ := settleCrossTokenOutputs_flow hc hsettled
  obtain ⟨hpaid, hrefunded⟩ := settled_output hpayments hflow.flow
  have hinput : ∀ ledgers, inputLedger c c.USDC ledgers = ledgers.native := fun _ => if_pos rfl
  have hscale : inputScale c c.USDC = ARC_NATIVE_USDC_SCALE := if_pos rfl
  have hstart : state.chain.balance = before.balance := hvalue.balance
  rw [balanceOf_standard hc, hstart] at hreceived hend
  refine ⟨request, handed, received, hrouted, ?_⟩
  refine ⟨?_, hreceived, hcovered, hminimum, hpaid, hrefunded, ?_, ?_, hend, ?_⟩
  · rw [hfee.balance, hstart]
  · rw [hinput, hinput, hscale]
    rw [hgross] at hvalue
    exact .retain (feeOf_le c grossInput) (hvalue.trans hfee).flow
  · rw [hinput, hinput, hflow.native]
  · intro hemployer
    have hself := hvalue.flow.apply c.self
    rw [Pi.single_eq_of_ne hemployer.symm, Pi.single_eq_same] at hself
    rw [hinput, hinput, hflow.native]
    omega

/-- Settlement of the EURC leg. -/
theorem swapAndSettle_eurc {msg : Msg} {payments : List (Address × ℕ)}
    {grossInput minTotalOut minHopPriceX36 deadline : ℕ} {referenceHash : Hash}
    {before : Ledgers} {state next : State Hash Ledgers} {amountOut : ℕ}
    (hrun : (swapAndSettle c msg c.EURC c.USDC payments grossInput
      (grossInput - feeOf c grossInput) (feeOf c grossInput) minTotalOut minHopPriceX36 deadline
      (Ledger.total payments) referenceHash).run state = .ok (amountOut, next))
    (hpayments : ∀ payment ∈ payments, payment.1 ≠ msg.sender)
    (hcovered : Ledger.total payments ≤ minTotalOut) (hbound : grossInput < uint256Bound)
    (hvalue : before.NativeFlow state.chain (Pi.single msg.sender msg.value)
      (Pi.single c.self msg.value)) :
    ∃ request handed received, c.ext.execute request handed = some received ∧
      CrossTokenSettlement c msg.sender c.EURC c.USDC payments grossInput minTotalOut amountOut
        before handed.chain received.chain next.chain := by
  have hne : c.EURC ≠ c.USDC := c.tokens_ne.symm
  simp only [swapAndSettle, bind_view_ok, hne, false_and, ↓reduceIte] at hrun
  obtain ⟨_, swapped, hswapped, hrun⟩ := Call.bind_ok.mp hrun
  obtain ⟨_, settled, hsettled, hrun⟩ := Call.bind_ok.mp hrun
  simp only [bind_view_ok, bind_revertIf_ok, Call.pure_ok, Prod.mk.injEq, not_not] at hrun
  obtain ⟨hfinal, rfl, rfl⟩ := hrun
  obtain ⟨request, handed, received, hrouted, _, hflowIn, hkept⟩ :=
    executeCrossEurcInput_flow hc hbound hswapped
  obtain ⟨hreceived, _, hminimum, hflow, hend⟩ := settleCrossTokenOutputs_flow hc hsettled
  have hinput : ∀ ledgers, inputLedger c c.EURC ledgers = ledgers.balance c.EURC :=
    fun _ => if_neg hne
  have hscale : inputScale c c.EURC = 1 := if_neg hne
  have hstart : state.chain.balance = before.balance := hvalue.balance
  rw [balanceOf_standard hc, hstart] at hreceived hend
  rw [balanceOf_standard hc, balanceOf_standard hc, hstart] at hfinal
  have hsettledFlow := hflow.flow
  rw [hkept] at hreceived hsettledFlow
  obtain ⟨hpaid, hrefunded⟩ := settled_output hpayments hsettledFlow
  refine ⟨request, handed, received, hrouted, ?_⟩
  refine ⟨?_, hreceived, hcovered, hminimum, hpaid, hrefunded, ?_, ?_, hend, ?_⟩
  · rw [hflowIn.others c.USDC c.tokens_ne, hstart]
  · rw [hinput, hinput, hscale, ← hstart]
    apply Ledger.Flow.retain (feeOf_le c grossInput)
    simpa only [Nat.mul_one] using hflowIn.flow
  · rw [hinput, hinput, hflow.others c.EURC hne, hkept]
  · intro _
    rw [hinput, hinput]
    exact hfinal

variable [DecidableEq Hash]

/-- Against any router, a successful cross-token execution is settled: the
recipients are paid, the surplus is refunded, the fee recipient has the exact
fee, the employer is charged the gross input, and the contract keeps nothing. -/
theorem executeCrossTokenPayroll_settles {msg : Msg} {tokenIn tokenOut : Address}
    {recipients : List Address} {outputAmounts : List ℕ}
    {grossInput minTotalOut minHopPriceX36 deadline : ℕ} {referenceId : ByteArray}
    {before after : State Hash Ledgers} {amountOut : ℕ}
    (hrun : (executeCrossTokenPayroll c msg tokenIn tokenOut recipients outputAmounts grossInput
      minTotalOut minHopPriceX36 deadline referenceId).run before = .ok (amountOut, after)) :
    Ledger.total (recipients.zip outputAmounts) = outputAmounts.sum ∧
      ∃ request handed received, c.ext.execute request handed = some received ∧
        CrossTokenSettlement c msg.sender tokenIn tokenOut (recipients.zip outputAmounts)
          grossInput minTotalOut amountOut before.chain handed.chain received.chain
          after.chain := by
  obtain ⟨funded, last, hfunded, _, hbody, rfl⟩ := entryPoint_ok hrun
  simp only [bind_revertIf_ok] at hbody
  obtain ⟨hpair, hbody⟩ := hbody
  obtain ⟨_, _, hdetails, hbody⟩ := Call.bind_ok.mp hbody
  obtain ⟨_, consumed, hconsumed, hbody⟩ := Call.bind_ok.mp hbody
  obtain ⟨_, _, hfee, hbody⟩ := Call.bind_ok.mp hbody
  simp only [checkedSub, bind_checked_ok] at hbody
  obtain ⟨_, hbody⟩ := hbody
  obtain ⟨_, settled, hsettled, hbody⟩ := Call.bind_ok.mp hbody
  simp only [bind_emit_ok, Call.pure_ok, Prod.mk.injEq] at hbody
  obtain ⟨rfl, rfl⟩ := hbody
  obtain ⟨hchecked, hdetails⟩ := validateCrossTokenDetails_ok c hdetails
  obtain ⟨rfl, rfl⟩ := Prod.mk.inj hdetails
  obtain ⟨rfl, _, rfl⟩ := consumeReference_ok hconsumed
  obtain ⟨rfl, rfl⟩ := Prod.mk.inj (fee_ok c hfee)
  have hvalue : before.chain.NativeFlow funded.chain (Pi.single msg.sender msg.value)
      (Pi.single c.self msg.value) :=
    receiveValue_flow hc hfunded
  have hpayments : ∀ payment ∈ recipients.zip outputAmounts, payment.1 ≠ msg.sender :=
    fun payment hpayment => (hchecked.payments payment hpayment).1.ne_employer
  have hbound : grossInput < uint256Bound := hchecked.grossInput_lt.trans (by decide)
  refine ⟨Ledger.total_zip hchecked.batch.lengths, ?_⟩
  by_cases husdc : tokenIn = c.USDC ∧ tokenOut = c.EURC
  · obtain ⟨rfl, rfl⟩ := husdc
    have hsettlement := swapAndSettle_usdc hc hsettled hpayments hchecked.covered hvalue
    exact hsettlement
  · have heurc : tokenIn = c.EURC ∧ tokenOut = c.USDC := by simpa [husdc] using hpair
    obtain ⟨rfl, rfl⟩ := heurc
    have hsettlement := swapAndSettle_eurc hc hsettled hpayments hchecked.covered hbound hvalue
    exact hsettlement

end

/-- A router that turns any input into 1000 EURC for the contract. -/
def exampleRouter : Router (ExampleHash → Bool) (Event ExampleHash) := fun _ state =>
  some { state with
    chain := { state.chain with
      balance := Function.update state.chain.balance 2 ((state.chain.balance 2).credit 100 1000) } }

/-- Account 9 swaps 1000 USDC to pay account 20 twice and the fee recipient once. -/
theorem executeCrossTokenPayroll_settles_usdc :
    ∃ amountOut after, (executeCrossTokenPayroll (exampleContract exampleRouter)
        ⟨9, 1000 * ARC_NATIVE_USDC_SCALE, 0⟩ 1 2 [20, 7, 20] [100, 200, 300] 1000 700 1 60
        exampleReference).run exampleState = .ok (amountOut, after) ∧
      700 ≤ amountOut ∧ after.chain.balance 2 100 = 0 ∧ after.chain.native 100 = 0 := by
  have hsucceeds : (executeCrossTokenPayroll (exampleContract exampleRouter)
      ⟨9, 1000 * ARC_NATIVE_USDC_SCALE, 0⟩ 1 2 [20, 7, 20] [100, 200, 300] 1000 700 1 60
      exampleReference).succeeds exampleState = true := by decide +kernel
  obtain ⟨amountOut, after, hrun⟩ := Call.succeeds_iff.mp hsucceeds
  have hstandard : (exampleContract exampleRouter).Standard exampleRouter := rfl
  obtain ⟨_, _, _, _, _, hsettled⟩ := executeCrossTokenPayroll_settles hstandard hrun
  exact ⟨amountOut, after, hrun, hsettled.sufficient, hsettled.contract_output,
    hsettled.contract_input (by decide)⟩

end WizPay.PayrollMainnet
