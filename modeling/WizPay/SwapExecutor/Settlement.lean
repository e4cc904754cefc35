import WizPay.Evm.StandardTokens
import WizPay.SwapExecutor.Contract

/-!
# A swap settles against any router

Around one call of an arbitrary Universal Router the executor charges its
caller, pays the fee and forwards the rest, and checks what the caller and it
itself hold afterwards. What it does not check is native value forced on it
while it swaps EURC.
-/

namespace WizPay.SwapExecutor

open Foundation Evm

/-- The executor is deployed against standard tokens and this router. -/
def Executor.Standard (c : Executor Ledgers) (router : Router Unit Event) : Prop :=
  c.ext = standardExternals c.self c.universalRouter router

/-- The ledger of the input asset: native value when the caller pays in USDC. -/
def inputLedger (c : Executor Ledgers) (tokenIn : Address) (ledgers : Ledgers) : Ledger Address :=
  if tokenIn = c.USDC then ledgers.native else ledgers.balance tokenIn

def inputScale (c : Executor Ledgers) (tokenIn : Address) : ℕ :=
  if tokenIn = c.USDC then ARC_NATIVE_USDC_SCALE else 1

def feeOf (c : Executor Ledgers) (amountIn : ℕ) : ℕ := amountIn * c.feeBps / 10000

theorem feeOf_le (c : Executor Ledgers) (amountIn : ℕ) : feeOf c amountIn ≤ amountIn :=
  bpsFee_le (Nat.le_trans c.feeBps_le (by decide)) amountIn

theorem feeRecipient_ne_self (c : Executor Ledgers) : c.feeRecipient ≠ c.self := by
  rw [c.feeRecipient_eq]
  exact c.owner_ne_self

/-- A settled swap, in the states before the call, when the executor calls the
router, when the router returns, and after the call. -/
structure SwapSettlement (c : Executor Ledgers) (msg : Msg) (tokenIn tokenOut : Address)
    (amountIn minAmountOut amountOut : ℕ) (before handed received after : Ledgers) : Prop where
  delivered : after.balance tokenOut msg.sender = before.balance tokenOut msg.sender + amountOut
  sufficient : minAmountOut ≤ amountOut
  value : msg.value = if tokenIn = c.USDC then amountIn * ARC_NATIVE_USDC_SCALE else 0
  /-- The caller is charged the input, of which the fee goes to the fee
  recipient and the rest waits at the executor for the router. -/
  charged : (inputLedger c tokenIn before).Flow (inputLedger c tokenIn handed)
    (Pi.single msg.sender (amountIn * inputScale c tokenIn))
    (Pi.single c.feeRecipient (feeOf c amountIn * inputScale c tokenIn) +
      Pi.single c.self ((amountIn - feeOf c amountIn) * inputScale c tokenIn))
  /-- The router run consumes the rest and no more. -/
  consumed : msg.sender ≠ c.self → inputLedger c tokenIn handed c.self =
    inputLedger c tokenIn received c.self + (amountIn - feeOf c amountIn) * inputScale c tokenIn
  input_after : inputLedger c tokenIn after = inputLedger c tokenIn received
  executor_output : after.balance tokenOut c.self = before.balance tokenOut c.self
  executor_input : msg.sender ≠ c.self →
    inputLedger c tokenIn after c.self = inputLedger c tokenIn before c.self
  /-- Swapping EURC, the executor itself moves no native value. -/
  native : tokenIn ≠ c.USDC → handed.native = before.native ∧ after.native = received.native

section

variable {c : Executor Ledgers} {router : Router Unit Event} (hc : c.Standard router)
include hc

/-- The USDC leg: the fee leaves as native value, the router runs, and the
executor is left with what it held before `msg.value` arrived. -/
theorem executeUsdcSwap_flow {msg : Msg} {tokenIn tokenOut : Address}
    {amountIn netAmountIn feeAmount minAmountOut minHopPriceX36 deadline : ℕ}
    {state next : State Ledgers} {value : Unit}
    (hrun : (executeUsdcSwap c msg tokenIn tokenOut amountIn netAmountIn feeAmount minAmountOut
      minHopPriceX36 deadline).run state = .ok (value, next)) :
    ∃ request handed, c.ext.execute request handed = some next ∧
      msg.value = amountIn * ARC_NATIVE_USDC_SCALE ∧
      state.chain.NativeFlow handed.chain
        (Pi.single c.self (feeAmount * ARC_NATIVE_USDC_SCALE))
        (Pi.single c.feeRecipient (feeAmount * ARC_NATIVE_USDC_SCALE)) ∧
      next.chain.native c.self + msg.value = state.chain.native c.self := by
  simp only [executeUsdcSwap, checkedMul, checkedSub, bind_view_ok, bind_checked_ok,
    bind_revertIf_ok, nativeBalance_standard hc, not_not] at hrun
  obtain ⟨_, hvalue, hprior, hrun⟩ := hrun
  obtain ⟨_, charged, hcharged, hrun⟩ := Call.bind_ok.mp hrun
  simp only [bind_checked_ok] at hrun
  obtain ⟨_, hrun⟩ := hrun
  obtain ⟨input, built, hbuilt, hrun⟩ := Call.bind_ok.mp hrun
  rw [v4SwapInput_ok hbuilt] at hrun
  simp only [bind_callExternal_ok, bind_view_ok, revertIf_ok, not_not, Prod.mk.injEq,
    true_and] at hrun
  obtain ⟨received, hreceived, hresidual, rfl⟩ := hrun
  exact ⟨_, charged, hreceived, hvalue, sendUnlessZero_flow hc hcharged, by omega⟩

/-- The EURC leg: the input is pulled, the fee paid, the router runs on an exact
allowance, and the executor is left with what it held. -/
theorem executeEurcSwap_flow {msg : Msg} {tokenIn tokenOut : Address}
    {amountIn netAmountIn feeAmount minAmountOut minHopPriceX36 deadline : ℕ}
    {state next : State Ledgers} {value : Unit} (hbound : amountIn < uint256Bound)
    (hrun : (executeEurcSwap c msg tokenIn tokenOut amountIn netAmountIn feeAmount minAmountOut
      minHopPriceX36 deadline).run state = .ok (value, next)) :
    ∃ request handed received, c.ext.execute request handed = some received ∧ msg.value = 0 ∧
      state.chain.TokenFlow tokenIn handed.chain
        (Pi.single msg.sender amountIn + Pi.single c.self feeAmount)
        (Pi.single c.self amountIn + Pi.single c.feeRecipient feeAmount) ∧
      next.chain.balance = received.chain.balance ∧ next.chain.native = received.chain.native ∧
      next.chain.balance tokenIn c.self = state.chain.balance tokenIn c.self := by
  simp only [executeEurcSwap, checkedAdd, bind_view_ok, bind_revertIf_ok, bind_callExternal_ok,
    balanceOf_standard hc, not_not] at hrun
  obtain ⟨hvalue, funded, hfunded, hrun⟩ := hrun
  obtain ⟨_, charged, hcharged, hrun⟩ := Call.bind_ok.mp hrun
  simp only [bind_callExternal_ok, bind_checked_ok, bind_safeCast_ok] at hrun
  obtain ⟨approved, happroved, _, _, _, permitted, hpermitted, hrun⟩ := hrun
  obtain ⟨input, built, hbuilt, hrun⟩ := Call.bind_ok.mp hrun
  rw [v4SwapInput_ok hbuilt] at hrun
  simp only [bind_callExternal_ok, bind_view_ok, revertIf_ok, Prod.mk.injEq, true_and,
    not_not] at hrun
  obtain ⟨received, hreceived, revoked, hrevoked, cleared, hcleared, hresidual, rfl⟩ := hrun
  obtain ⟨hpull, _, _⟩ := safeTransferFrom_flow hc hbound hfunded
  have hhanded : permitted.chain.balance = charged.chain.balance ∧
      permitted.chain.native = charged.chain.native := by
    rw [permit2Approve_chain hc hpermitted, forceApprove_chain hc happroved]
    exact ⟨rfl, rfl⟩
  have hkept : cleared.chain.balance = received.chain.balance ∧
      cleared.chain.native = received.chain.native := by
    rw [permit2Approve_chain hc hcleared, forceApprove_chain hc hrevoked]
    exact ⟨rfl, rfl⟩
  have hflow := (hpull.trans (transferUnlessZero_flow hc hcharged)).trans
    (.of_eq hhanded.1 hhanded.2)
  rw [add_zero, add_zero] at hflow
  exact ⟨_, _, received, hreceived, hvalue, hflow, hkept.1, hkept.2, hresidual⟩

omit hc in
theorem validateSwap_ok {msg : Msg} {tokenIn tokenOut : Address}
    {amountIn minAmountOut minHopPriceX36 deadline : ℕ} {state next : State Ledgers} {value : Unit}
    (hrun : (validateSwap c msg tokenIn tokenOut amountIn minAmountOut minHopPriceX36 deadline).run
      state = .ok (value, next)) :
    ((tokenIn = c.USDC ∧ tokenOut = c.EURC) ∨ (tokenIn = c.EURC ∧ tokenOut = c.USDC)) ∧
      amountIn < uint256Bound ∧ next = state := by
  simp only [validateSwap, checkedAdd, bind_revertIf_ok, bind_checked_ok, revertIf_ok,
    Prod.mk.injEq, decide_eq_true_eq, not_not, true_and] at hrun
  obtain ⟨hpair, _, hbound, _, _, _, _, _, _, rfl⟩ := hrun
  refine ⟨hpair, ?_, rfl⟩
  have hsmall : uint128Bound ≤ uint256Bound := by decide
  have hpositive : 0 < uint128Bound := by decide
  omega

omit hc in
/-- What the rest of a settlement needs of the input asset: it was charged, and
the executor holds what it held. -/
theorem consumed_of_charged {caller : Address} {amountIn scale : ℕ}
    {before handed received : Ledger Address} (hcaller : caller ≠ c.self)
    (hcharged : before.Flow handed (Pi.single caller (amountIn * scale))
      (Pi.single c.feeRecipient (feeOf c amountIn * scale) +
        Pi.single c.self ((amountIn - feeOf c amountIn) * scale)))
    (hkept : received c.self = before c.self) :
    handed c.self = received c.self + (amountIn - feeOf c amountIn) * scale := by
  have hself := hcharged.apply c.self
  rw [Pi.add_apply, Pi.single_eq_of_ne hcaller.symm,
    Pi.single_eq_of_ne (feeRecipient_ne_self c).symm, Pi.single_eq_same] at hself
  omega

/-- A swap settles against any router, and fails without a trace. The executor
ends with the input and output balances it had; its native balance too when it
swaps USDC, and otherwise whatever the router left it with. -/
theorem executeSwap_settles (msg : Msg) (tokenIn tokenOut : Address)
    (amountIn minAmountOut minHopPriceX36 deadline : ℕ) (before : State Ledgers) :
    let call := executeSwap c msg tokenIn tokenOut amountIn minAmountOut minHopPriceX36 deadline
    (∀ amountOut after, call.run before = .ok (amountOut, after) →
      ∃ request handed received, c.ext.execute request handed = some received ∧
        SwapSettlement c msg tokenIn tokenOut amountIn minAmountOut amountOut before.chain
          handed.chain received.chain after.chain) ∧
    (call.succeeds before = false → call.commit before = before) := by
  intro call
  refine ⟨fun amountOut after hrun => ?_, Call.commit_of_not_succeeds⟩
  obtain ⟨funded, last, hfunded, _, hbody, rfl⟩ := entryPoint_ok hrun
  obtain ⟨_, checked, hchecked, hbody⟩ := Call.bind_ok.mp hbody
  obtain ⟨hpair, hbound, rfl⟩ := validateSwap_ok hchecked
  obtain ⟨_, _, hfee, hbody⟩ := Call.bind_ok.mp hbody
  obtain ⟨rfl, rfl⟩ := Prod.mk.inj (bpsFee_ok hfee)
  simp only [checkedSub, bind_checked_ok, bind_view_ok] at hbody
  obtain ⟨_, hbody⟩ := hbody
  obtain ⟨_, swapped, hswapped, hbody⟩ := Call.bind_ok.mp hbody
  simp only [bind_view_ok, bind_revertIf_ok, bind_checked_ok, bind_emit_ok, Call.pure_ok,
    Prod.mk.injEq, balanceOf_standard hc, not_not, Nat.not_lt] at hbody
  obtain ⟨houtput, hrose, hminimum, rfl, rfl⟩ := hbody
  have hvalue := receiveValue_flow hc hfunded
  rw [hvalue.balance] at houtput hrose hminimum
  have hdelivered : swapped.chain.balance tokenOut msg.sender =
      before.chain.balance tokenOut msg.sender + (swapped.chain.balance tokenOut msg.sender -
        before.chain.balance tokenOut msg.sender) := (Nat.add_sub_of_le hrose).symm
  simp only [hvalue.balance]
  by_cases husdc : tokenIn = c.USDC
  · rw [if_pos husdc] at hswapped
    obtain ⟨request, handed, hrouted, hgross, hfee, hresidual⟩ := executeUsdcSwap_flow hc hswapped
    have hinput : ∀ ledgers, inputLedger c tokenIn ledgers = ledgers.native :=
      fun _ => if_pos husdc
    have hscale : inputScale c tokenIn = ARC_NATIVE_USDC_SCALE := if_pos husdc
    have hcharged := (hvalue.trans hfee).flow
    rw [hgross] at hcharged
    have hcharged := hcharged.retain (feeOf_le c amountIn)
    have hkept : msg.sender ≠ c.self →
        swapped.chain.native c.self = before.chain.native c.self := by
      intro hcaller
      have hself := hvalue.flow.apply c.self
      rw [Pi.single_eq_of_ne hcaller.symm, Pi.single_eq_same] at hself
      have hresidual : swapped.chain.native c.self + msg.value = funded.chain.native c.self :=
        hresidual
      omega
    refine ⟨request, handed, swapped, hrouted, hdelivered, hminimum, ?_, ?_, ?_, rfl, houtput,
      ?_, fun hne => absurd husdc hne⟩
    · rw [if_pos husdc]
      exact hgross
    · rw [hinput, hinput, hscale]
      exact hcharged
    · intro hcaller
      rw [hinput, hinput, hscale]
      exact consumed_of_charged hcaller hcharged (hkept hcaller)
    · rw [hinput, hinput]
      exact hkept
  · rw [if_neg husdc] at hswapped
    have heurc : tokenIn = c.EURC ∧ tokenOut = c.USDC := hpair.resolve_left fun h => husdc h.1
    obtain ⟨request, handed, received, hrouted, hnone, hflow, hbalance, hnative, hresidual⟩ :=
      executeEurcSwap_flow hc hbound hswapped
    have hinput : ∀ ledgers, inputLedger c tokenIn ledgers = ledgers.balance tokenIn :=
      fun _ => if_neg husdc
    have hscale : inputScale c tokenIn = 1 := if_neg husdc
    have hcharged : (before.chain.balance tokenIn).Flow (handed.chain.balance tokenIn)
        (Pi.single msg.sender (amountIn * 1)) (Pi.single c.feeRecipient (feeOf c amountIn * 1) +
          Pi.single c.self ((amountIn - feeOf c amountIn) * 1)) := by
      rw [← hvalue.balance]
      apply Ledger.Flow.retain (feeOf_le c amountIn)
      simpa only [Nat.mul_one, feeOf] using hflow.flow
    have hkept : swapped.chain.balance tokenIn c.self = before.chain.balance tokenIn c.self := by
      rw [← hvalue.balance]
      exact hresidual
    have hquiet : funded.chain.native = before.chain.native := by
      rw [hnone] at hfunded
      exact congrArg Ledgers.native (receiveValue_zero hc hfunded)
    refine ⟨request, handed, received, hrouted, hdelivered, hminimum, ?_, ?_, ?_, ?_, houtput,
      ?_, fun _ => ⟨?_, hnative⟩⟩
    · rw [if_neg husdc]
      exact hnone
    · rw [hinput, hinput, hscale]
      exact hcharged
    · intro hcaller
      rw [hinput, hinput, hscale, ← hbalance]
      exact consumed_of_charged hcaller hcharged hkept
    · rw [hinput, hinput, hbalance]
    · intro _
      rw [hinput, hinput]
      exact hkept
    · exact hflow.native.trans hquiet

end

/-! ## A deployment -/

theorem exampleOwner_ne_self : (7 : Address) ≠ 200 := by decide

theorem exampleTokens_ne : (1 : Address) ≠ 2 := by decide

theorem exampleFeeRecipient_eq : (7 : Address) = 7 := rfl

theorem exampleFeeBps_le : 100 ≤ MAX_FEE_BPS := le_rfl

def exampleImmutables : Immutables where
  self := 200
  owner := 7
  USDC := 1
  EURC := 2
  universalRouter := 3
  permit2 := 4
  poolFee := ARC_MAINNET_POOL_FEE
  poolTickSpacing := ARC_MAINNET_POOL_TICK_SPACING
  feeRecipient := 7
  feeBps := 100
  feeRecipient_eq := exampleFeeRecipient_eq
  feeBps_le := exampleFeeBps_le
  owner_ne_self := exampleOwner_ne_self
  tokens_ne := exampleTokens_ne

def exampleExecutor (router : Router Unit Event) : Executor Ledgers where
  toImmutables := exampleImmutables
  ext := standardExternals exampleImmutables.self exampleImmutables.universalRouter router

/-- An unpaused executor; account 9 and the router hold some of each asset. -/
def exampleState : State Ledgers where
  storage := ()
  paused := false
  entered := false
  events := []
  chain := {
    native := Pi.single 9 (1000 * ARC_NATIVE_USDC_SCALE) + Pi.single 3 1
    balance := fun _ => Pi.single 9 1000 + Pi.single 3 1000
    allowance := fun _ _ _ => 1000
    permit2Allowance := fun _ _ _ => (0, 0) }

/-- A router that sells 900 EURC to account 9 for the value it was sent. -/
def sellingRouter : Router Unit Event := fun _ => onChain (Ledgers.moveToken 2 3 9 900)

/-- Account 9 swaps 1000 USDC. -/
theorem executeSwap_settles_usdc :
    ∃ amountOut after, (executeSwap (exampleExecutor sellingRouter)
        ⟨9, 1000 * ARC_NATIVE_USDC_SCALE, 0⟩ 1 2 1000 850 1 60).run exampleState =
          .ok (amountOut, after) ∧
      850 ≤ amountOut ∧ after.chain.balance 2 9 = 1000 + amountOut ∧
      after.chain.native 200 = 0 := by
  have hsucceeds : (executeSwap (exampleExecutor sellingRouter)
      ⟨9, 1000 * ARC_NATIVE_USDC_SCALE, 0⟩ 1 2 1000 850 1 60).succeeds exampleState = true := by
    decide +kernel
  obtain ⟨amountOut, after, hrun⟩ := Call.succeeds_iff.mp hsucceeds
  have hstandard : (exampleExecutor sellingRouter).Standard sellingRouter := rfl
  obtain ⟨_, _, _, _, hsettled⟩ := (executeSwap_settles hstandard
    ⟨9, 1000 * ARC_NATIVE_USDC_SCALE, 0⟩ 1 2 1000 850 1 60 exampleState).1 amountOut after hrun
  exact ⟨amountOut, after, hrun, hsettled.sufficient, hsettled.delivered,
    hsettled.executor_input (by decide)⟩

/-- A router that swaps EURC as asked, through the allowance it was given, and
forces a unit of its native value on the executor. -/
def forcingRouter : Router Unit Event := fun _ => onChain fun ledgers => do
  let pulled ← Ledgers.moveToken 2 200 3 990 ledgers
  let sold ← Ledgers.moveToken 1 3 9 900 pulled
  Ledgers.moveNative 3 200 1 sold

/-- Swapping EURC, the executor's native balance can rise. -/
theorem executeSwap_native_forced :
    let call := executeSwap (exampleExecutor forcingRouter) ⟨9, 0, 0⟩ 2 1 1000 850 1 60
    call.succeeds exampleState = true ∧
      (call.commit exampleState).chain.native 200 = exampleState.chain.native 200 + 1 := by
  decide +kernel

end WizPay.SwapExecutor
