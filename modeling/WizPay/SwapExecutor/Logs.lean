import WizPay.Evm.Movements
import WizPay.SwapExecutor.Contract

/-!
# The logs of a swap

Every token reports its transfers in logs, and the chain those of native value. Of what a
swap moves, the executor pulls the input from its caller once and nobody else sends the
executor anything of the caller's; the output reaches the caller in transfers that the
output token reports.
-/

namespace WizPay.SwapExecutor

open Foundation Evm

/-! ## What the outside reports -/

variable {χ : Type} (c : Executor χ) (native : Address) (movements : χ → List Movement)
  (wallet : Address)

/-- A call outside reports these transfers and leaves the executor's own events alone; what
the wallet gains of a token is reported. -/
structure Reports (token : Address) (before after : State χ) (new : List Movement) : Prop where
  events : after.events = before.events
  movements : movements after.chain = movements before.chain ++ new
  gained : c.ext.balanceOf after.chain token wallet ≤
    c.ext.balanceOf before.chain token wallet + received token wallet new
  /-- A reported amount is one word; the executor itself reports no transfer. -/
  wellFormed : ∀ movement ∈ new, movement.amount < uint256Bound ∧ movement.emitter ≠ c.self

/-- What is documented of the accounts that the executor calls: EURC and USDC report their
transfers, the chain at `native` those of native value; approvals move nothing, and the
router moves nothing from the wallet to the executor. Moving native value changes nobody's
EURC. -/
structure Logged : Prop where
  balanceOf : ∀ chain token account, c.ext.balanceOf chain token account < uint256Bound
  receiveValue : ∀ (token : Address) {value before after},
    c.ext.receiveValue wallet value before = some after →
      (value = 0 ∨ token = c.EURC) →
      Reports c movements wallet token before after (nativeMovement native wallet c.self value)
  safeTransferFrom : ∀ {amount before after token},
    c.ext.safeTransferFrom c.EURC wallet c.self amount before = some after →
      Reports c movements wallet token before after [⟨c.EURC, wallet, c.self, amount⟩]
  safeTransfer : ∀ {target amount before after token},
    c.ext.safeTransfer c.EURC target amount before = some after →
      Reports c movements wallet token before after [⟨c.EURC, c.self, target, amount⟩]
  forceApprove : ∀ {spender amount before after token},
    c.ext.forceApprove c.EURC spender amount before = some after →
      Reports c movements wallet token before after []
  permit2Approve : ∀ {spender amount expiration before after token},
    c.ext.permit2Approve c.EURC spender amount expiration before = some after →
      Reports c movements wallet token before after []
  callValue : ∀ {target value before after},
    c.ext.callValue target value before = some after →
      Reports c movements wallet c.EURC before after (nativeMovement native c.self target value)
  execute : ∀ (token : Address) {request before after},
    c.ext.execute request before = some after → (request.value = 0 ∨ token = c.EURC) →
      ∃ new, Reports c movements wallet token before after
          (nativeMovement native c.self c.universalRouter request.value ++ new) ∧
        ∀ movement ∈ new, ¬ (movement.source = wallet ∧ movement.target = c.self)

variable {c native movements wallet}

theorem Reports.trans {token : Address} {first second third : State χ}
    {new new' : List Movement} (hfirst : Reports c movements wallet token first second new)
    (hsecond : Reports c movements wallet token second third new') :
    Reports c movements wallet token first third (new ++ new') where
  events := hsecond.events.trans hfirst.events
  movements := by rw [hsecond.movements, hfirst.movements, List.append_assoc]
  gained := by
    have hgained := hfirst.gained
    have hgained' := hsecond.gained
    rw [received_append]
    omega
  wellFormed := fun movement hmem =>
    (List.mem_append.mp hmem).elim (hfirst.wellFormed movement) (hsecond.wellFormed movement)

theorem Reports.refl {token : Address} (state : State χ) :
    Reports c movements wallet token state state [] where
  events := rfl
  movements := (List.append_nil _).symm
  gained := Nat.le_add_right _ _
  wellFormed := fun _ hmem => absurd hmem List.not_mem_nil

/-! ## What a swap reports -/

section Swap

variable (hlogged : Logged c native movements wallet)
include hlogged

/-- After the value has arrived, the USDC leg sends native value away only. -/
theorem executeUsdcSwap_reports {msg : Msg} (hself : wallet ≠ c.self)
    {tokenIn tokenOut : Address}
    {amountIn netAmountIn feeAmount minAmountOut minHopPriceX36 deadline : ℕ}
    {state next : State χ} {value : Unit}
    (hrun : (executeUsdcSwap c msg tokenIn tokenOut amountIn netAmountIn feeAmount minAmountOut
      minHopPriceX36 deadline).run state = .ok (value, next)) :
    msg.value = amountIn * ARC_NATIVE_USDC_SCALE ∧
      ∃ new, Reports c movements wallet c.EURC state next new ∧
        moved native wallet c.self new = 0 := by
  simp only [executeUsdcSwap, checkedMul, checkedSub, bind_view_ok, bind_checked_ok,
    bind_revertIf_ok, not_not] at hrun
  obtain ⟨_, hvalue, _, hrun⟩ := hrun
  obtain ⟨_, charged, hcharged, hrun⟩ := Call.bind_ok.mp hrun
  simp only [bind_checked_ok] at hrun
  obtain ⟨_, hrun⟩ := hrun
  obtain ⟨input, built, hbuilt, hrun⟩ := Call.bind_ok.mp hrun
  rw [v4SwapInput_ok hbuilt] at hrun
  simp only [bind_callExternal_ok, bind_view_ok, revertIf_ok, not_not, Prod.mk.injEq,
    true_and] at hrun
  obtain ⟨routed, hrouted, _, rfl⟩ := hrun
  -- the fee first, if there is one
  have hfee : ∃ new, Reports c movements wallet c.EURC state charged new ∧
      moved native wallet c.self new = 0 := by
    unfold Call.when at hcharged
    split at hcharged
    · simp only [bind_checked_ok, Call.external_ok, Prod.mk.injEq, true_and] at hcharged
      obtain ⟨_, paid, hpaid, rfl⟩ := hcharged
      exact ⟨_, hlogged.callValue hpaid, moved_nativeMovement_of_ne fun h => hself h.1.symm⟩
    · obtain ⟨-, rfl⟩ := Prod.mk.inj (Call.pure_ok.mp hcharged)
      exact ⟨[], .refl state, rfl⟩
  obtain ⟨paid, hpaid, hnothing⟩ := hfee
  obtain ⟨new, hnew, hothers⟩ := hlogged.execute c.EURC hrouted (.inr rfl)
  refine ⟨hvalue, _, hpaid.trans hnew, ?_⟩
  rw [moved_append, moved_append, hnothing, moved_eq_zero hothers,
    moved_nativeMovement_of_ne fun h => hself h.1.symm]

/-- The EURC leg pulls the input once. -/
theorem executeEurcSwap_reports (token : Address) {msg : Msg} (hwallet : msg.sender = wallet)
    (hself : wallet ≠ c.self) {tokenOut : Address}
    {amountIn netAmountIn feeAmount minAmountOut minHopPriceX36 deadline : ℕ}
    {state next : State χ} {value : Unit}
    (hrun : (executeEurcSwap c msg c.EURC tokenOut amountIn netAmountIn feeAmount minAmountOut
      minHopPriceX36 deadline).run state = .ok (value, next)) :
    msg.value = 0 ∧
      ∃ new, Reports c movements wallet token state next new ∧
        moved c.EURC wallet c.self new = amountIn := by
  subst hwallet
  simp only [executeEurcSwap, checkedAdd, bind_view_ok, bind_revertIf_ok, bind_callExternal_ok,
    not_not] at hrun
  obtain ⟨hvalue, funded, hfunded, hrun⟩ := hrun
  obtain ⟨_, charged, hcharged, hrun⟩ := Call.bind_ok.mp hrun
  simp only [bind_callExternal_ok, bind_checked_ok, bind_safeCast_ok] at hrun
  obtain ⟨approved, happroved, _, _, _, permitted, hpermitted, hrun⟩ := hrun
  obtain ⟨input, built, hbuilt, hrun⟩ := Call.bind_ok.mp hrun
  rw [v4SwapInput_ok hbuilt] at hrun
  simp only [bind_callExternal_ok, bind_view_ok, revertIf_ok, Prod.mk.injEq, true_and,
    not_not] at hrun
  obtain ⟨routed, hrouted, revoked, hrevoked, cleared, hcleared, _, rfl⟩ := hrun
  have hfee : ∃ new, Reports c movements msg.sender token funded charged new ∧
      moved c.EURC msg.sender c.self new = 0 := by
    unfold Call.when at hcharged
    split at hcharged
    · obtain ⟨paid, hpaid, hsame⟩ := callExternal_ok.mp hcharged
      obtain ⟨-, rfl⟩ := Prod.mk.inj hsame
      refine ⟨_, hlogged.safeTransfer hpaid, moved_eq_zero ?_⟩
      intro movement hmem
      rw [List.mem_singleton.mp hmem]
      exact fun h => hself h.1.symm
    · obtain ⟨-, rfl⟩ := Prod.mk.inj (Call.pure_ok.mp hcharged)
      exact ⟨[], .refl _, rfl⟩
  obtain ⟨paid, hpaid, hnothing⟩ := hfee
  obtain ⟨new, hnew, hothers⟩ := hlogged.execute token hrouted (.inl rfl)
  have hall := (((((hlogged.safeTransferFrom hfunded).trans hpaid).trans
    (hlogged.forceApprove happroved)).trans (hlogged.permit2Approve hpermitted)).trans hnew).trans
      ((hlogged.forceApprove hrevoked).trans (hlogged.permit2Approve hcleared))
  refine ⟨hvalue, _, hall, ?_⟩
  have hnone : moved c.EURC msg.sender c.self [] = 0 := rfl
  simp only [moved_append, moved_self, hnothing, hnone, moved_eq_zero hothers,
    moved_nativeMovement_of_ne (fun h => hself h.1.symm : ¬ (c.self = msg.sender ∧ _)),
    Nat.add_zero]

omit hlogged in
/-- The event of a swap. -/
def swapEvent (c : Executor χ) (msg : Msg) (tokenIn tokenOut : Address)
    (amountIn minAmountOut amountOut : ℕ) : WizPayMainnetSwapExecuted where
  caller := msg.sender
  tokenIn := tokenIn
  tokenOut := tokenOut
  amountIn := amountIn
  feeAmount := amountIn * c.feeBps / 10000
  netAmountIn := amountIn - amountIn * c.feeBps / 10000
  amountOut := amountOut
  minAmountOut := minAmountOut

omit hlogged in
/-- An event is encoded as words. -/
structure Fits (args : WizPayMainnetSwapExecuted) : Prop where
  amountIn : args.amountIn < uint256Bound
  feeAmount : args.feeAmount < uint256Bound
  netAmountIn : args.netAmountIn < uint256Bound
  amountOut : args.amountOut < uint256Bound
  minAmountOut : args.minAmountOut < uint256Bound

omit hlogged in
theorem swapEvent_fits {msg : Msg} {tokenIn tokenOut : Address}
    {amountIn minAmountOut amountOut : ℕ} (hamountIn : amountIn < uint256Bound)
    (hminAmountOut : minAmountOut < uint256Bound) (hamountOut : amountOut < uint256Bound) :
    Fits (swapEvent c msg tokenIn tokenOut amountIn minAmountOut amountOut) where
  amountIn := hamountIn
  feeAmount :=
    Nat.lt_of_le_of_lt (bpsFee_le (Nat.le_trans c.feeBps_le (by decide)) amountIn) hamountIn
  netAmountIn := Nat.lt_of_le_of_lt (Nat.sub_le _ _) hamountIn
  amountOut := hamountOut
  minAmountOut := hminAmountOut

/-- What the logs of a swap say: the executor's event, the input that it was sent, and at
least the output that it reports. -/
structure SwapLogs (c : Executor χ) (native : Address) (movements : χ → List Movement) (msg : Msg)
    (tokenIn tokenOut : Address) (amountIn minAmountOut amountOut : ℕ) (before after : State χ)
    (new : List Movement) : Prop where
  pair : (tokenIn = c.USDC ∧ tokenOut = c.EURC) ∨ (tokenIn = c.EURC ∧ tokenOut = c.USDC)
  value : msg.value = if tokenIn = c.USDC then amountIn * ARC_NATIVE_USDC_SCALE else 0
  events : after.events = before.events ++ [.wizPayMainnetSwapExecuted
    (swapEvent c msg tokenIn tokenOut amountIn minAmountOut amountOut)]
  fits : Fits (swapEvent c msg tokenIn tokenOut amountIn minAmountOut amountOut)
  movements : movements after.chain = movements before.chain ++ new
  wellFormed : ∀ movement ∈ new, movement.amount < uint256Bound ∧ movement.emitter ≠ c.self
  input : moved (if tokenIn = c.USDC then native else tokenIn) msg.sender c.self new =
    if tokenIn = c.USDC then amountIn * ARC_NATIVE_USDC_SCALE else amountIn
  sufficient : minAmountOut ≤ amountOut
  output : amountOut ≤ received tokenOut msg.sender new

omit hlogged in
/-- What the executor measures of its caller's gain is reported. -/
theorem output_le {msg : Msg} (hwallet : msg.sender = wallet) {token : Address}
    {funded swapped : State χ} {new : List Movement}
    (hgained : c.ext.balanceOf swapped.chain token wallet ≤
      c.ext.balanceOf funded.chain token wallet + received token wallet new) :
    c.ext.balanceOf swapped.chain token msg.sender - c.ext.balanceOf funded.chain token msg.sender ≤
      received token msg.sender new := by
  rw [hwallet]
  omega

/-- A successful swap reports its event, the input, and the output that its caller gained. -/
theorem executeSwap_reports {msg : Msg} (hwallet : msg.sender = wallet) (hself : wallet ≠ c.self)
    {tokenIn tokenOut : Address} {amountIn minAmountOut minHopPriceX36 deadline amountOut : ℕ}
    {before after : State χ}
    (hrun : (executeSwap c msg tokenIn tokenOut amountIn minAmountOut minHopPriceX36 deadline).run
      before = .ok (amountOut, after)) :
    ∃ new, SwapLogs c native movements msg tokenIn tokenOut amountIn minAmountOut amountOut before
      after new := by
  obtain ⟨funded, last, hfunded, _, hbody, rfl⟩ := entryPoint_ok hrun
  obtain ⟨_, checked, hchecked, hbody⟩ := Call.bind_ok.mp hbody
  simp only [validateSwap, checkedAdd, bind_revertIf_ok, bind_checked_ok, revertIf_ok,
    Prod.mk.injEq, decide_eq_true_eq, not_not, true_and] at hchecked
  obtain ⟨hpair, _, hin, _, hmin, _, _, _, _, rfl⟩ := hchecked
  obtain ⟨_, _, hfee, hbody⟩ := Call.bind_ok.mp hbody
  obtain ⟨rfl, rfl⟩ := Prod.mk.inj (bpsFee_ok hfee)
  simp only [checkedSub, bind_checked_ok, bind_view_ok] at hbody
  obtain ⟨_, hbody⟩ := hbody
  obtain ⟨_, swapped, hswapped, hbody⟩ := Call.bind_ok.mp hbody
  simp only [bind_view_ok, bind_revertIf_ok, bind_checked_ok, bind_emit_ok, Call.pure_ok,
    Prod.mk.injEq, not_not, Nat.not_lt] at hbody
  obtain ⟨_, hrose, hminimum, rfl, rfl⟩ := hbody
  have hbounds : 0 < uint128Bound ∧ uint128Bound ≤ uint256Bound := by decide
  have hfits : ∀ start, Fits (swapEvent c msg tokenIn tokenOut amountIn minAmountOut
      (c.ext.balanceOf swapped.chain tokenOut msg.sender - start)) := by
    intro start
    have houtput := hlogged.balanceOf swapped.chain tokenOut msg.sender
    exact swapEvent_fits (by omega) (by omega) (by omega)
  rw [hwallet] at hfunded
  by_cases husdc : tokenIn = c.USDC
  · rw [if_pos husdc] at hswapped
    obtain ⟨hvalue, new, hnew, hnothing⟩ := executeUsdcSwap_reports hlogged hself hswapped
    have hout : tokenOut = c.EURC := by
      rcases hpair with hpair | hpair
      · exact hpair.2
      · exact absurd (husdc.symm.trans hpair.1) c.tokens_ne
    subst hout
    have hleg : Reports c movements wallet c.EURC funded swapped new :=
      ⟨hnew.events, hnew.movements, hnew.gained, hnew.wellFormed⟩
    have hall := (hlogged.receiveValue c.EURC hfunded (.inr rfl)).trans hleg
    refine ⟨_, hpair, ?_, ?_, hfits _, hall.movements, hall.wellFormed, ?_, hminimum, ?_⟩
    · rw [if_pos husdc, hvalue]
    · rw [hall.events]
      rfl
    · rw [if_pos husdc, if_pos husdc, moved_append, hwallet, hnothing, moved_nativeMovement_self,
        hvalue, Nat.add_zero]
    · rw [received_append]
      exact Nat.le_add_left_of_le (output_le hwallet hleg.gained)
  · rw [if_neg husdc] at hswapped
    have heurc : tokenIn = c.EURC := (hpair.resolve_left fun h => husdc h.1).1
    subst heurc
    obtain ⟨hvalue, new, hnew, hinput⟩ :=
      executeEurcSwap_reports hlogged tokenOut hwallet hself hswapped
    have hleg : Reports c movements wallet tokenOut funded swapped new :=
      ⟨hnew.events, hnew.movements, hnew.gained, hnew.wellFormed⟩
    have hall := (hlogged.receiveValue tokenOut hfunded (.inl hvalue)).trans hleg
    refine ⟨_, hpair, ?_, ?_, hfits _, hall.movements, hall.wellFormed, ?_, hminimum, ?_⟩
    · rw [if_neg husdc, hvalue]
    · rw [hall.events]
      rfl
    · rw [if_neg husdc, if_neg husdc, moved_append, hvalue, hwallet, hinput]
      exact Nat.zero_add amountIn
    · rw [received_append]
      exact Nat.le_add_left_of_le (output_le hwallet hleg.gained)

end Swap

end WizPay.SwapExecutor
