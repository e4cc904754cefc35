import WizPay.PayrollMainnet.Allowances
import WizPay.SwapExecutor.Settlement

/-!
# The swap executor owes no allowance between transactions

As in the payroll contract, one leg of a swap grants allowances and takes them back once
the router returns.
-/

namespace WizPay.SwapExecutor

open Foundation Evm

def Transaction.isNested : Transaction → Prop
  | .rescueTokens _ _ _ _ => False
  | _ => True

section

variable {χ : Type} {c : Executor χ} {a : Allowances χ}

/-- The code that the executor calls keeps its EURC allowances the standard way. -/
abbrev Standing (c : Executor χ) (a : Allowances χ) : Prop :=
  a.Standing (execute c) Transaction.isNested c.ext c.EURC c.permit2 c.universalRouter

theorem execute_guards (hc : Standing c a) (call : Transaction) (hnested : call.isNested)
    (state : State χ) (hentered : state.entered = true) :
    a.Guards state ((execute c call).commit state) := by
  cases call with
  | executeSwap msg tokenIn tokenOut amountIn minAmountOut minHopPriceX36 deadline =>
      exact Allowances.entryPoint_guards hc hentered
  | pause msg =>
      exact Allowances.guards_of_outlook hentered (Allowances.pause_keeps.bind fun _ => .pure _)
  | unpause msg =>
      exact Allowances.guards_of_outlook hentered (Allowances.unpause_keeps.bind fun _ => .pure _)
  | rescueTokens msg token target amount => exact hnested.elim
  | transferOwnership newOwner => exact ⟨hentered, .refl state.chain⟩
  | renounceOwnership => exact ⟨hentered, .refl state.chain⟩

theorem executeUsdcSwap_keeps (hc : Standing c a) (msg : Msg) (tokenIn tokenOut : Address)
    (amountIn netAmountIn feeAmount minAmountOut minHopPriceX36 deadline : ℕ) :
    Call.Keeps a.standing (true, 0, 0) (executeUsdcSwap c msg tokenIn tokenOut amountIn netAmountIn
      feeAmount minAmountOut minHopPriceX36 deadline) := by
  refine .bind (keeps_checked _ _) fun expectedNative => ?_
  refine .bind (keeps_revertIf _ _) fun _ => ?_
  refine .bind (keeps_view _) fun nativeBal => ?_
  refine .bind (keeps_checked _ _) fun priorNativeBal => ?_
  refine .bind (.when fun _ => ?_) fun _ => ?_
  · exact .bind (keeps_checked _ _) fun _ =>
      Allowances.keeps_acts (execute_guards hc) hc.callValue
  · refine .bind (keeps_checked _ _) fun netNative => ?_
    refine .bind keeps_v4SwapInput fun input => ?_
    refine .bind (Allowances.keeps_acts (execute_guards hc) hc.execute) fun _ => ?_
    exact .bind (keeps_view _) fun endNativeBal => keeps_revertIf _ _

theorem executeEurcSwap_clears (hc : Standing c a) (msg : Msg) (tokenOut : Address)
    (amountIn netAmountIn feeAmount minAmountOut minHopPriceX36 deadline : ℕ)
    {state next : State χ} {result : Unit} (hentered : state.entered = true)
    (hrun : (executeEurcSwap c msg c.EURC tokenOut amountIn netAmountIn feeAmount minAmountOut
      minHopPriceX36 deadline).run state = .ok (result, next)) :
    a.standing next = (true, 0, 0) := by
  have hkeeps := @Allowances.keeps_entered _ _ _ _ _ _ a _ _ (execute_guards hc)
  unfold executeEurcSwap at hrun
  obtain ⟨-, hrun⟩ := bind_revertIf_ok.mp hrun
  have hrun := bind_view_ok.mp hrun
  obtain ⟨pulled, hpulled, hrun⟩ := bind_callExternal_ok.mp hrun
  have hentered := ((hc.safeTransferFrom hpulled).guards (execute_guards hc) hentered).1
  obtain ⟨_, charged, hcharged, hrun⟩ := Call.bind_ok.mp hrun
  have hentered := Call.Keeps.when (fun _ => hkeeps hc.safeTransfer) pulled _ charged hentered hcharged
  obtain ⟨approved, happroved, hrun⟩ := bind_callExternal_ok.mp hrun
  obtain ⟨granted, rfl, -⟩ := hc.forceApprove happroved
  obtain ⟨-, hrun⟩ := bind_checked_ok.mp hrun
  obtain ⟨-, hrun⟩ := bind_safeCast_ok.mp hrun
  obtain ⟨-, hrun⟩ := bind_safeCast_ok.mp hrun
  obtain ⟨permitted, hpermitted, hrun⟩ := bind_callExternal_ok.mp hrun
  obtain ⟨open', rfl, -⟩ := hc.permit2Approve hpermitted
  obtain ⟨input, built, hbuilt, hrun⟩ := Call.bind_ok.mp hrun
  obtain rfl := v4SwapInput_ok hbuilt
  obtain ⟨swapped, hswapped, hrun⟩ := bind_callExternal_ok.mp hrun
  have hentered := ((hc.execute hswapped).guards (execute_guards hc) hentered).1
  -- What is left takes the allowances back and reads a balance.
  obtain ⟨revoked, hrevoked, hrun⟩ := bind_callExternal_ok.mp hrun
  obtain ⟨last, hlast, hrun⟩ := bind_callExternal_ok.mp hrun
  have hrun := bind_view_ok.mp hrun
  obtain ⟨-, hsame⟩ := revertIf_ok.mp hrun
  obtain ⟨_, rfl⟩ := Prod.mk.inj hsame
  refine @Allowances.revoke_clear Error Unit Event χ _ _ a _ _ _ _ _ _ hc swapped last () hentered ?_
  exact bind_callExternal_ok.mpr ⟨revoked, hrevoked, callExternal_ok.mpr ⟨last, hlast, rfl⟩⟩

theorem validateSwap_keeps {γ : Type} {reading : State χ → γ} {value : γ} (msg : Msg)
    (tokenIn tokenOut : Address) (amountIn minAmountOut minHopPriceX36 deadline : ℕ) :
    Call.Keeps reading value
      (validateSwap c msg tokenIn tokenOut amountIn minAmountOut minHopPriceX36 deadline) := by
  refine .bind (keeps_revertIf _ _) fun _ => .bind (keeps_revertIf _ _) fun _ => ?_
  refine .bind (keeps_revertIf _ _) fun _ => .bind (keeps_revertIf _ _) fun _ => ?_
  refine .bind (keeps_revertIf _ _) fun _ => .bind (keeps_revertIf _ _) fun _ => ?_
  refine .bind (keeps_revertIf _ _) fun _ => ?_
  exact .bind (keeps_checked _ _) fun maxDeadline => keeps_revertIf _ _

theorem executeSwap_settled (hc : Standing c a) (msg : Msg) (tokenIn tokenOut : Address)
    (amountIn minAmountOut minHopPriceX36 deadline : ℕ) {state next : State χ} {value : ℕ}
    (hsettled : a.Settled state)
    (hrun : (executeSwap c msg tokenIn tokenOut amountIn minAmountOut minHopPriceX36
      deadline).run state = .ok (value, next)) : a.Settled next := by
  refine Allowances.entryPoint_settled hc ?_ hsettled hrun
  -- The pair check says which token the second leg is paid in.
  have hpair : ∀ {first last : State χ} {result : Unit},
      (validateSwap c msg tokenIn tokenOut amountIn minAmountOut minHopPriceX36 deadline).run first =
        .ok (result, last) → tokenIn ≠ c.USDC → tokenIn = c.EURC := by
    intro first last result hvalid husdc
    obtain ⟨hpair, -⟩ := bind_revertIf_ok.mp hvalid
    by_contra hother
    exact hpair (by simp [husdc, hother])
  intro before result after hstanding hbody
  obtain ⟨_, valid, hvalid, hbody⟩ := Call.bind_ok.mp hbody
  have hstanding := validateSwap_keeps msg tokenIn tokenOut amountIn minAmountOut minHopPriceX36
    deadline before _ valid hstanding hvalid
  refine Call.Keeps.bind (fun state value next hreading hrun => ?_) (fun feeAmount => ?_) valid
    result after hstanding hbody
  · obtain ⟨_, rfl⟩ := Prod.mk.inj (bpsFee_ok hrun)
    exact hreading
  · refine .bind (keeps_checked _ _) fun netAmountIn => ?_
    refine .bind (keeps_view _) fun startOutputBal => .bind (keeps_view _) fun startRecipientOut => ?_
    refine .bind ?_ fun _ => ?_
    · split
      · exact executeUsdcSwap_keeps hc msg tokenIn tokenOut amountIn netAmountIn feeAmount
          minAmountOut minHopPriceX36 deadline
      · next husdc =>
          obtain rfl := hpair hvalid husdc
          intro first _ last hreading hleg
          exact executeEurcSwap_clears hc msg tokenOut amountIn netAmountIn feeAmount minAmountOut
            minHopPriceX36 deadline (Allowances.standing_eq.mp hreading).1 hleg
    · refine .bind (keeps_view _) fun endOutputBal => .bind (keeps_revertIf _ _) fun _ => ?_
      refine .bind (keeps_view _) fun endRecipientOut => .bind (keeps_checked _ _) fun amountOut => ?_
      refine .bind (keeps_revertIf _ _) fun _ => ?_
      exact .bind (Allowances.keeps_modify fun _ => rfl) fun _ => .pure _

theorem nested_settled (hc : Standing c a) (call : Transaction) (hnested : call.isNested)
    (state : State χ) (hsettled : a.Settled state) : a.Settled ((execute c call).commit state) := by
  cases call with
  | executeSwap msg tokenIn tokenOut amountIn minAmountOut minHopPriceX36 deadline =>
      exact Allowances.commit_settled hsettled fun value next hrun =>
        executeSwap_settled hc msg tokenIn tokenOut amountIn minAmountOut minHopPriceX36 deadline
          hsettled hrun
  | pause msg =>
      exact Allowances.settled_of_outlook hsettled (Allowances.pause_keeps.bind fun _ => .pure _)
  | unpause msg =>
      exact Allowances.settled_of_outlook hsettled (Allowances.unpause_keeps.bind fun _ => .pure _)
  | rescueTokens msg token target amount => exact hnested.elim
  | transferOwnership newOwner => exact hsettled
  | renounceOwnership => exact hsettled

theorem rescueTokens_settled (hc : Standing c a) (msg : Msg) (token target : Address) (amount : ℕ)
    {state next : State χ} {value : Unit} (hsettled : a.Settled state)
    (hrun : (rescueTokens c msg token target amount).run state = .ok (value, next)) :
    a.Settled next := by
  unfold rescueTokens nonPayable onlyOwner at hrun
  obtain ⟨-, hrun⟩ := Call.bind_revertIf_ok.mp hrun
  obtain ⟨-, hrun⟩ := Call.bind_revertIf_ok.mp hrun
  obtain ⟨-, hrun⟩ := Call.bind_revertIf_ok.mp (Call.bind_get_ok.mp hrun)
  obtain ⟨-, hrun⟩ := bind_revertIf_ok.mp hrun
  obtain ⟨-, hrun⟩ := bind_revertIf_ok.mp hrun
  obtain ⟨-, hrun⟩ := bind_revertIf_ok.mp hrun
  obtain ⟨moved, hmoved, hrun⟩ := bind_callExternal_ok.mp hrun
  obtain ⟨_, rfl⟩ := Prod.mk.inj (emit_ok.mp hrun)
  exact (hc.safeTransfer hmoved).settled (nested_settled hc) hsettled

theorem execute_settled (hc : Standing c a) (call : Transaction) (state : State χ)
    (hsettled : a.Settled state) : a.Settled ((execute c call).commit state) := by
  by_cases hnested : call.isNested
  · exact nested_settled hc call hnested state hsettled
  · cases call with
    | rescueTokens msg token target amount =>
        refine Allowances.commit_settled hsettled fun value next hrun => ?_
        obtain ⟨_, last, hrescue, hlast⟩ := Call.bind_ok.mp hrun
        obtain ⟨_, rfl⟩ := Prod.mk.inj (Call.pure_ok.mp hlast)
        exact rescueTokens_settled hc msg token target amount hsettled hrescue
    | _ => exact absurd trivial hnested

theorem standing_settled (hc : Standing c a) {owner : Address} {chain : χ} (hfresh : a.Clear chain)
    {state : State χ} (hreachable : a.Reachable (execute c) Transaction.isNested
      (deployedState owner chain) state) : a.Clear state.chain :=
  (hreachable.settled (execute_settled hc) ⟨rfl, hfresh⟩).2

end

/-- Between transactions, from deployment on, neither contract has an allowance standing,
and nobody can pull what arrives at it. -/
theorem nothing_stands_between_transactions :
    (∀ {Hash χ : Type} [DecidableEq Hash] (c : PayrollMainnet.Contract Hash χ) (a : Allowances χ)
      (pull : ℕ → χ → Option χ), PayrollMainnet.Standing c a → a.Covers pull →
      ∀ chain, a.Clear chain → ∀ state,
        a.Reachable (PayrollMainnet.execute c) PayrollMainnet.Transaction.isNested
          (PayrollMainnet.deployedState c.owner chain) state → a.NothingStands pull state.chain) ∧
    ∀ {χ : Type} (c : Executor χ) (a : Allowances χ) (pull : ℕ → χ → Option χ),
      Standing c a → a.Covers pull → ∀ chain, a.Clear chain → ∀ state,
        a.Reachable (execute c) Transaction.isNested (deployedState c.owner chain) state →
          a.NothingStands pull state.chain := by
  constructor
  · intro Hash χ _ c a pull hc hpull chain hfresh state hreachable
    exact (PayrollMainnet.standing_settled hc hfresh hreachable).nothingStands hpull
  · intro χ c a pull hc hpull chain hfresh state hreachable
    exact (standing_settled hc hfresh hreachable).nothingStands hpull

/-- An executor on ledgers where its owner unpauses it, and account 9 swaps. -/
theorem executor_swaps_and_owes_nothing :
    let c := exampleExecutor sellingRouter
    let a := Ledgers.allowances c.EURC c.self c.permit2 c.universalRouter
    let chain := { exampleState.chain with allowance := fun _ owner _ => if owner = 9 then 1000 else 0 }
    let unpaused := (execute c (.unpause ⟨7, 0, 0⟩)).commit (deployedState c.owner chain)
    let swapped := (execute c (.executeSwap ⟨9, 1000 * ARC_NATIVE_USDC_SCALE, 0⟩ 1 2 1000 850 1
      60)).commit unpaused
    swapped.chain.balance 2 9 = 1900 ∧
      a.NothingStands (Ledgers.permit2TransferFrom c.EURC c.permit2 c.universalRouter c.self 9)
        swapped.chain := by
  intro c a chain unpaused swapped
  have hrouter : ∀ request state next, sellingRouter request state = some next →
      a.Acts (execute c) Transaction.isNested state next := fun request state next hnext =>
    onChain_acts (fun _ _ => moveToken_spends) hnext
  refine ⟨by decide +kernel, ?_⟩
  exact nothing_stands_between_transactions.2 c a _ (standardExternals_standing hrouter)
    (permit2TransferFrom_covers 9) chain ⟨rfl, rfl⟩ swapped (.call _ (.call _ .start))

end WizPay.SwapExecutor
