import WizPay.Foundation.Registry
import WizPay.PayrollMainnet.SameToken

/-!
# A reference is paid at most once

The registry of the payroll contract: its marks are `usedReferenceHashes`, its
log the `PayrollReferenceConsumed` events. Every call, and everything outside
code does between and during calls, only moves it forward.
-/

namespace WizPay.PayrollMainnet

open Foundation Evm

variable {Hash χ : Type}

/-- The executions on record: employer and reference id of each, oldest first. -/
def executionsOf (events : List (Event Hash)) : List (Address × ByteArray) :=
  events.filterMap fun
    | .payrollReferenceConsumed args => some (args.employer, args.referenceId)
    | _ => none

def executions (state : State Hash χ) : List (Address × ByteArray) :=
  executionsOf state.events

theorem executionsOf_append (first second : List (Event Hash)) :
    executionsOf (first ++ second) = executionsOf first ++ executionsOf second :=
  List.filterMap_append

/-- Only payroll events record executions. -/
theorem executionsOf_filter (events : List (Event Hash)) :
    executionsOf (events.filter Event.isPayroll) = executionsOf events := by
  unfold executionsOf
  rw [List.filterMap_filter]
  congr 1
  funext event
  cases event <;> rfl

theorem executionsOf_paymentEvents (referenceHash : Hash) (employer token : Address) (i : ℕ)
    (payments : List (Address × ℕ)) :
    executionsOf (paymentEvents referenceHash employer token i payments) = [] := by
  induction payments generalizing i with
  | nil => rfl
  | cons payment rest ih => exact ih (i + 1)

theorem executionsOf_refundEvents (referenceHash : Hash) (employer tokenOut : Address)
    (surplus : ℕ) : executionsOf (refundEvents referenceHash employer tokenOut surplus) = [] := by
  unfold refundEvents
  split <;> rfl

theorem executions_eq_record (state : State Hash χ) :
    executions state = executionsOf (record state).payrollEvents :=
  (executionsOf_filter state.events).symm

def payrollRegistry (c : Contract Hash χ) : Registry (State Hash χ) (Address × ByteArray) Hash where
  hash := fun execution => canonicalReferenceHash c execution.1 execution.2
  log := executions
  used := ContractState.storage

/-- The reference a transaction consumes when it succeeds. -/
def payrollKey : Transaction → Option (Address × ByteArray)
  | .executeSameTokenPayroll msg _ _ _ referenceId => some (msg.sender, referenceId)
  | .executeCrossTokenPayroll msg _ _ _ _ _ _ _ _ referenceId => some (msg.sender, referenceId)
  | _ => none

section

variable {c : Contract Hash χ}

/-- States with the same record have the same registry. -/
theorem advances_of_record_eq {before after : State Hash χ} (heq : record after = record before) :
    (payrollRegistry c).Advances before after := by
  refine .of_eq ?_ (congrArg Record.usedReferenceHashes heq)
  exact (executions_eq_record after).trans
    ((congrArg (fun reading => executionsOf reading.payrollEvents) heq).trans
      (executions_eq_record before).symm)

variable [DecidableEq Hash]

/-- The registry after a payroll call: one fresh reference consumed. -/
theorem advances_of_consumed {before after : State Hash χ} {employer : Address}
    {referenceId : ByteArray} {events : List (Event Hash)}
    (hfree : before.storage (canonicalReferenceHash c employer referenceId) = false)
    (hrecord : record after =
      (record before).consumed (canonicalReferenceHash c employer referenceId) events)
    (hevents : executionsOf events = [(employer, referenceId)]) :
    executions after = executions before ++ [(employer, referenceId)] ∧
      (payrollRegistry c).Advances before after := by
  have hlog : executions after = executions before ++ [(employer, referenceId)] := by
    rw [executions_eq_record, executions_eq_record, hrecord, Record.consumed,
      executionsOf_append, hevents]
  exact ⟨hlog, .consume (employer, referenceId) hfree hlog
    (congrArg Record.usedReferenceHashes hrecord)⟩

omit [DecidableEq Hash] in
theorem executionsOf_sameTokenEvents (msg : Msg) (token : Address) (recipients : List Address)
    (amounts : List ℕ) (referenceId : ByteArray) :
    executionsOf (sameTokenEvents c msg token recipients amounts referenceId) =
      [(msg.sender, referenceId)] := by
  rw [sameTokenEvents, executionsOf_append, executionsOf_paymentEvents]
  rfl

omit [DecidableEq Hash] in
theorem executionsOf_crossTokenEvents (msg : Msg) (tokenIn tokenOut : Address)
    (recipients : List Address) (outputAmounts : List ℕ)
    (grossInput minTotalOut minHopPriceX36 deadline : ℕ) (referenceId : ByteArray)
    (amountOut : ℕ) :
    executionsOf (crossTokenEvents c msg tokenIn tokenOut recipients outputAmounts grossInput
      minTotalOut minHopPriceX36 deadline referenceId amountOut) = [(msg.sender, referenceId)] := by
  rw [crossTokenEvents, executionsOf_append, executionsOf_append, executionsOf_paymentEvents,
    executionsOf_refundEvents]
  rfl

variable (hc : c.Sandboxed)
include hc

/-- A successful payroll transaction consumes its reference, whichever route it
takes and whatever else it carries. -/
theorem execute_consumes {transaction : Transaction} {key : Address × ByteArray}
    {before after : State Hash χ} {value : ℕ} (hkey : payrollKey transaction = some key)
    (hrun : (execute c transaction).run before = .ok (value, after)) :
    executions after = executions before ++ [key] ∧
      (payrollRegistry c).Advances before after := by
  cases transaction with
  | executeSameTokenPayroll msg token recipients amounts referenceId =>
      obtain rfl := Option.some.inj hkey
      obtain ⟨hfree, hrecord⟩ := executeSameTokenPayroll_record hc hrun
      exact advances_of_consumed hfree hrecord (executionsOf_sameTokenEvents _ _ _ _ _)
  | executeCrossTokenPayroll msg tokenIn tokenOut recipients outputAmounts grossInput minTotalOut
      minHopPriceX36 deadline referenceId =>
      obtain rfl := Option.some.inj hkey
      obtain ⟨hfree, hrecord⟩ := executeCrossTokenPayroll_record hc hrun
      exact advances_of_consumed hfree hrecord
        (executionsOf_crossTokenEvents _ _ _ _ _ _ _ _ _ _ _)
  | pause msg => cases hkey
  | unpause msg => cases hkey
  | rescueTokens msg token target amount => cases hkey
  | transferOwnership newOwner => cases hkey
  | renounceOwnership => cases hkey

/-- Every transaction other than a rescue moves the registry forward. -/
theorem advances_of_not_rescue {transaction : Transaction}
    (hrescue : ∀ msg token target amount, transaction ≠ .rescueTokens msg token target amount)
    (state : State Hash χ) :
    (payrollRegistry c).Advances state ((execute c transaction).commit state) := by
  refine Registry.advances_commit fun value next hrun => ?_
  cases transaction with
  | executeSameTokenPayroll msg token recipients amounts referenceId =>
      exact (execute_consumes hc rfl hrun).2
  | executeCrossTokenPayroll msg tokenIn tokenOut recipients outputAmounts grossInput minTotalOut
      minHopPriceX36 deadline referenceId =>
      exact (execute_consumes hc rfl hrun).2
  | pause msg =>
      exact advances_of_record_eq
        ((pause_record.bind fun _ => .pure _) state value next rfl hrun)
  | unpause msg =>
      exact advances_of_record_eq
        ((unpause_record.bind fun _ => .pure _) state value next rfl hrun)
  | rescueTokens msg token target amount => exact absurd rfl (hrescue msg token target amount)
  | transferOwnership newOwner => cases hrun
  | renounceOwnership => cases hrun

/-- Outside code moves the registry forward, also between payroll calls, when
it may start payroll executions of its own. -/
theorem Interacts.advances {state next : State Hash χ} (hinteracts : Interacts c state next) :
    (payrollRegistry c).Advances state next := by
  induction hinteracts with
  | done state => exact .refl state
  | @chain state _ chain _ ih =>
      have hchain : (payrollRegistry c).Advances state { state with chain := chain } :=
        .of_eq rfl rfl
      exact hchain.trans ih
  | call transaction hrescue _ ih => exact .trans (advances_of_not_rescue hc hrescue _) ih
  | rescued token target amount _ ih =>
      refine .trans (advances_of_record_eq ?_) ih
      simp [record, Event.isPayroll]

omit hc in
theorem rescueTokens_ok {msg : Msg} {token target : Address} {amount : ℕ}
    {state next : State Hash χ} {value : ℕ}
    (hrun : (execute c (.rescueTokens msg token target amount)).run state = .ok (value, next)) :
    ∃ moved, c.ext.safeTransfer token target amount state = some moved ∧
      next = { moved with events := moved.events ++ [.emergencyTokenRescued token target amount] } := by
  simp only [execute, rescueTokens, nonPayable, onlyOwner, whenPaused, Call.bind_ok,
    Call.revertIf_ok, Call.get_ok, revertIf_ok, callExternal_ok, emit_ok, Call.pure_ok,
    Prod.mk.injEq, true_and] at hrun
  obtain ⟨_, _, ⟨_, _, ⟨_, rfl⟩, _, _, ⟨_, rfl⟩, _, _, ⟨rfl, rfl⟩, _, _, ⟨_, rfl⟩, _, _,
    ⟨_, rfl⟩, _, _, ⟨_, rfl⟩, _, _, ⟨_, rfl⟩, _, _, ⟨moved, hmoved, rfl⟩, rfl⟩, rfl, rfl⟩ := hrun
  exact ⟨moved, hmoved, rfl⟩

theorem advances_commit (transaction : Transaction) (state : State Hash χ) :
    (payrollRegistry c).Advances state ((execute c transaction).commit state) := by
  by_cases hrescue : ∃ msg token target amount,
      transaction = .rescueTokens msg token target amount
  · obtain ⟨msg, token, target, amount, rfl⟩ := hrescue
    refine Registry.advances_commit fun value next hrun => ?_
    obtain ⟨moved, hmoved, rfl⟩ := rescueTokens_ok hrun
    refine ((hc.safeTransfer hmoved).advances hc).trans (advances_of_record_eq ?_)
    simp [record, Event.isPayroll]
  · refine advances_of_not_rescue hc ?_ state
    exact fun msg token target amount heq => hrescue ⟨msg, token, target, amount, heq⟩

omit hc [DecidableEq Hash] in
theorem deployedState_consistent (chain : χ) :
    (payrollRegistry c).Consistent (deployedState c.owner chain) where
  nodup := List.nodup_nil
  recorded := fun mark => by
    simp [payrollRegistry, deployedState, executions, executionsOf]

/-- Between payroll calls only the payroll transactions add executions, as long
as the rescued tokens start none. -/
theorem executions_commit (hquiet : ∀ token target amount state next,
      c.ext.safeTransfer token target amount state = some next → executions next = executions state)
    (transaction : Transaction) (state : State Hash χ) :
    executions ((execute c transaction).commit state) = executions state ++
      if (execute c transaction).succeeds state then (payrollKey transaction).toList else [] := by
  cases hsucceeds : (execute c transaction).succeeds state with
  | false => rw [Call.commit_of_not_succeeds hsucceeds]; simp
  | true =>
      obtain ⟨value, next, hrun⟩ := Call.succeeds_iff.mp hsucceeds
      rw [Call.commit_of_ok hrun, if_pos rfl]
      have hsame : record next = record state → executions next = executions state ++ [] := by
        intro hrecord
        rw [List.append_nil, executions_eq_record, executions_eq_record, hrecord]
      cases transaction with
      | executeSameTokenPayroll msg token recipients amounts referenceId =>
          exact (execute_consumes hc rfl hrun).1
      | executeCrossTokenPayroll msg tokenIn tokenOut recipients outputAmounts grossInput
          minTotalOut minHopPriceX36 deadline referenceId =>
          exact (execute_consumes hc rfl hrun).1
      | pause msg => exact hsame ((pause_record.bind fun _ => .pure _) state value next rfl hrun)
      | unpause msg =>
          exact hsame ((unpause_record.bind fun _ => .pure _) state value next rfl hrun)
      | rescueTokens msg token target amount =>
          obtain ⟨moved, hmoved, rfl⟩ := rescueTokens_ok hrun
          rw [← hquiet token target amount state moved hmoved]
          simp [executions, executionsOf, payrollKey]
      | transferOwnership newOwner => cases hrun
      | renounceOwnership => cases hrun

/-- No reference is paid twice. In every run from deployment each employer's
reference is consumed by at most one successful payroll transaction, marks are
never taken back, and a hash is marked exactly when it belongs to one execution
on record; these are the successful payroll transactions, together with those
outside code started on its own. A failing transaction changes nothing. -/
theorem payroll_at_most_once (hhash : Function.Injective c.keccak.reference) (chain : χ)
    (calls : List Transaction) :
    let start := deployedState c.owner chain
    let final := Call.runAll (execute c) calls start
    (∀ employer referenceId, (Call.succeeded (execute c) calls start).countP
      (fun transaction => payrollKey transaction = some (employer, referenceId)) ≤ 1) ∧
    (∀ more mark, final.storage mark = true →
      (Call.runAll (execute c) more final).storage mark = true) ∧
    (executions final).Nodup ∧
    (∀ mark, final.storage mark = true ↔ ∃! execution, execution ∈ executions final ∧
      canonicalReferenceHash c execution.1 execution.2 = mark) ∧
    (∀ transaction employer referenceId value next,
      payrollKey transaction = some (employer, referenceId) →
      (execute c transaction).run final = .ok (value, next) →
        final.storage (canonicalReferenceHash c employer referenceId) = false ∧
          executions next = executions final ++ [(employer, referenceId)]) ∧
    ((∀ token target amount state next,
        c.ext.safeTransfer token target amount state = some next →
          executions next = executions state) →
      executions final = (Call.succeeded (execute c) calls start).filterMap payrollKey) ∧
    (∀ transaction, (execute c transaction).succeeds final = false →
      (execute c transaction).commit final = final) := by
  intro start final
  have hfinal : (payrollRegistry c).Consistent final :=
    (Registry.advances_runAll (advances_commit hc) calls start).consistent
      (deployedState_consistent chain)
  have hnodup : (executions final).Nodup := hfinal.log_nodup
  have hinjective : Function.Injective (payrollRegistry c).hash := by
    intro first second heq
    have hpreimage := hhash heq
    simp only [Prod.mk.injEq, true_and] at hpreimage
    exact Prod.ext hpreimage.1 hpreimage.2
  refine ⟨fun employer referenceId => ?_, fun more mark hmark => ?_, hnodup, fun mark => ?_, ?_,
    fun hquiet => ?_, fun transaction hfails => Call.commit_of_not_succeeds hfails⟩
  · exact (deployedState_consistent chain).countP_succeeded_le_one (advances_commit hc)
      (fun _ _ _ _ _ hrun hkey => (execute_consumes hc hkey hrun).1) calls (employer, referenceId)
  · exact (Registry.advances_runAll (advances_commit hc) more final).used mark hmark
  · rw [show final.storage mark = (payrollRegistry c).used final mark from rfl, hfinal.recorded,
      List.mem_map]
    constructor
    · rintro ⟨execution, hmember, hmark⟩
      exact ⟨execution, ⟨hmember, hmark⟩, fun other hother =>
        hinjective (hother.2.trans hmark.symm)⟩
    · rintro ⟨execution, hexecution, _⟩
      exact ⟨execution, hexecution⟩
  · intro transaction employer referenceId value next hkey hrun
    have hlog := (execute_consumes hc hkey hrun).1
    refine ⟨?_, hlog⟩
    have hnext : ((executions final) ++ [(employer, referenceId)]).Nodup := by
      rw [← hlog]
      exact ((execute_consumes hc hkey hrun).2.consistent hfinal).log_nodup
    have hfresh : (employer, referenceId) ∉ executions final := by
      intro hmember
      exact List.disjoint_of_nodup_append hnext hmember (List.mem_singleton_self _)
    rw [Bool.eq_false_iff]
    exact fun hused => hfresh ((hfinal.used_iff hinjective (employer, referenceId)).mp hused)
  · have hstep : ∀ transaction state, (payrollRegistry c).log
        ((execute c transaction).commit state) = (payrollRegistry c).log state ++
          if (execute c transaction).succeeds state then (payrollKey transaction).toList else [] :=
      executions_commit hc hquiet
    exact Registry.log_runAll hstep calls start

end

/-- Account 9 retries a paid reference: it is marked, and paid once. -/
theorem payroll_at_most_once_retry :
    let c := exampleContract fun _ _ => none
    let pay := Transaction.executeSameTokenPayroll ⟨9, 0, 0⟩ 1 [20] [100] exampleReference
    let calls := [.unpause ⟨7, 0, 0⟩, pay, pay]
    let start := deployedState c.owner exampleState.chain
    (Call.succeeded (execute c) calls start).countP
        (fun transaction => payrollKey transaction = some (9, exampleReference)) ≤ 1 ∧
      ∃! execution, execution ∈ executions (Call.runAll (execute c) calls start) ∧
        canonicalReferenceHash c execution.1 execution.2 =
          canonicalReferenceHash c 9 exampleReference := by
  intro c pay calls start
  have hstandard : c.Standard fun _ _ => none := rfl
  have hsandboxed : c.Sandboxed := hstandard.sandboxed fun _ _ _ hnone => nomatch hnone
  obtain ⟨honce, _, _, hmarks, _⟩ := payroll_at_most_once hsandboxed
    (Option.some_injective _) exampleState.chain calls
  exact ⟨honce 9 exampleReference, (hmarks _).mp (by decide +kernel)⟩

end WizPay.PayrollMainnet
