import WizPay.PayrollMainnet.Validation

/-!
# Code outside the contract cannot touch its record

The contract's storage is its own: code it calls reaches that storage only by
calling the contract back. While a payroll call holds the reentrancy guard such
a call fails, so whatever the tokens, the router and the fee recipient do, the
consumed references and the payroll events are those the guarded call wrote.
-/

namespace WizPay.PayrollMainnet

open Foundation Evm

variable {Hash χ : Type}

def Event.isPayroll : Event Hash → Bool
  | .payrollPayment _ => true
  | .payrollReferenceConsumed _ => true
  | .payrollBatchExecuted _ => true
  | .payrollSwapExecuted _ => true
  | .payrollSurplusRefunded _ => true
  | .emergencyTokenRescued _ _ _ => false
  | .paused _ => false
  | .unpaused _ => false

/-- What a payroll call writes about itself: consumed references, the guard and
the payroll events. -/
structure Record (Hash : Type) where
  usedReferenceHashes : Hash → Bool
  entered : Bool
  payrollEvents : List (Event Hash)

def record (state : State Hash χ) : Record Hash where
  usedReferenceHashes := state.storage
  entered := state.entered
  payrollEvents := state.events.filter Event.isPayroll

def Record.append (record : Record Hash) (events : List (Event Hash)) : Record Hash :=
  { record with payrollEvents := record.payrollEvents ++ events }

@[simp] theorem Record.append_entered (before : Record Hash) (events : List (Event Hash)) :
    (before.append events).entered = before.entered := rfl

@[simp] theorem Record.append_nil (before : Record Hash) : before.append [] = before := by
  simp [Record.append]

theorem Record.append_append (before : Record Hash) (first second : List (Event Hash)) :
    (before.append first).append second = before.append (first ++ second) := by
  simp [Record.append]

theorem record_emit {state : State Hash χ} {event : Event Hash} (hevent : event.isPayroll = true) :
    record { state with events := state.events ++ [event] } = (record state).append [event] := by
  simp [record, Record.append, hevent]

section

variable [DecidableEq Hash] (c : Contract Hash χ)

/-- How code outside the contract moves the contract's state: it changes the
chain and calls the contract back, in any order. `rescueTokens` contributes its
event only, since the token it calls is outside code again. -/
inductive Interacts : State Hash χ → State Hash χ → Prop
  | done (state : State Hash χ) : Interacts state state
  | chain {state next : State Hash χ} (chain : χ) :
      Interacts { state with chain := chain } next → Interacts state next
  | call {state next : State Hash χ} (transaction : Transaction)
      (hrescue : ∀ msg token target amount, transaction ≠ .rescueTokens msg token target amount) :
      Interacts ((execute c transaction).commit state) next → Interacts state next
  | rescued {state next : State Hash χ} (token target : Address) (amount : ℕ) :
      Interacts { state with events := state.events ++ [.emergencyTokenRescued token target amount] }
        next → Interacts state next

/-- The contract's storage is reachable from outside only through its own
functions. A plain credit of `msg.value` runs no code at all. -/
structure Contract.Sandboxed : Prop where
  receiveValue : ∀ {sender value state next}, c.ext.receiveValue sender value state = some next →
    ∃ chain, next = { state with chain := chain }
  safeTransfer : ∀ {token target amount state next},
    c.ext.safeTransfer token target amount state = some next → Interacts c state next
  safeTransferFrom : ∀ {token source target amount state next},
    c.ext.safeTransferFrom token source target amount state = some next → Interacts c state next
  forceApprove : ∀ {token spender amount state next},
    c.ext.forceApprove token spender amount state = some next → Interacts c state next
  permit2Approve : ∀ {token spender amount expiration state next},
    c.ext.permit2Approve token spender amount expiration state = some next →
      Interacts c state next
  callValue : ∀ {target value state next}, c.ext.callValue target value state = some next →
    Interacts c state next
  execute : ∀ {request state next}, c.ext.execute request state = some next →
    Interacts c state next

variable {c}

omit [DecidableEq Hash] in
/-- Flipping the pause switch and reporting it writes nothing of the record. -/
theorem setPaused_record {paused : Bool} {event : Event Hash} {reading : Record Hash}
    (hevent : event.isPayroll = false) :
    Call.Keeps record reading (do
      modify fun state => { state with paused := paused }
      emit event : PayrollCall Hash χ PUnit) := by
  refine .bind ?_ fun _ => ?_
  · intro state _ next hreading hrun
    obtain ⟨_, rfl⟩ := Prod.mk.inj (Call.modify_ok.mp hrun)
    exact hreading
  · intro state _ next hreading hrun
    obtain ⟨_, rfl⟩ := Prod.mk.inj (emit_ok.mp hrun)
    rw [← hreading]
    simp [record, hevent]

omit [DecidableEq Hash] in
theorem pause_record {msg : Msg} {reading : Record Hash} :
    Call.Keeps record reading (pause c msg) :=
  .bind (.revertIf _ _) fun _ => .bind (.revertIf _ _) fun _ => .bind .get fun _ =>
    .bind (.revertIf _ _) fun _ => setPaused_record rfl

omit [DecidableEq Hash] in
theorem unpause_record {msg : Msg} {reading : Record Hash} :
    Call.Keeps record reading (unpause c msg) :=
  .bind (.revertIf _ _) fun _ => .bind (.revertIf _ _) fun _ => .bind .get fun _ =>
    .bind (.revertIf _ _) fun _ => setPaused_record rfl

/-- A payroll entry point reverts while another payroll call is running. -/
theorem guarded_not_succeeds (hc : c.Sandboxed) {α : Type} {body : PayrollCall Hash χ α}
    {msg : Msg} {state : State Hash χ} (hentered : state.entered = true) :
    (payable c.ext msg (nonReentrant body)).succeeds state = false := by
  rw [Bool.eq_false_iff]
  intro hsucceeds
  obtain ⟨value, next, hrun⟩ := Call.succeeds_iff.mp hsucceeds
  obtain ⟨funded, hfunded, hbody⟩ := payable_ok.mp hrun
  obtain ⟨chain, rfl⟩ := hc.receiveValue hfunded
  rw [(nonReentrant_ok.mp hbody).1] at hentered
  cases hentered

/-- A call back into the contract during a payroll call leaves its record as it
is: the payroll functions fail and the administration writes none of it. -/
theorem commit_record_of_entered (hc : c.Sandboxed) {transaction : Transaction}
    (hrescue : ∀ msg token target amount, transaction ≠ .rescueTokens msg token target amount)
    {state : State Hash χ} (hentered : state.entered = true) :
    record ((execute c transaction).commit state) = record state := by
  have hkeep : ∀ {call : PayrollCall Hash χ ℕ}, Call.Keeps record (record state) call →
      record (call.commit state) = record state := by
    intro call hcall
    cases hsucceeds : call.succeeds state with
    | false => rw [Call.commit_of_not_succeeds hsucceeds]
    | true =>
        obtain ⟨value, next, hrun⟩ := Call.succeeds_iff.mp hsucceeds
        rw [Call.commit_of_ok hrun]
        exact hcall state value next rfl hrun
  cases transaction with
  | executeSameTokenPayroll msg token recipients amounts referenceId =>
      exact congrArg record (Call.commit_of_not_succeeds (guarded_not_succeeds hc hentered))
  | executeCrossTokenPayroll msg tokenIn tokenOut recipients outputAmounts grossInput minTotalOut
      minHopPriceX36 deadline referenceId =>
      exact congrArg record (Call.commit_of_not_succeeds (guarded_not_succeeds hc hentered))
  | pause msg => exact hkeep (pause_record.bind fun _ => .pure _)
  | unpause msg => exact hkeep (unpause_record.bind fun _ => .pure _)
  | rescueTokens msg token target amount => exact absurd rfl (hrescue msg token target amount)
  | transferOwnership newOwner => rfl
  | renounceOwnership => rfl

/-- Outside code that runs during a payroll call leaves the record alone. -/
theorem Interacts.record_eq (hc : c.Sandboxed) {state next : State Hash χ}
    (hinteracts : Interacts c state next) (hentered : state.entered = true) :
    record next = record state := by
  induction hinteracts with
  | done state => rfl
  | chain chain _ ih => exact ih hentered
  | call transaction hrescue _ ih =>
      have hcommit := commit_record_of_entered hc hrescue hentered
      have hstill := congrArg Record.entered hcommit
      exact (ih (hstill.trans hentered)).trans hcommit
  | rescued token target amount _ ih =>
      rw [ih hentered]
      simp [record, Event.isPayroll]

/-- A call into outside code keeps the record of a running payroll call. -/
theorem keeps_external (hc : c.Sandboxed) {reading : Record Hash} (hentered : reading.entered = true)
    {effect : State Hash χ → Option (State Hash χ)} {error : Revert (Error Hash)}
    (heffect : ∀ {state next}, effect state = some next → Interacts c state next) :
    Call.Keeps record reading (Call.external effect error) :=
  .external fun state next hreading hnext => by
    rw [← hreading] at hentered ⊢
    exact (heffect hnext).record_eq hc hentered

end

end WizPay.PayrollMainnet
