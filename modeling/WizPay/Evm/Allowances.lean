import WizPay.Evm.StandardTokens

/-!
# Standing allowances

A contract that lets a router pull tokens through Permit2 grants two allowances before it
calls the router and takes both back afterwards. Code outside the contract spends
allowances and may call the contract back, but only the contract itself grants any. A
contract that owes nobody an allowance between its transactions therefore has to take back
what it grants in every one of them, whatever the router does meanwhile.
-/

namespace WizPay.Evm

open Foundation

/-- The allowances of one token that a contract has standing: of Permit2 on the token, and
of the router through Permit2. -/
structure Allowances (χ : Type) where
  permit2 : χ → ℕ
  router : χ → ℕ

namespace Allowances

variable {E ρ ω χ τ α : Type} (a : Allowances χ)

/-- Neither allowance grows. -/
def Spends (before after : χ) : Prop :=
  a.permit2 after ≤ a.permit2 before ∧ a.router after ≤ a.router before

/-- Neither allowance stands. -/
def Clear (chain : χ) : Prop := a.permit2 chain = 0 ∧ a.router chain = 0

variable {a} in
theorem Spends.refl (chain : χ) : a.Spends chain chain := ⟨le_rfl, le_rfl⟩

variable {a} in
theorem Spends.trans {first second third : χ} (hfirst : a.Spends first second)
    (hsecond : a.Spends second third) : a.Spends first third :=
  ⟨hsecond.1.trans hfirst.1, hsecond.2.trans hfirst.2⟩

variable {a} in
theorem Clear.spends {before after : χ} (hclear : a.Clear before) (hspends : a.Spends before after) :
    a.Clear after :=
  ⟨Nat.le_zero.mp (hclear.1 ▸ hspends.1), Nat.le_zero.mp (hclear.2 ▸ hspends.2)⟩

/-- What code outside the contract does to its state: it moves the chain without granting
an allowance of the contract, calls the contract back, and leaves events of calls whose own
calls out are outside code again. -/
inductive Acts (exec : τ → ContractCall E ρ ω χ α) (nested : τ → Prop) :
    ContractState ρ ω χ → ContractState ρ ω χ → Prop
  | done (state : ContractState ρ ω χ) : Acts exec nested state state
  | chain {state next : ContractState ρ ω χ} (chain : χ) (hspends : a.Spends state.chain chain) :
      Acts exec nested { state with chain := chain } next → Acts exec nested state next
  | call {state next : ContractState ρ ω χ} (call : τ) (hnested : nested call) :
      Acts exec nested ((exec call).commit state) next → Acts exec nested state next
  | event {state next : ContractState ρ ω χ} (event : ω) :
      Acts exec nested { state with events := state.events ++ [event] } next →
        Acts exec nested state next

/-- The code a contract calls, where the tokens and Permit2 keep allowances the standard
way: an approval of the contract sets its allowance, and nothing else grants one. -/
structure Standing (exec : τ → ContractCall E ρ ω χ α) (nested : τ → Prop)
    (ext : Externals (ContractState ρ ω χ) χ) (token permit2 router : Address) : Prop where
  receiveValue : ∀ {sender value state next}, ext.receiveValue sender value state = some next →
    ∃ chain, next = { state with chain := chain } ∧ a.Spends state.chain chain
  safeTransfer : ∀ {moved target amount state next},
    ext.safeTransfer moved target amount state = some next → a.Acts exec nested state next
  safeTransferFrom : ∀ {moved source target amount state next},
    ext.safeTransferFrom moved source target amount state = some next →
      a.Acts exec nested state next
  forceApprove : ∀ {amount state next}, ext.forceApprove token permit2 amount state = some next →
    ∃ chain, next = { state with chain := chain } ∧ a.permit2 chain = amount ∧
      a.router chain ≤ a.router state.chain
  permit2Approve : ∀ {amount expiration state next},
    ext.permit2Approve token router amount expiration state = some next →
      ∃ chain, next = { state with chain := chain } ∧ a.router chain = amount ∧
        a.permit2 chain ≤ a.permit2 state.chain
  callValue : ∀ {target value state next}, ext.callValue target value state = some next →
    a.Acts exec nested state next
  execute : ∀ {request state next}, ext.execute request state = some next →
    a.Acts exec nested state next

/-- The states between transactions: of the contract, and of anybody else. -/
inductive Reachable (exec : τ → ContractCall E ρ ω χ α) (nested : τ → Prop)
    (start : ContractState ρ ω χ) : ContractState ρ ω χ → Prop
  | start : Reachable exec nested start start
  | call {state : ContractState ρ ω χ} (call : τ) :
      Reachable exec nested start state → Reachable exec nested start ((exec call).commit state)
  | others {state next : ContractState ρ ω χ} : Reachable exec nested start state →
      a.Acts exec nested state next → Reachable exec nested start next

/-! ## Between and during calls -/

/-- Unlocked, and no allowance stands. -/
def Settled (state : ContractState ρ ω χ) : Prop := state.entered = false ∧ a.Clear state.chain

/-- During a guarded call, the guard holds and neither allowance has grown. -/
def Guards (before after : ContractState ρ ω χ) : Prop :=
  after.entered = true ∧ a.Spends before.chain after.chain

variable {a} {exec : τ → ContractCall E ρ ω χ α} {nested : τ → Prop}

/-- A guarded call that calls out to code which only spends stays guarded. -/
theorem Acts.guards (hcalls : ∀ call, nested call → ∀ state, state.entered = true →
      a.Guards state ((exec call).commit state)) {state next : ContractState ρ ω χ}
    (hacts : a.Acts exec nested state next) (hentered : state.entered = true) :
    a.Guards state next := by
  induction hacts with
  | done state => exact ⟨hentered, .refl state.chain⟩
  | chain chain hspends _ ih => exact ⟨(ih hentered).1, hspends.trans (ih hentered).2⟩
  | call call hnested _ ih =>
      have hcall := hcalls call hnested _ hentered
      exact ⟨(ih hcall.1).1, hcall.2.trans (ih hcall.1).2⟩
  | event event _ ih => exact ih hentered

/-- Between calls, what others do leaves nothing standing. -/
theorem Acts.settled (hcalls : ∀ call, nested call → ∀ state, a.Settled state →
      a.Settled ((exec call).commit state)) {state next : ContractState ρ ω χ}
    (hacts : a.Acts exec nested state next) (hsettled : a.Settled state) : a.Settled next := by
  induction hacts with
  | done state => exact hsettled
  | chain chain hspends _ ih => exact ih ⟨hsettled.1, hsettled.2.spends hspends⟩
  | call call hnested _ ih => exact ih (hcalls call hnested _ hsettled)
  | event event _ ih => exact ih hsettled

theorem Reachable.settled (hcalls : ∀ call state, a.Settled state → a.Settled ((exec call).commit state))
    {start state : ContractState ρ ω χ} (hstart : a.Settled start)
    (hreachable : a.Reachable exec nested start state) : a.Settled state := by
  induction hreachable with
  | start => exact hstart
  | call call _ ih => exact hcalls call _ ih
  | others _ hacts ih => exact hacts.settled (fun call _ => hcalls call) ih

/-- What a guarded call reads of itself. -/
def standing (a : Allowances χ) (state : ContractState ρ ω χ) : Bool × ℕ × ℕ :=
  (state.entered, a.permit2 state.chain, a.router state.chain)

theorem standing_eq {state : ContractState ρ ω χ} :
    a.standing state = (true, 0, 0) ↔ state.entered = true ∧ a.Clear state.chain := by
  simp [standing, Clear]

/-- Calling out keeps a guarded call without allowances that way. -/
theorem keeps_acts (hcalls : ∀ call, nested call → ∀ state, state.entered = true →
      a.Guards state ((exec call).commit state))
    {effect : ContractState ρ ω χ → Option (ContractState ρ ω χ)} {error : Revert E}
    (heffect : ∀ {state next}, effect state = some next → a.Acts exec nested state next) :
    Call.Keeps a.standing (true, 0, 0) (Call.external effect error) :=
  .external fun state next hstanding hnext => by
    obtain ⟨hentered, hclear⟩ := standing_eq.mp hstanding
    obtain ⟨hstill, hspends⟩ := (heffect hnext).guards hcalls hentered
    exact standing_eq.mpr ⟨hstill, hclear.spends hspends⟩

/-- It keeps the guard, whatever stands. -/
theorem keeps_entered (hcalls : ∀ call, nested call → ∀ state, state.entered = true →
      a.Guards state ((exec call).commit state))
    {effect : ContractState ρ ω χ → Option (ContractState ρ ω χ)} {error : Revert E}
    (heffect : ∀ {state next}, effect state = some next → a.Acts exec nested state next) :
    Call.Keeps ContractState.entered true (Call.external effect error) :=
  .external fun _ _ hentered hnext => ((heffect hnext).guards hcalls hentered).1

theorem keeps_modify {γ : Type} {reading : ContractState ρ ω χ → γ} {value : γ}
    {change : ContractState ρ ω χ → ContractState ρ ω χ}
    (hchange : ∀ state, reading (change state) = reading state) :
    Call.Keeps reading value (modify change : ContractCall E ρ ω χ PUnit) := by
  intro state result next hreading hrun
  obtain ⟨_, rfl⟩ := Prod.mk.inj (Call.modify_ok.mp hrun)
  exact (hchange state).trans hreading

/-- What follows a check knows that it passed. -/
theorem keeps_check {γ β : Type} {reading : ContractState ρ ω χ → γ} {value : γ} {condition : Prop}
    [Decidable condition] {error : E} {rest : Unit → ContractCall E ρ ω χ β}
    (hrest : ¬ condition → Call.Keeps reading value (rest ())) :
    Call.Keeps reading value (revertIf condition error >>= rest) := by
  intro state result next hreading hrun
  obtain ⟨hcondition, hrun⟩ := bind_revertIf_ok.mp hrun
  exact hrest hcondition state result next hreading hrun

/-- A guarded entry point settles when its body, from a guarded state without allowances,
leaves none. -/
theorem entryPoint_settled {ext : Externals (ContractState ρ ω χ) χ} {token permit2 router : Address}
    (hext : a.Standing exec nested ext token permit2 router) {msg : Msg}
    {body : ContractCall E ρ ω χ α}
    (hbody : Call.Keeps a.standing (true, 0, 0) body)
    {state next : ContractState ρ ω χ} {value : α} (hsettled : a.Settled state)
    (hrun : (payable ext msg (nonReentrant (whenNotPaused body))).run state = .ok (value, next)) :
    a.Settled next := by
  obtain ⟨funded, last, hfunded, -, hlast, rfl⟩ := entryPoint_ok hrun
  obtain ⟨chain, rfl, hspends⟩ := hext.receiveValue hfunded
  have hstart : a.standing { state with chain := chain, entered := true } = (true, 0, 0) :=
    standing_eq.mpr ⟨rfl, hsettled.2.spends hspends⟩
  exact ⟨rfl, (standing_eq.mp (hbody _ _ _ hstart hlast)).2⟩

/-- Reentering it fails. -/
theorem entryPoint_guards {ext : Externals (ContractState ρ ω χ) χ} {token permit2 router : Address}
    (hext : a.Standing exec nested ext token permit2 router) {msg : Msg}
    {body : ContractCall E ρ ω χ α} {state : ContractState ρ ω χ} (hentered : state.entered = true) :
    a.Guards state ((payable ext msg (nonReentrant body)).commit state) := by
  cases hsucceeds : (payable ext msg (nonReentrant body)).succeeds state with
  | false =>
      rw [Call.commit_of_not_succeeds hsucceeds]
      exact ⟨hentered, .refl state.chain⟩
  | true =>
      obtain ⟨value, next, hrun⟩ := Call.succeeds_iff.mp hsucceeds
      obtain ⟨funded, hfunded, hbody⟩ := payable_ok.mp hrun
      obtain ⟨chain, rfl, -⟩ := hext.receiveValue hfunded
      rw [(nonReentrant_ok.mp hbody).1] at hentered
      cases hentered

/-! ## Administration -/

/-- What the administration of a contract leaves alone: the guard and the chain. -/
def outlook (state : ContractState ρ ω χ) : Bool × χ := (state.entered, state.chain)

theorem setPaused_keeps {paused : Bool} {event : ω} {reading : Bool × χ} :
    Call.Keeps outlook reading (do
      modify fun state => { state with paused := paused }
      emit event : ContractCall E ρ ω χ PUnit) :=
  .bind (keeps_modify fun _ => rfl) fun _ => keeps_modify fun _ => rfl

theorem pause_keeps {owner : Address} {msg : Msg} {event : ω} {reading : Bool × χ} :
    Call.Keeps outlook reading (nonPayable msg <| onlyOwner owner msg <| whenNotPaused do
      modify fun state => { state with paused := true }
      emit event : ContractCall E ρ ω χ PUnit) :=
  .bind (.revertIf _ _) fun _ => .bind (.revertIf _ _) fun _ => .bind .get fun _ =>
    .bind (.revertIf _ _) fun _ => setPaused_keeps

theorem unpause_keeps {owner : Address} {msg : Msg} {event : ω} {reading : Bool × χ} :
    Call.Keeps outlook reading (nonPayable msg <| onlyOwner owner msg <| whenPaused do
      modify fun state => { state with paused := false }
      emit event : ContractCall E ρ ω χ PUnit) :=
  .bind (.revertIf _ _) fun _ => .bind (.revertIf _ _) fun _ => .bind .get fun _ =>
    .bind (.revertIf _ _) fun _ => setPaused_keeps

theorem commit_settled {call : ContractCall E ρ ω χ α} {state : ContractState ρ ω χ}
    (hsettled : a.Settled state)
    (hcall : ∀ value next, call.run state = .ok (value, next) → a.Settled next) :
    a.Settled (call.commit state) := by
  cases hsucceeds : call.succeeds state with
  | false =>
      rw [Call.commit_of_not_succeeds hsucceeds]
      exact hsettled
  | true =>
      obtain ⟨value, next, hrun⟩ := Call.succeeds_iff.mp hsucceeds
      rw [Call.commit_of_ok hrun]
      exact hcall value next hrun

theorem commit_outlook {call : ContractCall E ρ ω χ α} {state : ContractState ρ ω χ}
    (hcall : Call.Keeps outlook (outlook state) call) :
    (call.commit state).entered = state.entered ∧ (call.commit state).chain = state.chain := by
  cases hsucceeds : call.succeeds state with
  | false =>
      rw [Call.commit_of_not_succeeds hsucceeds]
      exact ⟨rfl, rfl⟩
  | true =>
      obtain ⟨value, next, hrun⟩ := Call.succeeds_iff.mp hsucceeds
      rw [Call.commit_of_ok hrun]
      exact Prod.mk.inj (hcall state value next rfl hrun)

theorem guards_of_outlook {call : ContractCall E ρ ω χ α} {state : ContractState ρ ω χ}
    (hentered : state.entered = true) (hcall : Call.Keeps outlook (outlook state) call) :
    a.Guards state (call.commit state) := by
  obtain ⟨hsame, hchain⟩ := commit_outlook hcall
  refine ⟨hsame.trans hentered, ?_⟩
  rw [hchain]
  exact .refl state.chain

theorem settled_of_outlook {call : ContractCall E ρ ω χ α} {state : ContractState ρ ω χ}
    (hsettled : a.Settled state) (hcall : Call.Keeps outlook (outlook state) call) :
    a.Settled (call.commit state) := by
  obtain ⟨hsame, hchain⟩ := commit_outlook hcall
  refine ⟨hsame.trans hsettled.1, ?_⟩
  rw [hchain]
  exact hsettled.2

/-! ## Granting and taking back -/

/-- Taking both allowances back leaves none, whatever stood before. -/
theorem revoke_clear {ext : Externals (ContractState ρ ω χ) χ} {token permit2 router : Address}
    (hext : a.Standing exec nested ext token permit2 router)
    {state next : ContractState ρ ω χ} {result : Unit} (hentered : state.entered = true)
    (hrun : (do
      callExternal (ext.forceApprove token permit2 0)
      callExternal (ext.permit2Approve token router 0 0) : ContractCall E ρ ω χ Unit).run state =
        .ok (result, next)) :
    a.standing next = (true, 0, 0) := by
  obtain ⟨approved, happroved, hpermit⟩ := bind_callExternal_ok.mp hrun
  obtain ⟨last, hlast, hsame⟩ := callExternal_ok.mp hpermit
  obtain ⟨_, rfl⟩ := Prod.mk.inj hsame
  obtain ⟨chain, rfl, hpermit2, -⟩ := hext.forceApprove happroved
  obtain ⟨final, rfl, hrouter, hless⟩ := hext.permit2Approve hlast
  exact standing_eq.mpr ⟨hentered, Nat.le_zero.mp (hpermit2 ▸ hless), hrouter⟩

/-- Approvals of the contract keep its guard. -/
theorem keeps_forceApprove {ext : Externals (ContractState ρ ω χ) χ} {token permit2 router : Address}
    (hext : a.Standing exec nested ext token permit2 router) (amount : ℕ) :
    Call.Keeps ContractState.entered true
      (callExternal (ext.forceApprove token permit2 amount) : ContractCall E ρ ω χ Unit) :=
  .external fun state next hentered hnext => by
    obtain ⟨chain, rfl, -⟩ := hext.forceApprove hnext
    exact hentered

theorem keeps_permit2Approve {ext : Externals (ContractState ρ ω χ) χ}
    {token permit2 router : Address} (hext : a.Standing exec nested ext token permit2 router)
    (amount expiration : ℕ) :
    Call.Keeps ContractState.entered true
      (callExternal (ext.permit2Approve token router amount expiration) :
        ContractCall E ρ ω χ Unit) :=
  .external fun state next hentered hnext => by
    obtain ⟨chain, rfl, -⟩ := hext.permit2Approve hnext
    exact hentered

/-! ## What nobody can pull -/

/-- A pull of tokens from the contract is covered by one of its allowances. -/
def Covers (a : Allowances χ) (pull : ℕ → χ → Option χ) : Prop :=
  ∀ amount before after, pull amount before = some after →
    amount ≤ a.permit2 before ∨ amount ≤ a.router before

/-- No allowance stands, and no tokens can be pulled. -/
structure NothingStands (a : Allowances χ) (pull : ℕ → χ → Option χ) (chain : χ) : Prop where
  clear : a.Clear chain
  unpullable : ∀ amount after, pull amount chain = some after → amount = 0

theorem Clear.nothingStands {pull : ℕ → χ → Option χ} (hpull : a.Covers pull) {chain : χ}
    (hclear : a.Clear chain) : a.NothingStands pull chain where
  clear := hclear
  unpullable amount after hpulled := by
    rcases hpull amount chain after hpulled with hpermit2 | hrouter
    · exact Nat.le_zero.mp (hclear.1 ▸ hpermit2)
    · exact Nat.le_zero.mp (hclear.2 ▸ hrouter)

end Allowances

/-! ## Standard tokens -/

/-- The allowances of a contract on the ledgers. -/
def Ledgers.allowances (token self permit2 router : Address) : Allowances Ledgers where
  permit2 ledgers := ledgers.allowance token self permit2
  router ledgers := (ledgers.permit2Allowance token self router).1

/-- A pull by the router, through Permit2. -/
def Ledgers.permit2TransferFrom (token permit2 router source target : Address) (amount : ℕ)
    (ledgers : Ledgers) : Option Ledgers :=
  let allowed := ledgers.permit2Allowance token source router
  if allowed.1 < amount then none
  else (ledgers.setPermit2Allowance token source router (allowed.1 - amount) allowed.2).transferFrom
    token permit2 source target amount

section Standard

variable {E ρ ω τ α : Type} {exec : τ → ContractCall E ρ ω Ledgers α} {nested : τ → Prop}
  {token self permit2 universalRouter : Address}

theorem permit2TransferFrom_covers (target : Address) :
    (Ledgers.allowances token self permit2 universalRouter).Covers
      (Ledgers.permit2TransferFrom token permit2 universalRouter self target) := by
  intro amount before after hpull
  unfold Ledgers.permit2TransferFrom at hpull
  dsimp only at hpull
  split at hpull
  · cases hpull
  · next hallowed => exact .inr (Nat.le_of_not_lt hallowed)

theorem moveToken_spends {moved source target : Address} {amount : ℕ} {before after : Ledgers}
    (hmove : Ledgers.moveToken moved source target amount before = some after) :
    (Ledgers.allowances token self permit2 universalRouter).Spends before after := by
  unfold Ledgers.moveToken at hmove
  split at hmove
  · cases hmove
  · obtain ⟨balance, -, rfl⟩ := Option.map_eq_some_iff.mp hmove
    exact ⟨le_rfl, le_rfl⟩

theorem moveNative_spends {source target : Address} {amount : ℕ} {before after : Ledgers}
    (hmove : Ledgers.moveNative source target amount before = some after) :
    (Ledgers.allowances token self permit2 universalRouter).Spends before after := by
  obtain ⟨native, -, rfl⟩ := Option.map_eq_some_iff.mp hmove
  exact ⟨le_rfl, le_rfl⟩

theorem spendAllowance_spends {moved owner spender : Address} {amount : ℕ} {before after : Ledgers}
    (hspend : Ledgers.spendAllowance moved owner spender amount before = some after) :
    (Ledgers.allowances token self permit2 universalRouter).Spends before after := by
  unfold Ledgers.spendAllowance at hspend
  dsimp only at hspend
  split at hspend
  · obtain rfl := Option.some.inj hspend
    exact .refl before
  · split at hspend
    · cases hspend
    · obtain rfl := Option.some.inj hspend
      refine ⟨?_, le_rfl⟩
      dsimp only [Ledgers.allowances, Ledgers.setAllowance]
      by_cases htoken : token = moved
      · subst htoken
        rw [Function.update_self]
        by_cases howner : self = owner
        · subst howner
          rw [Function.update_self]
          by_cases hspender : permit2 = spender
          · subst hspender
            rw [Function.update_self]
            exact Nat.sub_le _ _
          · rw [Function.update_of_ne hspender]
        · rw [Function.update_of_ne howner]
      · rw [Function.update_of_ne htoken]

theorem transferFrom_spends {moved spender source target : Address} {amount : ℕ}
    {before after : Ledgers}
    (htransfer : Ledgers.transferFrom moved spender source target amount before = some after) :
    (Ledgers.allowances token self permit2 universalRouter).Spends before after := by
  obtain ⟨spent, hspent, hmove⟩ := Option.bind_eq_some_iff.mp htransfer
  exact (spendAllowance_spends hspent).trans (moveToken_spends hmove)

/-- An effect that grants nothing is one of outside code. -/
theorem onChain_acts {a : Allowances Ledgers} {effect : Ledgers → Option Ledgers}
    (heffect : ∀ before after, effect before = some after → a.Spends before after)
    {state next : ContractState ρ ω Ledgers} (hnext : onChain effect state = some next) :
    a.Acts exec nested state next := by
  obtain ⟨chain, hchain, rfl⟩ := onChain_eq_some.mp hnext
  exact .chain chain (heffect state.chain chain hchain) (.done _)

/-- Standard tokens and Permit2 keep allowances the standard way, next to any router that
does not grant any. -/
theorem standardExternals_standing {router : Router ρ ω}
    (hrouter : ∀ request state next, router request state = some next →
      (Ledgers.allowances token self permit2 universalRouter).Acts exec nested state next) :
    (Ledgers.allowances token self permit2 universalRouter).Standing exec nested
      (standardExternals self universalRouter router) token permit2 universalRouter where
  receiveValue hnext := by
    obtain ⟨chain, hchain, rfl⟩ := onChain_eq_some.mp hnext
    exact ⟨chain, rfl, moveNative_spends hchain⟩
  safeTransfer hnext := onChain_acts (fun _ _ => moveToken_spends) hnext
  safeTransferFrom hnext := onChain_acts (fun _ _ => transferFrom_spends) hnext
  forceApprove hnext := by
    obtain rfl := (Option.some.inj hnext).symm
    refine ⟨_, rfl, ?_, le_rfl⟩
    simp [Ledgers.allowances, Ledgers.setAllowance]
  permit2Approve hnext := by
    obtain rfl := (Option.some.inj hnext).symm
    refine ⟨_, rfl, ?_, le_rfl⟩
    simp [Ledgers.allowances, Ledgers.setPermit2Allowance]
  callValue hnext := onChain_acts (fun _ _ => moveNative_spends) hnext
  execute hnext := by
    obtain ⟨handed, hhanded, hrouted⟩ := Option.bind_eq_some_iff.mp hnext
    obtain ⟨chain, hchain, rfl⟩ := onChain_eq_some.mp hhanded
    exact .chain chain (moveNative_spends hchain) (hrouter _ _ _ hrouted)

end Standard

end WizPay.Evm
