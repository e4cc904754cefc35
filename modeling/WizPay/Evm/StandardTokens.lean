import WizPay.Evm.Contract
import WizPay.Foundation.Ledger

/-!
# Standard tokens

The chain as the mainnet contracts see it when every token is a plain ERC-20:
a native ledger, one ledger a token, and the two layers of allowances. The fee
recipient accepts native value and does nothing else. The Universal Router
stays an arbitrary function.
-/

namespace WizPay.Evm

open Foundation

structure Ledgers where
  native : Ledger Address
  balance : Address → Ledger Address
  /-- ERC-20 allowances, by token, owner and spender. -/
  allowance : Address → Address → Address → ℕ
  /-- Permit2 allowances and expirations, by token, owner and spender. -/
  permit2Allowance : Address → Address → Address → ℕ × ℕ

namespace Ledgers

def moveNative (source target : Address) (amount : ℕ) (ledgers : Ledgers) : Option Ledgers :=
  (Ledger.move source target amount ledgers.native).map fun native =>
    { ledgers with native := native }

/-- `_transfer` of an ERC-20: the zero address neither sends nor receives. -/
def moveToken (token source target : Address) (amount : ℕ) (ledgers : Ledgers) : Option Ledgers :=
  if source = 0 ∨ target = 0 then none
  else (Ledger.move source target amount (ledgers.balance token)).map fun balance =>
    { ledgers with balance := Function.update ledgers.balance token balance }

def setAllowance (token owner spender : Address) (amount : ℕ) (ledgers : Ledgers) : Ledgers :=
  { ledgers with
    allowance := Function.update ledgers.allowance token
      (Function.update (ledgers.allowance token) owner
        (Function.update (ledgers.allowance token owner) spender amount)) }

def setPermit2Allowance (token owner spender : Address) (amount expiration : ℕ)
    (ledgers : Ledgers) : Ledgers :=
  { ledgers with
    permit2Allowance := Function.update ledgers.permit2Allowance token
      (Function.update (ledgers.permit2Allowance token) owner
        (Function.update (ledgers.permit2Allowance token owner) spender (amount, expiration))) }

/-- `_spendAllowance` of an ERC-20: an unlimited allowance is not consumed. -/
def spendAllowance (token owner spender : Address) (amount : ℕ) (ledgers : Ledgers) :
    Option Ledgers :=
  let current := ledgers.allowance token owner spender
  if current = uint256Bound - 1 then some ledgers
  else if current < amount then none
  else some (ledgers.setAllowance token owner spender (current - amount))

def transferFrom (token spender source target : Address) (amount : ℕ) (ledgers : Ledgers) :
    Option Ledgers :=
  (ledgers.spendAllowance token source spender amount).bind (moveToken token source target amount)

end Ledgers

section

variable {ρ ω : Type}

/-- An effect on the ledgers, as an effect on the state of a call. -/
def onChain (effect : Ledgers → Option Ledgers) (state : ContractState ρ ω Ledgers) :
    Option (ContractState ρ ω Ledgers) :=
  (effect state.chain).map fun chain => { state with chain := chain }

/-- The Universal Router: an arbitrary function, run once the value of the call
has reached it. -/
abbrev Router (ρ ω : Type) :=
  RouterCall → ContractState ρ ω Ledgers → Option (ContractState ρ ω Ledgers)

/-- The code called by the contract at `self`, on standard tokens. -/
def standardExternals (self universalRouter : Address) (router : Router ρ ω) :
    Externals (ContractState ρ ω Ledgers) Ledgers where
  balanceOf := fun ledgers token account => ledgers.balance token account
  nativeBalance := fun ledgers account => ledgers.native account
  receiveValue := fun sender value => onChain (Ledgers.moveNative sender self value)
  safeTransfer := fun token target amount => onChain (Ledgers.moveToken token self target amount)
  safeTransferFrom := fun token source target amount =>
    onChain (Ledgers.transferFrom token self source target amount)
  forceApprove := fun token spender amount =>
    onChain fun ledgers => some (ledgers.setAllowance token self spender amount)
  permit2Approve := fun token spender amount expiration =>
    onChain fun ledgers => some (ledgers.setPermit2Allowance token self spender amount expiration)
  callValue := fun target value => onChain (Ledgers.moveNative self target value)
  execute := fun request state =>
    (onChain (Ledgers.moveNative self universalRouter request.value) state).bind (router request)

theorem onChain_eq_some {effect : Ledgers → Option Ledgers}
    {state next : ContractState ρ ω Ledgers} :
    onChain effect state = some next ↔
      ∃ chain, effect state.chain = some chain ∧ next = { state with chain := chain } := by
  rw [onChain, Option.map_eq_some_iff]
  exact exists_congr fun chain => and_congr_right fun _ => eq_comm

end

namespace Ledgers

/-! ## What one movement does -/

/-- Between two states of the chain, only balances of `token` moved. -/
structure TokenFlow (before : Ledgers) (token : Address) (after : Ledgers)
    (outflow inflow : Ledger Address) : Prop where
  flow : (before.balance token).Flow (after.balance token) outflow inflow
  others : ∀ other, other ≠ token → after.balance other = before.balance other
  native : after.native = before.native

/-- Between two states of the chain, only native value moved. -/
structure NativeFlow (before after : Ledgers) (outflow inflow : Ledger Address) : Prop where
  flow : before.native.Flow after.native outflow inflow
  balance : after.balance = before.balance

variable {before middle after : Ledgers} {token source target spender : Address} {amount : ℕ}
variable {outflow inflow outflow' inflow' : Ledger Address}

theorem TokenFlow.trans (hfirst : TokenFlow before token middle outflow inflow)
    (hsecond : TokenFlow middle token after outflow' inflow') :
    TokenFlow before token after (outflow + outflow') (inflow + inflow') where
  flow := hfirst.flow.trans hsecond.flow
  others := fun other hother => (hsecond.others other hother).trans (hfirst.others other hother)
  native := hsecond.native.trans hfirst.native

theorem NativeFlow.trans (hfirst : NativeFlow before middle outflow inflow)
    (hsecond : NativeFlow middle after outflow' inflow') :
    NativeFlow before after (outflow + outflow') (inflow + inflow') where
  flow := hfirst.flow.trans hsecond.flow
  balance := hsecond.balance.trans hfirst.balance

/-- A change of allowances moves no balance. -/
theorem TokenFlow.of_eq (hbalance : after.balance = before.balance)
    (hnative : after.native = before.native) : TokenFlow before token after 0 0 where
  flow := congrFun hbalance token
  others := fun other _ => congrFun hbalance other
  native := hnative

theorem moveNative_flow (hmove : moveNative source target amount before = some after) :
    NativeFlow before after (Pi.single source amount) (Pi.single target amount) := by
  obtain ⟨native, hnative, rfl⟩ := Option.map_eq_some_iff.mp hmove
  exact ⟨Ledger.move_flow hnative, rfl⟩

/-- Moving no value changes nothing. -/
theorem moveNative_zero (hmove : moveNative source target 0 before = some after) :
    after = before := by
  obtain ⟨native, hnative, rfl⟩ := Option.map_eq_some_iff.mp hmove
  rw [Ledger.move_zero hnative]

theorem moveToken_flow (hmove : moveToken token source target amount before = some after) :
    TokenFlow before token after (Pi.single source amount) (Pi.single target amount) := by
  unfold moveToken at hmove
  split at hmove
  next => cases hmove
  next =>
    obtain ⟨balance, hbalance, rfl⟩ := Option.map_eq_some_iff.mp hmove
    refine ⟨?_, fun other hother => Function.update_of_ne hother _ _, rfl⟩
    simp only [Function.update_self]
    exact Ledger.move_flow hbalance

theorem le_of_moveToken (hmove : moveToken token source target amount before = some after) :
    amount ≤ before.balance token source := by
  unfold moveToken at hmove
  split at hmove
  next => cases hmove
  next =>
    obtain ⟨balance, hbalance, _⟩ := Option.map_eq_some_iff.mp hmove
    exact (Ledger.move_eq_some.mp hbalance).1

theorem spendAllowance_balances
    (hspend : spendAllowance token source spender amount before = some after) :
    after.balance = before.balance ∧ after.native = before.native := by
  simp only [spendAllowance] at hspend
  split at hspend
  next => cases hspend; exact ⟨rfl, rfl⟩
  next =>
    split at hspend
    next => cases hspend
    next => cases hspend; exact ⟨rfl, rfl⟩

@[simp] theorem setAllowance_balance (token owner spender : Address) (amount : ℕ)
    (ledgers : Ledgers) : (ledgers.setAllowance token owner spender amount).balance =
      ledgers.balance := rfl

@[simp] theorem setAllowance_native (token owner spender : Address) (amount : ℕ)
    (ledgers : Ledgers) : (ledgers.setAllowance token owner spender amount).native =
      ledgers.native := rfl

@[simp] theorem setPermit2Allowance_balance (token owner spender : Address)
    (amount expiration : ℕ) (ledgers : Ledgers) :
    (ledgers.setPermit2Allowance token owner spender amount expiration).balance =
      ledgers.balance := rfl

@[simp] theorem setPermit2Allowance_native (token owner spender : Address)
    (amount expiration : ℕ) (ledgers : Ledgers) :
    (ledgers.setPermit2Allowance token owner spender amount expiration).native =
      ledgers.native := rfl

/-- What may be spent covers the amount: it is at most the allowance, or the
allowance is unlimited and the amount an arbitrary `uint256`. -/
theorem le_of_spendAllowance (hbound : amount < uint256Bound)
    (hspend : spendAllowance token source spender amount before = some after) :
    amount ≤ before.allowance token source spender := by
  simp only [spendAllowance] at hspend
  split at hspend
  next hunlimited => rw [hunlimited]; exact Nat.le_sub_one_of_lt hbound
  next =>
    split at hspend
    next => cases hspend
    next hcovered => exact Nat.not_lt.mp hcovered

/-- A pull moves the amount, which the source holds and allowed. -/
theorem transferFrom_flow (hbound : amount < uint256Bound)
    (hpull : transferFrom token spender source target amount before = some after) :
    TokenFlow before token after (Pi.single source amount) (Pi.single target amount) ∧
      amount ≤ before.balance token source ∧ amount ≤ before.allowance token source spender := by
  obtain ⟨spent, hspent, hmoved⟩ := Option.bind_eq_some_iff.mp hpull
  obtain ⟨hbalance, hnative⟩ := spendAllowance_balances hspent
  have hflow := (TokenFlow.of_eq hbalance hnative).trans (moveToken_flow hmoved)
  rw [zero_add, zero_add] at hflow
  refine ⟨hflow, ?_, le_of_spendAllowance hbound hspent⟩
  rw [← hbalance]
  exact le_of_moveToken hmoved

end Ledgers

/-! ## The calls a contract makes on standard tokens -/

section Calls

variable {E ρ ω : Type} {ext : Externals (ContractState ρ ω Ledgers) Ledgers}
  {self universalRouter : Address} {router : Router ρ ω}
  (hext : ext = standardExternals self universalRouter router)
include hext

theorem balanceOf_standard (ledgers : Ledgers) (token account : Address) :
    ext.balanceOf ledgers token account = ledgers.balance token account := by
  rw [hext]
  rfl

theorem nativeBalance_standard (ledgers : Ledgers) (account : Address) :
    ext.nativeBalance ledgers account = ledgers.native account := by
  rw [hext]
  rfl

theorem receiveValue_flow {sender : Address} {value : ℕ} {state next : ContractState ρ ω Ledgers}
    (hreceive : ext.receiveValue sender value state = some next) :
    state.chain.NativeFlow next.chain (Pi.single sender value) (Pi.single self value) := by
  rw [hext] at hreceive
  obtain ⟨chain, hchain, rfl⟩ := onChain_eq_some.mp hreceive
  exact Ledgers.moveNative_flow hchain

/-- A call without value leaves the chain as it is. -/
theorem receiveValue_zero {sender : Address} {state next : ContractState ρ ω Ledgers}
    (hreceive : ext.receiveValue sender 0 state = some next) : next.chain = state.chain := by
  rw [hext] at hreceive
  have hreceive : onChain (Ledgers.moveNative sender self 0) state = some next := hreceive
  obtain ⟨chain, hchain, rfl⟩ := onChain_eq_some.mp hreceive
  exact Ledgers.moveNative_zero hchain

theorem safeTransfer_flow {token target : Address} {amount : ℕ}
    {state next : ContractState ρ ω Ledgers}
    (htransfer : ext.safeTransfer token target amount state = some next) :
    state.chain.TokenFlow token next.chain (Pi.single self amount) (Pi.single target amount) := by
  rw [hext] at htransfer
  obtain ⟨chain, hchain, rfl⟩ := onChain_eq_some.mp htransfer
  exact Ledgers.moveToken_flow hchain

theorem safeTransferFrom_flow {token source : Address} {amount : ℕ}
    {state next : ContractState ρ ω Ledgers} (hbound : amount < uint256Bound)
    (hpull : ext.safeTransferFrom token source self amount state = some next) :
    state.chain.TokenFlow token next.chain (Pi.single source amount) (Pi.single self amount) ∧
      amount ≤ state.chain.balance token source ∧
      amount ≤ state.chain.allowance token source self := by
  rw [hext] at hpull
  obtain ⟨chain, hchain, rfl⟩ := onChain_eq_some.mp hpull
  exact Ledgers.transferFrom_flow hbound hchain

theorem forceApprove_chain {token spender : Address} {amount : ℕ}
    {state next : ContractState ρ ω Ledgers}
    (happrove : ext.forceApprove token spender amount state = some next) :
    next.chain = state.chain.setAllowance token self spender amount := by
  rw [hext] at happrove
  exact congrArg ContractState.chain (Option.some.inj happrove).symm

theorem permit2Approve_chain {token spender : Address} {amount expiration : ℕ}
    {state next : ContractState ρ ω Ledgers}
    (happrove : ext.permit2Approve token spender amount expiration state = some next) :
    next.chain = state.chain.setPermit2Allowance token self spender amount expiration := by
  rw [hext] at happrove
  exact congrArg ContractState.chain (Option.some.inj happrove).symm

/-- A transfer that is skipped when the amount is zero moves the amount either way. -/
theorem transferUnlessZero_flow {token target : Address} {amount : ℕ}
    {state next : ContractState ρ ω Ledgers} {value : Unit}
    (hrun : (Call.when (amount ≠ 0) (callExternal (ext.safeTransfer token target amount)) :
      ContractCall E ρ ω Ledgers Unit).run state = .ok (value, next)) :
    state.chain.TokenFlow token next.chain (Pi.single self amount) (Pi.single target amount) := by
  rcases Call.when_ok.mp hrun with ⟨_, hrun⟩ | ⟨hzero, hstate⟩
  · obtain ⟨paid, hpaid, hnext⟩ := callExternal_ok.mp hrun
    obtain ⟨_, rfl⟩ := Prod.mk.inj hnext
    exact safeTransfer_flow hext hpaid
  · obtain ⟨_, rfl⟩ := Prod.mk.inj hstate
    rw [not_not.mp hzero, Pi.single_zero, Pi.single_zero]
    exact .of_eq rfl rfl

/-- A native payment, scaled from token units, that is skipped when it is zero. -/
theorem sendUnlessZero_flow {target : Address} {amount scale : ℕ} {error : E}
    {state next : ContractState ρ ω Ledgers} {value : Unit}
    (hrun : (Call.when (amount ≠ 0) (do
      let scaled ← checkedMul amount scale
      Call.external (ext.callValue target scaled) (.custom error)) :
        ContractCall E ρ ω Ledgers Unit).run state = .ok (value, next)) :
    state.chain.NativeFlow next.chain (Pi.single self (amount * scale))
      (Pi.single target (amount * scale)) := by
  rcases Call.when_ok.mp hrun with ⟨_, hrun⟩ | ⟨hzero, hstate⟩
  · simp only [checkedMul, bind_checked_ok, Call.external_ok, Prod.mk.injEq, true_and,
      exists_eq_right] at hrun
    obtain ⟨_, hsent⟩ := hrun
    rw [hext] at hsent
    obtain ⟨chain, hchain, rfl⟩ := onChain_eq_some.mp hsent
    exact Ledgers.moveNative_flow hchain
  · obtain ⟨_, rfl⟩ := Prod.mk.inj hstate
    rw [not_not.mp hzero, Nat.zero_mul, Pi.single_zero, Pi.single_zero]
    exact ⟨.refl _, rfl⟩

end Calls

end WizPay.Evm
