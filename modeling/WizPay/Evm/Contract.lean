import Mathlib.Algebra.GroupWithZero.Nat
import Mathlib.Data.Int.Notation
import Mathlib.Data.Nat.Notation
import WizPay.Foundation.Revert

/-!
# Contract calls on Arc

The frame shared by the mainnet contracts: checked `uint256` arithmetic, the
reentrancy guard, the pause switch, the owner check, events, and calls into
code the contract does not own (tokens, Permit2, the Universal Router, the fee
recipient). That code is a parameter: what it does to the chain is an arbitrary
function until a result assumes more about it.
-/

namespace WizPay.Evm

open Foundation

abbrev Address := BitVec 160

instance byteArrayDecidableEq : DecidableEq ByteArray := ByteArray.instDecidableEq

def uint256Bound : ℕ := 2 ^ 256
def uint160Bound : ℕ := 2 ^ 160
def uint128Bound : ℕ := 2 ^ 128
def uint48Bound : ℕ := 2 ^ 48

/-- The call context: `msg.sender`, `msg.value` and `block.timestamp`. -/
structure Msg where
  sender : Address
  value : ℕ
  timestamp : ℕ
deriving DecidableEq

/-- Why a call reverted: one of the contract's own errors, or a failure of the
language, of a library modifier or of the callee. -/
inductive Revert (E : Type) where
  | custom (error : E)
  | arithmeticOverflow
  | nonPayable
  | reentrancyGuardReentrantCall
  | enforcedPause
  | expectedPause
  | ownableUnauthorizedAccount (account : Address)
  | safeCastOverflowedUintDowncast (bits value : ℕ)
  | externalCall
deriving DecidableEq

/-- A contract between and during calls: its own storage, the pause switch, the
reentrancy status, the events it emitted, and the rest of the chain. -/
structure ContractState (ρ ω χ : Type) where
  storage : ρ
  paused : Bool
  entered : Bool
  events : List ω
  chain : χ

abbrev ContractCall (E ρ ω χ α : Type) := Call (Revert E) (ContractState ρ ω χ) α

/-! ## The V4 swap request handed to the Universal Router -/

structure PathKey where
  intermediateCurrency : Address
  fee : ℕ
  tickSpacing : ℤ
  hooks : Address
  hookData : List UInt8
deriving DecidableEq

structure ExactInputSingleParams where
  currencyIn : Address
  path : List PathKey
  minHopPriceX36 : List ℕ
  amountIn : ℕ
  amountOutMinimum : ℕ
deriving DecidableEq

/-- The decoded content of `abi.encode(actions, params)`. -/
structure V4SwapInput where
  actions : List UInt8
  swap : ExactInputSingleParams
  settle : Address × ℕ × Bool
  take : Address × Address × ℕ
deriving DecidableEq

structure RouterCall where
  value : ℕ
  commands : List UInt8
  inputs : List V4SwapInput
  deadline : ℕ
deriving DecidableEq

def cmdV4Swap : UInt8 := 0x10
def actionSwapExactIn : UInt8 := 0x07
def actionSettle : UInt8 := 0x0b
def actionTake : UInt8 := 0x0e

/-! ## Code outside the contract -/

/-- The code a contract calls. Views read the chain; the other entries take the
state at the call to the state at its return, or revert. -/
structure Externals (σ χ : Type) where
  balanceOf : χ → Address → Address → ℕ
  nativeBalance : χ → Address → ℕ
  receiveValue : Address → ℕ → σ → Option σ
  safeTransfer : Address → Address → ℕ → σ → Option σ
  safeTransferFrom : Address → Address → Address → ℕ → σ → Option σ
  forceApprove : Address → Address → ℕ → σ → Option σ
  permit2Approve : Address → Address → ℕ → ℕ → σ → Option σ
  callValue : Address → ℕ → σ → Option σ
  execute : RouterCall → σ → Option σ

section Statements

variable {E ρ ω χ α : Type}

def revert (error : E) : ContractCall E ρ ω χ α := Call.revert (.custom error)

def revertIf (condition : Prop) [Decidable condition] (error : E) :
    ContractCall E ρ ω χ Unit :=
  Call.revertIf condition (.custom error)

/-- An expression that panics when it leaves `uint256`. -/
def checked (fits : Prop) [Decidable fits] (value : ℕ) : ContractCall E ρ ω χ ℕ := do
  Call.revertIf (¬ fits) .arithmeticOverflow
  return value

def checkedAdd (first second : ℕ) : ContractCall E ρ ω χ ℕ :=
  checked (first + second < uint256Bound) (first + second)

def checkedSub (first second : ℕ) : ContractCall E ρ ω χ ℕ :=
  checked (second ≤ first) (first - second)

def checkedMul (first second : ℕ) : ContractCall E ρ ω χ ℕ :=
  checked (first * second < uint256Bound) (first * second)

/-- A fee in basis points, rounded down; no multiplication when there is none. -/
def bpsFee (feeBps amount : ℕ) : ContractCall E ρ ω χ ℕ :=
  if feeBps = 0 then return 0
  else do
    let product ← checkedMul amount feeBps
    return product / 10000

/-- `SafeCast.toUint48` and its siblings. -/
def safeCast (bits value : ℕ) : ContractCall E ρ ω χ ℕ := do
  Call.revertIf (2 ^ bits ≤ value) (.safeCastOverflowedUintDowncast bits value)
  return value

/-- The payload both mainnet contracts build: one exact-input hop through the
configured pool, settled and taken in full. -/
def v4SwapInput (poolFee : ℕ) (poolTickSpacing : ℤ) (tokenIn tokenOut : Address)
    (netAmountIn minAmountOut minHopPriceX36 : ℕ) (recipient : Address) (payerIsUser : Bool) :
    ContractCall E ρ ω χ V4SwapInput := do
  let amountIn ← safeCast 128 netAmountIn
  let amountOutMinimum ← safeCast 128 minAmountOut
  return {
    actions := [actionSwapExactIn, actionSettle, actionTake]
    swap := {
      currencyIn := tokenIn
      path := [{
        intermediateCurrency := tokenOut, fee := poolFee, tickSpacing := poolTickSpacing,
        hooks := 0, hookData := [] }]
      minHopPriceX36 := [minHopPriceX36]
      amountIn
      amountOutMinimum }
    settle := (tokenIn, 0, payerIsUser)
    take := (tokenOut, recipient, 0) }

def emit (event : ω) : ContractCall E ρ ω χ PUnit :=
  modify fun state => { state with events := state.events ++ [event] }

/-- Reading the chain through a view function of the callee. -/
def view (reading : χ → α) : ContractCall E ρ ω χ α := do
  let state ← get
  return reading state.chain

/-- A call into other code; its failure bubbles up. -/
def callExternal (effect : ContractState ρ ω χ → Option (ContractState ρ ω χ)) :
    ContractCall E ρ ω χ Unit :=
  Call.external effect .externalCall

def nonReentrant (body : ContractCall E ρ ω χ α) : ContractCall E ρ ω χ α := do
  let state ← get
  Call.revertIf (state.entered = true) .reentrancyGuardReentrantCall
  modify fun state => { state with entered := true }
  let result ← body
  modify fun state => { state with entered := false }
  return result

def whenNotPaused (body : ContractCall E ρ ω χ α) : ContractCall E ρ ω χ α := do
  let state ← get
  Call.revertIf (state.paused = true) .enforcedPause
  body

def whenPaused (body : ContractCall E ρ ω χ α) : ContractCall E ρ ω χ α := do
  let state ← get
  Call.revertIf (state.paused = false) .expectedPause
  body

def onlyOwner (owner : Address) (msg : Msg) (body : ContractCall E ρ ω χ α) :
    ContractCall E ρ ω χ α := do
  Call.revertIf (msg.sender ≠ owner) (.ownableUnauthorizedAccount msg.sender)
  body

/-- The chain moves `msg.value` to the contract before its code runs. -/
def payable (ext : Externals (ContractState ρ ω χ) χ) (msg : Msg)
    (body : ContractCall E ρ ω χ α) : ContractCall E ρ ω χ α := do
  callExternal (ext.receiveValue msg.sender msg.value)
  body

def nonPayable (msg : Msg) (body : ContractCall E ρ ω χ α) : ContractCall E ρ ω χ α := do
  Call.revertIf (msg.value ≠ 0) .nonPayable
  body

end Statements

/-! ## What the statements do when they succeed -/

section Rules

variable {E ρ ω χ α : Type} {state : ContractState ρ ω χ}

theorem revertIf_ok {condition : Prop} [Decidable condition] {error : E}
    {result : Unit × ContractState ρ ω χ} :
    (revertIf condition error).run state = .ok result ↔ ¬ condition ∧ ((), state) = result :=
  Call.revertIf_ok

theorem revert_ok {error : E} {result : α × ContractState ρ ω χ} :
    (revert error : ContractCall E ρ ω χ α).run state = .ok result ↔ False :=
  Call.revert_ok

theorem checked_ok {fits : Prop} [Decidable fits] {value : ℕ}
    {result : ℕ × ContractState ρ ω χ} :
    (checked fits value : ContractCall E ρ ω χ ℕ).run state = .ok result ↔
      fits ∧ (value, state) = result := by
  simp only [checked, Call.bind_ok, Call.revertIf_ok, Call.pure_ok, Prod.mk.injEq, true_and,
    not_not]
  constructor
  · rintro ⟨_, _, ⟨hfits, rfl⟩, rfl⟩
    exact ⟨hfits, rfl⟩
  · rintro ⟨hfits, rfl⟩
    exact ⟨(), state, ⟨hfits, rfl⟩, rfl⟩

theorem safeCast_ok {bits value : ℕ} {result : ℕ × ContractState ρ ω χ} :
    (safeCast bits value : ContractCall E ρ ω χ ℕ).run state = .ok result ↔
      value < 2 ^ bits ∧ (value, state) = result := by
  simp only [safeCast, Call.bind_ok, Call.revertIf_ok, Call.pure_ok, Prod.mk.injEq, true_and,
    Nat.not_le]
  constructor
  · rintro ⟨_, _, ⟨hfits, rfl⟩, rfl⟩
    exact ⟨hfits, rfl⟩
  · rintro ⟨hfits, rfl⟩
    exact ⟨(), state, ⟨hfits, rfl⟩, rfl⟩

theorem bpsFee_ok {feeBps amount : ℕ} {result : ℕ × ContractState ρ ω χ}
    (hrun : (bpsFee feeBps amount : ContractCall E ρ ω χ ℕ).run state = .ok result) :
    (amount * feeBps / 10000, state) = result := by
  unfold bpsFee at hrun
  split at hrun
  next hzero =>
    rw [← Call.pure_ok.mp hrun, hzero, Nat.mul_zero, Nat.zero_div]
  next hnonzero =>
    simp only [Call.bind_ok, checkedMul, checked_ok, Call.pure_ok, Prod.mk.injEq] at hrun
    obtain ⟨_, _, ⟨_, rfl, rfl⟩, hresult⟩ := hrun
    exact hresult

/-- A capped fee never exceeds the amount it is taken on. -/
theorem bpsFee_le {feeBps : ℕ} (hfeeBps : feeBps ≤ 10000) (amount : ℕ) :
    amount * feeBps / 10000 ≤ amount :=
  calc amount * feeBps / 10000
      ≤ amount * 10000 / 10000 := Nat.div_le_div_right (Nat.mul_le_mul_left amount hfeeBps)
    _ = amount := Nat.mul_div_cancel amount (by decide)

theorem emit_ok {event : ω} {result : PUnit × ContractState ρ ω χ} :
    (emit event : ContractCall E ρ ω χ PUnit).run state = .ok result ↔
      (PUnit.unit, { state with events := state.events ++ [event] }) = result :=
  Call.modify_ok

theorem view_ok {reading : χ → α} {result : α × ContractState ρ ω χ} :
    (view reading : ContractCall E ρ ω χ α).run state = .ok result ↔
      (reading state.chain, state) = result := by
  simp only [view, Call.bind_ok, Call.get_ok, Call.pure_ok, Prod.mk.injEq]
  constructor
  · rintro ⟨_, _, ⟨rfl, rfl⟩, rfl⟩
    rfl
  · rintro rfl
    exact ⟨_, _, ⟨rfl, rfl⟩, rfl⟩

theorem callExternal_ok {effect : ContractState ρ ω χ → Option (ContractState ρ ω χ)}
    {result : Unit × ContractState ρ ω χ} :
    (callExternal effect : ContractCall E ρ ω χ Unit).run state = .ok result ↔
      ∃ next, effect state = some next ∧ ((), next) = result :=
  Call.external_ok

section Sequencing

variable {β : Type} {result : β × ContractState ρ ω χ}

theorem bind_revertIf_ok {condition : Prop} [Decidable condition] {error : E}
    {rest : Unit → ContractCall E ρ ω χ β} :
    (revertIf condition error >>= rest).run state = .ok result ↔
      ¬ condition ∧ (rest ()).run state = .ok result :=
  Call.bind_revertIf_ok

theorem bind_checked_ok {fits : Prop} [Decidable fits] {value : ℕ}
    {rest : ℕ → ContractCall E ρ ω χ β} :
    (checked fits value >>= rest).run state = .ok result ↔
      fits ∧ (rest value).run state = .ok result := by
  rw [Call.bind_ok]
  constructor
  · rintro ⟨_, _, hchecked, hrest⟩
    obtain ⟨hfits, hsame⟩ := checked_ok.mp hchecked
    cases hsame
    exact ⟨hfits, hrest⟩
  · rintro ⟨hfits, hrest⟩
    exact ⟨value, state, checked_ok.mpr ⟨hfits, rfl⟩, hrest⟩

theorem bind_safeCast_ok {bits value : ℕ} {rest : ℕ → ContractCall E ρ ω χ β} :
    (safeCast bits value >>= rest).run state = .ok result ↔
      value < 2 ^ bits ∧ (rest value).run state = .ok result := by
  rw [Call.bind_ok]
  constructor
  · rintro ⟨_, _, hcast, hrest⟩
    obtain ⟨hfits, hsame⟩ := safeCast_ok.mp hcast
    cases hsame
    exact ⟨hfits, hrest⟩
  · rintro ⟨hfits, hrest⟩
    exact ⟨value, state, safeCast_ok.mpr ⟨hfits, rfl⟩, hrest⟩

theorem bind_emit_ok {event : ω} {rest : PUnit → ContractCall E ρ ω χ β} :
    (emit event >>= rest).run state = .ok result ↔
      (rest PUnit.unit).run { state with events := state.events ++ [event] } = .ok result :=
  Call.bind_modify_ok

theorem bind_view_ok {reading : χ → α} {rest : α → ContractCall E ρ ω χ β} :
    (view reading >>= rest).run state = .ok result ↔
      (rest (reading state.chain)).run state = .ok result := by
  rw [Call.bind_ok]
  exact ⟨fun ⟨_, _, hview, hrest⟩ => by cases view_ok.mp hview; exact hrest,
    fun hrest => ⟨_, state, view_ok.mpr rfl, hrest⟩⟩

theorem bind_callExternal_ok {effect : ContractState ρ ω χ → Option (ContractState ρ ω χ)}
    {rest : Unit → ContractCall E ρ ω χ β} :
    (callExternal effect >>= rest).run state = .ok result ↔
      ∃ next, effect state = some next ∧ (rest ()).run next = .ok result :=
  Call.bind_external_ok

theorem v4SwapInput_ok {poolFee : ℕ} {poolTickSpacing : ℤ} {tokenIn tokenOut recipient : Address}
    {netAmountIn minAmountOut minHopPriceX36 : ℕ} {payerIsUser : Bool}
    {next : ContractState ρ ω χ} {input : V4SwapInput}
    (hrun : (v4SwapInput poolFee poolTickSpacing tokenIn tokenOut netAmountIn minAmountOut
      minHopPriceX36 recipient payerIsUser : ContractCall E ρ ω χ V4SwapInput).run state =
        .ok (input, next)) :
    next = state := by
  simp only [v4SwapInput, bind_safeCast_ok, Call.pure_ok, Prod.mk.injEq] at hrun
  exact hrun.2.2.2.symm

end Sequencing

section Keeps

variable {γ : Type} {reading : ContractState ρ ω χ → γ} {value : γ}

theorem keeps_revertIf (condition : Prop) [Decidable condition] (error : E) :
    Call.Keeps reading value (revertIf condition error) :=
  .revertIf condition _

theorem keeps_checked (fits : Prop) [Decidable fits] (result : ℕ) :
    Call.Keeps reading value (checked fits result : ContractCall E ρ ω χ ℕ) :=
  .bind (.revertIf _ _) fun _ => .pure _

theorem keeps_safeCast (bits result : ℕ) :
    Call.Keeps reading value (safeCast bits result : ContractCall E ρ ω χ ℕ) :=
  .bind (.revertIf _ _) fun _ => .pure _

theorem keeps_view (source : χ → α) :
    Call.Keeps reading value (view source : ContractCall E ρ ω χ α) :=
  .bind .get fun _ => .pure _

theorem keeps_v4SwapInput {poolFee : ℕ} {poolTickSpacing : ℤ}
    {tokenIn tokenOut recipient : Address} {netAmountIn minAmountOut minHopPriceX36 : ℕ}
    {payerIsUser : Bool} :
    Call.Keeps reading value (v4SwapInput poolFee poolTickSpacing tokenIn tokenOut netAmountIn
      minAmountOut minHopPriceX36 recipient payerIsUser : ContractCall E ρ ω χ V4SwapInput) :=
  .bind (keeps_safeCast _ _) fun _ => .bind (keeps_safeCast _ _) fun _ => .pure _

end Keeps

/-- A guarded call runs its body from the unlocked state and unlocks it again. -/
theorem nonReentrant_ok {body : ContractCall E ρ ω χ α} {value : α}
    {next : ContractState ρ ω χ} :
    (nonReentrant body).run state = .ok (value, next) ↔
      state.entered = false ∧ ∃ last, body.run { state with entered := true } = .ok (value, last) ∧
        next = { last with entered := false } := by
  simp only [nonReentrant, Call.bind_ok, Call.get_ok, Call.revertIf_ok, Call.modify_ok,
    Call.pure_ok, Prod.mk.injEq, true_and, Bool.not_eq_true]
  constructor
  · rintro ⟨_, _, ⟨rfl, rfl⟩, _, _, ⟨hentered, rfl⟩, _, _, rfl, _, last, hbody, _, _, rfl, rfl, rfl⟩
    exact ⟨hentered, last, hbody, rfl⟩
  · rintro ⟨hentered, last, hbody, rfl⟩
    exact ⟨state, state, ⟨rfl, rfl⟩, (), state, ⟨hentered, rfl⟩, PUnit.unit, _, rfl,
      value, last, hbody, PUnit.unit, _, rfl, rfl, rfl⟩

theorem whenNotPaused_ok {body : ContractCall E ρ ω χ α} {result : α × ContractState ρ ω χ} :
    (whenNotPaused body).run state = .ok result ↔
      state.paused = false ∧ body.run state = .ok result := by
  simp only [whenNotPaused, Call.bind_ok, Call.get_ok, Call.revertIf_ok, Prod.mk.injEq,
    true_and, Bool.not_eq_true]
  constructor
  · rintro ⟨_, _, ⟨rfl, rfl⟩, _, _, ⟨hpaused, rfl⟩, hbody⟩
    exact ⟨hpaused, hbody⟩
  · rintro ⟨hpaused, hbody⟩
    exact ⟨state, state, ⟨rfl, rfl⟩, (), state, ⟨hpaused, rfl⟩, hbody⟩

theorem payable_ok {ext : Externals (ContractState ρ ω χ) χ} {msg : Msg}
    {body : ContractCall E ρ ω χ α} {result : α × ContractState ρ ω χ} :
    (payable ext msg body).run state = .ok result ↔
      ∃ funded, ext.receiveValue msg.sender msg.value state = some funded ∧
        body.run funded = .ok result := by
  simp only [payable, Call.bind_ok, callExternal_ok, Prod.mk.injEq, true_and]
  constructor
  · rintro ⟨_, _, ⟨funded, hfunded, rfl⟩, hbody⟩
    exact ⟨funded, hfunded, hbody⟩
  · rintro ⟨funded, hfunded, hbody⟩
    exact ⟨(), funded, ⟨funded, hfunded, rfl⟩, hbody⟩

/-- A successful call of a payable, guarded, pausable function: value credited,
body run under the guard, guard released. -/
theorem entryPoint_ok {ext : Externals (ContractState ρ ω χ) χ} {msg : Msg}
    {body : ContractCall E ρ ω χ α} {value : α} {next : ContractState ρ ω χ}
    (hrun : (payable ext msg (nonReentrant (whenNotPaused body))).run state = .ok (value, next)) :
    ∃ funded last, ext.receiveValue msg.sender msg.value state = some funded ∧
      funded.entered = false ∧ body.run { funded with entered := true } = .ok (value, last) ∧
      next = { last with entered := false } := by
  obtain ⟨funded, hfunded, hguarded⟩ := payable_ok.mp hrun
  obtain ⟨hentered, last, hpausable, hnext⟩ := nonReentrant_ok.mp hguarded
  exact ⟨funded, last, hfunded, hentered, (whenNotPaused_ok.mp hpausable).2, hnext⟩

/-- A reentrant call fails whatever its body is. -/
theorem nonReentrant_of_entered {body : ContractCall E ρ ω χ α} (hentered : state.entered = true) :
    (nonReentrant body).succeeds state = false := by
  rw [Bool.eq_false_iff]
  intro hsucceeds
  obtain ⟨value, next, hrun⟩ := Call.succeeds_iff.mp hsucceeds
  rw [(nonReentrant_ok.mp hrun).1] at hentered
  cases hentered

end Rules

end WizPay.Evm
