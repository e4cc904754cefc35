import WizPay.Ans.Contracts

/-!
# Namespace registrars

A registrar is an ERC-721 whose tokens are the names of one namespace. A name expires,
stays with its holder for a grace period in which it can only be renewed, and can then be
registered again, which burns the old token. Minting and moving a token hands the node of
the name over in the registry.
-/

namespace WizPay.Ans

open Foundation Evm

variable {Node Label : Type}

/-- `GRACE_PERIOD`, 90 days. -/
def GRACE_PERIOD : ℕ := 90 * 24 * 60 * 60

def checkedAdd (first second : ℕ) : AnsCall Node Label ℕ := do
  Call.revertIf (uint256Bound ≤ first + second) .arithmeticOverflow
  return first + second

namespace NamespaceRegistrar

/-- `_isAuthorized` of ERC-721. -/
def IsAuthorized (registrar : NamespaceRegistrar Node Label) (holder spender : Address)
    (id : Label) : Prop :=
  spender ≠ 0 ∧ (holder = spender ∨ registrar.operatorApprovals holder spender = true ∨
    registrar.tokenApprovals id = spender)

instance (registrar : NamespaceRegistrar Node Label) (holder spender : Address) (id : Label) :
    Decidable (registrar.IsAuthorized holder spender id) :=
  inferInstanceAs (Decidable (_ ∧ _))

/-- The term and the grace period of a name are over. -/
def Lapsed (registrar : NamespaceRegistrar Node Label) (now : ℕ) (id : Label) : Prop :=
  registrar.expiries id + GRACE_PERIOD < now

instance (registrar : NamespaceRegistrar Node Label) (now : ℕ) (id : Label) :
    Decidable (registrar.Lapsed now id) :=
  inferInstanceAs (Decidable (_ < _))

/-- A name can be registered: it never was, or its grace period is over. -/
def Available (registrar : NamespaceRegistrar Node Label) (now : ℕ) (id : Label) : Prop :=
  registrar.expiries id = 0 ∨
    registrar.expiries id + GRACE_PERIOD < uint256Bound ∧ registrar.Lapsed now id

variable [DecidableEq Label] (registrar : NamespaceRegistrar Node Label)

/-- The writes of `_update` in ERC-721: the token changes hands, and an approval for it
ends with its holder. -/
def transfer (id : Label) (target : Address) : NamespaceRegistrar Node Label :=
  { registrar with
    owners := Function.update registrar.owners id target
    tokenApprovals :=
      if registrar.owners id = 0 then registrar.tokenApprovals
      else Function.update registrar.tokenApprovals id 0 }

def setExpiry (id : Label) (expiry : ℕ) : NamespaceRegistrar Node Label :=
  { registrar with expiries := Function.update registrar.expiries id expiry }

def approve (id : Label) (approved : Address) : NamespaceRegistrar Node Label :=
  { registrar with tokenApprovals := Function.update registrar.tokenApprovals id approved }

omit [DecidableEq Label] in
def setApprovalForAll (registrar : NamespaceRegistrar Node Label) (holder operator : Address)
    (approved : Bool) : NamespaceRegistrar Node Label :=
  { registrar with
    operatorApprovals := Function.update registrar.operatorApprovals holder
      (Function.update (registrar.operatorApprovals holder) operator approved) }

omit [DecidableEq Label] in
def setController (registrar : NamespaceRegistrar Node Label) (controller : Address)
    (enabled : Bool) : NamespaceRegistrar Node Label :=
  { registrar with controllers := Function.update registrar.controllers controller enabled }

/-- The writes of `_register`: burn what is left of an earlier registration, set the
term, mint. -/
def registered (id : Label) (owner : Address) (expires : ℕ) : NamespaceRegistrar Node Label :=
  ((if registrar.owners id ≠ 0 then registrar.transfer id 0 else registrar).setExpiry id
    expires).transfer id owner

section Reading

variable {id other : Label} (target owner : Address) (expiry : ℕ)

@[simp] theorem transfer_owners : (registrar.transfer id target).owners id = target :=
  Function.update_self ..

theorem transfer_owners_of_ne (hother : other ≠ id) :
    (registrar.transfer id target).owners other = registrar.owners other :=
  Function.update_of_ne hother ..

@[simp] theorem transfer_expiries :
    (registrar.transfer id target).expiries = registrar.expiries := rfl

theorem transfer_tokenApprovals :
    (registrar.transfer id target).tokenApprovals id =
      if registrar.owners id = 0 then registrar.tokenApprovals id else 0 := by
  unfold transfer
  split
  · rfl
  · exact Function.update_self ..

theorem transfer_tokenApprovals_of_ne (hother : other ≠ id) :
    (registrar.transfer id target).tokenApprovals other = registrar.tokenApprovals other := by
  unfold transfer
  split
  · rfl
  · exact Function.update_of_ne hother ..

@[simp] theorem setExpiry_self : (registrar.setExpiry id expiry).expiries id = expiry :=
  Function.update_self ..

theorem setExpiry_of_ne (hother : other ≠ id) :
    (registrar.setExpiry id expiry).expiries other = registrar.expiries other :=
  Function.update_of_ne hother ..

@[simp] theorem registered_owners : (registrar.registered id owner expiry).owners id = owner :=
  Function.update_self ..

@[simp] theorem registered_expiries : (registrar.registered id owner expiry).expiries id = expiry :=
  Function.update_self ..

/-- Burning takes an approval for the old token away. -/
theorem registered_tokenApprovals :
    (registrar.registered id owner expiry).tokenApprovals id =
      if registrar.owners id = 0 then registrar.tokenApprovals id else 0 := by
  rw [registered, transfer_tokenApprovals]
  by_cases hholder : registrar.owners id = 0
  · simp only [hholder, ne_eq, not_true_eq_false, if_false, if_true, setExpiry]
  · simp only [ne_eq, hholder, not_false_eq_true, if_true, setExpiry, transfer_owners,
      transfer_tokenApprovals, if_false]

theorem registered_of_ne (hother : other ≠ id) :
    (registrar.registered id owner expiry).owners other = registrar.owners other ∧
      (registrar.registered id owner expiry).tokenApprovals other =
        registrar.tokenApprovals other ∧
      (registrar.registered id owner expiry).expiries other = registrar.expiries other := by
  unfold registered
  rw [transfer_owners_of_ne _ _ hother, transfer_tokenApprovals_of_ne _ _ hother,
    transfer_expiries, setExpiry_of_ne _ _ hother]
  split
  · exact ⟨transfer_owners_of_ne _ 0 hother, transfer_tokenApprovals_of_ne _ 0 hother, rfl⟩
  · exact ⟨rfl, rfl, rfl⟩

/-- What a registration leaves alone. -/
theorem registered_administration :
    (registrar.registered id owner expiry).operatorApprovals = registrar.operatorApprovals ∧
      (registrar.registered id owner expiry).controllers = registrar.controllers ∧
      (registrar.registered id owner expiry).owner = registrar.owner ∧
      (registrar.registered id owner expiry).baseNode = registrar.baseNode := by
  unfold registered
  split
  · exact ⟨rfl, rfl, rfl, rfl⟩
  · exact ⟨rfl, rfl, rfl, rfl⟩

end Reading

end NamespaceRegistrar

/-- The registrar at `self` is now `registrar`. -/
def World.setRegistrar (world : World Node Label) (self : Address)
    (registrar : NamespaceRegistrar Node Label) : World Node Label :=
  { world with registrars := Function.update world.registrars self (some registrar) }

def World.setNodeOwner [DecidableEq Node] (world : World Node Label) (node : Node)
    (owner : Address) : World Node Label :=
  { world with registry := world.registry.setOwner node owner }

namespace Registrar

variable [DecidableEq Node] [DecidableEq Label]
variable (d : Deployment Node Label) (self sender : Address) (now : ℕ)

omit [DecidableEq Node] [DecidableEq Label] in
/-- The storage of the registrar at `self`; a call to anything else fails. -/
def load : AnsCall Node Label (NamespaceRegistrar Node Label) := do
  let world ← get
  match world.registrars self with
  | some registrar => return registrar
  | none => Call.revert .externalCall

omit [DecidableEq Node] [DecidableEq Label] in
def store (registrar : NamespaceRegistrar Node Label) : AnsCall Node Label PUnit :=
  modify fun world => world.setRegistrar self registrar

/-! ## ERC-721, with the overrides of the registrar -/

/-- `_update`; `auth` is zero when nobody's authority is checked. -/
def update (target : Address) (id : Label) (auth : Address) : AnsCall Node Label Address := do
  let registrar ← load self
  Call.revertIf (auth ≠ 0 ∧ registrar.expiries id ≤ now) (.custom (.erc721NonexistentToken id))
  -- `super._update`
  let holder := registrar.owners id
  Call.revertIf (auth ≠ 0 ∧ ¬ registrar.IsAuthorized holder auth id)
    (.custom (if holder = 0 then .erc721NonexistentToken id
      else .erc721InsufficientApproval auth id))
  store self (registrar.transfer id target)
  Call.when (target ≠ 0) (Registry.setSubnodeOwner d self registrar.baseNode id target)
  return holder

def burn (id : Label) : AnsCall Node Label Unit := do
  let previousOwner ← update d self now 0 id 0
  Call.revertIf (previousOwner = 0) (.custom (.erc721NonexistentToken id))

def mint (target : Address) (id : Label) : AnsCall Node Label Unit := do
  Call.revertIf (target = 0) (.custom (.erc721InvalidReceiver 0))
  let previousOwner ← update d self now target id 0
  Call.revertIf (previousOwner ≠ 0) (.custom (.erc721InvalidSender 0))

def transferFrom (source target : Address) (id : Label) : AnsCall Node Label Unit := do
  Call.revertIf (target = 0) (.custom (.erc721InvalidReceiver 0))
  let previousOwner ← update d self now target id sender
  Call.revertIf (previousOwner ≠ source)
    (.custom (.erc721IncorrectOwner source id previousOwner))

omit [DecidableEq Node] in
/-- An approval is for the holder or an operator to give, also after the term. -/
def approve (approved : Address) (id : Label) : AnsCall Node Label PUnit := do
  let registrar ← load self
  let holder := registrar.owners id
  Call.revertIf (holder = 0) (.custom (.erc721NonexistentToken id))
  Call.revertIf (sender ≠ 0 ∧ holder ≠ sender ∧ registrar.operatorApprovals holder sender = false)
    (.custom (.erc721InvalidApprover sender))
  store self (registrar.approve id approved)

omit [DecidableEq Node] [DecidableEq Label] in
def setApprovalForAll (operator : Address) (approved : Bool) : AnsCall Node Label PUnit := do
  let registrar ← load self
  Call.revertIf (operator = 0) (.custom (.erc721InvalidOperator 0))
  store self (registrar.setApprovalForAll sender operator approved)

omit [DecidableEq Node] [DecidableEq Label] in
/-- `ownerOf`: nobody owns an expired name. -/
def ownerOf (id : Label) : AnsCall Node Label Address := do
  let registrar ← load self
  Call.revertIf (registrar.expiries id ≤ now) (.custom (.erc721NonexistentToken id))
  Call.revertIf (registrar.owners id = 0) (.custom (.erc721NonexistentToken id))
  return registrar.owners id

/-! ## Administration -/

omit [DecidableEq Node] [DecidableEq Label] in
def onlyOwner (registrar : NamespaceRegistrar Node Label) (sender : Address) :
    AnsCall Node Label Unit :=
  Call.revertIf (sender ≠ registrar.owner) (.ownableUnauthorizedAccount sender)

omit [DecidableEq Node] [DecidableEq Label] in
/-- `addController` and `removeController`. -/
def setController (controller : Address) (enabled : Bool) : AnsCall Node Label PUnit := do
  let registrar ← load self
  onlyOwner registrar sender
  store self (registrar.setController controller enabled)

omit [DecidableEq Label] in
def setResolver (resolver : Address) : AnsCall Node Label PUnit := do
  let registrar ← load self
  onlyOwner registrar sender
  Registry.setResolver self registrar.baseNode resolver

omit [DecidableEq Node] [DecidableEq Label] in
def transferOwnership (newOwner : Address) : AnsCall Node Label PUnit := do
  let registrar ← load self
  onlyOwner registrar sender
  Call.revertIf (newOwner = 0) (.custom (.ownableInvalidOwner 0))
  store self { registrar with owner := newOwner }

omit [DecidableEq Node] [DecidableEq Label] in
def renounceOwnership : AnsCall Node Label PUnit := do
  let registrar ← load self
  onlyOwner registrar sender
  store self { registrar with owner := 0 }

/-! ## Names -/

omit [DecidableEq Node] [DecidableEq Label] in
def onlyController (registrar : NamespaceRegistrar Node Label) (sender : Address) :
    AnsCall Node Label Unit :=
  Call.revertIf (registrar.controllers sender = false) (.custom (.notController sender))

omit [DecidableEq Node] [DecidableEq Label] in
def available (id : Label) : AnsCall Node Label Bool := do
  let registrar ← load self
  let expiry := registrar.expiries id
  if expiry = 0 then return true
  else do
    let graceEnd ← checkedAdd expiry GRACE_PERIOD
    return decide (graceEnd < now)

/-- `_register`. -/
def registerName (id : Label) (owner : Address) (duration : ℕ) : AnsCall Node Label ℕ := do
  Call.revertIf (owner = 0) (.custom (.invalidRegistrant 0))
  Call.revertIf (duration = 0) (.custom (.invalidDuration duration))
  let isAvailable ← available self now id
  Call.revertIf (isAvailable = false) (.custom (.nameUnavailable id))
  let registrar ← load self
  Call.when (registrar.owners id ≠ 0) (burn d self now id)
  let expires ← checkedAdd now duration
  let registrar ← load self
  store self (registrar.setExpiry id expires)
  mint d self now owner id
  return expires

def register (id : Label) (owner : Address) (duration : ℕ) : AnsCall Node Label ℕ := do
  let registrar ← load self
  onlyController registrar sender
  registerName d self now id owner duration

omit [DecidableEq Node] in
def renew (id : Label) (duration : ℕ) : AnsCall Node Label ℕ := do
  let registrar ← load self
  onlyController registrar sender
  Call.revertIf (duration = 0) (.custom (.invalidDuration duration))
  let currentExpiry := registrar.expiries id
  Call.revertIf (currentExpiry = 0) (.custom (.nameNotRenewable id))
  let graceEnd ← checkedAdd currentExpiry GRACE_PERIOD
  Call.revertIf (graceEnd < now) (.custom (.nameNotRenewable id))
  let expires ← checkedAdd currentExpiry duration
  store self (registrar.setExpiry id expires)
  return expires

/-- The holder of an unexpired name, or who is authorized for it, takes its node back. -/
def reclaim (id : Label) (owner : Address) : AnsCall Node Label PUnit := do
  Call.revertIf (owner = 0) (.custom (.invalidRegistrant 0))
  let currentOwner ← ownerOf self now id
  let registrar ← load self
  Call.revertIf (¬ registrar.IsAuthorized currentOwner sender id)
    (.custom (.erc721InsufficientApproval sender id))
  Registry.setSubnodeOwner d self registrar.baseNode id owner

end Registrar

end WizPay.Ans
