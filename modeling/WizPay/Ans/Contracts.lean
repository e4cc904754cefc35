import Mathlib.Logic.Function.Basic
import WizPay.Evm.StandardTokens

/-!
# The contracts of the Arc Name Service

One registry holds a record for every node of the name tree. Every namespace has a
registrar, whose tokens are the names below the node of the namespace, and a controller
that sells them. The root registry creates namespaces and keeps their prices, and a public
resolver keeps what the names stand for. Nodes and labels are the values of a hash function
that is a parameter here.
-/

namespace WizPay.Ans

open Foundation Evm

/-- `keccak256` as names use it: on a node and a label, and on the bytes of a label. It has
no collisions, and no node hashes to the root, which is the zero word. -/
structure Namehash (Node Label : Type) where
  root : Node
  subnode : Node → Label → Node
  labelhash : List UInt8 → Label
  subnode_inj : ∀ {node other label next}, subnode node label = subnode other next →
    node = other ∧ label = next
  subnode_ne_root : ∀ node label, subnode node label ≠ root
  labelhash_inj : Function.Injective labelhash

/-- Where the contracts are deployed. Calls from outside come from `external` accounts; the
contracts themselves only send what their code sends. -/
structure Deployment (Node Label : Type) extends Namehash Node Label where
  usdc : Address
  arcRegistry : Address
  publicResolver : Address
  namespaceFactory : Address
  rootRegistry : Address
  external : Address → Bool
  zero_internal : external 0 = false
  factory_internal : external namespaceFactory = false
  rootRegistry_internal : external rootRegistry = false
  factory_ne_zero : namespaceFactory ≠ 0
  rootRegistry_ne_zero : rootRegistry ≠ 0
  rootRegistry_ne_factory : rootRegistry ≠ namespaceFactory

/-- Names without hashing: a node is the path of its labels, a label its bytes. -/
def Namehash.paths : Namehash (List (List UInt8)) (List UInt8) where
  root := []
  subnode node label := label :: node
  labelhash label := label
  subnode_inj hsame := ⟨(List.cons.inj hsame).2, (List.cons.inj hsame).1⟩
  subnode_ne_root _ _ := List.cons_ne_nil _ _
  labelhash_inj _ _ hsame := hsame

/-- A deployment below the address 1000, which the accounts outside start from. -/
def Deployment.lowAddresses : Deployment (List (List UInt8)) (List UInt8) where
  toNamehash := .paths
  usdc := 1
  arcRegistry := 2
  publicResolver := 3
  namespaceFactory := 4
  rootRegistry := 5
  external account := decide (1000 ≤ account.toNat)
  zero_internal := by decide
  factory_internal := by decide
  rootRegistry_internal := by decide
  factory_ne_zero := by decide
  rootRegistry_ne_zero := by decide
  rootRegistry_ne_factory := by decide

/-! ## Errors -/

inductive Error (Node Label : Type) where
  | notAuthorised (node : Node) (caller : Address)
  | invalidOperator (operator : Address)
  | notController (caller : Address)
  | invalidRegistrant (owner : Address)
  | invalidDuration (duration : ℕ)
  | nameUnavailable (id : Label)
  | labelUnavailable (label : List UInt8)
  | nameNotRenewable (id : Label)
  | erc721NonexistentToken (id : Label)
  | erc721InsufficientApproval (operator : Address) (id : Label)
  | erc721InvalidApprover (approver : Address)
  | erc721InvalidOperator (operator : Address)
  | erc721InvalidReceiver (receiver : Address)
  | erc721InvalidSender (sender : Address)
  | erc721IncorrectOwner (sender : Address) (id : Label) (owner : Address)
  | ownableInvalidOwner (owner : Address)
  | namespaceInactive (namespaceLabelhash : Label)
  | invalidNamespaceVault (vault : Address)
  | labelTooShort (length : ℕ)
  | invalidLabelCharacter (index : ℕ) (character : UInt8)
  | invalidHyphenPlacement
  | dotsNotAllowed
  | resolverRequired
  | textRecordArrayLengthMismatch (keysLength valuesLength : ℕ)
  | invalidPlatformVault (vault : Address)
  | invalidResolver (resolver : Address)
  | invalidNamespaceOwner (owner : Address)
  | invalidPriceTierOrder (threeCharacter fourCharacter fivePlusCharacter : ℕ)
  | invalidPromoDiscount (discountBps : ℕ)
  | invalidPromoWindow (startsAt endsAt : ℕ)
  | namespaceAlreadyExists (labelhash : Label)
  | namespaceNotFound (labelhash : Label)
  | namespaceReserved (labelhash : Label)
  | unauthorizedNamespaceManager (labelhash : Label) (caller : Address)
  | invalidRecipient (recipient : Address)
  | invalidToken (token : Address)
deriving DecidableEq

/-! ## Storage -/

/-- A record of the registry. -/
structure Record where
  owner : Address
  resolver : Address
  ttl : ℕ
deriving DecidableEq

structure ArcRegistry (Node : Type) where
  records : Node → Record
  operators : Address → Address → Bool

structure PublicResolver (Node : Type) where
  recordVersions : Node → ℕ
  addresses : Node → ℕ → Address
  textRecords : Node → ℕ → String → String

/-- A registrar: an owned ERC-721 whose tokens expire. -/
structure NamespaceRegistrar (Node Label : Type) where
  baseNode : Node
  owner : Address
  owners : Label → Address
  tokenApprovals : Label → Address
  operatorApprovals : Address → Address → Bool
  expiries : Label → ℕ
  controllers : Address → Bool

structure NamespaceController (Label : Type) where
  registrar : Address
  namespaceLabelhash : Label
  entered : Bool
deriving DecidableEq

structure NamespaceRecord where
  owner : Address
  registrar : Address
  controller : Address
  vault : Address
  active : Bool
  isGlobal : Bool
  whitelisted : Bool
  blacklisted : Bool
deriving DecidableEq

structure PricingConfig where
  threeCharacterPrice : ℕ
  fourCharacterPrice : ℕ
  fivePlusCharacterPrice : ℕ
deriving DecidableEq

structure PromoConfig where
  enabled : Bool
  discountBps : ℕ
  startsAt : ℕ
  endsAt : ℕ
deriving DecidableEq

structure RootRegistry (Label : Type) where
  owner : Address
  entered : Bool
  platformVault : Address
  defaultResolver : Address
  namespaceRecords : Label → NamespaceRecord
  pricingConfigs : Label → PricingConfig
  promoConfigs : Label → PromoConfig

/-- The name service on chain. Registrars, controllers and the owners of revenue vaults
are found at the addresses they were deployed to. -/
structure World (Node Label : Type) where
  registry : ArcRegistry Node
  resolver : PublicResolver Node
  rootRegistry : RootRegistry Label
  factoryOwner : Address
  registrars : Address → Option (NamespaceRegistrar Node Label)
  controllers : Address → Option (NamespaceController Label)
  vaults : Address → Option Address
  ledgers : Ledgers

abbrev AnsCall (Node Label α : Type) :=
  Call (Revert (Error Node Label)) (World Node Label) α

variable {Node Label : Type}

/-- An account with code of the name service. -/
def World.isContract (d : Deployment Node Label) (world : World Node Label)
    (account : Address) : Bool :=
  account == d.usdc || account == d.arcRegistry || account == d.publicResolver ||
    account == d.namespaceFactory || account == d.rootRegistry ||
    (world.registrars account).isSome || (world.controllers account).isSome ||
    (world.vaults account).isSome

/-- Nothing lives at the address of a contract that is about to be created, and nothing
outside can send from it. -/
def World.isFresh (d : Deployment Node Label) (world : World Node Label)
    (account : Address) : Bool :=
  !world.isContract d account && !d.external account && account != 0

/-- An effect on the token ledgers, as an effect on the name service. -/
def onLedgers (effect : Ledgers → Option Ledgers) (world : World Node Label) :
    Option (World Node Label) :=
  (effect world.ledgers).map fun ledgers => { world with ledgers := ledgers }

/-! ## The registry -/

namespace ArcRegistry

/-- The owner of a node, or an operator of that owner. -/
def Authorised (registry : ArcRegistry Node) (node : Node) (caller : Address) : Prop :=
  (registry.records node).owner = caller ∨
    registry.operators (registry.records node).owner caller = true

instance (registry : ArcRegistry Node) (node : Node) (caller : Address) :
    Decidable (registry.Authorised node caller) :=
  inferInstanceAs (Decidable (_ ∨ _))

variable [DecidableEq Node] (registry : ArcRegistry Node)

def setOwner (node : Node) (owner : Address) : ArcRegistry Node :=
  { registry with
    records := Function.update registry.records node { registry.records node with owner } }

def setResolver (node : Node) (resolver : Address) : ArcRegistry Node :=
  { registry with
    records := Function.update registry.records node { registry.records node with resolver } }

def setTTL (node : Node) (ttl : ℕ) : ArcRegistry Node :=
  { registry with
    records := Function.update registry.records node { registry.records node with ttl } }

def setApprovalForAll (caller operator : Address) (approved : Bool) : ArcRegistry Node :=
  { registry with
    operators := Function.update registry.operators caller
      (Function.update (registry.operators caller) operator approved) }

variable (node other : Node) (account : Address) (ttl : ℕ)

@[simp] theorem setOwner_operators :
    (registry.setOwner node account).operators = registry.operators := rfl

@[simp] theorem setResolver_operators :
    (registry.setResolver node account).operators = registry.operators := rfl

@[simp] theorem setTTL_operators : (registry.setTTL node ttl).operators = registry.operators := rfl

omit [DecidableEq Node] in
@[simp] theorem setApprovalForAll_records (caller operator : Address) (approved : Bool) :
    (registry.setApprovalForAll caller operator approved).records = registry.records := rfl

@[simp] theorem setOwner_self :
    (registry.setOwner node account).records node =
      { registry.records node with owner := account } := Function.update_self ..

@[simp] theorem setResolver_self :
    (registry.setResolver node account).records node =
      { registry.records node with resolver := account } := Function.update_self ..

@[simp] theorem setTTL_self :
    (registry.setTTL node ttl).records node = { registry.records node with ttl := ttl } :=
  Function.update_self ..

variable {node other}

theorem setOwner_of_ne (hother : other ≠ node) :
    (registry.setOwner node account).records other = registry.records other :=
  Function.update_of_ne hother ..

theorem setResolver_of_ne (hother : other ≠ node) :
    (registry.setResolver node account).records other = registry.records other :=
  Function.update_of_ne hother ..

theorem setTTL_of_ne (hother : other ≠ node) :
    (registry.setTTL node ttl).records other = registry.records other :=
  Function.update_of_ne hother ..

omit [DecidableEq Node] in
theorem setApprovalForAll_of_ne (caller operator account : Address) (approved : Bool)
    (haccount : account ≠ caller) :
    (registry.setApprovalForAll caller operator approved).operators account =
      registry.operators account :=
  Function.update_of_ne haccount ..

end ArcRegistry

namespace Registry

variable (d : Deployment Node Label) (sender : Address)

def update (change : ArcRegistry Node → ArcRegistry Node) : AnsCall Node Label PUnit :=
  modify fun world => { world with registry := change world.registry }

/-- `_checkAuthorised` with the caller. -/
def checkAuthorised (node : Node) (caller : Address) : AnsCall Node Label Unit := do
  let world ← get
  Call.revertIf (¬ world.registry.Authorised node caller) (.custom (.notAuthorised node caller))

variable [DecidableEq Node]

def setRecord (node : Node) (owner resolver : Address) (ttl : ℕ) : AnsCall Node Label PUnit := do
  checkAuthorised node sender
  update fun registry => registry.setOwner node owner
  update fun registry => registry.setResolver node resolver
  update fun registry => registry.setTTL node ttl

def setSubnodeOwner (node : Node) (label : Label) (owner : Address) :
    AnsCall Node Label PUnit := do
  checkAuthorised node sender
  update fun registry => registry.setOwner (d.subnode node label) owner

def setSubnodeRecord (node : Node) (label : Label) (owner resolver : Address) (ttl : ℕ) :
    AnsCall Node Label PUnit := do
  checkAuthorised node sender
  update fun registry => registry.setOwner (d.subnode node label) owner
  update fun registry => registry.setResolver (d.subnode node label) resolver
  update fun registry => registry.setTTL (d.subnode node label) ttl

def setResolver (node : Node) (resolver : Address) : AnsCall Node Label PUnit := do
  checkAuthorised node sender
  update fun registry => registry.setResolver node resolver

def setOwner (node : Node) (owner : Address) : AnsCall Node Label PUnit := do
  checkAuthorised node sender
  update fun registry => registry.setOwner node owner

def setTTL (node : Node) (ttl : ℕ) : AnsCall Node Label PUnit := do
  checkAuthorised node sender
  update fun registry => registry.setTTL node ttl

omit [DecidableEq Node] in
def setApprovalForAll (operator : Address) (approved : Bool) : AnsCall Node Label PUnit := do
  Call.revertIf (operator = sender) (.custom (.invalidOperator operator))
  update fun registry => registry.setApprovalForAll sender operator approved

end Registry

/-! ## The public resolver -/

namespace PublicResolver

variable [DecidableEq Node] (resolver : PublicResolver Node)

def bump (node : Node) : PublicResolver Node :=
  { resolver with
    recordVersions :=
      Function.update resolver.recordVersions node (resolver.recordVersions node + 1) }

def setAddr (node : Node) (resolvedAddress : Address) : PublicResolver Node :=
  { resolver with
    addresses := Function.update resolver.addresses node
      (Function.update (resolver.addresses node) (resolver.recordVersions node) resolvedAddress) }

def setText (node : Node) (key value : String) : PublicResolver Node :=
  let version := resolver.recordVersions node
  { resolver with
    textRecords := Function.update resolver.textRecords node
      (Function.update (resolver.textRecords node) version
        (Function.update (resolver.textRecords node version) key value)) }

/-- Everything the resolver keeps for a node. -/
def recordsOf (resolver : PublicResolver Node) (node : Node) :
    ℕ × (ℕ → Address) × (ℕ → String → String) :=
  (resolver.recordVersions node, resolver.addresses node, resolver.textRecords node)

variable {node other : Node}

theorem bump_of_ne (hother : other ≠ node) :
    (resolver.bump node).recordsOf other = resolver.recordsOf other := by
  simp [bump, recordsOf, Function.update_of_ne hother]

theorem setAddr_of_ne (resolvedAddress : Address) (hother : other ≠ node) :
    (resolver.setAddr node resolvedAddress).recordsOf other = resolver.recordsOf other := by
  simp [setAddr, recordsOf, Function.update_of_ne hother]

theorem setText_of_ne (key value : String) (hother : other ≠ node) :
    (resolver.setText node key value).recordsOf other = resolver.recordsOf other := by
  simp [setText, recordsOf, Function.update_of_ne hother]

end PublicResolver

/-- `isAuthorised` of the resolver: an unowned node is nobody's. -/
def ArcRegistry.Resolves (registry : ArcRegistry Node) (node : Node) (account : Address) : Prop :=
  (registry.records node).owner ≠ 0 ∧ registry.Authorised node account

instance (registry : ArcRegistry Node) (node : Node) (account : Address) :
    Decidable (registry.Resolves node account) :=
  inferInstanceAs (Decidable (_ ∧ _))

namespace Resolver

variable [DecidableEq Node] (sender : Address)

omit [DecidableEq Node] in
def update (change : PublicResolver Node → PublicResolver Node) : AnsCall Node Label PUnit :=
  modify fun world => { world with resolver := change world.resolver }

omit [DecidableEq Node] in
/-- The modifier `authorised`. -/
def checkAuthorised (node : Node) (account : Address) : AnsCall Node Label Unit := do
  let world ← get
  Call.revertIf (¬ world.registry.Resolves node account) (.custom (.notAuthorised node account))

def clearRecords (node : Node) : AnsCall Node Label PUnit := do
  checkAuthorised node sender
  let world ← get
  Call.revertIf (2 ^ 64 ≤ world.resolver.recordVersions node + 1) .arithmeticOverflow
  update fun resolver => resolver.bump node

def setAddr (node : Node) (resolvedAddress : Address) : AnsCall Node Label PUnit := do
  checkAuthorised node sender
  update fun resolver => resolver.setAddr node resolvedAddress

def setText (node : Node) (key value : String) : AnsCall Node Label PUnit := do
  checkAuthorised node sender
  update fun resolver => resolver.setText node key value

end Resolver

/-! ## Revenue vaults and tokens -/

namespace Vault

/-- The modifier `onlyOwner` of the vault at `vault`. -/
def onlyOwner (vault sender : Address) : AnsCall Node Label Unit := do
  let world ← get
  match world.vaults vault with
  | none => Call.revert .externalCall
  | some owner => Call.revertIf (sender ≠ owner) (.ownableUnauthorizedAccount sender)

def withdraw (vault sender token target : Address) (amount : ℕ) : AnsCall Node Label Unit := do
  onlyOwner vault sender
  Call.revertIf (token = 0) (.custom (.invalidToken 0))
  Call.revertIf (target = 0) (.custom (.invalidRecipient 0))
  Call.external (onLedgers (Ledgers.moveToken token vault target amount)) .externalCall

def setOwner (vault newOwner : Address) : AnsCall Node Label PUnit :=
  modify fun world => { world with vaults := Function.update world.vaults vault (some newOwner) }

def transferOwnership (vault sender newOwner : Address) : AnsCall Node Label PUnit := do
  onlyOwner vault sender
  Call.revertIf (newOwner = 0) (.custom (.ownableInvalidOwner 0))
  setOwner vault newOwner

def renounceOwnership (vault sender : Address) : AnsCall Node Label PUnit := do
  onlyOwner vault sender
  setOwner vault 0

end Vault

end WizPay.Ans
