import WizPay.Ans.RootRegistry

/-!
# Namespace controllers

A controller sells the names of one namespace: it checks the label, collects the rent into
the vault of the namespace and registers the name, by way of itself when records are to be
set up first. On that way it calls a resolver of the buyer's choice and, at the end, the
account that receives the name.
-/

namespace WizPay.Ans

open Foundation Evm

variable {Node Label : Type}

def MIN_LABEL_LENGTH : ℕ := 3

/-- A call from the name service into code it does not know. -/
inductive Hook (Node Label : Type) where
  | setAddr (resolver : Address) (node : Node) (resolvedAddress : Address)
  | setText (resolver : Address) (node : Node) (key value : String)
  | onERC721Received (receiver operator source : Address) (id : Label)
deriving DecidableEq

/-- What that code does to the chain: it may call back, and it may fail. -/
abbrev Outside (Node Label : Type) :=
  Hook Node Label → World Node Label → Option (World Node Label)

/-- The arguments of `register`. -/
structure Purchase where
  label : List UInt8
  owner : Address
  duration : ℕ
  resolver : Address
  resolvedAddress : Address
  textKeys : List String
  textValues : List String
deriving DecidableEq

/-- `needsResolverSetup`. -/
def Purchase.NeedsResolverSetup (purchase : Purchase) : Prop :=
  purchase.resolver ≠ 0 ∨ purchase.resolvedAddress ≠ 0 ∨ purchase.textKeys.length ≠ 0

instance (purchase : Purchase) : Decidable purchase.NeedsResolverSetup :=
  inferInstanceAs (Decidable (_ ∨ _))

namespace Controller

variable [DecidableEq Node] [DecidableEq Label]
variable (d : Deployment Node Label) (outside : Outside Node Label) (self sender : Address)
  (now : ℕ)

omit [DecidableEq Node] [DecidableEq Label] in
def load : AnsCall Node Label (NamespaceController Label) := do
  let world ← get
  match world.controllers self with
  | some controller => return controller
  | none => Call.revert .externalCall

omit [DecidableEq Node] [DecidableEq Label] in
def setEntered (entered : Bool) : AnsCall Node Label PUnit :=
  modify fun world =>
    { world with
      controllers := Function.update world.controllers self
        ((world.controllers self).map fun controller => { controller with entered }) }

omit [DecidableEq Node] [DecidableEq Label] in
/-- `nonReentrant` of the controller at `self`. -/
def nonReentrant {α : Type} (body : NamespaceController Label → AnsCall Node Label α) :
    AnsCall Node Label α := do
  let controller ← load self
  Call.revertIf (controller.entered = true) .reentrancyGuardReentrantCall
  setEntered self true
  let value ← body controller
  setEntered self false
  return value

omit [DecidableEq Node] [DecidableEq Label] in
/-- `_collectPayment`. -/
def collectPayment (hash : Label) (amount : ℕ) : AnsCall Node Label Unit :=
  if amount = 0 then return ()
  else do
    let world ← get
    let vault := (world.rootRegistry.namespaceRecords hash).vault
    Call.revertIf (vault = 0) (.custom (.invalidNamespaceVault 0))
    Call.external (onLedgers (Ledgers.transferFrom d.usdc self sender vault amount)) .externalCall

omit [DecidableEq Node] [DecidableEq Label] in
/-- A call into an account that is not one of the contracts of the name service; those
have no such function. -/
def callOutside (callee : Address) (hook : Hook Node Label) (error : Revert (Error Node Label)) :
    AnsCall Node Label Unit := do
  let world ← get
  Call.revertIf (world.isContract d callee = true) error
  Call.external (outside hook) error

omit [DecidableEq Label] in
def setAddr (resolver : Address) (node : Node) (resolvedAddress : Address) :
    AnsCall Node Label Unit :=
  if resolver = d.publicResolver then Resolver.setAddr self node resolvedAddress
  else callOutside d outside resolver (.setAddr resolver node resolvedAddress) .externalCall

omit [DecidableEq Label] in
def setText (resolver : Address) (node : Node) (key value : String) : AnsCall Node Label Unit :=
  if resolver = d.publicResolver then Resolver.setText self node key value
  else callOutside d outside resolver (.setText resolver node key value) .externalCall

omit [DecidableEq Label] in
/-- The loop over the text records. -/
def setTexts (resolver : Address) (node : Node) : List (String × String) → AnsCall Node Label Unit
  | [] => return ()
  | (key, value) :: rest => do
      setText d outside self resolver node key value
      setTexts resolver node rest

/-- `safeTransferFrom` of a registrar: the transfer, then the receiver is asked. -/
def safeTransferFrom (registrar caller source target : Address) (id : Label) :
    AnsCall Node Label Unit := do
  Registrar.transferFrom d registrar caller now source target id
  callOutside d outside target (.onERC721Received target caller source id)
    (.custom (.erc721InvalidReceiver target))

/-- The part of `register` that buys the name for the controller and hands it over with its
records set up. -/
def registerWithResolver (controller : NamespaceController Label) (purchase : Purchase)
    (node : Node) : AnsCall Node Label ℕ := do
  let id := d.labelhash purchase.label
  let world ← get
  let effectiveResolver :=
    if purchase.resolver = 0 then world.rootRegistry.defaultResolver else purchase.resolver
  Call.revertIf (effectiveResolver = 0) (.custom .resolverRequired)
  let expires ← Registrar.register d controller.registrar self now id self purchase.duration
  Registry.setResolver self node effectiveResolver
  Call.when (purchase.resolvedAddress ≠ 0)
    (setAddr d outside self effectiveResolver node purchase.resolvedAddress)
  setTexts d outside self effectiveResolver node (purchase.textKeys.zip purchase.textValues)
  safeTransferFrom d outside now controller.registrar self self purchase.owner id
  return expires

/-- `register`, called by `sender`. -/
def register (purchase : Purchase) : AnsCall Node Label (Node × ℕ) :=
  nonReentrant self fun controller => do
    let labelLength ← validateLabel MIN_LABEL_LENGTH purchase.label
    Call.revertIf (purchase.owner = 0) (.custom (.invalidRegistrant 0))
    Call.revertIf (purchase.textKeys.length ≠ purchase.textValues.length)
      (.custom (.textRecordArrayLengthMismatch purchase.textKeys.length
        purchase.textValues.length))
    let hash := controller.namespaceLabelhash
    let world ← get
    Call.revertIf (¬ (world.rootRegistry.namespaceRecords hash).IsActive)
      (.custom (.namespaceInactive hash))
    let id := d.labelhash purchase.label
    let isAvailable ← Registrar.available controller.registrar now id
    Call.revertIf (isAvailable = false) (.custom (.labelUnavailable purchase.label))
    let price ← Root.rentPrice now hash labelLength purchase.duration
    collectPayment d self sender hash price
    let registrar ← Registrar.load controller.registrar
    let node := d.subnode registrar.baseNode id
    if purchase.NeedsResolverSetup then do
      let expires ← registerWithResolver d outside self now controller purchase node
      return (node, expires)
    else do
      let expires ← Registrar.register d controller.registrar self now id purchase.owner
        purchase.duration
      return (node, expires)

omit [DecidableEq Node] in
/-- `renew`, called by `sender`; anybody may pay for a name. -/
def renew (label : List UInt8) (duration : ℕ) : AnsCall Node Label ℕ :=
  nonReentrant self fun controller => do
    let labelLength ← validateLabel MIN_LABEL_LENGTH label
    let hash := controller.namespaceLabelhash
    let world ← get
    Call.revertIf (¬ (world.rootRegistry.namespaceRecords hash).IsActive)
      (.custom (.namespaceInactive hash))
    let price ← Root.rentPrice now hash labelLength duration
    collectPayment d self sender hash price
    Registrar.renew controller.registrar self now (d.labelhash label) duration

end Controller

end WizPay.Ans
