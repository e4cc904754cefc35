import WizPay.Ans.Registrar

/-!
# The root registry

Namespaces are created by the root registry: the global one by its owner, the others by
anybody who pays the fee. The factory deploys the contracts of a namespace for it. The root
registry keeps what a namespace charges and where its revenue goes.
-/

namespace WizPay.Ans

open Foundation Evm

variable {Node Label : Type}

def CUSTOM_NAMESPACE_REGISTRATION_FEE : ℕ := 500000000
def MAX_BPS : ℕ := 10000
def MIN_NAMESPACE_LENGTH : ℕ := 2
def YEAR : ℕ := 365 * 24 * 60 * 60

def arcBytes : List UInt8 := [0x61, 0x72, 0x63]
def rootBytes : List UInt8 := [0x72, 0x6f, 0x6f, 0x74]
def adminBytes : List UInt8 := [0x61, 0x64, 0x6d, 0x69, 0x6e]
def wwwBytes : List UInt8 := [0x77, 0x77, 0x77]

namespace Namehash

variable (names : Namehash Node Label)

def arcLabelhash : Label := names.labelhash arcBytes
def rootLabelhash : Label := names.labelhash rootBytes
def adminLabelhash : Label := names.labelhash adminBytes
def wwwLabelhash : Label := names.labelhash wwwBytes

/-- `_nodeFor` a namespace. -/
def namespaceNode (labelhash : Label) : Node := names.subnode names.root labelhash

/-- The labels that are nobody's. -/
def IsWithheld (labelhash : Label) : Prop :=
  labelhash = names.rootLabelhash ∨ labelhash = names.adminLabelhash ∨
    labelhash = names.wwwLabelhash

/-- `_isReservedCustomNamespace`. -/
def IsReserved (labelhash : Label) : Prop :=
  labelhash = names.arcLabelhash ∨ labelhash = names.rootLabelhash ∨
    labelhash = names.adminLabelhash ∨ labelhash = names.wwwLabelhash

theorem arc_not_withheld : ¬ names.IsWithheld names.arcLabelhash := by
  rintro (hroot | hadmin | hwww)
  · exact absurd (names.labelhash_inj hroot) (by decide)
  · exact absurd (names.labelhash_inj hadmin) (by decide)
  · exact absurd (names.labelhash_inj hwww) (by decide)

instance [DecidableEq Label] (labelhash : Label) : Decidable (names.IsReserved labelhash) :=
  inferInstanceAs (Decidable (_ ∨ _))

end Namehash

/-! ## Labels -/

/-- The loop over the characters of a label, from an index on. -/
def checkCharacters : ℕ → List UInt8 → AnsCall Node Label Unit
  | _, [] => return ()
  | index, character :: rest => do
      Call.revertIf (character = 0x2e) (.custom .dotsNotAllowed)
      Call.revertIf (¬ (0x61 ≤ character ∧ character ≤ 0x7a) ∧
          ¬ (0x30 ≤ character ∧ character ≤ 0x39) ∧ character ≠ 0x2d)
        (.custom (.invalidLabelCharacter index character))
      checkCharacters (index + 1) rest

/-- `_validateNamespaceLabel` and `_validateLabel`, which differ in the shortest length. -/
def validateLabel (minimum : ℕ) (label : List UInt8) : AnsCall Node Label ℕ := do
  Call.revertIf (label.length < minimum) (.custom (.labelTooShort label.length))
  Call.revertIf (label.head? = some 0x2d ∨ label.getLast? = some 0x2d)
    (.custom .invalidHyphenPlacement)
  checkCharacters 0 label
  return label.length

/-! ## The factory -/

/-- The addresses the factory creates contracts at. -/
structure Created where
  registrar : Address
  controller : Address
  vault : Address
deriving DecidableEq

/-- A registrar after its constructor. -/
def NamespaceRegistrar.deployed (baseNode : Node) (owner : Address) :
    NamespaceRegistrar Node Label where
  baseNode := baseNode
  owner := owner
  owners := fun _ => 0
  tokenApprovals := fun _ => 0
  operatorApprovals := fun _ _ => false
  expiries := fun _ => 0
  controllers := fun _ => false

namespace Factory

variable (d : Deployment Node Label) (sender : Address)

def onlyOwner : AnsCall Node Label Unit := do
  let world ← get
  Call.revertIf (sender ≠ world.factoryOwner) (.ownableUnauthorizedAccount sender)

/-- `new`: the constructor runs at a fresh address. -/
def create (account : Address) (constructed : World Node Label → World Node Label) :
    AnsCall Node Label PUnit := do
  let world ← get
  Call.revertIf (world.isFresh d account = false) .externalCall
  modify constructed

/-- `_deployNamespaceStack`. -/
def deployNamespaceStack (created : Created) (labelhash : Label) (deployVault : Bool)
    (namespaceOwner : Address) : AnsCall Node Label PUnit := do
  create d created.registrar fun world => world.setRegistrar created.registrar
    (.deployed (d.namespaceNode labelhash) d.namespaceFactory)
  create d created.controller fun world =>
    { world with
      controllers := Function.update world.controllers created.controller
        (some ⟨created.registrar, labelhash, false⟩) }
  Call.when (deployVault = true) do
    Call.revertIf (namespaceOwner = 0) (.custom (.ownableInvalidOwner 0))
    create d created.vault fun world =>
      { world with vaults := Function.update world.vaults created.vault (some namespaceOwner) }

def deployGlobalNamespace (created : Created) (labelhash : Label) : AnsCall Node Label PUnit := do
  onlyOwner sender
  deployNamespaceStack d created labelhash false 0

def deployCustomNamespace (created : Created) (labelhash : Label) (namespaceOwner : Address) :
    AnsCall Node Label PUnit := do
  onlyOwner sender
  deployNamespaceStack d created labelhash true namespaceOwner

def finalizeNamespace [DecidableEq Node] (created : Created)
    (namespaceOwner defaultResolver : Address) : AnsCall Node Label PUnit := do
  onlyOwner sender
  Registrar.setResolver created.registrar d.namespaceFactory defaultResolver
  Registrar.setController created.registrar d.namespaceFactory created.controller true
  Registrar.transferOwnership created.registrar d.namespaceFactory namespaceOwner

end Factory

/-! ## Records of namespaces -/

/-- The record of a namespace nobody created. -/
def NamespaceRecord.empty : NamespaceRecord := ⟨0, 0, 0, 0, false, false, false, false⟩

namespace RootRegistry

/-- Storage before the constructor. -/
def empty : RootRegistry Label where
  owner := 0
  entered := false
  platformVault := 0
  defaultResolver := 0
  namespaceRecords := fun _ => .empty
  pricingConfigs := fun _ => ⟨0, 0, 0⟩
  promoConfigs := fun _ => ⟨false, 0, 0, 0⟩

variable [DecidableEq Label] (root : RootRegistry Label)

def setRecord (labelhash : Label) (record : NamespaceRecord) : RootRegistry Label :=
  { root with namespaceRecords := Function.update root.namespaceRecords labelhash record }

def setPricing (labelhash : Label) (pricing : PricingConfig) : RootRegistry Label :=
  { root with pricingConfigs := Function.update root.pricingConfigs labelhash pricing }

def setPromo (labelhash : Label) (promo : PromoConfig) : RootRegistry Label :=
  { root with promoConfigs := Function.update root.promoConfigs labelhash promo }

variable {labelhash other : Label} (record : NamespaceRecord) (pricing : PricingConfig)
  (promo : PromoConfig)

@[simp] theorem setRecord_self : (root.setRecord labelhash record).namespaceRecords labelhash =
    record := Function.update_self ..

@[simp] theorem setPricing_self : (root.setPricing labelhash pricing).pricingConfigs labelhash =
    pricing := Function.update_self ..

@[simp] theorem setPromo_self : (root.setPromo labelhash promo).promoConfigs labelhash = promo :=
  Function.update_self ..

theorem setRecord_of_ne (hother : other ≠ labelhash) :
    (root.setRecord labelhash record).namespaceRecords other = root.namespaceRecords other :=
  Function.update_of_ne hother ..

theorem setPricing_of_ne (hother : other ≠ labelhash) :
    (root.setPricing labelhash pricing).pricingConfigs other = root.pricingConfigs other :=
  Function.update_of_ne hother ..

theorem setPromo_of_ne (hother : other ≠ labelhash) :
    (root.setPromo labelhash promo).promoConfigs other = root.promoConfigs other :=
  Function.update_of_ne hother ..

end RootRegistry

/-- `_isPromoActive`. -/
def PromoConfig.IsActive (promo : PromoConfig) (now : ℕ) : Prop :=
  promo.enabled = true ∧ ¬ (promo.startsAt ≠ 0 ∧ now < promo.startsAt) ∧
    ¬ (promo.endsAt ≠ 0 ∧ promo.endsAt < now)

instance (promo : PromoConfig) (now : ℕ) : Decidable (promo.IsActive now) :=
  inferInstanceAs (Decidable (_ ∧ _))

/-- `_annualPriceForLength`. -/
def PricingConfig.annualPriceForLength (pricing : PricingConfig) (labelLength : ℕ) : ℕ :=
  if labelLength = 3 then pricing.threeCharacterPrice
  else if labelLength = 4 then pricing.fourCharacterPrice
  else pricing.fivePlusCharacterPrice

/-- `isNamespaceActive`. -/
def NamespaceRecord.IsActive (record : NamespaceRecord) : Prop :=
  record.owner ≠ 0 ∧ record.active = true ∧ record.blacklisted = false

instance (record : NamespaceRecord) : Decidable record.IsActive :=
  inferInstanceAs (Decidable (_ ∧ _))

/-- `Math.mulDiv` by a constant, rounded down. -/
def mulDiv (first second divisor : ℕ) : AnsCall Node Label ℕ := do
  Call.revertIf (uint256Bound ≤ first * second / divisor) .arithmeticOverflow
  return first * second / divisor

def mulDivCeil (first second divisor : ℕ) : AnsCall Node Label ℕ := do
  let quotient ← mulDiv first second divisor
  checkedAdd quotient (if first * second % divisor = 0 then 0 else 1)

namespace Root

variable (d : Deployment Node Label) (sender : Address)

def update (change : RootRegistry Label → RootRegistry Label) : AnsCall Node Label PUnit :=
  modify fun world => { world with rootRegistry := change world.rootRegistry }

def onlyOwner : AnsCall Node Label Unit := do
  let world ← get
  Call.revertIf (sender ≠ world.rootRegistry.owner) (.ownableUnauthorizedAccount sender)

/-- `_labelhash`. -/
def labelhash (label : List UInt8) : AnsCall Node Label Label := do
  let _ ← validateLabel MIN_NAMESPACE_LENGTH label
  return d.labelhash label

/-- `_requireNamespace`. -/
def requireNamespace (label : List UInt8) : AnsCall Node Label Label := do
  let hash ← labelhash d label
  let world ← get
  Call.revertIf ((world.rootRegistry.namespaceRecords hash).owner = 0)
    (.custom (.namespaceNotFound hash))
  return hash

variable [DecidableEq Label]

/-- `_setNamespacePricing`. -/
def writePricing (hash : Label) (pricing : PricingConfig) : AnsCall Node Label PUnit := do
  Call.revertIf (pricing.threeCharacterPrice < pricing.fourCharacterPrice ∨
      pricing.fourCharacterPrice < pricing.fivePlusCharacterPrice)
    (.custom (.invalidPriceTierOrder pricing.threeCharacterPrice pricing.fourCharacterPrice
      pricing.fivePlusCharacterPrice))
  update fun root => root.setPricing hash pricing

/-- `_setNamespacePromo`. -/
def writePromo (hash : Label) (promo : PromoConfig) : AnsCall Node Label PUnit := do
  Call.revertIf (MAX_BPS < promo.discountBps) (.custom (.invalidPromoDiscount promo.discountBps))
  Call.revertIf (promo.enabled = true ∧ promo.endsAt ≠ 0 ∧ promo.endsAt ≤ promo.startsAt)
    (.custom (.invalidPromoWindow promo.startsAt promo.endsAt))
  update fun root => root.setPromo hash promo

omit [DecidableEq Label] in
/-- `_setPlatformVault`. -/
def writePlatformVault (vault : Address) : AnsCall Node Label PUnit := do
  Call.revertIf (vault = 0) (.custom (.invalidPlatformVault 0))
  update fun root => { root with platformVault := vault }

omit [DecidableEq Label] in
/-- `_setDefaultResolver`. -/
def writeDefaultResolver (resolver : Address) : AnsCall Node Label PUnit := do
  Call.revertIf (resolver = 0) (.custom (.invalidResolver 0))
  update fun root => { root with defaultResolver := resolver }

omit [DecidableEq Label] in
/-- The constructor, from empty storage. -/
def construct (platformVault defaultResolver initialOwner : Address) :
    AnsCall Node Label PUnit := do
  Call.revertIf (initialOwner = 0) (.custom (.ownableInvalidOwner 0))
  update fun _ => { RootRegistry.empty with owner := initialOwner }
  writePlatformVault platformVault
  writeDefaultResolver defaultResolver

/-! ## Creating namespaces -/

/-- What both creations end with: prices, promo, the node for the registrar, and the
registrar for the owner of the namespace. -/
def openNamespace [DecidableEq Node] (created : Created) (hash : Label)
    (namespaceOwner : Address) (pricing : PricingConfig) (promo : PromoConfig) :
    AnsCall Node Label PUnit := do
  writePricing hash pricing
  writePromo hash promo
  Registry.setSubnodeOwner d d.rootRegistry d.root hash created.registrar
  let world ← get
  Factory.finalizeNamespace d d.rootRegistry created namespaceOwner
    world.rootRegistry.defaultResolver

def bootstrapArcNamespace [DecidableEq Node] (created : Created) (namespaceOwner : Address)
    (pricing : PricingConfig) (promo : PromoConfig) : AnsCall Node Label PUnit := do
  onlyOwner sender
  Call.revertIf (namespaceOwner = 0) (.custom (.invalidNamespaceOwner 0))
  let world ← get
  Call.revertIf ((world.rootRegistry.namespaceRecords d.arcLabelhash).owner ≠ 0)
    (.custom (.namespaceAlreadyExists d.arcLabelhash))
  Factory.deployGlobalNamespace d d.rootRegistry created d.arcLabelhash
  update fun root => root.setRecord d.arcLabelhash
    { root.namespaceRecords d.arcLabelhash with
      owner := namespaceOwner
      registrar := created.registrar
      controller := created.controller
      vault := root.platformVault
      active := true
      isGlobal := true
      whitelisted := true }
  openNamespace d created d.arcLabelhash namespaceOwner pricing promo

/-- `nonReentrant` of the root registry. -/
def nonReentrant {α : Type} (body : AnsCall Node Label α) : AnsCall Node Label α := do
  let world ← get
  Call.revertIf (world.rootRegistry.entered = true) .reentrancyGuardReentrantCall
  update fun root => { root with entered := true }
  let value ← body
  update fun root => { root with entered := false }
  return value

def registerNamespace [DecidableEq Node] (created : Created) (label : List UInt8)
    (namespaceOwner : Address) (pricing : PricingConfig) (promo : PromoConfig) :
    AnsCall Node Label PUnit :=
  nonReentrant do
    Call.revertIf (namespaceOwner = 0) (.custom (.invalidNamespaceOwner 0))
    let hash ← labelhash d label
    Call.revertIf (d.IsReserved hash) (.custom (.namespaceReserved hash))
    let world ← get
    Call.revertIf ((world.rootRegistry.namespaceRecords hash).owner ≠ 0)
      (.custom (.namespaceAlreadyExists hash))
    Call.external (onLedgers (Ledgers.transferFrom d.usdc d.rootRegistry sender
      world.rootRegistry.platformVault CUSTOM_NAMESPACE_REGISTRATION_FEE)) .externalCall
    Factory.deployCustomNamespace d d.rootRegistry created hash namespaceOwner
    update fun root => root.setRecord hash
      { root.namespaceRecords hash with
        owner := namespaceOwner
        registrar := created.registrar
        controller := created.controller
        vault := created.vault
        active := true }
    openNamespace d created hash namespaceOwner pricing promo

/-! ## Managing namespaces -/

/-- The owner of the root registry manages every namespace, an owner of a namespace other
than the global one its own. -/
def managed (label : List UInt8) : AnsCall Node Label Label := do
  let hash ← requireNamespace d label
  let world ← get
  Call.revertIf (hash = d.arcLabelhash ∧ sender ≠ world.rootRegistry.owner)
    (.custom (.unauthorizedNamespaceManager hash sender))
  Call.revertIf (hash ≠ d.arcLabelhash ∧ sender ≠ world.rootRegistry.owner ∧
      sender ≠ (world.rootRegistry.namespaceRecords hash).owner)
    (.custom (.unauthorizedNamespaceManager hash sender))
  return hash

def setNamespacePricing (label : List UInt8) (pricing : PricingConfig) :
    AnsCall Node Label PUnit := do
  let hash ← managed d sender label
  writePricing hash pricing

def setNamespacePromo (label : List UInt8) (promo : PromoConfig) : AnsCall Node Label PUnit := do
  let hash ← managed d sender label
  writePromo hash promo

/-- A flag of a record, for the owner of the root registry to set. -/
def setFlag (label : List UInt8) (change : NamespaceRecord → NamespaceRecord) :
    AnsCall Node Label PUnit := do
  onlyOwner sender
  let hash ← requireNamespace d label
  update fun root => root.setRecord hash (change (root.namespaceRecords hash))

def setNamespaceActive (label : List UInt8) (active : Bool) : AnsCall Node Label PUnit :=
  setFlag d sender label fun record => { record with active }

def setNamespaceWhitelist (label : List UInt8) (whitelisted : Bool) : AnsCall Node Label PUnit :=
  setFlag d sender label fun record => { record with whitelisted }

def setNamespaceBlacklist (label : List UInt8) (blacklisted : Bool) : AnsCall Node Label PUnit :=
  setFlag d sender label fun record => { record with blacklisted }

omit [DecidableEq Label] in
/-- The modifier `onlyNamespaceManager`. -/
def onlyNamespaceManager (hash : Label) : AnsCall Node Label Unit := do
  let world ← get
  let record := world.rootRegistry.namespaceRecords hash
  Call.revertIf (record.owner = 0) (.custom (.namespaceNotFound hash))
  Call.revertIf (sender ≠ world.rootRegistry.owner ∧ sender ≠ record.owner)
    (.custom (.unauthorizedNamespaceManager hash sender))

def setNamespaceVault (label : List UInt8) (newVault : Address) : AnsCall Node Label PUnit := do
  let managedHash ← labelhash d label
  onlyNamespaceManager sender managedHash
  let hash ← requireNamespace d label
  Call.revertIf (hash = d.arcLabelhash) (.custom (.namespaceReserved hash))
  Call.revertIf (newVault = 0) (.custom (.invalidNamespaceVault 0))
  update fun root => root.setRecord hash { root.namespaceRecords hash with vault := newVault }

/-- The global namespace pays into the platform vault, so it follows a new one. -/
def setPlatformVault (newPlatformVault : Address) : AnsCall Node Label PUnit := do
  onlyOwner sender
  writePlatformVault newPlatformVault
  let world ← get
  Call.when ((world.rootRegistry.namespaceRecords d.arcLabelhash).owner ≠ 0)
    (update fun root => root.setRecord d.arcLabelhash
      { root.namespaceRecords d.arcLabelhash with vault := newPlatformVault })

omit [DecidableEq Label] in
def setDefaultResolver (newDefaultResolver : Address) : AnsCall Node Label PUnit := do
  onlyOwner sender
  writeDefaultResolver newDefaultResolver

omit [DecidableEq Label] in
def transferOwnership (newOwner : Address) : AnsCall Node Label PUnit := do
  onlyOwner sender
  Call.revertIf (newOwner = 0) (.custom (.ownableInvalidOwner 0))
  update fun root => { root with owner := newOwner }

omit [DecidableEq Label] in
def renounceOwnership : AnsCall Node Label PUnit := do
  onlyOwner sender
  update fun root => { root with owner := 0 }

/-! ## Prices -/

omit [DecidableEq Label] in
def rentPrice (now : ℕ) (hash : Label) (labelLength duration : ℕ) : AnsCall Node Label ℕ := do
  let world ← get
  Call.revertIf ((world.rootRegistry.namespaceRecords hash).owner = 0)
    (.custom (.namespaceNotFound hash))
  Call.revertIf (duration = 0) (.custom (.invalidDuration duration))
  let pricing := world.rootRegistry.pricingConfigs hash
  let basePrice ← mulDivCeil (pricing.annualPriceForLength labelLength) duration YEAR
  let promo := world.rootRegistry.promoConfigs hash
  if ¬ promo.IsActive now ∨ promo.discountBps = 0 then return basePrice
  else do
    let discount ← mulDiv basePrice promo.discountBps MAX_BPS
    Call.revertIf (basePrice < discount) .arithmeticOverflow
    return basePrice - discount

end Root

/-- The chain when the contracts are deployed: the deployer holds the root node and has
approved the root registry for it, and the root registry owns the factory. -/
def World.launched [DecidableEq Node] (d : Deployment Node Label)
    (deployer platformVault : Address) (ledgers : Ledgers) : World Node Label where
  registry := {
    records := Function.update (fun _ => ⟨0, 0, 0⟩) d.root ⟨deployer, 0, 0⟩
    operators := fun holder operator =>
      decide (holder = deployer ∧ operator = d.rootRegistry) }
  resolver := {
    recordVersions := fun _ => 0
    addresses := fun _ _ => 0
    textRecords := fun _ _ _ => "" }
  rootRegistry := .empty
  factoryOwner := d.rootRegistry
  registrars := fun _ => none
  controllers := fun _ => none
  vaults := Function.update (fun _ => none) platformVault (some deployer)
  ledgers := ledgers

end WizPay.Ans
