import WizPay.Ans.Effects

/-!
# Creating namespaces

A namespace is created with a registrar, a controller and, unless it is the global one, a
vault at fresh addresses. The registrar then owns the node of the namespace, and the
controller is the only one of the registrar.
-/

namespace WizPay.Ans

open Foundation Evm

variable {Node Label : Type}

/-- A registrar when its namespace opens. -/
def NamespaceRegistrar.opened (baseNode : Node) (controller owner : Address) :
    NamespaceRegistrar Node Label :=
  { NamespaceRegistrar.deployed baseNode owner with
    controllers := Function.update (fun _ => false) controller true }

/-- What the root registry checks of prices and promos. -/
structure PricingConfig.Ordered (pricing : PricingConfig) : Prop where
  four_le_three : pricing.fourCharacterPrice ≤ pricing.threeCharacterPrice
  five_le_four : pricing.fivePlusCharacterPrice ≤ pricing.fourCharacterPrice

structure PromoConfig.Valid (promo : PromoConfig) : Prop where
  discount_le : promo.discountBps ≤ MAX_BPS
  window : promo.enabled = true → promo.endsAt ≠ 0 → promo.startsAt < promo.endsAt

variable {d : Deployment Node Label} {world : World Node Label} {α : Type}

theorem isFresh_iff {account : Address} :
    world.isFresh d account = true ↔
      world.isContract d account = false ∧ d.external account = false ∧ account ≠ 0 := by
  simp [World.isFresh, and_assoc]

theorem isContract_eq_false {account : Address} (hfresh : world.isContract d account = false) :
    account ≠ d.namespaceFactory ∧ account ≠ d.rootRegistry ∧ world.registrars account = none ∧
      world.controllers account = none ∧ world.vaults account = none := by
  simp only [World.isContract, Bool.or_eq_false_iff, beq_eq_false_iff_ne, ne_eq,
    Option.isSome_eq_false_iff, Option.isNone_iff_eq_none] at hfresh
  obtain ⟨⟨⟨⟨⟨⟨⟨-, -⟩, -⟩, hfactory⟩, hroot⟩, hregistrar⟩, hcontroller⟩, hvault⟩ := hfresh
  exact ⟨hfactory, hroot, hregistrar, hcontroller, hvault⟩

theorem checkCharacters_state {index : ℕ} {label : List UInt8} {value : Unit}
    {next : World Node Label} (hrun : (checkCharacters index label).run world = .ok (value, next)) :
    next = world := by
  induction label generalizing index with
  | nil => exact (Prod.mk.inj (Call.pure_ok.mp hrun)).2.symm
  | cons character rest ih =>
      rw [checkCharacters, Call.bind_revertIf_ok, Call.bind_revertIf_ok] at hrun
      exact ih hrun.2.2

/-- Validating a label changes nothing. -/
theorem validateLabel_state {minimum length : ℕ} {label : List UInt8} {next : World Node Label}
    (hrun : (validateLabel minimum label).run world = .ok (length, next)) : next = world := by
  rw [validateLabel, Call.bind_revertIf_ok, Call.bind_revertIf_ok] at hrun
  obtain ⟨_, middle, hcheck, hpure⟩ := Call.bind_ok.mp hrun.2.2
  rw [← (Prod.mk.inj (Call.pure_ok.mp hpure)).2]
  exact checkCharacters_state hcheck

/-! ## The factory -/

namespace Factory

theorem bind_onlyOwner_ok {sender : Address} {rest : Unit → AnsCall Node Label α}
    {result : α × World Node Label} :
    (onlyOwner sender >>= rest).run world = .ok result ↔
      sender = world.factoryOwner ∧ (rest ()).run world = .ok result := by
  rw [onlyOwner, bind_assoc, Call.bind_get_ok, Call.bind_revertIf_ok, not_not]

theorem create_ok {account : Address} {constructed : World Node Label → World Node Label}
    {result : PUnit × World Node Label} :
    (create d account constructed).run world = .ok result ↔
      world.isFresh d account = true ∧ (PUnit.unit, constructed world) = result := by
  rw [create, Call.bind_get_ok, Call.bind_revertIf_ok, Bool.not_eq_false, Call.modify_ok]

theorem bind_create_ok {account : Address} {constructed : World Node Label → World Node Label}
    {rest : PUnit → AnsCall Node Label α} {result : α × World Node Label} :
    (create d account constructed >>= rest).run world = .ok result ↔
      world.isFresh d account = true ∧ (rest PUnit.unit).run (constructed world) = .ok result := by
  rw [create, bind_assoc, Call.bind_get_ok, bind_assoc, Call.bind_revertIf_ok, Bool.not_eq_false,
    Call.bind_modify_ok]

/-- The world with a registrar and a controller just deployed. -/
def deployedStack (d : Deployment Node Label) (created : Created) (hash : Label)
    (world : World Node Label) : World Node Label :=
  { world.setRegistrar created.registrar
      (.deployed (d.namespaceNode hash) d.namespaceFactory) with
    controllers := Function.update world.controllers created.controller
      (some ⟨created.registrar, hash, false⟩) }

theorem deployNamespaceStack_ok {created : Created} {hash : Label} {deployVault : Bool}
    {namespaceOwner : Address} {value : PUnit} {next : World Node Label}
    (hrun : (deployNamespaceStack d created hash deployVault namespaceOwner).run world =
      .ok (value, next)) :
    world.isFresh d created.registrar = true ∧ world.isFresh d created.controller = true ∧
      created.controller ≠ created.registrar ∧
      (deployVault = true ∧ world.isFresh d created.vault = true ∧
          next = { deployedStack d created hash world with
            vaults := Function.update world.vaults created.vault (some namespaceOwner) } ∨
        deployVault = false ∧ next = deployedStack d created hash world) := by
  obtain ⟨hregistrar, hcontroller⟩ := bind_create_ok.mp hrun
  obtain ⟨hfresh, hvault⟩ := bind_create_ok.mp hcontroller
  have hfreshen : ∀ {account : Address} {later : World Node Label},
      later.isFresh d account = true → later.registrars = (world.setRegistrar created.registrar
          (.deployed (d.namespaceNode hash) d.namespaceFactory)).registrars →
        (later.controllers account = none → world.controllers account = none) →
        later.vaults = world.vaults → account ≠ created.registrar ∧
          world.isFresh d account = true := by
    intro account later hlater hregistrars hcontrollers hvaults
    obtain ⟨hcontract, hexternal, hzero⟩ := isFresh_iff.mp hlater
    obtain ⟨-, -, hnone, hnobody, hempty⟩ := isContract_eq_false hcontract
    rw [hregistrars] at hnone
    have hne : account ≠ created.registrar := by
      rintro rfl
      rw [setRegistrar_self] at hnone
      cases hnone
    rw [setRegistrar_of_ne hne] at hnone
    refine ⟨hne, isFresh_iff.mpr ⟨?_, hexternal, hzero⟩⟩
    simp only [World.isContract, Bool.or_eq_false_iff] at hcontract ⊢
    rw [hnone, hcontrollers hnobody, ← hvaults, hempty]
    exact ⟨⟨⟨hcontract.1.1.1, rfl⟩, rfl⟩, rfl⟩
  obtain ⟨hne, hcontrollerFresh⟩ := hfreshen hfresh rfl (fun hnone => hnone) rfl
  refine ⟨hregistrar, hcontrollerFresh, hne, ?_⟩
  rcases Call.when_ok.mp hvault with ⟨hdeploy, hcreate⟩ | ⟨hnot, hsame⟩
  · obtain ⟨hvaultFresh, hlast⟩ := create_ok.mp (Call.bind_revertIf_ok.mp hcreate).2
    cases hlast
    refine .inl ⟨hdeploy, (hfreshen hvaultFresh rfl (fun hnone => ?_) rfl).2, rfl⟩
    dsimp only at hnone
    by_cases haccount : created.vault = created.controller
    · rw [haccount, Function.update_self] at hnone
      cases hnone
    · rw [Function.update_of_ne haccount] at hnone
      exact hnone
  · cases hsame
    exact .inr ⟨Bool.not_eq_true _ ▸ hnot, rfl⟩

end Factory

variable [DecidableEq Node] [DecidableEq Label]

/-- Between two worlds a namespace was created. -/
structure Opens (d : Deployment Node Label) (created : Created) (hash : Label)
    (namespaceOwner : Address) (pricing : PricingConfig) (promo : PromoConfig)
    (record : NamespaceRecord) (before after : World Node Label) : Prop where
  registrar_fresh : before.isFresh d created.registrar = true
  controller_fresh : before.isFresh d created.controller = true
  controller_ne : created.controller ≠ created.registrar
  ordered : pricing.Ordered
  valid : promo.Valid
  root : before.registry.Authorised d.root d.rootRegistry
  registry : after.registry =
    (before.registry.setOwner (d.namespaceNode hash) created.registrar).setResolver
      (d.namespaceNode hash) before.rootRegistry.defaultResolver
  registrars : after.registrars = Function.update before.registrars created.registrar
    (some (.opened (d.namespaceNode hash) created.controller namespaceOwner))
  controllers : after.controllers = Function.update before.controllers created.controller
    (some ⟨created.registrar, hash, false⟩)
  rootRegistry : after.rootRegistry =
    ((before.rootRegistry.setRecord hash record).setPricing hash pricing).setPromo hash promo
  resolver : after.resolver = before.resolver
  factoryOwner : after.factoryOwner = before.factoryOwner

/-! ## The root registry -/

namespace Root

variable {hash : Label} {pricing : PricingConfig} {promo : PromoConfig} {created : Created}
  {namespaceOwner sender : Address} {value : PUnit} {next : World Node Label}

omit [DecidableEq Node] in
theorem bind_writePricing_ok {rest : PUnit → AnsCall Node Label α}
    {result : α × World Node Label} :
    (writePricing hash pricing >>= rest).run world = .ok result ↔
      pricing.Ordered ∧ (rest PUnit.unit).run
        { world with rootRegistry := world.rootRegistry.setPricing hash pricing } = .ok result := by
  rw [writePricing, bind_assoc, Call.bind_revertIf_ok, update, Call.bind_modify_ok]
  refine and_congr_left fun _ => ⟨fun hnot => ?_, fun hordered hnot => ?_⟩
  · exact ⟨Nat.le_of_not_lt fun hlt => hnot (.inl hlt),
      Nat.le_of_not_lt fun hlt => hnot (.inr hlt)⟩
  · exact hnot.elim (Nat.not_lt.mpr hordered.four_le_three)
      (Nat.not_lt.mpr hordered.five_le_four)

omit [DecidableEq Node] in
theorem bind_writePromo_ok {rest : PUnit → AnsCall Node Label α}
    {result : α × World Node Label} :
    (writePromo hash promo >>= rest).run world = .ok result ↔
      promo.Valid ∧ (rest PUnit.unit).run
        { world with rootRegistry := world.rootRegistry.setPromo hash promo } = .ok result := by
  rw [writePromo, bind_assoc, Call.bind_revertIf_ok, bind_assoc, Call.bind_revertIf_ok, update,
    Call.bind_modify_ok, ← and_assoc]
  refine and_congr_left fun _ => ⟨fun ⟨hdiscount, hwindow⟩ => ?_, fun hvalid => ?_⟩
  · exact ⟨Nat.le_of_not_lt hdiscount,
      fun henabled hends => Nat.lt_of_not_le fun hle => hwindow ⟨henabled, hends, hle⟩⟩
  · exact ⟨Nat.not_lt.mpr hvalid.discount_le,
      fun ⟨henabled, hends, hle⟩ => Nat.not_lt.mpr hle (hvalid.window henabled hends)⟩

omit [DecidableEq Node] [DecidableEq Label] in
theorem bind_onlyOwner_ok {rest : Unit → AnsCall Node Label α} {result : α × World Node Label} :
    (onlyOwner sender >>= rest).run world = .ok result ↔
      sender = world.rootRegistry.owner ∧ (rest ()).run world = .ok result := by
  rw [onlyOwner, bind_assoc, Call.bind_get_ok, Call.bind_revertIf_ok, not_not]

omit [DecidableEq Node] [DecidableEq Label] in
theorem bind_update_ok {change : RootRegistry Label → RootRegistry Label}
    {rest : PUnit → AnsCall Node Label α} {result : α × World Node Label} :
    (update change >>= rest).run world = .ok result ↔
      (rest PUnit.unit).run { world with rootRegistry := change world.rootRegistry } =
        .ok result :=
  Call.bind_modify_ok

omit [DecidableEq Label] in
/-- The registrar of a namespace that opens is handed from the factory to its owner. -/
theorem finalizeNamespace_ok {resolver : Address}
    (hregistrar : world.registrars created.registrar =
      some (.deployed (d.namespaceNode hash) d.namespaceFactory))
    (hrun : (Factory.finalizeNamespace d sender created namespaceOwner resolver).run world =
      .ok (value, next)) :
    next = ({ world with
        registry := world.registry.setResolver (d.namespaceNode hash) resolver } :
          World Node Label).setRegistrar created.registrar
      (.opened (d.namespaceNode hash) created.controller namespaceOwner) := by
  obtain ⟨-, hresolving⟩ := Factory.bind_onlyOwner_ok.mp hrun
  obtain ⟨_, resolved, hresolve, hadding⟩ := Call.bind_ok.mp hresolving
  obtain ⟨_, added, hadd, htransfer⟩ := Call.bind_ok.mp hadding
  obtain ⟨first, hfirst, hset⟩ := Registrar.bind_load_ok.mp hresolve
  obtain rfl := Option.some.inj (hregistrar.symm.trans hfirst)
  obtain ⟨-, hresolved⟩ := Registry.setResolver_ok.mp (Registrar.bind_onlyOwner_ok.mp hset).2
  cases hresolved
  obtain ⟨second, hsecond, hcontroller⟩ := Registrar.bind_load_ok.mp hadd
  obtain rfl := Option.some.inj (hregistrar.symm.trans hsecond)
  cases Registrar.store_ok.mp (Registrar.bind_onlyOwner_ok.mp hcontroller).2
  obtain ⟨third, hthird, howner⟩ := Registrar.bind_load_ok.mp htransfer
  obtain rfl := Option.some.inj ((setRegistrar_self _ _).symm.trans hthird)
  have hstored := (Call.bind_revertIf_ok.mp (Registrar.bind_onlyOwner_ok.mp howner).2).2
  cases Registrar.store_ok.mp hstored
  rw [setRegistrar_setRegistrar]
  rfl

/-- Opening a namespace whose contracts are deployed and whose record is written. -/
theorem openNamespace_ok {record : NamespaceRecord} {before : World Node Label}
    (hregistrarFresh : before.isFresh d created.registrar = true)
    (hcontrollerFresh : before.isFresh d created.controller = true)
    (hne : created.controller ≠ created.registrar)
    (hregistry : world.registry = before.registry) (hresolver : world.resolver = before.resolver)
    (hfactory : world.factoryOwner = before.factoryOwner)
    (hregistrars : world.registrars = (Factory.deployedStack d created hash before).registrars)
    (hcontrollers : world.controllers = (Factory.deployedStack d created hash before).controllers)
    (hroot : world.rootRegistry = before.rootRegistry.setRecord hash record)
    (hrun : (openNamespace d created hash namespaceOwner pricing promo).run world =
      .ok (value, next)) :
    Opens d created hash namespaceOwner pricing promo record before next ∧
      next.vaults = world.vaults ∧ next.ledgers = world.ledgers := by
  obtain ⟨hordered, hpromo⟩ := bind_writePricing_ok.mp hrun
  obtain ⟨hvalid, hnode⟩ := bind_writePromo_ok.mp hpromo
  obtain ⟨_, _, hsubnode, hfinal⟩ := Call.bind_ok.mp hnode
  obtain ⟨hauthorised, hsame⟩ := Registry.setSubnodeOwner_ok.mp hsubnode
  cases hsame
  rw [Call.bind_get_ok] at hfinal
  have hdeployed : world.registrars created.registrar =
      some (.deployed (d.namespaceNode hash) d.namespaceFactory) := by
    rw [hregistrars]
    exact setRegistrar_self ..
  obtain rfl := finalizeNamespace_ok (by exact hdeployed) hfinal
  refine ⟨⟨hregistrarFresh, hcontrollerFresh, hne, hordered, hvalid, ?_, ?_, ?_, ?_, ?_, ?_, ?_⟩,
    rfl, rfl⟩
  · exact hregistry ▸ hauthorised
  · simp only [World.setRegistrar, World.setNodeOwner, hregistry, hroot]
    rfl
  · simp only [World.setRegistrar, World.setNodeOwner, hregistrars, Factory.deployedStack,
      Function.update_idem]
  · exact hcontrollers
  · simp only [World.setRegistrar, World.setNodeOwner, hroot]
  · exact hresolver
  · exact hfactory

/-- What `bootstrapArcNamespace` does. -/
theorem bootstrapArcNamespace_ok
    (hrun : (bootstrapArcNamespace d sender created namespaceOwner pricing promo).run world =
      .ok (value, next)) :
    sender = world.rootRegistry.owner ∧ namespaceOwner ≠ 0 ∧
      (world.rootRegistry.namespaceRecords d.arcLabelhash).owner = 0 ∧
      Opens d created d.arcLabelhash namespaceOwner pricing promo
        { world.rootRegistry.namespaceRecords d.arcLabelhash with
          owner := namespaceOwner
          registrar := created.registrar
          controller := created.controller
          vault := world.rootRegistry.platformVault
          active := true
          isGlobal := true
          whitelisted := true } world next ∧
      next.vaults = world.vaults ∧ next.ledgers = world.ledgers := by
  obtain ⟨howner, hchecks⟩ := bind_onlyOwner_ok.mp hrun
  obtain ⟨hnonzero, hread⟩ := Call.bind_revertIf_ok.mp hchecks
  rw [Call.bind_get_ok] at hread
  obtain ⟨hnew, hdeploy⟩ := Call.bind_revertIf_ok.mp hread
  obtain ⟨_, deployed, hdeployed, hrest⟩ := Call.bind_ok.mp hdeploy
  obtain ⟨hregistrar, hcontroller, hne, hstack⟩ :=
    Factory.deployNamespaceStack_ok (Factory.bind_onlyOwner_ok.mp hdeployed).2
  obtain ⟨-, rfl⟩ := hstack.resolve_left fun ⟨hvault, _⟩ => nomatch hvault
  obtain ⟨hopens, hvaults, hledgers⟩ := openNamespace_ok hregistrar hcontroller hne (by rfl)
    (by rfl) (by rfl) (by rfl) (by rfl) (by rfl) (bind_update_ok.mp hrest)
  exact ⟨howner, hnonzero, not_not.mp hnew, hopens, hvaults, hledgers⟩

omit [DecidableEq Node] [DecidableEq Label] in
theorem bind_labelhash_ok {label : List UInt8} {rest : Label → AnsCall Node Label α}
    {result : α × World Node Label}
    (hrun : (labelhash d label >>= rest).run world = .ok result) :
    (rest (d.labelhash label)).run world = .ok result := by
  obtain ⟨hash, middle, hlabel, hrest⟩ := Call.bind_ok.mp hrun
  obtain ⟨length, validated, hvalid, hpure⟩ := Call.bind_ok.mp hlabel
  cases Call.pure_ok.mp hpure
  obtain rfl := validateLabel_state hvalid
  exact hrest

omit [DecidableEq Node] [DecidableEq Label] in
theorem nonReentrant_ok {body : AnsCall Node Label α} {last : α}
    (hrun : (nonReentrant body).run world = .ok (last, next)) :
    world.rootRegistry.entered = false ∧ ∃ final,
      body.run { world with rootRegistry := { world.rootRegistry with entered := true } } =
        .ok (last, final) ∧
      next = { final with rootRegistry := { final.rootRegistry with entered := false } } := by
  rw [nonReentrant, Call.bind_get_ok, Call.bind_revertIf_ok] at hrun
  obtain ⟨hentered, hlocked⟩ := hrun
  obtain ⟨_, final, hbody, hunlock⟩ := Call.bind_ok.mp (bind_update_ok.mp hlocked)
  have hlast := bind_update_ok.mp hunlock
  cases Call.pure_ok.mp hlast
  exact ⟨Bool.not_eq_true _ ▸ hentered, final, hbody, rfl⟩

/-- What `registerNamespace` does; the fee is paid before anything is deployed. -/
theorem registerNamespace_ok {label : List UInt8}
    (hrun : (registerNamespace d sender created label namespaceOwner pricing promo).run world =
      .ok (value, next)) :
    namespaceOwner ≠ 0 ∧ ¬ d.IsReserved (d.labelhash label) ∧
      (world.rootRegistry.namespaceRecords (d.labelhash label)).owner = 0 ∧
      Opens d created (d.labelhash label) namespaceOwner pricing promo
        { world.rootRegistry.namespaceRecords (d.labelhash label) with
          owner := namespaceOwner
          registrar := created.registrar
          controller := created.controller
          vault := created.vault
          active := true } world next ∧
      created.vault ≠ 0 ∧
      next.vaults = Function.update world.vaults created.vault (some namespaceOwner) ∧
      Ledgers.transferFrom d.usdc d.rootRegistry sender world.rootRegistry.platformVault
        CUSTOM_NAMESPACE_REGISTRATION_FEE world.ledgers = some next.ledgers := by
  obtain ⟨hentered, final, hbody, rfl⟩ := nonReentrant_ok hrun
  obtain ⟨hnonzero, hlabelled⟩ := Call.bind_revertIf_ok.mp hbody
  obtain ⟨hreserved, hread⟩ := Call.bind_revertIf_ok.mp (bind_labelhash_ok hlabelled)
  rw [Call.bind_get_ok] at hread
  obtain ⟨hnew, hpay⟩ := Call.bind_revertIf_ok.mp hread
  obtain ⟨paid, hpaid, hdeploy⟩ := Call.bind_external_ok.mp hpay
  obtain ⟨ledgers, hledgers, rfl⟩ := Option.map_eq_some_iff.mp hpaid
  obtain ⟨_, deployed, hdeployed, hrest⟩ := Call.bind_ok.mp hdeploy
  obtain ⟨hregistrar, hcontroller, hne, hstack⟩ :=
    Factory.deployNamespaceStack_ok (Factory.bind_onlyOwner_ok.mp hdeployed).2
  obtain ⟨-, hvault, rfl⟩ := hstack.resolve_right fun ⟨hnot, _⟩ => nomatch hnot
  obtain ⟨hopens, hvaults, hsame⟩ := openNamespace_ok hregistrar hcontroller hne (by rfl) (by rfl)
    (by rfl) (by rfl) (by rfl) (by rfl) (bind_update_ok.mp hrest)
  refine ⟨hnonzero, hreserved, not_not.mp hnew, ⟨hregistrar, hcontroller, hne, hopens.ordered,
    hopens.valid, hopens.root, hopens.registry, hopens.registrars, hopens.controllers, ?_,
    hopens.resolver, hopens.factoryOwner⟩, (isFresh_iff.mp hvault).2.2, hvaults, ?_⟩
  · dsimp only
    rw [hopens.rootRegistry]
    simp only [RootRegistry.setRecord, RootRegistry.setPricing, RootRegistry.setPromo, hentered]
    rfl
  · exact hledgers.trans (congrArg some hsame.symm)

end Root

end WizPay.Ans
