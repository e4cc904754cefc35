import WizPay.Ans.Creation

/-!
# What the root registry promises

Whatever is called in whatever order, the global namespace pays into the platform vault and
is the only global one, reserved labels stay free, a namespace keeps its owner and its
contracts once it exists, and its prices and promo are in order. A namespace is created once
and pays its fee once.
-/

namespace WizPay.Ans

open Foundation Evm

variable {Node Label : Type} {world : World Node Label}

def World.updateRoot (world : World Node Label)
    (change : RootRegistry Label → RootRegistry Label) : World Node Label :=
  { world with rootRegistry := change world.rootRegistry }

/-- Who may set the price and the promo of a namespace. -/
def World.Manages [DecidableEq Label] (d : Deployment Node Label) (world : World Node Label)
    (sender : Address) (hash : Label) : Prop :=
  sender = world.rootRegistry.owner ∨
    hash ≠ d.arcLabelhash ∧ sender = (world.rootRegistry.namespaceRecords hash).owner

variable [DecidableEq Node] [DecidableEq Label]

/-- The platform vault changes, and the vault of the global namespace with it. -/
def RootRegistry.movePlatformVault (d : Deployment Node Label) (vault : Address)
    (root : RootRegistry Label) : RootRegistry Label :=
  let moved := { root with platformVault := vault }
  if (root.namespaceRecords d.arcLabelhash).owner = 0 then moved
  else moved.setRecord d.arcLabelhash { root.namespaceRecords d.arcLabelhash with vault := vault }

/-- A call of the root registry, with what it had to find and the world it leaves. -/
inductive RootEffect (d : Deployment Node Label) (sender : Address) (world : World Node Label) :
    RootCall → World Node Label → Prop
  | bootstrapArcNamespace (created : Created) (namespaceOwner : Address)
      (pricing : PricingConfig) (promo : PromoConfig) (next : World Node Label)
      (howner : sender = world.rootRegistry.owner) (hnonzero : namespaceOwner ≠ 0)
      (hnew : (world.rootRegistry.namespaceRecords d.arcLabelhash).owner = 0)
      (hopens : Opens d created d.arcLabelhash namespaceOwner pricing promo
        { world.rootRegistry.namespaceRecords d.arcLabelhash with
          owner := namespaceOwner
          registrar := created.registrar
          controller := created.controller
          vault := world.rootRegistry.platformVault
          active := true
          isGlobal := true
          whitelisted := true } world next)
      (hvaults : next.vaults = world.vaults) (hledgers : next.ledgers = world.ledgers) :
      RootEffect d sender world
        (.bootstrapArcNamespace created namespaceOwner pricing promo) next
  | registerNamespace (created : Created) (label : List UInt8) (namespaceOwner : Address)
      (pricing : PricingConfig) (promo : PromoConfig) (next : World Node Label)
      (hnonzero : namespaceOwner ≠ 0) (hreserved : ¬ d.IsReserved (d.labelhash label))
      (hnew : (world.rootRegistry.namespaceRecords (d.labelhash label)).owner = 0)
      (hopens : Opens d created (d.labelhash label) namespaceOwner pricing promo
        { world.rootRegistry.namespaceRecords (d.labelhash label) with
          owner := namespaceOwner
          registrar := created.registrar
          controller := created.controller
          vault := created.vault
          active := true } world next)
      (hvault : created.vault ≠ 0)
      (hvaults : next.vaults =
        Function.update world.vaults created.vault (some namespaceOwner))
      (hpaid : Ledgers.transferFrom d.usdc d.rootRegistry sender world.rootRegistry.platformVault
        CUSTOM_NAMESPACE_REGISTRATION_FEE world.ledgers = some next.ledgers) :
      RootEffect d sender world
        (.registerNamespace created label namespaceOwner pricing promo) next
  | setNamespacePricing (label : List UInt8) (pricing : PricingConfig)
      (hmanages : world.Manages d sender (d.labelhash label)) (hordered : pricing.Ordered) :
      RootEffect d sender world (.setNamespacePricing label pricing)
        (world.updateRoot fun root => root.setPricing (d.labelhash label) pricing)
  | setNamespacePromo (label : List UInt8) (promo : PromoConfig)
      (hmanages : world.Manages d sender (d.labelhash label)) (hvalid : promo.Valid) :
      RootEffect d sender world (.setNamespacePromo label promo)
        (world.updateRoot fun root => root.setPromo (d.labelhash label) promo)
  | setNamespaceActive (label : List UInt8) (active : Bool)
      (howner : sender = world.rootRegistry.owner) :
      RootEffect d sender world (.setNamespaceActive label active)
        (world.updateRoot fun root => root.setRecord (d.labelhash label)
          { root.namespaceRecords (d.labelhash label) with active })
  | setNamespaceWhitelist (label : List UInt8) (whitelisted : Bool)
      (howner : sender = world.rootRegistry.owner) :
      RootEffect d sender world (.setNamespaceWhitelist label whitelisted)
        (world.updateRoot fun root => root.setRecord (d.labelhash label)
          { root.namespaceRecords (d.labelhash label) with whitelisted })
  | setNamespaceBlacklist (label : List UInt8) (blacklisted : Bool)
      (howner : sender = world.rootRegistry.owner) :
      RootEffect d sender world (.setNamespaceBlacklist label blacklisted)
        (world.updateRoot fun root => root.setRecord (d.labelhash label)
          { root.namespaceRecords (d.labelhash label) with blacklisted })
  | setNamespaceVault (label : List UInt8) (newVault : Address)
      (hcustom : d.labelhash label ≠ d.arcLabelhash)
      (hmanages : world.Manages d sender (d.labelhash label)) (hvault : newVault ≠ 0) :
      RootEffect d sender world (.setNamespaceVault label newVault)
        (world.updateRoot fun root => root.setRecord (d.labelhash label)
          { root.namespaceRecords (d.labelhash label) with vault := newVault })
  | setPlatformVault (newPlatformVault : Address) (howner : sender = world.rootRegistry.owner)
      (hvault : newPlatformVault ≠ 0) :
      RootEffect d sender world (.setPlatformVault newPlatformVault)
        (world.updateRoot fun root => root.movePlatformVault d newPlatformVault)
  | setDefaultResolver (newDefaultResolver : Address)
      (howner : sender = world.rootRegistry.owner) :
      RootEffect d sender world (.setDefaultResolver newDefaultResolver)
        (world.updateRoot fun root => { root with defaultResolver := newDefaultResolver })
  | transferOwnership (newOwner : Address) (howner : sender = world.rootRegistry.owner) :
      RootEffect d sender world (.transferOwnership newOwner)
        (world.updateRoot fun root => { root with owner := newOwner })
  | renounceOwnership (howner : sender = world.rootRegistry.owner) :
      RootEffect d sender world .renounceOwnership
        (world.updateRoot fun root => { root with owner := 0 })

namespace Root

variable {d : Deployment Node Label} {sender : Address} {label : List UInt8} {α : Type}
  {value : PUnit} {next : World Node Label}

omit [DecidableEq Node] [DecidableEq Label] in
theorem update_ok {change : RootRegistry Label → RootRegistry Label}
    {result : PUnit × World Node Label} :
    (update change).run world = .ok result ↔
      (PUnit.unit, world.updateRoot change) = result :=
  Call.modify_ok

omit [DecidableEq Node] [DecidableEq Label] in
theorem bind_requireNamespace_ok {rest : Label → AnsCall Node Label α}
    {result : α × World Node Label}
    (hrun : (requireNamespace d label >>= rest).run world = .ok result) :
    (world.rootRegistry.namespaceRecords (d.labelhash label)).owner ≠ 0 ∧
      (rest (d.labelhash label)).run world = .ok result := by
  rw [requireNamespace, bind_assoc] at hrun
  have hread := bind_labelhash_ok hrun
  rw [bind_assoc, Call.bind_get_ok, bind_assoc, Call.bind_revertIf_ok, Call.bind_pure_ok] at hread
  exact hread

omit [DecidableEq Node] in
theorem bind_managed_ok {rest : Label → AnsCall Node Label α} {result : α × World Node Label}
    (hrun : (managed d sender label >>= rest).run world = .ok result) :
    world.Manages d sender (d.labelhash label) ∧
      (rest (d.labelhash label)).run world = .ok result := by
  rw [managed, bind_assoc] at hrun
  obtain ⟨-, hread⟩ := bind_requireNamespace_ok hrun
  rw [bind_assoc, Call.bind_get_ok, bind_assoc, Call.bind_revertIf_ok, bind_assoc,
    Call.bind_revertIf_ok, Call.bind_pure_ok] at hread
  obtain ⟨harc, hcustom, hrest⟩ := hread
  refine ⟨?_, hrest⟩
  unfold World.Manages
  tauto

omit [DecidableEq Node] in
theorem setFlag_ok {change : NamespaceRecord → NamespaceRecord}
    (hrun : (setFlag d sender label change).run world = .ok (value, next)) :
    sender = world.rootRegistry.owner ∧
      next = world.updateRoot fun root => root.setRecord (d.labelhash label)
        (change (root.namespaceRecords (d.labelhash label))) := by
  obtain ⟨howner, hrequire⟩ := bind_onlyOwner_ok.mp hrun
  obtain ⟨-, hwrite⟩ := bind_requireNamespace_ok hrequire
  cases update_ok.mp hwrite
  exact ⟨howner, rfl⟩

omit [DecidableEq Node] in
theorem setNamespaceVault_ok {newVault : Address}
    (hrun : (setNamespaceVault d sender label newVault).run world = .ok (value, next)) :
    d.labelhash label ≠ d.arcLabelhash ∧ world.Manages d sender (d.labelhash label) ∧
      newVault ≠ 0 ∧ next = world.updateRoot fun root => root.setRecord (d.labelhash label)
        { root.namespaceRecords (d.labelhash label) with vault := newVault } := by
  have hmanager := bind_labelhash_ok hrun
  rw [onlyNamespaceManager, bind_assoc, Call.bind_get_ok, bind_assoc, Call.bind_revertIf_ok,
    Call.bind_revertIf_ok] at hmanager
  obtain ⟨-, hsender, hrequire⟩ := hmanager
  obtain ⟨-, hchecks⟩ := bind_requireNamespace_ok hrequire
  rw [Call.bind_revertIf_ok, Call.bind_revertIf_ok] at hchecks
  obtain ⟨hcustom, hvault, hwrite⟩ := hchecks
  cases update_ok.mp hwrite
  refine ⟨hcustom, ?_, hvault, rfl⟩
  unfold World.Manages
  tauto

omit [DecidableEq Node] in
theorem setPlatformVault_ok {newPlatformVault : Address}
    (hrun : (setPlatformVault d sender newPlatformVault).run world = .ok (value, next)) :
    sender = world.rootRegistry.owner ∧ newPlatformVault ≠ 0 ∧
      next = world.updateRoot fun root => root.movePlatformVault d newPlatformVault := by
  obtain ⟨howner, hwrite⟩ := bind_onlyOwner_ok.mp hrun
  rw [writePlatformVault, bind_assoc, Call.bind_revertIf_ok] at hwrite
  obtain ⟨hvault, hread⟩ := hwrite
  have hmirror := bind_update_ok.mp hread
  rw [Call.bind_get_ok, Call.when_ok] at hmirror
  refine ⟨howner, hvault, ?_⟩
  rcases hmirror with ⟨hexists, hrecord⟩ | ⟨hnone, hsame⟩
  · cases update_ok.mp hrecord
    simp only [World.updateRoot, RootRegistry.movePlatformVault]
    rw [if_neg hexists]
  · cases hsame
    simp only [World.updateRoot, RootRegistry.movePlatformVault]
    rw [if_pos (not_not.mp hnone)]

end Root

theorem RootCall.effect {d : Deployment Node Label} {sender : Address} {call : RootCall}
    {value : PUnit} {next : World Node Label}
    (hrun : (call.perform d sender).run world = .ok (value, next)) :
    RootEffect d sender world call next := by
  cases call with
  | bootstrapArcNamespace created namespaceOwner pricing promo =>
      obtain ⟨howner, hnonzero, hnew, hopens, hvaults, hledgers⟩ :=
        Root.bootstrapArcNamespace_ok hrun
      exact .bootstrapArcNamespace created namespaceOwner pricing promo next howner hnonzero hnew
        hopens hvaults hledgers
  | registerNamespace created label namespaceOwner pricing promo =>
      obtain ⟨hnonzero, hreserved, hnew, hopens, hvault, hvaults, hpaid⟩ :=
        Root.registerNamespace_ok hrun
      exact .registerNamespace created label namespaceOwner pricing promo next hnonzero hreserved
        hnew hopens hvault hvaults hpaid
  | setNamespacePricing label pricing =>
      obtain ⟨hmanages, hwrite⟩ := Root.bind_managed_ok hrun
      rw [← bind_pure (Root.writePricing _ pricing)] at hwrite
      obtain ⟨hordered, hpure⟩ := Root.bind_writePricing_ok.mp hwrite
      cases Call.pure_ok.mp hpure
      exact .setNamespacePricing label pricing hmanages hordered
  | setNamespacePromo label promo =>
      obtain ⟨hmanages, hwrite⟩ := Root.bind_managed_ok hrun
      rw [← bind_pure (Root.writePromo _ promo)] at hwrite
      obtain ⟨hvalid, hpure⟩ := Root.bind_writePromo_ok.mp hwrite
      cases Call.pure_ok.mp hpure
      exact .setNamespacePromo label promo hmanages hvalid
  | setNamespaceActive label active =>
      have hflag : (Root.setFlag d sender label fun record => { record with active }).run world =
          .ok (value, next) := hrun
      obtain ⟨howner, rfl⟩ := Root.setFlag_ok hflag
      exact .setNamespaceActive label active howner
  | setNamespaceWhitelist label whitelisted =>
      have hflag : (Root.setFlag d sender label fun record => { record with whitelisted }).run world =
          .ok (value, next) := hrun
      obtain ⟨howner, rfl⟩ := Root.setFlag_ok hflag
      exact .setNamespaceWhitelist label whitelisted howner
  | setNamespaceBlacklist label blacklisted =>
      have hflag : (Root.setFlag d sender label fun record => { record with blacklisted }).run world =
          .ok (value, next) := hrun
      obtain ⟨howner, rfl⟩ := Root.setFlag_ok hflag
      exact .setNamespaceBlacklist label blacklisted howner
  | setNamespaceVault label newVault =>
      obtain ⟨hcustom, hmanages, hvault, rfl⟩ := Root.setNamespaceVault_ok hrun
      exact .setNamespaceVault label newVault hcustom hmanages hvault
  | setPlatformVault newPlatformVault =>
      obtain ⟨howner, hvault, rfl⟩ := Root.setPlatformVault_ok hrun
      exact .setPlatformVault newPlatformVault howner hvault
  | setDefaultResolver newDefaultResolver =>
      obtain ⟨howner, hwrite⟩ := Root.bind_onlyOwner_ok.mp hrun
      cases Root.update_ok.mp (Call.bind_revertIf_ok.mp hwrite).2
      exact .setDefaultResolver newDefaultResolver howner
  | transferOwnership newOwner =>
      obtain ⟨howner, hcheck⟩ := Root.bind_onlyOwner_ok.mp hrun
      cases Root.update_ok.mp (Call.bind_revertIf_ok.mp hcheck).2
      exact .transferOwnership newOwner howner
  | renounceOwnership =>
      obtain ⟨howner, hwrite⟩ := Root.bind_onlyOwner_ok.mp hrun
      cases Root.update_ok.mp hwrite
      exact .renounceOwnership howner

/-! ## What holds between calls -/

def RootRegistry.Exists (root : RootRegistry Label) (hash : Label) : Prop :=
  (root.namespaceRecords hash).owner ≠ 0

omit [DecidableEq Node] [DecidableEq Label] in
instance (root : RootRegistry Label) (hash : Label) : Decidable (root.Exists hash) :=
  inferInstanceAs (Decidable (_ ≠ _))

/-- What the root registry keeps of one label. -/
structure NamespaceGoverned (d : Deployment Node Label) (root : RootRegistry Label)
    (hash : Label) : Prop where
  arc : hash = d.arcLabelhash → root.Exists hash →
    (root.namespaceRecords hash).vault = root.platformVault ∧
      (root.namespaceRecords hash).isGlobal = true
  isGlobal : (root.namespaceRecords hash).isGlobal = true → hash = d.arcLabelhash ∧ root.Exists hash
  withheld : d.IsWithheld hash → ¬ root.Exists hash
  vault_ne_zero : root.Exists hash → (root.namespaceRecords hash).vault ≠ 0
  ordered : root.Exists hash → (root.pricingConfigs hash).Ordered
  valid : root.Exists hash → (root.promoConfigs hash).Valid

structure Governed (d : Deployment Node Label) (root : RootRegistry Label) : Prop where
  platformVault_ne_zero : root.platformVault ≠ 0
  namespaces : ∀ hash, NamespaceGoverned d root hash

/-- Namespaces stay, with their owner and their contracts. -/
def RootRegistry.Keeps (before after : RootRegistry Label) : Prop :=
  ∀ hash, before.Exists hash →
    (after.namespaceRecords hash).owner = (before.namespaceRecords hash).owner ∧
    (after.namespaceRecords hash).registrar = (before.namespaceRecords hash).registrar ∧
    (after.namespaceRecords hash).controller = (before.namespaceRecords hash).controller

section Governed

variable {d : Deployment Node Label} {root after : RootRegistry Label} {hash : Label}

omit [DecidableEq Node] [DecidableEq Label] in
theorem RootRegistry.Keeps.refl (root : RootRegistry Label) : root.Keeps root :=
  fun _ _ => ⟨rfl, rfl, rfl⟩

omit [DecidableEq Node] [DecidableEq Label] in
theorem RootRegistry.Keeps.trans {first second third : RootRegistry Label}
    (hfirst : first.Keeps second) (hsecond : second.Keeps third) : first.Keeps third := by
  intro hash hexists
  obtain ⟨howner, hregistrar, hcontroller⟩ := hfirst hash hexists
  have hstill : second.Exists hash := by
    unfold RootRegistry.Exists
    rwa [howner]
  obtain ⟨howner', hregistrar', hcontroller'⟩ := hsecond hash hstill
  exact ⟨howner'.trans howner, hregistrar'.trans hregistrar, hcontroller'.trans hcontroller⟩

omit [DecidableEq Node] [DecidableEq Label] in
theorem NamespaceGoverned.congr (hvault : after.platformVault = root.platformVault)
    (hrecord : after.namespaceRecords hash = root.namespaceRecords hash)
    (hpricing : after.pricingConfigs hash = root.pricingConfigs hash)
    (hpromo : after.promoConfigs hash = root.promoConfigs hash)
    (hgoverned : NamespaceGoverned d root hash) : NamespaceGoverned d after hash := by
  obtain ⟨harc, hglobal, hwithheld, hnonzero, hordered, hvalid⟩ := hgoverned
  unfold RootRegistry.Exists at *
  constructor <;> simp only [RootRegistry.Exists, hrecord, hvault, hpricing, hpromo] <;> assumption

omit [DecidableEq Node] in
/-- Writing one record keeps everything in order when that record is. -/
theorem Governed.setRecord {record : NamespaceRecord} (hgoverned : Governed d root)
    (hrecord : NamespaceGoverned d (root.setRecord hash record) hash) :
    Governed d (root.setRecord hash record) := by
  refine ⟨hgoverned.platformVault_ne_zero, fun other => ?_⟩
  by_cases hother : other = hash
  · exact hother ▸ hrecord
  · exact (hgoverned.namespaces other).congr (by rfl) (root.setRecord_of_ne record hother)
      (by rfl) (by rfl)

omit [DecidableEq Node] in
/-- A change of a record that leaves what matters alone. -/
theorem Governed.changeRecord {record : NamespaceRecord} (hgoverned : Governed d root)
    (howner : record.owner = (root.namespaceRecords hash).owner)
    (hglobal : record.isGlobal = (root.namespaceRecords hash).isGlobal)
    (hvault : root.Exists hash → record.vault ≠ 0)
    (harc : hash = d.arcLabelhash → record.vault = (root.namespaceRecords hash).vault) :
    Governed d (root.setRecord hash record) := by
  obtain ⟨hoften, hisGlobal, hwithheld, -, hordered, hvalid⟩ := hgoverned.namespaces hash
  apply hgoverned.setRecord
  unfold RootRegistry.Exists at *
  constructor <;> simp only [RootRegistry.Exists, RootRegistry.setRecord, Function.update_self,
    howner, hglobal]
  · intro hhash hexists
    rw [harc hhash]
    exact hoften hhash hexists
  · exact hisGlobal
  · exact hwithheld
  · exact hvault
  · exact hordered
  · exact hvalid

omit [DecidableEq Node] in
theorem Governed.setPricing {pricing : PricingConfig} (hgoverned : Governed d root)
    (hordered : pricing.Ordered) : Governed d (root.setPricing hash pricing) := by
  refine ⟨hgoverned.platformVault_ne_zero, fun other => ?_⟩
  obtain ⟨harc, hglobal, hwithheld, hnonzero, hbefore, hvalid⟩ := hgoverned.namespaces other
  refine ⟨harc, hglobal, hwithheld, hnonzero, fun hexists => ?_, hvalid⟩
  by_cases hother : other = hash
  · rw [hother, RootRegistry.setPricing_self]
    exact hordered
  · rw [RootRegistry.setPricing_of_ne _ _ hother]
    exact hbefore hexists

omit [DecidableEq Node] in
theorem Governed.setPromo {promo : PromoConfig} (hgoverned : Governed d root)
    (hvalid : promo.Valid) : Governed d (root.setPromo hash promo) := by
  refine ⟨hgoverned.platformVault_ne_zero, fun other => ?_⟩
  obtain ⟨harc, hglobal, hwithheld, hnonzero, hordered, hbefore⟩ := hgoverned.namespaces other
  refine ⟨harc, hglobal, hwithheld, hnonzero, hordered, fun hexists => ?_⟩
  by_cases hother : other = hash
  · rw [hother, RootRegistry.setPromo_self]
    exact hvalid
  · rw [RootRegistry.setPromo_of_ne _ _ hother]
    exact hbefore hexists

omit [DecidableEq Node] in
/-- A namespace that is created keeps everything in order. -/
theorem Governed.create {record : NamespaceRecord} {pricing : PricingConfig} {promo : PromoConfig}
    (hgoverned : Governed d root) (hordered : pricing.Ordered) (hvalid : promo.Valid)
    (hvault : record.vault ≠ 0) (hwithheld : ¬ d.IsWithheld hash)
    (hglobal : record.isGlobal = true → hash = d.arcLabelhash ∧ record.owner ≠ 0)
    (harc : hash = d.arcLabelhash → record.vault = root.platformVault ∧ record.isGlobal = true) :
    Governed d (((root.setRecord hash record).setPricing hash pricing).setPromo hash promo) := by
  refine ⟨hgoverned.platformVault_ne_zero, fun other => ?_⟩
  by_cases hother : other = hash
  · subst hother
    have hrecord : (((root.setRecord other record).setPricing other pricing).setPromo other
        promo).namespaceRecords other = record := root.setRecord_self record
    have hpricing : (((root.setRecord other record).setPricing other pricing).setPromo other
        promo).pricingConfigs other = pricing := RootRegistry.setPricing_self _ pricing
    have hpromo : (((root.setRecord other record).setPricing other pricing).setPromo other
        promo).promoConfigs other = promo := RootRegistry.setPromo_self _ promo
    constructor
    · intro hhash _
      rw [hrecord]
      exact harc hhash
    · unfold RootRegistry.Exists
      rw [hrecord]
      exact hglobal
    · exact fun hmust => absurd hmust hwithheld
    · intro _
      rw [hrecord]
      exact hvault
    · intro _
      rw [hpricing]
      exact hordered
    · intro _
      rw [hpromo]
      exact hvalid
  · exact (hgoverned.namespaces other).congr (by rfl) (root.setRecord_of_ne record hother)
      (RootRegistry.setPricing_of_ne _ pricing hother) (RootRegistry.setPromo_of_ne _ promo hother)

omit [DecidableEq Node] in
theorem Governed.movePlatformVault {vault : Address} (hgoverned : Governed d root)
    (hvault : vault ≠ 0) : Governed d (root.movePlatformVault d vault) := by
  have hothers : ∀ other, other ≠ d.arcLabelhash →
      NamespaceGoverned d { root with platformVault := vault } other := by
    intro other hother
    obtain ⟨-, hglobal, hwithheld, hnonzero, hordered, hvalid⟩ := hgoverned.namespaces other
    exact ⟨fun hhash => absurd hhash hother, hglobal, hwithheld, hnonzero, hordered, hvalid⟩
  obtain ⟨harc, hglobal, hwithheld, hnonzero, hordered, hvalid⟩ :=
    hgoverned.namespaces d.arcLabelhash
  unfold RootRegistry.movePlatformVault
  dsimp only
  split
  · next hnone =>
      refine ⟨hvault, fun other => ?_⟩
      by_cases hother : other = d.arcLabelhash
      · -- a global namespace that does not exist promises nothing
        subst hother
        exact ⟨fun _ hexists => absurd hnone hexists, hglobal, hwithheld, hnonzero, hordered, hvalid⟩
      · exact hothers other hother
  · next hexists =>
      refine ⟨hvault, fun other => ?_⟩
      by_cases hother : other = d.arcLabelhash
      · subst hother
        constructor
        · intro _ _
          rw [RootRegistry.setRecord_self]
          exact ⟨rfl, (harc rfl hexists).2⟩
        · exact fun _ => ⟨rfl, by rw [RootRegistry.Exists, RootRegistry.setRecord_self]; exact hexists⟩
        · exact fun hmust => absurd hmust d.arc_not_withheld
        · intro _
          rw [RootRegistry.setRecord_self]
          exact hvault
        · exact fun _ => hordered hexists
        · exact fun _ => hvalid hexists
      · exact (hothers other hother).congr (by rfl) (RootRegistry.setRecord_of_ne _ _ hother)
          (by rfl) (by rfl)

end Governed

/-! ## One call -/

section Step

variable {d : Deployment Node Label} {sender : Address} {call : RootCall} {next : World Node Label}

/-- One call of the root registry keeps everything in order. -/
theorem RootEffect.governed (heffect : RootEffect d sender world call next)
    (hgoverned : Governed d world.rootRegistry) : Governed d next.rootRegistry := by
  cases heffect with
  | bootstrapArcNamespace created namespaceOwner pricing promo next howner hnonzero hnew hopens =>
      rw [hopens.rootRegistry]
      exact hgoverned.create hopens.ordered hopens.valid hgoverned.platformVault_ne_zero
        d.arc_not_withheld (fun _ => ⟨rfl, hnonzero⟩) (fun _ => ⟨rfl, rfl⟩)
  | registerNamespace created label namespaceOwner pricing promo next hnonzero hreserved hnew
      hopens hvault =>
      rw [hopens.rootRegistry]
      refine hgoverned.create hopens.ordered hopens.valid hvault
        (fun hwithheld => hreserved (.inr hwithheld)) (fun hglobal => ?_)
        (fun harc => absurd (.inl harc) hreserved)
      -- a record that does not exist is not global
      exact absurd hnew ((hgoverned.namespaces _).isGlobal hglobal).2
  | setNamespacePricing label pricing hmanages hordered => exact hgoverned.setPricing hordered
  | setNamespacePromo label promo hmanages hvalid => exact hgoverned.setPromo hvalid
  | setNamespaceActive label | setNamespaceWhitelist label | setNamespaceBlacklist label =>
      exact hgoverned.changeRecord rfl rfl (hgoverned.namespaces _).vault_ne_zero fun _ => rfl
  | setNamespaceVault label newVault hcustom hmanages hvault =>
      exact hgoverned.changeRecord rfl rfl (fun _ => hvault) fun harc => absurd harc hcustom
  | setPlatformVault newPlatformVault howner hvault => exact hgoverned.movePlatformVault hvault
  | setDefaultResolver | transferOwnership | renounceOwnership =>
      exact ⟨hgoverned.platformVault_ne_zero, fun hash =>
        (hgoverned.namespaces hash).congr (by rfl) (by rfl) (by rfl) (by rfl)⟩

/-- A record changes without its owner, its registrar and its controller. -/
theorem RootRegistry.keeps_setRecord {root : RootRegistry Label} {hash : Label}
    {record : NamespaceRecord} (howner : record.owner = (root.namespaceRecords hash).owner)
    (hregistrar : record.registrar = (root.namespaceRecords hash).registrar)
    (hcontroller : record.controller = (root.namespaceRecords hash).controller) (other : Label) :
    ((root.setRecord hash record).namespaceRecords other).owner =
        (root.namespaceRecords other).owner ∧
      ((root.setRecord hash record).namespaceRecords other).registrar =
        (root.namespaceRecords other).registrar ∧
      ((root.setRecord hash record).namespaceRecords other).controller =
        (root.namespaceRecords other).controller := by
  by_cases hother : other = hash
  · rw [hother, RootRegistry.setRecord_self]
    exact ⟨howner, hregistrar, hcontroller⟩
  · rw [root.setRecord_of_ne record hother]
    exact ⟨rfl, rfl, rfl⟩

/-- The label whose namespace a call creates, if it creates one. -/
def RootCall.creates (d : Deployment Node Label) : RootCall → Option Label
  | .bootstrapArcNamespace .. => some d.arcLabelhash
  | .registerNamespace _ label .. => some (d.labelhash label)
  | _ => none

/-- A successful call creates the namespace it is for, which did not exist, and leaves the
owner and the contracts of all others. -/
theorem RootEffect.records (heffect : RootEffect d sender world call next) (hash : Label) :
    (call.creates d = some hash ∧ ¬ world.rootRegistry.Exists hash ∧
      next.rootRegistry.Exists hash) ∨
    call.creates d ≠ some hash ∧
      (next.rootRegistry.namespaceRecords hash).owner =
        (world.rootRegistry.namespaceRecords hash).owner ∧
      (next.rootRegistry.namespaceRecords hash).registrar =
        (world.rootRegistry.namespaceRecords hash).registrar ∧
      (next.rootRegistry.namespaceRecords hash).controller =
        (world.rootRegistry.namespaceRecords hash).controller := by
  have hcreated : ∀ {created : Created} {label : Label} {namespaceOwner : Address}
      {pricing : PricingConfig} {promo : PromoConfig} {record : NamespaceRecord},
      Opens d created label namespaceOwner pricing promo record world next →
      (world.rootRegistry.namespaceRecords label).owner = 0 → record.owner ≠ 0 →
      call.creates d = some label →
      (call.creates d = some hash ∧ ¬ world.rootRegistry.Exists hash ∧
        next.rootRegistry.Exists hash) ∨
      call.creates d ≠ some hash ∧
        (next.rootRegistry.namespaceRecords hash).owner =
          (world.rootRegistry.namespaceRecords hash).owner ∧
        (next.rootRegistry.namespaceRecords hash).registrar =
          (world.rootRegistry.namespaceRecords hash).registrar ∧
        (next.rootRegistry.namespaceRecords hash).controller =
          (world.rootRegistry.namespaceRecords hash).controller := by
    intro created label namespaceOwner pricing promo record hopens hnew hnonzero hcall
    have hrecords : next.rootRegistry.namespaceRecords =
        (world.rootRegistry.setRecord label record).namespaceRecords := by
      rw [hopens.rootRegistry]
      rfl
    unfold RootRegistry.Exists
    rw [hrecords]
    by_cases hhash : hash = label
    · subst hhash
      rw [RootRegistry.setRecord_self]
      exact .inl ⟨hcall, not_not.mpr hnew, hnonzero⟩
    · rw [world.rootRegistry.setRecord_of_ne record hhash, hcall]
      exact .inr ⟨fun hsame => hhash (Option.some.inj hsame).symm, rfl, rfl, rfl⟩
  cases heffect with
  | bootstrapArcNamespace created namespaceOwner pricing promo next howner hnonzero hnew hopens =>
      exact hcreated hopens hnew hnonzero rfl
  | registerNamespace created label namespaceOwner pricing promo next hnonzero hreserved hnew
      hopens =>
      exact hcreated hopens hnew hnonzero rfl
  | setNamespaceActive | setNamespaceWhitelist | setNamespaceBlacklist | setNamespaceVault =>
      exact .inr ⟨nofun, RootRegistry.keeps_setRecord (by rfl) (by rfl) (by rfl) hash⟩
  | setPlatformVault newPlatformVault =>
      refine .inr ⟨nofun, ?_⟩
      simp only [World.updateRoot, RootRegistry.movePlatformVault]
      split
      · exact ⟨rfl, rfl, rfl⟩
      · exact RootRegistry.keeps_setRecord (by rfl) (by rfl) (by rfl) hash
  | setNamespacePricing | setNamespacePromo | setDefaultResolver | transferOwnership
    | renounceOwnership => exact .inr ⟨nofun, rfl, rfl, rfl⟩

theorem RootEffect.keeps (heffect : RootEffect d sender world call next) :
    world.rootRegistry.Keeps next.rootRegistry := by
  intro hash hexists
  rcases heffect.records hash with ⟨-, hnew, -⟩ | ⟨-, hsame⟩
  · exact absurd hexists hnew
  · exact hsame

end Step

/-! ## Whole histories -/

section History

variable {d : Deployment Node Label} {frame : Frame Node Label}

/-- A frame that does not call the root registry leaves it alone. -/
theorem step_rootRegistry (hmessage : ∀ call, frame.message ≠ .root call) :
    (step d world frame).rootRegistry = world.rootRegistry := by
  refine step_elim (fun next => next.rootRegistry = world.rootRegistry) rfl
    fun next hsends hrun => ?_
  have hsender := sends_ne_zero hsends
  rcases frame with ⟨sender, timestamp, message⟩
  cases message with
  | registry call => rw [(RegistryCall.effect hrun).1]
  | resolver call => rw [(ResolverCall.effect hrun).1]
  | registrar self call =>
      obtain ⟨registrar, -, heffect⟩ := RegistrarCall.effect hsender hrun
      rw [heffect.frame.1]
  | root call => exact absurd rfl (hmessage call)
  | vault self call => rw [(VaultCall.effect hrun).2.1]
  | token asset call =>
      obtain ⟨moved, hmoved, hsame⟩ := Call.external_ok.mp hrun
      obtain ⟨ledgers, -, rfl⟩ := Option.map_eq_some_iff.mp hmoved
      cases hsame
      rfl
  | entered status =>
      cases Call.modify_ok.mp hrun
      rfl

theorem step_governed (hgoverned : Governed d world.rootRegistry) :
    Governed d (step d world frame).rootRegistry := by
  by_cases hroot : ∃ call, frame.message = .root call
  · obtain ⟨call, hmessage⟩ := hroot
    refine step_elim (fun next => Governed d next.rootRegistry) hgoverned fun next _ hrun => ?_
    rw [hmessage] at hrun
    exact (RootCall.effect hrun).governed hgoverned
  · rw [step_rootRegistry fun call hmessage => hroot ⟨call, hmessage⟩]
    exact hgoverned

theorem step_keeps : world.rootRegistry.Keeps (step d world frame).rootRegistry := by
  by_cases hroot : ∃ call, frame.message = .root call
  · obtain ⟨call, hmessage⟩ := hroot
    refine step_elim (fun next => world.rootRegistry.Keeps next.rootRegistry)
      (.refl world.rootRegistry) fun next _ hrun => ?_
    rw [hmessage] at hrun
    exact (RootCall.effect hrun).keeps
  · rw [step_rootRegistry fun call hmessage => hroot ⟨call, hmessage⟩]
    exact .refl world.rootRegistry

theorem run_governed (frames : List (Frame Node Label)) (hgoverned : Governed d world.rootRegistry) :
    Governed d (Sequence.run (step d) frames world).rootRegistry := by
  induction frames generalizing world with
  | nil => exact hgoverned
  | cons frame rest ih => exact ih (step_governed hgoverned)

theorem run_keeps (frames : List (Frame Node Label)) :
    world.rootRegistry.Keeps (Sequence.run (step d) frames world).rootRegistry := by
  induction frames generalizing world with
  | nil => exact .refl world.rootRegistry
  | cons frame rest ih => exact step_keeps.trans ih

omit [DecidableEq Node] [DecidableEq Label] in
/-- The constructor leaves no namespace, and a platform vault. -/
theorem construct_governed {platformVault defaultResolver initialOwner : Address}
    {before : World Node Label} {value : PUnit}
    (hrun : (Root.construct platformVault defaultResolver initialOwner).run before =
      .ok (value, world)) : Governed d world.rootRegistry := by
  obtain ⟨-, hset⟩ := Call.bind_revertIf_ok.mp hrun
  have hvault := Root.bind_update_ok.mp hset
  rw [Root.writePlatformVault, bind_assoc, Call.bind_revertIf_ok] at hvault
  obtain ⟨hnonzero, hwrite⟩ := hvault
  have hresolver := Root.bind_update_ok.mp hwrite
  cases Root.update_ok.mp (Call.bind_revertIf_ok.mp hresolver).2
  refine ⟨hnonzero, fun hash => ?_⟩
  have hnone : ∀ {fact : Prop}, (0 : Address) ≠ 0 → fact := fun hne => absurd rfl hne
  exact ⟨fun _ hexists => hnone hexists, nofun, fun _ hexists => hexists rfl,
    fun hexists => hnone hexists, fun hexists => hnone hexists, fun hexists => hnone hexists⟩

/-- A frame creates a namespace only by the call meant for it, once, and for the fee. -/
structure CreatesOnce (d : Deployment Node Label) (world : World Node Label)
    (frame : Frame Node Label) : Prop where
  created : ∀ hash, ¬ world.rootRegistry.Exists hash →
    (step d world frame).rootRegistry.Exists hash →
      ∃ call, frame.message = .root call ∧ call.creates d = some hash ∧
        (frame.perform d).succeeds world = true
  once : ∀ call hash, frame.message = .root call → call.creates d = some hash →
    (frame.perform d).succeeds world = true →
      ¬ world.rootRegistry.Exists hash ∧ (step d world frame).rootRegistry.Exists hash ∧
        ∀ other, other ≠ hash →
          ((step d world frame).rootRegistry.Exists other ↔ world.rootRegistry.Exists other)
  arc : ∀ call, frame.message = .root call → call.creates d = some d.arcLabelhash →
    (frame.perform d).succeeds world = true →
      ∃ created namespaceOwner pricing promo,
        call = .bootstrapArcNamespace created namespaceOwner pricing promo
  fee : ∀ created label namespaceOwner pricing promo,
    frame.message = .root (.registerNamespace created label namespaceOwner pricing promo) →
    (frame.perform d).succeeds world = true →
      Ledgers.transferFrom d.usdc d.rootRegistry frame.sender world.rootRegistry.platformVault
        500000000 world.ledgers = some (step d world frame).ledgers
  free : ∀ call, frame.message = .root call →
    (∀ created label namespaceOwner pricing promo,
      call ≠ .registerNamespace created label namespaceOwner pricing promo) →
      (step d world frame).ledgers = world.ledgers

/-- A successful frame of the root registry has the effect of its call. -/
theorem rootEffect_of_succeeds {call : RootCall} (hmessage : frame.message = .root call)
    (hsucceeds : (frame.perform d).succeeds world = true) :
    RootEffect d frame.sender world call (step d world frame) := by
  obtain ⟨value, next, hperform⟩ := Call.succeeds_iff.mp hsucceeds
  have hrun := (Frame.perform_ok.mp hperform).2
  rw [hmessage] at hrun
  rw [step, Call.commit_of_ok hperform]
  exact RootCall.effect hrun

theorem step_createsOnce : CreatesOnce d world frame where
  created hash hnew := by
    by_cases hroot : ∃ call, frame.message = .root call
    · obtain ⟨call, hmessage⟩ := hroot
      refine step_elim (fun next => next.rootRegistry.Exists hash →
        ∃ call, frame.message = .root call ∧ call.creates d = some hash ∧
          (frame.perform d).succeeds world = true)
        (fun hexists => absurd hexists hnew) fun next hsends hperform hexists => ?_
      have hsucceeds := Call.succeeds_iff.mpr ⟨_, _, Frame.perform_ok.mpr ⟨hsends, hperform⟩⟩
      have hrun := hperform
      rw [hmessage] at hrun
      rcases (RootCall.effect hrun).records hash with ⟨hcreates, -⟩ | ⟨-, howner, -⟩
      · exact ⟨call, hmessage, hcreates, hsucceeds⟩
      · unfold RootRegistry.Exists at hexists
        rw [howner] at hexists
        exact absurd hexists hnew
    · rw [step_rootRegistry fun call hmessage => hroot ⟨call, hmessage⟩]
      exact fun hexists => absurd hexists hnew
  once call hash hmessage hcreates hsucceeds := by
    have heffect := rootEffect_of_succeeds hmessage hsucceeds
    rcases heffect.records hash with ⟨-, hnew, hexists⟩ | ⟨hnot, -⟩
    · refine ⟨hnew, hexists, fun other hother => ?_⟩
      rcases heffect.records other with ⟨hcreated, -⟩ | ⟨-, howner, -⟩
      · exact absurd (Option.some.inj (hcreated.symm.trans hcreates)) hother
      · unfold RootRegistry.Exists
        rw [howner]
    · exact absurd hcreates hnot
  arc call hmessage hcreates hsucceeds := by
    have heffect := rootEffect_of_succeeds hmessage hsucceeds
    generalize step d world frame = next at heffect
    cases heffect with
    | bootstrapArcNamespace created namespaceOwner pricing promo =>
        exact ⟨created, namespaceOwner, pricing, promo, rfl⟩
    | registerNamespace created label namespaceOwner pricing promo next hnonzero hreserved =>
        exact absurd (.inl (Option.some.inj hcreates)) hreserved
    | _ => cases hcreates
  fee created label namespaceOwner pricing promo hmessage hsucceeds := by
    have heffect := rootEffect_of_succeeds hmessage hsucceeds
    generalize step d world frame = next at heffect ⊢
    cases heffect with
    | registerNamespace _ _ _ _ _ _ hnonzero hreserved hnew hopens hvault hvaults hpaid =>
        exact hpaid
  free call hmessage hnot := by
    refine step_elim (fun next => next.ledgers = world.ledgers) rfl fun next _ hrun => ?_
    rw [hmessage] at hrun
    cases RootCall.effect hrun with
    | bootstrapArcNamespace _ _ _ _ _ howner hnonzero hnew hopens hvaults hledgers => exact hledgers
    | registerNamespace created label namespaceOwner pricing promo =>
        exact absurd rfl (hnot created label namespaceOwner pricing promo)
    | _ => rfl

theorem along_createsOnce (frames : List (Frame Node Label)) :
    Sequence.Along (step d) (CreatesOnce d) frames world := by
  induction frames generalizing world with
  | nil => trivial
  | cons frame rest ih => exact ⟨step_createsOnce, ih⟩

/-- At every moment of every history of a root registry its namespaces are in order, between
any two moments they keep their owners and contracts, and each is created once for the fee. -/
theorem namespaces_governed {platformVault defaultResolver initialOwner : Address}
    {before : World Node Label} {value : PUnit}
    (hconstruct : (Root.construct platformVault defaultResolver initialOwner).run before =
      .ok (value, world)) (frames : List (Frame Node Label)) :
    (∀ first rest, frames = first ++ rest →
      Governed d (Sequence.run (step d) first world).rootRegistry) ∧
    (∀ first middle last, frames = first ++ middle ++ last →
      (Sequence.run (step d) first world).rootRegistry.Keeps
        (Sequence.run (step d) (first ++ middle) world).rootRegistry) ∧
    Sequence.Along (step d) (CreatesOnce d) frames world := by
  refine ⟨fun first _ _ => run_governed first (construct_governed hconstruct), ?_,
    along_createsOnce frames⟩
  intro first middle last _
  rw [Sequence.run_append]
  exact run_keeps middle

end History

/-- A buyer with a thousand USDC and an allowance for the fee. -/
def exampleLedgers : Ledgers where
  native := fun _ => 0
  balance := fun _ account => if account = 1001 then 1000000000 else 0
  allowance := fun _ owner spender => if owner = 1001 ∧ spender = 5 then 500000000 else 0
  permit2Allowance := fun _ _ _ => (0, 0)

/-- The name service with its root registry constructed, for platform vault 10. -/
def exampleWorld : World (List (List UInt8)) (List UInt8) :=
  let world := World.launched Deployment.lowAddresses 1000 10 exampleLedgers
  { world with
    rootRegistry := { world.rootRegistry with
      owner := 1000, platformVault := 10, defaultResolver := 3 } }

/-- The buyer creates the namespace "usdc". -/
def exampleCreation : Frame (List (List UInt8)) (List UInt8) where
  sender := 1001
  timestamp := 1700000000
  message := .root (.registerNamespace ⟨20, 21, 22⟩ [0x75, 0x73, 0x64, 0x63] 1001
    ⟨60000000, 20000000, 10000000⟩ ⟨true, 2000, 0, 0⟩)

theorem namespaces_governed_usdc :
    (exampleWorld.rootRegistry.Exists [0x75, 0x73, 0x64, 0x63] ↔ False) ∧
      (step Deployment.lowAddresses exampleWorld exampleCreation).rootRegistry.Exists
        [0x75, 0x73, 0x64, 0x63] ∧
      Governed Deployment.lowAddresses
        (step Deployment.lowAddresses exampleWorld exampleCreation).rootRegistry ∧
      CreatesOnce Deployment.lowAddresses exampleWorld exampleCreation := by
  have hconstruct : (Root.construct 10 3 1000).run
      (World.launched Deployment.lowAddresses 1000 10 exampleLedgers) =
        .ok (PUnit.unit, exampleWorld) := rfl
  have hpromises := @namespaces_governed _ _ _ _ _ Deployment.lowAddresses _ _ _ _ _ hconstruct
    [exampleCreation]
  refine ⟨iff_of_false (fun hexists => hexists rfl) id, ?_, hpromises.1 [exampleCreation] [] rfl,
    hpromises.2.2.1⟩
  decide +kernel

end WizPay.Ans
