import WizPay.Ans.Expiry

/-!
# The contracts as they are deployed

What holds in every state the name service can reach: a registrar sends nothing and lets
nobody act for it, and every registrar and every controller is the one that the root registry
has on record for its namespace.
-/

namespace WizPay.Ans

open Foundation Evm

variable {Node Label : Type}

/-! ## In order -/

structure Deployed (d : Deployment Node Label) (world : World Node Label) : Prop where
  registrar_internal : ∀ self registrar, world.registrars self = some registrar →
    d.external self = false ∧ self ≠ 0 ∧ world.controllers self = none
  controller_ne_zero : world.controllers 0 = none
  operators : ∀ account, d.external account = false → world.controllers account = none →
    ∀ operator, world.registry.operators account operator = false
  registrar_recorded : ∀ self registrar, world.registrars self = some registrar →
    ∃ hash, registrar.baseNode = d.namespaceNode hash ∧ world.rootRegistry.Exists hash ∧
      (world.rootRegistry.namespaceRecords hash).registrar = self
  controller_recorded : ∀ self controller, world.controllers self = some controller →
    world.rootRegistry.Exists controller.namespaceLabelhash ∧
      (world.rootRegistry.namespaceRecords controller.namespaceLabelhash).controller = self ∧
      (world.rootRegistry.namespaceRecords controller.namespaceLabelhash).registrar =
        controller.registrar
  namespace_registrar : ∀ hash, world.rootRegistry.Exists hash → ∃ registrar,
    world.registrars (world.rootRegistry.namespaceRecords hash).registrar = some registrar ∧
      registrar.baseNode = d.namespaceNode hash

namespace Deployed

variable {d : Deployment Node Label} {world next : World Node Label} {self : Address}
  {registrar : NamespaceRegistrar Node Label}

/-- A registrar is no account that sends. -/
theorem silent (hdeployed : Deployed d world) (hregistrar : world.registrars self = some registrar) :
    world.sends d self = false := by
  obtain ⟨hexternal, -, hnone⟩ := hdeployed.registrar_internal self registrar hregistrar
  simp [World.sends, hexternal, hnone]

/-- Nobody acts for a registrar. -/
theorem operators_registrar (hdeployed : Deployed d world)
    (hregistrar : world.registrars self = some registrar) (operator : Address) :
    world.registry.operators self operator = false := by
  obtain ⟨hexternal, -, hnone⟩ := hdeployed.registrar_internal self registrar hregistrar
  exact hdeployed.operators self hexternal hnone operator

/-- Only a registrar that owns a node has authority over it. -/
theorem authorised_iff (hdeployed : Deployed d world)
    (hregistrar : world.registrars self = some registrar) {node : Node} {account : Address}
    (howner : (world.registry.records node).owner = self) :
    world.registry.Authorised node account ↔ account = self := by
  unfold ArcRegistry.Authorised
  rw [howner, hdeployed.operators_registrar hregistrar]
  simp only [Bool.false_eq_true, or_false, eq_comm]

/-- The zero address controls nothing. -/
theorem operators_zero (hdeployed : Deployed d world) (operator : Address) :
    world.registry.operators 0 operator = false :=
  hdeployed.operators 0 d.zero_internal hdeployed.controller_ne_zero operator

/-- Two registrars do not share a node. -/
theorem eq_of_baseNode (hdeployed : Deployed d world) {other : Address}
    {second : NamespaceRegistrar Node Label} (hregistrar : world.registrars self = some registrar)
    (hsecond : world.registrars other = some second) (hsame : registrar.baseNode = second.baseNode) :
    self = other := by
  obtain ⟨hash, hbase, -, rfl⟩ := hdeployed.registrar_recorded self registrar hregistrar
  obtain ⟨hash', hbase', -, rfl⟩ := hdeployed.registrar_recorded other second hsecond
  rw [hbase, hbase'] at hsame
  obtain ⟨-, rfl⟩ := d.subnode_inj hsame
  rfl

/-- The node of a name is no node of a namespace. -/
theorem subnode_ne (hdeployed : Deployed d world)
    (hregistrar : world.registrars self = some registrar) (id hash : Label) :
    d.subnode registrar.baseNode id ≠ d.namespaceNode hash := by
  obtain ⟨other, hbase, -, -⟩ := hdeployed.registrar_recorded self registrar hregistrar
  intro hsame
  obtain ⟨hroot, -⟩ := d.subnode_inj hsame
  rw [hbase] at hroot
  exact d.subnode_ne_root _ _ hroot

/-- Frames that leave the registrars, the controllers and the root registry alone. -/
theorem of_same (hdeployed : Deployed d world) (hregistrars : next.registrars = world.registrars)
    (hcontrollers : next.controllers = world.controllers)
    (hroot : next.rootRegistry = world.rootRegistry)
    (hoperators : ∀ account, d.external account = false → world.controllers account = none →
      next.registry.operators account = world.registry.operators account) : Deployed d next where
  registrar_internal := by
    rw [hregistrars, hcontrollers]
    exact hdeployed.registrar_internal
  controller_ne_zero := by
    rw [hcontrollers]
    exact hdeployed.controller_ne_zero
  operators account hexternal hnone operator := by
    rw [hcontrollers] at hnone
    rw [hoperators account hexternal hnone]
    exact hdeployed.operators account hexternal hnone operator
  registrar_recorded := by
    rw [hregistrars, hroot]
    exact hdeployed.registrar_recorded
  controller_recorded := by
    rw [hcontrollers, hroot]
    exact hdeployed.controller_recorded
  namespace_registrar := by
    rw [hregistrars, hroot]
    exact hdeployed.namespace_registrar

variable [DecidableEq Node] [DecidableEq Label]

/-- A call of a registrar. -/
theorem registrarEffect (hdeployed : Deployed d world) {sender : Address} {now : ℕ}
    {call : RegistrarCall Label} (hregistrar : world.registrars self = some registrar)
    (heffect : RegistrarEffect d sender now self registrar world call next) : Deployed d next := by
  obtain ⟨after, hregistrars, hbase⟩ := heffect.registrars hregistrar
  have hframe := heffect.frame.1
  have hcontrollers : next.controllers = world.controllers := by rw [hframe]
  have hroot : next.rootRegistry = world.rootRegistry := by rw [hframe]
  have hread : ∀ other second, next.registrars other = some second →
      ∃ first, world.registrars other = some first ∧ second.baseNode = first.baseNode := by
    intro other second hsecond
    rw [hregistrars] at hsecond
    by_cases hother : other = self
    · subst hother
      rw [Function.update_self] at hsecond
      cases hsecond
      exact ⟨registrar, hregistrar, hbase⟩
    · rw [Function.update_of_ne hother] at hsecond
      exact ⟨second, hsecond, rfl⟩
  constructor
  · intro other second hsecond
    obtain ⟨first, hfirst, -⟩ := hread other second hsecond
    rw [hcontrollers]
    exact hdeployed.registrar_internal other first hfirst
  · rw [hcontrollers]
    exact hdeployed.controller_ne_zero
  · rw [hcontrollers, heffect.registry.1]
    exact hdeployed.operators
  · intro other second hsecond
    obtain ⟨first, hfirst, hsame⟩ := hread other second hsecond
    rw [hsame, hroot]
    exact hdeployed.registrar_recorded other first hfirst
  · rw [hcontrollers, hroot]
    exact hdeployed.controller_recorded
  · intro hash hexists
    rw [hroot] at hexists ⊢
    obtain ⟨first, hfirst, hnode⟩ := hdeployed.namespace_registrar hash hexists
    rw [hregistrars]
    by_cases hother : (world.rootRegistry.namespaceRecords hash).registrar = self
    · rw [hother, Function.update_self]
      rw [hother, hregistrar] at hfirst
      cases hfirst
      exact ⟨after, rfl, hbase.trans hnode⟩
    · rw [Function.update_of_ne hother]
      exact ⟨first, hfirst, hnode⟩

/-- A namespace is created. -/
theorem opens (hdeployed : Deployed d world) {created : Created} {hash : Label}
    {namespaceOwner : Address} {pricing : PricingConfig} {promo : PromoConfig}
    {record : NamespaceRecord}
    (hopens : Opens d created hash namespaceOwner pricing promo record world next)
    (hnew : ¬ world.rootRegistry.Exists hash) (howner : record.owner ≠ 0)
    (hregistrar : record.registrar = created.registrar)
    (hcontroller : record.controller = created.controller) : Deployed d next := by
  obtain ⟨hregistrarContract, hregistrarExternal, hregistrarZero⟩ :=
    isFresh_iff.mp hopens.registrar_fresh
  obtain ⟨hcontrollerContract, hcontrollerExternal, hcontrollerZero⟩ :=
    isFresh_iff.mp hopens.controller_fresh
  obtain ⟨-, -, hnoRegistrar, hregistrarNone, -⟩ := isContract_eq_false hregistrarContract
  obtain ⟨-, -, hcontrollerNone, hnoController, -⟩ := isContract_eq_false hcontrollerContract
  have hrecords : next.rootRegistry.namespaceRecords =
      (world.rootRegistry.setRecord hash record).namespaceRecords := by
    rw [hopens.rootRegistry]
    rfl
  have hself : next.rootRegistry.namespaceRecords hash = record := by
    rw [hrecords, RootRegistry.setRecord_self]
  have hothers : ∀ other, world.rootRegistry.Exists other →
      next.rootRegistry.namespaceRecords other = world.rootRegistry.namespaceRecords other := by
    intro other hexists
    rw [hrecords, world.rootRegistry.setRecord_of_ne record]
    rintro rfl
    exact hnew hexists
  have hexists : next.rootRegistry.Exists hash := by
    unfold RootRegistry.Exists
    rw [hself]
    exact howner
  have hstill : ∀ other, world.rootRegistry.Exists other → next.rootRegistry.Exists other := by
    intro other hother
    unfold RootRegistry.Exists
    rw [hothers other hother]
    exact hother
  constructor
  · intro other second hsecond
    rw [hopens.registrars] at hsecond
    rw [hopens.controllers]
    by_cases hother : other = created.registrar
    · subst hother
      rw [Function.update_of_ne hopens.controller_ne.symm]
      exact ⟨hregistrarExternal, hregistrarZero, hregistrarNone⟩
    · rw [Function.update_of_ne hother] at hsecond
      obtain ⟨hexternal, hzero, hnone⟩ := hdeployed.registrar_internal other second hsecond
      refine ⟨hexternal, hzero, ?_⟩
      rw [Function.update_of_ne]
      · exact hnone
      · rintro rfl
        rw [hcontrollerNone] at hsecond
        cases hsecond
  · rw [hopens.controllers, Function.update_of_ne hcontrollerZero.symm]
    exact hdeployed.controller_ne_zero
  · intro account hexternal hnone operator
    rw [hopens.controllers] at hnone
    rw [hopens.registry]
    by_cases haccount : account = created.controller
    · rw [haccount, Function.update_self] at hnone
      cases hnone
    · rw [Function.update_of_ne haccount] at hnone
      exact hdeployed.operators account hexternal hnone operator
  · intro other second hsecond
    rw [hopens.registrars] at hsecond
    by_cases hother : other = created.registrar
    · subst hother
      rw [Function.update_self] at hsecond
      cases hsecond
      exact ⟨hash, rfl, hexists, by rw [hself, hregistrar]⟩
    · rw [Function.update_of_ne hother] at hsecond
      obtain ⟨label, hbase, hlabel, hrecorded⟩ :=
        hdeployed.registrar_recorded other second hsecond
      exact ⟨label, hbase, hstill label hlabel, by rw [hothers label hlabel, hrecorded]⟩
  · intro other controller hfound
    rw [hopens.controllers] at hfound
    by_cases hother : other = created.controller
    · subst hother
      rw [Function.update_self] at hfound
      cases hfound
      exact ⟨hexists, by rw [hself, hcontroller], by rw [hself, hregistrar]⟩
    · rw [Function.update_of_ne hother] at hfound
      obtain ⟨hlabel, hrecorded⟩ := hdeployed.controller_recorded other controller hfound
      rw [hothers _ hlabel]
      exact ⟨hstill _ hlabel, hrecorded⟩
  · intro other hother
    by_cases hsame : other = hash
    · subst hsame
      rw [hself, hregistrar, hopens.registrars, Function.update_self]
      exact ⟨_, rfl, rfl⟩
    · have hbefore : world.rootRegistry.Exists other := by
        unfold RootRegistry.Exists at hother ⊢
        rw [hrecords, world.rootRegistry.setRecord_of_ne record hsame] at hother
        exact hother
      obtain ⟨second, hsecond, hnode⟩ := hdeployed.namespace_registrar other hbefore
      refine ⟨second, ?_, hnode⟩
      rw [hothers other hbefore, hopens.registrars, Function.update_of_ne]
      · exact hsecond
      · intro hclash
        rw [hclash, hnoRegistrar] at hsecond
        cases hsecond

omit [DecidableEq Node] [DecidableEq Label] in
/-- A controller is entered or left. -/
theorem enter (hdeployed : Deployed d world) (sender : Address) (status : Bool) :
    Deployed d (world.enter sender status) := by
  have hread : ∀ other controller,
      (world.enter sender status).controllers other = some controller →
      ∃ before, world.controllers other = some before ∧
        before.namespaceLabelhash = controller.namespaceLabelhash ∧
        before.registrar = controller.registrar := by
    intro other controller hfound
    by_cases hother : other = sender
    · subst hother
      rw [World.enter_self] at hfound
      obtain ⟨before, hbefore, rfl⟩ := Option.map_eq_some_iff.mp hfound
      exact ⟨before, hbefore, rfl, rfl⟩
    · rw [World.enter_of_ne status hother] at hfound
      exact ⟨controller, hfound, rfl, rfl⟩
  have hnone : ∀ other, world.controllers other = none ↔
      (world.enter sender status).controllers other = none := by
    intro other
    by_cases hother : other = sender
    · subst hother
      rw [World.enter_self, Option.map_eq_none_iff]
    · rw [World.enter_of_ne status hother]
  constructor
  · intro other registrar hregistrar
    obtain ⟨hexternal, hzero, hnobody⟩ :=
      hdeployed.registrar_internal other registrar hregistrar
    exact ⟨hexternal, hzero, (hnone other).mp hnobody⟩
  · exact (hnone 0).mp hdeployed.controller_ne_zero
  · intro account hexternal hnobody
    exact hdeployed.operators account hexternal ((hnone account).mpr hnobody)
  · exact hdeployed.registrar_recorded
  · intro other controller hfound
    obtain ⟨before, hbefore, hhash, hregistrar⟩ := hread other controller hfound
    rw [← hhash, ← hregistrar]
    exact hdeployed.controller_recorded other before hbefore
  · exact hdeployed.namespace_registrar

omit [DecidableEq Node] [DecidableEq Label] in
/-- The root registry writes its own storage and creates nothing. -/
theorem rootRegistry (hdeployed : Deployed d world)
    (hnext : next = { world with rootRegistry := next.rootRegistry })
    (hrecords : ∀ hash, (next.rootRegistry.namespaceRecords hash).owner =
        (world.rootRegistry.namespaceRecords hash).owner ∧
      (next.rootRegistry.namespaceRecords hash).registrar =
        (world.rootRegistry.namespaceRecords hash).registrar ∧
      (next.rootRegistry.namespaceRecords hash).controller =
        (world.rootRegistry.namespaceRecords hash).controller) : Deployed d next := by
  have hexists : ∀ hash, next.rootRegistry.Exists hash ↔ world.rootRegistry.Exists hash := by
    intro hash
    unfold RootRegistry.Exists
    rw [(hrecords hash).1]
  have hregistrars : next.registrars = world.registrars := by rw [hnext]
  have hcontrollers : next.controllers = world.controllers := by rw [hnext]
  have hregistry : next.registry = world.registry := by rw [hnext]
  constructor
  · rw [hregistrars, hcontrollers]
    exact hdeployed.registrar_internal
  · rw [hcontrollers]
    exact hdeployed.controller_ne_zero
  · rw [hcontrollers, hregistry]
    exact hdeployed.operators
  · intro other second hsecond
    rw [hregistrars] at hsecond
    obtain ⟨hash, hbase, hlabel, hrecorded⟩ := hdeployed.registrar_recorded other second hsecond
    exact ⟨hash, hbase, (hexists hash).mpr hlabel, by rw [(hrecords hash).2.1, hrecorded]⟩
  · intro other controller hfound
    rw [hcontrollers] at hfound
    obtain ⟨hlabel, hcontroller, hregistrar⟩ :=
      hdeployed.controller_recorded other controller hfound
    obtain ⟨-, hsame, hsame'⟩ := hrecords controller.namespaceLabelhash
    exact ⟨(hexists _).mpr hlabel, hsame'.trans hcontroller, hsame.trans hregistrar⟩
  · intro hash hlabel
    rw [hregistrars, (hrecords hash).2.1]
    exact hdeployed.namespace_registrar hash ((hexists hash).mp hlabel)

end Deployed

/-! ## Histories -/

section History

variable [DecidableEq Node] [DecidableEq Label] {d : Deployment Node Label}
  {world next : World Node Label} {frame : Frame Node Label}

theorem FrameEffect.deployed (hdeployed : Deployed d world)
    (hsends : world.sends d frame.sender = true) (heffect : FrameEffect d world frame next) :
    Deployed d next := by
  cases heffect with
  | registry call registry hmessage hwrites =>
      -- only accounts that send name operators
      refine hdeployed.of_same rfl rfl rfl fun account hexternal hnone => ?_
      refine hwrites.operators account ?_
      rintro rfl
      simp [World.sends, hexternal, hnone] at hsends
  | registrar self call registrar next hmessage hregistrar heffect =>
      exact hdeployed.registrarEffect hregistrar heffect
  | root call next hmessage heffect =>
      rcases heffect.opens_or with ⟨created, hash, _, _, _, record, hopens, hnew, howner,
        hregistrar, hcontroller⟩ | ⟨hsame, hrecords⟩
      · exact hdeployed.opens hopens hnew howner hregistrar hcontroller
      · exact hdeployed.rootRegistry hsame hrecords
  | entered status hmessage =>
      exact hdeployed.enter frame.sender status
  | _ => exact hdeployed.of_same rfl rfl rfl fun _ _ _ => rfl

theorem step_deployed (hdeployed : Deployed d world) : Deployed d (step d world frame) :=
  step_effect (Deployed d) hdeployed fun _ hsends heffect => heffect.deployed hdeployed hsends

theorem run_deployed (frames : List (Frame Node Label)) (hdeployed : Deployed d world) :
    Deployed d (Sequence.run (step d) frames world) := by
  induction frames generalizing world with
  | nil => exact hdeployed
  | cons frame rest ih => exact ih (step_deployed hdeployed)

omit [DecidableEq Label] in
theorem deployed_launched {deployer platformVault defaultResolver initialOwner : Address}
    {ledgers : Ledgers} {value : PUnit} (hdeployer : d.external deployer = true)
    (hrun : (Root.construct platformVault defaultResolver initialOwner).run
      (World.launched d deployer platformVault ledgers) = .ok (value, world)) :
    Deployed d world := by
  obtain ⟨-, hset⟩ := Call.bind_revertIf_ok.mp hrun
  have hvault := Root.bind_update_ok.mp hset
  rw [Root.writePlatformVault, bind_assoc, Call.bind_revertIf_ok] at hvault
  have hresolver := Root.bind_update_ok.mp hvault.2
  cases Root.update_ok.mp (Call.bind_revertIf_ok.mp hresolver).2
  have hnobody : ∀ hash : Label, ¬ RootRegistry.Exists (.empty : RootRegistry Label) hash :=
    fun _ hexists => hexists rfl
  constructor
  · intro _ _ hnone
    cases hnone
  · rfl
  · intro account hexternal _ operator
    refine decide_eq_false fun hboth => ?_
    rw [hboth.1, hdeployer] at hexternal
    cases hexternal
  · intro _ _ hnone
    cases hnone
  · intro _ _ hnone
    cases hnone
  · exact fun hash hexists => absurd hexists (hnobody hash)

/-- One world can become another. -/
def Reaches (d : Deployment Node Label) (world next : World Node Label) : Prop :=
  ∃ frames, next = Sequence.run (step d) frames world

/-- A state of the name service after the root registry was constructed. -/
def Reachable (d : Deployment Node Label) (world : World Node Label) : Prop :=
  ∃ deployer platformVault defaultResolver initialOwner ledgers value start,
    d.external deployer = true ∧
    (Root.construct platformVault defaultResolver initialOwner).run
      (World.launched d deployer platformVault ledgers) = .ok (value, start) ∧
    Reaches d start world

namespace Reaches

theorem refl (world : World Node Label) : Reaches d world world := ⟨[], rfl⟩

theorem trans {third : World Node Label} (hfirst : Reaches d world next)
    (hsecond : Reaches d next third) : Reaches d world third := by
  obtain ⟨first, rfl⟩ := hfirst
  obtain ⟨second, rfl⟩ := hsecond
  exact ⟨first ++ second, (Sequence.run_append first second world).symm⟩

/-- A successful call of an account that sends is a frame. -/
theorem of_message {sender : Address} {now : ℕ} {message : Message Node Label} {value : PUnit}
    (hsends : world.sends d sender = true)
    (hrun : (message.perform d sender now).run world = .ok (value, next)) :
    Reaches d world next := by
  have hperform : (Frame.perform d ⟨sender, now, message⟩).run world = .ok (value, next) :=
    Frame.perform_ok.mpr ⟨hsends, hrun⟩
  exact ⟨[⟨sender, now, message⟩], (Call.commit_of_ok hperform).symm⟩

theorem deployed (hreaches : Reaches d world next) (hdeployed : Deployed d world) :
    Deployed d next := by
  obtain ⟨frames, rfl⟩ := hreaches
  exact run_deployed frames hdeployed

end Reaches

theorem Reachable.deployed (hreachable : Reachable d world) : Deployed d world := by
  obtain ⟨_, _, _, _, _, _, start, hdeployer, hconstruct, hreaches⟩ := hreachable
  exact hreaches.deployed (deployed_launched hdeployer hconstruct)

theorem Reachable.trans (hreachable : Reachable d world) (hreaches : Reaches d world next) :
    Reachable d next := by
  obtain ⟨deployer, platformVault, defaultResolver, initialOwner, ledgers, value, start,
    hdeployer, hconstruct, hbefore⟩ := hreachable
  exact ⟨deployer, platformVault, defaultResolver, initialOwner, ledgers, value, start, hdeployer,
    hconstruct, hbefore.trans hreaches⟩

end History

end WizPay.Ans
