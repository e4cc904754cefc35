import WizPay.Ans.Namespaces

/-!
# What a frame does

The effects of all calls in one inversion, and what each of them writes in the registry and
in the registrars.
-/

namespace WizPay.Ans

open Foundation Evm

variable {Node Label : Type} [DecidableEq Node] [DecidableEq Label]
variable {d : Deployment Node Label} {world next : World Node Label} {frame : Frame Node Label}

/-- The controller at `self` is entered or left. -/
def World.enter (world : World Node Label) (self : Address) (status : Bool) : World Node Label :=
  { world with
    controllers := Function.update world.controllers self
      ((world.controllers self).map fun controller => { controller with entered := status }) }

omit [DecidableEq Node] [DecidableEq Label] in
theorem World.enter_self (self : Address) (status : Bool) :
    (world.enter self status).controllers self =
      (world.controllers self).map fun controller => { controller with entered := status } :=
  Function.update_self ..

omit [DecidableEq Node] [DecidableEq Label] in
theorem World.enter_of_ne {self other : Address} (status : Bool) (hother : other ≠ self) :
    (world.enter self status).controllers other = world.controllers other :=
  Function.update_of_ne hother ..

/-- A successful frame, with what it had to find and the world it leaves. -/
inductive FrameEffect (d : Deployment Node Label) (world : World Node Label)
    (frame : Frame Node Label) : World Node Label → Prop
  | registry (call : RegistryCall Node Label) (registry : ArcRegistry Node)
      (hmessage : frame.message = .registry call)
      (hwrites : world.registry.Writes d frame.sender registry) :
      FrameEffect d world frame { world with registry := registry }
  | resolver (call : ResolverCall Node) (resolver : PublicResolver Node)
      (hmessage : frame.message = .resolver call)
      (hwrites : ∀ node, resolver.recordsOf node = world.resolver.recordsOf node ∨
        world.registry.Resolves node frame.sender) :
      FrameEffect d world frame { world with resolver := resolver }
  | registrar (self : Address) (call : RegistrarCall Label)
      (registrar : NamespaceRegistrar Node Label) (next : World Node Label)
      (hmessage : frame.message = .registrar self call)
      (hregistrar : world.registrars self = some registrar)
      (heffect : RegistrarEffect d frame.sender frame.timestamp self registrar world call next) :
      FrameEffect d world frame next
  | root (call : RootCall) (next : World Node Label) (hmessage : frame.message = .root call)
      (heffect : RootEffect d frame.sender world call next) : FrameEffect d world frame next
  | vault (self : Address) (call : VaultCall) (vaults : Address → Option Address)
      (ledgers : Ledgers) (hmessage : frame.message = .vault self call)
      (howner : world.vaults self = some frame.sender)
      (hothers : ∀ other, other ≠ self → vaults other = world.vaults other)
      (hledgers : ledgers = world.ledgers ∨ ∃ token target amount,
        Ledgers.moveToken token self target amount world.ledgers = some ledgers) :
      FrameEffect d world frame { world with vaults := vaults, ledgers := ledgers }
  | token (asset : Address) (call : TokenCall) (ledgers : Ledgers)
      (hmessage : frame.message = .token asset call)
      (hledgers : call.effect frame.sender asset world.ledgers = some ledgers) :
      FrameEffect d world frame { world with ledgers := ledgers }
  | entered (status : Bool) (hmessage : frame.message = .entered status) :
      FrameEffect d world frame (world.enter frame.sender status)

theorem Message.effect (hsends : world.sends d frame.sender = true) {value : PUnit}
    (hrun : (frame.message.perform d frame.sender frame.timestamp).run world = .ok (value, next)) :
    FrameEffect d world frame next := by
  rcases frame with ⟨sender, timestamp, message⟩
  cases message with
  | registry call =>
      obtain ⟨hsame, hwrites⟩ := RegistryCall.effect hrun
      rw [hsame]
      exact .registry call next.registry rfl hwrites
  | resolver call =>
      obtain ⟨hsame, hwrites⟩ := ResolverCall.effect hrun
      rw [hsame]
      exact .resolver call next.resolver rfl hwrites
  | registrar self call =>
      obtain ⟨registrar, hregistrar, heffect⟩ := RegistrarCall.effect (sends_ne_zero hsends) hrun
      exact .registrar self call registrar next rfl hregistrar heffect
  | root call => exact .root call next rfl (RootCall.effect hrun)
  | vault self call =>
      obtain ⟨howner, hsame, hothers, hledgers⟩ := VaultCall.effect hrun
      rw [hsame]
      exact .vault self call next.vaults next.ledgers rfl howner hothers hledgers
  | token asset call =>
      obtain ⟨moved, hmoved, hresult⟩ := Call.external_ok.mp hrun
      obtain ⟨ledgers, hledgers, rfl⟩ := Option.map_eq_some_iff.mp hmoved
      cases hresult
      exact .token asset call ledgers rfl hledgers
  | entered status =>
      cases Call.modify_ok.mp hrun
      exact .entered status rfl

/-- What holds before a frame, and after it whatever its effect is, holds after it. -/
theorem step_effect (fact : World Node Label → Prop) (hbefore : fact world)
    (heffect : ∀ next, world.sends d frame.sender = true → FrameEffect d world frame next →
      fact next) : fact (step d world frame) :=
  step_elim fact hbefore fun next hsends hrun => heffect next hsends (Message.effect hsends hrun)

/-- A call of the root registry creates a namespace or writes its own storage. -/
theorem RootEffect.opens_or {sender : Address} {call : RootCall}
    (heffect : RootEffect d sender world call next) :
    (∃ created hash namespaceOwner pricing promo record,
      Opens d created hash namespaceOwner pricing promo record world next ∧
      ¬ world.rootRegistry.Exists hash ∧ record.owner ≠ 0 ∧
      record.registrar = created.registrar ∧ record.controller = created.controller) ∨
    next = { world with rootRegistry := next.rootRegistry } ∧
      ∀ hash, (next.rootRegistry.namespaceRecords hash).owner =
          (world.rootRegistry.namespaceRecords hash).owner ∧
        (next.rootRegistry.namespaceRecords hash).registrar =
          (world.rootRegistry.namespaceRecords hash).registrar ∧
        (next.rootRegistry.namespaceRecords hash).controller =
          (world.rootRegistry.namespaceRecords hash).controller := by
  have hrecords := heffect.records
  cases heffect with
  | bootstrapArcNamespace created namespaceOwner pricing promo next howner hnonzero hnew hopens =>
      exact .inl ⟨_, _, _, _, _, _, hopens, not_not.mpr hnew, hnonzero, rfl, rfl⟩
  | registerNamespace created label namespaceOwner pricing promo next hnonzero hreserved hnew
      hopens =>
      exact .inl ⟨_, _, _, _, _, _, hopens, not_not.mpr hnew, hnonzero, rfl, rfl⟩
  | _ => exact .inr ⟨rfl, fun hash => ((hrecords hash).resolve_left fun h => nomatch h.1).2⟩

/-- What a call of a registrar writes in the registry. -/
theorem RegistrarEffect.registry {sender self : Address} {now : ℕ}
    {registrar : NamespaceRegistrar Node Label} {call : RegistrarCall Label}
    (heffect : RegistrarEffect d sender now self registrar world call next) :
    next.registry.operators = world.registry.operators ∧
      ∀ node, next.registry.records node = world.registry.records node ∨
        (node = registrar.baseNode ∧ sender = registrar.owner) ∨
        ∃ id, node = d.subnode registrar.baseNode id ∧
          world.registry.Authorised registrar.baseNode self ∧
          (registrar.IsAuthorized (registrar.owners id) sender id ∨
            registrar.controllers sender = true ∧ registrar.Available now id) := by
  have hnode : ∀ {id : Label} {account : Address} {written : NamespaceRegistrar Node Label},
      world.registry.Authorised registrar.baseNode self →
      (registrar.IsAuthorized (registrar.owners id) sender id ∨
        registrar.controllers sender = true ∧ registrar.Available now id) →
      ∀ node, (((world.setRegistrar self written).setNodeOwner
          (d.subnode registrar.baseNode id) account).registry.records node =
            world.registry.records node) ∨
        (node = registrar.baseNode ∧ sender = registrar.owner) ∨
        ∃ id, node = d.subnode registrar.baseNode id ∧
          world.registry.Authorised registrar.baseNode self ∧
          (registrar.IsAuthorized (registrar.owners id) sender id ∨
            registrar.controllers sender = true ∧ registrar.Available now id) := by
    intro id account written hauthorised hauthority node
    by_cases hsame : node = d.subnode registrar.baseNode id
    · exact .inr (.inr ⟨id, hsame, hauthorised, hauthority⟩)
    · exact .inl (ArcRegistry.setOwner_of_ne _ _ hsame)
  cases heffect with
  | transferFrom target id htarget hterm hauthority hauthorised =>
      exact ⟨rfl, hnode hauthorised (.inl hauthority)⟩
  | safeTransferFrom target id htarget hterm hauthority hauthorised =>
      exact ⟨rfl, hnode hauthorised (.inl hauthority)⟩
  | register id owner duration hcontroller howner hduration havailable hfits hauthorised =>
      exact ⟨rfl, hnode hauthorised (.inr ⟨hcontroller, havailable⟩)⟩
  | reclaim id owner howner hterm howned hauthority hauthorised =>
      exact ⟨rfl, @hnode id owner registrar hauthorised (.inl hauthority)⟩
  | setResolver resolver howner hauthorised =>
      refine ⟨rfl, fun node => ?_⟩
      by_cases hsame : node = registrar.baseNode
      · exact .inr (.inl ⟨hsame, howner⟩)
      · exact .inl (ArcRegistry.setResolver_of_ne _ _ hsame)
  | _ => exact ⟨rfl, fun _ => .inl rfl⟩

/-- A registrar keeps its node, and the other contracts are not touched. -/
theorem RegistrarEffect.registrars {sender self : Address} {now : ℕ}
    {registrar : NamespaceRegistrar Node Label} {call : RegistrarCall Label}
    (heffect : RegistrarEffect d sender now self registrar world call next)
    (hregistrar : world.registrars self = some registrar) :
    ∃ after, next.registrars = Function.update world.registrars self (some after) ∧
      after.baseNode = registrar.baseNode := by
  cases heffect with
  | setResolver | reclaim =>
      exact ⟨registrar, (Function.update_eq_self_iff.mpr hregistrar.symm).symm, rfl⟩
  | register id owner duration =>
      exact ⟨_, rfl, (registrar.registered_administration _ _).2.2.2⟩
  | _ => exact ⟨_, rfl, rfl⟩

end WizPay.Ans
