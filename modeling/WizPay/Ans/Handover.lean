import WizPay.Ans.Purchases

/-!
# A name that is registered again

A name that lapsed and is bought again belongs to its buyer alone: the token, the node in the
registry and the approval of the token are all handed over, and what the previous holder, or
anybody the buyer does not trust, still does leaves the name alone.
-/

namespace WizPay.Ans

open Foundation Evm

variable {Node Label : Type} [DecidableEq Node] [DecidableEq Label]
variable {d : Deployment Node Label} {world next : World Node Label} {frame : Frame Node Label}
  {address owner self sender : Address} {id : Label} {now : ℕ}

/-! ## The hand-over -/

/-- Everything a name consists of is with its new owner. -/
structure HandedOver (d : Deployment Node Label) (address : Address) (id : Label)
    (owner : Address) (now : ℕ) (world : World Node Label)
    (registrar : NamespaceRegistrar Node Label) : Prop where
  deployed : world.registrars address = some registrar
  ownerOf : (Registrar.ownerOf address now id).run world = .ok (owner, world)
  holder : registrar.owners id = owner
  node : (world.registry.records (d.subnode registrar.baseNode id)).owner = owner
  approval : registrar.tokenApprovals id = 0

omit [DecidableEq Label] in
theorem HandedOver.of_node {registrar : NamespaceRegistrar Node Label} (howner : owner ≠ 0)
    (hholder : registrar.owners id = owner) (happroval : registrar.tokenApprovals id = 0)
    (hterm : now < registrar.expiries id) :
    HandedOver d address id owner now
      ((world.setRegistrar address registrar).setNodeOwner (d.subnode registrar.baseNode id) owner)
      registrar where
  deployed := setRegistrar_self ..
  ownerOf := by
    rw [Registrar.ownerOf, Registrar.bind_load_ok]
    refine ⟨registrar, setRegistrar_self .., ?_⟩
    rw [Call.bind_revertIf_ok, Call.bind_revertIf_ok, Call.pure_ok, hholder]
    exact ⟨Nat.not_le.mpr hterm, howner, rfl⟩
  holder := hholder
  node := by
    change ((world.registry.setOwner (d.subnode registrar.baseNode id) owner).records
      (d.subnode registrar.baseNode id)).owner = owner
    rw [ArcRegistry.setOwner_self]
  approval := happroval

/-- The controller hands the token it bought to the owner. -/
theorem transferFrom_handedOver (hself : self ≠ 0) {value : Unit}
    (hrun : (Registrar.transferFrom d address self now self owner id).run world =
      .ok (value, next)) : ∃ registrar, HandedOver d address id owner now next registrar := by
  obtain ⟨howner, before, hregistrar, hterm, hauthority, hnode, hholder, hsame⟩ :=
    (Registrar.transferFrom_ok hself).mp hrun
  cases hsame
  refine ⟨before.transfer id owner, .of_node howner (before.transfer_owners owner) ?_ hterm⟩
  rw [NamespaceRegistrar.transfer_tokenApprovals, hholder, if_neg hself]

/-- The controller buys the token for the owner, in place of an earlier holder. -/
theorem register_handedOver {registrar : NamespaceRegistrar Node Label} {duration value : ℕ}
    (hregistrar : world.registrars address = some registrar) (hheld : registrar.owners id ≠ 0)
    (hrun : (Registrar.register d address self now id owner duration).run world =
      .ok (value, next)) : ∃ registrar, HandedOver d address id owner now next registrar := by
  obtain ⟨before, hbefore, hcontroller, howner, hduration, havailable, hfits, hnode, hsame⟩ :=
    Registrar.register_ok.mp hrun
  obtain rfl := Option.some.inj (hregistrar.symm.trans hbefore)
  cases hsame
  have hbase : (registrar.registered id owner (now + duration)).baseNode = registrar.baseNode :=
    (registrar.registered_administration ..).2.2.2
  refine ⟨registrar.registered id owner (now + duration), ?_⟩
  rw [← hbase]
  refine .of_node howner (registrar.registered_owners ..) ?_ ?_
  · rw [NamespaceRegistrar.registered_tokenApprovals, if_neg hheld]
  · rw [NamespaceRegistrar.registered_expiries]
    omega

/-! ## After the hand-over -/

/-- Who acts for the owner of a name: the owner, and the operators it named in the registry
or the registrar. -/
def Trusts (address owner : Address) (world : World Node Label) (account : Address) : Prop :=
  account = owner ∨ world.registry.operators owner account = true ∨
    ∃ registrar, world.registrars address = some registrar ∧
      registrar.operatorApprovals owner account = true

/-- The name is with its owner, who trusts nobody new. -/
structure Holds (d : Deployment Node Label) (address : Address) (id : Label) (owner : Address)
    (trusted : Address → Prop) (world : World Node Label) : Prop where
  token : ∃ registrar, world.registrars address = some registrar ∧
    registrar.owners id = owner ∧ registrar.tokenApprovals id = 0 ∧
    (world.registry.records (d.subnode registrar.baseNode id)).owner = owner
  trusts : ∀ account, Trusts address owner world account → trusted account

/-- A frame while the registrar owns the node of the namespace and the name has not lapsed;
the owner and those it trusts neither give the name away nor trust anybody new. -/
structure Undisturbed (d : Deployment Node Label) (address : Address) (id : Label)
    (owner : Address) (trusted : Address → Prop) (world : World Node Label)
    (frame : Frame Node Label) : Prop where
  base : ∀ registrar, world.registrars address = some registrar →
    (world.registry.records registrar.baseNode).owner = address
  term : ∀ registrar, world.registrars address = some registrar →
    ¬ registrar.Lapsed frame.timestamp id
  quiet : trusted frame.sender → Holds d address id owner trusted (step d world frame)

/-- A frame of a stranger leaves the token, the record of the node in the registry, and what
the public resolver says about it; it may extend the term. -/
def Untouched (d : Deployment Node Label) (address : Address) (id : Label)
    (trusted : Address → Prop) (world : World Node Label) (frame : Frame Node Label) : Prop :=
  ¬ trusted frame.sender → ∃ before after, world.registrars address = some before ∧
    (step d world frame).registrars address = some after ∧
    after.owners id = before.owners id ∧ after.tokenApprovals id = before.tokenApprovals id ∧
    before.expiries id ≤ after.expiries id ∧ after.baseNode = before.baseNode ∧
    (step d world frame).registry.records (d.subnode before.baseNode id) =
      world.registry.records (d.subnode before.baseNode id) ∧
    (step d world frame).resolver.recordsOf (d.subnode before.baseNode id) =
      world.resolver.recordsOf (d.subnode before.baseNode id)

section Strangers

variable {trusted : Address → Prop} {before : NamespaceRegistrar Node Label}

omit [DecidableEq Node] [DecidableEq Label] in
/-- Who may act on the token is trusted. -/
theorem Holds.trusted_of_authorized (hholds : Holds d address id owner trusted world)
    (hbefore : world.registrars address = some before)
    (hauthority : before.IsAuthorized (before.owners id) sender id) : trusted sender := by
  obtain ⟨registrar, hregistrar, hholder, happroval, -⟩ := hholds.token
  obtain rfl := Option.some.inj (hbefore.symm.trans hregistrar)
  obtain ⟨hnonzero, hsame | hoperator | htoken⟩ := hauthority
  · exact hholds.trusts sender (.inl (hsame.symm.trans hholder))
  · rw [hholder] at hoperator
    exact hholds.trusts sender (.inr (.inr ⟨before, hbefore, hoperator⟩))
  · exact absurd (htoken.symm.trans happroval) hnonzero

omit [DecidableEq Node] [DecidableEq Label] in
/-- Who may act on the node is trusted. -/
theorem Holds.trusted_of_authorised (hholds : Holds d address id owner trusted world)
    (hbefore : world.registrars address = some before)
    (hauthorised : world.registry.Authorised (d.subnode before.baseNode id) sender) :
    trusted sender := by
  obtain ⟨registrar, hregistrar, -, -, hnode⟩ := hholds.token
  obtain rfl := Option.some.inj (hbefore.symm.trans hregistrar)
  unfold ArcRegistry.Authorised at hauthorised
  rw [hnode] at hauthorised
  rcases hauthorised with hsame | hoperator
  · exact hholds.trusts sender (.inl hsame.symm)
  · exact hholds.trusts sender (.inr (.inl hoperator))

/-- What a stranger's frame leaves in the registry and the resolver. -/
theorem stranger_node (hdeployed : Deployed d world)
    (hholds : Holds d address id owner trusted world)
    (hbefore : world.registrars address = some before) (hregistered : before.Registered id)
    (hbase : (world.registry.records before.baseNode).owner = address)
    (hterm : ¬ before.Lapsed frame.timestamp id) (hstranger : ¬ trusted frame.sender) :
    (step d world frame).registry.records (d.subnode before.baseNode id) =
        world.registry.records (d.subnode before.baseNode id) ∧
      (step d world frame).registry.operators owner = world.registry.operators owner ∧
      (step d world frame).resolver.recordsOf (d.subnode before.baseNode id) =
        world.resolver.recordsOf (d.subnode before.baseNode id) := by
  have howner : owner ≠ frame.sender := fun hsame => hstranger (hholds.trusts _ (.inl hsame.symm))
  refine step_effect (fun next =>
    next.registry.records (d.subnode before.baseNode id) =
        world.registry.records (d.subnode before.baseNode id) ∧
      next.registry.operators owner = world.registry.operators owner ∧
      next.resolver.recordsOf (d.subnode before.baseNode id) =
        world.resolver.recordsOf (d.subnode before.baseNode id)) ⟨rfl, rfl, rfl⟩
    fun next hsends heffect => ?_
  cases heffect with
  | registry call registry hmessage hwrites =>
      refine ⟨?_, hwrites.operators owner howner, rfl⟩
      rcases hwrites.records (d.subnode before.baseNode id) with hsame | hauthorised |
        ⟨parent, label, hnode, hauthorised⟩
      · exact hsame
      · exact absurd (hholds.trusted_of_authorised hbefore hauthorised) hstranger
      · -- the parent is the node of the namespace, which only the registrar writes below
        obtain ⟨hparent, -⟩ := d.subnode_inj hnode
        rw [← hparent, hdeployed.authorised_iff hbefore hbase] at hauthorised
        rw [hauthorised, hdeployed.silent hbefore] at hsends
        cases hsends
  | resolver call resolver hmessage hwrites =>
      refine ⟨rfl, rfl, (hwrites _).resolve_right fun hresolves => hstranger ?_⟩
      exact hholds.trusted_of_authorised hbefore hresolves.2
  | registrar other call registrar next hmessage hregistrar heffect =>
      obtain ⟨hoperators, hrecords⟩ := heffect.registry
      have hresolver : next.resolver = world.resolver := by rw [heffect.frame.1]
      refine ⟨?_, by rw [hoperators], by rw [hresolver]⟩
      rcases hrecords (d.subnode before.baseNode id) with hsame | ⟨hnode, -⟩ |
        ⟨written, hnode, hauthorised, hauthority⟩
      · exact hsame
      · obtain ⟨hash, hroot, -⟩ := hdeployed.registrar_recorded other registrar hregistrar
        exact absurd (hnode.trans hroot) (hdeployed.subnode_ne hbefore id hash)
      · obtain ⟨hparent, rfl⟩ := d.subnode_inj hnode
        rw [← hparent, hdeployed.authorised_iff hbefore hbase] at hauthorised
        subst hauthorised
        obtain rfl := Option.some.inj (hbefore.symm.trans hregistrar)
        rcases hauthority with hauthority | ⟨-, havailable⟩
        · exact absurd (hholds.trusted_of_authorized hbefore hauthority) hstranger
        · exact absurd (hregistered.lapsed havailable) hterm
  | root call next hmessage heffect =>
      rcases heffect.opens_or with ⟨created, hash, _, _, _, _, hopens, -⟩ | ⟨hsame, -⟩
      · refine ⟨?_, ?_, by rw [hopens.resolver]⟩
        · have hne := hdeployed.subnode_ne hbefore id hash
          rw [hopens.registry, ArcRegistry.setResolver_of_ne _ _ hne,
            ArcRegistry.setOwner_of_ne _ _ hne]
        · rw [hopens.registry]
          rfl
      · rw [hsame]
        exact ⟨rfl, rfl, rfl⟩
  | _ => exact ⟨rfl, rfl, rfl⟩

/-- The registrar after a frame, with its node. -/
theorem step_baseNode {after : NamespaceRegistrar Node Label}
    (hbefore : world.registrars address = some before)
    (hafter : (step d world frame).registrars address = some after) :
    after.baseNode = before.baseNode := by
  revert hafter
  have hsame : world.registrars address = some after → after.baseNode = before.baseNode := by
    intro hafter
    rw [Option.some.inj (hbefore.symm.trans hafter)]
  refine step_effect (fun next => next.registrars address = some after →
    after.baseNode = before.baseNode) hsame fun next _ heffect => ?_
  cases heffect with
  | registrar other call registrar next _ hregistrar heffect =>
      obtain ⟨written, hregistrars, hbase⟩ := heffect.registrars hregistrar
      rw [hregistrars]
      by_cases hother : address = other
      · subst hother
        obtain rfl := Option.some.inj (hbefore.symm.trans hregistrar)
        rw [Function.update_self]
        exact fun hafter => Option.some.inj hafter ▸ hbase
      · rw [Function.update_of_ne hother]
        exact hsame
  | root call next _ heffect =>
      rcases heffect.opens_or with ⟨created, _, _, _, _, _, hopens, -⟩ | ⟨hroot, -⟩
      · have hfresh := (isContract_eq_false (isFresh_iff.mp hopens.registrar_fresh).1).2.2.1
        rw [hopens.registrars, Function.update_of_ne]
        · exact hsame
        · rintro rfl
          rw [hfresh] at hbefore
          cases hbefore
      · rw [hroot]
        exact hsame
  | _ => exact hsame

/-- A frame of a stranger leaves the name untouched and with its owner. -/
theorem stranger_step (hdeployed : Deployed d world)
    (hholds : Holds d address id owner trusted world)
    (hbefore : world.registrars address = some before) (hregistered : before.Registered id)
    (hundisturbed : Undisturbed d address id owner trusted world frame)
    (hstranger : ¬ trusted frame.sender) :
    Untouched d address id trusted world frame ∧
      Holds d address id owner trusted (step d world frame) := by
  obtain ⟨registrar, hregistrar, hholder, happroval, hnode⟩ := hholds.token
  obtain rfl := Option.some.inj (hbefore.symm.trans hregistrar)
  have hname : ∃ after, (step d world frame).registrars address = some after ∧
      after.Registered id ∧ NameKept d address id world frame before after :=
    step_nameKept hbefore hregistered
  obtain ⟨after, hafter, -, hkept⟩ := hname
  have hterm := hundisturbed.term before hbefore
  obtain ⟨hrecord, hoperators, hresolver⟩ := stranger_node hdeployed hholds hbefore hregistered
    (hundisturbed.base before hbefore) hterm hstranger
  have hbase := step_baseNode hbefore hafter
  have howners : after.owners id = before.owners id := by
    by_contra hne
    rcases hkept.owner hne with ⟨_, -, -, hauthority⟩ | ⟨_, _, -, hlapsed⟩
    · exact hstranger (hholds.trusted_of_authorized hbefore hauthority)
    · exact hterm hlapsed
  have happrovals : after.tokenApprovals id = before.tokenApprovals id := by
    by_contra hne
    rcases hkept.approval hne with hzero | ⟨_, -, -, hsame | hoperator⟩
    · exact hne (hzero.trans happroval.symm)
    · exact hstranger (hholds.trusts _ (.inl (hsame.symm.trans hholder)))
    · rw [hholder] at hoperator
      exact hstranger (hholds.trusts _ (.inr (.inr ⟨before, hbefore, hoperator⟩)))
  have htrusts : after.operatorApprovals owner = before.operatorApprovals owner := by
    by_contra hne
    exact hstranger (hholds.trusts _ (.inl (hkept.operators owner hne).symm))
  have hexpiry : before.expiries id ≤ after.expiries id := by
    by_contra hlt
    rcases hkept.expiry (by omega) with ⟨_, -, hlonger⟩ | ⟨_, _, -, hlapsed⟩
    · omega
    · exact hterm hlapsed
  refine ⟨fun _ => ⟨before, after, hbefore, hafter, howners, happrovals, hexpiry, hbase, hrecord,
    hresolver⟩, ⟨after, hafter, howners.trans hholder, happrovals.trans happroval, ?_⟩, ?_⟩
  · rw [hbase, hrecord]
    exact hnode
  · rintro account (hself | hoperator | ⟨second, hsecond, hoperator⟩)
    · exact hholds.trusts account (.inl hself)
    · rw [hoperators] at hoperator
      exact hholds.trusts account (.inr (.inl hoperator))
    · obtain rfl := Option.some.inj (hafter.symm.trans hsecond)
      rw [htrusts] at hoperator
      exact hholds.trusts account (.inr (.inr ⟨before, hbefore, hoperator⟩))

/-- Whoever acts, the owner keeps the name. -/
theorem along_untouched (hdeployed : Deployed d world)
    (hholds : Holds d address id owner trusted world)
    (hbefore : world.registrars address = some before) (hregistered : before.Registered id)
    {history : List (Frame Node Label)}
    (hundisturbed :
      Sequence.Along (step d) (Undisturbed d address id owner trusted) history world) :
    Sequence.Along (step d) (Untouched d address id trusted) history world := by
  let invariant : World Node Label → Prop := fun world =>
    Deployed d world ∧ Holds d address id owner trusted world ∧
      ∃ registrar, world.registrars address = some registrar ∧ registrar.Registered id
  refine @Sequence.along_of_invariant _ _ (step d) invariant _ _ ?_ history world
    ⟨hdeployed, hholds, before, hbefore, hregistered⟩ hundisturbed
  rintro world frame ⟨hdeployed, hholds, registrar, hregistrar, hregistered⟩ hundisturbed
  have hname : ∃ after, (step d world frame).registrars address = some after ∧
      after.Registered id ∧ NameKept d address id world frame registrar after :=
    step_nameKept hregistrar hregistered
  obtain ⟨after, hafter, hstill, -⟩ := hname
  by_cases htrusted : trusted frame.sender
  · exact ⟨fun hstranger => absurd htrusted hstranger, step_deployed hdeployed,
      hundisturbed.quiet htrusted, after, hafter, hstill⟩
  · obtain ⟨huntouched, hnext⟩ :=
      stranger_step hdeployed hholds hregistrar hregistered hundisturbed htrusted
    exact ⟨huntouched, step_deployed hdeployed, hnext, after, hafter, hstill⟩

end Strangers

/-! ## Buying a lapsed name -/

omit [DecidableEq Node] [DecidableEq Label] in
/-- From a world in which it was handed over, a name is with its owner and those it trusts. -/
theorem HandedOver.holds {registrar : NamespaceRegistrar Node Label}
    (hhanded : HandedOver d address id owner now world registrar) :
    Holds d address id owner (Trusts address owner world) world :=
  ⟨⟨registrar, hhanded.deployed, hhanded.holder, hhanded.approval, hhanded.node⟩,
    fun _ htrusts => htrusts⟩

omit [DecidableEq Node] [DecidableEq Label] in
theorem HandedOver.registered {registrar : NamespaceRegistrar Node Label}
    (hhanded : HandedOver d address id owner now world registrar) : registrar.Registered id := by
  have hread := hhanded.ownerOf
  rw [Registrar.ownerOf, Registrar.bind_load_ok] at hread
  obtain ⟨second, hsecond, hchecks⟩ := hread
  obtain rfl := Option.some.inj (hhanded.deployed.symm.trans hsecond)
  obtain ⟨hterm, hheld, -⟩ := Call.bind_revertIf_ok.mp hchecks |>.imp_right
    Call.bind_revertIf_ok.mp
  exact ⟨by omega, hheld⟩

namespace Controller

variable {outside : Outside Node Label} {purchase : Purchase} {value : Node × ℕ}

/-- A purchase of a name that had a holder comes to a state in which the name is handed over;
all that follows it in the call is the question to the receiver. -/
theorem register_handedOver (hreachable : Reachable d world) (houtside : outside.ByFrames d)
    {controller : NamespaceController Label} {registrar : NamespaceRegistrar Node Label}
    (hcontroller : world.controllers self = some controller)
    (hregistrar : world.registrars controller.registrar = some registrar)
    (hheld : registrar.owners (d.labelhash purchase.label) ≠ 0)
    (hrun : (register d outside self sender now purchase).run world = .ok (value, next)) :
    ∃ handed after registrar, Reaches d world handed ∧
      HandedOver d controller.registrar (d.labelhash purchase.label) purchase.owner now handed
        registrar ∧
      (after = handed ∨ outside (.onERC721Received purchase.owner self self
        (d.labelhash purchase.label)) handed = some after) ∧
      next = after.enter self false := by
  have hself : self ≠ 0 := by
    rintro rfl
    rw [hreachable.deployed.controller_ne_zero] at hcontroller
    cases hcontroller
  have hisSome : (world.controllers self).isSome = true := by
    rw [hcontroller]
    rfl
  obtain ⟨found, paidRegistrar, price, paid, after, hfound, -, hcollected, hpaid, -, hsold, rfl⟩ :=
    register_ok hrun
  obtain rfl := Option.some.inj (hcontroller.symm.trans hfound)
  -- up to the payment
  have hentered : Evolves d self world (world.enter self true) :=
    Message.evolves hself now (.entered true) world PUnit.unit _ rfl
  have hcollect := hcollected.evolves hself
  have hregistrars : paid.registrars = world.registrars := by
    cases hcollected <;> rfl
  rw [hregistrars] at hpaid
  obtain rfl := Option.some.inj (hregistrar.symm.trans hpaid)
  have hbuys : ∀ {buyer : Address} {bought : World Node Label},
      (Registrar.register d controller.registrar self now (d.labelhash purchase.label) buyer
        purchase.duration).run paid = .ok (value.2, bought) → Evolves d self paid bought := by
    intro buyer bought hbought
    exact Message.evolves hself now (.registrar controller.registrar
      (.register (d.labelhash purchase.label) buyer purchase.duration)) _ PUnit.unit _
        (Call.bind_ok.mpr ⟨_, _, hbought, rfl⟩)
  rcases hsold with ⟨-, hsold⟩ | ⟨-, hsold⟩
  · obtain ⟨bought, prepared, handed, -, hbought, hprepared, htransfer, hasked⟩ :=
      registerWithResolver_ok hsold
    obtain ⟨final, hfinal⟩ := transferFrom_handedOver hself htransfer
    have hprepare := prepare_evolves hself houtside purchase _ _ _ _ _ hprepared
    have hhand : Evolves d self prepared handed := Message.evolves hself now
      (.registrar controller.registrar (.transferFrom self purchase.owner
        (d.labelhash purchase.label))) _ () _ htransfer
    have hreaches := hentered.trans (hcollect.trans ((hbuys hbought).trans (hprepare.trans hhand)))
    exact ⟨handed, after, final, hreaches hisSome, hfinal, .inr hasked, rfl⟩
  · obtain ⟨final, hfinal⟩ := Ans.register_handedOver (hregistrars ▸ hregistrar) hheld hsold
    exact ⟨after, after, final, hentered.trans (hcollect.trans (hbuys hsold)) hisSome, hfinal,
      .inl rfl, rfl⟩

end Controller

/-- A name that had a holder and is bought from the controller is handed over to the new
owner, and then nobody the new owner does not trust touches it, while the new owner neither
gives it away nor trusts anybody new and the name does not lapse. -/
theorem reregistration_hands_over {outside : Outside Node Label} {purchase : Purchase}
    {value : Node × ℕ} (hreachable : Reachable d world) (houtside : outside.ByFrames d)
    {controller : NamespaceController Label} {registrar : NamespaceRegistrar Node Label}
    (hcontroller : world.controllers self = some controller)
    (hregistrar : world.registrars controller.registrar = some registrar)
    (hheld : registrar.owners (d.labelhash purchase.label) ≠ 0)
    (hrun : (Controller.register d outside self sender now purchase).run world =
      .ok (value, next)) :
    ∃ handed after registrar, Reaches d world handed ∧
      HandedOver d controller.registrar (d.labelhash purchase.label) purchase.owner now handed
        registrar ∧
      (after = handed ∨ outside (.onERC721Received purchase.owner self self
        (d.labelhash purchase.label)) handed = some after) ∧
      next = after.enter self false ∧
      ∀ history, Sequence.Along (step d) (Undisturbed d controller.registrar
          (d.labelhash purchase.label) purchase.owner
          (Trusts controller.registrar purchase.owner handed)) history handed →
        Sequence.Along (step d) (Untouched d controller.registrar (d.labelhash purchase.label)
          (Trusts controller.registrar purchase.owner handed)) history handed := by
  obtain ⟨handed, after, final, hreaches, hhanded, hasked, hnext⟩ :=
    Controller.register_handedOver hreachable houtside hcontroller hregistrar hheld hrun
  refine ⟨handed, after, final, hreaches, hhanded, hasked, hnext, fun history hundisturbed => ?_⟩
  exact along_untouched (hreaches.deployed hreachable.deployed) hhanded.holds hhanded.deployed
    hhanded.registered hundisturbed

/-- "alice" was registered for a second; its holder named an operator in the registry and a
spender of the token. The buyer has approved the controller for the rent. -/
def exampleLapsed : World (List (List UInt8)) (List UInt8) :=
  Sequence.run (step Deployment.lowAddresses)
    [exampleCreation, ⟨1001, 1700000010, .registrar 20 (.setController 1001 true)⟩,
      ⟨1001, 1700000020, .registrar 20 (.register [0x61, 0x6C, 0x69, 0x63, 0x65] 1002 100)⟩,
      ⟨1002, 1700000030, .registry (.setApprovalForAll 1004 true)⟩,
      ⟨1002, 1700000040, .registrar 20 (.approve 1004 [0x61, 0x6C, 0x69, 0x63, 0x65])⟩,
      ⟨1001, 1700000050, .token 1 (.approve 21 100000000)⟩] exampleWorld

/-- A year of "alice" for account 1003. -/
def examplePurchase : Purchase where
  label := [0x61, 0x6C, 0x69, 0x63, 0x65]
  owner := 1003
  duration := 31536000
  resolver := 0
  resolvedAddress := 0
  textKeys := []
  textValues := []

theorem reregistration_hands_over_alice :
    ∃ handed registrar, HandedOver Deployment.lowAddresses 20 [0x61, 0x6C, 0x69, 0x63, 0x65] 1003
        1800000000 handed registrar ∧
      ∀ history, Sequence.Along (step Deployment.lowAddresses) (Undisturbed Deployment.lowAddresses
          20 [0x61, 0x6C, 0x69, 0x63, 0x65] 1003 (Trusts 20 1003 handed)) history handed →
        Sequence.Along (step Deployment.lowAddresses) (Untouched Deployment.lowAddresses 20
          [0x61, 0x6C, 0x69, 0x63, 0x65] (Trusts 20 1003 handed)) history handed := by
  have hreachable : Reachable Deployment.lowAddresses exampleLapsed :=
    ⟨1000, 10, 3, 1000, exampleLedgers, PUnit.unit, exampleWorld, by decide, rfl, _, rfl⟩
  have hcontroller : exampleLapsed.controllers 21 =
      some ⟨20, [0x75, 0x73, 0x64, 0x63], false⟩ := by decide +kernel
  obtain ⟨registrar, hregistrar, hholder⟩ : ∃ registrar,
      exampleLapsed.registrars 20 = some registrar ∧
        registrar.owners [0x61, 0x6C, 0x69, 0x63, 0x65] = 1002 := by
    rw [← Option.map_eq_some_iff]
    decide +kernel
  obtain ⟨value, next, hrun⟩ := Call.succeeds_iff.mp (show (Controller.register
    Deployment.lowAddresses (fun _ _ => none) 21 1001 1800000000 examplePurchase).succeeds
      exampleLapsed = true by decide +kernel)
  have houtside : Outside.ByFrames Deployment.lowAddresses (fun _ _ => none) :=
    fun _ _ _ hnone => nomatch hnone
  have hheld : registrar.owners (Deployment.lowAddresses.labelhash examplePurchase.label) ≠ 0 :=
    hholder.trans_ne (by decide)
  obtain ⟨handed, _, final, -, hhanded, -, -, huntouched⟩ :=
    reregistration_hands_over hreachable houtside hcontroller hregistrar hheld hrun
  exact ⟨handed, final, hhanded, huntouched⟩

end WizPay.Ans
