import WizPay.Ans.Deployed
import WizPay.Evm.Solvency

/-!
# Namespaces do not reach each other

An account without a role in a namespace leaves it as it is, whatever is called in whatever
order: its nodes and their records, its registrar, what it charges and its vault. Owning
another namespace is no role in this one.
-/

namespace WizPay.Ans

open Foundation Evm

variable {Node Label : Type}

/-! ## The tree of names -/

/-- A node and all nodes below it. -/
inductive Namehash.Below (names : Namehash Node Label) (base : Node) : Node → Prop
  | base : names.Below base base
  | sub {node : Node} (label : Label) (hnode : names.Below base node) :
      names.Below base (names.subnode node label)

namespace Namehash

variable {names : Namehash Node Label} {base node : Node} {hash other label : Label}

theorem below_subnode (hbelow : names.Below base (names.subnode node label)) :
    names.subnode node label = base ∨ names.Below base node := by
  generalize hsub : names.subnode node label = sub at hbelow
  cases hbelow with
  | base => exact .inl rfl
  | sub label hparent =>
      rw [(names.subnode_inj hsub).1]
      exact .inr hparent

theorem Below.ne_root (hbelow : names.Below (names.namespaceNode hash) node) :
    node ≠ names.root := by
  cases hbelow with
  | base => exact names.subnode_ne_root _ _
  | sub label _ => exact names.subnode_ne_root _ _

theorem eq_of_below_namespaceNode
    (hbelow : names.Below (names.namespaceNode hash) (names.namespaceNode other)) :
    other = hash := by
  rcases below_subnode hbelow with hsame | hroot
  · exact (names.subnode_inj hsame).2
  · exact absurd rfl hroot.ne_root

/-- A name is below its own namespace only. -/
theorem eq_of_below_name (hbelow : names.Below (names.namespaceNode hash)
    (names.subnode (names.namespaceNode other) label)) : other = hash := by
  rcases below_subnode hbelow with hsame | hparent
  · exact absurd (names.subnode_inj hsame).1 (names.subnode_ne_root _ _)
  · exact eq_of_below_namespaceNode hparent

end Namehash

/-! ## Roles -/

/-- An account that neither runs a registrar nor may act on one of its tokens. -/
structure NamespaceRegistrar.Unrelated (registrar : NamespaceRegistrar Node Label)
    (account : Address) : Prop where
  owner : account ≠ registrar.owner
  controllers : registrar.controllers account = false
  tokens : ∀ id, ¬ registrar.IsAuthorized (registrar.owners id) account id

/-- A registrar is the same but for what accounts outside let others do for themselves. -/
structure NamespaceRegistrar.Same (outside : Address → Prop)
    (before after : NamespaceRegistrar Node Label) : Prop where
  baseNode : after.baseNode = before.baseNode
  owner : after.owner = before.owner
  owners : after.owners = before.owners
  tokenApprovals : after.tokenApprovals = before.tokenApprovals
  expiries : after.expiries = before.expiries
  controllers : after.controllers = before.controllers
  operatorApprovals : ∀ holder, ¬ outside holder →
    after.operatorApprovals holder = before.operatorApprovals holder

namespace NamespaceRegistrar.Same

variable {outside wider : Address → Prop} {before middle after : NamespaceRegistrar Node Label}

theorem refl (registrar : NamespaceRegistrar Node Label) : registrar.Same outside registrar :=
  ⟨rfl, rfl, rfl, rfl, rfl, rfl, fun _ _ => rfl⟩

theorem trans (hfirst : before.Same outside middle) (hsecond : middle.Same outside after) :
    before.Same outside after where
  baseNode := hsecond.baseNode.trans hfirst.baseNode
  owner := hsecond.owner.trans hfirst.owner
  owners := hsecond.owners.trans hfirst.owners
  tokenApprovals := hsecond.tokenApprovals.trans hfirst.tokenApprovals
  expiries := hsecond.expiries.trans hfirst.expiries
  controllers := hsecond.controllers.trans hfirst.controllers
  operatorApprovals holder hholder :=
    (hsecond.operatorApprovals holder hholder).trans (hfirst.operatorApprovals holder hholder)

theorem mono (hsame : before.Same outside after) (hwider : ∀ account, outside account → wider account) :
    before.Same wider after :=
  { hsame with
    operatorApprovals := fun holder hholder =>
      hsame.operatorApprovals holder fun houtside => hholder (hwider holder houtside) }

/-- Who has no role with a registrar gets none from others who have none. -/
theorem unrelated (hsame : before.Same outside after)
    (houtside : ∀ account, outside account → account ≠ 0 ∧ before.Unrelated account)
    {account : Address} (haccount : before.Unrelated account) : after.Unrelated account where
  owner := by
    rw [hsame.owner]
    exact haccount.owner
  controllers := by
    rw [hsame.controllers]
    exact haccount.controllers
  tokens id := by
    intro hauthority
    -- the holder may act on the token, so its operators are its own
    have hholder : ¬ outside (before.owners id) := fun hout =>
      (houtside _ hout).2.tokens id ⟨(houtside _ hout).1, .inl rfl⟩
    unfold IsAuthorized at hauthority
    rw [hsame.owners, hsame.tokenApprovals, hsame.operatorApprovals _ hholder] at hauthority
    exact haccount.tokens id hauthority

end NamespaceRegistrar.Same

section Isolation

variable (d : Deployment Node Label) (hash : Label)

/-- An account with no role in a namespace: it does not own the root registry, acts for
nobody who owns the root node, the namespace, one of its nodes or its tokens, and has no
hold on its vault. -/
structure Outsider (world : World Node Label) (account : Address) : Prop where
  nonzero : account ≠ 0
  rootOwner : account ≠ world.rootRegistry.owner
  rootNode : ¬ world.registry.Authorised d.root account
  owner : account ≠ (world.rootRegistry.namespaceRecords hash).owner
  nodes : ∀ node, d.Below (d.namespaceNode hash) node → ¬ world.registry.Authorised node account
  registrar : ∀ registrar,
    world.registrars (world.rootRegistry.namespaceRecords hash).registrar = some registrar →
      registrar.Unrelated account
  vault : account ≠ (world.rootRegistry.namespaceRecords hash).vault
  vaultOwner : world.vaults (world.rootRegistry.namespaceRecords hash).vault ≠ some account
  allowance : ∀ token,
    world.ledgers.allowance token (world.rootRegistry.namespaceRecords hash).vault account = 0

/-- The vault of a namespace is somebody's: no contract of a later namespace comes to stand
at its address. -/
def HasVault (world : World Node Label) : Prop :=
  d.external (world.rootRegistry.namespaceRecords hash).vault = true ∨
    (world.vaults (world.rootRegistry.namespaceRecords hash).vault).isSome = true

/-- Between two worlds only accounts outside acted, and the namespace is as it was. -/
structure Isolated (outside : Address → Prop) (before after : World Node Label) : Prop where
  rootOwner : after.rootRegistry.owner = before.rootRegistry.owner
  rootNode : after.registry.records d.root = before.registry.records d.root
  record : after.rootRegistry.namespaceRecords hash = before.rootRegistry.namespaceRecords hash
  pricing : after.rootRegistry.pricingConfigs hash = before.rootRegistry.pricingConfigs hash
  promo : after.rootRegistry.promoConfigs hash = before.rootRegistry.promoConfigs hash
  nodes : ∀ node, d.Below (d.namespaceNode hash) node →
    after.registry.records node = before.registry.records node
  operators : ∀ account, ¬ outside account →
    after.registry.operators account = before.registry.operators account
  resolver : ∀ node, d.Below (d.namespaceNode hash) node →
    after.resolver.recordsOf node = before.resolver.recordsOf node
  registrar : ∀ registrar,
    before.registrars (before.rootRegistry.namespaceRecords hash).registrar = some registrar →
      ∃ same, after.registrars (before.rootRegistry.namespaceRecords hash).registrar = some same ∧
        registrar.Same outside same
  vaultOwner : after.vaults (before.rootRegistry.namespaceRecords hash).vault =
    before.vaults (before.rootRegistry.namespaceRecords hash).vault
  balance : ∀ token,
    before.ledgers.balance token (before.rootRegistry.namespaceRecords hash).vault ≤
      after.ledgers.balance token (before.rootRegistry.namespaceRecords hash).vault
  allowance : ∀ token,
    after.ledgers.allowance token (before.rootRegistry.namespaceRecords hash).vault =
      before.ledgers.allowance token (before.rootRegistry.namespaceRecords hash).vault

end Isolation

section Roles

variable {d : Deployment Node Label} {hash : Label} {outside wider : Address → Prop}
  {before middle after : World Node Label}

namespace Isolated

theorem refl (world : World Node Label) : Isolated d hash outside world world where
  rootOwner := rfl
  rootNode := rfl
  record := rfl
  pricing := rfl
  promo := rfl
  nodes _ _ := rfl
  operators _ _ := rfl
  resolver _ _ := rfl
  registrar registrar hregistrar := ⟨registrar, hregistrar, .refl registrar⟩
  vaultOwner := rfl
  balance _ := le_rfl
  allowance _ := rfl

theorem trans (hfirst : Isolated d hash outside before middle)
    (hsecond : Isolated d hash outside middle after) : Isolated d hash outside before after where
  rootOwner := hsecond.rootOwner.trans hfirst.rootOwner
  rootNode := hsecond.rootNode.trans hfirst.rootNode
  record := hsecond.record.trans hfirst.record
  pricing := hsecond.pricing.trans hfirst.pricing
  promo := hsecond.promo.trans hfirst.promo
  nodes node hbelow := (hsecond.nodes node hbelow).trans (hfirst.nodes node hbelow)
  operators account hinside :=
    (hsecond.operators account hinside).trans (hfirst.operators account hinside)
  resolver node hbelow := (hsecond.resolver node hbelow).trans (hfirst.resolver node hbelow)
  registrar registrar hregistrar := by
    obtain ⟨same, hsame, hkept⟩ := hfirst.registrar registrar hregistrar
    rw [← hfirst.record] at hsame ⊢
    obtain ⟨last, hlast, hlastKept⟩ := hsecond.registrar same hsame
    exact ⟨last, hlast, hkept.trans hlastKept⟩
  vaultOwner := by
    rw [← hfirst.vaultOwner, ← hfirst.record]
    exact hsecond.vaultOwner
  balance token := by
    apply (hfirst.balance token).trans
    rw [← hfirst.record]
    exact hsecond.balance token
  allowance token := by
    rw [← hfirst.allowance token, ← hfirst.record]
    exact hsecond.allowance token

theorem mono (hisolated : Isolated d hash outside before after)
    (hwider : ∀ account, outside account → wider account) : Isolated d hash wider before after :=
  { hisolated with
    operators := fun account hinside =>
      hisolated.operators account fun houtside => hinside (hwider account houtside)
    registrar := fun registrar hregistrar => by
      obtain ⟨same, hsame, hkept⟩ := hisolated.registrar registrar hregistrar
      exact ⟨same, hsame, hkept.mono hwider⟩ }

/-- Who has no role gets none from others who have none. -/
theorem outsider (hisolated : Isolated d hash outside before after)
    (houtside : ∀ account, outside account → Outsider d hash before account)
    {registrar : NamespaceRegistrar Node Label}
    (hregistrar : before.registrars (before.rootRegistry.namespaceRecords hash).registrar =
      some registrar) {account : Address} (haccount : Outsider d hash before account) :
    Outsider d hash after account := by
  -- who owns a node that outsiders have no authority over is no outsider
  have hauthorised : ∀ node, after.registry.records node = before.registry.records node →
      (∀ other, Outsider d hash before other → ¬ before.registry.Authorised node other) →
        ¬ after.registry.Authorised node account := by
    intro node hnode hnobody hauthorised
    have howner : ¬ outside (before.registry.records node).owner := fun hout =>
      hnobody _ (houtside _ hout) (.inl rfl)
    unfold ArcRegistry.Authorised at hauthorised
    rw [hnode, hisolated.operators _ howner] at hauthorised
    exact hnobody account haccount hauthorised
  constructor
  · exact haccount.nonzero
  · rw [hisolated.rootOwner]
    exact haccount.rootOwner
  · exact hauthorised d.root hisolated.rootNode fun other hother => hother.rootNode
  · rw [hisolated.record]
    exact haccount.owner
  · intro node hbelow
    exact hauthorised node (hisolated.nodes node hbelow) fun other hother => hother.nodes node hbelow
  · intro last hlast
    obtain ⟨same, hsame, hkept⟩ := hisolated.registrar registrar hregistrar
    rw [hisolated.record, hsame] at hlast
    cases hlast
    apply hkept.unrelated
    · intro other hother
      exact ⟨(houtside other hother).nonzero, (houtside other hother).registrar registrar hregistrar⟩
    · exact haccount.registrar registrar hregistrar
  · rw [hisolated.record]
    exact haccount.vault
  · rw [hisolated.record, hisolated.vaultOwner]
    exact haccount.vaultOwner
  · intro token
    rw [hisolated.record, hisolated.allowance token]
    exact haccount.allowance token

end Isolated

end Roles

/-! ## One step -/

section Step

variable [DecidableEq Node] [DecidableEq Label]
variable {d : Deployment Node Label} {hash : Label} {world next : World Node Label}
  {frame : Frame Node Label} {sender self : Address} {registrar : NamespaceRegistrar Node Label}

/-- What an unrelated account does to a registrar. -/
theorem RegistrarEffect.same {now : ℕ} {call : RegistrarCall Label}
    (heffect : RegistrarEffect d sender now self registrar world call next)
    (hsender : sender ≠ 0) (hunrelated : registrar.Unrelated sender) :
    ∃ same, next.registrars self = some same ∧ registrar.Same (· = sender) same := by
  have htoken : ∀ {id : Label}, registrar.owners id = sender ∨
      registrar.operatorApprovals (registrar.owners id) sender = true → False := by
    intro id hauthority
    apply hunrelated.tokens id
    exact ⟨hsender, hauthority.imp_right .inl⟩
  cases heffect with
  | approve approved id howned hauthority => exact (htoken hauthority).elim
  | setApprovalForAll operator approved =>
      refine ⟨_, setRegistrar_self .., rfl, rfl, rfl, rfl, rfl, rfl, fun holder hholder => ?_⟩
      exact Function.update_of_ne hholder ..
  | transferFrom target id htarget hterm hauthority hnode =>
      exact absurd hauthority (hunrelated.tokens id)
  | safeTransferFrom target id htarget hterm hauthority hnode =>
      exact absurd hauthority (hunrelated.tokens id)
  | reclaim id owner howner hterm howned hauthority hnode =>
      exact absurd hauthority (hunrelated.tokens id)
  | register id owner duration hcontroller =>
      rw [hunrelated.controllers] at hcontroller
      cases hcontroller
  | renew id duration hcontroller =>
      rw [hunrelated.controllers] at hcontroller
      cases hcontroller
  | setController | setResolver | transferOwnership | renounceOwnership =>
      exact absurd ‹sender = registrar.owner› hunrelated.owner

/-- What an outsider does to the registrar of the namespace. -/
theorem FrameEffect.spares_registrar (hsends : world.sends d frame.sender = true)
    (houtsider : Outsider d hash world frame.sender) (heffect : FrameEffect d world frame next)
    (hregistrar : world.registrars (world.rootRegistry.namespaceRecords hash).registrar =
      some registrar) :
    ∃ same, next.registrars (world.rootRegistry.namespaceRecords hash).registrar = some same ∧
      registrar.Same (· = frame.sender) same := by
  cases heffect with
  | registrar self call found next hmessage hfound heffect =>
      by_cases hself : (world.rootRegistry.namespaceRecords hash).registrar = self
      · rw [hself] at hregistrar ⊢
        cases hfound.symm.trans hregistrar
        apply heffect.same (sends_ne_zero hsends)
        apply houtsider.registrar
        rw [hself]
        exact hfound
      · rw [heffect.frame.2 _ hself]
        exact ⟨registrar, hregistrar, .refl registrar⟩
  | root call next hmessage heffect =>
      rcases heffect.opens_or with ⟨created, _, _, _, _, _, hopens, -⟩ | ⟨hsame, -⟩
      · -- the new registrar is at an address where none was
        have hfresh := (isContract_eq_false (isFresh_iff.mp hopens.registrar_fresh).1).2.2.1
        rw [hopens.registrars, Function.update_of_ne]
        · exact ⟨registrar, hregistrar, .refl registrar⟩
        · intro hclash
          rw [hclash, hfresh] at hregistrar
          cases hregistrar
      · rw [hsame]
        exact ⟨registrar, hregistrar, .refl registrar⟩
  | _ => exact ⟨registrar, hregistrar, .refl registrar⟩

/-- What an outsider does to the nodes. -/
theorem FrameEffect.spares_nodes (hdeployed : Deployed d world) (hexists : world.rootRegistry.Exists hash)
    (houtsider : Outsider d hash world frame.sender) (heffect : FrameEffect d world frame next) :
    next.registry.records d.root = world.registry.records d.root ∧
      (∀ account, account ≠ frame.sender →
        next.registry.operators account = world.registry.operators account) ∧
      ∀ node, d.Below (d.namespaceNode hash) node →
        next.registry.records node = world.registry.records node ∧
          next.resolver.recordsOf node = world.resolver.recordsOf node := by
  cases heffect with
  | registry call registry hmessage hwrites =>
      refine ⟨?_, hwrites.operators, fun node hbelow => ⟨?_, rfl⟩⟩
      · rcases hwrites.records d.root with hsame | hauthorised | ⟨parent, label, hroot, -⟩
        · exact hsame
        · exact absurd hauthorised houtsider.rootNode
        · exact absurd hroot.symm (d.subnode_ne_root _ _)
      · rcases hwrites.records node with hsame | hauthorised | ⟨parent, label, hnode, hauthorised⟩
        · exact hsame
        · exact absurd hauthorised (houtsider.nodes node hbelow)
        · -- the parent is the root or below the namespace itself
          rw [hnode] at hbelow
          rcases Namehash.below_subnode hbelow with hbase | hparent
          · rw [(d.subnode_inj hbase).1] at hauthorised
            exact absurd hauthorised houtsider.rootNode
          · exact absurd hauthorised (houtsider.nodes parent hparent)
  | resolver call resolver hmessage hwrites =>
      refine ⟨rfl, fun _ _ => rfl, fun node hbelow => ⟨rfl, ?_⟩⟩
      exact (hwrites node).resolve_right fun hresolves => houtsider.nodes node hbelow hresolves.2
  | registrar self call registrar next hmessage hregistrar heffect =>
      obtain ⟨hoperators, hrecords⟩ := heffect.registry
      have hresolver : next.resolver = world.resolver := by rw [heffect.frame.1]
      obtain ⟨other, hbase, hother, hself⟩ := hdeployed.registrar_recorded self registrar hregistrar
      -- a registrar that writes below the namespace is the one of the namespace
      have hours : other = hash → registrar.Unrelated frame.sender := by
        intro hsame
        apply houtsider.registrar registrar
        rw [← hsame, hself]
        exact hregistrar
      refine ⟨?_, fun account _ => by rw [hoperators], fun node hbelow => ⟨?_, by rw [hresolver]⟩⟩
      · rcases hrecords d.root with hsame | ⟨hroot, -⟩ | ⟨id, hroot, -⟩
        · exact hsame
        · exact absurd (hroot.trans hbase).symm (d.subnode_ne_root _ _)
        · exact absurd hroot.symm (d.subnode_ne_root _ _)
      · rcases hrecords node with hsame | ⟨hnode, howner⟩ | ⟨id, hnode, -, hauthority⟩
        · exact hsame
        · rw [hnode, hbase] at hbelow
          exact absurd howner (hours (Namehash.eq_of_below_namespaceNode hbelow)).owner
        · rw [hnode, hbase] at hbelow
          have hunrelated := hours (Namehash.eq_of_below_name hbelow)
          rcases hauthority with hauthority | ⟨hcontroller, -⟩
          · exact absurd hauthority (hunrelated.tokens id)
          · rw [hunrelated.controllers] at hcontroller
            cases hcontroller
  | root call next hmessage heffect =>
      rcases heffect.opens_or with ⟨created, other, _, _, _, _, hopens, hnew, -⟩ | ⟨hsame, -⟩
      · have hne : ∀ node, node = d.root ∨ d.Below (d.namespaceNode hash) node →
            next.registry.records node = world.registry.records node := by
          intro node hnode
          have hother : node ≠ d.namespaceNode other := by
            intro heq
            rw [heq] at hnode
            rcases hnode with hroot | hbelow
            · exact d.subnode_ne_root _ _ hroot
            · rw [Namehash.eq_of_below_namespaceNode hbelow] at hnew
              exact hnew hexists
          rw [hopens.registry, ArcRegistry.setResolver_of_ne _ _ hother,
            ArcRegistry.setOwner_of_ne _ _ hother]
        refine ⟨hne d.root (.inl rfl), fun account _ => ?_, fun node hbelow => ⟨?_, ?_⟩⟩
        · rw [hopens.registry]
          rfl
        · exact hne node (.inr hbelow)
        · rw [hopens.resolver]
      · rw [hsame]
        exact ⟨rfl, fun _ _ => rfl, fun _ _ => ⟨rfl, rfl⟩⟩
  | _ => exact ⟨rfl, fun _ _ => rfl, fun _ _ => ⟨rfl, rfl⟩⟩

/-- What an outsider does to the root registry leaves what it keeps of the namespace. -/
theorem RootEffect.spares {call : RootCall} (heffect : RootEffect d sender world call next)
    (hexists : world.rootRegistry.Exists hash) (houtsider : Outsider d hash world sender) :
    next.rootRegistry.owner = world.rootRegistry.owner ∧
      next.rootRegistry.namespaceRecords hash = world.rootRegistry.namespaceRecords hash ∧
      next.rootRegistry.pricingConfigs hash = world.rootRegistry.pricingConfigs hash ∧
      next.rootRegistry.promoConfigs hash = world.rootRegistry.promoConfigs hash := by
  have hmanaged : ∀ {other : Label}, world.Manages d sender other → hash ≠ other := by
    intro other hmanages hsame
    rcases hmanages with hroot | ⟨-, howner⟩
    · exact houtsider.rootOwner hroot
    · rw [← hsame] at howner
      exact houtsider.owner howner
  cases heffect with
  | registerNamespace created label namespaceOwner pricing promo next _ _ hnew hopens =>
      have hne : hash ≠ d.labelhash label := by
        intro hsame
        rw [hsame] at hexists
        exact hexists hnew
      rw [hopens.rootRegistry]
      refine ⟨rfl, ?_, ?_, ?_⟩
      · exact RootRegistry.setRecord_of_ne _ _ hne
      · exact RootRegistry.setPricing_of_ne _ _ hne
      · exact RootRegistry.setPromo_of_ne _ _ hne
  | setNamespacePricing label pricing hmanages =>
      exact ⟨rfl, rfl, RootRegistry.setPricing_of_ne _ _ (hmanaged hmanages), rfl⟩
  | setNamespacePromo label promo hmanages =>
      exact ⟨rfl, rfl, rfl, RootRegistry.setPromo_of_ne _ _ (hmanaged hmanages)⟩
  | setNamespaceVault label newVault hcustom hmanages =>
      exact ⟨rfl, RootRegistry.setRecord_of_ne _ _ (hmanaged hmanages), rfl, rfl⟩
  | _ => exact absurd ‹sender = world.rootRegistry.owner› houtsider.rootOwner

theorem FrameEffect.spares (hexists : world.rootRegistry.Exists hash)
    (houtsider : Outsider d hash world frame.sender) (heffect : FrameEffect d world frame next) :
    next.rootRegistry.owner = world.rootRegistry.owner ∧
      next.rootRegistry.namespaceRecords hash = world.rootRegistry.namespaceRecords hash ∧
      next.rootRegistry.pricingConfigs hash = world.rootRegistry.pricingConfigs hash ∧
      next.rootRegistry.promoConfigs hash = world.rootRegistry.promoConfigs hash := by
  cases heffect with
  | registrar self call registrar next hmessage hregistrar heffect =>
      rw [heffect.frame.1]
      exact ⟨rfl, rfl, rfl, rfl⟩
  | root call next hmessage heffect => exact heffect.spares hexists houtsider
  | _ => exact ⟨rfl, rfl, rfl, rfl⟩

/-- The vault of a new namespace comes to an address of its own. -/
theorem Root.registerNamespace_fresh {created : Created} {label : List UInt8}
    {namespaceOwner : Address} {pricing : PricingConfig} {promo : PromoConfig} {value : PUnit}
    (hrun : (registerNamespace d sender created label namespaceOwner pricing promo).run world =
      .ok (value, next)) : world.isFresh d created.vault = true := by
  obtain ⟨-, final, hbody, -⟩ := nonReentrant_ok hrun
  have hlabelled := (Call.bind_revertIf_ok.mp hbody).2
  have hread := (Call.bind_revertIf_ok.mp (bind_labelhash_ok hlabelled)).2
  rw [Call.bind_get_ok] at hread
  obtain ⟨paid, hpaid, hdeploy⟩ := Call.bind_external_ok.mp (Call.bind_revertIf_ok.mp hread).2
  obtain ⟨ledgers, -, rfl⟩ := Option.map_eq_some_iff.mp hpaid
  obtain ⟨_, deployed, hdeployed, -⟩ := Call.bind_ok.mp hdeploy
  obtain ⟨-, -, -, hstack⟩ :=
    Factory.deployNamespaceStack_ok (Factory.bind_onlyOwner_ok.mp hdeployed).2
  exact (hstack.resolve_right fun hnot => Bool.noConfusion hnot.1).2.1

/-- What an outsider does leaves the vault with its owner, and takes nothing out of it. -/
theorem step_vault (hvault : HasVault d hash world)
    (houtsider : Outsider d hash world frame.sender) :
    (step d world frame).vaults (world.rootRegistry.namespaceRecords hash).vault =
        world.vaults (world.rootRegistry.namespaceRecords hash).vault ∧
      (∀ token, world.ledgers.balance token (world.rootRegistry.namespaceRecords hash).vault ≤
        (step d world frame).ledgers.balance token
          (world.rootRegistry.namespaceRecords hash).vault) ∧
      ∀ token, (step d world frame).ledgers.allowance token
          (world.rootRegistry.namespaceRecords hash).vault =
        world.ledgers.allowance token (world.rootRegistry.namespaceRecords hash).vault := by
  generalize hkept : (world.rootRegistry.namespaceRecords hash).vault = vault
  refine step_elim (fun next => next.vaults vault = world.vaults vault ∧
    (∀ token, world.ledgers.balance token vault ≤ next.ledgers.balance token vault) ∧
      ∀ token, next.ledgers.allowance token vault = world.ledgers.allowance token vault)
    ⟨rfl, fun _ => le_rfl, fun _ => rfl⟩ fun next hsends hrun => ?_
  have hsender : vault ≠ frame.sender := hkept ▸ houtsider.vault.symm
  cases Message.effect hsends hrun with
  | registrar self call registrar next _ _ heffect =>
      rw [heffect.frame.1]
      exact ⟨rfl, fun _ => le_rfl, fun _ => rfl⟩
  | root call next hmessage heffect =>
      rw [hmessage] at hrun
      cases heffect with
      | bootstrapArcNamespace created namespaceOwner pricing promo next howner =>
          exact absurd howner houtsider.rootOwner
      | registerNamespace created label namespaceOwner pricing promo next _ _ _ _ _ hvaults hpaid =>
          have hfresh := isFresh_iff.mp (Root.registerNamespace_fresh hrun)
          have hne : vault ≠ created.vault := by
            intro hclash
            rw [HasVault, hkept, hclash, hfresh.2.1,
              (isContract_eq_false hfresh.1).2.2.2.2] at hvault
            simp at hvault
          rw [hvaults, Function.update_of_ne hne]
          exact ⟨rfl, Ledgers.transferFrom_spares hpaid fun hpays => absurd hpays hsender⟩
      | _ => exact ⟨rfl, fun _ => le_rfl, fun _ => rfl⟩
  | vault self call vaults ledgers hmessage howner hothers hledgers =>
      have hself : vault ≠ self := by
        intro hsame
        rw [← hsame, ← hkept] at howner
        exact houtsider.vaultOwner howner
      refine ⟨hothers vault hself, ?_⟩
      rcases hledgers with hsame | ⟨token, target, amount, hmoved⟩
      · rw [hsame]
        exact ⟨fun _ => le_rfl, fun _ => rfl⟩
      · refine ⟨Ledgers.moveToken_le hmoved fun hpays => absurd hpays hself, fun token => ?_⟩
        rw [Ledgers.moveToken_allowance hmoved]
  | token asset call ledgers hmessage hledgers =>
      refine ⟨rfl, ?_⟩
      cases call with
      | transfer target amount =>
          refine ⟨Ledgers.moveToken_le hledgers fun hpays => absurd hpays hsender, fun token => ?_⟩
          rw [Ledgers.moveToken_allowance hledgers]
      | approve spender amount =>
          cases hledgers
          exact ⟨fun _ => le_rfl, fun _ => Ledgers.setAllowance_of_ne hsender ..⟩
      | transferFrom source target amount =>
          apply Ledgers.transferFrom_spares hledgers
          intro _
          rw [← hkept]
          exact houtsider.allowance asset
  | _ => exact ⟨rfl, fun _ => le_rfl, fun _ => rfl⟩

theorem step_isolated (hdeployed : Deployed d world) (hexists : world.rootRegistry.Exists hash)
    (hvault : HasVault d hash world) (houtsider : Outsider d hash world frame.sender) :
    Isolated d hash (· = frame.sender) world (step d world frame) := by
  obtain ⟨hvaultOwner, hbalance, hallowance⟩ := step_vault hvault houtsider
  have hspared := step_effect (fun next =>
    next.rootRegistry.owner = world.rootRegistry.owner ∧
      next.rootRegistry.namespaceRecords hash = world.rootRegistry.namespaceRecords hash ∧
      next.rootRegistry.pricingConfigs hash = world.rootRegistry.pricingConfigs hash ∧
      next.rootRegistry.promoConfigs hash = world.rootRegistry.promoConfigs hash)
    ⟨rfl, rfl, rfl, rfl⟩ fun next _ heffect => FrameEffect.spares hexists houtsider heffect
  have hnodes := step_effect (fun next =>
    next.registry.records d.root = world.registry.records d.root ∧
      (∀ account, account ≠ frame.sender →
        next.registry.operators account = world.registry.operators account) ∧
      ∀ node, d.Below (d.namespaceNode hash) node →
        next.registry.records node = world.registry.records node ∧
          next.resolver.recordsOf node = world.resolver.recordsOf node)
    ⟨rfl, fun _ _ => rfl, fun _ _ => ⟨rfl, rfl⟩⟩ fun next _ heffect =>
      heffect.spares_nodes hdeployed hexists houtsider
  exact {
    rootOwner := hspared.1
    rootNode := hnodes.1
    record := hspared.2.1
    pricing := hspared.2.2.1
    promo := hspared.2.2.2
    nodes := fun node hbelow => (hnodes.2.2 node hbelow).1
    operators := hnodes.2.1
    resolver := fun node hbelow => (hnodes.2.2 node hbelow).2
    registrar := fun registrar hregistrar => step_effect (fun next => ∃ same,
        next.registrars (world.rootRegistry.namespaceRecords hash).registrar = some same ∧
          registrar.Same (· = frame.sender) same)
      ⟨registrar, hregistrar, .refl registrar⟩ fun next hsends heffect =>
        heffect.spares_registrar hsends houtsider hregistrar
    vaultOwner := hvaultOwner
    balance := hbalance
    allowance := hallowance }

end Step

/-! ## Runs -/

section Runs

variable [DecidableEq Node] [DecidableEq Label]
variable {d : Deployment Node Label} {hash : Label} {world : World Node Label}
  {outside : Address → Prop} {frames : List (Frame Node Label)}

/-- Calls of outsiders, one after the other. -/
theorem run_isolated (hdeployed : Deployed d world) (hexists : world.rootRegistry.Exists hash)
    (hvault : HasVault d hash world)
    (houtside : ∀ account, outside account → Outsider d hash world account)
    (hframes : ∀ frame ∈ frames, outside frame.sender) :
    Isolated d hash outside world (Sequence.run (step d) frames world) := by
  induction frames generalizing world with
  | nil => exact .refl world
  | cons frame rest ih =>
      have hsender : outside frame.sender := hframes frame List.mem_cons_self
      have hstep : Isolated d hash outside world (step d world frame) := by
        apply (step_isolated hdeployed hexists hvault (houtside _ hsender)).mono
        intro account haccount
        rw [haccount]
        exact hsender
      obtain ⟨registrar, hregistrar, -⟩ := hdeployed.namespace_registrar hash hexists
      apply hstep.trans
      apply ih (step_deployed hdeployed)
      · unfold RootRegistry.Exists
        rw [hstep.record]
        exact hexists
      · unfold HasVault
        rw [hstep.record, hstep.vaultOwner]
        exact hvault
      · intro account haccount
        exact hstep.outsider houtside hregistrar (houtside account haccount)
      · intro later hlater
        exact hframes later (List.mem_cons_of_mem frame hlater)

end Runs

/-- The owner of another namespace, "eurc", beside "usdc". -/
def exampleRival : World (List (List UInt8)) (List UInt8) :=
  let world := { exampleWorld with
    ledgers := { exampleLedgers with
      balance := fun _ _ => 1000000000
      allowance := fun _ owner spender =>
        if (owner = 1001 ∨ owner = 1005) ∧ spender = 5 then uint256Bound - 1 else 0 } }
  Sequence.run (step Deployment.lowAddresses) [exampleCreation,
    ⟨1005, 1700000010, .root (.registerNamespace ⟨30, 31, 32⟩ [0x65, 0x75, 0x72, 0x63] 1005
      ⟨60000000, 20000000, 10000000⟩ ⟨true, 2000, 0, 0⟩)⟩] world

/-- The rival administers its namespace, and tries to take over a name and the vault of the
other one. -/
def exampleRivalry : List (Frame (List (List UInt8)) (List UInt8)) :=
  [⟨1005, 1700000020, .registrar 30 (.setController 1005 true)⟩,
    ⟨1005, 1700000030, .registry (.setSubnodeOwner [[0x75, 0x73, 0x64, 0x63]] [0x61] 1005)⟩,
    ⟨1005, 1700000040, .registrar 20 (.setApprovalForAll 1006 true)⟩,
    ⟨1005, 1700000050, .vault 22 (.withdraw 1 1005 1)⟩,
    ⟨1005, 1700000060, .token 1 (.transferFrom 22 1005 1)⟩]

theorem exampleRival_reachable : Reachable Deployment.lowAddresses exampleRival := by
  refine ⟨1000, 10, 3, 1000, _, PUnit.unit, _, rfl, rfl, _, rfl⟩

theorem exampleRival_outsider :
    Outsider Deployment.lowAddresses [0x75, 0x73, 0x64, 0x63] exampleRival 1005 where
  nonzero := by decide
  rootOwner := by decide +kernel
  rootNode := by decide +kernel
  owner := by decide +kernel
  nodes node _ := by
    intro hauthorised
    have hregistry : exampleRival.registry = ((((exampleWorld.registry.setOwner
      [[0x75, 0x73, 0x64, 0x63]] 20).setResolver [[0x75, 0x73, 0x64, 0x63]] 3).setOwner
      [[0x65, 0x75, 0x72, 0x63]] 30).setResolver [[0x65, 0x75, 0x72, 0x63]] 3) := rfl
    rcases hauthorised with howner | hoperator
    · by_cases heurc : node = [[0x65, 0x75, 0x72, 0x63]]
      · subst heurc
        revert howner
        decide +kernel
      · by_cases husdc : node = [[0x75, 0x73, 0x64, 0x63]]
        · subst husdc
          revert howner
          decide +kernel
        · rw [hregistry, ArcRegistry.setResolver_of_ne _ _ heurc,
            ArcRegistry.setOwner_of_ne _ _ heurc, ArcRegistry.setResolver_of_ne _ _ husdc,
            ArcRegistry.setOwner_of_ne _ _ husdc] at howner
          by_cases hroot : node = []
          · subst hroot
            revert howner
            decide +kernel
          · have hnobody : exampleWorld.registry.records node = ⟨0, 0, 0⟩ :=
              Function.update_of_ne hroot _ (fun _ => (⟨0, 0, 0⟩ : Record))
            rw [hnobody] at howner
            revert howner
            decide
    · rw [hregistry] at hoperator
      exact absurd (of_decide_eq_true hoperator).2 (by decide)
  registrar registrar hregistrar := by
    have hopened : exampleRival.registrars 20 = some (.opened [[0x75, 0x73, 0x64, 0x63]] 21 1001) :=
      rfl
    cases hopened.symm.trans hregistrar
    refine ⟨by decide, by decide +kernel, fun id hauthority => ?_⟩
    rcases hauthority.2 with hholder | hoperator | happroved
    · exact absurd hholder (by decide : (0 : Address) ≠ 1005)
    · cases hoperator
    · exact absurd happroved (by decide : (0 : Address) ≠ 1005)
  vault := by decide +kernel
  vaultOwner := by decide +kernel
  allowance _ := rfl

end WizPay.Ans
