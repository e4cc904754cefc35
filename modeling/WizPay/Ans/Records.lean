import WizPay.Ans.Coded
import WizPay.Ans.Handover

/-!
# What a name resolves to

The registry names the resolver of a node, and the public resolver keeps an address and
texts for it. A purchase that sets records up writes them over what is there, one that does
not leaves the resolver of the last holder in place; in neither case does anything end the
records of an earlier registration.
-/

namespace WizPay.Ans

open Foundation Evm

variable {Node Label : Type}

/-! ## Reading the public resolver -/

namespace PublicResolver

/-- The view `addr`. -/
def addr (resolver : PublicResolver Node) (node : Node) : Address :=
  resolver.addresses node (resolver.recordVersions node)

/-- The view `text`. -/
def text (resolver : PublicResolver Node) (node : Node) (key : String) : String :=
  resolver.textRecords node (resolver.recordVersions node) key

variable [DecidableEq Node] (resolver : PublicResolver Node) (node : Node)

@[simp] theorem setAddr_addr (resolvedAddress : Address) :
    (resolver.setAddr node resolvedAddress).addr node = resolvedAddress := by
  simp [addr, setAddr]

@[simp] theorem setAddr_text (resolvedAddress : Address) (key : String) :
    (resolver.setAddr node resolvedAddress).text node key = resolver.text node key := rfl

@[simp] theorem setText_addr (key value : String) :
    (resolver.setText node key value).addr node = resolver.addr node := rfl

@[simp] theorem setText_text (key value other : String) :
    (resolver.setText node key value).text node other =
      if key = other then value else resolver.text node other := by
  simp [text, setText, Function.update_apply, eq_comm]

/-- Text records, one after the other. -/
def setTexts (records : List (String × String)) : PublicResolver Node :=
  records.foldl (fun written record => written.setText node record.1 record.2) resolver

end PublicResolver

/-- The last value that is given for a key. -/
def lastValue (records : List (String × String)) (key default : String) : String :=
  records.foldl (fun value record => if record.1 = key then record.2 else value) default

theorem lastValue_of_not_mem {records : List (String × String)} {key default : String}
    (hnone : key ∉ records.map Prod.fst) : lastValue records key default = default := by
  induction records with
  | nil => rfl
  | cons record rest ih =>
      rw [List.map_cons, List.mem_cons, not_or] at hnone
      rw [lastValue, List.foldl_cons, if_neg (Ne.symm hnone.1)]
      exact ih hnone.2

theorem lastValue_of_mem {records : List (String × String)} {key : String}
    (hsome : key ∈ records.map Prod.fst) (default other : String) :
    lastValue records key default = lastValue records key other := by
  induction records generalizing default other with
  | nil => exact absurd hsome List.not_mem_nil
  | cons record rest ih =>
      rw [lastValue, lastValue, List.foldl_cons, List.foldl_cons]
      by_cases hkey : record.1 = key
      · rw [if_pos hkey, if_pos hkey]
      · rw [if_neg hkey, if_neg hkey]
        rw [List.map_cons, List.mem_cons] at hsome
        exact ih (hsome.resolve_left (Ne.symm hkey)) default other

namespace PublicResolver

variable [DecidableEq Node] (resolver : PublicResolver Node) (node : Node)

@[simp] theorem setTexts_addr (records : List (String × String)) :
    (resolver.setTexts node records).addr node = resolver.addr node := by
  induction records generalizing resolver with
  | nil => rfl
  | cons record rest ih => exact (ih _).trans (resolver.setText_addr node _ _)

@[simp] theorem setTexts_text (records : List (String × String)) (key : String) :
    (resolver.setTexts node records).text node key =
      lastValue records key (resolver.text node key) := by
  induction records generalizing resolver with
  | nil => rfl
  | cons record rest ih =>
      have hrest := ih (resolver.setText node record.1 record.2)
      rw [setText_text] at hrest
      exact hrest

end PublicResolver

/-! ## A clean start -/

/-- The resolver that a purchase names in its event: none when it sets nothing up. -/
def Purchase.suppliedResolver (purchase : Purchase) (root : RootRegistry Label) : Address :=
  if purchase.NeedsResolverSetup then purchase.effectiveResolver root else 0

/-- The text that a purchase supplies for a key. -/
def Purchase.suppliedText (purchase : Purchase) (key : String) : String :=
  lastValue (purchase.textKeys.zip purchase.textValues) key ""

/-- A name resolves to what its purchase supplied and to nothing else: its resolver is the
supplied one, and what the public resolver says about it is what the purchase says. -/
structure StartsClean (d : Deployment Node Label) (purchase : Purchase) (supplied : Address)
    (node : Node) (world : World Node Label) : Prop where
  resolver : (world.registry.records node).resolver = supplied
  addr : supplied ≠ 0 → supplied = d.publicResolver →
    world.resolver.addr node = purchase.resolvedAddress
  text : supplied ≠ 0 → supplied = d.publicResolver →
    ∀ key, world.resolver.text node key = purchase.suppliedText key

/-- The resolver and the records of a name are the same in two worlds. -/
def SameName (node : Node) (first second : World Node Label) : Prop :=
  (second.registry.records node).resolver = (first.registry.records node).resolver ∧
    second.resolver.recordsOf node = first.resolver.recordsOf node

theorem SameName.startsClean_iff {d : Deployment Node Label} {purchase : Purchase}
    {supplied : Address} {node : Node} {first second : World Node Label}
    (hsame : SameName node first second) :
    StartsClean d purchase supplied node second ↔ StartsClean d purchase supplied node first := by
  obtain ⟨hresolver, hrecords⟩ := hsame
  simp only [PublicResolver.recordsOf, Prod.mk.injEq] at hrecords
  obtain ⟨hversions, haddresses, htexts⟩ := hrecords
  have haddr : second.resolver.addr node = first.resolver.addr node := by
    rw [PublicResolver.addr, haddresses, hversions]
    rfl
  have htext : ∀ key, second.resolver.text node key = first.resolver.text node key := by
    intro key
    rw [PublicResolver.text, htexts, hversions]
    rfl
  constructor
  · intro hclean
    exact ⟨hresolver ▸ hclean.resolver, haddr ▸ hclean.addr, fun hne hpublic key =>
      htext key ▸ hclean.text hne hpublic key⟩
  · intro hclean
    exact ⟨hresolver.symm ▸ hclean.resolver, haddr.symm ▸ hclean.addr, fun hne hpublic key =>
      (htext key).symm ▸ hclean.text hne hpublic key⟩

/-- Nothing is left of an earlier registration that a purchase does not write over: no resolver
when it supplies none, and in the public resolver neither an address nor a text that it does
not supply. -/
structure NothingLeft (d : Deployment Node Label) (purchase : Purchase) (supplied : Address)
    (node : Node) (world : World Node Label) : Prop where
  resolver : supplied = 0 → (world.registry.records node).resolver = 0
  addr : supplied ≠ 0 → supplied = d.publicResolver → purchase.resolvedAddress = 0 →
    world.resolver.addr node = 0
  text : supplied ≠ 0 → supplied = d.publicResolver →
    ∀ key, key ∉ purchase.textKeys → world.resolver.text node key = ""

/-- What a purchase writes into the public resolver. -/
def Purchase.written [DecidableEq Node] (purchase : Purchase) (resolver : PublicResolver Node)
    (node : Node) : PublicResolver Node :=
  (if purchase.resolvedAddress ≠ 0 then resolver.setAddr node purchase.resolvedAddress
    else resolver).setTexts node (purchase.textKeys.zip purchase.textValues)

section Written

variable [DecidableEq Node] {purchase : Purchase} {resolver : PublicResolver Node} {node : Node}

theorem Purchase.written_addr :
    (purchase.written resolver node).addr node = purchase.resolvedAddress ↔
      (purchase.resolvedAddress = 0 → resolver.addr node = 0) := by
  rw [written, PublicResolver.setTexts_addr]
  by_cases hzero : purchase.resolvedAddress = 0
  · rw [if_neg (not_not.mpr hzero), hzero]
    exact ⟨fun hread _ => hread, fun hread => hread rfl⟩
  · rw [if_pos hzero, PublicResolver.setAddr_addr]
    exact ⟨fun _ habsent => absurd habsent hzero, fun _ => rfl⟩

theorem Purchase.written_text (hlengths : purchase.textKeys.length = purchase.textValues.length) :
    (∀ key, (purchase.written resolver node).text node key = purchase.suppliedText key) ↔
      ∀ key, key ∉ purchase.textKeys → resolver.text node key = "" := by
  have hkeys : (purchase.textKeys.zip purchase.textValues).map Prod.fst = purchase.textKeys :=
    List.map_fst_zip hlengths.le
  have hbefore : ∀ key, (if purchase.resolvedAddress ≠ 0 then
      resolver.setAddr node purchase.resolvedAddress else resolver).text node key =
        resolver.text node key := by
    intro key
    split <;> rfl
  refine forall_congr' fun key => ?_
  rw [written, PublicResolver.setTexts_text, hbefore, suppliedText]
  by_cases hkey : key ∈ purchase.textKeys
  · rw [lastValue_of_mem (hkeys.symm ▸ hkey) _ ""]
    simp [hkey]
  · rw [lastValue_of_not_mem (hkeys.symm ▸ hkey), lastValue_of_not_mem (hkeys.symm ▸ hkey)]
    simp [hkey]

end Written

/-! ## What a purchase writes -/

section Writes

variable [DecidableEq Node] [DecidableEq Label] {d : Deployment Node Label}
  {world next : World Node Label} {outside : Outside Node Label} {self sender address : Address}
  {now : ℕ} {id : Label}

/-- Calls that leave the resolvers of all nodes and the public resolver alone. -/
def KeepsResolvers (world next : World Node Label) : Prop :=
  next.resolver = world.resolver ∧
    ∀ node, (next.registry.records node).resolver = (world.registry.records node).resolver

omit [DecidableEq Label] in
theorem KeepsResolvers.setNodeOwner (registrar : NamespaceRegistrar Node Label) (node : Node)
    (owner : Address) :
    KeepsResolvers world ((world.setRegistrar address registrar).setNodeOwner node owner) := by
  refine ⟨rfl, fun other => ?_⟩
  change ((world.registry.setOwner node owner).records other).resolver = _
  by_cases hother : other = node
  · rw [hother, ArcRegistry.setOwner_self]
  · rw [ArcRegistry.setOwner_of_ne _ _ hother]

theorem transferFrom_keepsResolvers (hself : self ≠ 0) {source target : Address} {value : Unit}
    (hrun : (Registrar.transferFrom d address self now source target id).run world =
      .ok (value, next)) : KeepsResolvers world next := by
  obtain ⟨-, _, -, -, -, -, -, hsame⟩ := (Registrar.transferFrom_ok hself).mp hrun
  cases hsame
  exact .setNodeOwner ..

theorem register_keepsResolvers {owner : Address} {duration value : ℕ}
    (hrun : (Registrar.register d address self now id owner duration).run world =
      .ok (value, next)) : KeepsResolvers world next := by
  obtain ⟨_, -, -, -, -, -, -, -, hsame⟩ := Registrar.register_ok.mp hrun
  cases hsame
  exact .setNodeOwner ..

namespace Controller

omit [DecidableEq Label] in
theorem setTexts_public {node : Node} {records : List (String × String)} {value : Unit}
    (hrun : (setTexts d outside self d.publicResolver node records).run world =
      .ok (value, next)) :
    next = { world with resolver := world.resolver.setTexts node records } := by
  induction records generalizing world with
  | nil =>
      cases Call.pure_ok.mp hrun
      rfl
  | cons record rest ih =>
      obtain ⟨⟨⟩, written, hwrite, hrest⟩ := Call.bind_ok.mp hrun
      rw [setText, if_pos rfl] at hwrite
      cases (Resolver.bind_checkAuthorised_ok.mp hwrite).2
      exact ih hrest

omit [DecidableEq Label] in
/-- The records of a name whose resolver is the public one. -/
theorem prepare_public {purchase : Purchase} {node : Node} {value : Unit}
    (hrun : (prepare d outside self purchase node d.publicResolver).run world =
      .ok (value, next)) :
    next = { world with
      registry := world.registry.setResolver node d.publicResolver
      resolver := purchase.written world.resolver node } := by
  obtain ⟨⟨⟩, resolved, hresolve, haddressing⟩ := Call.bind_ok.mp hrun
  obtain ⟨-, hresolved⟩ := Registry.setResolver_ok.mp hresolve
  cases hresolved
  obtain ⟨⟨⟩, addressed, haddress, htexts⟩ := Call.bind_ok.mp haddressing
  rw [setTexts_public htexts, Purchase.written]
  rcases Call.when_ok.mp haddress with ⟨hnonzero, hset⟩ | ⟨hzero, hsame⟩
  · rw [setAddr, if_pos rfl] at hset
    cases (Resolver.bind_checkAuthorised_ok.mp hset).2
    rw [if_pos hnonzero]
  · cases hsame
    rw [if_neg hzero]

end Controller

end Writes

/-! ## Resolvers that are not the public one -/

section Outside

variable [DecidableEq Node] [DecidableEq Label] {d : Deployment Node Label}
  {world next : World Node Label} {outside : Outside Node Label} {self address resolver : Address}
  {now : ℕ} {id : Label} {node : Node}

/-- Code outside acts by frames, in the block of the call, of other accounts than the controller
that is under way, while the registrar owns the node of its namespace. -/
def Outside.ByOthers (d : Deployment Node Label) (outside : Outside Node Label)
    (address self : Address) (now : ℕ) : Prop :=
  ∀ hook world next, outside hook world = some next → ∃ frames,
    Sequence.Along (step d) (fun world frame => frame.sender ≠ self ∧ frame.timestamp = now ∧
      ∀ registrar, world.registrars address = some registrar →
        (world.registry.records registrar.baseNode).owner = address) frames world ∧
    next = Sequence.run (step d) frames world

/-- The controller holds a name that it has given a resolver. -/
structure Held (d : Deployment Node Label) (address holder : Address) (now : ℕ) (id : Label)
    (node : Node) (resolver : Address) (world : World Node Label) : Prop where
  deployed : Deployed d world
  holds : Holds d address id holder (fun account => account = holder) world
  name : ∃ registrar, world.registrars address = some registrar ∧ registrar.Registered id ∧
    now ≤ registrar.expiries id ∧ d.subnode registrar.baseNode id = node
  resolver : (world.registry.records node).resolver = resolver

/-- Nobody else gives it another one. -/
theorem Held.step {frame : Frame Node Label} (hheld : Held d address self now id node resolver world)
    (hother : frame.sender ≠ self) (hblock : frame.timestamp = now)
    (hbase : ∀ registrar, world.registrars address = some registrar →
      (world.registry.records registrar.baseNode).owner = address) :
    Held d address self now id node resolver (Ans.step d world frame) := by
  obtain ⟨registrar, hregistrar, hregistered, hterm, rfl⟩ := hheld.name
  have hundisturbed : Undisturbed d address id self (fun account => account = self) world frame := by
    refine ⟨hbase, fun second hsecond hlapsed => ?_, fun htrusted => absurd htrusted hother⟩
    obtain rfl := Option.some.inj (hregistrar.symm.trans hsecond)
    unfold NamespaceRegistrar.Lapsed at hlapsed
    omega
  have hname : ∃ after, (Ans.step d world frame).registrars address = some after ∧
      after.Registered id ∧ NameKept d address id world frame registrar after :=
    step_nameKept hregistrar hregistered
  obtain ⟨after, hafter, hstill, -⟩ := hname
  obtain ⟨huntouched, hholds⟩ :=
    stranger_step hheld.deployed hheld.holds hregistrar hregistered hundisturbed hother
  obtain ⟨first, last, hfirst, hlast, -, -, hlonger, hsame, hrecord, -⟩ := huntouched hother
  obtain rfl := Option.some.inj (hregistrar.symm.trans hfirst)
  obtain rfl := Option.some.inj (hafter.symm.trans hlast)
  exact {
    deployed := step_deployed hheld.deployed
    holds := hholds
    name := ⟨after, hafter, hstill, hterm.trans hlonger, by rw [hsame]⟩
    resolver := by rw [hrecord, hheld.resolver] }

theorem Held.hook {hook : Hook Node Label} (hheld : Held d address self now id node resolver world)
    (hothers : outside.ByOthers d address self now) (hnext : outside hook world = some next) :
    Held d address self now id node resolver next := by
  obtain ⟨frames, halong, rfl⟩ := hothers hook world next hnext
  clear hnext
  induction frames generalizing world with
  | nil => exact hheld
  | cons frame rest ih =>
      obtain ⟨⟨hother, hblock, hbase⟩, hrest⟩ := halong
      exact ih (hheld.step hother hblock hbase) hrest

namespace Controller

variable {purchase : Purchase}

/-- While the records of a name are set up at a resolver of its own, it keeps that resolver. -/
theorem prepare_held (hothers : outside.ByOthers d address self now)
    (hcustom : resolver ≠ d.publicResolver) {value : Unit}
    (hheld : ∀ resolved, (Registry.setResolver self node resolver).run world =
      .ok (PUnit.unit, resolved) → Held d address self now id node resolver resolved)
    (hrun : (prepare d outside self purchase node resolver).run world = .ok (value, next)) :
    Held d address self now id node resolver next := by
  let held := Held d address self now id node resolver
  have hset : ∀ resolvedAddress, Call.Relates (fun before after => held before → held after)
      (setAddr d outside self resolver node resolvedAddress) := by
    intro resolvedAddress before _ after hcall hbefore
    rw [setAddr, if_neg hcustom] at hcall
    exact hbefore.hook hothers (callOutside_ok hcall)
  have htexts : ∀ records, Call.Relates (fun before after => held before → held after)
      (setTexts d outside self resolver node records) := by
    intro records
    induction records with
    | nil => exact .pure (fun _ hbefore => hbefore) ()
    | cons record rest ih =>
        refine .bind (fun _ _ _ hfirst hsecond hbefore => hsecond (hfirst hbefore)) ?_ fun _ => ih
        intro before _ after hcall hbefore
        rw [setText, if_neg hcustom] at hcall
        exact hbefore.hook hothers (callOutside_ok hcall)
  obtain ⟨⟨⟩, resolved, hresolve, haddressing⟩ := Call.bind_ok.mp hrun
  obtain ⟨⟨⟩, addressed, haddress, hrest⟩ := Call.bind_ok.mp haddressing
  refine htexts _ _ _ _ hrest ?_
  rcases Call.when_ok.mp haddress with ⟨-, hcall⟩ | ⟨-, hsame⟩
  · exact hset _ _ _ _ hcall (hheld resolved hresolve)
  · cases hsame
    exact hheld resolved hresolve

/-- A name that the controller has bought for itself and given a resolver is held by it. -/
theorem bought_held {registrar : NamespaceRegistrar Node Label} {duration value : ℕ}
    {bought : World Node Label} (hunapproving : Unapproving d world)
    (hself : (world.controllers self).isSome = true)
    (hregistrar : world.registrars address = some registrar) (hheld : registrar.owners id ≠ 0)
    (hbought : (Registrar.register d address self now id self duration).run world =
      .ok (value, bought))
    (hresolve : (Registry.setResolver self (d.subnode registrar.baseNode id) resolver).run bought =
      .ok (PUnit.unit, next))
    (hdeployed : Deployed d next) :
    Held d address self now id (d.subnode registrar.baseNode id) resolver next := by
  obtain ⟨before, hbefore, -, howner, hduration, -, -, -, hsame⟩ :=
    Registrar.register_ok.mp hbought
  obtain rfl := Option.some.inj (hregistrar.symm.trans hbefore)
  cases hsame
  obtain ⟨-, hsame⟩ := Registry.setResolver_ok.mp hresolve
  cases hsame
  let after := registrar.registered id self (now + duration)
  have hafter : (world.setRegistrar address after).registrars address = some after :=
    setRegistrar_self ..
  have happrovals : after.operatorApprovals = registrar.operatorApprovals :=
    (registrar.registered_administration self (now + duration)).1
  have hbase : after.baseNode = registrar.baseNode :=
    (registrar.registered_administration self (now + duration)).2.2.2
  have hinternal := hunapproving.controllers self hself
  constructor
  · exact hdeployed
  · constructor
    · refine ⟨after, hafter, registrar.registered_owners .., ?_, ?_⟩
      · rw [NamespaceRegistrar.registered_tokenApprovals, if_neg hheld]
      · rw [hbase]
        dsimp only [World.setNodeOwner]
        rw [ArcRegistry.setResolver_self, ArcRegistry.setOwner_self]
    · rintro account (hsame | hoperator | ⟨second, hsecond, hoperator⟩)
      · exact hsame
      · exact absurd ((hunapproving.operators self hinternal account).symm.trans hoperator) (by decide)
      · obtain rfl := Option.some.inj (hafter.symm.trans hsecond)
        rw [happrovals, hunapproving.approvals self hinternal address registrar hregistrar] at hoperator
        cases hoperator
  · refine ⟨after, hafter, ⟨?_, ?_⟩, ?_, by rw [hbase]⟩
    · rw [registrar.registered_expiries]
      omega
    · rw [registrar.registered_owners]
      exact howner
    · rw [registrar.registered_expiries]
      omega
  · exact congrArg Record.resolver (ArcRegistry.setResolver_self ..)

end Controller

end Outside

/-! ## Buying a name -/

section Buying

variable [DecidableEq Node] [DecidableEq Label] {d : Deployment Node Label}
  {world next : World Node Label} {outside : Outside Node Label} {self sender : Address} {now : ℕ}
  {purchase : Purchase} {node : Node}

omit [DecidableEq Label] in
/-- Through the public resolver a name resolves to what it was left with and what the purchase
wrote over it. -/
theorem startsClean_public (hlengths : purchase.textKeys.length = purchase.textValues.length)
    (hnonzero : d.publicResolver ≠ 0)
    (hresolver : (next.registry.records node).resolver = d.publicResolver)
    (hwritten : next.resolver = purchase.written world.resolver node) :
    StartsClean d purchase d.publicResolver node next ↔
      NothingLeft d purchase d.publicResolver node world := by
  have haddr := @Purchase.written_addr _ _ purchase world.resolver node
  have htext := @Purchase.written_text _ _ purchase world.resolver node hlengths
  rw [← hwritten] at haddr htext
  constructor
  · intro hclean
    exact ⟨fun hzero => absurd hzero hnonzero, fun _ _ => haddr.mp (hclean.addr hnonzero rfl),
      fun _ _ => htext.mp (hclean.text hnonzero rfl)⟩
  · intro hleft
    exact ⟨hresolver, fun _ _ => haddr.mpr (hleft.addr hnonzero rfl),
      fun _ _ => htext.mpr (hleft.text hnonzero rfl)⟩

/-- When a name is handed over, it resolves to what its purchase supplied exactly when nothing
was left that the purchase does not write over. -/
theorem Controller.register_startsClean {value : Node × ℕ} (hreachable : ReachableByCode d world)
    {controller : NamespaceController Label} {registrar : NamespaceRegistrar Node Label}
    (hcontroller : world.controllers self = some controller)
    (hregistrar : world.registrars controller.registrar = some registrar)
    (hheld : registrar.owners (d.labelhash purchase.label) ≠ 0)
    (hothers : outside.ByOthers d controller.registrar self now)
    (hrun : (Controller.register d outside self sender now purchase).run world =
      .ok (value, next)) :
    ∃ handed after final, HandedOver d controller.registrar (d.labelhash purchase.label)
        purchase.owner now handed final ∧
      (after = handed ∨ outside (.onERC721Received purchase.owner self self
        (d.labelhash purchase.label)) handed = some after) ∧
      next = after.enter self false ∧
      (StartsClean d purchase (purchase.suppliedResolver world.rootRegistry)
          (d.subnode registrar.baseNode (d.labelhash purchase.label)) handed ↔
        NothingLeft d purchase (purchase.suppliedResolver world.rootRegistry)
          (d.subnode registrar.baseNode (d.labelhash purchase.label)) world) := by
  have hdeployed := hreachable.reachable.deployed
  have hself : self ≠ 0 := by
    rintro rfl
    rw [hdeployed.controller_ne_zero] at hcontroller
    cases hcontroller
  have hisSome : (world.controllers self).isSome = true := by
    rw [hcontroller]
    rfl
  obtain ⟨found, paidRegistrar, price, paid, after, hfound, -, hcollected, hpaid, hlengths, hsold,
    rfl⟩ := Controller.register_ok hrun
  obtain rfl := Option.some.inj (hcontroller.symm.trans hfound)
  -- up to the payment only the guard and the ledgers are written
  have hpaidSame : paid = { world.enter self true with ledgers := paid.ledgers } := by
    cases hcollected <;> rfl
  rw [hpaidSame] at hpaid
  obtain rfl := Option.some.inj (hregistrar.symm.trans hpaid)
  have hentered : Evolves d self world (world.enter self true) :=
    Message.evolves hself now (.entered true) world PUnit.unit _ rfl
  have hpaying := hentered.trans (hcollected.evolves hself)
  have hunapproving : Unapproving d paid := by
    rw [hpaidSame]
    exact (hreachable.unapproving.enter self true).of_same rfl (fun _ _ => rfl) rfl
  have hpaidRegistrar : paid.registrars controller.registrar = some registrar := by
    rw [hpaidSame]
    exact hregistrar
  have hpaidResolver : paid.resolver = world.resolver := by rw [hpaidSame]; rfl
  have hpaidRecords : paid.registry = world.registry := by rw [hpaidSame]; rfl
  have hroot : paid.rootRegistry = world.rootRegistry := by rw [hpaidSame]; rfl
  rcases hsold with ⟨hneeds, hsold⟩ | ⟨hneeds, hsold⟩
  · obtain ⟨bought, prepared, handed, hnonzero, hbought, hprepared, htransfer, hasked⟩ :=
      Controller.registerWithResolver_ok hsold
    rw [hroot] at hnonzero hprepared
    obtain ⟨final, hfinal⟩ := transferFrom_handedOver hself htransfer
    refine ⟨handed, after, final, hfinal, .inr hasked, rfl, ?_⟩
    rw [Purchase.suppliedResolver, if_pos hneeds]
    generalize purchase.effectiveResolver world.rootRegistry = resolver at hnonzero hprepared ⊢
    obtain ⟨hboughtResolver, -⟩ := register_keepsResolvers hbought
    obtain ⟨hhandedResolver, hhandedRecords⟩ := transferFrom_keepsResolvers hself htransfer
    by_cases hpublic : resolver = d.publicResolver
    · subst hpublic
      have hwritten := Controller.prepare_public hprepared
      refine startsClean_public hlengths hnonzero ?_ ?_
      · rw [hhandedRecords, hwritten, ArcRegistry.setResolver_self]
      · rw [hhandedResolver, hwritten, hboughtResolver, hpaidResolver]
    · have hbuying : Evolves d self paid bought := Message.evolves hself now (.registrar
        controller.registrar (.register (d.labelhash purchase.label) self purchase.duration)) _
          PUnit.unit _ (Call.bind_ok.mpr ⟨_, _, hbought, rfl⟩)
      have hname := Controller.prepare_held hothers hpublic (fun resolved hresolve => by
        have hresolving : Evolves d self bought resolved := Message.evolves hself now
          (.registry (.setResolver _ resolver)) _ PUnit.unit _ hresolve
        have hreaches := (hpaying.trans (hbuying.trans hresolving)) hisSome
        exact Controller.bought_held hunapproving ((hpaying hisSome).controllers hisSome)
          hpaidRegistrar hheld hbought hresolve (hreaches.deployed hdeployed)) hprepared
      refine iff_of_true ⟨?_, fun _ hsame => absurd hsame hpublic, fun _ hsame =>
        absurd hsame hpublic⟩ ⟨fun hzero => absurd hzero hnonzero, fun _ hsame =>
          absurd hsame hpublic, fun _ hsame => absurd hsame hpublic⟩
      rw [hhandedRecords, hname.resolver]
  · obtain ⟨final, hfinal⟩ := Ans.register_handedOver hpaidRegistrar hheld hsold
    refine ⟨after, after, final, hfinal, .inl rfl, rfl, ?_⟩
    rw [Purchase.suppliedResolver, if_neg hneeds]
    obtain ⟨-, hrecords⟩ := register_keepsResolvers hsold
    constructor
    · intro hclean
      refine ⟨fun _ => ?_, fun hzero => absurd rfl hzero, fun hzero => absurd rfl hzero⟩
      rw [← hpaidRecords, ← hrecords]
      exact hclean.resolver
    · intro hleft
      refine ⟨?_, fun hzero => absurd rfl hzero, fun hzero => absurd rfl hzero⟩
      rw [hrecords, hpaidRecords]
      exact hleft.resolver rfl

/-- A name that had a holder and is bought resolves to what the purchase supplied, and to nothing
else, exactly when nothing was left that the purchase does not write over: so it is when the
name is handed over, and after the call when the receiver leaves it as it got it. -/
theorem registration_starts_clean_iff {value : Node × ℕ} (hreachable : ReachableByCode d world)
    {controller : NamespaceController Label} {registrar : NamespaceRegistrar Node Label}
    (hcontroller : world.controllers self = some controller)
    (hregistrar : world.registrars controller.registrar = some registrar)
    (hheld : registrar.owners (d.labelhash purchase.label) ≠ 0)
    (hothers : outside.ByOthers d controller.registrar self now)
    (hrun : (Controller.register d outside self sender now purchase).run world =
      .ok (value, next)) :
    ∃ handed after final, HandedOver d controller.registrar (d.labelhash purchase.label)
        purchase.owner now handed final ∧
      (after = handed ∨ outside (.onERC721Received purchase.owner self self
        (d.labelhash purchase.label)) handed = some after) ∧
      next = after.enter self false ∧
      (StartsClean d purchase (purchase.suppliedResolver world.rootRegistry)
          (d.subnode registrar.baseNode (d.labelhash purchase.label)) handed ↔
        NothingLeft d purchase (purchase.suppliedResolver world.rootRegistry)
          (d.subnode registrar.baseNode (d.labelhash purchase.label)) world) ∧
      (SameName (d.subnode registrar.baseNode (d.labelhash purchase.label)) handed after →
        (StartsClean d purchase (purchase.suppliedResolver world.rootRegistry)
            (d.subnode registrar.baseNode (d.labelhash purchase.label)) next ↔
          NothingLeft d purchase (purchase.suppliedResolver world.rootRegistry)
            (d.subnode registrar.baseNode (d.labelhash purchase.label)) world)) := by
  obtain ⟨handed, after, final, hhanded, hasked, rfl, hclean⟩ :=
    Controller.register_startsClean hreachable hcontroller hregistrar hheld hothers hrun
  refine ⟨handed, after, final, hhanded, hasked, rfl, hclean, fun hsame => ?_⟩
  have hnext : SameName (d.subnode registrar.baseNode (d.labelhash purchase.label)) handed
      (after.enter self false) := hsame
  exact hnext.startsClean_iff.trans hclean

end Buying

/-! ## "alice", bought again -/

/-- The node of "alice" in the namespace "usdc". -/
def exampleNode : List (List UInt8) := [[0x61, 0x6C, 0x69, 0x63, 0x65], [0x75, 0x73, 0x64, 0x63]]

def exampleRegistrations : List (Frame (List (List UInt8)) (List UInt8)) :=
  [exampleCreation, ⟨1001, 1700000010, .registrar 20 (.setController 1001 true)⟩,
    ⟨1001, 1700000020, .registrar 20 (.register [0x61, 0x6C, 0x69, 0x63, 0x65] 1002 100)⟩,
    ⟨1002, 1700000030, .registry (.setApprovalForAll 1004 true)⟩,
    ⟨1002, 1700000040, .registrar 20 (.approve 1004 [0x61, 0x6C, 0x69, 0x63, 0x65])⟩,
    ⟨1001, 1700000050, .token 1 (.approve 21 100000000)⟩]

theorem exampleLapsed_reachableByCode :
    ReachableByCode Deployment.lowAddresses exampleLapsed :=
  ⟨1000, 10, 3, 1000, exampleLedgers, PUnit.unit, exampleWorld, exampleRegistrations, by decide, rfl,
    by decide +kernel, rfl⟩

/-- The holder set nothing up for "alice", so it starts clean for its buyer. -/
theorem registration_starts_clean_alice :
    ∃ handed, StartsClean Deployment.lowAddresses examplePurchase 0 exampleNode handed := by
  have hcontroller : exampleLapsed.controllers 21 =
      some ⟨20, [0x75, 0x73, 0x64, 0x63], false⟩ := by decide +kernel
  obtain ⟨registrar, hregistrar, hread⟩ : ∃ registrar,
      exampleLapsed.registrars 20 = some registrar ∧
        (registrar.owners [0x61, 0x6C, 0x69, 0x63, 0x65], registrar.baseNode) =
          (1002, [[0x75, 0x73, 0x64, 0x63]]) := by
    rw [← Option.map_eq_some_iff]
    decide +kernel
  obtain ⟨hholder, hbase⟩ := Prod.mk.inj hread
  obtain ⟨value, next, hrun⟩ := Call.succeeds_iff.mp (show (Controller.register
    Deployment.lowAddresses (fun _ _ => none) 21 1001 1800000000 examplePurchase).succeeds
      exampleLapsed = true by decide +kernel)
  have hothers : Outside.ByOthers Deployment.lowAddresses (fun _ _ => none) 20 21 1800000000 :=
    fun _ _ _ hnone => nomatch hnone
  have hheld : registrar.owners (Deployment.lowAddresses.labelhash examplePurchase.label) ≠ 0 :=
    hholder.trans_ne (by decide)
  obtain ⟨handed, _, _, -, -, -, hclean, -⟩ := registration_starts_clean_iff
    exampleLapsed_reachableByCode hcontroller hregistrar hheld hothers hrun
  rw [hbase] at hclean
  have hsupplied : examplePurchase.suppliedResolver exampleLapsed.rootRegistry = 0 := by
    decide +kernel
  rw [hsupplied] at hclean
  refine ⟨handed, hclean.mpr ⟨fun _ => ?_, fun hne => absurd rfl hne, fun hne => absurd rfl hne⟩⟩
  decide +kernel

/-- Before "alice" lapsed, its holder made it resolve to an account of theirs. -/
def exampleResolving : World (List (List UInt8)) (List UInt8) :=
  Sequence.run (step Deployment.lowAddresses)
    [⟨1002, 1700000060, .registry (.setResolver exampleNode 3)⟩,
      ⟨1002, 1700000070, .resolver (.setAddr exampleNode 1002)⟩] exampleLapsed

/-- A year of "alice" for account 1003, with the public resolver. -/
def exampleResolverPurchase : Purchase := { examplePurchase with resolver := 3 }

/-- "alice" is bought, and resolves to its former holder. -/
def ResolvesToFormerHolder (purchase : Purchase) : Prop :=
  ∃ value next,
    (Controller.register Deployment.lowAddresses (fun _ world => some world) 21 1001 1800000000
      purchase).run exampleResolving = .ok (value, next) ∧
    (next.registry.records exampleNode).owner = 1003 ∧
    (next.registry.records exampleNode).resolver = 3 ∧
    next.resolver.addr exampleNode = 1002 ∧
    ¬ StartsClean Deployment.lowAddresses purchase
      (purchase.suppliedResolver exampleResolving.rootRegistry) exampleNode next

theorem example_resolvesToFormerHolder {purchase : Purchase}
    (hpurchase : purchase ∈ [examplePurchase, exampleResolverPurchase]) :
    ResolvesToFormerHolder purchase := by
  have hresolves : ((Controller.register Deployment.lowAddresses (fun _ world => some world) 21
      1001 1800000000 purchase).run exampleResolving).toOption.map (fun result =>
        ((result.2.registry.records exampleNode).owner,
          (result.2.registry.records exampleNode).resolver, result.2.resolver.addr exampleNode)) =
        some (1003, 3, 1002) := by
    revert purchase
    decide +kernel
  have hsupplied : purchase.suppliedResolver exampleResolving.rootRegistry = 0 ∨
      purchase.suppliedResolver exampleResolving.rootRegistry = 3 ∧
        purchase.resolvedAddress = 0 := by
    revert purchase
    decide +kernel
  obtain ⟨⟨value, next⟩, hrun, hread⟩ := Option.map_eq_some_iff.mp hresolves
  simp only [Prod.mk.injEq] at hread
  obtain ⟨howner, hresolver, haddr⟩ := hread
  have hok : ∀ {result : Except (Revert (Error (List (List UInt8)) (List UInt8)))
      ((List (List UInt8) × ℕ) × World (List (List UInt8)) (List UInt8))},
      result.toOption = some (value, next) → result = .ok (value, next) := by
    rintro (_ | _) hsome
    · cases hsome
    · exact congrArg Except.ok (Option.some.inj hsome)
  refine ⟨value, next, hok hrun, howner, hresolver, haddr, fun hclean => ?_⟩
  rcases hsupplied with hnone | ⟨hpublic, hnone⟩
  · have hzero := hclean.resolver
    rw [hresolver, hnone] at hzero
    exact absurd hzero (by decide)
  · rw [hpublic] at hclean
    have hread := hclean.addr (by decide) rfl
    rw [haddr, hnone] at hread
    exact absurd hread (by decide)

/-- Bought without a resolver or with the public one, "alice" resolves to its former holder. -/
theorem registration_resolves_to_former_holder :
    ResolvesToFormerHolder examplePurchase ∧ ResolvesToFormerHolder exampleResolverPurchase :=
  ⟨example_resolvesToFormerHolder (by simp), example_resolvesToFormerHolder (by simp)⟩

end WizPay.Ans
