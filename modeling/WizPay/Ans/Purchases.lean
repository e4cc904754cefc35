import WizPay.Ans.Deployed

/-!
# What a purchase does

A controller that sells a name takes the rent, registers the name and hands it over. Each of
its steps is a frame of its own or a call into code outside, which acts by frames as well;
so whatever holds along frames holds along purchases.
-/

namespace WizPay.Ans

open Foundation Evm

variable {Node Label α : Type} {d : Deployment Node Label} {world next : World Node Label}

/-! ## Prices are only read -/

/-- A call that writes nothing, and then another. -/
theorem reads_bind {β : Type} {call : AnsCall Node Label α} {rest : α → AnsCall Node Label β}
    (hcall : Call.Relates Eq call) (hrest : ∀ value, Call.Relates Eq (rest value)) :
    Call.Relates Eq (call >>= rest) :=
  .bind (fun _ _ _ hfirst hsecond => hfirst.trans hsecond) hcall hrest

theorem mulDiv_state (first second divisor : ℕ) :
    Call.Relates Eq (mulDiv first second divisor : AnsCall Node Label ℕ) :=
  reads_bind (.revertIf (fun _ => rfl) _ _) fun _ => .pure (fun _ => rfl) _

theorem mulDivCeil_state (first second divisor : ℕ) :
    Call.Relates Eq (mulDivCeil first second divisor : AnsCall Node Label ℕ) :=
  reads_bind (mulDiv_state first second divisor) fun _ =>
    reads_bind (.revertIf (fun _ => rfl) _ _) fun _ => .pure (fun _ => rfl) _

theorem Root.rentPrice_state (now : ℕ) (hash : Label) (labelLength duration : ℕ) :
    Call.Relates Eq (rentPrice now hash labelLength duration : AnsCall Node Label ℕ) := by
  refine reads_bind (.get fun _ => rfl) fun _ => ?_
  refine reads_bind (.revertIf (fun _ => rfl) _ _) fun _ => ?_
  refine reads_bind (.revertIf (fun _ => rfl) _ _) fun _ => ?_
  refine reads_bind (mulDivCeil_state _ _ _) fun _ => ?_
  dsimp only
  split
  · exact .pure (fun _ => rfl) _
  · refine reads_bind (mulDiv_state _ _ _) fun _ => ?_
    exact reads_bind (.revertIf (fun _ => rfl) _ _) fun _ => .pure (fun _ => rfl) _

/-- The resolver that a purchase with records to set up uses. -/
def Purchase.effectiveResolver (purchase : Purchase) (root : RootRegistry Label) : Address :=
  if purchase.resolver = 0 then root.defaultResolver else purchase.resolver

namespace Controller

variable {outside : Outside Node Label} {self sender : Address} {now : ℕ}

theorem bind_load_ok {rest : NamespaceController Label → AnsCall Node Label α}
    {result : α × World Node Label} (hrun : (load self >>= rest).run world = .ok result) :
    ∃ controller, world.controllers self = some controller ∧
      (rest controller).run world = .ok result := by
  rw [load, bind_assoc, Call.bind_get_ok] at hrun
  cases hcontroller : world.controllers self with
  | none =>
      rw [hcontroller] at hrun
      obtain ⟨_, _, hrevert, -⟩ := Call.bind_ok.mp hrun
      exact (Call.revert_ok.mp hrevert).elim
  | some controller =>
      rw [hcontroller, Call.bind_pure_ok] at hrun
      exact ⟨controller, rfl, hrun⟩

theorem bind_setEntered_ok {status : Bool} {rest : PUnit → AnsCall Node Label α}
    {result : α × World Node Label} :
    (setEntered self status >>= rest).run world = .ok result ↔
      (rest PUnit.unit).run (world.enter self status) = .ok result :=
  Call.bind_modify_ok

theorem nonReentrant_ok {body : NamespaceController Label → AnsCall Node Label α} {value : α}
    (hrun : (nonReentrant self body).run world = .ok (value, next)) :
    ∃ controller after, world.controllers self = some controller ∧ controller.entered = false ∧
      (body controller).run (world.enter self true) = .ok (value, after) ∧
      next = after.enter self false := by
  obtain ⟨controller, hcontroller, hguard⟩ := bind_load_ok hrun
  obtain ⟨hentered, hbody⟩ := Call.bind_revertIf_ok.mp hguard
  obtain ⟨_, after, hvalue, hleave⟩ := Call.bind_ok.mp (bind_setEntered_ok.mp hbody)
  have hlast := bind_setEntered_ok.mp hleave
  cases Call.pure_ok.mp hlast
  exact ⟨controller, after, hcontroller, Bool.not_eq_true _ ▸ hentered, hvalue, rfl⟩

/-- What the sender of a purchase pays, and to whom. -/
inductive Collected (d : Deployment Node Label) (self sender : Address) (hash : Label)
    (amount : ℕ) (world : World Node Label) : World Node Label → Prop
  | free (hamount : amount = 0) : Collected d self sender hash amount world world
  | paid (ledgers : Ledgers) (hamount : amount ≠ 0)
      (hvault : (world.rootRegistry.namespaceRecords hash).vault ≠ 0)
      (hpaid : Ledgers.transferFrom d.usdc self sender
        (world.rootRegistry.namespaceRecords hash).vault amount world.ledgers = some ledgers) :
      Collected d self sender hash amount world { world with ledgers := ledgers }

theorem collectPayment_ok {hash : Label} {amount : ℕ} {value : Unit}
    (hrun : (collectPayment d self sender hash amount).run world = .ok (value, next)) :
    Collected d self sender hash amount world next := by
  unfold collectPayment at hrun
  by_cases hamount : amount = 0
  · rw [if_pos hamount] at hrun
    cases Call.pure_ok.mp hrun
    exact .free hamount
  · rw [if_neg hamount, Call.bind_get_ok, Call.bind_revertIf_ok, Call.external_ok] at hrun
    obtain ⟨hvault, moved, hmoved, hsame⟩ := hrun
    obtain ⟨ledgers, hledgers, rfl⟩ := Option.map_eq_some_iff.mp hmoved
    cases hsame
    exact .paid ledgers hamount hvault hledgers

theorem callOutside_ok {callee : Address} {hook : Hook Node Label}
    {error : Revert (Error Node Label)} {value : Unit}
    (hrun : (callOutside d outside callee hook error).run world = .ok (value, next)) :
    outside hook world = some next := by
  rw [callOutside, Call.bind_get_ok, Call.bind_revertIf_ok, Call.external_ok] at hrun
  obtain ⟨-, after, hafter, hsame⟩ := hrun
  cases hsame
  exact hafter

variable [DecidableEq Node] [DecidableEq Label]

/-- What setting up the records of a name consists of, between buying it and handing it
over. -/
def prepare (d : Deployment Node Label) (outside : Outside Node Label) (self : Address)
    (purchase : Purchase) (node : Node) (effectiveResolver : Address) : AnsCall Node Label Unit := do
  Registry.setResolver self node effectiveResolver
  Call.when (purchase.resolvedAddress ≠ 0)
    (setAddr d outside self effectiveResolver node purchase.resolvedAddress)
  setTexts d outside self effectiveResolver node (purchase.textKeys.zip purchase.textValues)

/-- A purchase by way of the controller: bought, prepared, handed over, and the receiver
asked. -/
theorem registerWithResolver_ok {controller : NamespaceController Label} {purchase : Purchase}
    {node : Node} {value : ℕ}
    (hrun : (registerWithResolver d outside self now controller purchase node).run world =
      .ok (value, next)) :
    ∃ bought prepared handed, purchase.effectiveResolver world.rootRegistry ≠ 0 ∧
      (Registrar.register d controller.registrar self now (d.labelhash purchase.label) self
        purchase.duration).run world = .ok (value, bought) ∧
      (prepare d outside self purchase node
        (purchase.effectiveResolver world.rootRegistry)).run bought = .ok ((), prepared) ∧
      (Registrar.transferFrom d controller.registrar self now self purchase.owner
        (d.labelhash purchase.label)).run prepared = .ok ((), handed) ∧
      outside (.onERC721Received purchase.owner self self (d.labelhash purchase.label)) handed =
        some next := by
  rw [registerWithResolver, Call.bind_get_ok, Call.bind_revertIf_ok] at hrun
  obtain ⟨_, bought, hregister, hresolving⟩ := Call.bind_ok.mp hrun.2
  obtain ⟨⟨⟩, resolved, hresolve, haddressing⟩ := Call.bind_ok.mp hresolving
  obtain ⟨⟨⟩, addressed, haddress, htexting⟩ := Call.bind_ok.mp haddressing
  obtain ⟨⟨⟩, prepared, htexts, hhanding⟩ := Call.bind_ok.mp htexting
  obtain ⟨⟨⟩, last, hhand, hpure⟩ := Call.bind_ok.mp hhanding
  obtain ⟨⟨⟩, handed, htransfer, hask⟩ := Call.bind_ok.mp hhand
  cases Call.pure_ok.mp hpure
  exact ⟨bought, prepared, handed, hrun.1, hregister, Call.bind_ok.mpr ⟨_, resolved, hresolve,
    Call.bind_ok.mpr ⟨_, addressed, haddress, htexts⟩⟩, htransfer, callOutside_ok hask⟩

/-- What a successful purchase consists of. -/
theorem register_ok {purchase : Purchase} {value : Node × ℕ}
    (hrun : (register d outside self sender now purchase).run world = .ok (value, next)) :
    ∃ controller registrar price paid after,
      world.controllers self = some controller ∧ controller.entered = false ∧
      Collected d self sender controller.namespaceLabelhash price (world.enter self true) paid ∧
      paid.registrars controller.registrar = some registrar ∧
      purchase.textKeys.length = purchase.textValues.length ∧
      (purchase.NeedsResolverSetup ∧ (registerWithResolver d outside self now controller purchase
          (d.subnode registrar.baseNode (d.labelhash purchase.label))).run paid =
            .ok (value.2, after) ∨
        ¬ purchase.NeedsResolverSetup ∧
          (Registrar.register d controller.registrar self now (d.labelhash purchase.label)
            purchase.owner purchase.duration).run paid = .ok (value.2, after)) ∧
      next = after.enter self false := by
  obtain ⟨controller, after, hcontroller, hentered, hbody, rfl⟩ := nonReentrant_ok hrun
  obtain ⟨labelLength, validated, hvalid, howning⟩ := Call.bind_ok.mp hbody
  obtain rfl := validateLabel_state hvalid
  rw [Call.bind_revertIf_ok, Call.bind_revertIf_ok, Call.bind_get_ok, Call.bind_revertIf_ok,
    Registrar.bind_isAvailable_ok] at howning
  obtain ⟨-, hlengths, -, _, -, -, hpricing⟩ := howning
  obtain ⟨price, priced, hprice, hcollecting⟩ := Call.bind_ok.mp hpricing
  obtain rfl := Root.rentPrice_state _ _ _ _ _ _ _ hprice
  obtain ⟨⟨⟩, paid, hcollect, hloading⟩ := Call.bind_ok.mp hcollecting
  obtain ⟨registrar, hregistrar, hselling⟩ := Registrar.bind_load_ok.mp hloading
  refine ⟨controller, registrar, price, paid, after, hcontroller, hentered,
    collectPayment_ok hcollect, hregistrar, not_not.mp hlengths, ?_, rfl⟩
  dsimp only at hselling
  split at hselling
  · next hneeds =>
      obtain ⟨expires, sold, hsold, hpure⟩ := Call.bind_ok.mp hselling
      cases Call.pure_ok.mp hpure
      exact .inl ⟨hneeds, hsold⟩
  · next hneeds =>
      obtain ⟨expires, sold, hsold, hpure⟩ := Call.bind_ok.mp hselling
      cases Call.pure_ok.mp hpure
      exact .inr ⟨hneeds, hsold⟩

end Controller

/-! ## Purchases as frames -/

section Reaching

variable [DecidableEq Node] [DecidableEq Label] {self sender : Address} {now : ℕ}
  {frame : Frame Node Label} {outside : Outside Node Label}

/-- Controllers stay where they are. -/
theorem step_controllers (hcontroller : (world.controllers self).isSome = true) :
    ((step d world frame).controllers self).isSome = true := by
  refine step_effect (fun next => (next.controllers self).isSome = true) hcontroller
    fun next _ heffect => ?_
  cases heffect with
  | registrar other call called next _ _ heffect =>
      rw [heffect.frame.1]
      exact hcontroller
  | root call next _ heffect =>
      rcases heffect.opens_or with ⟨created, _, _, _, _, _, hopens, -⟩ | ⟨hsame, -⟩
      · rw [hopens.controllers]
        by_cases hself : self = created.controller
        · rw [hself, Function.update_self]
          rfl
        · rw [Function.update_of_ne hself]
          exact hcontroller
      · rw [hsame]
        exact hcontroller
  | entered status =>
      by_cases hself : self = frame.sender
      · rw [hself, World.enter_self, Option.isSome_map, ← hself]
        exact hcontroller
      · rw [World.enter_of_ne status hself]
        exact hcontroller
  | _ => exact hcontroller

theorem Reaches.controllers (hreaches : Reaches d world next)
    (hcontroller : (world.controllers self).isSome = true) :
    (next.controllers self).isSome = true := by
  obtain ⟨frames, rfl⟩ := hreaches
  induction frames generalizing world with
  | nil => exact hcontroller
  | cons frame rest ih => exact ih (step_controllers hcontroller)

/-- Where a controller is deployed, one world can become another. -/
def Evolves (d : Deployment Node Label) (self : Address) (world next : World Node Label) : Prop :=
  (world.controllers self).isSome = true → Reaches d world next

theorem Evolves.refl (world : World Node Label) : Evolves d self world world := fun _ => .refl world

theorem Evolves.trans {third : World Node Label} (hfirst : Evolves d self world next)
    (hsecond : Evolves d self next third) : Evolves d self world third := by
  intro hcontroller
  have hreaches := hfirst hcontroller
  exact hreaches.trans (hsecond (hreaches.controllers hcontroller))

theorem Evolves.bind {β : Type} {call : AnsCall Node Label α} {rest : α → AnsCall Node Label β}
    (hcall : Call.Relates (Evolves d self) call)
    (hrest : ∀ value, Call.Relates (Evolves d self) (rest value)) :
    Call.Relates (Evolves d self) (call >>= rest) :=
  Call.Relates.bind (fun _ _ _ hfirst hsecond => hfirst.trans hsecond) hcall hrest

/-- Code outside acts by frames, like everybody. -/
def Outside.ByFrames (d : Deployment Node Label) (outside : Outside Node Label) : Prop :=
  ∀ hook world next, outside hook world = some next → Reaches d world next

/-- A message of a controller is a frame. -/
theorem Message.evolves (hself : self ≠ 0) (now : ℕ) (message : Message Node Label) :
    Call.Relates (Evolves d self) (message.perform d self now) := by
  intro world value next hrun hcontroller
  refine .of_message ?_ hrun
  rw [World.sends, hcontroller, Bool.or_true, Bool.and_true, bne_iff_ne]
  exact hself

namespace Controller

theorem Collected.evolves (hself : self ≠ 0) {hash : Label} {amount : ℕ}
    (hcollected : Collected d self sender hash amount world next) : Evolves d self world next := by
  cases hcollected with
  | free hamount => exact .refl world
  | paid ledgers hamount hvault hpaid =>
      let vault := (world.rootRegistry.namespaceRecords hash).vault
      have hmoved : onLedgers (Ledgers.transferFrom d.usdc self sender vault amount) world =
          some { world with ledgers := ledgers } :=
        Option.map_eq_some_iff.mpr ⟨ledgers, hpaid, rfl⟩
      exact Message.evolves hself 0 (.token d.usdc (.transferFrom sender vault amount))
        world () _ (Call.external_ok.mpr ⟨_, hmoved, rfl⟩)

omit [DecidableEq Node] [DecidableEq Label] in
theorem callOutside_evolves [DecidableEq Node] [DecidableEq Label]
    (houtside : outside.ByFrames d) (callee : Address) (hook : Hook Node Label)
    (error : Revert (Error Node Label)) :
    Call.Relates (Evolves d self) (callOutside d outside callee hook error) :=
  fun world _ next hrun _ => houtside hook world next (callOutside_ok hrun)

theorem setAddr_evolves (hself : self ≠ 0) (houtside : outside.ByFrames d) (resolver : Address)
    (node : Node) (resolvedAddress : Address) :
    Call.Relates (Evolves d self) (setAddr d outside self resolver node resolvedAddress) := by
  unfold setAddr
  split
  · exact Message.evolves hself 0 (.resolver (.setAddr node resolvedAddress))
  · exact callOutside_evolves houtside _ _ _

theorem setText_evolves (hself : self ≠ 0) (houtside : outside.ByFrames d) (resolver : Address)
    (node : Node) (key value : String) :
    Call.Relates (Evolves d self) (setText d outside self resolver node key value) := by
  unfold setText
  split
  · exact Message.evolves hself 0 (.resolver (.setText node key value))
  · exact callOutside_evolves houtside _ _ _

theorem setTexts_evolves (hself : self ≠ 0) (houtside : outside.ByFrames d) (resolver : Address)
    (node : Node) (records : List (String × String)) :
    Call.Relates (Evolves d self) (setTexts d outside self resolver node records) := by
  induction records with
  | nil => exact .pure Evolves.refl ()
  | cons record rest ih =>
      exact Evolves.bind (setText_evolves hself houtside _ _ _ _) fun _ => ih

theorem prepare_evolves (hself : self ≠ 0) (houtside : outside.ByFrames d) (purchase : Purchase)
    (node : Node) (effectiveResolver : Address) :
    Call.Relates (Evolves d self) (prepare d outside self purchase node effectiveResolver) := by
  have hresolver : Call.Relates (Evolves d self)
      (Registry.setResolver self node effectiveResolver : AnsCall Node Label PUnit) :=
    Message.evolves hself 0 (.registry (.setResolver node effectiveResolver))
  refine Evolves.bind hresolver fun _ => ?_
  refine Evolves.bind (.when Evolves.refl fun _ => ?_) fun _ => ?_
  · exact setAddr_evolves hself houtside _ _ _
  · exact setTexts_evolves hself houtside _ _ _

end Controller

end Reaching

end WizPay.Ans
