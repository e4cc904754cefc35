import WizPay.Ans.Deployed

/-!
# What controllers send

A controller only sends the calls that its code makes. It approves nobody, so in every
history in which the controllers keep to their code nobody ever acts for one of them.
-/

namespace WizPay.Ans

open Foundation Evm

variable {Node Label : Type}

/-- The calls in the code of a controller. -/
def Message.sentByControllers : Message Node Label → Bool
  | .registry (.setResolver _ _) => true
  | .resolver (.setAddr _ _) => true
  | .resolver (.setText _ _ _) => true
  | .registrar _ (.register _ _ _) => true
  | .registrar _ (.renew _ _) => true
  | .registrar _ (.transferFrom _ _ _) => true
  | .registrar _ (.safeTransferFrom _ _ _ _) => true
  | .token _ (.transferFrom _ _ _) => true
  | .entered _ => true
  | _ => false

/-- A frame of a controller is one that its code sends. -/
def Frame.Coded (world : World Node Label) (frame : Frame Node Label) : Prop :=
  (world.controllers frame.sender).isSome = true → frame.message.sentByControllers = true

instance (world : World Node Label) (frame : Frame Node Label) : Decidable (frame.Coded world) :=
  inferInstanceAs (Decidable (_ → _))

/-- Nobody acts for an account that is not outside: no such account approves operators. -/
structure Unapproving (d : Deployment Node Label) (world : World Node Label) : Prop where
  controllers : ∀ account, (world.controllers account).isSome = true →
    d.external account = false
  operators : ∀ account, d.external account = false →
    ∀ operator, world.registry.operators account operator = false
  approvals : ∀ account, d.external account = false →
    ∀ address registrar, world.registrars address = some registrar →
      ∀ operator, registrar.operatorApprovals account operator = false

section

variable [DecidableEq Node] [DecidableEq Label] {d : Deployment Node Label}
  {world next : World Node Label} {frame : Frame Node Label}

omit [DecidableEq Label] in
/-- Only one call of the registry writes operators. -/
theorem RegistryCall.operators {call : RegistryCall Node Label} {sender : Address} {value : PUnit}
    (hrun : (call.perform d sender).run world = .ok (value, next)) :
    next.registry.operators = world.registry.operators ∨
      ∃ operator approved, call = .setApprovalForAll operator approved := by
  cases call with
  | setApprovalForAll operator approved => exact .inr ⟨operator, approved, rfl⟩
  | setSubnodeOwner node label owner =>
      cases (Registry.setSubnodeOwner_ok.mp hrun).2
      exact .inl rfl
  | setResolver node resolver =>
      cases (Registry.setResolver_ok.mp hrun).2
      exact .inl rfl
  | _ =>
      cases (Registry.bind_checkAuthorised_ok.mp hrun).2
      exact .inl rfl

omit [DecidableEq Node] [DecidableEq Label] in
/-- An account that is not outside sends what the code of a controller sends. -/
theorem Frame.Coded.sent (hcoded : frame.Coded world)
    (hsends : world.sends d frame.sender = true) (hinternal : d.external frame.sender = false) :
    frame.message.sentByControllers = true := by
  rw [World.sends, hinternal, Bool.false_or, Bool.and_eq_true] at hsends
  exact hcoded hsends.2

/-- What a frame does to the approvals that accounts have given in the registrars. -/
theorem RegistrarEffect.operatorApprovals {sender self : Address} {now : ℕ}
    {registrar : NamespaceRegistrar Node Label} {call : RegistrarCall Label}
    (heffect : RegistrarEffect d sender now self registrar world call next)
    (hregistrar : world.registrars self = some registrar) :
    ∃ after, next.registrars = Function.update world.registrars self (some after) ∧
      (after.operatorApprovals = registrar.operatorApprovals ∨
        ∃ operator approved, call = .setApprovalForAll operator approved ∧
          after = registrar.setApprovalForAll sender operator approved) := by
  cases heffect with
  | setApprovalForAll operator approved => exact ⟨_, rfl, .inr ⟨operator, approved, rfl, rfl⟩⟩
  | setResolver | reclaim =>
      exact ⟨registrar, (Function.update_eq_self_iff.mpr hregistrar.symm).symm, .inl rfl⟩
  | register id owner duration =>
      exact ⟨_, rfl, .inl (registrar.registered_administration _ _).1⟩
  | _ => exact ⟨_, rfl, .inl rfl⟩

namespace Unapproving

variable (hunapproving : Unapproving d world)
include hunapproving

omit [DecidableEq Node] [DecidableEq Label] in
theorem of_same (hcontrollers : next.controllers = world.controllers)
    (hoperators : ∀ account, d.external account = false →
      next.registry.operators account = world.registry.operators account)
    (hregistrars : next.registrars = world.registrars) : Unapproving d next where
  controllers := by
    rw [hcontrollers]
    exact hunapproving.controllers
  operators account hinternal operator := by
    rw [hoperators account hinternal]
    exact hunapproving.operators account hinternal operator
  approvals := by
    rw [hregistrars]
    exact hunapproving.approvals

omit [DecidableEq Node] [DecidableEq Label] in
/-- A registrar in which no further account inside has approved anybody. -/
theorem setRegistrar {self : Address} {after : NamespaceRegistrar Node Label}
    (hafter : ∀ account, d.external account = false →
      ∀ operator, after.operatorApprovals account operator = false)
    (hcontrollers : next.controllers = world.controllers)
    (hoperators : next.registry.operators = world.registry.operators)
    (hregistrars : next.registrars = Function.update world.registrars self (some after)) :
    Unapproving d next where
  controllers := by
    rw [hcontrollers]
    exact hunapproving.controllers
  operators := by
    rw [hoperators]
    exact hunapproving.operators
  approvals account hinternal address registrar hregistrar operator := by
    rw [hregistrars] at hregistrar
    by_cases haddress : address = self
    · rw [haddress, Function.update_self] at hregistrar
      cases hregistrar
      exact hafter account hinternal operator
    · rw [Function.update_of_ne haddress] at hregistrar
      exact hunapproving.approvals account hinternal address registrar hregistrar operator

theorem opens {created : Created} {hash : Label} {namespaceOwner : Address}
    {pricing : PricingConfig} {promo : PromoConfig} {record : NamespaceRecord}
    (hopens : Opens d created hash namespaceOwner pricing promo record world next) :
    Unapproving d next where
  controllers account haccount := by
    rw [hopens.controllers] at haccount
    by_cases hcreated : account = created.controller
    · rw [hcreated]
      exact (isFresh_iff.mp hopens.controller_fresh).2.1
    · rw [Function.update_of_ne hcreated] at haccount
      exact hunapproving.controllers account haccount
  operators := by
    rw [hopens.registry]
    exact hunapproving.operators
  approvals account hinternal address registrar hregistrar operator := by
    rw [hopens.registrars] at hregistrar
    by_cases haddress : address = created.registrar
    · rw [haddress, Function.update_self] at hregistrar
      cases hregistrar
      rfl
    · rw [Function.update_of_ne haddress] at hregistrar
      exact hunapproving.approvals account hinternal address registrar hregistrar operator

omit [DecidableEq Node] [DecidableEq Label] in
theorem enter (self : Address) (status : Bool) : Unapproving d (world.enter self status) where
  controllers account haccount := by
    by_cases hself : account = self
    · rw [hself, World.enter_self, Option.isSome_map] at haccount
      exact hself ▸ hunapproving.controllers self haccount
    · rw [World.enter_of_ne status hself] at haccount
      exact hunapproving.controllers account haccount
  operators := hunapproving.operators
  approvals := hunapproving.approvals

/-- Coded frames leave the accounts that are not outside without operators. -/
theorem step (hcoded : frame.Coded world) : Unapproving d (Ans.step d world frame) := by
  -- the registry's own calls, of which only an approval writes operators
  have hregistry : ∀ call next, world.sends d frame.sender = true →
      frame.message = .registry call → ((call.perform d frame.sender).run world =
        .ok (PUnit.unit, next)) → ∀ account, d.external account = false →
        next.registry.operators account = world.registry.operators account := by
    intro call next hsends hmessage hrun account hinternal
    rcases RegistryCall.operators hrun with hsame | ⟨operator, approved, rfl⟩
    · rw [hsame]
    · refine (RegistryCall.effect hrun).2.operators account ?_
      rintro rfl
      have hsent := hcoded.sent hsends hinternal
      rw [hmessage] at hsent
      cases hsent
  refine step_elim (Unapproving d) hunapproving fun next hsends hrun => ?_
  cases Message.effect hsends hrun with
  | registry call registry hmessage hwrites =>
      rw [hmessage] at hrun
      exact hunapproving.of_same rfl (hregistry call _ hsends hmessage hrun) rfl
  | registrar self call registrar next hmessage hregistrar heffect =>
      obtain ⟨after, hregistrars, hafter⟩ := heffect.operatorApprovals hregistrar
      have hframe := heffect.frame.1
      refine hunapproving.setRegistrar ?_ (by rw [hframe]) heffect.registry.1 hregistrars
      intro account hinternal operator
      have hbefore := hunapproving.approvals account hinternal self registrar hregistrar operator
      rcases hafter with hsame | ⟨other, approved, rfl, rfl⟩
      · rw [hsame]
        exact hbefore
      · have hne : account ≠ frame.sender := by
          rintro rfl
          have hsent := hcoded.sent hsends hinternal
          rw [hmessage] at hsent
          cases hsent
        change Function.update registrar.operatorApprovals frame.sender _ account operator = false
        rw [Function.update_of_ne hne]
        exact hbefore
  | root call next hmessage heffect =>
      rcases heffect.opens_or with ⟨created, hash, _, _, _, _, hopens, -⟩ | ⟨hsame, -⟩
      · exact hunapproving.opens hopens
      · rw [hsame]
        exact hunapproving.of_same rfl (fun _ _ => rfl) rfl
  | entered status hmessage => exact hunapproving.enter frame.sender status
  | _ => exact hunapproving.of_same rfl (fun _ _ => rfl) rfl

theorem run {frames : List (Frame Node Label)}
    (hcoded : Sequence.Along (Ans.step d) (fun world frame => frame.Coded world) frames world) :
    Unapproving d (Sequence.run (Ans.step d) frames world) := by
  induction frames generalizing world with
  | nil => exact hunapproving
  | cons frame rest ih => exact ih (hunapproving.step hcoded.1) hcoded.2

end Unapproving

/-- A state of the name service in which the controllers have kept to their code. -/
def ReachableByCode (d : Deployment Node Label) (world : World Node Label) : Prop :=
  ∃ deployer platformVault defaultResolver initialOwner ledgers value start history,
    d.external deployer = true ∧
    (Root.construct platformVault defaultResolver initialOwner).run
      (World.launched d deployer platformVault ledgers) = .ok (value, start) ∧
    Sequence.Along (Ans.step d) (fun world frame => frame.Coded world) history start ∧
    world = Sequence.run (Ans.step d) history start

theorem ReachableByCode.reachable (hreachable : ReachableByCode d world) : Reachable d world := by
  obtain ⟨deployer, platformVault, defaultResolver, initialOwner, ledgers, value, start, history,
    hdeployer, hconstruct, -, hrun⟩ := hreachable
  exact ⟨deployer, platformVault, defaultResolver, initialOwner, ledgers, value, start, hdeployer,
    hconstruct, history, hrun⟩

omit [DecidableEq Label] in
theorem unapproving_launched {deployer platformVault defaultResolver initialOwner : Address}
    {ledgers : Ledgers} {value : PUnit} (hdeployer : d.external deployer = true)
    (hrun : (Root.construct platformVault defaultResolver initialOwner).run
      (World.launched d deployer platformVault ledgers) = .ok (value, world)) :
    Unapproving d world := by
  obtain ⟨-, hset⟩ := Call.bind_revertIf_ok.mp hrun
  have hvault := Root.bind_update_ok.mp hset
  rw [Root.writePlatformVault, bind_assoc, Call.bind_revertIf_ok] at hvault
  have hresolver := Root.bind_update_ok.mp hvault.2
  cases Root.update_ok.mp (Call.bind_revertIf_ok.mp hresolver).2
  constructor
  · intro _ hsome
    cases hsome
  · intro account hinternal operator
    refine decide_eq_false fun hboth => ?_
    rw [hboth.1, hdeployer] at hinternal
    cases hinternal
  · intro _ _ _ _ hnone
    cases hnone

theorem ReachableByCode.unapproving (hreachable : ReachableByCode d world) : Unapproving d world := by
  obtain ⟨_, _, _, _, _, _, _, _, hdeployer, hconstruct, hcoded, rfl⟩ := hreachable
  exact (unapproving_launched hdeployer hconstruct).run hcoded

end

end WizPay.Ans
