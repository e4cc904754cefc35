import WizPay.Ans.Frames

/-!
# A name has one holder at a time

After a name is registered, nobody registers it again before its grace period is over. Until
then its term only grows, by renewals, and it changes hands only while the term runs and with
the authority of its holder.
-/

namespace WizPay.Ans

open Foundation Evm

variable {Node Label : Type} [DecidableEq Node] [DecidableEq Label]
variable {d : Deployment Node Label} {self : Address} {id : Label} {world : World Node Label}
  {frame : Frame Node Label}

/-! ## Frames for others -/

/-- A frame for another contract leaves a registrar as it is. -/
theorem step_registrar {registrar : NamespaceRegistrar Node Label}
    (hregistrar : world.registrars self = some registrar)
    (hmessage : ∀ call, frame.message ≠ .registrar self call) :
    (step d world frame).registrars self = some registrar := by
  refine step_effect (fun next => next.registrars self = some registrar) hregistrar
    fun next _ heffect => ?_
  cases heffect with
  | registrar other call called next hcall _ heffect =>
      have hframe := heffect.frame.2 self
      rw [hframe fun hself => hmessage call (hself ▸ hcall)]
      exact hregistrar
  | root call next _ heffect =>
      rcases heffect.opens_or with ⟨created, _, _, _, _, _, hopens, -⟩ | ⟨hsame, -⟩
      · -- the new registrar is at a fresh address
        have hfresh := (isContract_eq_false (isFresh_iff.mp hopens.registrar_fresh).1).2.2.1
        rw [hopens.registrars, Function.update_of_ne, hregistrar]
        rintro rfl
        rw [hfresh] at hregistrar
        cases hregistrar
      · rw [hsame]
        exact hregistrar
  | _ => exact hregistrar

/-! ## One frame -/

/-- A name that was registered, and that somebody holds. -/
structure NamespaceRegistrar.Registered (registrar : NamespaceRegistrar Node Label)
    (id : Label) : Prop where
  expiry_ne_zero : registrar.expiries id ≠ 0
  held : registrar.owners id ≠ 0

/-- What a frame may do to a registered name. -/
structure NameKept (d : Deployment Node Label) (address : Address) (id : Label)
    (world : World Node Label) (frame : Frame Node Label)
    (before after : NamespaceRegistrar Node Label) : Prop where
  exclusive : ∀ owner duration, frame.message = .registrar address (.register id owner duration) →
    (frame.perform d).succeeds world = true →
      before.expiries id + GRACE_PERIOD < frame.timestamp
  expiry : after.expiries id ≠ before.expiries id →
    (∃ duration, frame.message = .registrar address (.renew id duration) ∧
      before.expiries id < after.expiries id) ∨
    ∃ owner duration, frame.message = .registrar address (.register id owner duration) ∧
      before.expiries id + GRACE_PERIOD < frame.timestamp
  owner : after.owners id ≠ before.owners id →
    (∃ target, (frame.message =
        .registrar address (.transferFrom (before.owners id) target id) ∨
          frame.message =
            .registrar address (.safeTransferFrom (before.owners id) target id true)) ∧
      frame.timestamp < before.expiries id ∧
      before.IsAuthorized (before.owners id) frame.sender id) ∨
    ∃ owner duration, frame.message = .registrar address (.register id owner duration) ∧
      before.expiries id + GRACE_PERIOD < frame.timestamp
  approval : after.tokenApprovals id ≠ before.tokenApprovals id →
    after.tokenApprovals id = 0 ∨
    ∃ approved, frame.message = .registrar address (.approve approved id) ∧
      after.tokenApprovals id = approved ∧ (before.owners id = frame.sender ∨
        before.operatorApprovals (before.owners id) frame.sender = true)
  cleared : after.owners id ≠ before.owners id → after.tokenApprovals id = 0
  operators : ∀ holder, after.operatorApprovals holder ≠ before.operatorApprovals holder →
    holder = frame.sender

theorem NameKept.of_same {before after : NamespaceRegistrar Node Label}
    (hexclusive : ∀ owner duration,
      frame.message ≠ .registrar self (.register id owner duration))
    (hexpiry : after.expiries id = before.expiries id) (howner : after.owners id = before.owners id)
    (happroval : after.tokenApprovals id = before.tokenApprovals id)
    (hoperators : after.operatorApprovals = before.operatorApprovals) :
    NameKept d self id world frame before after where
  exclusive owner duration hmessage := absurd hmessage (hexclusive owner duration)
  expiry hne := absurd hexpiry hne
  owner hne := absurd howner hne
  approval hne := absurd happroval hne
  cleared hne := absurd howner hne
  operators holder hne := absurd (congrFun hoperators holder) hne

omit [DecidableEq Node] [DecidableEq Label] in
/-- A registered name is available only when its grace period is over. -/
theorem NamespaceRegistrar.Registered.lapsed {registrar : NamespaceRegistrar Node Label} {now : ℕ}
    (hregistered : registrar.Registered id) (havailable : registrar.Available now id) :
    registrar.expiries id + GRACE_PERIOD < now :=
  havailable.elim (fun hzero => absurd hzero hregistered.expiry_ne_zero) And.right

section Effects

variable {sender : Address} {now : ℕ} {before : NamespaceRegistrar Node Label}
  {call : RegistrarCall Label} {next : World Node Label}

/-- A transfer of a token, safe or not. -/
theorem NameKept.of_transfer (frame : Frame Node Label) {target : Address} {other : Label}
    (hregistered : before.Registered id) (htarget : target ≠ 0)
    (hmessage : frame.message = .registrar self (.transferFrom (before.owners other) target other) ∨
      frame.message = .registrar self (.safeTransferFrom (before.owners other) target other true))
    (hterm : frame.timestamp < before.expiries other)
    (hauthority : before.IsAuthorized (before.owners other) frame.sender other) :
    (before.transfer other target).Registered id ∧
      NameKept d self id world frame before (before.transfer other target) := by
  have hregister : ∀ owner duration,
      frame.message ≠ .registrar self (.register id owner duration) := by
    intro owner duration hother
    rcases hmessage with hsame | hsame <;> rw [hsame] at hother <;> cases hother
  by_cases hid : id = other
  · subst hid
    have happroval : (before.transfer id target).tokenApprovals id = 0 := by
      rw [NamespaceRegistrar.transfer_tokenApprovals, if_neg hregistered.held]
    refine ⟨⟨hregistered.expiry_ne_zero, ?_⟩, ?_⟩
    · rw [NamespaceRegistrar.transfer_owners]
      exact htarget
    · exact {
        exclusive := fun owner duration hother => absurd hother (hregister owner duration)
        expiry := fun hne => absurd rfl hne
        owner := fun _ => .inl ⟨target, hmessage, hterm, hauthority⟩
        approval := fun _ => .inl happroval
        cleared := fun _ => happroval
        operators := fun holder hne => absurd rfl hne }
  · have howners := before.transfer_owners_of_ne target hid
    refine ⟨⟨hregistered.expiry_ne_zero, howners.symm ▸ hregistered.held⟩, ?_⟩
    exact .of_same hregister rfl howners (before.transfer_tokenApprovals_of_ne target hid) rfl

/-- The name after a call of its registrar. -/
theorem RegistrarEffect.nameKept (heffect : RegistrarEffect d sender now self before world call next)
    (hregistrar : world.registrars self = some before) (hregistered : before.Registered id) :
    ∃ after, next.registrars self = some after ∧ after.Registered id ∧
      NameKept d self id world ⟨sender, now, .registrar self call⟩ before after := by
  cases heffect with
  | approve approved other howned hauthority =>
      refine ⟨_, setRegistrar_self .., ⟨hregistered.expiry_ne_zero, hregistered.held⟩, ?_⟩
      by_cases hid : id = other
      · subst hid
        exact {
          exclusive := fun _ _ hmessage => nomatch hmessage
          expiry := fun hne => absurd rfl hne
          owner := fun hne => absurd rfl hne
          approval := fun _ => .inr ⟨approved, rfl, Function.update_self .., hauthority⟩
          cleared := fun hne => absurd rfl hne
          operators := fun _ hne => absurd rfl hne }
      · exact .of_same nofun rfl rfl (Function.update_of_ne hid ..) rfl
  | setApprovalForAll operator approved =>
      refine ⟨_, setRegistrar_self .., ⟨hregistered.expiry_ne_zero, hregistered.held⟩, ?_⟩
      exact {
        exclusive := fun _ _ hmessage => nomatch hmessage
        expiry := fun hne => absurd rfl hne
        owner := fun hne => absurd rfl hne
        approval := fun hne => absurd rfl hne
        cleared := fun hne => absurd rfl hne
        operators := fun holder hne => by_contra fun hholder =>
          hne (Function.update_of_ne hholder ..) }
  | transferFrom target other htarget hterm hauthority hnode =>
      exact ⟨_, setRegistrar_self .., NameKept.of_transfer ⟨sender, now, _⟩ hregistered htarget
        (.inl rfl) hterm hauthority⟩
  | safeTransferFrom target other htarget hterm hauthority hnode =>
      exact ⟨_, setRegistrar_self .., NameKept.of_transfer ⟨sender, now, _⟩ hregistered htarget
        (.inr rfl) hterm hauthority⟩
  | setController controller enabled howner =>
      exact ⟨_, setRegistrar_self .., ⟨hregistered.expiry_ne_zero, hregistered.held⟩,
        .of_same nofun rfl rfl rfl rfl⟩
  | setResolver resolver howner hnode =>
      exact ⟨before, hregistrar, hregistered, .of_same nofun rfl rfl rfl rfl⟩
  | transferOwnership newOwner howner =>
      exact ⟨_, setRegistrar_self .., ⟨hregistered.expiry_ne_zero, hregistered.held⟩,
        .of_same nofun rfl rfl rfl rfl⟩
  | renounceOwnership howner =>
      exact ⟨_, setRegistrar_self .., ⟨hregistered.expiry_ne_zero, hregistered.held⟩,
        .of_same nofun rfl rfl rfl rfl⟩
  | register other owner duration hcontroller howner hduration havailable hfits hnode =>
      refine ⟨_, setRegistrar_self .., ?_⟩
      have hoperators :
          (before.registered other owner (now + duration)).operatorApprovals =
            before.operatorApprovals := (before.registered_administration ..).1
      by_cases hid : id = other
      · subst hid
        have hlapsed := hregistered.lapsed havailable
        have happroval : (before.registered id owner (now + duration)).tokenApprovals id = 0 := by
          rw [NamespaceRegistrar.registered_tokenApprovals, if_neg hregistered.held]
        refine ⟨⟨?_, ?_⟩, ?_⟩
        · rw [NamespaceRegistrar.registered_expiries]
          omega
        · rw [NamespaceRegistrar.registered_owners]
          exact howner
        · exact {
            exclusive := fun _ _ _ _ => hlapsed
            expiry := fun _ => .inr ⟨owner, duration, rfl, hlapsed⟩
            owner := fun _ => .inr ⟨owner, duration, rfl, hlapsed⟩
            approval := fun _ => .inl happroval
            cleared := fun _ => happroval
            operators := fun holder hne => absurd (congrFun hoperators holder) hne }
      · obtain ⟨howners, happrovals, hexpiries⟩ :=
          before.registered_of_ne owner (now + duration) hid
        refine ⟨⟨hexpiries.symm ▸ hregistered.expiry_ne_zero, howners.symm ▸ hregistered.held⟩, ?_⟩
        refine .of_same (fun _ _ hmessage => ?_) hexpiries howners happrovals hoperators
        cases hmessage
        exact hid rfl
  | renew other duration hcontroller hduration hexists hgrace hlapsed hfits =>
      refine ⟨_, setRegistrar_self .., ?_⟩
      by_cases hid : id = other
      · subst hid
        have hexpiry : (before.setExpiry id (before.expiries id + duration)).expiries id =
            before.expiries id + duration := before.setExpiry_self ..
        refine ⟨⟨hexpiry.symm ▸ (by omega), hregistered.held⟩, ?_⟩
        exact {
          exclusive := fun _ _ hmessage => nomatch hmessage
          expiry := fun _ => .inl ⟨duration, rfl, by rw [hexpiry]; omega⟩
          owner := fun hne => absurd rfl hne
          approval := fun hne => absurd rfl hne
          cleared := fun hne => absurd rfl hne
          operators := fun _ hne => absurd rfl hne }
      · have hexpiry := before.setExpiry_of_ne (before.expiries other + duration) hid
        exact ⟨⟨hexpiry.symm ▸ hregistered.expiry_ne_zero, hregistered.held⟩,
          .of_same nofun hexpiry rfl rfl rfl⟩
  | reclaim other owner howner hterm howned hauthority hnode =>
      exact ⟨before, hregistrar, hregistered, .of_same nofun rfl rfl rfl rfl⟩

end Effects

theorem step_nameKept {before : NamespaceRegistrar Node Label}
    (hregistrar : world.registrars self = some before) (hregistered : before.Registered id) :
    ∃ after, (step d world frame).registrars self = some after ∧ after.Registered id ∧
      NameKept d self id world frame before after := by
  by_cases hmessage : ∃ call, frame.message = .registrar self call
  · obtain ⟨call, hcall⟩ := hmessage
    rcases frame with ⟨sender, now, message⟩
    subst hcall
    cases hsucceeds : (Frame.perform d ⟨sender, now, .registrar self call⟩).succeeds world with
    | false =>
        refine ⟨before, ?_, hregistered, ?_⟩
        · rw [step, Call.commit_of_not_succeeds hsucceeds]
          exact hregistrar
        · exact {
            exclusive := fun _ _ _ hsuccess => absurd hsuccess (by rw [hsucceeds]; exact Bool.false_ne_true)
            expiry := fun hne => absurd rfl hne
            owner := fun hne => absurd rfl hne
            approval := fun hne => absurd rfl hne
            cleared := fun hne => absurd rfl hne
            operators := fun _ hne => absurd rfl hne }
    | true =>
        obtain ⟨⟨⟩, next, hperform⟩ := Call.succeeds_iff.mp hsucceeds
        obtain ⟨hsends, hrun⟩ := Frame.perform_ok.mp hperform
        obtain ⟨registrar, hsame, heffect⟩ := RegistrarCall.effect (sends_ne_zero hsends) hrun
        obtain rfl := Option.some.inj (hregistrar.symm.trans hsame)
        rw [step, Call.commit_of_ok hperform]
        exact heffect.nameKept hregistrar hregistered
  · have hnot : ∀ call, frame.message ≠ .registrar self call :=
      fun call hcall => hmessage ⟨call, hcall⟩
    exact ⟨before, step_registrar hregistrar hnot, hregistered,
      .of_same (fun _ _ => hnot _) rfl rfl rfl rfl⟩

/-! ## Histories -/

/-- The registrar at `self` before a frame and after it, with what the frame did to a name. -/
def KeepsName (d : Deployment Node Label) (self : Address) (id : Label)
    (world : World Node Label) (frame : Frame Node Label) : Prop :=
  ∃ before after, world.registrars self = some before ∧
    (step d world frame).registrars self = some after ∧
    NameKept d self id world frame before after

theorem along_keepsName {before : NamespaceRegistrar Node Label}
    (hregistrar : world.registrars self = some before) (hregistered : before.Registered id)
    (history : List (Frame Node Label)) :
    Sequence.Along (step d) (KeepsName d self id) history world := by
  induction history generalizing world before with
  | nil => trivial
  | cons frame rest ih =>
      obtain ⟨after, hafter, hstill, hkept⟩ := step_nameKept hregistrar hregistered
      exact ⟨⟨before, after, hregistrar, hafter, hkept⟩, ih hafter hstill⟩

/-- A successful registration sets the holder and the term of the name. -/
theorem registered_of_succeeds {owner : Address} {duration : ℕ}
    (hmessage : frame.message = .registrar self (.register id owner duration))
    (hsucceeds : (frame.perform d).succeeds world = true) :
    ∃ registrar, (step d world frame).registrars self = some registrar ∧
      registrar.owners id = owner ∧ registrar.expiries id = frame.timestamp + duration ∧
      registrar.Registered id := by
  obtain ⟨⟨⟩, next, hperform⟩ := Call.succeeds_iff.mp hsucceeds
  obtain ⟨hsends, hrun⟩ := Frame.perform_ok.mp hperform
  rcases frame with ⟨sender, now, message⟩
  cases hmessage
  have hregister : ((RegistrarCall.register id owner duration).perform d sender now self).run
      world = .ok (PUnit.unit, next) := hrun
  obtain ⟨registrar, hregistrar, heffect⟩ := RegistrarCall.effect (sends_ne_zero hsends) hregister
  rw [step, Call.commit_of_ok hperform]
  cases heffect with
  | register _ _ _ hcontroller howner hduration =>
      have howners : (registrar.registered id owner (now + duration)).owners id = owner :=
        registrar.registered_owners ..
      have hexpiry : (registrar.registered id owner (now + duration)).expiries id =
          now + duration := registrar.registered_expiries ..
      refine ⟨_, setRegistrar_self .., howners, hexpiry, ?_, ?_⟩
      · rw [hexpiry]
        omega
      · rw [howners]
        exact howner

/-- After a registration, through every history: no other registration before the grace
period is over, a term that only renewals extend, and a holder who alone, or through those
approved, lets the name go while its term runs. -/
theorem name_exclusive {owner : Address} {duration : ℕ}
    (hmessage : frame.message = .registrar self (.register id owner duration))
    (hsucceeds : (frame.perform d).succeeds world = true) (history : List (Frame Node Label)) :
    (∃ registrar, (step d world frame).registrars self = some registrar ∧
      registrar.owners id = owner ∧ registrar.expiries id = frame.timestamp + duration) ∧
    Sequence.Along (step d) (KeepsName d self id) history (step d world frame) := by
  obtain ⟨registrar, hregistrar, howner, hexpiry, hregistered⟩ :=
    registered_of_succeeds hmessage hsucceeds
  exact ⟨⟨registrar, hregistrar, howner, hexpiry⟩, along_keepsName hregistrar hregistered history⟩

/-- The namespace "usdc", whose owner is a controller of its registrar. -/
def exampleNamespace : World (List (List UInt8)) (List UInt8) :=
  Sequence.run (step Deployment.lowAddresses)
    [exampleCreation, ⟨1001, 1700000010, .registrar 20 (.setController 1001 true)⟩] exampleWorld

/-- The owner registers "alice" for account 1002 for a year. -/
def exampleRegistration : Frame (List (List UInt8)) (List UInt8) where
  sender := 1001
  timestamp := 1700000020
  message := .registrar 20 (.register [0x61, 0x6C, 0x69, 0x63, 0x65] 1002 31536000)

theorem name_exclusive_alice :
    Sequence.Along (step Deployment.lowAddresses)
      (KeepsName Deployment.lowAddresses 20 [0x61, 0x6C, 0x69, 0x63, 0x65])
      [⟨1001, 1700000030, .registrar 20 (.register [0x61, 0x6C, 0x69, 0x63, 0x65] 1001 1)⟩,
        ⟨1002, 1700000040, .registrar 20 (.transferFrom 1002 1003
          [0x61, 0x6C, 0x69, 0x63, 0x65])⟩]
      (step Deployment.lowAddresses exampleNamespace exampleRegistration) :=
  (name_exclusive rfl (by decide +kernel) _).2

end WizPay.Ans
