import WizPay.Ans.Exclusivity

/-!
# When the arithmetic of a registrar is safe

A registrar adds the grace period to the term of a name whenever it looks at the name, in
arithmetic that reverts on overflow. Nothing in the registrar or the controllers bounds a
term, so that is safe exactly as long as no term is bought that leaves no room for it.
-/

namespace WizPay.Ans

open Foundation Evm

variable {Node Label α : Type} {world : World Node Label}

/-- The grace period of every name ends within the numbers of the machine. -/
def NamespaceRegistrar.GraceFits (registrar : NamespaceRegistrar Node Label) : Prop :=
  ∀ id, registrar.expiries id + GRACE_PERIOD < uint256Bound

/-! ## Calls that overflow -/

theorem bind_checkedAdd_error {first second : ℕ} {rest : ℕ → AnsCall Node Label α} :
    (checkedAdd first second >>= rest).run world = .error .arithmeticOverflow ↔
      uint256Bound ≤ first + second ∨ first + second < uint256Bound ∧
        (rest (first + second)).run world = .error .arithmeticOverflow := by
  rw [checkedAdd, bind_assoc, Call.bind_revertIf_error, Nat.not_le, pure_bind]
  simp only [and_true]

namespace Registry

theorem setSubnodeOwner_error [DecidableEq Node] {d : Deployment Node Label} {caller owner : Address}
    {node : Node} {label : Label} :
    (setSubnodeOwner d caller node label owner).run world ≠ .error .arithmeticOverflow := by
  rw [setSubnodeOwner, checkAuthorised, bind_assoc, ne_eq, Call.bind_get_error,
    Call.bind_revertIf_error]
  rintro (⟨-, hother⟩ | ⟨-, hwrite⟩)
  · cases hother
  · exact Call.modify_error hwrite

end Registry

namespace Registrar

variable {self : Address}

theorem bind_load_error {registrar : NamespaceRegistrar Node Label}
    {rest : NamespaceRegistrar Node Label → AnsCall Node Label α} {error : Revert (Error Node Label)}
    (hregistrar : world.registrars self = some registrar) :
    (load self >>= rest).run world = .error error ↔
      (rest registrar).run world = .error error := by
  rw [load, bind_assoc, Call.bind_get_error, hregistrar, pure_bind]

/-- Without the registrar a call fails, but not by its arithmetic. -/
theorem bind_load_none {rest : NamespaceRegistrar Node Label → AnsCall Node Label α}
    (hnone : world.registrars self = none) :
    (load self >>= rest).run world = .error .externalCall := by
  rw [load, bind_assoc, Call.bind_get_error, hnone, Call.bind_error]
  exact .inl rfl

theorem bind_onlyController_error {registrar : NamespaceRegistrar Node Label} {sender : Address}
    {rest : Unit → AnsCall Node Label α} :
    (onlyController registrar sender >>= rest).run world = .error .arithmeticOverflow ↔
      registrar.controllers sender = true ∧ (rest ()).run world = .error .arithmeticOverflow := by
  rw [onlyController, Call.bind_revertIf_error, Bool.not_eq_false]
  simp only [reduceCtorEq, and_false, false_or]

/-- A name that never was registered is looked at without arithmetic. -/
theorem available_error {registrar : NamespaceRegistrar Node Label} {now : ℕ} {id : Label}
    (hregistrar : world.registrars self = some registrar) :
    (available self now id).run world = .error .arithmeticOverflow ↔
      registrar.expiries id ≠ 0 ∧ uint256Bound ≤ registrar.expiries id + GRACE_PERIOD := by
  rw [available, bind_load_error hregistrar]
  by_cases hzero : registrar.expiries id = 0
  · simp only [hzero, if_true, ne_eq, not_true_eq_false, false_and, iff_false]
    exact Call.pure_error
  · simp only [hzero, if_false, bind_checkedAdd_error, ne_eq, not_false_eq_true, true_and]
    exact ⟨fun hrun => hrun.resolve_right fun hpure => Call.pure_error hpure.2, .inl⟩

variable [DecidableEq Node] [DecidableEq Label] {d : Deployment Node Label} {sender : Address}
  {now : ℕ} {id : Label} {registrar : NamespaceRegistrar Node Label}

theorem update_error {target auth : Address} :
    (update d self now target id auth).run world ≠ .error .arithmeticOverflow := by
  intro hrun
  cases hregistrar : world.registrars self with
  | none =>
      rw [update, bind_load_none hregistrar] at hrun
      cases hrun
  | some registrar =>
      rw [update, bind_load_error hregistrar, Call.bind_revertIf_error, Call.bind_revertIf_error,
        store, Call.bind_modify_error, Call.bind_error] at hrun
      rcases hrun with ⟨-, hother⟩ | ⟨-, ⟨-, hother⟩ | ⟨-, hnode | ⟨_, _, -, hpure⟩⟩⟩
      · cases hother
      · cases hother
      · exact Registry.setSubnodeOwner_error (Call.when_error.mp hnode).2
      · exact Call.pure_error hpure

theorem burn_error : (burn d self now id).run world ≠ .error .arithmeticOverflow := by
  rw [burn, ne_eq, Call.bind_error]
  rintro (hupdate | ⟨_, _, -, hcheck⟩)
  · exact update_error hupdate
  · cases (Call.revertIf_error.mp hcheck).2

theorem mint_error {target : Address} :
    (mint d self now target id).run world ≠ .error .arithmeticOverflow := by
  rw [mint, ne_eq, Call.bind_revertIf_error, Call.bind_error]
  rintro (⟨-, hother⟩ | ⟨-, hupdate | ⟨_, _, -, hcheck⟩⟩)
  · cases hother
  · exact update_error hupdate
  · cases (Call.revertIf_error.mp hcheck).2

/-- A registration overflows when it gets to the term and the term does not fit. -/
theorem register_error (hregistrar : world.registrars self = some registrar)
    (hfits : registrar.GraceFits) {owner : Address} {duration : ℕ} :
    (register d self sender now id owner duration).run world = .error .arithmeticOverflow ↔
      registrar.controllers sender = true ∧ owner ≠ 0 ∧ duration ≠ 0 ∧
        registrar.Available now id ∧ uint256Bound ≤ now + duration := by
  rw [register, bind_load_error hregistrar, bind_onlyController_error, registerName,
    Call.bind_revertIf_error, Call.bind_revertIf_error]
  simp only [reduceCtorEq, and_false, false_or]
  refine and_congr_right fun _ => and_congr_right fun _ => and_congr_right fun _ => ?_
  constructor
  · intro hrun
    rcases Call.bind_error.mp hrun with hreading | ⟨isAvailable, middle, hread, hrest⟩
    · exact absurd ((available_error hregistrar).mp hreading).2 (Nat.not_le.mpr (hfits id))
    obtain ⟨_, hsame, -, hresult⟩ := available_ok.mp hread
    obtain rfl := Option.some.inj (hregistrar.symm.trans hsame)
    cases hresult
    rcases Call.bind_revertIf_error.mp hrest with ⟨-, hother⟩ | ⟨havailable, hburning⟩
    · cases hother
    rw [bind_load_error hregistrar] at hburning
    refine ⟨?_, ?_⟩
    · exact (of_decide_eq_true (Bool.not_eq_false _ ▸ havailable)).imp_right
        fun hlapsed => ⟨hfits id, hlapsed⟩
    rcases Call.bind_error.mp hburning with hburn | ⟨_, burned, hburn, hadding⟩
    · exact absurd (Call.when_error.mp hburn).2 burn_error
    rcases bind_checkedAdd_error.mp hadding with hlarge | ⟨-, hstoring⟩
    · exact hlarge
    -- after the sum nothing can overflow
    cases (burnPrevious_ok hregistrar).mp hburn
    rw [bind_load_error (setRegistrar_self ..), store, Call.bind_modify_error] at hstoring
    rcases Call.bind_error.mp hstoring with hmint | ⟨_, _, -, hpure⟩
    · exact absurd hmint mint_error
    · exact absurd hpure Call.pure_error
  · rintro ⟨havailable, hlarge⟩
    have hread : (available self now id).run world = .ok (true, world) := by
      refine available_ok.mpr ⟨registrar, hregistrar, .inr (hfits id), ?_⟩
      rw [decide_eq_true (havailable.imp_right And.right)]
    refine Call.bind_error.mpr (.inr ⟨true, world, hread, ?_⟩)
    refine Call.bind_revertIf_error.mpr (.inr ⟨by decide, ?_⟩)
    rw [bind_load_error hregistrar]
    refine Call.bind_error.mpr (.inr ⟨_, _, (burnPrevious_ok hregistrar).mpr rfl, ?_⟩)
    exact bind_checkedAdd_error.mpr (.inl hlarge)

omit [DecidableEq Node] in
/-- A renewal overflows when it gets to the new term and the term does not fit. -/
theorem renew_error (hregistrar : world.registrars self = some registrar)
    (hfits : registrar.GraceFits) {duration : ℕ} :
    (renew self sender now id duration).run world = .error .arithmeticOverflow ↔
      registrar.controllers sender = true ∧ duration ≠ 0 ∧ registrar.expiries id ≠ 0 ∧
        ¬ registrar.Lapsed now id ∧ uint256Bound ≤ registrar.expiries id + duration := by
  rw [renew, bind_load_error hregistrar, bind_onlyController_error, Call.bind_revertIf_error,
    Call.bind_revertIf_error, bind_checkedAdd_error, Call.bind_revertIf_error,
    bind_checkedAdd_error, store, Call.bind_modify_error]
  simp only [reduceCtorEq, and_false, false_or, Nat.not_le.mpr (hfits id), hfits id, true_and,
    Call.pure_error, or_false]
  rfl

end Registrar

/-! ## Frames -/

variable [DecidableEq Node] [DecidableEq Label] {d : Deployment Node Label} {self : Address}
  {frame : Frame Node Label}

theorem Frame.perform_error :
    (frame.perform d).run world = .error .arithmeticOverflow ↔
      world.sends d frame.sender = true ∧
        (frame.message.perform d frame.sender frame.timestamp).run world =
          .error .arithmeticOverflow := by
  rw [Frame.perform, Call.bind_get_error, Call.bind_revertIf_error, Bool.not_eq_false]
  simp only [reduceCtorEq, and_false, false_or]

/-- A registration or a renewal that gets to the term leaves room for the grace period
after it. When the registrar lost its node the term is not written; it only has to fit. -/
structure LeavesRoom (d : Deployment Node Label) (address : Address) (world : World Node Label)
    (frame : Frame Node Label) : Prop where
  register : ∀ registrar id owner duration, world.registrars address = some registrar →
    frame.message = .registrar address (.register id owner duration) →
    world.sends d frame.sender = true → registrar.controllers frame.sender = true →
    owner ≠ 0 → duration ≠ 0 → registrar.Available frame.timestamp id →
      frame.timestamp + duration < uint256Bound ∧
        (world.registry.Authorised registrar.baseNode address →
          frame.timestamp + duration + GRACE_PERIOD < uint256Bound)
  renew : ∀ registrar id duration, world.registrars address = some registrar →
    frame.message = .registrar address (.renew id duration) →
    world.sends d frame.sender = true → registrar.controllers frame.sender = true →
    duration ≠ 0 → registrar.expiries id ≠ 0 → ¬ registrar.Lapsed frame.timestamp id →
      registrar.expiries id + duration + GRACE_PERIOD < uint256Bound

/-- The frame is no registration or renewal that reverts by its arithmetic. -/
def NoOverflow (d : Deployment Node Label) (self : Address) (world : World Node Label)
    (frame : Frame Node Label) : Prop :=
  ((∃ id owner duration, frame.message = .registrar self (.register id owner duration)) ∨
    ∃ id duration, frame.message = .registrar self (.renew id duration)) →
  (frame.perform d).run world ≠ .error .arithmeticOverflow

def RoomLeft (self : Address) (world : World Node Label) : Prop :=
  ∀ registrar, world.registrars self = some registrar → registrar.GraceFits

section Steps

variable {sender : Address} {now : ℕ} {before : NamespaceRegistrar Node Label}
  {call : RegistrarCall Label} {next : World Node Label}

/-- The terms after a call of the registrar. -/
theorem RegistrarEffect.expiries
    (heffect : RegistrarEffect d sender now self before world call next)
    (hregistrar : world.registrars self = some before) :
    ∃ after, next.registrars self = some after ∧
      ((∃ id owner duration, call = .register id owner duration ∧
          after.expiries = Function.update before.expiries id (now + duration)) ∨
        (∃ id duration, call = .renew id duration ∧
          after.expiries = Function.update before.expiries id (before.expiries id + duration)) ∨
        (∀ id owner duration, call ≠ .register id owner duration) ∧
          (∀ id duration, call ≠ .renew id duration) ∧ after.expiries = before.expiries) := by
  cases heffect with
  | register id owner duration =>
      refine ⟨_, setRegistrar_self .., .inl ⟨id, owner, duration, rfl, ?_⟩⟩
      unfold NamespaceRegistrar.registered
      split <;> rfl
  | renew id duration =>
      exact ⟨_, setRegistrar_self .., .inr (.inl ⟨id, duration, rfl, rfl⟩)⟩
  | setResolver | reclaim => exact ⟨before, hregistrar, .inr (.inr ⟨nofun, nofun, rfl⟩)⟩
  | _ => exact ⟨_, setRegistrar_self .., .inr (.inr ⟨nofun, nofun, rfl⟩)⟩

end Steps

/-- One term is written. -/
theorem graceFits_update {expiries : Label → ℕ} {id : Label} {expiry : ℕ}
    (hfits : ∀ other, expiries other + GRACE_PERIOD < uint256Bound) :
    (∀ other, Function.update expiries id expiry other + GRACE_PERIOD < uint256Bound) ↔
      expiry + GRACE_PERIOD < uint256Bound := by
  constructor
  · intro hall
    have hid := hall id
    rwa [Function.update_self] at hid
  · intro hexpiry other
    by_cases hother : other = id
    · rw [hother, Function.update_self]
      exact hexpiry
    · rw [Function.update_of_ne hother]
      exact hfits other

omit [DecidableEq Node] [DecidableEq Label] in
/-- A registrar that opens has sold no names yet. -/
theorem opened_graceFits (baseNode : Node) (controller owner : Address) :
    (NamespaceRegistrar.opened baseNode controller owner :
      NamespaceRegistrar Node Label).GraceFits := by
  intro id
  change 0 + GRACE_PERIOD < uint256Bound
  decide

/-- A registrar that a frame deploys opens. -/
theorem step_registrar_none (hnone : world.registrars self = none)
    {registrar : NamespaceRegistrar Node Label}
    (hregistrar : (step d world frame).registrars self = some registrar) :
    registrar.GraceFits := by
  revert hregistrar
  have hbefore : world.registrars self = some registrar → registrar.GraceFits := by
    intro hsome
    rw [hnone] at hsome
    cases hsome
  refine step_effect (fun next => next.registrars self = some registrar → registrar.GraceFits)
    hbefore fun next _ heffect => ?_
  cases heffect with
  | registrar other call called next _ hcalled heffect =>
      have hframe := heffect.frame.2 self
      rw [hframe]
      · exact hbefore
      · rintro rfl
        rw [hnone] at hcalled
        cases hcalled
  | root call next _ heffect =>
      rcases heffect.opens_or with ⟨created, _, _, _, _, _, hopens, -⟩ | ⟨hsame, -⟩
      · intro hsome
        rw [hopens.registrars] at hsome
        by_cases hself : self = created.registrar
        · rw [hself, Function.update_self] at hsome
          cases hsome
          exact opened_graceFits _ _ _
        · rw [Function.update_of_ne hself] at hsome
          exact hbefore hsome
      · rw [hsame]
        exact hbefore
  | _ => exact hbefore

/-- A frame that leaves room does not overflow. -/
theorem LeavesRoom.noOverflow (hroom : RoomLeft self world)
    (hleaves : LeavesRoom d self world frame) : NoOverflow d self world frame := by
  rcases frame with ⟨sender, now, message⟩
  rintro (⟨id, owner, duration, hmessage⟩ | ⟨id, duration, hmessage⟩) hoverflow
  · obtain ⟨hsends, hrun⟩ := Frame.perform_error.mp hoverflow
    cases hmessage
    have hregister : (Registrar.register d self sender now id owner duration).run world =
        .error .arithmeticOverflow := by
      apply (Call.bind_error.mp hrun).resolve_right
      intro hrest
      obtain ⟨_, _, _, hpure⟩ := hrest
      exact Call.pure_error hpure
    cases hregistrar : world.registrars self with
    | none =>
        rw [Registrar.register, Registrar.bind_load_none hregistrar] at hregister
        cases hregister
    | some registrar =>
        obtain ⟨hcontroller, howner, hduration, havailable, hlarge⟩ :=
          (Registrar.register_error hregistrar (hroom registrar hregistrar)).mp hregister
        have hfits := hleaves.register registrar id owner duration hregistrar rfl hsends
          hcontroller howner hduration havailable
        exact absurd hlarge (Nat.not_le.mpr hfits.1)
  · obtain ⟨hsends, hrun⟩ := Frame.perform_error.mp hoverflow
    cases hmessage
    have hrenew : (Registrar.renew self sender now id duration).run world =
        .error .arithmeticOverflow := by
      apply (Call.bind_error.mp hrun).resolve_right
      intro hrest
      obtain ⟨_, _, _, hpure⟩ := hrest
      exact Call.pure_error hpure
    cases hregistrar : world.registrars self with
    | none =>
        rw [Registrar.renew, Registrar.bind_load_none hregistrar] at hrenew
        cases hrenew
    | some registrar =>
        obtain ⟨hcontroller, hduration, hexists, hlapsed, hlarge⟩ :=
          (Registrar.renew_error hregistrar (hroom registrar hregistrar)).mp hrenew
        have hfits := hleaves.renew registrar id duration hregistrar rfl hsends hcontroller
          hduration hexists hlapsed
        omega

theorem LeavesRoom.roomLeft (hroom : RoomLeft self world)
    (hleaves : LeavesRoom d self world frame) : RoomLeft self (step d world frame) := by
  intro after hafter
  cases hregistrar : world.registrars self with
  | none => exact step_registrar_none hregistrar hafter
  | some registrar =>
      have hfits := hroom registrar hregistrar
      by_cases hmessage : ∃ call, frame.message = .registrar self call
      · obtain ⟨call, hcall⟩ := hmessage
        revert hafter
        refine step_elim (fun next => next.registrars self = some after → after.GraceFits)
          (hroom after) fun next hsends hrun hafter => ?_
        rcases frame with ⟨sender, now, message⟩
        cases hcall
        obtain ⟨called, hcalled, heffect⟩ := RegistrarCall.effect (sends_ne_zero hsends) hrun
        obtain rfl := Option.some.inj (hregistrar.symm.trans hcalled)
        obtain ⟨written, hwritten, hterms⟩ := heffect.expiries hregistrar
        obtain rfl := Option.some.inj (hwritten.symm.trans hafter)
        unfold NamespaceRegistrar.GraceFits
        rcases hterms with ⟨id, owner, duration, rfl, hterm⟩ | ⟨id, duration, rfl, hterm⟩ |
          ⟨-, -, hsame⟩
        · rw [hterm, graceFits_update hfits]
          cases heffect with
          | register _ _ _ hcontroller howner hduration havailable hsum hnode =>
              exact (hleaves.register registrar id owner duration hregistrar rfl hsends
                hcontroller howner hduration havailable).2 hnode
        · rw [hterm, graceFits_update hfits]
          cases heffect with
          | renew _ _ hcontroller hduration hexists hgrace hlapsed =>
              exact hleaves.renew registrar id duration hregistrar rfl hsends hcontroller
                hduration hexists hlapsed
        · rw [hsame]
          exact hfits
      · rw [step_registrar hregistrar fun call hcall => hmessage ⟨call, hcall⟩] at hafter
        cases hafter
        exact hfits

/-- A frame that neither overflows nor takes the room away leaves room. -/
theorem leavesRoom_of_noOverflow (hroom : RoomLeft self world)
    (hnoOverflow : NoOverflow d self world frame) (hafter : RoomLeft self (step d world frame)) :
    LeavesRoom d self world frame := by
  rcases frame with ⟨sender, now, message⟩
  refine ⟨?_, ?_⟩
  · intro registrar id owner duration hregistrar hmessage hsends hcontroller howner hduration
      havailable
    cases hmessage
    have hsum : now + duration < uint256Bound := by
      refine Nat.lt_of_not_le fun hlarge => hnoOverflow (.inl ⟨id, owner, duration, rfl⟩) ?_
      refine Frame.perform_error.mpr ⟨hsends, Call.bind_error.mpr (.inl ?_)⟩
      exact (Registrar.register_error hregistrar (hroom registrar hregistrar)).mpr
        ⟨hcontroller, howner, hduration, havailable, hlarge⟩
    refine ⟨hsum, fun hnode => ?_⟩
    have hregister := (Registrar.register_ok (d := d)).mpr ⟨registrar, hregistrar, hcontroller, howner,
      hduration, havailable, hsum, hnode, rfl⟩
    have hperform : (Frame.perform d ⟨sender, now, .registrar self (.register id owner duration)⟩).run
        world = .ok (PUnit.unit, _) :=
      Frame.perform_ok.mpr ⟨hsends, Call.bind_ok.mpr ⟨_, _, hregister, rfl⟩⟩
    rw [step, Call.commit_of_ok hperform] at hafter
    have hid := hafter _ (setRegistrar_self ..) id
    rwa [NamespaceRegistrar.registered_expiries] at hid
  · intro registrar id duration hregistrar hmessage hsends hcontroller hduration hexists hlapsed
    cases hmessage
    have hgrace := hroom registrar hregistrar
    have hsum : registrar.expiries id + duration < uint256Bound := by
      refine Nat.lt_of_not_le fun hlarge => hnoOverflow (.inr ⟨id, duration, rfl⟩) ?_
      refine Frame.perform_error.mpr ⟨hsends, Call.bind_error.mpr (.inl ?_)⟩
      exact (Registrar.renew_error hregistrar hgrace).mpr
        ⟨hcontroller, hduration, hexists, hlapsed, hlarge⟩
    have hrenew := Registrar.renew_ok.mpr ⟨registrar, hregistrar, hcontroller, hduration, hexists,
      hgrace id, hlapsed, hsum, rfl⟩
    have hperform : (Frame.perform d ⟨sender, now, .registrar self (.renew id duration)⟩).run
        world = .ok (PUnit.unit, _) :=
      Frame.perform_ok.mpr ⟨hsends, Call.bind_ok.mpr ⟨_, _, hrenew, rfl⟩⟩
    rw [step, Call.commit_of_ok hperform] at hafter
    have hid := hafter _ (setRegistrar_self ..) id
    rwa [NamespaceRegistrar.setExpiry_self] at hid

/-! ## Histories -/

/-- No look at a name overflows, and a name whose grace period is over can be registered
again, by any controller, for any term that fits. -/
structure ArithmeticSafe (d : Deployment Node Label) (self : Address)
    (world : World Node Label) : Prop where
  grace : RoomLeft self world
  available : ∀ now id, (Registrar.available self now id).run world ≠ .error .arithmeticOverflow
  again : ∀ registrar sender now id owner duration, world.registrars self = some registrar →
    world.registry.Authorised registrar.baseNode self → registrar.Lapsed now id →
    registrar.controllers sender = true → owner ≠ 0 → duration ≠ 0 →
    now + duration < uint256Bound →
      (Registrar.register d self sender now id owner duration).succeeds world = true

theorem arithmeticSafe_iff : ArithmeticSafe d self world ↔ RoomLeft self world := by
  refine ⟨ArithmeticSafe.grace, fun hroom => ⟨hroom, fun now id hoverflow => ?_, ?_⟩⟩
  · cases hregistrar : world.registrars self with
    | none =>
        rw [Registrar.available, Registrar.bind_load_none hregistrar] at hoverflow
        cases hoverflow
    | some registrar =>
        have hlarge := ((Registrar.available_error hregistrar).mp hoverflow).2
        exact absurd hlarge (Nat.not_le.mpr (hroom registrar hregistrar id))
  · intro registrar sender now id owner duration hregistrar hnode hlapsed hcontroller howner
      hduration hfits
    exact Call.succeeds_iff.mpr ⟨_, _, Registrar.register_ok.mpr ⟨registrar, hregistrar,
      hcontroller, howner, hduration, .inr ⟨hroom registrar hregistrar id, hlapsed⟩, hfits, hnode,
      rfl⟩⟩

/-- From before a registrar is deployed: its arithmetic is safe at every moment, and no
registration or renewal overflows, if and only if each of them leaves room. -/
theorem registrar_arithmetic_safe (hnone : world.registrars self = none)
    (frames : List (Frame Node Label)) :
    Sequence.Along (step d) (LeavesRoom d self) frames world ↔
      (∀ first rest, frames = first ++ rest →
        ArithmeticSafe d self (Sequence.run (step d) first world)) ∧
      Sequence.Along (step d) (NoOverflow d self) frames world := by
  have hstart : RoomLeft self world := by
    intro registrar hregistrar
    rw [hnone] at hregistrar
    cases hregistrar
  have hiff : Sequence.Along (step d) (NoOverflow d self) frames world →
      (Sequence.Along (step d) (LeavesRoom d self) frames world ↔ ∀ first rest,
        frames = first ++ rest → RoomLeft self (Sequence.run (step d) first world)) :=
    fun hvalid => Sequence.along_iff_fact (fun _ hroom => hroom)
      (fun _ _ hroom hnoOverflow => ⟨fun hleaves => hleaves.roomLeft hroom,
        leavesRoom_of_noOverflow hroom hnoOverflow⟩)
      (fun _ _ hroom _ hleaves => hleaves.roomLeft hroom) hvalid hstart
  simp only [arithmeticSafe_iff]
  constructor
  · intro hleaves
    have hvalid : Sequence.Along (step d) (NoOverflow d self) frames world :=
      Sequence.along_of_invariant (fun _ _ hroom hcondition =>
        ⟨hcondition.noOverflow hroom, hcondition.roomLeft hroom⟩) hstart hleaves
    exact ⟨(hiff hvalid).mp hleaves, hvalid⟩
  · rintro ⟨hroom, hvalid⟩
    exact (hiff hvalid).mpr hroom

/-- A registration of "alice" for a year leaves room, so nothing overflowed. -/
theorem registrar_arithmetic_safe_alice :
    Sequence.Along (step Deployment.lowAddresses) (NoOverflow Deployment.lowAddresses 20)
      [exampleCreation, ⟨1001, 1700000010, .registrar 20 (.setController 1001 true)⟩,
        exampleRegistration] exampleWorld := by
  refine ((registrar_arithmetic_safe (d := Deployment.lowAddresses) (by decide +kernel) _).mp ?_).2
  refine ⟨⟨nofun, nofun⟩, ⟨nofun, nofun⟩, ⟨?_, nofun⟩, trivial⟩
  intro _ _ _ _ _ hmessage _ _ _ _ _
  cases hmessage
  exact ⟨by decide, fun _ => by decide⟩

/-- The namespace "usdc", which gives its names away. -/
def exampleGiveaway : World (List (List UInt8)) (List UInt8) :=
  step Deployment.lowAddresses exampleWorld
    { exampleCreation with
      message := .root (.registerNamespace ⟨20, 21, 22⟩ [0x75, 0x73, 0x64, 0x63] 1001 ⟨0, 0, 0⟩
        ⟨false, 0, 0, 0⟩) }

/-- "alice" for as long as a term can be. -/
def exampleForever : Purchase where
  label := [0x61, 0x6C, 0x69, 0x63, 0x65]
  owner := 1002
  duration := 2 ^ 256 - 1 - 1700000020
  resolver := 0
  resolvedAddress := 0
  textKeys := []
  textValues := []

/-- One free registration, and every later look at the name overflows: it is never
available again, whatever the time. -/
theorem registrar_overflow_forever :
    (Controller.register Deployment.lowAddresses (fun _ _ => none) 21 1002 1700000020
      exampleForever).succeeds exampleGiveaway = true ∧
    ∀ now, (Registrar.available 20 now [0x61, 0x6C, 0x69, 0x63, 0x65]).run
      ((Controller.register Deployment.lowAddresses (fun _ _ => none) 21 1002 1700000020
        exampleForever).commit exampleGiveaway) = .error .arithmeticOverflow := by
  refine ⟨by decide +kernel, fun now => ?_⟩
  obtain ⟨registrar, hregistrar, hexpiry⟩ : ∃ registrar,
      ((Controller.register Deployment.lowAddresses (fun _ _ => none) 21 1002 1700000020
        exampleForever).commit exampleGiveaway).registrars 20 = some registrar ∧
      registrar.expiries [0x61, 0x6C, 0x69, 0x63, 0x65] = 2 ^ 256 - 1 := by
    rw [← Option.map_eq_some_iff]
    decide +kernel
  rw [Registrar.available_error hregistrar, hexpiry]
  decide

end WizPay.Ans
