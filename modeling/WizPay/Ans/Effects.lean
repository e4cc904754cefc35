import Mathlib.Tactic.Tauto
import WizPay.Ans.Calls

/-!
# What the calls do

A successful call of a registrar changes one thing: an approval, the holder, the term or
the node of one name, or its own administration. A successful call of the registry writes
under the authority of its caller over the node or its parent.
-/

namespace WizPay.Ans

open Foundation Evm

variable {Node Label α : Type} {world : World Node Label}

/-! ## Statements -/

theorem checkedAdd_ok {first second : ℕ} {result : ℕ × World Node Label} :
    (checkedAdd first second).run world = .ok result ↔
      first + second < uint256Bound ∧ (first + second, world) = result := by
  rw [checkedAdd, Call.bind_revertIf_ok, Call.pure_ok, Nat.not_le]

theorem bind_checkedAdd_ok {first second : ℕ} {rest : ℕ → AnsCall Node Label α}
    {result : α × World Node Label} :
    (checkedAdd first second >>= rest).run world = .ok result ↔
      first + second < uint256Bound ∧ (rest (first + second)).run world = .ok result := by
  rw [Call.bind_ok]
  constructor
  · rintro ⟨_, _, hsum, hrest⟩
    obtain ⟨hfits, hsame⟩ := checkedAdd_ok.mp hsum
    cases hsame
    exact ⟨hfits, hrest⟩
  · rintro ⟨hfits, hrest⟩
    exact ⟨_, world, checkedAdd_ok.mpr ⟨hfits, rfl⟩, hrest⟩

@[simp] theorem setRegistrar_self (self : Address) (registrar : NamespaceRegistrar Node Label) :
    (world.setRegistrar self registrar).registrars self = some registrar :=
  Function.update_self ..

theorem setRegistrar_of_ne {self other : Address} (hother : other ≠ self)
    (registrar : NamespaceRegistrar Node Label) :
    (world.setRegistrar self registrar).registrars other = world.registrars other :=
  Function.update_of_ne hother ..

theorem setRegistrar_same {self : Address} {registrar : NamespaceRegistrar Node Label}
    (hregistrar : world.registrars self = some registrar) :
    world.setRegistrar self registrar = world := by
  rw [World.setRegistrar, ← hregistrar, Function.update_eq_self]

@[simp] theorem setRegistrar_setRegistrar (self : Address)
    (first second : NamespaceRegistrar Node Label) :
    (world.setRegistrar self first).setRegistrar self second = world.setRegistrar self second := by
  simp [World.setRegistrar]

namespace Registry

variable {node : Node} {caller : Address} {result : α × World Node Label}

theorem bind_checkAuthorised_ok {rest : Unit → AnsCall Node Label α} :
    (checkAuthorised node caller >>= rest).run world = .ok result ↔
      world.registry.Authorised node caller ∧ (rest ()).run world = .ok result := by
  rw [checkAuthorised, bind_assoc, Call.bind_get_ok, Call.bind_revertIf_ok, not_not]

theorem update_ok {change : ArcRegistry Node → ArcRegistry Node}
    {result : PUnit × World Node Label} :
    (update change).run world = .ok result ↔
      (PUnit.unit, { world with registry := change world.registry }) = result :=
  Call.modify_ok

theorem setSubnodeOwner_ok [DecidableEq Node] {d : Deployment Node Label} {label : Label}
    {owner : Address} {result : PUnit × World Node Label} :
    (setSubnodeOwner d caller node label owner).run world = .ok result ↔
      world.registry.Authorised node caller ∧
        (PUnit.unit, world.setNodeOwner (d.subnode node label) owner) = result := by
  rw [setSubnodeOwner, bind_checkAuthorised_ok, update_ok]
  rfl

theorem setResolver_ok [DecidableEq Node] {resolver : Address}
    {result : PUnit × World Node Label} :
    (setResolver caller node resolver).run world = .ok result ↔
      world.registry.Authorised node caller ∧ (PUnit.unit,
        { world with registry := world.registry.setResolver node resolver }) = result := by
  rw [setResolver, bind_checkAuthorised_ok, update_ok]

end Registry

theorem Resolver.bind_checkAuthorised_ok {node : Node} {account : Address}
    {rest : Unit → AnsCall Node Label α} {result : α × World Node Label} :
    (Resolver.checkAuthorised node account >>= rest).run world = .ok result ↔
      world.registry.Resolves node account ∧ (rest ()).run world = .ok result := by
  rw [Resolver.checkAuthorised, bind_assoc, Call.bind_get_ok, Call.bind_revertIf_ok, not_not]

theorem Vault.bind_onlyOwner_ok {vault sender : Address} {rest : Unit → AnsCall Node Label α}
    {result : α × World Node Label}
    (hrun : (Vault.onlyOwner vault sender >>= rest).run world = .ok result) :
    world.vaults vault = some sender ∧ (rest ()).run world = .ok result := by
  rw [Vault.onlyOwner, bind_assoc, Call.bind_get_ok] at hrun
  cases hvault : world.vaults vault with
  | none =>
      rw [hvault, Call.bind_ok] at hrun
      obtain ⟨_, _, hrevert, -⟩ := hrun
      exact (Call.revert_ok.mp hrevert).elim
  | some owner =>
      rw [hvault, Call.bind_revertIf_ok, not_not] at hrun
      exact ⟨congrArg some hrun.1.symm, hrun.2⟩

namespace Registrar

variable {self : Address} {result : α × World Node Label}

theorem bind_load_ok {rest : NamespaceRegistrar Node Label → AnsCall Node Label α} :
    (load self >>= rest).run world = .ok result ↔
      ∃ registrar, world.registrars self = some registrar ∧
        (rest registrar).run world = .ok result := by
  rw [load, bind_assoc, Call.bind_get_ok]
  cases world.registrars self with
  | none =>
      refine iff_of_false ?_ (fun ⟨_, hnone, _⟩ => nomatch hnone)
      rw [Call.bind_ok]
      exact fun ⟨_, _, hrevert, _⟩ => Call.revert_ok.mp hrevert
  | some registrar =>
      rw [Call.bind_pure_ok]
      exact ⟨fun hrest => ⟨registrar, rfl, hrest⟩,
        fun ⟨_, hsome, hrest⟩ => by cases hsome; exact hrest⟩

theorem bind_store_ok {registrar : NamespaceRegistrar Node Label}
    {rest : PUnit → AnsCall Node Label α} :
    (store self registrar >>= rest).run world = .ok result ↔
      (rest PUnit.unit).run (world.setRegistrar self registrar) = .ok result :=
  Call.bind_modify_ok

theorem store_ok {registrar : NamespaceRegistrar Node Label}
    {result : PUnit × World Node Label} :
    (store self registrar).run world = .ok result ↔
      (PUnit.unit, world.setRegistrar self registrar) = result :=
  Call.modify_ok

theorem bind_onlyOwner_ok {registrar : NamespaceRegistrar Node Label} {sender : Address}
    {rest : Unit → AnsCall Node Label α} :
    (onlyOwner registrar sender >>= rest).run world = .ok result ↔
      sender = registrar.owner ∧ (rest ()).run world = .ok result := by
  rw [onlyOwner, Call.bind_revertIf_ok, not_not]

theorem bind_onlyController_ok {registrar : NamespaceRegistrar Node Label} {sender : Address}
    {rest : Unit → AnsCall Node Label α} :
    (onlyController registrar sender >>= rest).run world = .ok result ↔
      registrar.controllers sender = true ∧ (rest ()).run world = .ok result := by
  rw [onlyController, Call.bind_revertIf_ok, Bool.not_eq_false]

end Registrar

/-! ## The registrar -/

namespace Registrar

section Reading

variable {self sender : Address} {now : ℕ} {id : Label}

theorem available_ok {result : Bool × World Node Label} :
    (available self now id).run world = .ok result ↔
      ∃ registrar, world.registrars self = some registrar ∧
        (registrar.expiries id = 0 ∨ registrar.expiries id + GRACE_PERIOD < uint256Bound) ∧
        (decide (registrar.expiries id = 0 ∨ registrar.Lapsed now id), world) = result := by
  rw [available, bind_load_ok]
  refine exists_congr fun registrar => and_congr_right fun _ => ?_
  by_cases hzero : registrar.expiries id = 0
  · rw [if_pos hzero, Call.pure_ok]
    simp [hzero]
  · simp only [hzero, if_false, bind_checkedAdd_ok, Call.pure_ok, false_or]
    rfl

theorem bind_available_ok {rest : Bool → AnsCall Node Label α}
    {result : α × World Node Label} :
    (available self now id >>= rest).run world = .ok result ↔
      ∃ registrar, world.registrars self = some registrar ∧
        (registrar.expiries id = 0 ∨ registrar.expiries id + GRACE_PERIOD < uint256Bound) ∧
        (rest (decide (registrar.expiries id = 0 ∨ registrar.Lapsed now id))).run world =
          .ok result := by
  rw [Call.bind_ok]
  constructor
  · rintro ⟨_, _, hread, hrest⟩
    obtain ⟨registrar, hregistrar, hfits, hsame⟩ := available_ok.mp hread
    cases hsame
    exact ⟨registrar, hregistrar, hfits, hrest⟩
  · rintro ⟨registrar, hregistrar, hfits, hrest⟩
    exact ⟨_, world, available_ok.mpr ⟨registrar, hregistrar, hfits, rfl⟩, hrest⟩

/-- What is left when a name is found available. -/
theorem bind_isAvailable_ok {error : Revert (Error Node Label)}
    {rest : Unit → AnsCall Node Label α} {result : α × World Node Label} :
    (available self now id >>= fun isAvailable =>
      Call.revertIf (isAvailable = false) error >>= rest).run world = .ok result ↔
      ∃ registrar, world.registrars self = some registrar ∧ registrar.Available now id ∧
        (rest ()).run world = .ok result := by
  rw [bind_available_ok]
  refine exists_congr fun registrar => and_congr_right fun _ => ?_
  rw [Call.bind_revertIf_ok, ← and_assoc]
  refine and_congr_left fun _ => ?_
  simp only [decide_eq_false_iff_not, not_not, NamespaceRegistrar.Available]
  tauto

theorem bind_ownerOf_ok {rest : Address → AnsCall Node Label α}
    {result : α × World Node Label} :
    (ownerOf self now id >>= rest).run world = .ok result ↔
      ∃ registrar, world.registrars self = some registrar ∧ now < registrar.expiries id ∧
        registrar.owners id ≠ 0 ∧ (rest (registrar.owners id)).run world = .ok result := by
  rw [ownerOf, bind_assoc, bind_load_ok]
  refine exists_congr fun registrar => and_congr_right fun _ => ?_
  rw [bind_assoc, Call.bind_revertIf_ok, bind_assoc, Call.bind_revertIf_ok, Call.bind_pure_ok,
    Nat.not_le]

end Reading

variable [DecidableEq Node] [DecidableEq Label] {d : Deployment Node Label}
  {self sender : Address} {now : ℕ} {id : Label} {next : World Node Label}

/-- A token that moves takes the node of the name along, unless it is burned. -/
theorem update_ok {target auth : Address} {result : Address × World Node Label} :
    (update d self now target id auth).run world = .ok result ↔
      ∃ registrar, world.registrars self = some registrar ∧
        (auth ≠ 0 → now < registrar.expiries id ∧
          registrar.IsAuthorized (registrar.owners id) auth id) ∧
        (target ≠ 0 → world.registry.Authorised registrar.baseNode self) ∧
        (registrar.owners id,
          if target = 0 then world.setRegistrar self (registrar.transfer id target)
          else (world.setRegistrar self (registrar.transfer id target)).setNodeOwner
            (d.subnode registrar.baseNode id) target) = result := by
  rw [update, bind_load_ok]
  refine exists_congr fun registrar => and_congr_right fun _ => ?_
  rw [Call.bind_revertIf_ok, Call.bind_revertIf_ok, bind_store_ok, Call.bind_ok]
  have hwhen : ∀ value middle, (Call.when (target ≠ 0)
      (Registry.setSubnodeOwner d self registrar.baseNode id target)).run
        (world.setRegistrar self (registrar.transfer id target)) = .ok (value, middle) ↔
      (target ≠ 0 → world.registry.Authorised registrar.baseNode self) ∧
        (PUnit.unit, if target = 0 then world.setRegistrar self (registrar.transfer id target)
          else (world.setRegistrar self (registrar.transfer id target)).setNodeOwner
            (d.subnode registrar.baseNode id) target) = (value, middle) := by
    intro value middle
    rw [Call.when_ok, Registry.setSubnodeOwner_ok]
    by_cases htarget : target = 0
    · simp [htarget]
    · simp only [ne_eq, htarget, not_false_eq_true, true_and, not_true_eq_false, false_and,
        or_false, if_false, true_implies]
      exact Iff.rfl
  simp only [hwhen, Call.pure_ok]
  constructor
  · rintro ⟨hexpired, hauth, _, _, ⟨hnode, hmiddle⟩, hresult⟩
    cases hmiddle
    refine ⟨fun hchecked => ?_, hnode, hresult⟩
    exact ⟨Nat.lt_of_not_le fun hle => hexpired ⟨hchecked, hle⟩,
      not_not.mp fun hnot => hauth ⟨hchecked, hnot⟩⟩
  · rintro ⟨hchecked, hnode, hresult⟩
    exact ⟨fun ⟨hauth, hle⟩ => absurd (hchecked hauth).1 (Nat.not_lt.mpr hle),
      fun ⟨hauth, hnot⟩ => hnot (hchecked hauth).2, _, _, ⟨hnode, rfl⟩, hresult⟩

theorem burn_ok {result : Unit × World Node Label} :
    (burn d self now id).run world = .ok result ↔
      ∃ registrar, world.registrars self = some registrar ∧ registrar.owners id ≠ 0 ∧
        ((), world.setRegistrar self (registrar.transfer id 0)) = result := by
  rw [burn, Call.bind_ok]
  constructor
  · rintro ⟨previousOwner, middle, hupdate, hcheck⟩
    obtain ⟨registrar, hregistrar, -, -, hsame⟩ := update_ok.mp hupdate
    obtain ⟨howner, hresult⟩ := Call.revertIf_ok.mp hcheck
    rw [if_pos rfl] at hsame
    cases hsame
    exact ⟨registrar, hregistrar, howner, hresult⟩
  · rintro ⟨registrar, hregistrar, howner, hresult⟩
    refine ⟨registrar.owners id, world.setRegistrar self (registrar.transfer id 0), ?_,
      Call.revertIf_ok.mpr ⟨howner, hresult⟩⟩
    exact update_ok.mpr ⟨registrar, hregistrar, fun hauth => absurd rfl hauth,
      fun htarget => absurd rfl htarget, by rw [if_pos rfl]⟩

theorem mint_ok {target : Address} {result : Unit × World Node Label} :
    (mint d self now target id).run world = .ok result ↔
      target ≠ 0 ∧ ∃ registrar, world.registrars self = some registrar ∧
        world.registry.Authorised registrar.baseNode self ∧ registrar.owners id = 0 ∧
        ((), (world.setRegistrar self (registrar.transfer id target)).setNodeOwner
          (d.subnode registrar.baseNode id) target) = result := by
  rw [mint, Call.bind_revertIf_ok, Call.bind_ok]
  refine and_congr_right fun htarget => ?_
  constructor
  · rintro ⟨previousOwner, middle, hupdate, hcheck⟩
    obtain ⟨registrar, hregistrar, -, hnode, hsame⟩ := update_ok.mp hupdate
    obtain ⟨hnobody, hresult⟩ := Call.revertIf_ok.mp hcheck
    rw [if_neg htarget] at hsame
    cases hsame
    exact ⟨registrar, hregistrar, hnode htarget, not_not.mp hnobody, hresult⟩
  · rintro ⟨registrar, hregistrar, hnode, hnobody, hresult⟩
    refine ⟨registrar.owners id, _, update_ok.mpr ⟨registrar, hregistrar,
      fun hauth => absurd rfl hauth, fun _ => hnode, by rw [if_neg htarget]⟩, ?_⟩
    exact Call.revertIf_ok.mpr ⟨not_not.mpr hnobody, hresult⟩

/-- A transfer needs a term that still runs and the authority of the sender. -/
theorem transferFrom_ok (hsender : sender ≠ 0) {source target : Address}
    {result : Unit × World Node Label} :
    (transferFrom d self sender now source target id).run world = .ok result ↔
      target ≠ 0 ∧ ∃ registrar, world.registrars self = some registrar ∧
        now < registrar.expiries id ∧ registrar.IsAuthorized source sender id ∧
        world.registry.Authorised registrar.baseNode self ∧ registrar.owners id = source ∧
        ((), (world.setRegistrar self (registrar.transfer id target)).setNodeOwner
          (d.subnode registrar.baseNode id) target) = result := by
  rw [transferFrom, Call.bind_revertIf_ok, Call.bind_ok]
  refine and_congr_right fun htarget => ?_
  constructor
  · rintro ⟨previousOwner, middle, hupdate, hcheck⟩
    obtain ⟨registrar, hregistrar, hauth, hnode, hsame⟩ := update_ok.mp hupdate
    obtain ⟨hsource, hresult⟩ := Call.revertIf_ok.mp hcheck
    rw [if_neg htarget] at hsame
    cases hsame
    have hholder := not_not.mp hsource
    exact ⟨registrar, hregistrar, (hauth hsender).1, hholder ▸ (hauth hsender).2, hnode htarget,
      hholder, hresult⟩
  · rintro ⟨registrar, hregistrar, hterm, hauth, hnode, hholder, hresult⟩
    refine ⟨registrar.owners id, _, update_ok.mpr ⟨registrar, hregistrar,
      fun _ => ⟨hterm, hholder ▸ hauth⟩, fun _ => hnode, by rw [if_neg htarget]⟩, ?_⟩
    exact Call.revertIf_ok.mpr ⟨not_not.mpr hholder, hresult⟩

/-- Burning what is left of an earlier registration. -/
theorem burnPrevious_ok {registrar : NamespaceRegistrar Node Label} {result : Unit × World Node Label}
    (hregistrar : world.registrars self = some registrar) :
    (Call.when (registrar.owners id ≠ 0) (burn d self now id)).run world = .ok result ↔
      ((), world.setRegistrar self
        (if registrar.owners id ≠ 0 then registrar.transfer id 0 else registrar)) = result := by
  rw [Call.when_ok, burn_ok]
  by_cases hholder : registrar.owners id = 0
  · rw [if_neg (not_not.mpr hholder), setRegistrar_same hregistrar]
    exact ⟨fun hrun => hrun.elim (fun hburned => absurd hholder hburned.1) And.right,
      fun hsame => .inr ⟨not_not.mpr hholder, hsame⟩⟩
  · rw [if_pos hholder]
    refine ⟨fun hrun => ?_, fun hsame => .inl ⟨hholder, registrar, hregistrar, hholder, hsame⟩⟩
    rcases hrun with ⟨-, other, hother, -, hsame⟩ | ⟨hkept, -⟩
    · obtain rfl := Option.some.inj (hregistrar.symm.trans hother)
      exact hsame
    · exact absurd hholder hkept

theorem registerName_ok {owner : Address} {duration : ℕ} {result : ℕ × World Node Label} :
    (registerName d self now id owner duration).run world = .ok result ↔
      owner ≠ 0 ∧ duration ≠ 0 ∧ ∃ registrar, world.registrars self = some registrar ∧
        registrar.Available now id ∧ now + duration < uint256Bound ∧
        world.registry.Authorised registrar.baseNode self ∧
        (now + duration, (world.setRegistrar self
          (registrar.registered id owner (now + duration))).setNodeOwner
            (d.subnode registrar.baseNode id) owner) = result := by
  rw [registerName, Call.bind_revertIf_ok, Call.bind_revertIf_ok, bind_isAvailable_ok]
  refine and_congr_right fun howner => and_congr_right fun _ => exists_congr fun registrar =>
    and_congr_right fun hregistrar => and_congr_right fun _ => ?_
  -- the burned registrar is what the expiry is set in and the token minted from
  obtain ⟨burned, hburned⟩ : ∃ burned, burned =
    if registrar.owners id ≠ 0 then registrar.transfer id 0 else registrar := ⟨_, rfl⟩
  have hnobody : burned.owners id = 0 := by
    rw [hburned]
    split
    · exact Function.update_self ..
    · next hholder => exact not_not.mp hholder
  have hbase : burned.baseNode = registrar.baseNode := by
    rw [hburned]
    split <;> rfl
  have hregistered : registrar.registered id owner (now + duration) =
      (burned.setExpiry id (now + duration)).transfer id owner := by
    rw [hburned]
    rfl
  constructor
  · intro hrun
    obtain ⟨loaded, hloaded, hburning⟩ := bind_load_ok.mp hrun
    obtain rfl := Option.some.inj (hregistrar.symm.trans hloaded)
    obtain ⟨_, _, hburn, hadding⟩ := Call.bind_ok.mp hburning
    cases (burnPrevious_ok hregistrar).mp hburn
    obtain ⟨hfits, hreloading⟩ := bind_checkedAdd_ok.mp hadding
    rw [← hburned] at hreloading
    obtain ⟨reloaded, hreloaded, hstoring⟩ := bind_load_ok.mp hreloading
    obtain rfl := Option.some.inj ((setRegistrar_self self burned).symm.trans hreloaded)
    rw [bind_store_ok, setRegistrar_setRegistrar] at hstoring
    obtain ⟨_, _, hmint, hresult⟩ := Call.bind_ok.mp hstoring
    obtain ⟨-, minted, hminted, hnode, -, hsame⟩ := mint_ok.mp hmint
    obtain rfl := Option.some.inj ((setRegistrar_self self _).symm.trans hminted)
    cases hsame
    rw [setRegistrar_setRegistrar] at hresult
    exact ⟨hfits, hbase ▸ hnode, by rw [hregistered, ← hbase]; exact Call.pure_ok.mp hresult⟩
  · rintro ⟨hfits, hnode, hresult⟩
    rw [bind_load_ok]
    refine ⟨registrar, hregistrar, Call.bind_ok.mpr ⟨_, _, (burnPrevious_ok hregistrar).mpr rfl, ?_⟩⟩
    rw [← hburned, bind_checkedAdd_ok]
    refine ⟨hfits, bind_load_ok.mpr ⟨burned, setRegistrar_self self burned, ?_⟩⟩
    rw [bind_store_ok, setRegistrar_setRegistrar]
    refine Call.bind_ok.mpr ⟨_, _, mint_ok.mpr ⟨howner, _, setRegistrar_self self _,
      hbase.symm ▸ hnode, hnobody, rfl⟩, ?_⟩
    rw [hregistered, ← hbase] at hresult
    rw [setRegistrar_setRegistrar]
    exact Call.pure_ok.mpr hresult

theorem register_ok {owner : Address} {duration : ℕ} {result : ℕ × World Node Label} :
    (register d self sender now id owner duration).run world = .ok result ↔
      ∃ registrar, world.registrars self = some registrar ∧
        registrar.controllers sender = true ∧ owner ≠ 0 ∧ duration ≠ 0 ∧
        registrar.Available now id ∧ now + duration < uint256Bound ∧
        world.registry.Authorised registrar.baseNode self ∧
        (now + duration, (world.setRegistrar self
          (registrar.registered id owner (now + duration))).setNodeOwner
            (d.subnode registrar.baseNode id) owner) = result := by
  rw [register, bind_load_ok]
  refine exists_congr fun registrar => and_congr_right fun hregistrar => ?_
  rw [bind_onlyController_ok, registerName_ok, hregistrar]
  simp only [Option.some.injEq, exists_eq_left']

omit [DecidableEq Node] in
theorem renew_ok {duration : ℕ} {result : ℕ × World Node Label} :
    (renew self sender now id duration).run world = .ok result ↔
      ∃ registrar, world.registrars self = some registrar ∧
        registrar.controllers sender = true ∧ duration ≠ 0 ∧ registrar.expiries id ≠ 0 ∧
        registrar.expiries id + GRACE_PERIOD < uint256Bound ∧ ¬ registrar.Lapsed now id ∧
        registrar.expiries id + duration < uint256Bound ∧
        (registrar.expiries id + duration, world.setRegistrar self
          (registrar.setExpiry id (registrar.expiries id + duration))) = result := by
  rw [renew, bind_load_ok]
  refine exists_congr fun registrar => and_congr_right fun _ => ?_
  rw [bind_onlyController_ok, Call.bind_revertIf_ok, Call.bind_revertIf_ok, bind_checkedAdd_ok,
    Call.bind_revertIf_ok, bind_checkedAdd_ok, bind_store_ok, Call.pure_ok]
  rfl

omit [DecidableEq Node] in
theorem approve_ok (hsender : sender ≠ 0) {approved : Address} {result : PUnit × World Node Label} :
    (approve self sender approved id).run world = .ok result ↔
      ∃ registrar, world.registrars self = some registrar ∧ registrar.owners id ≠ 0 ∧
        (registrar.owners id = sender ∨
          registrar.operatorApprovals (registrar.owners id) sender = true) ∧
        (PUnit.unit, world.setRegistrar self (registrar.approve id approved)) = result := by
  rw [approve, bind_load_ok]
  refine exists_congr fun registrar => and_congr_right fun _ => ?_
  rw [Call.bind_revertIf_ok, Call.bind_revertIf_ok, store_ok]
  refine and_congr_right fun _ => and_congr_left fun _ => ?_
  rw [← Bool.not_eq_true]
  tauto

omit [DecidableEq Label] in
theorem reclaim_ok {owner : Address} {result : PUnit × World Node Label} :
    (reclaim d self sender now id owner).run world = .ok result ↔
      owner ≠ 0 ∧ ∃ registrar, world.registrars self = some registrar ∧
        now < registrar.expiries id ∧ registrar.owners id ≠ 0 ∧
        registrar.IsAuthorized (registrar.owners id) sender id ∧
        world.registry.Authorised registrar.baseNode self ∧
        (PUnit.unit, world.setNodeOwner (d.subnode registrar.baseNode id) owner) = result := by
  rw [reclaim, Call.bind_revertIf_ok, bind_ownerOf_ok]
  refine and_congr_right fun _ => exists_congr fun registrar =>
    and_congr_right fun hregistrar => ?_
  refine and_congr_right fun _ => and_congr_right fun _ => ?_
  rw [bind_load_ok, hregistrar]
  simp only [Option.some.injEq, exists_eq_left', Call.bind_revertIf_ok, not_not,
    Registry.setSubnodeOwner_ok]

end Registrar

/-! ## What a call of a registrar does -/

section RegistrarEffect

variable [DecidableEq Node] [DecidableEq Label]

/-- A call of the registrar at `self`, with what it had to find and the world it leaves. -/
inductive RegistrarEffect (d : Deployment Node Label) (sender : Address) (now : ℕ)
    (self : Address) (registrar : NamespaceRegistrar Node Label) (world : World Node Label) :
    RegistrarCall Label → World Node Label → Prop
  | approve (approved : Address) (id : Label) (howned : registrar.owners id ≠ 0)
      (hauthority : registrar.owners id = sender ∨
        registrar.operatorApprovals (registrar.owners id) sender = true) :
      RegistrarEffect d sender now self registrar world (.approve approved id)
        (world.setRegistrar self (registrar.approve id approved))
  | setApprovalForAll (operator : Address) (approved : Bool) :
      RegistrarEffect d sender now self registrar world (.setApprovalForAll operator approved)
        (world.setRegistrar self (registrar.setApprovalForAll sender operator approved))
  | transferFrom (target : Address) (id : Label) (htarget : target ≠ 0)
      (hterm : now < registrar.expiries id)
      (hauthority : registrar.IsAuthorized (registrar.owners id) sender id)
      (hnode : world.registry.Authorised registrar.baseNode self) :
      RegistrarEffect d sender now self registrar world
        (.transferFrom (registrar.owners id) target id)
        ((world.setRegistrar self (registrar.transfer id target)).setNodeOwner
          (d.subnode registrar.baseNode id) target)
  | safeTransferFrom (target : Address) (id : Label) (htarget : target ≠ 0)
      (hterm : now < registrar.expiries id)
      (hauthority : registrar.IsAuthorized (registrar.owners id) sender id)
      (hnode : world.registry.Authorised registrar.baseNode self) :
      RegistrarEffect d sender now self registrar world
        (.safeTransferFrom (registrar.owners id) target id true)
        ((world.setRegistrar self (registrar.transfer id target)).setNodeOwner
          (d.subnode registrar.baseNode id) target)
  | setController (controller : Address) (enabled : Bool) (howner : sender = registrar.owner) :
      RegistrarEffect d sender now self registrar world (.setController controller enabled)
        (world.setRegistrar self (registrar.setController controller enabled))
  | setResolver (resolver : Address) (howner : sender = registrar.owner)
      (hnode : world.registry.Authorised registrar.baseNode self) :
      RegistrarEffect d sender now self registrar world (.setResolver resolver)
        { world with registry := world.registry.setResolver registrar.baseNode resolver }
  | transferOwnership (newOwner : Address) (howner : sender = registrar.owner) :
      RegistrarEffect d sender now self registrar world (.transferOwnership newOwner)
        (world.setRegistrar self { registrar with owner := newOwner })
  | renounceOwnership (howner : sender = registrar.owner) :
      RegistrarEffect d sender now self registrar world .renounceOwnership
        (world.setRegistrar self { registrar with owner := 0 })
  | register (id : Label) (owner : Address) (duration : ℕ)
      (hcontroller : registrar.controllers sender = true) (howner : owner ≠ 0)
      (hduration : duration ≠ 0) (havailable : registrar.Available now id)
      (hfits : now + duration < uint256Bound)
      (hnode : world.registry.Authorised registrar.baseNode self) :
      RegistrarEffect d sender now self registrar world (.register id owner duration)
        ((world.setRegistrar self (registrar.registered id owner (now + duration))).setNodeOwner
          (d.subnode registrar.baseNode id) owner)
  | renew (id : Label) (duration : ℕ) (hcontroller : registrar.controllers sender = true)
      (hduration : duration ≠ 0) (hregistered : registrar.expiries id ≠ 0)
      (hgrace : registrar.expiries id + GRACE_PERIOD < uint256Bound)
      (hlapsed : ¬ registrar.Lapsed now id)
      (hfits : registrar.expiries id + duration < uint256Bound) :
      RegistrarEffect d sender now self registrar world (.renew id duration)
        (world.setRegistrar self (registrar.setExpiry id (registrar.expiries id + duration)))
  | reclaim (id : Label) (owner : Address) (howner : owner ≠ 0)
      (hterm : now < registrar.expiries id) (howned : registrar.owners id ≠ 0)
      (hauthority : registrar.IsAuthorized (registrar.owners id) sender id)
      (hnode : world.registry.Authorised registrar.baseNode self) :
      RegistrarEffect d sender now self registrar world (.reclaim id owner)
        (world.setNodeOwner (d.subnode registrar.baseNode id) owner)

theorem RegistrarCall.effect {d : Deployment Node Label} {sender self : Address} {now : ℕ}
    {call : RegistrarCall Label} (hsender : sender ≠ 0) {value : PUnit} {next : World Node Label}
    (hrun : (call.perform d sender now self).run world = .ok (value, next)) :
    ∃ registrar, world.registrars self = some registrar ∧
      RegistrarEffect d sender now self registrar world call next := by
  cases call with
  | approve approved id =>
      obtain ⟨registrar, hregistrar, howned, hauthority, hsame⟩ :=
        (Registrar.approve_ok hsender).mp hrun
      cases hsame
      exact ⟨registrar, hregistrar, .approve approved id howned hauthority⟩
  | setApprovalForAll operator approved =>
      obtain ⟨registrar, hregistrar, hset⟩ := Registrar.bind_load_ok.mp hrun
      cases Registrar.store_ok.mp (Call.bind_revertIf_ok.mp hset).2
      exact ⟨registrar, hregistrar, .setApprovalForAll operator approved⟩
  | transferFrom source target id =>
      obtain ⟨htarget, registrar, hregistrar, hterm, hauthority, hnode, rfl, hsame⟩ :=
        (Registrar.transferFrom_ok hsender).mp hrun
      cases hsame
      exact ⟨registrar, hregistrar, .transferFrom target id htarget hterm hauthority hnode⟩
  | safeTransferFrom source target id accepted =>
      obtain ⟨_, _, htransfer, hcheck⟩ := Call.bind_ok.mp hrun
      obtain ⟨htarget, registrar, hregistrar, hterm, hauthority, hnode, rfl, hsame⟩ :=
        (Registrar.transferFrom_ok hsender).mp htransfer
      cases hsame
      obtain ⟨haccepted, hlast⟩ := Call.revertIf_ok.mp hcheck
      cases hlast
      obtain rfl := Bool.not_eq_false _ ▸ haccepted
      exact ⟨registrar, hregistrar, .safeTransferFrom target id htarget hterm hauthority hnode⟩
  | setController controller enabled =>
      obtain ⟨registrar, hregistrar, hset⟩ := Registrar.bind_load_ok.mp hrun
      obtain ⟨howner, hstore⟩ := Registrar.bind_onlyOwner_ok.mp hset
      cases Registrar.store_ok.mp hstore
      exact ⟨registrar, hregistrar, .setController controller enabled howner⟩
  | setResolver resolver =>
      obtain ⟨registrar, hregistrar, hset⟩ := Registrar.bind_load_ok.mp hrun
      obtain ⟨howner, hwrite⟩ := Registrar.bind_onlyOwner_ok.mp hset
      obtain ⟨hnode, hsame⟩ := Registry.setResolver_ok.mp hwrite
      cases hsame
      exact ⟨registrar, hregistrar, .setResolver resolver howner hnode⟩
  | transferOwnership newOwner =>
      obtain ⟨registrar, hregistrar, hset⟩ := Registrar.bind_load_ok.mp hrun
      obtain ⟨howner, hcheck⟩ := Registrar.bind_onlyOwner_ok.mp hset
      cases Registrar.store_ok.mp (Call.bind_revertIf_ok.mp hcheck).2
      exact ⟨registrar, hregistrar, .transferOwnership newOwner howner⟩
  | renounceOwnership =>
      obtain ⟨registrar, hregistrar, hset⟩ := Registrar.bind_load_ok.mp hrun
      obtain ⟨howner, hstore⟩ := Registrar.bind_onlyOwner_ok.mp hset
      cases Registrar.store_ok.mp hstore
      exact ⟨registrar, hregistrar, .renounceOwnership howner⟩
  | register id owner duration =>
      obtain ⟨_, _, hregister, hpure⟩ := Call.bind_ok.mp hrun
      obtain ⟨registrar, hregistrar, hcontroller, howner, hduration, havailable, hfits, hnode,
        hsame⟩ := Registrar.register_ok.mp hregister
      cases hsame
      cases Call.pure_ok.mp hpure
      exact ⟨registrar, hregistrar,
        .register id owner duration hcontroller howner hduration havailable hfits hnode⟩
  | renew id duration =>
      obtain ⟨_, _, hrenew, hpure⟩ := Call.bind_ok.mp hrun
      obtain ⟨registrar, hregistrar, hcontroller, hduration, hregistered, hgrace, hlapsed, hfits,
        hsame⟩ := Registrar.renew_ok.mp hrenew
      cases hsame
      cases Call.pure_ok.mp hpure
      exact ⟨registrar, hregistrar,
        .renew id duration hcontroller hduration hregistered hgrace hlapsed hfits⟩
  | reclaim id owner =>
      obtain ⟨howner, registrar, hregistrar, hterm, howned, hauthority, hnode, hsame⟩ :=
        Registrar.reclaim_ok.mp hrun
      cases hsame
      exact ⟨registrar, hregistrar, .reclaim id owner howner hterm howned hauthority hnode⟩

/-- It touches this registrar and the registry only. -/
theorem RegistrarEffect.frame {d : Deployment Node Label} {sender self : Address} {now : ℕ}
    {registrar : NamespaceRegistrar Node Label} {call : RegistrarCall Label}
    {next : World Node Label} (heffect : RegistrarEffect d sender now self registrar world call next) :
    next = { world with registry := next.registry, registrars := next.registrars } ∧
      ∀ other, other ≠ self → next.registrars other = world.registrars other := by
  cases heffect with
  | setResolver | reclaim => exact ⟨rfl, fun _ _ => rfl⟩
  | _ => exact ⟨rfl, fun _ hother => setRegistrar_of_ne hother _⟩

end RegistrarEffect

/-! ## The other calls -/

/-- What a call of the registry may write: the nodes its caller has authority over or over
whose parent it has, and the operators of the caller. -/
structure ArcRegistry.Writes (d : Deployment Node Label) (sender : Address)
    (before after : ArcRegistry Node) : Prop where
  records : ∀ node, after.records node = before.records node ∨ before.Authorised node sender ∨
    ∃ parent label, node = d.subnode parent label ∧ before.Authorised parent sender
  operators : ∀ account, account ≠ sender → after.operators account = before.operators account

section Others

variable [DecidableEq Node] [DecidableEq Label] {d : Deployment Node Label}
  {sender : Address} {value : PUnit} {next : World Node Label}

omit [DecidableEq Node] [DecidableEq Label] in
/-- A call of the registry that writes one node. -/
theorem ArcRegistry.Writes.of_node {registry after : ArcRegistry Node} {node : Node}
    (hauthorised : registry.Authorised node sender ∨
      ∃ parent label, node = d.subnode parent label ∧ registry.Authorised parent sender)
    (hothers : ∀ other, other ≠ node → after.records other = registry.records other)
    (hoperators : after.operators = registry.operators) : registry.Writes d sender after where
  records other := by
    by_cases hother : other = node
    · exact .inr (hother ▸ hauthorised)
    · exact .inl (hothers other hother)
  operators _ _ := by rw [hoperators]

omit [DecidableEq Label] in
theorem RegistryCall.effect {call : RegistryCall Node Label}
    (hrun : (call.perform d sender).run world = .ok (value, next)) :
    next = { world with registry := next.registry } ∧
      world.registry.Writes d sender next.registry := by
  cases call with
  | setRecord node owner resolver ttl =>
      obtain ⟨hauthorised, hwrite⟩ := Registry.bind_checkAuthorised_ok.mp hrun
      cases hwrite
      exact ⟨rfl, .of_node (.inl hauthorised) (fun other hother => by
        simp [ArcRegistry.setTTL_of_ne, ArcRegistry.setResolver_of_ne, ArcRegistry.setOwner_of_ne,
          hother]) rfl⟩
  | setSubnodeRecord node label owner resolver ttl =>
      obtain ⟨hauthorised, hwrite⟩ := Registry.bind_checkAuthorised_ok.mp hrun
      cases hwrite
      exact ⟨rfl, .of_node (.inr ⟨node, label, rfl, hauthorised⟩) (fun other hother => by
        simp [ArcRegistry.setTTL_of_ne, ArcRegistry.setResolver_of_ne, ArcRegistry.setOwner_of_ne,
          hother]) rfl⟩
  | setSubnodeOwner node label owner =>
      obtain ⟨hauthorised, hsame⟩ := Registry.setSubnodeOwner_ok.mp hrun
      cases hsame
      exact ⟨rfl, .of_node (.inr ⟨node, label, rfl, hauthorised⟩)
        (fun other hother => ArcRegistry.setOwner_of_ne _ _ hother) rfl⟩
  | setResolver node resolver =>
      obtain ⟨hauthorised, hsame⟩ := Registry.setResolver_ok.mp hrun
      cases hsame
      exact ⟨rfl, .of_node (.inl hauthorised)
        (fun other hother => ArcRegistry.setResolver_of_ne _ _ hother) rfl⟩
  | setOwner node owner =>
      obtain ⟨hauthorised, hwrite⟩ := Registry.bind_checkAuthorised_ok.mp hrun
      cases hwrite
      exact ⟨rfl, .of_node (.inl hauthorised)
        (fun other hother => ArcRegistry.setOwner_of_ne _ _ hother) rfl⟩
  | setTTL node ttl =>
      obtain ⟨hauthorised, hwrite⟩ := Registry.bind_checkAuthorised_ok.mp hrun
      cases hwrite
      exact ⟨rfl, .of_node (.inl hauthorised)
        (fun other hother => ArcRegistry.setTTL_of_ne _ _ hother) rfl⟩
  | setApprovalForAll operator approved =>
      obtain ⟨-, hwrite⟩ := Call.bind_revertIf_ok.mp hrun
      cases hwrite
      exact ⟨rfl, fun _ => .inl rfl, fun account haccount =>
        ArcRegistry.setApprovalForAll_of_ne _ _ _ _ _ haccount⟩

omit [DecidableEq Label] in
/-- A call of the resolver writes the records of nodes its caller may resolve. -/
theorem ResolverCall.effect {call : ResolverCall Node}
    (hrun : (call.perform sender : AnsCall Node Label PUnit).run world = .ok (value, next)) :
    next = { world with resolver := next.resolver } ∧
      ∀ node, next.resolver.recordsOf node = world.resolver.recordsOf node ∨
        world.registry.Resolves node sender := by
  have hwrites : ∀ {node : Node} {after : PublicResolver Node},
      world.registry.Resolves node sender →
        (∀ other, other ≠ node → after.recordsOf other = world.resolver.recordsOf other) →
        ∀ other, after.recordsOf other = world.resolver.recordsOf other ∨
          world.registry.Resolves other sender := by
    intro node after hresolves hothers other
    by_cases hother : other = node
    · exact .inr (hother ▸ hresolves)
    · exact .inl (hothers other hother)
  cases call with
  | clearRecords node =>
      obtain ⟨hresolves, hread⟩ := Resolver.bind_checkAuthorised_ok.mp hrun
      rw [Call.bind_get_ok, Call.bind_revertIf_ok] at hread
      cases hread.2
      exact ⟨rfl, hwrites hresolves fun other hother => PublicResolver.bump_of_ne _ hother⟩
  | setAddr node resolvedAddress =>
      obtain ⟨hresolves, hwrite⟩ := Resolver.bind_checkAuthorised_ok.mp hrun
      cases hwrite
      exact ⟨rfl, hwrites hresolves fun other hother => PublicResolver.setAddr_of_ne _ _ hother⟩
  | setText node key text =>
      obtain ⟨hresolves, hwrite⟩ := Resolver.bind_checkAuthorised_ok.mp hrun
      cases hwrite
      exact ⟨rfl, hwrites hresolves fun other hother => PublicResolver.setText_of_ne _ _ _ hother⟩

omit [DecidableEq Node] [DecidableEq Label] in
/-- A call of a vault is for its owner, and moves tokens of the vault only. -/
theorem VaultCall.effect {self : Address} {call : VaultCall}
    (hrun : (call.perform sender self : AnsCall Node Label PUnit).run world = .ok (value, next)) :
    world.vaults self = some sender ∧
      next = { world with vaults := next.vaults, ledgers := next.ledgers } ∧
      (∀ other, other ≠ self → next.vaults other = world.vaults other) ∧
      (next.ledgers = world.ledgers ∨ ∃ token target amount,
        Ledgers.moveToken token self target amount world.ledgers = some next.ledgers) := by
  cases call with
  | withdraw token target amount =>
      obtain ⟨howner, hchecks⟩ := Vault.bind_onlyOwner_ok hrun
      rw [Call.bind_revertIf_ok, Call.bind_revertIf_ok, Call.external_ok] at hchecks
      obtain ⟨-, -, moved, hmoved, hsame⟩ := hchecks
      obtain ⟨ledgers, hledgers, rfl⟩ := Option.map_eq_some_iff.mp hmoved
      cases hsame
      exact ⟨howner, rfl, fun _ _ => rfl, .inr ⟨token, target, amount, hledgers⟩⟩
  | transferOwnership newOwner =>
      obtain ⟨howner, hcheck⟩ := Vault.bind_onlyOwner_ok hrun
      cases (Call.bind_revertIf_ok.mp hcheck).2
      exact ⟨howner, rfl, fun _ hother => Function.update_of_ne hother _ _, .inl rfl⟩
  | renounceOwnership =>
      obtain ⟨howner, hwrite⟩ := Vault.bind_onlyOwner_ok hrun
      cases hwrite
      exact ⟨howner, rfl, fun _ hother => Function.update_of_ne hother _ _, .inl rfl⟩

end Others

/-! ## Frames -/

section Frames

variable {d : Deployment Node Label} {frame : Frame Node Label}

theorem sends_ne_zero {account : Address} (hsends : world.sends d account = true) :
    account ≠ 0 := by
  simp only [World.sends, Bool.and_eq_true, bne_iff_ne] at hsends
  exact hsends.1

variable [DecidableEq Node] [DecidableEq Label]

theorem Frame.perform_ok {result : PUnit × World Node Label} :
    (frame.perform d).run world = .ok result ↔
      world.sends d frame.sender = true ∧
        (frame.message.perform d frame.sender frame.timestamp).run world = .ok result := by
  rw [Frame.perform, Call.bind_get_ok, Call.bind_revertIf_ok, Bool.not_eq_false]

/-- What holds before a frame and after it when it succeeds holds after it. -/
theorem step_elim (fact : World Node Label → Prop) (hbefore : fact world)
    (hrun : ∀ next, world.sends d frame.sender = true →
      (frame.message.perform d frame.sender frame.timestamp).run world = .ok (PUnit.unit, next) →
      fact next) : fact (step d world frame) := by
  unfold step
  cases hsucceeds : (frame.perform d).succeeds world with
  | false =>
      rw [Call.commit_of_not_succeeds hsucceeds]
      exact hbefore
  | true =>
      obtain ⟨⟨⟩, next, hperform⟩ := Call.succeeds_iff.mp hsucceeds
      rw [Call.commit_of_ok hperform]
      exact hrun next (Frame.perform_ok.mp hperform).1 (Frame.perform_ok.mp hperform).2

end Frames

end WizPay.Ans
