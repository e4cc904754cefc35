import Mathlib.Data.List.Forall2
import WizPay.Backend.Conditions

/-!
# How a method ends

A postcondition for both ends of a method on a condition: the value it returns, and the
error it throws. A caller that catches errors needs the second one.
-/

namespace WizPay.Backend.Service

open Foundation

variable {S : Signature} {ι σ α β : Type}

/-- However the method ends, its outcome meets the postcondition. -/
def Ends (machine : Machine S ι σ) (rely : σ → σ → Prop) (condition guar : S.Op → ι → σ → Prop)
    (post : Except ServiceError α → σ → Prop) (service : Service S α) (state : σ) : Prop :=
  service.run.Expects machine rely condition guar post state

variable {machine : Machine S ι σ} {rely : σ → σ → Prop} {condition guar : S.Op → ι → σ → Prop}
  {post : Except ServiceError α → σ → Prop} {state : σ}

theorem ends_pure {value : α} (hpost : ∀ later, rely state later → post (.ok value) later) :
    Ends machine rely condition guar post (pure value : Service S α) state :=
  hpost

theorem ends_throw {error : ServiceError}
    (hpost : ∀ later, rely state later → post (.error error) later) :
    Ends machine rely condition guar post (throw error : Service S α) state :=
  hpost

theorem ends_ofExcept {outcome : Except ServiceError α}
    (hpost : ∀ later, rely state later → post outcome later) :
    Ends machine rely condition guar post (ofExcept outcome : Service S α) state :=
  hpost

theorem ends_throwIf {check : Prop} [Decidable check] {error : ServiceError}
    {post : Except ServiceError Unit → σ → Prop}
    (hthrown : check → ∀ later, rely state later → post (.error error) later)
    (hpassed : ¬ check → ∀ later, rely state later → post (.ok ()) later) :
    Ends machine rely condition guar post (throwIf check error : Service S Unit) state := by
  unfold throwIf
  split
  · next hcheck => exact ends_throw (hthrown hcheck)
  · next hcheck => exact ends_pure (hpassed hcheck)

theorem ends_orThrow {answer : Except DbError α}
    (hvalue : ∀ value, answer = .ok value → ∀ later, rely state later → post (.ok value) later)
    (herror : ∀ error, answer = .error error → ∀ later, rely state later →
      post (.error (.database error)) later) :
    Ends machine rely condition guar post (orThrow answer : Service S α) state := by
  cases answer with
  | ok value => exact ends_pure (hvalue value rfl)
  | error error => exact ends_throw (herror error rfl)

theorem ends_perform {op : S.Op} {post : Except ServiceError (S.Res op) → σ → Prop}
    (hop : ∀ later, rely state later → ∀ input, condition op input later → guar op input later ∧
      ∀ last, rely (machine.answer op input later).2 last →
        post (.ok (machine.answer op input later).1) last) :
    Ends machine rely condition guar post (perform op : Service S (S.Res op)) state := by
  intro later hlater input hcondition
  obtain ⟨hguar, hpost⟩ := hop later hlater input hcondition
  exact ⟨hguar, hpost⟩

theorem Ends.mono {weaker : Except ServiceError α → σ → Prop} {service : Service S α}
    (hservice : Ends machine rely condition guar post service state)
    (hweaker : ∀ outcome later, post outcome later → weaker outcome later) :
    Ends machine rely condition guar weaker service state :=
  Program.Expects.mono hweaker hservice

/-- A composed method throws what its first part throws, or goes on. -/
theorem ends_bind (hrely : IsRely rely) {service : Service S α} {rest : α → Service S β}
    {final : Except ServiceError β → σ → Prop}
    (hservice : Ends machine rely condition guar post service state)
    (herror : ∀ error later last, post (.error error) later → rely later last →
      final (.error error) last)
    (hrest : ∀ value later, post (.ok value) later →
      Ends machine rely condition guar final (rest value) later) :
    Ends machine rely condition guar final (service >>= rest) state := by
  unfold Ends
  rw [ExceptT.run_bind]
  refine Program.expects_bind hrely hservice fun outcome later houtcome => ?_
  cases outcome with
  | error error => exact fun last hlast => herror error later last houtcome hlast
  | ok value => exact hrest value later houtcome

/-- A first part that cannot throw. -/
theorem ends_bind_ok (hrely : IsRely rely) {found : α → σ → Prop} {service : Service S α}
    {rest : α → Service S β} {final : Except ServiceError β → σ → Prop}
    (hservice : Ends machine rely condition guar
      (fun outcome later => ∃ value, outcome = .ok value ∧ found value later) service state)
    (hrest : ∀ value later, found value later →
      Ends machine rely condition guar final (rest value) later) :
    Ends machine rely condition guar final (service >>= rest) state := by
  refine ends_bind hrely hservice ?_ ?_
  · rintro error later last ⟨value, hnone, -⟩
    cases hnone
  · rintro value later ⟨other, hvalue, hfound⟩
    obtain rfl := Except.ok.inj hvalue
    exact hrest value later hfound

theorem ends_ofExcept_bind {outcome : Except ServiceError α} {value : α} {rest : α → Service S β}
    {final : Except ServiceError β → σ → Prop} (hvalue : outcome = .ok value)
    (hrest : Ends machine rely condition guar final (rest value) state) :
    Ends machine rely condition guar final (ofExcept outcome >>= rest) state := by
  subst hvalue
  exact hrest

/-- A check throws, or the method goes on. -/
theorem ends_throwIf_or {check : Prop} [Decidable check] {error : ServiceError}
    {rest : Unit → Service S β} {final : Except ServiceError β → σ → Prop}
    (hthrown : check → ∀ later, rely state later → final (.error error) later)
    (hrest : ¬ check → Ends machine rely condition guar final (rest ()) state) :
    Ends machine rely condition guar final (throwIf check error >>= rest) state := by
  unfold throwIf
  split
  · next hcheck => exact hthrown hcheck
  · next hcheck => exact hrest hcheck

theorem ends_throwIf_bind {check : Prop} [Decidable check] {error : ServiceError}
    {rest : Unit → Service S β} {final : Except ServiceError β → σ → Prop} (hcheck : ¬ check)
    (hrest : Ends machine rely condition guar final (rest ()) state) :
    Ends machine rely condition guar final (throwIf check error >>= rest) state :=
  ends_throwIf_or (fun hfails => absurd hfails hcheck) fun _ => hrest

/-- A method that catches everything returns how its body ends. -/
theorem ends_attempt (hrely : IsRely rely) {service : Service S α}
    {final : Except ServiceError (Except ServiceError α) → σ → Prop}
    (hservice : Ends machine rely condition guar post service state)
    (hfinal : ∀ outcome later last, post outcome later → rely later last →
      final (.ok outcome) last) :
    Ends machine rely condition guar final service.attempt state := by
  unfold Ends attempt
  rw [ExceptT.run_lift, map_eq_pure_bind]
  exact Program.expects_bind hrely hservice fun outcome later houtcome last hlast =>
    hfinal outcome later last houtcome hlast

/-- A method that catches everything goes on after either end. -/
theorem ends_attempt_bind (hrely : IsRely rely) {service : Service S α}
    {rest : Except ServiceError α → Service S β} {final : Except ServiceError β → σ → Prop}
    (hservice : Ends machine rely condition guar post service state)
    (hrest : ∀ outcome later, post outcome later →
      Ends machine rely condition guar final (rest outcome) later) :
    Ends machine rely condition guar final (service.attempt >>= rest) state := by
  unfold Ends
  rw [ExceptT.run_bind, attempt, ExceptT.run_lift, bind_map_left]
  exact Program.expects_bind hrely hservice hrest

theorem ends_discard {service : Service S α} {final : Except ServiceError Unit → σ → Prop}
    (hrely : IsRely rely) (hservice : Ends machine rely condition guar post service state)
    (herror : ∀ error later last, post (.error error) later → rely later last →
      final (.error error) last)
    (hvalue : ∀ value later last, post (.ok value) later → rely later last →
      final (.ok ()) last) :
    Ends machine rely condition guar final (discard service : Service S Unit) state := by
  rw [discard_eq]
  exact ends_bind hrely hservice herror fun value later hlater =>
    ends_pure fun last hlast => hvalue value later last hlater hlast

/-- Operations that the rely relation guarantees need no look at the answers. -/
theorem ends_of_performs {allowed : S.Op → Prop}
    (hguar : ∀ op, allowed op → ∀ input before later, rely before later → guar op input later)
    {service : Service S α} (hservice : Performs allowed service) (state : σ) :
    Ends machine rely condition guar (fun _ _ => True) service state := by
  unfold Ends
  unfold Performs at hservice
  generalize service.run = program at hservice
  induction program generalizing state with
  | done outcome => exact fun _ _ => trivial
  | perform op next ih =>
      exact fun later hlater input _ =>
        ⟨hguar op hservice.1 input state later hlater, ih _ _ (hservice.2 _)⟩

theorem performs_all {allowed : S.Op → Prop} {services : List (Service S α)}
    (hservices : ∀ service ∈ services, Performs allowed service) :
    Performs allowed (all services) := by
  induction services with
  | nil => exact performs_pure _
  | cons service rest ih =>
      refine performs_bind (performs_attempt (hservices service List.mem_cons_self)) ?_
      intro first
      refine performs_bind (performs_attempt
        (ih fun other hother => hservices other (List.mem_cons_of_mem _ hother))) ?_
      intro others
      cases first with
      | error error => exact performs_throw _
      | ok value =>
          cases others with
          | error error => exact performs_throw _
          | ok values => exact performs_pure _

/-- What is known of the values a method returns is known of its outcome. -/
theorem Ends.of_expects {values : α → σ → Prop} {service : Service S α}
    (hservice : Expects machine rely condition guar values service state) :
    Ends machine rely condition guar
      (fun outcome later => ∀ value, outcome = .ok value → values value later) service state :=
  hservice

/-- The calls of a list return values of the list, each with what its call promises. -/
theorem expects_all (hrely : IsRely rely)
    (hmove : ∀ op input state, rely state state → condition op input state →
      guar op input state → rely state (machine.answer op input state).2)
    {items : List β} {service : β → Service S α} {promise : β → α → σ → Prop}
    (hstable : ∀ item value before later, rely before later → promise item value before →
      promise item value later)
    (hservice : ∀ item ∈ items, ∀ state,
      Expects machine rely condition guar (promise item) (service item) state) :
    ∀ state, Expects machine rely condition guar
      (fun values later => List.Forall₂ (fun item value => promise item value later) items values)
      (all (items.map service)) state := by
  induction items with
  | nil => exact fun state => expects_pure fun _ _ => .nil
  | cons item rest ih =>
      intro state
      have hrest := ih fun other hother => hservice other (List.mem_cons_of_mem _ hother)
      refine ends_attempt_bind hrely (.of_expects (hservice item List.mem_cons_self state)) ?_
      intro first later hfirst
      have hkept : ∀ before later, rely before later →
          (∀ value, first = .ok value → promise item value before) →
            ∀ value, first = .ok value → promise item value later :=
        fun before later hlater hbefore value hvalue =>
          hstable item value before later hlater (hbefore value hvalue)
      have hframed := Program.Expects.frame hrely (fun {before later} => hkept before later) hmove
        (hrest later) hfirst
      refine ends_attempt_bind hrely hframed ?_
      intro others last hothers
      cases first with
      | error error => exact expects_throw error
      | ok value =>
          cases others with
          | error error => exact expects_throw error
          | ok values =>
              refine expects_pure fun final hfinal => ?_
              refine .cons (hstable item value last final hfinal (hothers.2 value rfl)) ?_
              exact List.Forall₂.imp
                (fun other result => hstable other result last final hfinal) (hothers.1 values rfl)

end WizPay.Backend.Service
