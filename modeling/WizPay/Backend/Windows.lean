import WizPay.Backend.Service
import WizPay.Foundation.Windows

/-!
# Service methods in windows

What a method guarantees when the others keep to what is allowed before each of
its operations, and what holds of the value it returns, if it does not throw.
-/

namespace WizPay.Backend.Service

open Foundation

variable {S : Signature} {ι σ α β : Type}

def Guarded (machine : Machine S ι σ) (rely : S.Op → σ → σ → Prop)
    (condition guar : S.Op → ι → σ → Prop) (post : α → σ → Prop) (service : Service S α)
    (state : σ) : Prop :=
  service.run.Guarded machine rely condition guar
    (fun outcome state => ∀ value, outcome = .ok value → post value state) state

variable {machine : Machine S ι σ} {rely : S.Op → σ → σ → Prop}
  {condition guar : S.Op → ι → σ → Prop} {post : α → σ → Prop} {state : σ}

theorem guarded_pure {value : α} (hpost : post value state) :
    Guarded machine rely condition guar post (pure value : Service S α) state := by
  rintro _ ⟨⟩
  exact hpost

theorem guarded_throw (error : ServiceError) :
    Guarded machine rely condition guar post (throw error : Service S α) state := by
  rintro _ ⟨⟩

theorem guarded_orThrow {answer : Except DbError α}
    (hpost : ∀ value, answer = .ok value → post value state) :
    Guarded machine rely condition guar post (orThrow answer : Service S α) state := by
  cases answer with
  | ok value => exact guarded_pure (hpost value rfl)
  | error error => exact guarded_throw _

theorem guarded_bind {service : Service S α} {rest : α → Service S β} {final : β → σ → Prop}
    (hservice : Guarded machine rely condition guar post service state)
    (hrest : ∀ value later, post value later →
      Guarded machine rely condition guar final (rest value) later) :
    Guarded machine rely condition guar final (service >>= rest) state := by
  unfold Guarded
  rw [ExceptT.run_bind]
  refine Program.guarded_bind hservice fun outcome later houtcome => ?_
  cases outcome with
  | error error => exact guarded_throw error
  | ok value => exact hrest value later (houtcome value rfl)

theorem guarded_discard {post : σ → Prop} {service : Service S α}
    (hservice : Guarded machine rely condition guar (fun _ => post) service state) :
    Guarded machine rely condition guar (fun _ => post) (discard service : Service S Unit) state := by
  rw [discard_eq]
  exact guarded_bind hservice fun _ _ hpost => guarded_pure hpost

theorem guarded_ofExcept_bind {outcome : Except ServiceError α} {rest : α → Service S β}
    {final : β → σ → Prop} (hrest : ∀ value, outcome = .ok value →
      Guarded machine rely condition guar final (rest value) state) :
    Guarded machine rely condition guar final (ofExcept outcome >>= rest) state := by
  cases outcome with
  | ok value => exact hrest value rfl
  | error error => exact guarded_throw error

theorem guarded_throwIf_bind {check : Prop} [Decidable check] {error : ServiceError}
    {rest : Unit → Service S β} {final : β → σ → Prop}
    (hrest : ¬ check → Guarded machine rely condition guar final (rest ()) state) :
    Guarded machine rely condition guar final (throwIf check error >>= rest) state := by
  unfold throwIf
  split
  · exact guarded_throw error
  · next hcheck => exact hrest hcheck

theorem guarded_perform_bind {op : S.Op} {rest : S.Res op → Service S β} {final : β → σ → Prop}
    (hop : ∀ later, rely op state later → ∀ input, condition op input later →
      guar op input later ∧ Guarded machine rely condition guar final
        (rest (machine.answer op input later).1) (machine.answer op input later).2) :
    Guarded machine rely condition guar final (perform op >>= rest) state := hop

/-- What is caught is judged by the value the method returns, or by nothing. -/
theorem guarded_attempt_bind {service : Service S α} {rest : Except ServiceError α → Service S β}
    {final : β → σ → Prop} (hservice : Guarded machine rely condition guar post service state)
    (hok : ∀ value later, post value later →
      Guarded machine rely condition guar final (rest (.ok value)) later)
    (herror : ∀ error later, Guarded machine rely condition guar final (rest (.error error)) later) :
    Guarded machine rely condition guar final (service.attempt >>= rest) state := by
  unfold Guarded attempt
  rw [ExceptT.run_bind, ExceptT.run_lift, map_eq_pure_bind, bind_assoc]
  refine Program.guarded_bind hservice fun outcome later houtcome => ?_
  cases outcome with
  | error error => exact herror error later
  | ok value => exact hok value later (houtcome value rfl)

/-- A method of operations that need no look at the states keeps a fact that
everybody keeps before them. -/
theorem guarded_of_performs {allowed : S.Op → Prop} {fact : σ → Prop}
    (hstable : ∀ op state later, allowed op → rely op state later → fact state → fact later)
    (hop : ∀ op input state, allowed op → fact state →
      guar op input state ∧ fact (machine.answer op input state).2)
    {service : Service S α} (hservice : Performs allowed service) (hfact : fact state) :
    Guarded machine rely condition guar (fun _ state => fact state) service state :=
  (Program.Performs.guarded hstable hop hservice hfact).mono fun _ _ hkept _ _ => hkept

theorem Guarded.mono {weaker : α → σ → Prop}
    (hweaker : ∀ value state, post value state → weaker value state) {service : Service S α}
    (hguarded : Guarded machine rely condition guar post service state) :
    Guarded machine rely condition guar weaker service state :=
  Program.Guarded.mono (fun _ _ houtcome value hvalue => hweaker _ _ (houtcome value hvalue))
    hguarded

end WizPay.Backend.Service
