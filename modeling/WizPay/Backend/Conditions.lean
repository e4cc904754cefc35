import WizPay.Backend.Service
import WizPay.Foundation.Conditions

/-!
# Service methods on a condition

What a method returns, if it does not throw, when all its operations meet a
condition while others move the state.
-/

namespace WizPay.Backend.Service

open Foundation

variable {S : Signature} {ι σ α β : Type}

def Expects (machine : Machine S ι σ) (rely : σ → σ → Prop)
    (condition guar : S.Op → ι → σ → Prop) (post : α → σ → Prop) (service : Service S α) (state : σ) : Prop :=
  service.run.Expects machine rely condition guar
    (fun outcome state => ∀ value, outcome = .ok value → post value state) state

variable {machine : Machine S ι σ} {rely : σ → σ → Prop} {condition guar : S.Op → ι → σ → Prop}
  {post : α → σ → Prop} {state : σ}

theorem expects_pure {value : α} (hpost : ∀ later, rely state later → post value later) :
    Expects machine rely condition guar post (pure value : Service S α) state := by
  rintro later hlater _ ⟨⟩
  exact hpost later hlater

theorem expects_throw (error : ServiceError) :
    Expects machine rely condition guar post (throw error : Service S α) state := by
  rintro later _ _ ⟨⟩

theorem expects_ofExcept {outcome : Except ServiceError α}
    (hpost : ∀ value, outcome = .ok value → ∀ later, rely state later → post value later) :
    Expects machine rely condition guar post (ofExcept outcome : Service S α) state :=
  fun later hlater value hvalue => hpost value hvalue later hlater

theorem expects_throwIf {check : Prop} [Decidable check] {error : ServiceError}
    {post : Unit → σ → Prop} (hpost : ¬ check → ∀ later, rely state later → post () later) :
    Expects machine rely condition guar post (throwIf check error : Service S Unit) state := by
  unfold throwIf
  split
  · exact expects_throw error
  · next hcheck => exact expects_pure (hpost hcheck)

theorem expects_orThrow {answer : Except DbError α}
    (hpost : ∀ value, answer = .ok value → ∀ later, rely state later → post value later) :
    Expects machine rely condition guar post (orThrow answer : Service S α) state := by
  cases answer with
  | ok value => exact expects_pure (hpost value rfl)
  | error error => exact expects_throw _

theorem expects_bind (hrely : IsRely rely) {service : Service S α} {rest : α → Service S β}
    {final : β → σ → Prop} (hservice : Expects machine rely condition guar post service state)
    (hrest : ∀ value later, post value later →
      Expects machine rely condition guar final (rest value) later) :
    Expects machine rely condition guar final (service >>= rest) state := by
  unfold Expects
  rw [ExceptT.run_bind]
  refine Program.expects_bind hrely hservice fun outcome later houtcome => ?_
  cases outcome with
  | error error =>
      rintro last _ _ ⟨⟩
  | ok value => exact hrest value later (houtcome value rfl)

/-- What interference keeps, and the operations of the method too, holds at its end. -/
theorem Expects.frame (hrely : IsRely rely) {fact : σ → Prop}
    (hstable : ∀ {state later}, rely state later → fact state → fact later)
    (hmove : ∀ op input state, rely state state → condition op input state →
      guar op input state → rely state (machine.answer op input state).2) {service : Service S α}
    (hservice : Expects machine rely condition guar post service state) (hfact : fact state) :
    Expects machine rely condition guar (fun value state => post value state ∧ fact state) service
      state :=
  (Program.Expects.frame hrely hstable hmove hservice hfact).mono
    fun _ _ houtcome value hvalue => ⟨houtcome.1 value hvalue, houtcome.2⟩

theorem expects_of_performs {allowed : S.Op → Prop}
    (hguar : ∀ op, allowed op → ∀ input state, guar op input state) {service : Service S α}
    (hservice : Performs allowed service) (state : σ) :
    Expects machine rely condition guar (fun _ _ => True) service state :=
  (Program.Performs.expects hguar hservice state).mono fun _ _ _ _ _ => trivial

/-- What the first part returns does not matter. -/
theorem expects_then (hrely : IsRely rely) {service : Service S α} {rest : α → Service S β}
    {final : β → σ → Prop}
    (hservice : Expects machine rely condition guar (fun _ _ => True) service state)
    (hrest : ∀ value later, Expects machine rely condition guar final (rest value) later) :
    Expects machine rely condition guar final (service >>= rest) state :=
  expects_bind hrely hservice fun value later _ => hrest value later

theorem expects_perform {op : S.Op} {post : S.Res op → σ → Prop}
    (hop : ∀ later, rely state later → ∀ input, condition op input later → guar op input later ∧
      ∀ last, rely (machine.answer op input later).2 last →
        post (machine.answer op input later).1 last) :
    Expects machine rely condition guar post (perform op : Service S (S.Res op)) state := by
  intro later hlater input hcondition
  obtain ⟨hguar, hpost⟩ := hop later hlater input hcondition
  refine ⟨hguar, ?_⟩
  rintro last hlast _ ⟨⟩
  exact hpost last hlast

end WizPay.Backend.Service
