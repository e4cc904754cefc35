import WizPay.Backend.Service

/-!
# Errors a method does not end with

A method avoids an error if it never throws it when it runs alone, whatever state it
finds. Parts that avoid an error make a whole that does; where what a part returned, or
the state it left, decides about the rest, the rest is followed from there.
-/

namespace WizPay.Backend.Service

open Foundation

variable {S : Signature} {ι σ α β : Type} {machine : Machine S ι σ} {error : ServiceError}

theorem alone_bind (service : Service S α) (rest : α → Service S β) (input : ι) (state : σ) :
    (service >>= rest).alone machine input state =
      match service.alone machine input state with
      | (.ok value, middle) => (rest value).alone machine input middle
      | (.error error, middle) => (.error error, middle) := by
  unfold alone
  rw [ExceptT.run_bind, Program.alone_bind]
  rcases service.run.alone machine input state with ⟨error | value, middle⟩
  · rfl
  · rfl

/-- A composed method that throws does so in its first part, or in what follows. -/
theorem alone_bind_error {service : Service S α} {rest : α → Service S β} {input : ι} {state : σ} :
    ((service >>= rest).alone machine input state).1 = .error error ↔
      (service.alone machine input state).1 = .error error ∨
        ∃ value middle, service.alone machine input state = (.ok value, middle) ∧
          ((rest value).alone machine input middle).1 = .error error := by
  rw [alone_bind]
  rcases service.alone machine input state with ⟨thrown | value, middle⟩
  · constructor
    · exact fun herror => .inl (congrArg Except.error (Except.error.inj herror))
    · rintro (herror | ⟨value, last, hvalue, -⟩)
      · exact congrArg Except.error (Except.error.inj herror)
      · cases congrArg Prod.fst hvalue
  · constructor
    · exact fun herror => .inr ⟨value, middle, rfl, herror⟩
    · rintro (herror | ⟨_, _, ⟨⟩, herror⟩)
      · cases herror
      · exact herror

variable (machine error) in
/-- The method does not throw the error. -/
def Avoids (service : Service S α) : Prop :=
  ∀ input state, (service.alone machine input state).1 ≠ .error error

theorem avoids_pure (value : α) : Avoids machine error (pure value : Service S α) := nofun

theorem avoids_throw {other : ServiceError} (hother : other ≠ error) :
    Avoids machine error (throw other : Service S α) :=
  fun _ _ heq => hother (Except.error.inj heq)

theorem avoids_ofExcept {outcome : Except ServiceError α} (houtcome : outcome ≠ .error error) :
    Avoids machine error (ofExcept outcome : Service S α) := fun _ _ => houtcome

theorem avoids_throwIf {check : Prop} [Decidable check] {other : ServiceError}
    (hother : other ≠ error) : Avoids machine error (throwIf check other : Service S Unit) := by
  unfold throwIf
  split
  · exact avoids_throw hother
  · exact avoids_pure ()

theorem avoids_orThrow (answer : Except DbError α) (herror : ∀ failure, .database failure ≠ error) :
    Avoids machine error (orThrow answer : Service S α) := by
  cases answer with
  | ok value => exact avoids_pure value
  | error failure => exact avoids_throw (herror failure)

theorem avoids_perform (op : S.Op) :
    Avoids machine error (perform op : Service S (S.Res op)) := nofun

theorem avoids_bind {service : Service S α} {rest : α → Service S β}
    (hservice : Avoids machine error service) (hrest : ∀ value, Avoids machine error (rest value)) :
    Avoids machine error (service >>= rest) := by
  intro input state herror
  rcases alone_bind_error.mp herror with hfirst | ⟨value, middle, -, hsecond⟩
  · exact hservice input state hfirst
  · exact hrest value input middle hsecond

theorem avoids_discard {service : Service S α} (hservice : Avoids machine error service) :
    Avoids machine error (discard service : Service S Unit) := by
  rw [discard_eq]
  exact avoids_bind hservice fun _ => avoids_pure ()

/-- What follows an operation need only avoid the error on what the machine answers. -/
theorem avoids_perform_bind {op : S.Op} {rest : S.Res op → Service S β}
    (hrest : ∀ input state, Avoids machine error (rest (machine.answer op input state).1)) :
    Avoids machine error (perform op >>= rest) :=
  fun input state => hrest input state input _

/-! ## Methods over a larger machine -/

section Lift

variable {T : Signature} {κ τ : Type} {larger : Machine T κ τ} {embed : S.Op → T.Op}
  {reply : ∀ op, T.Res (embed op) → S.Res op} (narrowInput : κ → ι) (narrow : τ → σ)

/-- The larger machine answers the embedded operations as the smaller one does. -/
theorem alone_lift
    (hanswer : ∀ op input state, reply op (larger.answer (embed op) input state).1 =
      (machine.answer op (narrowInput input) (narrow state)).1)
    (hstate : ∀ op input state, narrow (larger.answer (embed op) input state).2 =
      (machine.answer op (narrowInput input) (narrow state)).2)
    (service : Service S α) (input : κ) (state : τ) :
    ((service.lift embed reply).alone larger input state).1 =
      (service.alone machine (narrowInput input) (narrow state)).1 := by
  have hprogram : ∀ (program : Program S (Except ServiceError α)) (state : τ),
      ((program.lift embed reply).alone larger input state).1 =
        (program.alone machine (narrowInput input) (narrow state)).1 := by
    intro program
    induction program with
    | done value => exact fun _ => rfl
    | perform op next ih =>
        intro state
        have hnext := ih (reply op (larger.answer (embed op) input state).1)
          (larger.answer (embed op) input state).2
        rw [hanswer, hstate] at hnext
        exact (congrArg (fun answer => ((next answer).lift embed reply |>.alone larger input _).1)
          (hanswer op input state)).trans hnext
  exact hprogram service.run state

theorem avoids_lift
    (hanswer : ∀ op input state, reply op (larger.answer (embed op) input state).1 =
      (machine.answer op (narrowInput input) (narrow state)).1)
    (hstate : ∀ op input state, narrow (larger.answer (embed op) input state).2 =
      (machine.answer op (narrowInput input) (narrow state)).2)
    {service : Service S α} (hservice : Avoids machine error service) :
    Avoids larger error (service.lift embed reply) := by
  intro input state
  rw [alone_lift narrowInput narrow hanswer hstate]
  exact hservice (narrowInput input) (narrow state)

end Lift

end WizPay.Backend.Service
