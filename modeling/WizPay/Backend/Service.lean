import WizPay.Foundation.Interference
import WizPay.Foundation.Milestones
import WizPay.Foundation.Sequence

/-!
# Backend services

A service method is a program of database and network operations that returns
a value or throws. What it throws is what its caller, or the client, sees.
-/

namespace WizPay.Backend

open Foundation

/-- A failed database operation: a unique violation, a serialization conflict,
or anything else. -/
inductive DbError where
  | p2002
  | p2034
  | other (message : String)
deriving DecidableEq

inductive ServiceError where
  | conflict (code message : String)
  | notFound (code message : String)
  | gone (code message : String)
  | forbidden (code message : String)
  | unauthorized (code message : String)
  | badRequest (code message : String)
  | unprocessable (code message : String)
  | unavailable (code message : String)
  /-- An unavailable service whose response says `retryable: true`. -/
  | pending (code message : String)
  /-- A bad request that lists what is wrong with the payload. -/
  | invalid (code error : String) (details : List String)
  | error (message : String)
  | database (error : DbError)
deriving DecidableEq

/-- Two checks in a row pass when both do. -/
theorem except_bind_ok {ε α β : Type} {first : Except ε α} {rest : α → Except ε β} {result : β} :
    first >>= rest = .ok result ↔ ∃ value, first = .ok value ∧ rest value = .ok result := by
  cases first with
  | error error => exact ⟨fun h => (nomatch h), fun ⟨_, h, _⟩ => (nomatch h)⟩
  | ok value => exact ⟨fun h => ⟨value, rfl, h⟩, fun ⟨_, h, hr⟩ => by cases h; exact hr⟩

abbrev Service (S : Signature) (α : Type) := ExceptT ServiceError (Program S) α

namespace Service

variable {S : Signature} {α : Type}

/-- Performs an operation that cannot fail. -/
def perform (op : S.Op) : Service S (S.Res op) := ExceptT.lift (Program.call op)

/-- An answer of the database, or its error thrown. -/
def orThrow (answer : Except DbError α) : Service S α :=
  match answer with
  | .ok value => pure value
  | .error error => throw (.database error)

/-- A pure check inside a service method. -/
def ofExcept (result : Except ServiceError α) : Service S α := ExceptT.mk (pure result)

/-- A library call that throws on malformed input. -/
def required (message : String) : Option α → Service S α
  | some value => pure value
  | none => throw (.error message)

/-- `if (condition) throw error;` -/
def throwIf (condition : Prop) [Decidable condition] (error : ServiceError) : Service S Unit :=
  if condition then throw error else pure ()

/-- `try { .. } catch`: what a method throws becomes a value. -/
def attempt (service : Service S α) : Service S (Except ServiceError α) := ExceptT.lift service.run

/-- `Promise.all`: every call runs to its end, here one after the other, and the
first error is thrown. -/
def all : List (Service S α) → Service S (List α)
  | [] => pure []
  | service :: rest => do
      let first ← service.attempt
      let others ← (all rest).attempt
      match first, others with
      | .ok value, .ok values => return value :: values
      | .error error, _ => throw error
      | .ok _, .error error => throw error

/-- A method over a larger signature. -/
def lift {T : Signature} (embed : S.Op → T.Op) (answer : ∀ op, T.Res (embed op) → S.Res op)
    (service : Service S α) : Service T α := ExceptT.mk (service.run.lift embed answer)

theorem discard_eq (service : Service S α) : discard service = service >>= fun _ => pure () := by
  rw [← map_eq_pure_bind]
  rfl

/-! ## Runs of service methods -/

section

variable {ι σ β ρ : Type} (machine : Machine S ι σ)

/-- A complete run of a method, which returns or throws. -/
def Runs (service : Service S α) (start : σ) (steps : List (Step S ι σ))
    (result : Except ServiceError α) (final : σ) : Prop :=
  service.run.Runs machine start steps result final

/-- Every operation the method can perform meets a condition. -/
def Performs (condition : S.Op → Prop) (service : Service S α) : Prop :=
  service.run.Performs condition

variable {machine} {start final : σ} {steps : List (Step S ι σ)}

@[simp] theorem runs_pure {value : α} {result : Except ServiceError α} :
    Runs machine (pure value) start steps result final ↔
      steps = [] ∧ result = .ok value ∧ final = start := Iff.rfl

@[simp] theorem runs_throw {error : ServiceError} {result : Except ServiceError α} :
    Runs machine (throw error) start steps result final ↔
      steps = [] ∧ result = .error error ∧ final = start := Iff.rfl

/-- A composed method throws what its first part throws, or goes on. -/
theorem runs_bind {service : Service S α} {rest : α → Service S β}
    {result : Except ServiceError β} :
    Runs machine (service >>= rest) start steps result final ↔
      (∃ value middle first second, steps = first ++ second ∧
        Runs machine service start first (.ok value) middle ∧
        Runs machine (rest value) middle second result final) ∨
      ∃ error, result = .error error ∧ Runs machine service start steps (.error error) final := by
  unfold Runs
  rw [ExceptT.run_bind, Program.runs_bind]
  constructor
  · rintro ⟨value | value, middle, first, second, rfl, hfirst, hsecond⟩
    · obtain ⟨rfl, rfl, rfl⟩ := hsecond
      exact .inr ⟨value, rfl, by rwa [List.append_nil]⟩
    · exact .inl ⟨value, middle, first, second, rfl, hfirst, hsecond⟩
  · rintro (⟨value, middle, first, second, rfl, hfirst, hsecond⟩ | ⟨error, rfl, hrun⟩)
    · exact ⟨.ok value, middle, first, second, rfl, hfirst, hsecond⟩
    · exact ⟨.error error, final, steps, [], (List.append_nil steps).symm, hrun, rfl, rfl, rfl⟩

theorem runs_bind_ok {service : Service S α} {rest : α → Service S β} {result : β} :
    Runs machine (service >>= rest) start steps (.ok result) final ↔
      ∃ value middle first second, steps = first ++ second ∧
        Runs machine service start first (.ok value) middle ∧
        Runs machine (rest value) middle second (.ok result) final := by
  rw [runs_bind]
  exact or_iff_left fun ⟨_, herror, _⟩ => nomatch herror

theorem runs_perform {op : S.Op} {result : Except ServiceError (S.Res op)} :
    Runs machine (perform op) start steps result final ↔
      ∃ input, steps = [⟨op, input, start⟩] ∧ result = .ok (machine.answer op input start).1 ∧
        final = (machine.answer op input start).2 := by
  unfold Runs perform
  rw [ExceptT.run_lift, map_eq_pure_bind, Program.runs_bind]
  constructor
  · rintro ⟨value, middle, first, second, rfl, hfirst, rfl, rfl, rfl⟩
    obtain ⟨input, rfl, rfl, rfl⟩ := Program.runs_call.mp hfirst
    exact ⟨input, rfl, rfl, rfl⟩
  · rintro ⟨input, rfl, rfl, rfl⟩
    exact ⟨_, _, _, [], rfl, Program.runs_call.mpr ⟨input, rfl, rfl, rfl⟩, rfl, rfl, rfl⟩

theorem runs_attempt {service : Service S α}
    {result : Except ServiceError (Except ServiceError α)} :
    Runs machine service.attempt start steps result final ↔
      ∃ outcome, result = .ok outcome ∧ Runs machine service start steps outcome final := by
  unfold Runs attempt
  rw [ExceptT.run_lift, map_eq_pure_bind, Program.runs_bind]
  constructor
  · rintro ⟨value, middle, first, second, rfl, hfirst, rfl, rfl, rfl⟩
    exact ⟨value, rfl, by rwa [List.append_nil]⟩
  · rintro ⟨outcome, rfl, hrun⟩
    exact ⟨outcome, final, steps, [], (List.append_nil steps).symm, hrun, rfl, rfl, rfl⟩

@[simp] theorem runs_ofExcept {outcome result : Except ServiceError α} :
    Runs machine (ofExcept outcome) start steps result final ↔
      steps = [] ∧ result = outcome ∧ final = start := Iff.rfl

theorem runs_orThrow {answer : Except DbError α} {result : Except ServiceError α} :
    Runs machine (orThrow answer) start steps result final ↔
      steps = [] ∧ result = answer.mapError ServiceError.database ∧ final = start := by
  cases answer <;> rfl

theorem runs_throwIf {condition : Prop} [Decidable condition] {error : ServiceError}
    {result : Except ServiceError Unit} :
    Runs machine (throwIf condition error : Service S Unit) start steps result final ↔
      steps = [] ∧ result = (if condition then .error error else .ok ()) ∧ final = start := by
  unfold throwIf
  split <;> rfl

/-! What a method can perform. -/

variable {condition : S.Op → Prop}

@[simp] theorem performs_pure (value : α) : Performs condition (pure value : Service S α) := trivial

@[simp] theorem performs_throw (error : ServiceError) :
    Performs condition (throw error : Service S α) := trivial

theorem performs_bind {service : Service S α} {rest : α → Service S β}
    (hservice : Performs condition service) (hrest : ∀ value, Performs condition (rest value)) :
    Performs condition (service >>= rest) := by
  unfold Performs
  rw [ExceptT.run_bind]
  refine Program.performs_bind hservice fun value => ?_
  cases value with
  | error error => trivial
  | ok value => exact hrest value

theorem performs_discard {service : Service S α} (hservice : Performs condition service) :
    Performs condition (discard service : Service S Unit) := by
  rw [discard_eq]
  exact performs_bind hservice fun _ => performs_pure _

theorem performs_perform {op : S.Op} (hop : condition op) :
    Performs condition (perform op : Service S (S.Res op)) := by
  unfold Performs perform
  rw [ExceptT.run_lift, map_eq_pure_bind]
  exact Program.performs_bind ⟨hop, fun _ => trivial⟩ fun _ => trivial

theorem performs_attempt {service : Service S α} (hservice : Performs condition service) :
    Performs condition service.attempt := by
  unfold Performs attempt
  rw [ExceptT.run_lift, map_eq_pure_bind]
  exact Program.performs_bind hservice fun _ => trivial

@[simp] theorem performs_ofExcept (outcome : Except ServiceError α) :
    Performs condition (ofExcept outcome : Service S α) := trivial

@[simp] theorem performs_orThrow (answer : Except DbError α) :
    Performs condition (orThrow answer : Service S α) := by
  cases answer <;> trivial

@[simp] theorem performs_throwIf {check : Prop} [Decidable check] (error : ServiceError) :
    Performs condition (throwIf check error : Service S Unit) := by
  unfold throwIf
  split <;> trivial

/-! ## Methods under interference -/

variable {rely : σ → σ → Prop} {guar : S.Op → ι → σ → Prop}

/-- Every operation of a method is guaranteed, and what it returns, if it does not
throw, meets the postcondition. -/
def Meets (machine : Machine S ι σ) (rely : σ → σ → Prop) (guar : S.Op → ι → σ → Prop)
    (post : α → σ → Prop) (service : Service S α) (state : σ) : Prop :=
  service.run.Meets machine rely guar
    (fun outcome state => ∀ value, outcome = .ok value → post value state) state

variable {post : α → σ → Prop} {state : σ}

theorem meets_pure {value : α} (hpost : ∀ later, rely state later → post value later) :
    Meets machine rely guar post (pure value : Service S α) state := by
  rintro later hlater _ ⟨⟩
  exact hpost later hlater

theorem meets_throw (error : ServiceError) :
    Meets machine rely guar post (throw error : Service S α) state := by
  rintro later _ _ ⟨⟩

theorem meets_ofExcept {outcome : Except ServiceError α}
    (hpost : ∀ value, outcome = .ok value → ∀ later, rely state later → post value later) :
    Meets machine rely guar post (ofExcept outcome : Service S α) state :=
  fun later hlater value hvalue => hpost value hvalue later hlater

theorem meets_throwIf {check : Prop} [Decidable check] {error : ServiceError}
    {post : Unit → σ → Prop} (hpost : ¬ check → ∀ later, rely state later → post () later) :
    Meets machine rely guar post (throwIf check error : Service S Unit) state := by
  unfold throwIf
  split
  · exact meets_throw error
  · next hcheck => exact meets_pure (hpost hcheck)

theorem meets_orThrow {answer : Except DbError α}
    (hpost : ∀ value, answer = .ok value → ∀ later, rely state later → post value later) :
    Meets machine rely guar post (orThrow answer : Service S α) state := by
  cases answer with
  | ok value => exact meets_pure (hpost value rfl)
  | error error => exact meets_throw _

theorem meets_bind (hrely : IsRely rely) {service : Service S α} {rest : α → Service S β}
    {final : β → σ → Prop} (hservice : Meets machine rely guar post service state)
    (hrest : ∀ value later, post value later → Meets machine rely guar final (rest value) later) :
    Meets machine rely guar final (service >>= rest) state := by
  unfold Meets
  rw [ExceptT.run_bind]
  refine Program.meets_bind hrely hservice fun outcome later houtcome => ?_
  cases outcome with
  | error error =>
      rintro last _ _ ⟨⟩
  | ok value => exact hrest value later (houtcome value rfl)

theorem meets_then (hrely : IsRely rely) {service : Service S α} {rest : α → Service S β}
    {final : β → σ → Prop} (hservice : Meets machine rely guar (fun _ _ => True) service state)
    (hrest : ∀ value later, Meets machine rely guar final (rest value) later) :
    Meets machine rely guar final (service >>= rest) state :=
  meets_bind hrely hservice fun value later _ => hrest value later

theorem meets_map {f : α → β} {final : β → σ → Prop} {service : Service S α}
    (hservice : Meets machine rely guar (fun value => final (f value)) service state) :
    Meets machine rely guar final (f <$> service) state := by
  unfold Meets
  rw [ExceptT.run_map, map_eq_pure_bind]
  refine Program.meets_map (hservice.mono fun outcome later houtcome => ?_)
  rintro value hvalue
  cases outcome with
  | error error => cases hvalue
  | ok result =>
      cases hvalue
      exact houtcome result rfl

theorem meets_discard {post : σ → Prop} {service : Service S α}
    (hservice : Meets machine rely guar (fun _ => post) service state) :
    Meets machine rely guar (fun _ => post) (discard service : Service S Unit) state := by
  have hmap := @meets_map S α ι σ Unit machine rely guar state (fun _ => ()) (fun _ => post) service
    hservice
  exact hmap

theorem meets_perform {op : S.Op} {post : S.Res op → σ → Prop}
    (hop : ∀ later, rely state later → ∀ input, guar op input later ∧
      ∀ last, rely (machine.answer op input later).2 last →
        post (machine.answer op input later).1 last) :
    Meets machine rely guar post (perform op : Service S (S.Res op)) state := by
  intro later hlater input
  obtain ⟨hguar, hpost⟩ := hop later hlater input
  refine ⟨hguar, ?_⟩
  rintro last hlast _ ⟨⟩
  exact hpost last hlast

theorem meets_attempt {service : Service S α}
    (hservice : Meets machine rely guar post service state) :
    Meets machine rely guar (fun outcome state => ∀ value, outcome = .ok value → post value state)
      service.attempt state := by
  unfold Meets attempt
  rw [ExceptT.run_lift, map_eq_pure_bind]
  refine Program.meets_map (hservice.mono ?_)
  rintro outcome later houtcome _ ⟨⟩ value hvalue
  exact houtcome value hvalue

theorem Meets.frame (hrely : IsRely rely) {fact : σ → Prop}
    (hstable : ∀ {state later}, rely state later → fact state → fact later)
    (hstep : ∀ op input state, rely state state → guar op input state →
      rely state (machine.answer op input state).2) {service : Service S α}
    (hservice : Meets machine rely guar post service state) (hfact : fact state) :
    Meets machine rely guar (fun value state => post value state ∧ fact state) service state :=
  (Program.Meets.frame hrely hstable hstep hservice hfact).mono
    fun _ _ hpost value hvalue => ⟨hpost.1 value hvalue, hpost.2⟩

theorem Meets.refl_after (hrely : IsRely rely) {service : Service S α}
    (hservice : Meets machine rely guar post service state) :
    Meets machine rely guar (fun value state => post value state ∧ rely state state)
      service state :=
  (Program.Meets.refl_after hrely hservice).mono
    fun _ _ hpost value hvalue => ⟨hpost.1 value hvalue, hpost.2⟩

theorem meets_of_performs {condition : S.Op → Prop}
    (hguar : ∀ op, condition op → ∀ input state, guar op input state) {service : Service S α}
    (hservice : Performs condition service) (state : σ) :
    Meets machine rely guar (fun _ _ => True) service state :=
  (Program.Performs.meets hguar hservice state).mono fun _ _ _ _ _ => trivial

/-- What is known before a method, and survives interference, is known after it. -/
theorem meets_bind_keeping (hrely : IsRely rely) {fact : σ → Prop}
    (hstable : ∀ {state later}, rely state later → fact state → fact later)
    (hstep : ∀ op input state, rely state state → guar op input state →
      rely state (machine.answer op input state).2) {service : Service S α} {rest : α → Service S β}
    {final : β → σ → Prop} (hservice : Meets machine rely guar post service state)
    (hfact : fact state)
    (hrest : ∀ value later, post value later → fact later →
      Meets machine rely guar final (rest value) later) :
    Meets machine rely guar final (service >>= rest) state :=
  meets_bind hrely (hservice.frame hrely hstable hstep hfact)
    fun value later hpost => hrest value later hpost.1 hpost.2

/-- Whatever its operations are answered, what the method returns, if it does not
throw, meets the postcondition. -/
def Returns (post : α → Prop) (service : Service S α) : Prop :=
  service.run.Returns fun outcome => ∀ value, outcome = .ok value → post value

theorem returns_pure {post : α → Prop} {value : α} (hpost : post value) :
    Returns post (pure value : Service S α) := by
  rintro _ ⟨⟩
  exact hpost

theorem returns_then {post : β → Prop} {service : Service S α} {rest : α → Service S β}
    (hrest : ∀ value, Returns post (rest value)) : Returns post (service >>= rest) := by
  unfold Returns
  rw [ExceptT.run_bind]
  apply Program.returns_bind (Program.Returns.of_forall (fun _ => trivial) _)
  rintro (error | value) -
  · rintro _ ⟨⟩
  · exact hrest value

/-! ## Milestones of a method -/

/-- The method returns, without throwing, only after a marked operation. -/
def Passes (mark : (op : S.Op) → S.Res op → Prop) (service : Service S α) : Prop :=
  service.run.Passes mark fun outcome => ∃ value, outcome = .ok value

variable {mark : (op : S.Op) → S.Res op → Prop}

theorem passes_throw (error : ServiceError) : Passes mark (throw error : Service S α) := by
  rintro ⟨value, hvalue⟩
  cases hvalue

theorem passes_then {service : Service S α} {rest : α → Service S β}
    (hrest : ∀ value, Passes mark (rest value)) : Passes mark (service >>= rest) := by
  unfold Passes
  rw [ExceptT.run_bind]
  apply Program.passes_bind (Program.passes_of_none _)
  intro outcome _
  cases outcome with
  | error error => exact passes_throw error
  | ok value => exact hrest value

theorem passes_first {service : Service S α} {rest : α → Service S β}
    (hservice : Passes mark service) : Passes mark (service >>= rest) := by
  unfold Passes
  rw [ExceptT.run_bind]
  apply Program.passes_bind hservice
  intro outcome hreturned
  cases outcome with
  | error error => exact passes_throw error
  | ok value => exact absurd ⟨value, rfl⟩ hreturned

theorem passes_perform {op : S.Op} {rest : S.Res op → Service S α}
    (hrest : ∀ answer, mark op answer ∨ Passes mark (rest answer)) :
    Passes mark (perform op >>= rest) := hrest

/-! ## Methods that run alone -/

/-- What the method returns or throws, and leaves behind, when it runs alone. -/
def alone (machine : Machine S ι σ) (input : ι) (service : Service S α) (state : σ) :
    Except ServiceError α × σ := service.run.alone machine input state

variable {input : ι}

theorem alone_bind_ok {service : Service S α} {rest : α → Service S β} {value : β} {last : σ} :
    (service >>= rest).alone machine input state = (.ok value, last) ↔
      ∃ first middle, service.alone machine input state = (.ok first, middle) ∧
        (rest first).alone machine input middle = (.ok value, last) := by
  unfold alone
  rw [ExceptT.run_bind, Program.alone_bind]
  rcases service.run.alone machine input state with ⟨error | first, middle⟩
  · constructor
    · intro herror
      cases congrArg Prod.fst herror
    · rintro ⟨first, middle, herror, -⟩
      cases congrArg Prod.fst herror
  · constructor
    · exact fun hrest => ⟨first, middle, rfl, hrest⟩
    · rintro ⟨_, _, ⟨⟩, hrest⟩
      exact hrest

theorem alone_pure_ok {value result : α} {last : σ} :
    (pure value : Service S α).alone machine input state = (.ok result, last) ↔
      result = value ∧ last = state := by
  constructor
  · rintro ⟨⟩
    exact ⟨rfl, rfl⟩
  · rintro ⟨rfl, rfl⟩
    rfl

theorem alone_throw_ok {error : ServiceError} {result : α} {last : σ} :
    ¬ (throw error : Service S α).alone machine input state = (.ok result, last) := nofun

theorem alone_perform_ok {op : S.Op} {result : S.Res op} {last : σ} :
    (perform op : Service S (S.Res op)).alone machine input state = (.ok result, last) ↔
      result = (machine.answer op input state).1 ∧ last = (machine.answer op input state).2 := by
  have halone : (perform op : Service S (S.Res op)).alone machine input state =
      (.ok (machine.answer op input state).1, (machine.answer op input state).2) := rfl
  rw [halone, Prod.mk.injEq, Except.ok.injEq]
  exact and_congr eq_comm eq_comm

theorem alone_ofExcept_ok {outcome : Except ServiceError α} {result : α} {last : σ} :
    (ofExcept outcome : Service S α).alone machine input state = (.ok result, last) ↔
      outcome = .ok result ∧ last = state := by
  have halone : (ofExcept outcome : Service S α).alone machine input state = (outcome, state) := rfl
  rw [halone, Prod.mk.injEq]
  exact and_congr Iff.rfl eq_comm

theorem alone_throwIf_ok {check : Prop} [Decidable check] {error : ServiceError} {result : Unit}
    {last : σ} :
    (throwIf check error : Service S Unit).alone machine input state = (.ok result, last) ↔
      ¬ check ∧ last = state := by
  unfold throwIf
  by_cases hcheck : check
  · rw [if_pos hcheck]
    exact iff_of_false alone_throw_ok fun hnot => hnot.1 hcheck
  · rw [if_neg hcheck, alone_pure_ok]
    exact ⟨fun hdone => ⟨hcheck, hdone.2⟩, fun hdone => ⟨rfl, hdone.2⟩⟩

/-! A method that goes on after a check, or after one operation. -/

theorem alone_ofExcept_bind_ok {outcome : Except ServiceError α} {rest : α → Service S β}
    {value : β} {last : σ} :
    (ofExcept outcome >>= rest).alone machine input state = (.ok value, last) ↔
      ∃ first, outcome = .ok first ∧ (rest first).alone machine input state = (.ok value, last) := by
  rw [alone_bind_ok]
  constructor
  · rintro ⟨first, middle, hfirst, hrest⟩
    obtain ⟨houtcome, rfl⟩ := alone_ofExcept_ok.mp hfirst
    exact ⟨first, houtcome, hrest⟩
  · rintro ⟨first, houtcome, hrest⟩
    exact ⟨first, state, alone_ofExcept_ok.mpr ⟨houtcome, rfl⟩, hrest⟩

theorem alone_throwIf_bind_ok {check : Prop} [Decidable check] {error : ServiceError}
    {rest : Unit → Service S β} {value : β} {last : σ} :
    (throwIf check error >>= rest).alone machine input state = (.ok value, last) ↔
      ¬ check ∧ (rest ()).alone machine input state = (.ok value, last) := by
  rw [alone_bind_ok]
  constructor
  · rintro ⟨_, middle, hcheck, hrest⟩
    obtain ⟨hnot, rfl⟩ := alone_throwIf_ok.mp hcheck
    exact ⟨hnot, hrest⟩
  · rintro ⟨hnot, hrest⟩
    exact ⟨(), state, alone_throwIf_ok.mpr ⟨hnot, rfl⟩, hrest⟩

theorem alone_perform_bind_ok {op : S.Op} {rest : S.Res op → Service S β} {value : β} {last : σ} :
    (perform op >>= rest).alone machine input state = (.ok value, last) ↔
      (rest (machine.answer op input state).1).alone machine input
        (machine.answer op input state).2 = (.ok value, last) := Iff.rfl

theorem alone_orThrow_ok {answer : Except DbError α} {result : α} {last : σ} :
    (orThrow answer : Service S α).alone machine input state = (.ok result, last) ↔
      answer = .ok result ∧ last = state := by
  cases answer with
  | error error =>
      refine iff_of_false alone_throw_ok ?_
      rintro ⟨herror, -⟩
      cases herror
  | ok value =>
      refine alone_pure_ok.trans (and_congr ?_ Iff.rfl)
      rw [Except.ok.injEq, eq_comm]

/-! Methods that change nothing, and methods that change nothing when they throw. -/

variable (machine) in
def ReadOnly (service : Service S α) : Prop :=
  ∀ input state, (service.alone machine input state).2 = state

variable (machine) in
def Quiet (service : Service S α) : Prop :=
  ∀ input state error last, service.alone machine input state = (.error error, last) → last = state

theorem readOnly_pure (value : α) : ReadOnly machine (pure value : Service S α) := fun _ _ => rfl

theorem readOnly_throw (error : ServiceError) :
    ReadOnly machine (throw error : Service S α) := fun _ _ => rfl

theorem readOnly_ofExcept (outcome : Except ServiceError α) :
    ReadOnly machine (ofExcept outcome : Service S α) := fun _ _ => rfl

theorem readOnly_throwIf {check : Prop} [Decidable check] (error : ServiceError) :
    ReadOnly machine (throwIf check error : Service S Unit) := by
  intro input state
  unfold throwIf
  split <;> rfl

theorem readOnly_orThrow (answer : Except DbError α) :
    ReadOnly machine (orThrow answer : Service S α) := by
  intro input state
  cases answer <;> rfl

theorem readOnly_perform {op : S.Op}
    (hop : ∀ input state, (machine.answer op input state).2 = state) :
    ReadOnly machine (perform op : Service S (S.Res op)) := hop

theorem readOnly_bind {service : Service S α} {rest : α → Service S β}
    (hservice : ReadOnly machine service) (hrest : ∀ value, ReadOnly machine (rest value)) :
    ReadOnly machine (service >>= rest) := by
  intro input state
  have hfirst := hservice input state
  unfold alone at hfirst ⊢
  rw [ExceptT.run_bind, Program.alone_bind, hfirst]
  cases (service.run.alone machine input state).1 with
  | error error => rfl
  | ok value => exact hrest value input state

theorem ReadOnly.quiet {service : Service S α} (hservice : ReadOnly machine service) :
    Quiet machine service := by
  intro input state error last herror
  rw [← hservice input state, herror]

theorem quiet_throw (error : ServiceError) : Quiet machine (throw error : Service S α) :=
  (readOnly_throw error).quiet

theorem quiet_bind {service : Service S α} {rest : α → Service S β}
    (hservice : ReadOnly machine service) (hrest : ∀ value, Quiet machine (rest value)) :
    Quiet machine (service >>= rest) := by
  intro input state error last herror
  have hfirst := hservice input state
  unfold alone at hfirst herror
  rw [ExceptT.run_bind, Program.alone_bind, hfirst] at herror
  cases houtcome : (service.run.alone machine input state).1 with
  | error thrown =>
      rw [houtcome] at herror
      exact (congrArg Prod.snd herror).symm
  | ok value =>
      rw [houtcome] at herror
      exact hrest value input state error last herror

end

end Service

end WizPay.Backend
