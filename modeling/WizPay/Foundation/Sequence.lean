import WizPay.Foundation.Program

/-!
# Calls one after the other

A program runs alone when nothing else happens until it returns; one input of
the environment then answers all its operations. A sequence of such runs visits
a state after each, and is judged call by call or by what holds in these states.
-/

namespace WizPay.Foundation

namespace Program

variable {S : Signature} {ι σ α β : Type}

/-- The value and the state a program ends with when it runs alone. -/
def alone (machine : Machine S ι σ) (input : ι) : Program S α → σ → α × σ
  | done value, state => (value, state)
  | perform op next, state =>
      let answer := machine.answer op input state
      (next answer.1).alone machine input answer.2

variable {machine : Machine S ι σ} {input : ι}

theorem alone_bind (program : Program S α) (rest : α → Program S β) (state : σ) :
    (program >>= rest).alone machine input state =
      (rest (program.alone machine input state).1).alone machine input
        (program.alone machine input state).2 := by
  induction program generalizing state with
  | done value => rfl
  | perform op next ih => exact ih _ _

/-- What every operation keeps, on the one input, a program that runs alone keeps. -/
theorem alone_keeps {fact : σ → Prop}
    (hop : ∀ op state, fact state → fact (machine.answer op input state).2) (program : Program S α)
    {state : σ} (hfact : fact state) : fact (program.alone machine input state).2 := by
  induction program generalizing state with
  | done value => exact hfact
  | perform op next ih => exact ih _ (hop op state hfact)

end Program

namespace Sequence

variable {σ τ L : Type} (step : σ → L → σ)

/-- The state after a sequence of labelled steps. -/
def run : List L → σ → σ
  | [], state => state
  | label :: rest, state => run rest (step state label)

/-- Every step meets a condition on its label and the state before it. -/
def Along (condition : σ → L → Prop) : List L → σ → Prop
  | [], _ => True
  | label :: rest, state => condition state label ∧ Along condition rest (step state label)

instance decidableAlong (condition : σ → L → Prop)
    [∀ state label, Decidable (condition state label)] :
    (labels : List L) → (state : σ) → Decidable (Along step condition labels state)
  | [], _ => isTrue trivial
  | label :: rest, state =>
      have := decidableAlong condition rest (step state label)
      inferInstanceAs (Decidable (_ ∧ _))

variable {step}

theorem run_cons (label : L) (rest : List L) (state : σ) :
    run step (label :: rest) state = run step rest (step state label) := rfl

theorem along_nil (condition : σ → L → Prop) (state : σ) : Along step condition [] state := trivial

theorem along_cons {condition : σ → L → Prop} {label : L} {rest : List L} {state : σ} :
    Along step condition (label :: rest) state ↔
      condition state label ∧ Along step condition rest (step state label) := Iff.rfl

theorem run_append (first second : List L) (state : σ) :
    run step (first ++ second) state = run step second (run step first state) := by
  induction first generalizing state with
  | nil => rfl
  | cons label rest ih => exact ih _

theorem along_append {condition : σ → L → Prop} {first second : List L} {state : σ} :
    Along step condition (first ++ second) state ↔
      Along step condition first state ∧ Along step condition second (run step first state) := by
  induction first generalizing state with
  | nil => simp [Along, run]
  | cons label rest ih => exact (and_congr_right fun _ => ih).trans and_assoc.symm

theorem along_of_forall {valid : L → Prop} {labels : List L} (hlabels : ∀ label ∈ labels, valid label)
    (state : σ) : Along step (fun _ label => valid label) labels state := by
  induction labels generalizing state with
  | nil => trivial
  | cons label rest ih =>
      exact ⟨hlabels label List.mem_cons_self,
        ih (fun other hother => hlabels other (List.mem_cons_of_mem _ hother)) _⟩

/-- Steps that meet a condition keep an invariant, and from the invariant they meet another. -/
theorem along_of_invariant {invariant : σ → Prop} {condition other : σ → L → Prop}
    (hstep : ∀ state label, invariant state → condition state label →
      other state label ∧ invariant (step state label))
    {labels : List L} {state : σ} (hstart : invariant state)
    (hcondition : Along step condition labels state) : Along step other labels state := by
  induction labels generalizing state with
  | nil => trivial
  | cons label rest ih =>
      obtain ⟨hother, hnext⟩ := hstep state label hstart hcondition.1
      exact ⟨hother, ih hnext hcondition.2⟩

/-- When the condition says of the steps of a sequence exactly that they respect a
relation, it holds along the sequence if and only if any two moments are related. -/
theorem along_iff_relates {relation : σ → σ → Prop} {valid condition : σ → L → Prop}
    (hrefl : ∀ state, relation state state)
    (htrans : ∀ {first second third}, relation first second → relation second third →
      relation first third)
    (hstep : ∀ state label, valid state label →
      (condition state label ↔ relation state (step state label)))
    {labels : List L} {state : σ} (hvalid : Along step valid labels state) :
    Along step condition labels state ↔ ∀ first middle last, labels = first ++ middle ++ last →
      relation (run step first state) (run step (first ++ middle) state) := by
  have hrun : ∀ {labels state}, Along step valid labels state → Along step condition labels state →
      ∀ first rest, labels = first ++ rest → relation state (run step first state) := by
    intro labels
    induction labels with
    | nil =>
        intro state _ _ first rest hnil
        rw [(List.append_eq_nil_iff.mp hnil.symm).1]
        exact hrefl state
    | cons label labels ih =>
        intro state hvalid hcondition first rest hsplit
        cases first with
        | nil => exact hrefl state
        | cons head tail =>
            obtain ⟨rfl, htail⟩ := List.cons.inj hsplit
            exact htrans ((hstep _ _ hvalid.1).mp hcondition.1)
              (ih hvalid.2 hcondition.2 tail rest htail)
  induction labels generalizing state with
  | nil =>
      refine iff_of_true trivial ?_
      intro first middle last hnil
      have hprefix := (List.append_eq_nil_iff.mp hnil.symm).1
      rw [(List.append_eq_nil_iff.mp hprefix).1, (List.append_eq_nil_iff.mp hprefix).2]
      exact hrefl state
  | cons label labels ih =>
      constructor
      · intro hcondition first middle last hsplit
        cases first with
        | nil => exact hrun hvalid hcondition middle last hsplit
        | cons head tail =>
            obtain ⟨rfl, htail⟩ := List.cons.inj hsplit
            exact (ih hvalid.2).mp hcondition.2 tail middle last htail
      · intro hrelated
        refine ⟨(hstep _ _ hvalid.1).mpr (hrelated [] [label] labels rfl), (ih hvalid.2).mpr ?_⟩
        rintro first middle last rfl
        exact hrelated (label :: first) middle last rfl

/-- When an invariant says more than the fact of interest, but a step from it
meets the condition exactly when it keeps the fact, and then keeps the invariant,
the condition holds along a sequence if and only if the fact always does. -/
theorem along_iff_fact {invariant fact : σ → Prop} {valid condition : σ → L → Prop}
    (hfact : ∀ state, invariant state → fact state)
    (hstep : ∀ state label, invariant state → valid state label →
      (condition state label ↔ fact (step state label)))
    (hkeeps : ∀ state label, invariant state → valid state label → condition state label →
      invariant (step state label))
    {labels : List L} {state : σ} (hvalid : Along step valid labels state)
    (hstart : invariant state) :
    Along step condition labels state ↔
      ∀ first rest, labels = first ++ rest → fact (run step first state) := by
  induction labels generalizing state with
  | nil =>
      refine iff_of_true trivial ?_
      intro first rest hnil
      rw [(List.append_eq_nil_iff.mp hnil.symm).1]
      exact hfact state hstart
  | cons label labels ih =>
      constructor
      · rintro ⟨hcondition, hrest⟩ first rest hsplit
        cases first with
        | nil => exact hfact state hstart
        | cons head tail =>
            obtain ⟨rfl, htail⟩ := List.cons.inj hsplit
            exact (ih hvalid.2 (hkeeps _ _ hstart hvalid.1 hcondition)).mp hrest tail rest htail
      · intro hall
        have hcondition := (hstep _ _ hstart hvalid.1).mpr (hall [label] labels rfl)
        refine ⟨hcondition, (ih hvalid.2 (hkeeps _ _ hstart hvalid.1 hcondition)).mpr ?_⟩
        rintro first rest rfl
        exact hall (label :: first) rest rfl

/-- A run of steps that carry more along is, in what they share, the plain run. -/
theorem run_project {other : τ → L → τ} {project : τ → σ}
    (hstep : ∀ state label, project (other state label) = step (project state) label)
    (labels : List L) (state : τ) :
    project (run other labels state) = run step labels (project state) := by
  induction labels generalizing state with
  | nil => rfl
  | cons label rest ih => exact (ih _).trans (congrArg (run step rest) (hstep state label))

theorem along_project {other : τ → L → τ} {project : τ → σ} {condition : σ → L → Prop}
    (hstep : ∀ state label, project (other state label) = step (project state) label)
    {labels : List L} {state : τ} :
    Along other (fun state => condition (project state)) labels state ↔
      Along step condition labels (project state) := by
  induction labels generalizing state with
  | nil => rfl
  | cons label rest ih => rw [along_cons, along_cons, ih, hstep]

end Sequence

end WizPay.Foundation
