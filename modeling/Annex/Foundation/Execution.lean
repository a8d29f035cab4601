import Mathlib.Data.List.Basic

namespace Annex

/-! Deterministic runs of a labelled transition function. Nothing here depends
on what the states and labels are: a component chooses its own labels and gets
the induction over its runs from this file. -/

namespace Execution

variable {State : Type u} {Label : Type v}

/-- The state reached by taking the labelled steps in order. -/
def run (step : State → Label → State) (initial : State)
    (labels : List Label) : State :=
  labels.foldl step initial

@[simp] theorem run_nil (step : State → Label → State) (initial : State) :
    run step initial [] = initial := rfl

@[simp] theorem run_cons (step : State → Label → State) (initial : State)
    (label : Label) (labels : List Label) :
    run step initial (label :: labels) =
      run step (step initial label) labels := rfl

theorem run_append (step : State → Label → State) (initial : State)
    (first second : List Label) :
    run step initial (first ++ second) =
      run step (run step initial first) second :=
  List.foldl_append

@[simp] theorem run_concat (step : State → Label → State) (initial : State)
    (labels : List Label) (label : Label) :
    run step initial (labels ++ [label]) =
      step (run step initial labels) label := by
  rw [run_append, run_cons, run_nil]

/-- A property kept by every step holds after every run. -/
theorem run_invariant {step : State → Label → State} (invariant : State → Prop)
    (preserved : ∀ state label, invariant state → invariant (step state label))
    {initial : State} (holds : invariant initial) (labels : List Label) :
    invariant (run step initial labels) := by
  induction labels generalizing initial with
  | nil => exact holds
  | cons label labels induction =>
      exact induction (preserved initial label holds)

/-- Every step of the run is taken in a state where its guard holds. -/
def Guarded (step : State → Label → State) (guard : State → Label → Prop) :
    State → List Label → Prop
  | _, [] => True
  | state, label :: labels =>
      guard state label ∧ Guarded step guard (step state label) labels

@[simp] theorem guarded_nil (step : State → Label → State)
    (guard : State → Label → Prop) (initial : State) :
    Guarded step guard initial [] := trivial

@[simp] theorem guarded_cons (step : State → Label → State)
    (guard : State → Label → Prop) (initial : State)
    (label : Label) (labels : List Label) :
    Guarded step guard initial (label :: labels) ↔
      guard initial label ∧ Guarded step guard (step initial label) labels :=
  Iff.rfl

theorem guarded_append {step : State → Label → State} {guard : State → Label → Prop}
    {initial : State} {first second : List Label} :
    Guarded step guard initial (first ++ second) ↔
      Guarded step guard initial first ∧
        Guarded step guard (run step initial first) second := by
  induction first generalizing initial with
  | nil => simp
  | cons label labels induction => simp [induction, and_assoc]

/-- A property kept by the guarded steps holds after every guarded run. -/
theorem run_invariant_of_guarded {step : State → Label → State}
    {guard : State → Label → Prop} (invariant : State → Prop)
    (preserved : ∀ state label, invariant state → guard state label →
      invariant (step state label))
    {initial : State} (holds : invariant initial) {labels : List Label}
    (guarded : Guarded step guard initial labels) :
    invariant (run step initial labels) := by
  induction labels generalizing initial with
  | nil => exact holds
  | cons label labels induction =>
      exact induction (preserved initial label holds guarded.1) guarded.2

/-- Where the guarded steps keep an invariant that gives the property, every step of a
guarded run has the property. -/
theorem guarded_of_invariant {step : State → Label → State}
    {guard property : State → Label → Prop} (invariant : State → Prop)
    (preserved : ∀ state label, invariant state → guard state label →
      invariant (step state label))
    (implies : ∀ state label, invariant state → guard state label → property state label)
    {initial : State} (holds : invariant initial) {labels : List Label}
    (guarded : Guarded step guard initial labels) :
    Guarded step property initial labels := by
  induction labels generalizing initial with
  | nil => trivial
  | cons label labels induction =>
      exact ⟨implies initial label holds guarded.1,
        induction (preserved initial label holds guarded.1) guarded.2⟩

theorem guarded_of_forall {step : State → Label → State} {guard : State → Label → Prop}
    (always : ∀ state label, guard state label) (initial : State) (labels : List Label) :
    Guarded step guard initial labels := by
  induction labels generalizing initial with
  | nil => trivial
  | cons label labels induction => exact ⟨always initial label, induction _⟩

/-- Guards that say the same where the invariant of a guarded run holds say the same of
the run. -/
theorem guarded_iff_of_invariant {step : State → Label → State}
    {guard left right : State → Label → Prop} (invariant : State → Prop)
    (preserved : ∀ state label, invariant state → guard state label →
      invariant (step state label))
    (same : ∀ state label, invariant state → (left state label ↔ right state label))
    {initial : State} (holds : invariant initial) {labels : List Label}
    (guarded : Guarded step guard initial labels) :
    Guarded step left initial labels ↔ Guarded step right initial labels := by
  induction labels generalizing initial with
  | nil => exact Iff.rfl
  | cons label labels induction =>
      exact and_congr (same initial label holds)
        (induction (preserved initial label holds guarded.1) guarded.2)

/-- The states a run passes through, its first and last included. -/
def Visits (step : State → Label → State) (initial : State)
    (labels : List Label) (state : State) : Prop :=
  ∃ front, front <+: labels ∧ run step initial front = state

theorem visits_initial (step : State → Label → State) (initial : State)
    (labels : List Label) : Visits step initial labels initial :=
  ⟨[], List.nil_prefix, rfl⟩

theorem visits_cons {step : State → Label → State} {initial state : State}
    {label : Label} {labels : List Label} :
    Visits step initial (label :: labels) state ↔
      state = initial ∨ Visits step (step initial label) labels state := by
  constructor
  · rintro ⟨front, isPrefix, reached⟩
    rcases List.prefix_cons_iff.mp isPrefix with rfl | ⟨rest, rfl, restPrefix⟩
    · exact Or.inl reached.symm
    · exact Or.inr ⟨rest, restPrefix, reached⟩
  · rintro (rfl | ⟨front, isPrefix, reached⟩)
    · exact visits_initial step _ _
    · exact ⟨label :: front, List.cons_prefix_cons.mpr ⟨rfl, isPrefix⟩, reached⟩

/-- A property kept by the guarded steps holds all along every guarded run. -/
theorem visits_invariant_of_guarded {step : State → Label → State}
    {guard : State → Label → Prop} (invariant : State → Prop)
    (preserved : ∀ state label, invariant state → guard state label →
      invariant (step state label))
    {initial : State} (holds : invariant initial) {labels : List Label}
    (guarded : Guarded step guard initial labels) :
    ∀ state, Visits step initial labels state → invariant state := by
  rintro state ⟨front, ⟨back, rfl⟩, rfl⟩
  exact run_invariant_of_guarded invariant preserved holds (guarded_append.mp guarded).1

/-- Where the guarded steps keep an invariant that gives the property, and the others break the
property, the runs that have it all along are the guarded ones. -/
theorem visits_iff_guarded {step : State → Label → State} {guard : State → Label → Prop}
    {invariant property : State → Prop} (implies : ∀ state, invariant state → property state)
    (preserved : ∀ state label, invariant state → guard state label →
      invariant (step state label))
    (broken : ∀ state label, invariant state → ¬ guard state label →
      ¬ property (step state label))
    {initial : State} (holds : invariant initial) {labels : List Label} :
    (∀ state, Visits step initial labels state → property state) ↔
      Guarded step guard initial labels := by
  constructor
  · intro throughout
    induction labels generalizing initial with
    | nil => trivial
    | cons label labels induction =>
        have guarded : guard initial label := by
          by_contra unguarded
          apply broken initial label holds unguarded
          exact throughout _ (visits_cons.mpr (Or.inr (visits_initial step _ _)))
        refine ⟨guarded, induction (preserved initial label holds guarded) ?_⟩
        intro state visited
        exact throughout state (visits_cons.mpr (Or.inr visited))
  · intro guarded state visited
    exact implies state
      (visits_invariant_of_guarded invariant preserved holds guarded state visited)

end Execution

end Annex
