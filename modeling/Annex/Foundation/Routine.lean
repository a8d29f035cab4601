import Annex.Foundation.Interleaving

namespace Annex

/-- Calls that end with a result. A step of a call gives the shared state after it, and the
rest of the call or its result. -/
structure Routine (Shared : Type u) (Call : Type v) (Request : Type w) (Input : Type x)
    (Result : Type y) where
  enter : Request → Call
  step : Input → Call → Shared → Shared × (Call ⊕ Result)

namespace Routine

/-! Sequential calls, taken apart into the atomic steps between which others may come. -/

open Interleaving

variable {Shared : Type u} {Call : Type v} {Request : Type w} {Input : Type x}
  {Result : Type y}

/-- The calls at the same time, without their results. -/
def program (routine : Routine Shared Call Request Input Result) :
    Program Shared Call Request Input where
  enter := fun _ request => routine.enter request
  act := fun _ call input shared =>
    some ((routine.step input call shared).1, (routine.step input call shared).2.getLeft?)

/-- What the call that takes the step ends with, if it ends. -/
def returns (routine : Routine Shared Call Request Input Result)
    (state : Interleaving Shared Call) : Label Request Input → Option Result
  | .start _ _ => none
  | .advance id input =>
      (state.calls id).bind fun call => (routine.step input call state.shared).2.getRight?

/-- The call without any other between its steps, which all have the one input. -/
def finish (routine : Routine Shared Call Request Input Result) (input : Input) :
    Nat → Call → Shared → Shared × Option Result
  | 0, _, shared => (shared, none)
  | fuel + 1, call, shared =>
      match routine.step input call shared with
      | (after, .inl rest) => finish routine input fuel rest after
      | (after, .inr result) => (after, some result)

/-- The call without any other between its steps, with an input for each. -/
def complete (routine : Routine Shared Call Request Input Result) :
    List Input → Call → Shared → Shared × Option Result
  | [], _, shared => (shared, none)
  | input :: inputs, call, shared =>
      match routine.step input call shared with
      | (after, .inl rest) => complete routine inputs rest after
      | (after, .inr result) => (after, some result)

variable {routine : Routine Shared Call Request Input Result}

theorem complete_next {input : Input} {inputs : List Input} {call rest : Call}
    {shared after : Shared} (continues : routine.step input call shared = (after, .inl rest)) :
    routine.complete (input :: inputs) call shared = routine.complete inputs rest after := by
  rw [complete, continues]

theorem complete_last {input : Input} {inputs : List Input} {call : Call}
    {shared after : Shared} {result : Result}
    (ends : routine.step input call shared = (after, .inr result)) :
    routine.complete (input :: inputs) call shared = (after, some result) := by
  rw [complete, ends]

theorem finish_next {input : Input} {fuel : Nat} {call rest : Call} {shared after : Shared}
    (continues : routine.step input call shared = (after, .inl rest)) :
    routine.finish input (fuel + 1) call shared = routine.finish input fuel rest after := by
  rw [finish, continues]

theorem finish_last {input : Input} {fuel : Nat} {call : Call} {shared after : Shared}
    {result : Result} (ends : routine.step input call shared = (after, .inr result)) :
    routine.finish input (fuel + 1) call shared = (after, some result) := by
  rw [finish, ends]

/-- What a step of the interleaving is. -/
inductive Steps (routine : Routine Shared Call Request Input Result)
    (state : Interleaving Shared Call) :
    Label Request Input → Interleaving Shared Call → Prop where
  | taken {id : Nat} {request : Request} {call : Call} (found : state.calls id = some call) :
      Steps routine state (.start id request) state
  | start {id : Nat} {request : Request} (free : state.calls id = none) :
      Steps routine state (.start id request)
        ⟨state.shared, Function.update state.calls id (some (routine.enter request))⟩
  | absent {id : Nat} {input : Input} (free : state.calls id = none) :
      Steps routine state (.advance id input) state
  | next {id : Nat} {input : Input} {call : Call} {after : Shared} {rest : Call}
      (found : state.calls id = some call)
      (stepped : routine.step input call state.shared = (after, .inl rest)) :
      Steps routine state (.advance id input)
        ⟨after, Function.update state.calls id (some rest)⟩
  | last {id : Nat} {input : Input} {call : Call} {after : Shared} {result : Result}
      (found : state.calls id = some call)
      (stepped : routine.step input call state.shared = (after, .inr result)) :
      Steps routine state (.advance id input) ⟨after, Function.update state.calls id none⟩

theorem steps (routine : Routine Shared Call Request Input Result)
    (state : Interleaving Shared Call) (label : Label Request Input) :
    routine.Steps state label (Interleaving.step routine.program state label) := by
  cases label with
  | start id request =>
      cases found : state.calls id with
      | none =>
          rw [Interleaving.step, found]
          exact .start found
      | some call =>
          rw [Interleaving.step, found]
          exact .taken found
  | advance id input =>
      cases found : state.calls id with
      | none =>
          rw [Interleaving.step, found]
          exact .absent found
      | some call =>
          rcases stepped : routine.step input call state.shared with ⟨after, rest | result⟩
          · simp only [Interleaving.step, found, program, stepped, Sum.getLeft?_inl]
            exact .next found stepped
          · simp only [Interleaving.step, found, program, stepped, Sum.getLeft?_inr]
            exact .last found stepped

/-- What every start, every step within a call and every last step keep, every step of the
interleaving keeps. -/
theorem step_invariant {guard : Interleaving Shared Call → Label Request Input → Prop}
    {invariant : Interleaving Shared Call → Prop}
    (starts : ∀ state id request, invariant state → state.calls id = none →
      guard state (.start id request) →
        invariant ⟨state.shared,
          Function.update state.calls id (some (routine.enter request))⟩)
    (continues : ∀ state id call input after rest, invariant state →
      state.calls id = some call → guard state (.advance id input) →
        routine.step input call state.shared = (after, .inl rest) →
          invariant ⟨after, Function.update state.calls id (some rest)⟩)
    (ends : ∀ state id call input after result, invariant state →
      state.calls id = some call → guard state (.advance id input) →
        routine.step input call state.shared = (after, .inr result) →
          invariant ⟨after, Function.update state.calls id none⟩)
    (state : Interleaving Shared Call) (label : Label Request Input)
    (holds : invariant state) (guarded : guard state label) :
    invariant (Interleaving.step routine.program state label) := by
  have stepped := routine.steps state label
  generalize Interleaving.step routine.program state label = after at stepped ⊢
  cases stepped with
  | taken found => exact holds
  | start free => exact starts state _ _ holds free guarded
  | absent free => exact holds
  | next found stepped => exact continues state _ _ _ _ _ holds found guarded stepped
  | last found stepped => exact ends state _ _ _ _ _ holds found guarded stepped

/-- A call that ends with the step has it as its last one. -/
theorem returns_advance {state : Interleaving Shared Call} {id : Nat} {input : Input}
    {result : Result} (returned : routine.returns state (.advance id input) = some result) :
    ∃ call, state.calls id = some call ∧
      (routine.step input call state.shared).2 = .inr result := by
  rcases Option.bind_eq_some_iff.mp returned with ⟨call, found, ends⟩
  exact ⟨call, found, Sum.getRight?_eq_some_iff.mp ends⟩

theorem returns_last {state : Interleaving Shared Call} {id : Nat} {input : Input} {call : Call}
    {after : Shared} {result : Result} (found : state.calls id = some call)
    (ends : routine.step input call state.shared = (after, .inr result)) :
    routine.returns state (.advance id input) = some result := by
  rw [returns, found, Option.bind_some, ends]
  rfl

theorem returns_next {state : Interleaving Shared Call} {id : Nat} {input : Input}
    {call rest : Call} {after : Shared} (found : state.calls id = some call)
    (continues : routine.step input call state.shared = (after, .inl rest)) :
    routine.returns state (.advance id input) = none := by
  rw [returns, found, Option.bind_some, continues]
  rfl

theorem returns_absent {state : Interleaving Shared Call} {id : Nat} {input : Input}
    (free : state.calls id = none) : routine.returns state (.advance id input) = none := by
  rw [returns, free, Option.bind_none]

end Routine

end Annex
