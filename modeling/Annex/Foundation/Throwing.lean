import Mathlib.Init

namespace Annex

/-! Programs that change a state and may throw. What was changed before an error stays. -/

namespace Throwing

variable {Error State α β : Type}

theorem bind_returned {program : EStateM Error State α} {next : α → EStateM Error State β}
    {state after : State} {value : α} (ran : program state = .ok value after) :
    (program >>= next) state = next value after := by
  change EStateM.bind program next state = _
  rw [EStateM.bind, ran]

theorem bind_thrown {program : EStateM Error State α} {next : α → EStateM Error State β}
    {state after : State} {error : Error} (ran : program state = .error error after) :
    (program >>= next) state = .error error after := by
  change EStateM.bind program next state = _
  rw [EStateM.bind, ran]

/-- From a state of the precondition, what the program returns and leaves is as the first
postcondition says, or it throws and leaves what the second one says. -/
def Leaves (before : State → Prop) (program : EStateM Error State α)
    (returned : α → State → Prop) (thrown : State → Prop) : Prop :=
  ∀ state, before state →
    match program state with
    | .ok value after => returned value after
    | .error _ after => thrown after

variable {before : State → Prop} {returned : α → State → Prop} {thrown : State → Prop}

theorem leaves_pure {value : α} (holds : ∀ state, before state → returned value state) :
    Leaves before (pure value : EStateM Error State α) returned thrown :=
  holds

theorem leaves_throw {error : Error} (holds : ∀ state, before state → thrown state) :
    Leaves before (throw error : EStateM Error State α) returned thrown :=
  holds

theorem leaves_modify {change : State → State} {returned : Unit → State → Prop}
    (holds : ∀ state, before state → returned () (change state)) :
    Leaves before (modify change : EStateM Error State Unit) returned thrown :=
  holds

theorem leaves_bind {program : EStateM Error State α} {next : α → EStateM Error State β}
    {middle : α → State → Prop} {returned : β → State → Prop}
    (first : Leaves before program middle thrown)
    (rest : ∀ value, Leaves (middle value) (next value) returned thrown) :
    Leaves before (program >>= next) returned thrown := by
  intro state holds
  have step := first state holds
  cases ran : program state with
  | ok value after =>
      rw [ran] at step
      rw [bind_returned ran]
      exact rest value after step
  | error error after =>
      rw [ran] at step
      rw [bind_thrown ran]
      exact step

theorem leaves_mono {program : EStateM Error State α} {weakerReturned : α → State → Prop}
    {weakerThrown : State → Prop} (leaves : Leaves before program returned thrown)
    (returns : ∀ value state, returned value state → weakerReturned value state)
    (throws : ∀ state, thrown state → weakerThrown state) :
    Leaves before program weakerReturned weakerThrown := by
  intro state holds
  have left := leaves state holds
  cases ran : program state with
  | ok value after =>
      rw [ran] at left
      exact returns value after left
  | error error after =>
      rw [ran] at left
      exact throws after left

end Throwing

end Annex
