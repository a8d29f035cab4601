import Mathlib.Logic.Function.Basic
import Annex.Foundation.Execution

namespace Annex

/-- A shared state and the calls in progress over it, by their numbers. -/
structure Interleaving (Shared : Type u) (Call : Type v) where
  shared : Shared
  calls : Nat → Option Call

namespace Interleaving

/-! Calls that run at the same time. Each is a sequence of atomic steps on a shared state,
and the steps of different calls come in any order. -/

/-- What can happen next: a call starts, or one in progress takes its next step. -/
inductive Label (Request : Type u) (Input : Type v) where
  | start (id : Nat) (request : Request)
  | advance (id : Nat) (input : Input)
deriving DecidableEq, Repr

/-- The number of the call that starts or steps. -/
def Label.id {Request : Type u} {Input : Type v} : Label Request Input → Nat
  | .start id _ => id
  | .advance id _ => id

/-- The calls of a component. `enter` is where a request's call begins. A step of a call gives
the shared state after it and the rest of the call, or nothing where the call has to wait. -/
structure Program (Shared : Type u) (Call : Type v) (Request : Type w) (Input : Type x) where
  enter : Shared → Request → Call
  act : Nat → Call → Input → Shared → Option (Shared × Option Call)

variable {Shared : Type u} {Call : Type v} {Request : Type w} {Input : Type x}

/-- No call is in progress. -/
def idle (shared : Shared) : Interleaving Shared Call := ⟨shared, fun _ => none⟩

def Idle (state : Interleaving Shared Call) : Prop := ∀ id, state.calls id = none

/-- A call in progress is as given. -/
def InProgress (state : Interleaving Shared Call) (call : Call) : Prop :=
  ∃ id, state.calls id = some call

/-- Some call in progress has the property. -/
def Pending (state : Interleaving Shared Call) (property : Call → Prop) : Prop :=
  ∃ id call, state.calls id = some call ∧ property call

theorem idle_idle (shared : Shared) : (idle shared : Interleaving Shared Call).Idle :=
  fun _ => rfl

theorem Idle.not_inProgress {state : Interleaving Shared Call} (isIdle : state.Idle)
    (call : Call) : ¬ state.InProgress call := by
  intro inProgress
  rcases inProgress with ⟨id, found⟩
  rw [isIdle id] at found
  cases found

theorem Idle.not_pending {state : Interleaving Shared Call} (isIdle : state.Idle)
    (property : Call → Prop) : ¬ state.Pending property := by
  intro pending
  rcases pending with ⟨id, call, found, _⟩
  rw [isIdle id] at found
  cases found

/-- The next step, if there is one to take: a call starts under a free number, and a call
that has to wait leaves everything as it is. -/
def step (program : Program Shared Call Request Input) (state : Interleaving Shared Call) :
    Label Request Input → Interleaving Shared Call
  | .start id request =>
      match state.calls id with
      | none =>
          { state with
            calls := Function.update state.calls id
              (some (program.enter state.shared request)) }
      | some _ => state
  | .advance id input =>
      match state.calls id with
      | none => state
      | some call =>
          match program.act id call input state.shared with
          | none => state
          | some (shared, next) => ⟨shared, Function.update state.calls id next⟩

theorem calls_step_of_ne {program : Program Shared Call Request Input}
    {state : Interleaving Shared Call} {label : Label Request Input} {id : Nat}
    (other : label.id ≠ id) : (step program state label).calls id = state.calls id := by
  cases label with
  | start labelId request =>
      rw [step]
      split
      · exact Function.update_of_ne other.symm _ _
      · rfl
  | advance labelId input =>
      rw [step]
      split
      · rfl
      · split
        · rfl
        · exact Function.update_of_ne other.symm _ _

/-- A call that is no longer what it was has taken a step. -/
theorem acted_of_changed {program : Program Shared Call Request Input}
    {state : Interleaving Shared Call} {label : Label Request Input} {call : Call}
    (found : state.calls label.id = some call)
    (changed : (step program state label).calls label.id ≠ some call) :
    ∃ input shared next, label = .advance label.id input ∧
      program.act label.id call input state.shared = some (shared, next) ∧
        step program state label = ⟨shared, Function.update state.calls label.id next⟩ := by
  cases label with
  | start id request =>
      have busy : state.calls id = some call := found
      rw [step, busy] at changed
      exact absurd found changed
  | advance id input =>
      have busy : state.calls id = some call := found
      cases result : program.act id call input state.shared with
      | none =>
          simp only [step, busy, result] at changed
          exact absurd found changed
      | some outcome =>
          refine ⟨input, outcome.1, outcome.2, rfl, result, ?_⟩
          simp only [step, busy, result]
          rfl

/-- A run leaves the numbers it does not name alone. -/
theorem calls_run_of_ne {program : Program Shared Call Request Input}
    {state : Interleaving Shared Call} {labels : List (Label Request Input)} {id : Nat}
    (others : ∀ label ∈ labels, label.id ≠ id) :
    (Execution.run (step program) state labels).calls id = state.calls id := by
  induction labels generalizing state with
  | nil => rfl
  | cons label labels induction =>
      rw [List.forall_mem_cons] at others
      exact (induction others.2).trans (calls_step_of_ne others.1)

/-- A run is idle again once the calls it could have started have ended. -/
theorem idle_run {program : Program Shared Call Request Input} {shared : Shared}
    {labels : List (Label Request Input)} {bound : Nat}
    (few : ∀ label ∈ labels, label.id < bound)
    (ended : ∀ id < bound,
      (Execution.run (step program) (idle shared) labels).calls id = none) :
    (Execution.run (step program) (idle shared) labels).Idle := by
  intro id
  by_cases less : id < bound
  · exact ended id less
  · apply calls_run_of_ne
    intro label member same
    exact less (same ▸ few label member)

/-- What holds of a call holds of every call under its number. -/
theorem of_found {state : Interleaving Shared Call} {id : Nat} {call : Call}
    {property : Call → Prop} (found : state.calls id = some call) (holds : property call) :
    ∀ other, state.calls id = some other → property other := by
  intro other same
  rw [found, Option.some.injEq] at same
  exact same ▸ holds

/-- A call that is the only one in progress is the only one to ask about. -/
theorem not_pending_of_only {state : Interleaving Shared Call} {id : Nat} {call : Call}
    {property : Call → Prop} (found : state.calls id = some call)
    (others : ∀ other, other ≠ id → state.calls other = none) (without : ¬ property call) :
    ¬ state.Pending property := by
  intro pending
  rcases pending with ⟨otherId, other, otherFound, holds⟩
  by_cases same : otherId = id
  · rw [same, found, Option.some.injEq] at otherFound
    exact without (otherFound ▸ holds)
  · rw [others otherId same] at otherFound
    cases otherFound

theorem InProgress.pending {state : Interleaving Shared Call} {call : Call}
    {property : Call → Prop} (inProgress : state.InProgress call) (holds : property call) :
    state.Pending property := by
  rcases inProgress with ⟨id, found⟩
  exact ⟨id, call, found, holds⟩

section Update

variable {state : Interleaving Shared Call} {shared : Shared} {id : Nat}
  {next : Option Call} {call : Call}

theorem inProgress_next (continues : next = some call) :
    InProgress ⟨shared, Function.update state.calls id next⟩ call :=
  ⟨id, (Function.update_self id next state.calls).trans continues⟩

/-- A call other than the one whose place is written stays in progress. -/
theorem InProgress.update (inProgress : state.InProgress call)
    (other : state.calls id ≠ some call) :
    InProgress ⟨shared, Function.update state.calls id next⟩ call := by
  rcases inProgress with ⟨otherId, found⟩
  have different : otherId ≠ id := by
    intro same
    rw [same] at found
    exact other found
  exact ⟨otherId, (Function.update_of_ne different next state.calls).trans found⟩

/-- A call that was not written just now is an old one under another number. -/
theorem calls_of_update {calls : Nat → Option Call} {otherId : Nat}
    (found : Function.update calls id next otherId = some call) (other : next ≠ some call) :
    otherId ≠ id ∧ calls otherId = some call := by
  by_cases same : otherId = id
  · rw [same, Function.update_self] at found
    exact absurd found other
  · rw [Function.update_of_ne same] at found
    exact ⟨same, found⟩

/-- A call after a write is the one that was written, or was there before under another number. -/
theorem update_cases {calls : Nat → Option Call} {otherId : Nat}
    (found : Function.update calls id next otherId = some call) :
    otherId = id ∧ next = some call ∨ otherId ≠ id ∧ calls otherId = some call := by
  by_cases same : otherId = id
  · rw [same, Function.update_self] at found
    exact Or.inl ⟨same, found⟩
  · rw [Function.update_of_ne same] at found
    exact Or.inr ⟨same, found⟩

theorem pending_next {property : Call → Prop} (continues : next = some call)
    (holds : property call) :
    Pending ⟨shared, Function.update state.calls id next⟩ property :=
  ⟨id, call, (Function.update_self id next state.calls).trans continues, holds⟩

/-- The steps of a call without the property leave those with it. -/
theorem Pending.update {property weaker : Call → Prop} (pending : state.Pending property)
    (without : ∀ call, state.calls id = some call → ¬ property call)
    (implies : ∀ call, property call → weaker call) :
    Pending ⟨shared, Function.update state.calls id next⟩ weaker := by
  rcases pending with ⟨otherId, other, found, holds⟩
  have different : otherId ≠ id := by
    intro same
    rw [same] at found
    exact without other found holds
  exact ⟨otherId, other, (Function.update_of_ne different next state.calls).trans found,
    implies other holds⟩

/-- A call with the property was written just now or had it before. -/
theorem Pending.of_update {property : Call → Prop}
    (pending : Pending ⟨shared, Function.update state.calls id next⟩ property) :
    (∃ rest, next = some rest ∧ property rest) ∨ state.Pending property := by
  rcases pending with ⟨otherId, other, found, holds⟩
  by_cases written : next = some other
  · exact Or.inl ⟨other, written, holds⟩
  · exact Or.inr ⟨otherId, other, (calls_of_update found written).2, holds⟩

/-- Between calls without the property a step changes nothing about it. -/
theorem pending_update {property : Call → Prop}
    (before : ∀ call, state.calls id = some call → ¬ property call)
    (after : ∀ call, next = some call → ¬ property call) :
    Pending ⟨shared, Function.update state.calls id next⟩ property ↔
      state.Pending property := by
  constructor
  · intro pending
    rcases pending with ⟨otherId, other, found, holds⟩
    have old := calls_of_update found fun written => after other written holds
    exact ⟨otherId, other, old.2, holds⟩
  · intro pending
    exact pending.update before fun _ holds => holds

theorem InProgress.of_update
    (inProgress : InProgress ⟨shared, Function.update state.calls id next⟩ call)
    (other : next ≠ some call) : state.InProgress call := by
  rcases inProgress with ⟨otherId, found⟩
  exact ⟨otherId, (calls_of_update found other).2⟩

end Update

/-- What every start and every step of a call keep, every step of the interleaving keeps. -/
theorem step_invariant {program : Program Shared Call Request Input}
    {guard : Interleaving Shared Call → Label Request Input → Prop}
    {invariant : Interleaving Shared Call → Prop}
    (starts : ∀ state id request, invariant state → state.calls id = none →
      guard state (.start id request) →
        invariant ⟨state.shared,
          Function.update state.calls id (some (program.enter state.shared request))⟩)
    (acts : ∀ state id call input shared next, invariant state → state.calls id = some call →
      program.act id call input state.shared = some (shared, next) →
        guard state (.advance id input) →
          invariant ⟨shared, Function.update state.calls id next⟩)
    (state : Interleaving Shared Call) (label : Label Request Input)
    (holds : invariant state) (guarded : guard state label) :
    invariant (step program state label) := by
  cases label with
  | start id request =>
      cases found : state.calls id with
      | none =>
          rw [step, found]
          exact starts state id request holds found guarded
      | some call =>
          rw [step, found]
          exact holds
  | advance id input =>
      cases found : state.calls id with
      | none =>
          rw [step, found]
          exact holds
      | some call =>
          cases result : program.act id call input state.shared with
          | none =>
              simp only [step, found, result]
              exact holds
          | some outcome =>
              simp only [step, found, result]
              exact acts state id call input outcome.1 outcome.2 holds found result guarded

/-- The shared state and every call in progress are sound, each on its own. -/
structure Sound (soundShared : Shared → Prop) (soundCall : Call → Prop)
    (state : Interleaving Shared Call) : Prop where
  shared : soundShared state.shared
  calls : ∀ id call, state.calls id = some call → soundCall call

theorem sound_idle {soundShared : Shared → Prop} {soundCall : Call → Prop} {shared : Shared}
    (sound : soundShared shared) : Sound soundShared soundCall (idle shared) where
  shared := sound
  calls _ _ found := by cases found

/-- Where a call begins sound and each of its steps keeps itself and the shared state sound,
every step of the interleaving does. -/
theorem sound_step {program : Program Shared Call Request Input}
    {guard : Interleaving Shared Call → Label Request Input → Prop}
    {soundShared : Shared → Prop} {soundCall : Call → Prop}
    (begins : ∀ shared request, soundCall (program.enter shared request))
    (acts : ∀ state id call input shared next, Sound soundShared soundCall state →
      state.calls id = some call → program.act id call input state.shared = some (shared, next) →
        guard state (.advance id input) →
          soundShared shared ∧ ∀ rest, next = some rest → soundCall rest)
    (state : Interleaving Shared Call) (label : Label Request Input)
    (sound : Sound soundShared soundCall state) (guarded : guard state label) :
    Sound soundShared soundCall (step program state label) := by
  have written (shared : Shared) (calls : Nat → Option Call) (id : Nat) (next : Option Call)
      (old : ∀ other call, calls other = some call → soundCall call)
      (holds : soundShared shared) (rest : ∀ call, next = some call → soundCall call) :
      Sound soundShared soundCall ⟨shared, Function.update calls id next⟩ := by
    refine ⟨holds, ?_⟩
    intro other call found
    by_cases new : next = some call
    · exact rest call new
    · exact old other call (calls_of_update found new).2
  refine step_invariant ?_ ?_ state label sound guarded
  · intro state id request sound _ _
    refine written _ _ _ _ sound.calls sound.shared ?_
    intro call started
    cases started
    exact begins state.shared request
  · intro state id call input shared next sound found result guarded
    have after := acts state id call input shared next sound found result guarded
    exact written _ _ _ _ sound.calls after.1 after.2

/-- The shared state is sound, and every call in progress is sound beside it. -/
structure Coherent (soundShared : Shared → Prop) (soundCall : Shared → Call → Prop)
    (state : Interleaving Shared Call) : Prop where
  shared : soundShared state.shared
  calls : ∀ id call, state.calls id = some call → soundCall state.shared call

theorem coherent_idle {soundShared : Shared → Prop} {soundCall : Shared → Call → Prop}
    {shared : Shared} (sound : soundShared shared) :
    Coherent soundShared soundCall (idle shared) where
  shared := sound
  calls _ _ found := by cases found

/-- Where a call begins sound, and each of its steps keeps itself and the shared state sound and
leaves the others so, every step of the interleaving does. -/
theorem coherent_step {program : Program Shared Call Request Input}
    {guard : Interleaving Shared Call → Label Request Input → Prop}
    {soundShared : Shared → Prop} {soundCall : Shared → Call → Prop}
    (begins : ∀ shared request, soundCall shared (program.enter shared request))
    (acts : ∀ state id call input shared next, Coherent soundShared soundCall state →
      state.calls id = some call → program.act id call input state.shared = some (shared, next) →
        guard state (.advance id input) →
          soundShared shared ∧ (∀ rest, next = some rest → soundCall shared rest) ∧
            ∀ other, soundCall state.shared other → soundCall shared other)
    (state : Interleaving Shared Call) (label : Label Request Input)
    (coherent : Coherent soundShared soundCall state) (guarded : guard state label) :
    Coherent soundShared soundCall (step program state label) := by
  refine step_invariant ?_ ?_ state label coherent guarded
  · intro state id request coherent _ _
    refine ⟨coherent.shared, ?_⟩
    intro other call found
    rcases update_cases found with ⟨_, started⟩ | ⟨_, old⟩
    · cases started
      exact begins state.shared request
    · exact coherent.calls other call old
  · intro state id call input shared next coherent found result guarded
    have after := acts state id call input shared next coherent found result guarded
    refine ⟨after.1, ?_⟩
    intro other otherCall otherFound
    rcases update_cases otherFound with ⟨_, continues⟩ | ⟨_, old⟩
    · exact after.2.1 otherCall continues
    · exact after.2.2 otherCall (coherent.calls other otherCall old)

end Interleaving

end Annex
