import Annex.Foundation.SqlFrame
import Annex.Foundation.Task

namespace Annex

/-! Programs beside others that all keep to one relation between what was and what is. Each
command keeps to it, and a program may rely on it between its commands. -/

namespace Routine

open Interleaving

variable {Shared : Type u} {Call : Type v} {Request : Type w} {Input : Type x}
  {Result : Type y}

/-- What the calls of a run end with, in the order of their ends. -/
def answers (routine : Routine Shared Call Request Input Result) :
    Interleaving Shared Call → List (Label Request Input) → List Result
  | _, [] => []
  | state, label :: labels =>
      (routine.returns state label).toList ++
        routine.answers (Interleaving.step routine.program state label) labels

end Routine

namespace Task

open Interleaving Sql

variable {Command : Type → Type u} {Error Inner α β : Type}
  {Context Database Memory Request : Type}

/-- What a command gives, and the world after it. -/
def performed (run : ∀ β, Context → Command β → Session Database Memory →
      β × Session Database Memory)
    (turn : Turn Context) (command : Command β) (world : World Database Memory) :
    β × World Database Memory :=
  let ran := run _ turn.context command ⟨world.database, world.memory, turn.faults⟩
  (ran.1, ⟨ran.2.database, ran.2.memory⟩)

/-- Every command of the program keeps to the relation, and whatever the relation allows before
each command, the program ends in the postcondition. -/
def EndsIn (run : ∀ β, Context → Command β → Session Database Memory →
      β × Session Database Memory)
    (rely : World Database Memory → World Database Memory → Prop)
    (post : Except Error α → World Database Memory → Prop) :
    Task Command Error α → World Database Memory → Prop
  | .ended result, world => post result world
  | .step command next, world => ∀ later, rely world later → ∀ turn,
      rely later (performed run turn command later).2 ∧
        (next (performed run turn command later).1).EndsIn run rely post
          (performed run turn command later).2

section Rules

variable {run : ∀ β, Context → Command β → Session Database Memory →
    β × Session Database Memory}
  {rely : World Database Memory → World Database Memory → Prop}
  {post : Except Error α → World Database Memory → Prop} {world : World Database Memory}

/-- What the relation allows to come first does not matter. -/
theorem EndsIn.later [IsTrans (World Database Memory) rely] {command : Command β}
    {next : β → Task Command Error α}
    (ends : (Task.step command next).EndsIn run rely post world) {after : World Database Memory}
    (allowed : rely world after) : (Task.step command next).EndsIn run rely post after :=
  fun last allowedLast => ends last (trans_of rely allowed allowedLast)

theorem endsIn_mono {task : Task Command Error α}
    {weaker : Except Error α → World Database Memory → Prop}
    (ends : task.EndsIn run rely post world)
    (implies : ∀ result world, post result world → weaker result world) :
    task.EndsIn run rely weaker world := by
  induction task generalizing world with
  | ended result => exact implies result world ends
  | step command next induction =>
      intro after allowed turn
      have stepped := ends after allowed turn
      exact ⟨stepped.1, induction _ stepped.2⟩

theorem endsIn_bind {task : Task Command Error β} {continuation : β → Task Command Error α}
    (first : task.EndsIn run rely
      (fun result world =>
        match result with
        | .ok value => (continuation value).EndsIn run rely post world
        | .error error => post (.error error) world) world) :
    (task >>= continuation).EndsIn run rely post world := by
  induction task generalizing world with
  | ended result =>
      cases result with
      | ok value => exact first
      | error error => exact first
  | step command next induction =>
      intro after allowed turn
      have stepped := first after allowed turn
      exact ⟨stepped.1, induction _ stepped.2⟩

/-- Where every end is in the postcondition, it is enough that every command keeps to the
relation. -/
theorem endsIn_of_always {task : Task Command Error α}
    (keeps : task.Always fun _ command => ∀ turn world,
      rely world (performed run turn command world).2)
    (holds : ∀ result world, post result world) : task.EndsIn run rely post world := by
  induction task generalizing world with
  | ended result => exact holds result world
  | step command next induction =>
      intro after _ turn
      exact ⟨keeps.1 turn after, induction _ (keeps.2 _)⟩

theorem endsIn_mapError {wrap : Inner → Error} {task : Task Command Inner α}
    (ends : task.EndsIn run rely (fun result world => post (result.mapError wrap) world) world) :
    (task.mapError wrap).EndsIn run rely post world := by
  induction task generalizing world with
  | ended result => exact ends
  | step command next induction =>
      intro after allowed turn
      have stepped := ends after allowed turn
      exact ⟨stepped.1, induction _ stepped.2⟩

theorem endsIn_demand_bind {condition : Prop} [Decidable condition] {error : Error}
    {continuation : Unit → Task Command Error α}
    (refused : post (.error error) world)
    (passed : condition → (continuation ()).EndsIn run rely post world) :
    (demand condition error >>= continuation).EndsIn run rely post world := by
  by_cases holds : condition
  · have isPassed : (demand condition error : Task Command Error Unit) = .ended (.ok ()) := by
      rw [demand, if_pos holds]
    rw [isPassed]
    exact passed holds
  · have isRefused : (demand condition error : Task Command Error Unit) =
        .ended (.error error) := by
      rw [demand, if_neg holds]
    rw [isRefused]
    exact refused

end Rules

section Single

variable {rely : World Database Memory → World Database Memory → Prop}
  {post : Except Error α → World Database Memory → Prop} {world : World Database Memory}

/-- One program, which keeps to the relation. -/
theorem endsIn_issue {program : Context → Sql Database Memory Error α}
    (keeps : ∀ context after, rely world after →
      Ensures (program context) after.database after.memory fun result database memory =>
        rely after ⟨database, memory⟩ ∧ post result ⟨database, memory⟩) :
    (issue program : Task (Single Context Database Memory) Error α).EndsIn Single.run rely post
      world :=
  fun after allowed turn => keeps turn.context after allowed turn.faults

variable {continuation : β → Task (Single Context Database Memory) Error α}

/-- One program, and the rest from where it succeeds. -/
theorem endsIn_issue_bind {program : Context → Sql Database Memory Error β}
    (refused : ∀ error after, post (.error error) after)
    (keeps : ∀ context after, rely world after →
      Ensures (program context) after.database after.memory fun result database memory =>
        rely after ⟨database, memory⟩ ∧ ∀ value, result = .ok value →
          (continuation value).EndsIn Single.run rely post ⟨database, memory⟩) :
    (issue program >>= continuation).EndsIn Single.run rely post world := by
  apply endsIn_bind
  apply endsIn_issue
  intro context after allowed
  refine ensures_mono ?_ (keeps context after allowed)
  intro result database memory kept
  refine ⟨kept.1, ?_⟩
  cases result with
  | ok value => exact kept.2 value rfl
  | error error => exact refused error _

/-- A statement that reads, in the database of its time. -/
theorem endsIn_query_bind [Std.Refl rely] {wrap : DbError → Error}
    {read : Context → Database → Except DbError β}
    (refused : ∀ error after, post (.error error) after)
    (found : ∀ context after, rely world after → ∀ value,
      read context after.database = .ok value →
        (continuation value).EndsIn Single.run rely post after) :
    (issue (fun context => query wrap (read context)) >>= continuation).EndsIn Single.run rely
      post world := by
  refine endsIn_issue_bind refused fun context after allowed => ?_
  refine ensures_query ?_ ?_ ?_
  · exact fun _ => ⟨refl_of rely after, fun _ failed => by cases failed⟩
  · intro value readable
    refine ⟨refl_of rely after, fun other same => ?_⟩
    cases same
    exact found context after allowed value readable
  · exact fun _ _ => ⟨refl_of rely after, fun _ failed => by cases failed⟩

end Single

section OnDatabase

/-- A relation between the databases alone. -/
def OnDatabase (relation : Database → Database → Prop) (before after : World Database Memory) :
    Prop :=
  relation before.database after.database

variable {relation : Database → Database → Prop}

instance [Std.Refl relation] :
    Std.Refl (OnDatabase relation : World Database Memory → World Database Memory → Prop) where
  refl world := refl_of relation world.database

instance [IsTrans Database relation] :
    IsTrans (World Database Memory) (OnDatabase relation) where
  trans _ _ _ first second := trans_of relation first second

/-- A command that preserves whatever is related to some database keeps to the relation. -/
theorem always_issue_of_preserves [Std.Refl relation]
    {program : Context → Sql Database Memory Error α}
    (preserves : ∀ context origin, Preserves (relation origin) (program context)) :
    (issue program : Task (Single Context Database Memory) Error α).Always fun _ command =>
      ∀ turn world, OnDatabase relation world (performed Single.run turn command world).2 :=
  always_perform fun turn _ => preserves turn.context _ _ (refl_of relation _)

end OnDatabase

section Run

variable (run : ∀ β, Context → Command β → Session Database Memory →
    β × Session Database Memory)
  (rely : World Database Memory → World Database Memory → Prop)
  (enter : Request → Task Command Error α)
  (post : Request → World Database Memory → Except Error α → World Database Memory → Prop)

/-- The world is one that the relation allows, and every request in progress ends in its
postcondition from where it came in. -/
structure OnCourse (initial : World Database Memory)
    (state : Interleaving (World Database Memory) (Request × Task Command Error α)) : Prop where
  allowed : rely initial state.shared
  ends : ∀ id call, state.calls id = some call → ∃ origin, rely initial origin ∧
    rely origin state.shared ∧
      ∀ later, rely state.shared later → call.2.EndsIn run rely (post call.1 origin) later

/-- A request has ended in its postcondition. -/
def Concluded (initial : World Database Memory) (answer : Request × Except Error α)
    (world : World Database Memory) : Prop :=
  ∃ origin, rely initial origin ∧ rely origin world ∧ post answer.1 origin answer.2 world

variable {run rely enter post} {initial : World Database Memory}
  {state : Interleaving (World Database Memory) (Request × Task Command Error α)}
  {label : Label Request (Turn Context)}

theorem onCourse_idle [Std.Refl rely] : OnCourse run rely post initial (idle initial) where
  allowed := refl_of rely initial
  ends _ _ found := by cases found

variable [Std.Refl rely] [IsTrans (World Database Memory) rely]

/-- A step of a request keeps to the relation, and leaves the request on its way to its
postcondition or ends it there. -/
theorem callStep_keeps {request : Request} {task : Task Command Error α}
    {post : Except Error α → World Database Memory → Prop} {world : World Database Memory}
    (ends : task.EndsIn run rely post world) (turn : Turn Context) :
    rely world ((calls run enter).step turn (request, task) world).1 ∧
      (∀ rest, ((calls run enter).step turn (request, task) world).2 = .inl rest →
        rest.1 = request ∧ ∀ later,
          rely ((calls run enter).step turn (request, task) world).1 later →
            rest.2.EndsIn run rely post later) ∧
      ∀ answer, ((calls run enter).step turn (request, task) world).2 = .inr answer →
        answer.1 = request ∧
          post answer.2 ((calls run enter).step turn (request, task) world).1 := by
  cases task with
  | ended result =>
      refine ⟨refl_of rely world, fun rest goes => (by cases goes), fun answer isEnd => ?_⟩
      cases isEnd
      exact ⟨rfl, ends⟩
  | step command next =>
      have stepped := ends world (refl_of rely world) turn
      have isNext : ((calls run enter).step turn (request, .step command next) world) =
          ((performed run turn command world).2,
            goesOn request (next (performed run turn command world).1)) := rfl
      rw [isNext]
      refine ⟨stepped.1, ?_⟩
      have rest := stepped.2
      generalize next (performed run turn command world).1 = task at rest
      cases task with
      | ended result =>
          refine ⟨fun rest goes => (by cases goes), fun answer isEnd => ?_⟩
          cases isEnd
          exact ⟨rfl, rest⟩
      | step command next =>
          refine ⟨fun other goes => ?_, fun answer isEnd => by cases isEnd⟩
          cases goes
          exact ⟨rfl, fun later allowed => rest.later allowed⟩

omit [Std.Refl rely] in
/-- The step of one request keeps to the relation and leaves the others on their course. -/
theorem OnCourse.update (onCourse : OnCourse run rely post initial state)
    {world : World Database Memory} (allowed : rely state.shared world) (id : Nat)
    {next : Option (Request × Task Command Error α)}
    (ends : ∀ call, next = some call → ∃ origin, rely initial origin ∧ rely origin world ∧
      ∀ later, rely world later → call.2.EndsIn run rely (post call.1 origin) later) :
    OnCourse run rely post initial ⟨world, Function.update state.calls id next⟩ := by
  refine ⟨trans_of rely onCourse.allowed allowed, ?_⟩
  intro other call found
  rcases update_cases found with ⟨_, isNext⟩ | ⟨_, old⟩
  · exact ends call isNext
  · rcases onCourse.ends other call old with ⟨origin, began, since, otherEnds⟩
    exact ⟨origin, began, trans_of rely since allowed,
      fun later after => otherEnds later (trans_of rely allowed after)⟩

/-- A step keeps to the relation, leaves the requests on their course, and ends a request only in
its postcondition. -/
theorem onCourse_step {admitted : Request → Prop}
    (correct : ∀ request, admitted request → ∀ origin later, rely origin later →
      (enter request).EndsIn run rely (post request origin) later)
    (onCourse : OnCourse run rely post initial state)
    (admits : ∀ id request, label = .start id request → admitted request) :
    OnCourse run rely post initial
        (Interleaving.step (calls run enter).program state label) ∧
      rely state.shared (Interleaving.step (calls run enter).program state label).shared ∧
      ∀ answer, (calls run enter).returns state label = some answer →
        Concluded rely post initial answer
          (Interleaving.step (calls run enter).program state label).shared := by
  have stepped := (calls run enter).steps state label
  generalize Interleaving.step (calls run enter).program state label = after at stepped ⊢
  cases stepped with
  | taken found => exact ⟨onCourse, refl_of rely _, fun _ returned => by cases returned⟩
  | @start id request free =>
      refine ⟨onCourse.update (refl_of rely _) id ?_, refl_of rely _,
        fun _ returned => by cases returned⟩
      intro call started
      cases started
      exact ⟨state.shared, onCourse.allowed, refl_of rely _,
        correct request (admits id request rfl) state.shared⟩
  | absent free =>
      refine ⟨onCourse, refl_of rely _, fun _ returned => ?_⟩
      rw [Routine.returns_absent free] at returned
      cases returned
  | @next id turn call after rest found stepped =>
      rcases onCourse.ends id call found with ⟨origin, began, since, ends⟩
      have kept := @callStep_keeps _ _ _ _ _ _ _ run rely enter _ _ call.1 _ _ _
        (ends _ (refl_of rely _)) turn
      rw [stepped] at kept
      refine ⟨onCourse.update kept.1 id ?_, kept.1, fun _ returned => ?_⟩
      · intro other isRest
        cases isRest
        have goes := kept.2.1 rest rfl
        exact ⟨origin, began, trans_of rely since kept.1, goes.1 ▸ goes.2⟩
      · rw [Routine.returns_next found stepped] at returned
        cases returned
  | @last id turn call after result found stepped =>
      rcases onCourse.ends id call found with ⟨origin, began, since, ends⟩
      have kept := @callStep_keeps _ _ _ _ _ _ _ run rely enter _ _ call.1 _ _ _
        (ends _ (refl_of rely _)) turn
      rw [stepped] at kept
      refine ⟨onCourse.update kept.1 id fun _ none => (by cases none), kept.1,
        fun answer returned => ?_⟩
      rw [Routine.returns_last found stepped] at returned
      cases returned
      have concludes := kept.2.2 result rfl
      exact ⟨origin, began, trans_of rely since kept.1, concludes.1 ▸ concludes.2⟩

theorem onCourse_run {admitted : Request → Prop}
    (correct : ∀ request, admitted request → ∀ origin later, rely origin later →
      (enter request).EndsIn run rely (post request origin) later)
    (onCourse : OnCourse run rely post initial state) {labels : List (Label Request (Turn Context))}
    (admits : ∀ id request, .start id request ∈ labels → admitted request) :
    OnCourse run rely post initial
      (Execution.run (Interleaving.step (calls run enter).program) state labels) := by
  induction labels generalizing state with
  | nil => exact onCourse
  | cons label labels induction =>
      have stepped := @onCourse_step _ _ _ _ _ _ _ run rely enter post initial state label _ _ _
        correct onCourse fun id request same => admits id request (same ▸ List.mem_cons_self)
      exact induction stepped.1 fun id request member =>
        admits id request (List.mem_cons_of_mem _ member)

/-- Beside requests that all keep to the relation, every answer is in the postcondition of its
request, in worlds that come one after the other. -/
theorem answers_concluded {admitted : Request → Prop}
    (correct : ∀ request, admitted request → ∀ origin later, rely origin later →
      (enter request).EndsIn run rely (post request origin) later)
    (onCourse : OnCourse run rely post initial state) {labels : List (Label Request (Turn Context))}
    (admits : ∀ id request, .start id request ∈ labels → admitted request) :
    ∃ worlds, List.Forall₂ (Concluded rely post initial)
        ((calls run enter).answers state labels) worlds ∧
      worlds.Pairwise rely ∧ ∀ world ∈ worlds, rely state.shared world := by
  induction labels generalizing state with
  | nil => exact ⟨[], .nil, .nil, fun _ member => by cases member⟩
  | cons label labels induction =>
      have stepped := @onCourse_step _ _ _ _ _ _ _ run rely enter post initial state label _ _ _
        correct onCourse fun id request same => admits id request (same ▸ List.mem_cons_self)
      rcases induction stepped.1 fun id request member =>
        admits id request (List.mem_cons_of_mem _ member) with ⟨worlds, concluded, ordered, later⟩
      have behind : ∀ world ∈ worlds, rely state.shared world :=
        fun world member => trans_of rely stepped.2.1 (later world member)
      rw [Routine.answers]
      cases returned : (calls run enter).returns state label with
      | none => exact ⟨worlds, concluded, ordered, behind⟩
      | some answer =>
          refine ⟨_ :: worlds, .cons (stepped.2.2 answer returned) concluded,
            List.pairwise_cons.mpr ⟨later, ordered⟩, ?_⟩
          intro world member
          rcases List.mem_cons.mp member with same | member
          · exact same ▸ stepped.2.1
          · exact behind world member

/-- A part of one list goes with a part of the other. -/
theorem exists_sublist_of_forall₂ {α : Type u} {β : Type v} {relation : α → β → Prop}
    {chosen all : List α} {others : List β} (part : chosen.Sublist all)
    (related : List.Forall₂ relation all others) :
    ∃ rest, List.Forall₂ relation chosen rest ∧ rest.Sublist others := by
  induction part generalizing others with
  | slnil => exact ⟨[], .nil, List.nil_sublist _⟩
  | cons first part induction =>
      cases related with
      | cons _ related =>
          rcases induction related with ⟨rest, goes, isPart⟩
          exact ⟨rest, goes, isPart.cons _⟩
  | cons_cons first part induction =>
      cases related with
      | cons relates related =>
          rcases induction related with ⟨rest, goes, isPart⟩
          exact ⟨_, .cons relates goes, isPart.cons_cons _⟩

/-- So are answers chosen from a run. -/
theorem chosen_concluded {admitted : Request → Prop}
    (correct : ∀ request, admitted request → ∀ origin later, rely origin later →
      (enter request).EndsIn run rely (post request origin) later)
    {labels : List (Label Request (Turn Context))}
    (admits : ∀ id request, .start id request ∈ labels → admitted request)
    {chosen : List (Request × Except Error α)}
    (answered : chosen.Sublist ((calls run enter).answers (idle initial) labels)) :
    ∃ worlds, List.Forall₂ (Concluded rely post initial) chosen worlds ∧
      worlds.Pairwise rely ∧ ∀ world ∈ worlds, rely initial world := by
  rcases answers_concluded correct (@onCourse_idle _ _ _ _ _ _ _ run rely post initial _) admits
    with ⟨worlds, concluded, ordered, later⟩
  rcases exists_sublist_of_forall₂ answered concluded with ⟨rest, goes, isPart⟩
  exact ⟨rest, goes, ordered.sublist isPart, fun world member =>
    later world (isPart.subset member)⟩

end Run

end Task

end Annex
