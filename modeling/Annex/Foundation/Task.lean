import Annex.Foundation.Routine
import Annex.Foundation.Sql

namespace Annex

/-! Sequential programs that are taken apart into commands. A command runs as a whole, and
other programs may come between one command and the next. -/

/-- A program that has ended, or that goes on with what its next command gives. -/
inductive Task (Command : Type → Type u) (Error α : Type) : Type (max u 1) where
  | ended (result : Except Error α)
  | step {β : Type} (command : Command β) (next : β → Task Command Error α)

namespace Task

open Sql

variable {Command : Type → Type u} {Error Inner α β : Type}

protected def bind : Task Command Error α → (α → Task Command Error β) →
    Task Command Error β
  | .ended (.ok value), continuation => continuation value
  | .ended (.error error), _ => .ended (.error error)
  | .step command next, continuation => .step command fun value =>
      (next value).bind continuation

instance : Monad (Task Command Error) where
  pure value := .ended (.ok value)
  bind := Task.bind

theorem bind_bind {γ : Type} (task : Task Command Error α)
    (first : α → Task Command Error β) (second : β → Task Command Error γ) :
    task >>= first >>= second = task >>= fun value => first value >>= second := by
  induction task with
  | ended result => cases result <;> rfl
  | step command next induction =>
      change Task.step command _ = Task.step command _
      congr 1
      funext value
      exact induction value

/-- One command, whose error ends the program. -/
def perform (command : Command (Except Error α)) : Task Command Error α :=
  .step command .ended

/-- One command, whose error the program goes on with. -/
def tolerate (command : Command (Except Inner α)) :
    Task Command Error (Except Inner α) :=
  .step command fun result => .ended (.ok result)

/-- Go on only under the condition. -/
def demand (condition : Prop) [Decidable condition] (error : Error) :
    Task Command Error Unit :=
  .ended (if condition then .ok () else .error error)

/-- Run a program of another error type, and end with what its error becomes. -/
def mapError (wrap : Inner → Error) : Task Command Inner α → Task Command Error α
  | .ended result => .ended (result.mapError wrap)
  | .step command next => .step command fun value => (next value).mapError wrap

/-- Every command the program can come to has the property, with what comes after it. -/
def Traced (property : ∀ β, Command β → (β → Task Command Error α) → Prop) :
    Task Command Error α → Prop
  | .ended _ => True
  | .step command next => property _ command next ∧ ∀ value, (next value).Traced property

/-- The program without its answer. -/
def unanswered : Task Command Error α → Task Command Empty Unit
  | .ended _ => .ended (.ok ())
  | .step command next => .step command fun value => (next value).unanswered

/-- Every command the program can come to has the property. -/
def Always (property : ∀ β, Command β → Prop) : Task Command Error α → Prop
  | .ended _ => True
  | .step command next => property _ command ∧ ∀ value, (next value).Always property

section Always

variable {property : ∀ β, Command β → Prop}

theorem always_pure (value : α) :
    (pure value : Task Command Error α).Always property := trivial

theorem always_ended (result : Except Error α) :
    (.ended result : Task Command Error α).Always property := trivial

theorem always_perform {command : Command (Except Error α)}
    (holds : property _ command) : (perform command).Always property :=
  ⟨holds, fun result => always_ended result⟩

theorem always_tolerate {command : Command (Except Inner α)}
    (holds : property _ command) :
    (tolerate command : Task Command Error _).Always property :=
  ⟨holds, fun result => always_ended (.ok result)⟩

theorem always_bind {task : Task Command Error α} {continuation : α → Task Command Error β}
    (first : task.Always property) (rest : ∀ value, (continuation value).Always property) :
    (task >>= continuation).Always property := by
  induction task with
  | ended result =>
      cases result with
      | error error => trivial
      | ok value => exact rest value
  | step command next induction =>
      exact ⟨first.1, fun value => induction value (first.2 value)⟩

theorem always_unanswered {task : Task Command Error α} (always : task.Always property) :
    task.unanswered.Always property := by
  induction task with
  | ended result => trivial
  | step command next induction =>
      exact ⟨always.1, fun value => induction value (always.2 value)⟩

end Always

/-! Running programs over a database and a memory. `run` says what a command does in a
session, in the context that the outside gives it. -/

/-- What the programs share. -/
structure World (Database Memory : Type) where
  database : Database
  memory : Memory

/-- What a command takes from outside: its context, and which of its statements fail. -/
structure Turn (Context : Type) where
  context : Context
  faults : List (Option String)

/-- A command that is one program, whose context comes from outside. -/
inductive Single (Context Database Memory : Type) : Type → Type 1 where
  | program {Error α : Type} (run : Context → Sql Database Memory Error α) :
      Single Context Database Memory (Except Error α)

/-- What such a command does in a session. -/
def Single.run : (β : Type) → Context → Single Context Database Memory β →
    Session Database Memory → β × Session Database Memory
  | _, context, .program run => run context

/-- One program, whose error ends the whole. -/
def issue {Context Database Memory : Type} (run : Context → Sql Database Memory Error α) :
    Task (Single Context Database Memory) Error α :=
  perform (.program run)

variable {Context Database Memory Request : Type}
  (run : ∀ β, Context → Command β → Session Database Memory → β × Session Database Memory)

/-- The program with nothing between its commands. -/
def alone (context : Context) : Task Command Error α → Sql Database Memory Error α
  | .ended result => ofExcept result
  | .step command next => fun session =>
      (next (run _ context command session).1).alone context (run _ context command session).2

/-- The programs that requests start, step by step. -/
def routine (enter : Request → Task Command Error α) :
    Routine (World Database Memory) (Task Command Error α) Request (Turn Context)
      (Except Error α) where
  enter := enter
  step
    | _, .ended result, world => (world, .inr result)
    | turn, .step command next, world =>
        let ran := run _ turn.context command ⟨world.database, world.memory, turn.faults⟩
        (⟨ran.2.database, ran.2.memory⟩, .inl (next ran.1))

/-- The program goes on, or its request has ended with the result. -/
def goesOn (request : Request) : Task Command Error α →
    (Request × Task Command Error α) ⊕ (Request × Except Error α)
  | .ended result => .inr (request, result)
  | .step command next => .inl (request, .step command next)

/-- The programs of requests, which end with their last command. -/
def calls (enter : Request → Task Command Error α) :
    Routine (World Database Memory) (Request × Task Command Error α) Request (Turn Context)
      (Request × Except Error α) where
  enter request := (request, enter request)
  step
    | _, (request, .ended result), world => (world, .inr (request, result))
    | turn, (request, .step command next), world =>
        let ran := run _ turn.context command ⟨world.database, world.memory, turn.faults⟩
        (⟨ran.2.database, ran.2.memory⟩, goesOn request (next ran.1))

variable {run} {context : Context}

theorem alone_bind {task : Task Command Error α} {continuation : α → Task Command Error β} :
    (task >>= continuation).alone run context =
      task.alone run context >>= fun value => (continuation value).alone run context := by
  induction task with
  | ended result => cases result <;> rfl
  | step command next induction =>
      funext session
      exact congrFun (induction (run _ context command session).1)
        (run _ context command session).2

theorem alone_perform (command : Command (Except Error α)) :
    (perform command).alone run context = run _ context command := rfl

theorem alone_issue {program : Context → Sql Database Memory Error α} :
    (issue program : Task (Single Context Database Memory) Error α).alone Single.run context =
      program context := rfl

theorem alone_tolerate (command : Command (Except Inner α)) :
    (tolerate command : Task Command Error _).alone run context =
      attempt (run _ context command) := rfl

end Task

end Annex
