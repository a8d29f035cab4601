import Annex.Foundation.Execution

namespace Annex

/-! Serializable transactions. One of them writes at a time, on a copy of the committed state
that takes its place when the transaction commits. -/

/-- The committed state, and the transaction that writes with what it has written so far. -/
structure SingleWriter (State : Type u) where
  committed : State
  writer : Option (Nat × State)

namespace SingleWriter

/-- The statements of the transactions, in any order, and how a transaction ends. -/
inductive Label (Statement : Type v) where
  | write (transaction : Nat) (statement : Statement)
  | commit (transaction : Nat) (fails : Bool)
  | rollback (transaction : Nat)

variable {State : Type u} {Statement : Type v}

/-- No transaction has begun to write. -/
def start (committed : State) : SingleWriter State := ⟨committed, none⟩

/-- What a transaction works on. It has to wait for the one that writes. -/
def working (state : SingleWriter State) (transaction : Nat) : Option State :=
  match state.writer with
  | none => some state.committed
  | some (writer, written) => if writer = transaction then some written else none

/-- What the transaction has written, if it is the one that writes. -/
def written (state : SingleWriter State) (transaction : Nat) : Option State :=
  match state.writer with
  | none => none
  | some (writer, written) => if writer = transaction then some written else none

/-- A commit that fails rolls back. -/
def step (execute : Statement → State → State) (state : SingleWriter State) :
    Label Statement → SingleWriter State
  | .write transaction statement =>
      match state.working transaction with
      | none => state
      | some working => { state with writer := some (transaction, execute statement working) }
  | .commit transaction fails =>
      match state.written transaction with
      | none => state
      | some written => start (if fails then state.committed else written)
  | .rollback transaction =>
      match state.written transaction with
      | none => state
      | some _ => start state.committed

/-- Of two states the second may come after the first, for the committed state and for what the
transaction that writes works on. -/
structure Ahead (after : State → State → Prop) (initial : State)
    (state : SingleWriter State) : Prop where
  committed : after initial state.committed
  writer : ∀ transaction written, state.writer = some (transaction, written) →
    after state.committed written

section Rules

variable {execute : Statement → State → State} {after : State → State → Prop}
  {initial : State} {state : SingleWriter State}

theorem Ahead.working (ahead : Ahead after initial state) (refl : ∀ state, after state state)
    {transaction : Nat} {working : State} (works : state.working transaction = some working) :
    after state.committed working := by
  unfold SingleWriter.working at works
  cases isWriter : state.writer with
  | none =>
      rw [isWriter] at works
      cases works
      exact refl _
  | some writer =>
      simp only [isWriter, Option.ite_none_right_eq_some, Option.some.injEq] at works
      exact works.2 ▸ ahead.writer writer.1 writer.2 isWriter

theorem writer_of_written {transaction : Nat} {written : State}
    (wrote : state.written transaction = some written) :
    state.writer = some (transaction, written) := by
  unfold SingleWriter.written at wrote
  cases isWriter : state.writer with
  | none =>
      rw [isWriter] at wrote
      cases wrote
  | some writer =>
      simp only [isWriter, Option.ite_none_right_eq_some, Option.some.injEq] at wrote
      rw [← wrote.1, ← wrote.2]

theorem ahead_start {committed : State} (held : after initial committed) :
    Ahead after initial (start committed) where
  committed := held
  writer _ _ isWriter := nomatch isWriter

/-- What every statement goes ahead with, every step of the transactions goes ahead with. -/
theorem ahead_step (refl : ∀ state, after state state)
    (trans : ∀ first second third, after first second → after second third → after first third)
    (executes : ∀ statement state, after state (execute statement state))
    (label : Label Statement) (ahead : Ahead after initial state) :
    Ahead after initial (step execute state label) := by
  cases label with
  | write transaction statement =>
      rw [step]
      cases works : state.working transaction with
      | none => exact ahead
      | some working =>
          refine ⟨ahead.committed, ?_⟩
          intro other written isWriter
          cases isWriter
          exact trans _ _ _ (ahead.working refl works) (executes statement working)
  | commit transaction fails =>
      rw [step]
      cases wrote : state.written transaction with
      | none => exact ahead
      | some written =>
          refine ⟨?_, fun _ _ isWriter => nomatch isWriter⟩
          cases fails with
          | true => exact ahead.committed
          | false =>
              exact trans _ _ _ ahead.committed
                (ahead.writer _ _ (writer_of_written wrote))
  | rollback transaction =>
      rw [step]
      cases state.written transaction with
      | none => exact ahead
      | some written => exact ahead_start ahead.committed

/-- Whatever the transactions do, the committed state goes ahead. -/
theorem ahead_run (refl : ∀ state, after state state)
    (trans : ∀ first second third, after first second → after second third → after first third)
    (executes : ∀ statement state, after state (execute statement state))
    (ahead : Ahead after initial state) (labels : List (Label Statement)) :
    Ahead after initial (Execution.run (step execute) state labels) :=
  Execution.run_invariant _ (fun _ label ahead => ahead_step refl trans executes label ahead)
    ahead labels

end Rules

end SingleWriter

end Annex
