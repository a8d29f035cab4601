import Annex.Foundation.SqlAnswer

namespace Annex.Sql

/-! How many statements a program runs before it succeeds, and with them which faults stand
in its way. -/

variable {Database Memory Error Inner α β : Type} {count more : Nat}

/-- None of the next statements is made to fail. -/
def Spared (faults : List (Option String)) (count : Nat) : Prop :=
  ∀ number < count, faultAt faults number = none

theorem faultAt_drop (faults : List (Option String)) (count number : Nat) :
    faultAt (faults.drop count) number = faultAt faults (count + number) := by
  rw [faultAt, faultAt, List.drop_drop]

theorem spared_zero (faults : List (Option String)) : Spared faults 0 :=
  fun _ below => absurd below (Nat.not_lt_zero _)

theorem spared_nil (count : Nat) : Spared [] count := by
  intro number _
  rw [faultAt, List.drop_nil]
  rfl

theorem spared_one {faults : List (Option String)} :
    Spared faults 1 ↔ faultAt faults 0 = none := by
  constructor
  · exact fun spared => spared 0 Nat.one_pos
  · intro first number below
    rw [Nat.lt_one_iff.mp below]
    exact first

theorem spared_add {faults : List (Option String)} :
    Spared faults (count + more) ↔ Spared faults count ∧ Spared (faults.drop count) more := by
  constructor
  · intro spared
    constructor
    · intro number below
      exact spared number (by omega)
    · intro number below
      rw [faultAt_drop]
      exact spared (count + number) (by omega)
  · intro spared number below
    by_cases early : number < count
    · exact spared.1 number early
    · have late := spared.2 (number - count) (by omega)
      rw [faultAt_drop] at late
      rw [← late]
      congr 1
      omega

/-- The program succeeds when it does without faults and its statements, `count` of them, are
spared. -/
def Takes (count : Nat) (program : Sql Database Memory Error α) : Prop :=
  ∀ database memory faults value changed kept rest,
    program ⟨database, memory, faults⟩ = (.ok value, ⟨changed, kept, rest⟩) ↔
      Spared faults count ∧ rest = faults.drop count ∧
        program ⟨database, memory, []⟩ = (.ok value, ⟨changed, kept, []⟩)

theorem takes_ofExcept (result : Except Error α) :
    Takes 0 (ofExcept result : Sql Database Memory Error α) := by
  intro database memory faults value changed kept rest
  simp only [ofExcept_apply, Prod.mk.injEq, Session.mk.injEq, and_true, List.drop_zero]
  constructor
  · intro same
    exact ⟨spared_zero _, same.2.2.2.symm, same.1, same.2.1, same.2.2.1⟩
  · intro same
    exact ⟨same.2.2.1, same.2.2.2.1, same.2.2.2.2, same.2.1.symm⟩

theorem takes_pure (value : α) : Takes 0 (pure value : Sql Database Memory Error α) :=
  takes_ofExcept (.ok value)

theorem takes_orElse (result : Except Inner α) (wrap : Inner → Error) :
    Takes 0 (orElse result wrap : Sql Database Memory Error α) :=
  takes_ofExcept _

theorem takes_require (value : Option α) (error : Error) :
    Takes 0 (require value error : Sql Database Memory Error α) :=
  takes_ofExcept _

theorem takes_check (condition : Prop) [Decidable condition] (error : Error) :
    Takes 0 (check condition error : Sql Database Memory Error Unit) := by
  unfold check
  split
  · exact takes_pure ()
  · exact takes_ofExcept (.error error)

theorem takes_statement (wrap : DbError → Error)
    (effect : Database → Except DbError (α × Database)) :
    Takes 1 (statement wrap effect : Sql Database Memory Error α) := by
  intro database memory faults value changed kept rest
  rw [statement_apply, spared_one, List.drop_one]
  cases fault : faultAt faults 0 with
  | some text =>
      rw [statement_faulty fault]
      apply iff_of_false
      · intro ran
        cases ran
      · intro spared
        cases spared.1
  | none =>
      cases done : effect database with
      | error error =>
          rw [statement_refused fault done]
          apply iff_of_false
          · intro ran
            cases ran
          · intro ran
            cases ran.2.2
      | ok result =>
          rw [statement_done fault done]
          simp only [Prod.mk.injEq, Session.mk.injEq, Except.ok.injEq, and_true, true_and]
          constructor
          · intro same
            exact ⟨same.2.2.2.symm, same.1, same.2.1, same.2.2.1⟩
          · intro same
            exact ⟨same.2.1, same.2.2.1, same.2.2.2, same.1.symm⟩

theorem takes_query (wrap : DbError → Error) (read : Database → Except DbError α) :
    Takes 1 (query wrap read : Sql Database Memory Error α) :=
  takes_statement _ _

theorem takes_connect (wrap : DbError → Error) :
    Takes 1 (connect wrap : Sql Database Memory Error Unit) :=
  takes_query _ _

theorem takes_execute (wrap : DbError → Error) (write : Database → Except DbError Database) :
    Takes 1 (execute wrap write : Sql Database Memory Error Unit) :=
  takes_statement _ _

theorem takes_bind {program : Sql Database Memory Error β}
    {next : β → Sql Database Memory Error α} (first : Takes count program)
    (second : ∀ value, Takes more (next value)) : Takes (count + more) (program >>= next) := by
  have runs : ∀ session value after, (program >>= next) session = (.ok value, after) ↔
      ∃ middle passed, program session = (.ok middle, passed) ∧
        next middle passed = (.ok value, after) := by
    intro session value after
    rw [bind_apply]
    rcases program session with ⟨result, passed⟩
    cases result with
    | error error => simp
    | ok middle => simp
  intro database memory faults value changed kept rest
  rw [runs, runs, spared_add]
  constructor
  · intro ran
    rcases ran with ⟨middle, ⟨passed, held, left⟩, ranFirst, ranSecond⟩
    rcases (first ..).mp ranFirst with ⟨sparedFirst, isLeft, ranFirst⟩
    rcases (second middle ..).mp ranSecond with ⟨sparedSecond, isRest, ranSecond⟩
    rw [isLeft] at sparedSecond isRest
    rw [List.drop_drop] at isRest
    exact ⟨⟨sparedFirst, sparedSecond⟩, isRest, middle, _, ranFirst, ranSecond⟩
  · intro ran
    rcases ran with ⟨⟨sparedFirst, sparedSecond⟩, isRest, middle, ⟨passed, held, left⟩,
      ranFirst, ranSecond⟩
    have isLeft : left = [] := by
      rcases (first ..).mp ranFirst with ⟨-, isLeft, -⟩
      exact isLeft.trans List.drop_nil
    rw [isLeft] at ranFirst ranSecond
    refine ⟨middle, ⟨passed, held, faults.drop count⟩, (first ..).mpr ⟨sparedFirst, rfl, ranFirst⟩,
      (second middle ..).mpr ⟨sparedSecond, ?_, ranSecond⟩⟩
    rw [isRest, List.drop_drop]

theorem takes_mapErr {program : Sql Database Memory Inner α} {wrap : Inner → Error}
    (takes : Takes count program) : Takes count (mapErr wrap program) := by
  have succeeds : ∀ session value after, mapErr wrap program session = (.ok value, after) ↔
      program session = (.ok value, after) := by
    intro session value after
    cases ran : program session with
    | mk result passed =>
        rw [mapErr_apply ran]
        cases result <;> simp [Except.mapError]
  intro database memory faults value changed kept rest
  rw [succeeds, succeeds]
  exact takes ..

/-- A statement whose failure is looked at, where the fault of it is passed on. -/
theorem takes_attempt_execute {wrap : DbError → Inner}
    {write : Database → Except DbError Database}
    {next : Except Inner Unit → Sql Database Memory Error α}
    (stops : ∀ text, ∃ error, next (.error (wrap (.failure text))) = fail error)
    (rest : ∀ result, Takes more (next result)) :
    Takes (1 + more) (attempt (execute wrap write) >>= next) := by
  have attempted : ∀ (session after : Session Database Memory) result,
      execute wrap write session = (result, after) →
        (attempt (execute wrap write) >>= next) session = next result after := by
    intro session after result ran
    apply bind_ok
    rw [attempt, ran]
  intro database memory faults value changed kept left
  rw [spared_add, spared_one]
  cases fault : faultAt faults 0 with
  | some text =>
      rcases stops text with ⟨error, stopped⟩
      rw [attempted _ _ _ (execute_faulty fault), stopped]
      apply iff_of_false
      · intro ran
        cases ran
      · intro ran
        cases ran.1.1
  | none =>
      have done : ∃ result after, ∀ faults, faultAt faults 0 = none →
          execute wrap write ⟨database, memory, faults⟩ =
            (result, ⟨after, memory, faults.tail⟩) := by
        cases written : write database with
        | ok after => exact ⟨_, _, fun _ unfaulted => execute_done unfaulted written⟩
        | error error => exact ⟨_, _, fun _ unfaulted => execute_refused unfaulted written⟩
      rcases done with ⟨result, after, done⟩
      rw [attempted _ _ _ (done faults fault), attempted _ _ _ (done [] rfl), ← List.drop_drop,
        List.drop_one]
      rw [eq_self, true_and]
      exact rest ..

/-- A program that succeeds without faults goes on where it is spared. -/
theorem Takes.bind_spared {program : Sql Database Memory Error β}
    {next : β → Sql Database Memory Error α} {database : Database} {memory : Memory}
    {faults : List (Option String)} {value : β} (takes : Takes count program)
    (answers : Answers program database memory value) (spared : Spared faults count) :
    (program >>= next) ⟨database, memory, faults⟩ =
      next value ⟨database, memory, faults.drop count⟩ :=
  bind_ok ((takes ..).mpr ⟨spared, rfl, answers⟩)

/-- What follows a program that succeeds without faults fails unless the program is spared and
it succeeds itself. -/
theorem Takes.bind_fails_iff {program : Sql Database Memory Error β}
    {next : β → Sql Database Memory Error α} {database : Database} {memory : Memory}
    {faults : List (Option String)} {value : β} (takes : Takes count program)
    (answers : Answers program database memory value) :
    (∃ error, ((program >>= next) ⟨database, memory, faults⟩).1 = .error error) ↔
      ¬ Spared faults count ∨
        ∃ error, (next value ⟨database, memory, faults.drop count⟩).1 = .error error := by
  by_cases spared : Spared faults count
  · rw [takes.bind_spared answers spared]
    exact (or_iff_right (not_not_intro spared)).symm
  · apply iff_of_true _ (Or.inl spared)
    cases ran : program ⟨database, memory, faults⟩ with
    | mk result after =>
        cases result with
        | error error =>
            rw [bind_error ran]
            exact ⟨error, rfl⟩
        | ok other => exact absurd ((takes ..).mp ran).1 spared

/-- A transaction that succeeds has run its statements one after the other. -/
theorem transaction_eq_ok_iff {wrapBegin wrapCommit : DbError → Error}
    {body : Sql Database Memory Error α} {session after : Session Database Memory} {value : α} :
    transaction wrapBegin wrapCommit body session = (.ok value, after) ↔
      (connect wrapBegin >>= fun _ => body >>= fun value =>
        connect wrapCommit >>= fun _ => pure value) session = (.ok value, after) := by
  rw [transaction, bind_apply]
  rcases connect wrapBegin session with ⟨_ | _, begun⟩
  · rfl
  · dsimp only
    rw [bind_apply]
    rcases body begun with ⟨_ | result, finished⟩
    · simp
    · dsimp only
      rw [bind_apply]
      rcases connect wrapCommit finished with ⟨_ | _, committed⟩
      · simp
      · rfl

/-- A transaction fails and leaves the database as it was, or has run to its end. -/
theorem transaction_cases {wrapBegin wrapCommit : DbError → Error}
    (body : Sql Database Memory Error α) (session : Session Database Memory) :
    ((∃ error, (transaction wrapBegin wrapCommit body session).1 = .error error) ∧
        (transaction wrapBegin wrapCommit body session).2.database = session.database) ∨
      ∃ value finished, faultAt session.faults 0 = none ∧
        body { session with faults := session.faults.tail } = (.ok value, finished) ∧
        faultAt finished.faults 0 = none ∧
        transaction wrapBegin wrapCommit body session =
          (.ok value, { finished with faults := finished.faults.tail }) := by
  unfold transaction
  cases begins : faultAt session.faults 0 with
  | some text =>
      rw [connect_faulty begins]
      exact Or.inl ⟨⟨_, rfl⟩, rfl⟩
  | none =>
      rw [connect_done begins]
      dsimp only
      rcases ran : body { session with faults := session.faults.tail } with
        ⟨error | value, finished⟩
      · exact Or.inl ⟨⟨error, rfl⟩, rfl⟩
      · dsimp only
        cases commits : faultAt finished.faults 0 with
        | some text =>
            rw [connect_faulty commits]
            exact Or.inl ⟨⟨_, rfl⟩, rfl⟩
        | none =>
            rw [connect_done commits]
            exact Or.inr ⟨value, finished, rfl, rfl, commits, rfl⟩

theorem takes_transaction {wrapBegin wrapCommit : DbError → Error}
    {body : Sql Database Memory Error α} (takes : Takes count body) :
    Takes (count + 2) (transaction wrapBegin wrapCommit body) := by
  have steps := takes_bind (takes_connect wrapBegin) fun _ : Unit =>
    takes_bind takes fun value => takes_bind (takes_connect wrapCommit) fun _ : Unit =>
      (takes_pure value : Takes 0 (pure value : Sql Database Memory Error α))
  rw [show 1 + (count + (1 + 0)) = count + 2 by omega] at steps
  intro database memory faults value changed kept rest
  rw [transaction_eq_ok_iff, transaction_eq_ok_iff]
  exact steps ..

/-! Failures that leave a part of the database alone. -/

/-- A run that fails leaves the view of the database as it was. -/
def FailsKeeping {γ : Type} (view : Database → γ) (program : Sql Database Memory Error α) :
    Prop :=
  ∀ session error after, program session = (.error error, after) →
    view after.database = view session.database

section FailsKeeping

variable {γ : Type} {view : Database → γ}

theorem Keeps.failsKeeping {program : Sql Database Memory Error α}
    (kept : Keeps view program) : FailsKeeping view program := by
  intro session error after failed
  have held := kept (view session.database) session rfl
  rw [failed] at held
  exact held

theorem failsKeeping_statement (wrap : DbError → Error)
    (effect : Database → Except DbError (α × Database)) :
    FailsKeeping view (statement wrap effect : Sql Database Memory Error α) := by
  intro session error after failed
  unfold statement at failed
  dsimp only at failed
  cases fault : session.faults.head?.join with
  | some text =>
      rw [fault] at failed
      cases failed
      rfl
  | none =>
      rw [fault] at failed
      cases outcome : effect session.database with
      | ok pair =>
          rw [outcome] at failed
          cases failed
      | error refused =>
          rw [outcome] at failed
          cases failed
          rfl

theorem failsKeeping_execute (wrap : DbError → Error)
    (write : Database → Except DbError Database) :
    FailsKeeping view (execute wrap write : Sql Database Memory Error Unit) :=
  failsKeeping_statement _ _

theorem failsKeeping_bind {program : Sql Database Memory Error β}
    {next : β → Sql Database Memory Error α} (first : Keeps view program)
    (rest : ∀ value, FailsKeeping view (next value)) :
    FailsKeeping view (program >>= next) := by
  intro session error after failed
  have held := first (view session.database) session rfl
  rcases ran : program session with ⟨other | value, passed⟩
  · rw [bind_error ran] at failed
    cases failed
    rw [ran] at held
    exact held
  · rw [bind_ok ran] at failed
    rw [ran] at held
    exact (rest value passed error after failed).trans held

theorem failsKeeping_mapErr {wrap : Inner → Error} {program : Sql Database Memory Inner α}
    (inner : FailsKeeping view program) : FailsKeeping view (mapErr wrap program) := by
  intro session error after failed
  rcases ran : program session with ⟨_ | value, passed⟩
  · rw [mapErr_apply ran] at failed
    cases failed
    exact inner session _ _ ran
  · rw [mapErr_apply ran] at failed
    cases failed

/-- A statement whose failure is looked at, where a success is not made into a failure. -/
theorem failsKeeping_attempt_execute {wrap : DbError → Inner}
    {write : Database → Except DbError Database}
    {next : Except Inner Unit → Sql Database Memory Error α}
    (goesOn : ∀ session error, (next (.ok ()) session).1 ≠ .error error)
    (rest : ∀ error, Keeps view (next (.error error))) :
    FailsKeeping view (attempt (execute wrap write) >>= next) := by
  intro session error after failed
  have attempted : attempt (execute wrap write) session =
      ((.ok (execute wrap write session).1, (execute wrap write session).2) :
        Except Error (Except Inner Unit) × _) := rfl
  rw [bind_ok attempted] at failed
  cases ran : execute wrap write session with
  | mk result passed =>
      rw [ran] at failed
      cases result with
      | ok _ => exact absurd (congrArg Prod.fst failed) (goesOn passed error)
      | error refused =>
          have kept := @failsKeeping_execute _ _ _ _ view wrap write session refused passed ran
          have held := rest refused (view passed.database) passed rfl
          rw [failed] at held
          exact held.trans kept

/-- A program fails before the view changes, or goes on after a first part that was spared. -/
theorem Takes.bind_cases {program : Sql Database Memory Error β}
    {next : β → Sql Database Memory Error α} {database : Database} {memory : Memory}
    (takes : Takes count program) (failsKeeping : FailsKeeping view program)
    (faults : List (Option String)) :
    ((∃ error, ((program >>= next) ⟨database, memory, faults⟩).1 = .error error) ∧
        view ((program >>= next) ⟨database, memory, faults⟩).2.database = view database) ∨
      ∃ value changed kept, Spared faults count ∧
        program ⟨database, memory, []⟩ = (.ok value, ⟨changed, kept, []⟩) ∧
        (program >>= next) ⟨database, memory, faults⟩ =
          next value ⟨changed, kept, faults.drop count⟩ := by
  rcases ran : program ⟨database, memory, faults⟩ with ⟨error | value, changed, kept, rest⟩
  · left
    rw [bind_error ran]
    exact ⟨⟨error, rfl⟩, failsKeeping _ error _ ran⟩
  · right
    rcases (takes ..).mp ran with ⟨spared, isRest, unfaulted⟩
    refine ⟨value, changed, kept, spared, unfaulted, ?_⟩
    rw [bind_ok ran, isRest]

end FailsKeeping

end Annex.Sql
