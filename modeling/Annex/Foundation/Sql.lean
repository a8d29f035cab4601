import Mathlib.Data.List.Basic

namespace Annex

/-! Programs of fallible SQL statements. A session holds the database, what the
process keeps outside it (memory, or messages already sent), and which of the
next statements fail. A transaction puts the database back when its body or its
commit fails, and nothing else. -/

/-- Which constraint of a table a statement violates. -/
inductive ConstraintKind where
  | unique
  | primaryKey
  | foreignKey
deriving DecidableEq, Repr

/-- What a statement can fail with. -/
inductive DbError where
  | constraint (kind : ConstraintKind) (text : String)
  | failure (text : String)
  | noRows
  | conversion (text : String)
deriving DecidableEq, Repr

/-- The text a driver error is displayed with. -/
def DbError.text : DbError → String
  | .constraint _ text => text
  | .failure text => text
  | .noRows => "Query returned no rows"
  | .conversion text => text

/-- `faults` says of each coming statement, commits included, whether it fails
and with which text. Statements past its end succeed. -/
structure Session (Database Memory : Type) where
  database : Database
  memory : Memory
  faults : List (Option String)

/-- A program that may fail with an `Error`. -/
def Sql (Database Memory Error : Type) (α : Type) : Type :=
  Session Database Memory → Except Error α × Session Database Memory

namespace Sql

variable {Database Memory Message Error Inner α β : Type}

instance : Monad (Sql Database Memory Error) where
  pure value := fun session => (.ok value, session)
  bind program next := fun session =>
    match program session with
    | (.ok value, after) => next value after
    | (.error error, after) => (.error error, after)

/-- Return an error to the caller. -/
def fail (error : Error) : Sql Database Memory Error α :=
  fun session => (.error error, session)

/-- Return the value or the error of a pure computation. -/
def ofExcept (result : Except Error α) : Sql Database Memory Error α :=
  fun session => (result, session)

/-- Go on with the value that must be there. -/
def require (value : Option α) (error : Error) : Sql Database Memory Error α :=
  ofExcept (match value with
    | some found => .ok found
    | none => .error error)

/-- Go on only under the condition. -/
def check (condition : Prop) [Decidable condition] (error : Error) :
    Sql Database Memory Error Unit :=
  if condition then pure () else fail error

/-- What the process keeps outside the database. -/
def readMemory : Sql Database Memory Error Memory :=
  fun session => (.ok session.memory, session)

/-- Change what the process keeps outside the database. -/
def remember (change : Memory → Memory) : Sql Database Memory Error Unit :=
  fun session => (.ok (), { session with memory := change session.memory })

/-- Hand a message to the outside world. -/
def send (message : Message) : Sql Database (List Message) Error Unit :=
  remember fun sent => sent ++ [message]

/-- One statement. It fails when a fault is due or when the effect does, and
then leaves the database as it was. -/
def statement (wrap : DbError → Error)
    (effect : Database → Except DbError (α × Database)) :
    Sql Database Memory Error α :=
  fun session =>
    let after := { session with faults := session.faults.tail }
    match session.faults.head?.join with
    | some text => (.error (wrap (.failure text)), after)
    | none =>
        match effect session.database with
        | .ok (value, database) => (.ok value, { after with database := database })
        | .error error => (.error (wrap error), after)

/-- A statement that reads. -/
def query (wrap : DbError → Error) (read : Database → Except DbError α) :
    Sql Database Memory Error α :=
  statement wrap fun database =>
    match read database with
    | .ok value => .ok (value, database)
    | .error error => .error error

/-- Take a connection from the pool. -/
def connect (wrap : DbError → Error) : Sql Database Memory Error Unit :=
  query wrap fun _ => .ok ()

/-- A statement that writes. -/
def execute (wrap : DbError → Error)
    (write : Database → Except DbError Database) :
    Sql Database Memory Error Unit :=
  statement wrap fun database =>
    match write database with
    | .ok changed => .ok ((), changed)
    | .error error => .error error

/-- Run a program and hand its error to the caller as a value. -/
def attempt (program : Sql Database Memory Inner α) :
    Sql Database Memory Error (Except Inner α) :=
  fun session => (.ok (program session).1, (program session).2)

/-- Go on with a value, or fail with what its error becomes. -/
def orElse (result : Except Inner α) (wrap : Inner → Error) :
    Sql Database Memory Error α :=
  ofExcept (result.mapError wrap)

/-- Run a program of another error type, and fail with what its error becomes. -/
def mapErr (wrap : Inner → Error) (program : Sql Database Memory Inner α) :
    Sql Database Memory Error α := do
  let result ← attempt program
  orElse result wrap

/-- Begin, run the body, commit. -/
def transaction (wrapBegin wrapCommit : DbError → Error)
    (body : Sql Database Memory Error α) : Sql Database Memory Error α :=
  fun session =>
    match connect wrapBegin session with
    | (.error error, after) => (.error error, after)
    | (.ok (), begun) =>
        match body begun with
        | (.error error, after) =>
            (.error error, { after with database := session.database })
        | (.ok value, finished) =>
            match connect wrapCommit finished with
            | (.ok (), after) => (.ok value, after)
            | (.error error, after) =>
                (.error error, { after with database := session.database })

section Evaluation

/-! How each construct runs when no statement is made to fail. -/

variable {database : Database} {memory : Memory}

theorem pure_apply (value : α) (session : Session Database Memory) :
    (pure value : Sql Database Memory Error α) session = (.ok value, session) :=
  rfl

theorem bind_apply (program : Sql Database Memory Error α)
    (next : α → Sql Database Memory Error β)
    (session : Session Database Memory) :
    (program >>= next) session =
      match program session with
      | (.ok value, after) => next value after
      | (.error error, after) => (.error error, after) := rfl

theorem bind_ok {program : Sql Database Memory Error α}
    {next : α → Sql Database Memory Error β}
    {session after : Session Database Memory} {value : α}
    (ran : program session = (.ok value, after)) :
    (program >>= next) session = next value after := by
  rw [bind_apply, ran]

theorem bind_error {program : Sql Database Memory Error α}
    {next : α → Sql Database Memory Error β}
    {session after : Session Database Memory} {error : Error}
    (ran : program session = (.error error, after)) :
    (program >>= next) session = (.error error, after) := by
  rw [bind_apply, ran]

theorem bind_bind {γ : Type} {program : Sql Database Memory Error α}
    {next : α → Sql Database Memory Error β} {last : β → Sql Database Memory Error γ} :
    (program >>= next) >>= last = program >>= fun value => next value >>= last := by
  funext session
  rw [bind_apply, bind_apply, bind_apply]
  rcases program session with ⟨_ | _, _⟩ <;> rfl

theorem fail_apply (error : Error) (session : Session Database Memory) :
    (fail error : Sql Database Memory Error α) session = (.error error, session) := rfl

theorem ofExcept_apply (result : Except Error α) (session : Session Database Memory) :
    ofExcept result session = (result, session) := rfl

theorem orElse_apply (result : Except Inner α) (wrap : Inner → Error)
    (session : Session Database Memory) :
    orElse result wrap session = (result.mapError wrap, session) := rfl

theorem bind_orElse (result : Except Inner β) (wrap : Inner → Error)
    (next : β → Sql Database Memory Error α) (session : Session Database Memory) :
    (orElse result wrap >>= next) session =
      match result with
      | .ok value => next value session
      | .error error => (.error (wrap error), session) := by
  cases result <;> rfl

theorem check_apply (condition : Prop) [Decidable condition] (error : Error)
    (session : Session Database Memory) :
    check condition error session =
      (if condition then .ok () else .error error, session) := by
  unfold check
  split <;> rfl

theorem mapErr_apply {wrap : Inner → Error} {program : Sql Database Memory Inner α}
    {session after : Session Database Memory} {result : Except Inner α}
    (ran : program session = (result, after)) :
    mapErr wrap program session = (result.mapError wrap, after) := by
  unfold mapErr
  rw [bind_apply]
  simp only [attempt, ran, orElse_apply]

theorem mapErr_bind {wrap : Inner → Error} {program : Sql Database Memory Inner β}
    {next : β → Sql Database Memory Inner α} :
    mapErr wrap (program >>= next) =
      mapErr wrap program >>= fun value => mapErr wrap (next value) := by
  funext session
  rcases ran : program session with ⟨error | value, after⟩
  · rw [mapErr_apply (bind_error ran)]
    exact (bind_error (mapErr_apply ran)).symm
  · rw [bind_ok (mapErr_apply ran)]
    exact mapErr_apply (bind_ok ran)

theorem statement_apply (wrap : DbError → Error)
    (effect : Database → Except DbError (α × Database)) :
    statement wrap effect ⟨database, memory, []⟩ =
      match effect database with
        | .ok (value, changed) => (.ok value, ⟨changed, memory, []⟩)
        | .error error => (.error (wrap error), ⟨database, memory, []⟩) := by
  simp only [statement]
  cases effect database <;> rfl

theorem connect_apply (wrap : DbError → Error) :
    (connect wrap : Sql Database Memory Error Unit) ⟨database, memory, []⟩ =
      (.ok (), ⟨database, memory, []⟩) := rfl

theorem query_apply (wrap : DbError → Error)
    (read : Database → Except DbError α) :
    query wrap read ⟨database, memory, []⟩ =
      (match read database with
        | .ok value => .ok value
        | .error error => .error (wrap error), ⟨database, memory, []⟩) := by
  simp only [query, statement]
  cases read database <;> rfl

theorem execute_apply (wrap : DbError → Error)
    (write : Database → Except DbError Database) :
    execute wrap write ⟨database, memory, []⟩ =
      match write database with
        | .ok changed => (.ok (), ⟨changed, memory, []⟩)
        | .error error => (.error (wrap error), ⟨database, memory, []⟩) := by
  simp only [execute, statement]
  cases write database <;> rfl

theorem transaction_apply (wrapBegin wrapCommit : DbError → Error)
    (body : Sql Database Memory Error α) {result : Except Error α}
    {changed : Database} {after : Memory}
    (ran : body ⟨database, memory, []⟩ = (result, ⟨changed, after, []⟩)) :
    transaction wrapBegin wrapCommit body ⟨database, memory, []⟩ =
      match result with
      | .ok value => (.ok value, ⟨changed, after, []⟩)
      | .error error => (.error error, ⟨database, after, []⟩) := by
  simp only [transaction, connect, query_apply, ran]
  cases result <;> simp only [query_apply]

end Evaluation

section Faults

/-! How the statements run when they may fail. -/

/-- The fault that is due for the statement after the next `count` ones. -/
def faultAt (faults : List (Option String)) (count : Nat) : Option String :=
  (faults.drop count).head?.join

theorem faultAt_tail (faults : List (Option String)) (count : Nat) :
    faultAt faults.tail count = faultAt faults (count + 1) := by
  rw [faultAt, faultAt, List.drop_tail]

theorem statement_faulty {wrap : DbError → Error}
    {effect : Database → Except DbError (α × Database)}
    {session : Session Database Memory} {text : String}
    (faulty : faultAt session.faults 0 = some text) :
    statement wrap effect session =
      (.error (wrap (.failure text)), { session with faults := session.faults.tail }) := by
  unfold statement
  dsimp only
  rw [show session.faults.head?.join = some text from faulty]

theorem statement_done {wrap : DbError → Error}
    {effect : Database → Except DbError (α × Database)}
    {session : Session Database Memory} {value : α} {changed : Database}
    (unfaulted : faultAt session.faults 0 = none)
    (done : effect session.database = .ok (value, changed)) :
    statement wrap effect session =
      (.ok value, ⟨changed, session.memory, session.faults.tail⟩) := by
  unfold statement
  dsimp only
  rw [show session.faults.head?.join = none from unfaulted]
  simp only [done]

theorem statement_refused {wrap : DbError → Error}
    {effect : Database → Except DbError (α × Database)}
    {session : Session Database Memory} {error : DbError}
    (unfaulted : faultAt session.faults 0 = none)
    (refused : effect session.database = .error error) :
    statement wrap effect session =
      (.error (wrap error), { session with faults := session.faults.tail }) := by
  unfold statement
  dsimp only
  rw [show session.faults.head?.join = none from unfaulted]
  simp only [refused]

theorem connect_faulty {wrap : DbError → Error} {session : Session Database Memory}
    {text : String} (faulty : faultAt session.faults 0 = some text) :
    connect wrap session =
      (.error (wrap (.failure text)), { session with faults := session.faults.tail }) := by
  unfold connect query
  exact statement_faulty faulty

theorem connect_done {wrap : DbError → Error} {session : Session Database Memory}
    (unfaulted : faultAt session.faults 0 = none) :
    connect wrap session = (.ok (), { session with faults := session.faults.tail }) := by
  unfold connect query
  exact statement_done unfaulted rfl

theorem execute_faulty {wrap : DbError → Error} {write : Database → Except DbError Database}
    {session : Session Database Memory} {text : String}
    (faulty : faultAt session.faults 0 = some text) :
    execute wrap write session =
      (.error (wrap (.failure text)), { session with faults := session.faults.tail }) :=
  statement_faulty faulty

theorem execute_done {wrap : DbError → Error} {write : Database → Except DbError Database}
    {session : Session Database Memory} {changed : Database}
    (unfaulted : faultAt session.faults 0 = none)
    (done : write session.database = .ok changed) :
    execute wrap write session =
      (.ok (), ⟨changed, session.memory, session.faults.tail⟩) :=
  statement_done unfaulted (by rw [done])

theorem execute_refused {wrap : DbError → Error} {write : Database → Except DbError Database}
    {session : Session Database Memory} {error : DbError}
    (unfaulted : faultAt session.faults 0 = none)
    (refused : write session.database = .error error) :
    execute wrap write session =
      (.error (wrap error), { session with faults := session.faults.tail }) :=
  statement_refused unfaulted (by rw [refused])

theorem query_done {wrap : DbError → Error} {read : Database → Except DbError α}
    {session : Session Database Memory} {value : α}
    (unfaulted : faultAt session.faults 0 = none)
    (done : read session.database = .ok value) :
    query wrap read session = (.ok value, { session with faults := session.faults.tail }) :=
  statement_done unfaulted (by rw [done])

theorem query_faulty {wrap : DbError → Error} {read : Database → Except DbError α}
    {session : Session Database Memory} {text : String}
    (faulty : faultAt session.faults 0 = some text) :
    query wrap read session =
      (.error (wrap (.failure text)), { session with faults := session.faults.tail }) :=
  statement_faulty faulty

theorem query_refused {wrap : DbError → Error} {read : Database → Except DbError α}
    {session : Session Database Memory} {error : DbError}
    (unfaulted : faultAt session.faults 0 = none)
    (refused : read session.database = .error error) :
    query wrap read session =
      (.error (wrap error), { session with faults := session.faults.tail }) :=
  statement_refused unfaulted (by rw [refused])

theorem transaction_done {wrapBegin wrapCommit : DbError → Error}
    {body : Sql Database Memory Error α} {session finished : Session Database Memory}
    {value : α} (begins : faultAt session.faults 0 = none)
    (ran : body { session with faults := session.faults.tail } = (.ok value, finished))
    (commits : faultAt finished.faults 0 = none) :
    transaction wrapBegin wrapCommit body session =
      (.ok value, { finished with faults := finished.faults.tail }) := by
  simp only [transaction, connect_done begins, ran, connect_done commits]

end Faults

/-! What a program ensures whatever statements fail. -/

/-- The postcondition holds of the result, the database and the memory,
however the faults fall. -/
def Ensures (program : Sql Database Memory Error α) (database : Database)
    (memory : Memory)
    (post : Except Error α → Database → Memory → Prop) : Prop :=
  ∀ faults, post (program ⟨database, memory, faults⟩).1
    (program ⟨database, memory, faults⟩).2.database
    (program ⟨database, memory, faults⟩).2.memory

section Rules

variable {database : Database} {memory : Memory}
  {post : Except Error α → Database → Memory → Prop}

@[simp] theorem ensures_pure (value : α) :
    Ensures (pure value) database memory post ↔ post (.ok value) database memory :=
  ⟨fun holds => holds [], fun holds _ => holds⟩

@[simp] theorem ensures_fail (error : Error) :
    Ensures (fail error) database memory post ↔
      post (.error error) database memory :=
  ⟨fun holds => holds [], fun holds _ => holds⟩

@[simp] theorem ensures_ofExcept (result : Except Error α) :
    Ensures (ofExcept result) database memory post ↔ post result database memory :=
  ⟨fun holds => holds [], fun holds _ => holds⟩

@[simp] theorem ensures_readMemory
    {post : Except Error Memory → Database → Memory → Prop} :
    Ensures readMemory database memory post ↔ post (.ok memory) database memory :=
  ⟨fun holds => holds [], fun holds _ => holds⟩

@[simp] theorem ensures_remember (change : Memory → Memory)
    {post : Except Error Unit → Database → Memory → Prop} :
    Ensures (remember change) database memory post ↔
      post (.ok ()) database (change memory) :=
  ⟨fun holds => holds [], fun holds _ => holds⟩

@[simp] theorem ensures_send {Message : Type} {sent : List Message}
    (message : Message)
    {post : Except Error Unit → Database → List Message → Prop} :
    Ensures (send message) database sent post ↔
      post (.ok ()) database (sent ++ [message]) :=
  ⟨fun holds => holds [], fun holds _ => holds⟩

theorem ensures_mono {program : Sql Database Memory Error α}
    {weaker : Except Error α → Database → Memory → Prop}
    (implies : ∀ result changed after,
      post result changed after → weaker result changed after)
    (holds : Ensures program database memory post) :
    Ensures program database memory weaker :=
  fun faults => implies _ _ _ (holds faults)

/-- What the first part of a program must ensure for the whole to ensure the
postcondition. -/
def andThen (next : β → Sql Database Memory Error α)
    (post : Except Error α → Database → Memory → Prop) :
    Except Error β → Database → Memory → Prop
  | .ok value, database, memory => Ensures (next value) database memory post
  | .error error, database, memory => post (.error error) database memory

@[simp] theorem andThen_ok (next : β → Sql Database Memory Error α) (value : β) :
    andThen next post (.ok value) database memory ↔
      Ensures (next value) database memory post := Iff.rfl

@[simp] theorem andThen_error (next : β → Sql Database Memory Error α)
    (error : Error) :
    andThen next post (.error error) database memory ↔
      post (.error error) database memory := Iff.rfl

/-- The rest of a program runs from whatever its first part ensures. -/
theorem ensures_bind {program : Sql Database Memory Error β}
    {next : β → Sql Database Memory Error α}
    (holds : Ensures program database memory (andThen next post)) :
    Ensures (program >>= next) database memory post := by
  intro faults
  have first := holds faults
  rw [bind_apply]
  rcases ran : program ⟨database, memory, faults⟩ with ⟨_ | value, after⟩
  · simpa [ran] using first
  · rw [ran] at first
    exact first after.faults

theorem ensures_check {condition : Prop} [Decidable condition] {error : Error}
    {post : Except Error Unit → Database → Memory → Prop}
    (passed : condition → post (.ok ()) database memory)
    (refused : ¬ condition → post (.error error) database memory) :
    Ensures (check condition error) database memory post := by
  unfold check
  split
  · exact (ensures_pure _).mpr (passed ‹_›)
  · exact (ensures_fail _).mpr (refused ‹_›)

theorem ensures_require {value : Option α} {error : Error}
    (present : ∀ found, value = some found → post (.ok found) database memory)
    (absent : value = none → post (.error error) database memory) :
    Ensures (require value error) database memory post := by
  cases value with
  | none => exact (ensures_ofExcept _).mpr (absent rfl)
  | some found => exact (ensures_ofExcept _).mpr (present found rfl)

theorem ensures_statement {wrap : DbError → Error}
    {effect : Database → Except DbError (α × Database)}
    (faulty : ∀ text, post (.error (wrap (.failure text))) database memory)
    (done : ∀ value changed, effect database = .ok (value, changed) →
      post (.ok value) changed memory)
    (refused : ∀ error, effect database = .error error →
      post (.error (wrap error)) database memory) :
    Ensures (statement wrap effect) database memory post := by
  intro faults
  unfold statement
  dsimp only
  cases faults.head?.join with
  | some text => exact faulty text
  | none =>
      cases outcome : effect database with
      | ok pair => exact done _ _ outcome
      | error error => exact refused _ outcome

theorem ensures_query {wrap : DbError → Error}
    {read : Database → Except DbError α}
    (faulty : ∀ text, post (.error (wrap (.failure text))) database memory)
    (done : ∀ value, read database = .ok value →
      post (.ok value) database memory)
    (refused : ∀ error, read database = .error error →
      post (.error (wrap error)) database memory) :
    Ensures (query wrap read) database memory post := by
  refine ensures_statement faulty ?_ ?_
  · intro value changed outcome
    cases readable : read database with
    | ok found =>
        simp only [readable, Except.ok.injEq, Prod.mk.injEq] at outcome
        rcases outcome with ⟨rfl, rfl⟩
        exact done found readable
    | error error => simp [readable] at outcome
  · intro error outcome
    cases readable : read database with
    | ok found => simp [readable] at outcome
    | error found =>
        simp only [readable, Except.error.injEq] at outcome
        exact outcome ▸ refused found readable

theorem ensures_execute {wrap : DbError → Error}
    {write : Database → Except DbError Database}
    {post : Except Error Unit → Database → Memory → Prop}
    (faulty : ∀ text, post (.error (wrap (.failure text))) database memory)
    (done : ∀ changed, write database = .ok changed →
      post (.ok ()) changed memory)
    (refused : ∀ error, write database = .error error →
      post (.error (wrap error)) database memory) :
    Ensures (execute wrap write) database memory post := by
  refine ensures_statement faulty ?_ ?_
  · intro value changed outcome
    cases written : write database with
    | ok found =>
        simp only [written, Except.ok.injEq, Prod.mk.injEq, true_and] at outcome
        exact outcome ▸ done found written
    | error error => simp [written] at outcome
  · intro error outcome
    cases written : write database with
    | ok found => simp [written] at outcome
    | error found =>
        simp only [written, Except.error.injEq] at outcome
        exact outcome ▸ refused found written

theorem ensures_attempt {program : Sql Database Memory Inner β}
    {post : Except Error (Except Inner β) → Database → Memory → Prop} :
    Ensures (attempt program) database memory post ↔
      Ensures program database memory fun result changed after =>
        post (.ok result) changed after :=
  Iff.rfl

theorem ensures_orElse {result : Except Inner α} {wrap : Inner → Error}
    (done : ∀ value, result = .ok value → post (.ok value) database memory)
    (refused : ∀ error, result = .error error →
      post (.error (wrap error)) database memory) :
    Ensures (orElse result wrap) database memory post := by
  unfold orElse
  rw [ensures_ofExcept]
  cases result with
  | ok value => exact done value rfl
  | error error => exact refused error rfl

theorem ensures_mapErr {program : Sql Database Memory Inner α} {wrap : Inner → Error}
    (holds : Ensures program database memory fun result changed after =>
      post (result.mapError wrap) changed after) :
    Ensures (mapErr wrap program) database memory post := by
  refine ensures_bind (ensures_attempt.mpr (ensures_mono ?_ holds))
  intro result changed after reached
  rw [andThen_ok, orElse, ensures_ofExcept]
  exact reached

/-- A transaction either has the effect of its body or puts the database back. -/
theorem ensures_transaction {wrapBegin wrapCommit : DbError → Error}
    {body : Sql Database Memory Error α}
    (faulty : ∀ text, post (.error (wrapBegin (.failure text))) database memory)
    (holds : Ensures body database memory fun result changed after =>
      match result with
      | .ok value => post (.ok value) changed after ∧
          ∀ text, post (.error (wrapCommit (.failure text))) database after
      | .error error => post (.error error) database after) :
    Ensures (transaction wrapBegin wrapCommit body) database memory post := by
  intro faults
  have begins : ∀ (wrap : DbError → Error) (session : Session Database Memory),
      (∃ text, connect wrap session =
        (.error (wrap (.failure text)), { session with faults := session.faults.tail })) ∨
      connect wrap session =
        (.ok (), { session with faults := session.faults.tail }) := by
    intro wrap session
    simp only [connect, query, statement]
    cases session.faults.head?.join with
    | some text => exact Or.inl ⟨text, rfl⟩
    | none => exact Or.inr rfl
  unfold transaction
  rcases begins wrapBegin ⟨database, memory, faults⟩ with ⟨text, begun⟩ | begun
  · simp only [begun]
    exact faulty text
  · have ran := holds faults.tail
    simp only [begun]
    rcases outcome : body ⟨database, memory, faults.tail⟩ with ⟨error | value, finished⟩
    · simpa [outcome] using ran
    · simp only [outcome] at ran
      rcases begins wrapCommit finished with ⟨text, committed⟩ | committed
      · simpa [committed] using ran.2 text
      · simpa [committed] using ran.1

end Rules

end Sql

end Annex
