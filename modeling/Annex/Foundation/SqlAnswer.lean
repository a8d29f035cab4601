import Annex.Foundation.SqlFrame

namespace Annex.Sql

/-! Runs in which no statement fails, and programs that only look at the database:
a fault can make such a program fail, but not answer otherwise. -/

variable {Database Memory Message Error Inner α β : Type} {database : Database}
  {memory : Memory}

/-- With no statement failing the program returns the value and changes nothing. -/
def Answers (program : Sql Database Memory Error α) (database : Database)
    (memory : Memory) (value : α) : Prop :=
  program ⟨database, memory, []⟩ = (.ok value, ⟨database, memory, []⟩)

/-- The program changes nothing, and what it returns whatever statements fail is an
error or what it returns when none does. -/
def Looks (program : Sql Database Memory Error α) : Prop :=
  ∀ database memory, ∃ result,
    program ⟨database, memory, []⟩ = (result, ⟨database, memory, []⟩) ∧
      ∀ faults, ∃ rest,
        program ⟨database, memory, faults⟩ = (result, ⟨database, memory, rest⟩) ∨
          ∃ error, program ⟨database, memory, faults⟩ =
            (.error error, ⟨database, memory, rest⟩)

section Looks

@[simp] theorem looks_ofExcept (result : Except Error α) :
    Looks (ofExcept result : Sql Database Memory Error α) :=
  fun _ _ => ⟨result, rfl, fun faults => ⟨faults, Or.inl rfl⟩⟩

@[simp] theorem looks_pure (value : α) : Looks (pure value : Sql Database Memory Error α) :=
  looks_ofExcept (.ok value)

@[simp] theorem looks_fail (error : Error) : Looks (fail error : Sql Database Memory Error α) :=
  looks_ofExcept (.error error)

@[simp] theorem looks_require (value : Option α) (error : Error) :
    Looks (require value error : Sql Database Memory Error α) :=
  looks_ofExcept _

@[simp] theorem looks_orElse (result : Except Inner α) (wrap : Inner → Error) :
    Looks (orElse result wrap : Sql Database Memory Error α) :=
  looks_ofExcept _

@[simp] theorem looks_check (condition : Prop) [Decidable condition] (error : Error) :
    Looks (check condition error : Sql Database Memory Error Unit) := by
  unfold check
  split
  · exact looks_pure ()
  · exact looks_fail error

@[simp] theorem looks_query (wrap : DbError → Error) (read : Database → Except DbError α) :
    Looks (query wrap read : Sql Database Memory Error α) := by
  intro database memory
  refine ⟨_, query_apply wrap read, fun faults => ⟨faults.tail, ?_⟩⟩
  unfold query statement
  dsimp only
  cases faults.head?.join with
  | some text => exact Or.inr ⟨_, rfl⟩
  | none => cases read database <;> exact Or.inl rfl

@[simp] theorem looks_connect (wrap : DbError → Error) :
    Looks (connect wrap : Sql Database Memory Error Unit) :=
  looks_query _ _

@[simp] theorem looks_bind {program : Sql Database Memory Error β}
    {next : β → Sql Database Memory Error α} (first : Looks program)
    (rest : ∀ value, Looks (next value)) : Looks (program >>= next) := by
  intro database memory
  rcases first database memory with ⟨error | value, ran, faulty⟩
  · refine ⟨.error error, bind_error ran, fun faults => ?_⟩
    rcases faulty faults with ⟨left, same | ⟨other, failed⟩⟩
    · exact ⟨left, Or.inl (bind_error same)⟩
    · exact ⟨left, Or.inr ⟨other, bind_error failed⟩⟩
  · rcases rest value database memory with ⟨result, finished, restFaulty⟩
    refine ⟨result, (bind_ok ran).trans finished, fun faults => ?_⟩
    rcases faulty faults with ⟨left, same | ⟨other, failed⟩⟩
    · rcases restFaulty left with ⟨last, agrees⟩
      exact ⟨last, by rwa [bind_ok same]⟩
    · exact ⟨left, Or.inr ⟨other, bind_error failed⟩⟩

@[simp] theorem looks_mapErr {wrap : Inner → Error} {program : Sql Database Memory Inner α}
    (looks : Looks program) : Looks (mapErr wrap program) := by
  intro database memory
  rcases looks database memory with ⟨result, ran, faulty⟩
  refine ⟨_, mapErr_apply ran, fun faults => ?_⟩
  rcases faulty faults with ⟨left, same | ⟨error, failed⟩⟩
  · exact ⟨left, Or.inl (mapErr_apply same)⟩
  · exact ⟨left, Or.inr ⟨wrap error, mapErr_apply failed⟩⟩

theorem Looks.reads {program : Sql Database Memory Error α} (looks : Looks program) :
    Reads program := by
  intro session
  rcases looks session.database session.memory with ⟨result, -, faulty⟩
  rcases faulty session.faults with ⟨rest, same | ⟨error, failed⟩⟩
  · rw [same]
    exact ⟨rfl, rfl⟩
  · rw [failed]
    exact ⟨rfl, rfl⟩

/-- Where a program that only looks succeeds, its value is the one it returns when no statement
fails, and the session is as before. -/
theorem Looks.answers {program : Sql Database Memory Error α} (looks : Looks program)
    {faults : List (Option String)} {value : α} {after : Session Database Memory}
    (ran : program ⟨database, memory, faults⟩ = (.ok value, after)) :
    Answers program database memory value ∧ after = ⟨database, memory, after.faults⟩ := by
  rcases looks database memory with ⟨result, answered, faulty⟩
  rcases faulty faults with ⟨rest, same | ⟨error, failed⟩⟩
  · rw [ran, Prod.mk.injEq] at same
    rw [← same.1] at answered
    rw [same.2]
    exact ⟨answered, rfl⟩
  · rw [ran] at failed
    cases failed

theorem Looks.answers_of_ok {program : Sql Database Memory Error α} (looks : Looks program)
    {value : α} (ran : (program ⟨database, memory, []⟩).1 = .ok value) :
    Answers program database memory value :=
  (looks.answers (Prod.ext ran rfl)).1

/-- What comes after a program that only looks runs on the same database, with the
answer the program gives when no statement fails. Its errors are known ones. -/
theorem Looks.ensures_bind_of {program : Sql Database Memory Error β}
    {next : β → Sql Database Memory Error α} (looks : Looks program)
    {allowed : Error → Prop} (fails : FailsWith allowed program)
    {post : Except Error α → Database → Memory → Prop}
    (refused : ∀ error, allowed error → post (.error error) database memory)
    (answered : ∀ value, Answers program database memory value →
      Ensures (next value) database memory post) :
    Ensures (program >>= next) database memory post := by
  refine Sql.ensures_bind fun faults => ?_
  have stopped := fails ⟨database, memory, faults⟩
  rcases looks database memory with ⟨result, ran, faulty⟩
  rcases faulty faults with ⟨rest, same | ⟨error, failed⟩⟩
  · rw [same] at stopped ⊢
    cases result with
    | error error => exact refused error (stopped error rfl)
    | ok value => exact answered value ran
  · rw [failed] at stopped ⊢
    exact refused error (stopped error rfl)

theorem Looks.ensures_bind {program : Sql Database Memory Error β}
    {next : β → Sql Database Memory Error α} (looks : Looks program)
    {post : Except Error α → Database → Memory → Prop}
    (refused : ∀ error, post (.error error) database memory)
    (answered : ∀ value, Answers program database memory value →
      Ensures (next value) database memory post) :
    Ensures (program >>= next) database memory post :=
  looks.ensures_bind_of (fun _ _ _ => True.intro) (fun error _ => refused error) answered

end Looks

section Answers

variable {value : α}

@[simp] theorem answers_ofExcept {result : Except Error α} :
    Answers (ofExcept result) database memory value ↔ result = .ok value := by
  simp [Answers, ofExcept_apply]

@[simp] theorem answers_pure {other : α} :
    Answers (pure other : Sql Database Memory Error α) database memory value ↔
      other = value := by
  simp [Answers, pure_apply]

@[simp] theorem answers_fail {error : Error} :
    ¬ Answers (fail error : Sql Database Memory Error α) database memory value := by
  simp [Answers, fail_apply]

@[simp] theorem answers_require {found : Option α} {error : Error} :
    Answers (require found error) database memory value ↔ found = some value := by
  unfold require
  cases found <;> simp

@[simp] theorem answers_orElse {result : Except Inner α} {wrap : Inner → Error} :
    Answers (orElse result wrap) database memory value ↔ result = .ok value := by
  unfold orElse
  cases result <;> simp [Except.mapError]

@[simp] theorem answers_check {condition : Prop} [Decidable condition] {error : Error}
    {done : Unit} :
    Answers (check condition error) database memory done ↔ condition := by
  unfold check
  split <;> simp [*]

@[simp] theorem answers_query {wrap : DbError → Error}
    {read : Database → Except DbError α} :
    Answers (query wrap read) database memory value ↔ read database = .ok value := by
  rw [Answers, query_apply]
  cases read database <;> simp

@[simp] theorem answers_connect {wrap : DbError → Error} {done : Unit} :
    Answers (connect wrap) database memory done ↔ True := by
  simp [connect]

theorem connect_answers (wrap : DbError → Error) :
    Answers (connect wrap : Sql Database Memory Error Unit) database memory () :=
  connect_apply wrap

theorem answers_mapErr {wrap : Inner → Error} {program : Sql Database Memory Inner α}
    (looks : Looks program) :
    Answers (mapErr wrap program) database memory value ↔
      Answers program database memory value := by
  rcases looks database memory with ⟨result, ran, -⟩
  rw [Answers, Answers, mapErr_apply ran, ran]
  cases result <;> simp [Except.mapError]

theorem answers_bind {program : Sql Database Memory Error β}
    {next : β → Sql Database Memory Error α} (looks : Looks program) :
    Answers (program >>= next) database memory value ↔
      ∃ middle, Answers program database memory middle ∧
        Answers (next middle) database memory value := by
  rcases looks database memory with ⟨error | middle, ran, -⟩
  · simp [Answers, bind_error ran, ran]
  · simp [Answers, bind_ok ran, ran]

end Answers

/-! Total correctness of the runs in which no statement fails. -/

/-- With no statement failing the program returns, and the postcondition holds of the
value, the database and the memory. -/
def Achieves (program : Sql Database Memory Error α) (database : Database)
    (memory : Memory) (post : α → Database → Memory → Prop) : Prop :=
  ∃ value changed after,
    program ⟨database, memory, []⟩ = (.ok value, ⟨changed, after, []⟩) ∧
      post value changed after

section Achieves

variable {post : α → Database → Memory → Prop}

theorem Answers.achieves {program : Sql Database Memory Error α} {value : α}
    (answers : Answers program database memory value) (holds : post value database memory) :
    Achieves program database memory post :=
  ⟨value, database, memory, answers, holds⟩

theorem achieves_pure {value : α} (holds : post value database memory) :
    Achieves (pure value : Sql Database Memory Error α) database memory post :=
  (answers_pure.mpr rfl).achieves holds

theorem achieves_remember {change : Memory → Memory}
    {post : Unit → Database → Memory → Prop} (holds : post () database (change memory)) :
    Achieves (remember change : Sql Database Memory Error Unit) database memory post :=
  ⟨(), database, change memory, rfl, holds⟩

theorem achieves_send {sent : List Message} {message : Message}
    {post : Unit → Database → List Message → Prop}
    (holds : post () database (sent ++ [message])) :
    Achieves (send message : Sql Database (List Message) Error Unit) database sent post :=
  achieves_remember holds

theorem achieves_mono {program : Sql Database Memory Error α}
    {weaker : α → Database → Memory → Prop}
    (implies : ∀ value changed after, post value changed after → weaker value changed after)
    (holds : Achieves program database memory post) :
    Achieves program database memory weaker := by
  rcases holds with ⟨value, changed, after, ran, held⟩
  exact ⟨value, changed, after, ran, implies value changed after held⟩

theorem achieves_bind {program : Sql Database Memory Error β}
    {next : β → Sql Database Memory Error α}
    (holds : Achieves program database memory fun value changed after =>
      Achieves (next value) changed after post) :
    Achieves (program >>= next) database memory post := by
  rcases holds with ⟨value, changed, after, ran, result, last, memoryLast, ranNext, held⟩
  exact ⟨result, last, memoryLast, (bind_ok ran).trans ranNext, held⟩

/-- The rest of a program runs with the answer of its first part. -/
theorem Answers.achieves_bind {program : Sql Database Memory Error β}
    {next : β → Sql Database Memory Error α} {value : β}
    (answers : Answers program database memory value)
    (holds : Achieves (next value) database memory post) :
    Achieves (program >>= next) database memory post :=
  Sql.achieves_bind (answers.achieves holds)

/-- The rest of a program runs after a check that holds. -/
theorem achieves_check_bind {condition : Prop} [Decidable condition] {error : Error}
    {next : Unit → Sql Database Memory Error α} (satisfied : condition)
    (holds : Achieves (next ()) database memory post) :
    Achieves (check condition error >>= next) database memory post :=
  Answers.achieves_bind (answers_check.mpr satisfied) holds

theorem achieves_statement {wrap : DbError → Error}
    {effect : Database → Except DbError (α × Database)} {value : α} {changed : Database}
    (done : effect database = .ok (value, changed)) (holds : post value changed memory) :
    Achieves (statement wrap effect) database memory post :=
  ⟨value, changed, memory, by rw [statement_apply, done], holds⟩

theorem achieves_execute {wrap : DbError → Error}
    {write : Database → Except DbError Database} {changed : Database}
    {post : Unit → Database → Memory → Prop}
    (done : write database = .ok changed) (holds : post () changed memory) :
    Achieves (execute wrap write) database memory post :=
  ⟨(), changed, memory, by rw [execute_apply, done], holds⟩

theorem achieves_attempt {program : Sql Database Memory Inner β}
    {post : Except Inner β → Database → Memory → Prop} {result : Except Inner β}
    {changed : Database} {after : Memory}
    (ran : program ⟨database, memory, []⟩ = (result, ⟨changed, after, []⟩))
    (holds : post result changed after) :
    Achieves (attempt program : Sql Database Memory Error (Except Inner β)) database memory
      post :=
  ⟨result, changed, after, by simp only [attempt, ran], holds⟩

theorem achieves_mapErr {wrap : Inner → Error} {program : Sql Database Memory Inner α}
    (holds : Achieves program database memory post) :
    Achieves (mapErr wrap program) database memory post := by
  rcases holds with ⟨value, changed, after, ran, held⟩
  exact ⟨value, changed, after, mapErr_apply ran, held⟩

theorem achieves_transaction {wrapBegin wrapCommit : DbError → Error}
    {body : Sql Database Memory Error α} (holds : Achieves body database memory post) :
    Achieves (transaction wrapBegin wrapCommit body) database memory post := by
  rcases holds with ⟨value, changed, after, ran, held⟩
  exact ⟨value, changed, after, transaction_apply _ _ _ ran, held⟩

end Achieves

/-! Programs that may change the database. -/

/-- Some run of the program changes the database. -/
def MayChange (program : Sql Database Memory Error α) (database : Database)
    (memory : Memory) : Prop :=
  ∃ faults, (program ⟨database, memory, faults⟩).2.database ≠ database

/-- A program may change the database exactly under a condition that every change
needs and under which the run without failures is a change. -/
theorem mayChange_iff {program : Sql Database Memory Error α} {condition : Prop}
    (needed : Ensures program database memory fun _ changed _ =>
      changed ≠ database → condition)
    (enough : condition →
      Achieves program database memory fun _ changed _ => changed ≠ database) :
    MayChange program database memory ↔ condition := by
  constructor
  · rintro ⟨faults, changes⟩
    exact needed faults changes
  · intro holds
    rcases enough holds with ⟨value, changed, after, ran, changes⟩
    exact ⟨[], by rw [ran]; exact changes⟩

/-! Programs that tolerate every failure inside them. -/

/-- Whatever statements fail, the program returns, and the postcondition holds of the
value, the database and the memory. -/
def Tolerates (program : Sql Database Memory Error α) (database : Database)
    (memory : Memory) (post : α → Database → Memory → Prop) : Prop :=
  ∀ faults, ∃ value changed after rest,
    program ⟨database, memory, faults⟩ = (.ok value, ⟨changed, after, rest⟩) ∧
      (faults = [] → rest = []) ∧ post value changed after

section Tolerates

variable {post : α → Database → Memory → Prop}

theorem tolerates_pure {value : α} (holds : post value database memory) :
    Tolerates (pure value : Sql Database Memory Error α) database memory post :=
  fun faults => ⟨value, database, memory, faults, rfl, id, holds⟩

theorem tolerates_mono {program : Sql Database Memory Error α}
    {weaker : α → Database → Memory → Prop}
    (implies : ∀ value changed after, post value changed after → weaker value changed after)
    (holds : Tolerates program database memory post) :
    Tolerates program database memory weaker := by
  intro faults
  rcases holds faults with ⟨value, changed, after, rest, ran, unfaulted, held⟩
  exact ⟨value, changed, after, rest, ran, unfaulted, implies value changed after held⟩

theorem tolerates_bind {program : Sql Database Memory Error β}
    {next : β → Sql Database Memory Error α}
    (holds : Tolerates program database memory fun value changed after =>
      Tolerates (next value) changed after post) :
    Tolerates (program >>= next) database memory post := by
  intro faults
  rcases holds faults with ⟨value, changed, after, rest, ran, unfaulted, held⟩
  rcases held rest with ⟨result, last, memoryLast, left, ranNext, unfaultedNext, done⟩
  exact ⟨result, last, memoryLast, left, (bind_ok ran).trans ranNext,
    fun empty => unfaultedNext (unfaulted empty), done⟩

/-- A write whose failure goes unnoticed happens or does not. -/
theorem tolerates_attempt_execute {wrap : DbError → Inner}
    {write : Database → Except DbError Database}
    {post : Except Inner Unit → Database → Memory → Prop}
    (done : ∀ changed, write database = .ok changed → post (.ok ()) changed memory)
    (failed : ∀ error, post (.error error) database memory) :
    Tolerates (attempt (execute wrap write) : Sql Database Memory Error (Except Inner Unit))
      database memory post := by
  intro faults
  have kept : Ensures (execute wrap write) database memory
      fun result changed after => post result changed after ∧ after = memory := by
    refine ensures_execute (fun _ => ⟨failed _, rfl⟩) ?_ fun _ _ => ⟨failed _, rfl⟩
    exact fun changed written => ⟨done changed written, rfl⟩
  refine ⟨_, _, _, _, rfl, ?_, (kept faults).1⟩
  rw [show (execute wrap write ⟨database, memory, faults⟩).2.faults = faults.tail from ?_]
  · rintro rfl
    rfl
  · unfold execute statement
    dsimp only
    cases faults.head?.join with
    | some text => rfl
    | none => cases write database <;> rfl

theorem Tolerates.ensures {program : Sql Database Memory Error α}
    (tolerates : Tolerates program database memory post) :
    Ensures program database memory fun result changed after =>
      ∃ value, result = .ok value ∧ post value changed after := by
  intro faults
  rcases tolerates faults with ⟨value, changed, after, rest, ran, -, held⟩
  rw [ran]
  exact ⟨value, rfl, held⟩

theorem Tolerates.achieves {program : Sql Database Memory Error α}
    (tolerates : Tolerates program database memory post) :
    Achieves program database memory post := by
  rcases tolerates [] with ⟨value, changed, after, rest, ran, unfaulted, held⟩
  rw [unfaulted rfl] at ran
  exact ⟨value, changed, after, ran, held⟩

end Tolerates

/-! Programs that return because the statements that would stop them do not fail. -/

/-- From the session the program returns, having met the given number of coming faults. -/
def Returns (program : Sql Database Memory Error α) (session : Session Database Memory)
    (spent : Nat) : Prop :=
  ∃ value database memory,
    program session = (.ok value, ⟨database, memory, session.faults.drop spent⟩)

section Returns

variable {session : Session Database Memory}

theorem returns_pure (value : α) :
    Returns (pure value : Sql Database Memory Error α) session 0 :=
  ⟨value, session.database, session.memory, rfl⟩

theorem returns_send {session : Session Database (List Message)} (message : Message) :
    Returns (send message : Sql Database (List Message) Error Unit) session 0 :=
  ⟨(), session.database, session.memory ++ [message], rfl⟩

theorem returns_execute {wrap : DbError → Error}
    {write : Database → Except DbError Database} {changed : Database}
    (unfaulted : faultAt session.faults 0 = none)
    (done : write session.database = .ok changed) :
    Returns (execute wrap write) session 1 := by
  refine ⟨(), changed, session.memory, ?_⟩
  rw [execute_done unfaulted done, List.drop_one]

theorem returns_bind {program : Sql Database Memory Error β}
    {next : β → Sql Database Memory Error α} {spent more : Nat}
    (first : Returns program session spent)
    (rest : ∀ value database memory,
      Returns (next value) ⟨database, memory, session.faults.drop spent⟩ more) :
    Returns (program >>= next) session (spent + more) := by
  rcases first with ⟨value, database, memory, ran⟩
  rcases rest value database memory with ⟨result, last, memoryLast, finished⟩
  refine ⟨result, last, memoryLast, ?_⟩
  rw [bind_ok ran, finished, List.drop_drop]

end Returns

/-- A query that answers, whatever statements fail, answers what it reads. -/
theorem read_of_query_ok {wrap : DbError → Error} {read : Database → Except DbError α}
    {session after : Session Database Memory} {value : α}
    (ran : query wrap read session = (.ok value, after)) : read session.database = .ok value := by
  have answered : Ensures (query wrap read) session.database session.memory
      fun result _ _ => ∀ value, result = .ok value → read session.database = .ok value := by
    refine ensures_query (fun _ _ failed => nomatch failed) ?_ fun _ _ _ failed => nomatch failed
    intro found readable value same
    cases same
    exact readable
  exact answered session.faults value (congrArg Prod.fst ran)

/-! Programs behind a check. -/

/-- On both databases the program returns the same and changes nothing, whatever
statements fail. -/
def SameAnswer (program : Sql Database Memory Error α) (left right : Database) : Prop :=
  ∀ memory faults, ∃ result rest,
    program ⟨left, memory, faults⟩ = (result, ⟨left, memory, rest⟩) ∧
      program ⟨right, memory, faults⟩ = (result, ⟨right, memory, rest⟩)

section SameAnswer

variable {left right : Database}

theorem sameAnswer_ofExcept (result : Except Error α) :
    SameAnswer (ofExcept result : Sql Database Memory Error α) left right :=
  fun _ faults => ⟨result, faults, rfl, rfl⟩

theorem sameAnswer_pure (value : α) :
    SameAnswer (pure value : Sql Database Memory Error α) left right :=
  sameAnswer_ofExcept (.ok value)

theorem sameAnswer_check (condition : Prop) [Decidable condition] (error : Error) :
    SameAnswer (check condition error : Sql Database Memory Error Unit) left right := by
  unfold check
  split
  · exact sameAnswer_pure ()
  · exact sameAnswer_ofExcept (.error error)

theorem sameAnswer_query {wrap : DbError → Error} {read : Database → Except DbError α}
    (same : read left = read right) :
    SameAnswer (query wrap read : Sql Database Memory Error α) left right := by
  intro memory faults
  unfold query statement
  dsimp only
  rw [same]
  cases faults.head?.join with
  | some text => exact ⟨_, _, rfl, rfl⟩
  | none => cases read right <;> exact ⟨_, _, rfl, rfl⟩

theorem sameAnswer_connect (wrap : DbError → Error) :
    SameAnswer (connect wrap : Sql Database Memory Error Unit) left right :=
  sameAnswer_query rfl

theorem sameAnswer_bind {program : Sql Database Memory Error β}
    {next : β → Sql Database Memory Error α} (first : SameAnswer program left right)
    (rest : ∀ value, SameAnswer (next value) left right) :
    SameAnswer (program >>= next) left right := by
  intro memory faults
  rcases first memory faults with ⟨error | value, middle, onLeft, onRight⟩
  · exact ⟨.error error, middle, bind_error onLeft, bind_error onRight⟩
  · rcases rest value memory middle with ⟨result, last, nextLeft, nextRight⟩
    exact ⟨result, last, (bind_ok onLeft).trans nextLeft, (bind_ok onRight).trans nextRight⟩

theorem sameAnswer_mapErr {wrap : Inner → Error} {program : Sql Database Memory Inner α}
    (same : SameAnswer program left right) :
    SameAnswer (mapErr wrap program) left right := by
  intro memory faults
  rcases same memory faults with ⟨result, rest, onLeft, onRight⟩
  exact ⟨_, rest, mapErr_apply onLeft, mapErr_apply onRight⟩

theorem SameAnswer.eq {program : Sql Database Memory Error α}
    (same : SameAnswer program left right) (memory : Memory)
    (faults : List (Option String)) :
    (program ⟨left, memory, faults⟩).1 = (program ⟨right, memory, faults⟩).1 := by
  rcases same memory faults with ⟨result, rest, onLeft, onRight⟩
  rw [onLeft, onRight]

end SameAnswer

/-! Two runs at once: of programs that only look at their databases. -/

/-- Whatever statements fail, on the two databases the programs fail alike or return values that
agree, and change nothing. -/
def Matched (agree : α → β → Prop) (first second : Database) (left : Sql Database Memory Error α)
    (right : Sql Database Memory Error β) : Prop :=
  ∀ memory faults, ∃ rest,
    (∃ error, left ⟨first, memory, faults⟩ = (.error error, ⟨first, memory, rest⟩) ∧
      right ⟨second, memory, faults⟩ = (.error error, ⟨second, memory, rest⟩)) ∨
    ∃ value other, agree value other ∧
      left ⟨first, memory, faults⟩ = (.ok value, ⟨first, memory, rest⟩) ∧
      right ⟨second, memory, faults⟩ = (.ok other, ⟨second, memory, rest⟩)

section Matched

variable {γ δ : Type} {first second : Database} {agree : α → β → Prop}

theorem matched_pure {value : α} {other : β} (agrees : agree value other) :
    Matched agree first second (pure value : Sql Database Memory Error α) (pure other) :=
  fun _ faults => ⟨faults, Or.inr ⟨value, other, agrees, rfl, rfl⟩⟩

/-- Both fail, so the values are never compared. -/
theorem matched_fail (error : Error) :
    Matched (fun _ _ => False) first second (fail error : Sql Database Memory Error α)
      (fail error : Sql Database Memory Error β) :=
  fun _ faults => ⟨faults, Or.inl ⟨error, rfl, rfl⟩⟩

theorem matched_ofExcept (result : Except Error α) :
    Matched Eq first second (ofExcept result : Sql Database Memory Error α)
      (ofExcept result) := by
  intro memory faults
  cases result with
  | error error => exact ⟨faults, Or.inl ⟨error, rfl, rfl⟩⟩
  | ok value => exact ⟨faults, Or.inr ⟨value, value, rfl, rfl, rfl⟩⟩

theorem matched_query {wrap : DbError → Error} {read : Database → α} {readOther : Database → β}
    (agrees : agree (read first) (readOther second)) :
    Matched agree first second
      (query wrap fun database => .ok (read database) : Sql Database Memory Error α)
      (query wrap fun database => .ok (readOther database)) := by
  intro memory faults
  refine ⟨faults.tail, ?_⟩
  unfold query statement
  dsimp only
  cases faults.head?.join with
  | some text => exact Or.inl ⟨_, rfl, rfl⟩
  | none => exact Or.inr ⟨_, _, agrees, rfl, rfl⟩

theorem matched_connect (wrap : DbError → Error) :
    Matched Eq first second (connect wrap : Sql Database Memory Error Unit) (connect wrap) :=
  matched_query rfl

theorem matched_bind {left : Sql Database Memory Error α} {right : Sql Database Memory Error β}
    {next : α → Sql Database Memory Error γ} {nextOther : β → Sql Database Memory Error δ}
    {after : γ → δ → Prop} (opening : Matched agree first second left right)
    (rest : ∀ value other, agree value other →
      Matched after first second (next value) (nextOther other)) :
    Matched after first second (left >>= next) (right >>= nextOther) := by
  intro memory faults
  rcases opening memory faults with
    ⟨remaining, ⟨error, failed, failedToo⟩ | ⟨value, other, agrees, ran, ranToo⟩⟩
  · exact ⟨remaining, Or.inl ⟨error, bind_error failed, bind_error failedToo⟩⟩
  · rcases rest value other agrees memory remaining with ⟨last, ends⟩
    exact ⟨last, by rwa [bind_ok ran, bind_ok ranToo]⟩

theorem matched_mapErr {left : Sql Database Memory Inner α} {right : Sql Database Memory Inner β}
    {wrap : Inner → Error} (inner : Matched agree first second left right) :
    Matched agree first second (mapErr wrap left) (mapErr wrap right) := by
  intro memory faults
  rcases inner memory faults with
    ⟨remaining, ⟨error, failed, failedToo⟩ | ⟨value, other, agrees, ran, ranToo⟩⟩
  · exact ⟨remaining, Or.inl ⟨wrap error, mapErr_apply failed, mapErr_apply failedToo⟩⟩
  · exact ⟨remaining, Or.inr ⟨value, other, agrees, mapErr_apply ran, mapErr_apply ranToo⟩⟩

/-- What a program that only looks returns is what it returns when no statement fails. -/
theorem Looks.matched {program : Sql Database Memory Error α} (looks : Looks program)
    (alike : Matched Eq first second program program) :
    Matched (fun value other => other = value ∧ ∃ memory, Answers program first memory value)
      first second program program := by
  intro memory faults
  rcases alike memory faults with ⟨remaining, failed | ⟨value, other, rfl, ran, ranToo⟩⟩
  · exact ⟨remaining, Or.inl failed⟩
  · exact ⟨remaining, Or.inr ⟨value, value, ⟨rfl, memory, (looks.answers ran).1⟩, ran, ranToo⟩⟩

/-- Runs that are matched have one result, where values that agree are equal. -/
theorem Matched.result_eq {left right : Sql Database Memory Error α}
    (alike : Matched Eq first second left right) (memory : Memory)
    (faults : List (Option String)) :
    (left ⟨first, memory, faults⟩).1 = (right ⟨second, memory, faults⟩).1 := by
  rcases alike memory faults with ⟨_, ⟨_, failed, failedToo⟩ | ⟨_, _, rfl, ran, ranToo⟩⟩
  · rw [failed, failedToo]
  · rw [ran, ranToo]

end Matched

end Annex.Sql
