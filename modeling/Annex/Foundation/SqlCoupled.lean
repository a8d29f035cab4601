import Annex.Foundation.SqlAnswer

namespace Annex.Sql

/-! Two runs side by side, from two databases, with the same memory and the same
statements failing. -/

variable {Database Memory Message Error Inner α β : Type} {left right : Database}
  {memory : Memory}

/-- The runs end with the same memory and the same faults left, and the postcondition holds
of both results and both databases. -/
def Coupled (first second : Sql Database Memory Error α) (left right : Database)
    (memory : Memory)
    (post : Except Error α → Except Error α → Database → Database → Memory → Prop) :
    Prop :=
  ∀ faults, ∃ leftResult rightResult leftAfter rightAfter after rest,
    first ⟨left, memory, faults⟩ = (leftResult, ⟨leftAfter, after, rest⟩) ∧
      second ⟨right, memory, faults⟩ = (rightResult, ⟨rightAfter, after, rest⟩) ∧
      post leftResult rightResult leftAfter rightAfter after

/-- What the first parts of two programs must end in for the wholes to end in the
postcondition: both go on, or both stop. -/
def bothThen (next other : β → Sql Database Memory Error α)
    (post : Except Error α → Except Error α → Database → Database → Memory → Prop) :
    Except Error β → Except Error β → Database → Database → Memory → Prop
  | .ok value, .ok otherValue, left, right, memory =>
      Coupled (next value) (other otherValue) left right memory post
  | .error error, .error otherError, left, right, memory =>
      post (.error error) (.error otherError) left right memory
  | _, _, _, _, _ => False

section Coupled

variable {post : Except Error α → Except Error α → Database → Database → Memory → Prop}

theorem coupled_ofExcept {result other : Except Error α}
    (holds : post result other left right memory) :
    Coupled (ofExcept result) (ofExcept other) left right memory post :=
  fun faults => ⟨result, other, left, right, memory, faults, rfl, rfl, holds⟩

theorem coupled_pure {value other : α}
    (holds : post (.ok value) (.ok other) left right memory) :
    Coupled (pure value) (pure other) left right memory post :=
  coupled_ofExcept holds

theorem coupled_mono {first second : Sql Database Memory Error α}
    {weaker : Except Error α → Except Error α → Database → Database → Memory → Prop}
    (implies : ∀ result other leftAfter rightAfter after,
      post result other leftAfter rightAfter after →
        weaker result other leftAfter rightAfter after)
    (holds : Coupled first second left right memory post) :
    Coupled first second left right memory weaker := by
  intro faults
  rcases holds faults with ⟨result, other, leftAfter, rightAfter, after, rest, ran, ranOther,
    held⟩
  exact ⟨result, other, leftAfter, rightAfter, after, rest, ran, ranOther,
    implies _ _ _ _ _ held⟩

theorem coupled_bind {first second : Sql Database Memory Error β}
    {next other : β → Sql Database Memory Error α}
    (holds : Coupled first second left right memory (bothThen next other post)) :
    Coupled (first >>= next) (second >>= other) left right memory post := by
  intro faults
  rcases holds faults with ⟨result, otherResult, leftAfter, rightAfter, after, rest, ran,
    ranOther, held⟩
  rw [bind_apply, bind_apply, ran, ranOther]
  cases result with
  | ok value =>
      cases otherResult with
      | ok otherValue => exact held rest
      | error error => exact held.elim
  | error error =>
      cases otherResult with
      | ok otherValue => exact held.elim
      | error otherError =>
          exact ⟨_, _, leftAfter, rightAfter, after, rest, rfl, rfl, held⟩

theorem coupled_statement {wrap : DbError → Error}
    {effect other : Database → Except DbError (α × Database)}
    (faulty : ∀ text, post (.error (wrap (.failure text))) (.error (wrap (.failure text)))
      left right memory)
    (ran : (∃ value leftAfter otherValue rightAfter, effect left = .ok (value, leftAfter) ∧
        other right = .ok (otherValue, rightAfter) ∧
        post (.ok value) (.ok otherValue) leftAfter rightAfter memory) ∨
      ∃ error otherError, effect left = .error error ∧ other right = .error otherError ∧
        post (.error (wrap error)) (.error (wrap otherError)) left right memory) :
    Coupled (statement wrap effect) (statement wrap other) left right memory post := by
  intro faults
  cases due : faultAt faults 0 with
  | some text =>
      exact ⟨_, _, left, right, memory, faults.tail, statement_faulty due,
        statement_faulty due, faulty text⟩
  | none =>
      rcases ran with ⟨value, leftAfter, otherValue, rightAfter, done, otherDone, holds⟩ |
        ⟨error, otherError, refused, otherRefused, holds⟩
      · exact ⟨_, _, leftAfter, rightAfter, memory, faults.tail, statement_done due done,
          statement_done due otherDone, holds⟩
      · exact ⟨_, _, left, right, memory, faults.tail, statement_refused due refused,
          statement_refused due otherRefused, holds⟩

theorem coupled_execute {wrap : DbError → Error}
    {write other : Database → Except DbError Database}
    {post : Except Error Unit → Except Error Unit → Database → Database → Memory → Prop}
    (faulty : ∀ text, post (.error (wrap (.failure text))) (.error (wrap (.failure text)))
      left right memory)
    (ran : (∃ leftAfter rightAfter, write left = .ok leftAfter ∧
        other right = .ok rightAfter ∧ post (.ok ()) (.ok ()) leftAfter rightAfter memory) ∨
      ∃ error otherError, write left = .error error ∧ other right = .error otherError ∧
        post (.error (wrap error)) (.error (wrap otherError)) left right memory) :
    Coupled (execute wrap write) (execute wrap other) left right memory post := by
  apply coupled_statement faulty
  rcases ran with ⟨leftAfter, rightAfter, done, otherDone, holds⟩ |
    ⟨error, otherError, refused, otherRefused, holds⟩
  · exact Or.inl ⟨(), leftAfter, (), rightAfter, by rw [done], by rw [otherDone], holds⟩
  · exact Or.inr ⟨error, otherError, by rw [refused], by rw [otherRefused], holds⟩

theorem coupled_query {wrap : DbError → Error} {read other : Database → Except DbError α}
    (faulty : ∀ text, post (.error (wrap (.failure text))) (.error (wrap (.failure text)))
      left right memory)
    (ran : ∃ value otherValue, read left = .ok value ∧ other right = .ok otherValue ∧
      post (.ok value) (.ok otherValue) left right memory) :
    Coupled (query wrap read) (query wrap other) left right memory post := by
  rcases ran with ⟨value, otherValue, found, otherFound, holds⟩
  exact coupled_statement faulty
    (Or.inl ⟨value, left, otherValue, right, by rw [found], by rw [otherFound], holds⟩)

theorem coupled_attempt {first second : Sql Database Memory Inner β}
    {post : Except Error (Except Inner β) → Except Error (Except Inner β) → Database →
      Database → Memory → Prop}
    (holds : Coupled first second left right memory
      fun result other leftAfter rightAfter after =>
        post (.ok result) (.ok other) leftAfter rightAfter after) :
    Coupled (attempt first) (attempt second) left right memory post := by
  intro faults
  rcases holds faults with ⟨result, other, leftAfter, rightAfter, after, rest, ran, ranOther,
    held⟩
  refine ⟨_, _, leftAfter, rightAfter, after, rest, ?_, ?_, held⟩
  · simp only [attempt, ran]
  · simp only [attempt, ranOther]

theorem coupled_mapErr {first second : Sql Database Memory Inner α} {wrap : Inner → Error}
    (holds : Coupled first second left right memory
      fun result other leftAfter rightAfter after =>
        post (result.mapError wrap) (other.mapError wrap) leftAfter rightAfter after) :
    Coupled (mapErr wrap first) (mapErr wrap second) left right memory post := by
  intro faults
  rcases holds faults with ⟨result, other, leftAfter, rightAfter, after, rest, ran, ranOther,
    held⟩
  exact ⟨_, _, leftAfter, rightAfter, after, rest, mapErr_apply ran, mapErr_apply ranOther,
    held⟩

theorem coupled_remember {change : Memory → Memory}
    {post : Except Error Unit → Except Error Unit → Database → Database → Memory → Prop}
    (holds : post (.ok ()) (.ok ()) left right (change memory)) :
    Coupled (remember change) (remember change) left right memory post :=
  fun faults => ⟨_, _, left, right, change memory, faults, rfl, rfl, holds⟩

theorem coupled_readMemory
    {post : Except Error Memory → Except Error Memory → Database → Database → Memory → Prop}
    (holds : post (.ok memory) (.ok memory) left right memory) :
    Coupled readMemory readMemory left right memory post :=
  fun faults => ⟨_, _, left, right, memory, faults, rfl, rfl, holds⟩

/-- A program that looks alike at both databases, and what comes after it. -/
theorem coupled_bind_same {program : Sql Database Memory Error β}
    {next other : β → Sql Database Memory Error α} (looks : Looks program)
    (same : SameAnswer program left right)
    (refused : ∀ error, post (.error error) (.error error) left right memory)
    (answered : ∀ value, Answers program left memory value →
      Coupled (next value) (other value) left right memory post) :
    Coupled (program >>= next) (program >>= other) left right memory post := by
  refine coupled_bind fun faults => ?_
  rcases same memory faults with ⟨result, rest, onLeft, onRight⟩
  refine ⟨result, result, left, right, memory, rest, onLeft, onRight, ?_⟩
  cases result with
  | error error => exact refused error
  | ok value =>
      rcases looks left memory with ⟨answer, ran, faulty⟩
      rcases faulty faults with ⟨left, agrees | ⟨error, failed⟩⟩
      · rw [onLeft] at agrees
        cases agrees
        exact answered value ran
      · rw [onLeft] at failed
        cases failed

/-- Two transactions: both commit, or both put their database back. -/
theorem coupled_transaction {wrapBegin wrapCommit : DbError → Error}
    {first second : Sql Database Memory Error α}
    (faulty : ∀ text, post (.error (wrapBegin (.failure text)))
      (.error (wrapBegin (.failure text))) left right memory)
    (holds : Coupled first second left right memory
      fun result other leftAfter rightAfter after =>
        match result, other with
        | .ok value, .ok otherValue =>
            post (.ok value) (.ok otherValue) leftAfter rightAfter after ∧
              ∀ text, post (.error (wrapCommit (.failure text)))
                (.error (wrapCommit (.failure text))) left right after
        | .error error, .error otherError =>
            post (.error error) (.error otherError) left right after
        | _, _ => False) :
    Coupled (transaction wrapBegin wrapCommit first) (transaction wrapBegin wrapCommit second)
      left right memory post := by
  intro faults
  have begins : ∀ (wrap : DbError → Error) (memory : Memory) (faults : List (Option String)),
      (∃ text, ∀ database : Database, connect wrap ⟨database, memory, faults⟩ =
        (.error (wrap (.failure text)), ⟨database, memory, faults.tail⟩)) ∨
      ∀ database : Database, connect wrap ⟨database, memory, faults⟩ =
        (.ok (), ⟨database, memory, faults.tail⟩) := by
    intro wrap memory faults
    cases due : faultAt faults 0 with
    | some text => exact Or.inl ⟨text, fun database => connect_faulty due⟩
    | none => exact Or.inr fun database => connect_done due
  unfold transaction
  rcases begins wrapBegin memory faults with ⟨text, begun⟩ | begun
  · simp only [begun]
    exact ⟨_, _, left, right, memory, _, rfl, rfl, faulty text⟩
  · simp only [begun]
    rcases holds faults.tail with ⟨result, other, leftAfter, rightAfter, after, rest, ran,
      ranOther, held⟩
    simp only [ran, ranOther]
    rcases result with error | value <;> rcases other with otherError | otherValue
    · exact ⟨_, _, left, right, after, rest, rfl, rfl, held⟩
    · exact held.elim
    · exact held.elim
    · rcases begins wrapCommit after rest with ⟨text, committed⟩ | committed
      · simp only [committed]
        exact ⟨_, _, left, right, after, _, rfl, rfl, held.2 text⟩
      · simp only [committed]
        exact ⟨_, _, leftAfter, rightAfter, after, _, rfl, rfl, held.1⟩

end Coupled

/-- From related databases the program answers the same and leaves related databases. -/
def Lockstep (related : Database → Database → Prop) (program : Sql Database Memory Error α) :
    Prop :=
  ∀ left right memory, related left right → Coupled program program left right memory
    fun result other leftAfter rightAfter _ => result = other ∧ related leftAfter rightAfter

section Lockstep

variable {related : Database → Database → Prop}

theorem lockstep_ofExcept (result : Except Error α) :
    Lockstep related (ofExcept result : Sql Database Memory Error α) :=
  fun _ _ _ holds => coupled_ofExcept ⟨rfl, holds⟩

theorem lockstep_pure (value : α) :
    Lockstep related (pure value : Sql Database Memory Error α) :=
  lockstep_ofExcept (.ok value)

theorem lockstep_check (condition : Prop) [Decidable condition] (error : Error) :
    Lockstep related (check condition error : Sql Database Memory Error Unit) := by
  unfold check
  split
  · exact lockstep_pure ()
  · exact lockstep_ofExcept (.error error)

theorem lockstep_readMemory :
    Lockstep related (readMemory : Sql Database Memory Error Memory) :=
  fun _ _ _ holds => coupled_readMemory ⟨rfl, holds⟩

theorem lockstep_remember (change : Memory → Memory) :
    Lockstep related (remember change : Sql Database Memory Error Unit) :=
  fun _ _ _ holds => coupled_remember ⟨rfl, holds⟩

theorem lockstep_bind {program : Sql Database Memory Error β}
    {next : β → Sql Database Memory Error α} (first : Lockstep related program)
    (rest : ∀ value, Lockstep related (next value)) : Lockstep related (program >>= next) := by
  intro left right memory holds
  refine coupled_bind (coupled_mono ?_ (first left right memory holds))
  rintro result _ leftAfter rightAfter after ⟨rfl, held⟩
  cases result with
  | ok value => exact rest value leftAfter rightAfter after held
  | error error => exact ⟨rfl, held⟩

theorem lockstep_attempt {program : Sql Database Memory Inner α}
    (lockstep : Lockstep related program) :
    Lockstep related (attempt program : Sql Database Memory Error (Except Inner α)) := by
  intro left right memory holds
  refine coupled_attempt (coupled_mono ?_ (lockstep left right memory holds))
  rintro result _ leftAfter rightAfter _ ⟨rfl, held⟩
  exact ⟨rfl, held⟩

theorem lockstep_mapErr {wrap : Inner → Error} {program : Sql Database Memory Inner α}
    (lockstep : Lockstep related program) : Lockstep related (mapErr wrap program) :=
  lockstep_bind (lockstep_attempt lockstep) fun _ => lockstep_ofExcept _

/-- A statement whose effects on related databases are the same value and related
databases, or the same error. -/
theorem lockstep_statement {wrap : DbError → Error}
    {effect : Database → Except DbError (α × Database)}
    (ran : ∀ left right, related left right →
      (∃ value leftAfter rightAfter, effect left = .ok (value, leftAfter) ∧
        effect right = .ok (value, rightAfter) ∧ related leftAfter rightAfter) ∨
      ∃ error, effect left = .error error ∧ effect right = .error error) :
    Lockstep related (statement wrap effect : Sql Database Memory Error α) := by
  intro left right memory holds
  apply coupled_statement (fun _ => ⟨rfl, holds⟩)
  rcases ran left right holds with ⟨value, leftAfter, rightAfter, done, otherDone, held⟩ |
    ⟨error, refused, otherRefused⟩
  · exact Or.inl ⟨value, leftAfter, value, rightAfter, done, otherDone, rfl, held⟩
  · exact Or.inr ⟨error, error, refused, otherRefused, rfl, holds⟩

theorem lockstep_execute {wrap : DbError → Error}
    {write : Database → Except DbError Database}
    (ran : ∀ left right, related left right →
      (∃ leftAfter rightAfter, write left = .ok leftAfter ∧ write right = .ok rightAfter ∧
        related leftAfter rightAfter) ∨
      ∃ error, write left = .error error ∧ write right = .error error) :
    Lockstep related (execute wrap write : Sql Database Memory Error Unit) := by
  refine lockstep_statement fun left right holds => ?_
  rcases ran left right holds with ⟨leftAfter, rightAfter, done, otherDone, held⟩ |
    ⟨error, refused, otherRefused⟩
  · exact Or.inl ⟨(), leftAfter, rightAfter, by rw [done], by rw [otherDone], held⟩
  · exact Or.inr ⟨error, by rw [refused], by rw [otherRefused]⟩

theorem lockstep_transaction {wrapBegin wrapCommit : DbError → Error}
    {body : Sql Database Memory Error α} (lockstep : Lockstep related body) :
    Lockstep related (transaction wrapBegin wrapCommit body) := by
  intro left right memory holds
  refine coupled_transaction (fun _ => ⟨rfl, holds⟩)
    (coupled_mono ?_ (lockstep left right memory holds))
  rintro result _ leftAfter rightAfter after ⟨rfl, held⟩
  cases result with
  | ok value => exact ⟨⟨rfl, held⟩, fun _ => ⟨rfl, holds⟩⟩
  | error error => exact ⟨rfl, holds⟩

end Lockstep

/-- From related databases the program fails alike or not at all, and leaves related
databases; what it returns may differ. -/
def Parallel (related : Database → Database → Prop) (program : Sql Database Memory Error α) :
    Prop :=
  ∀ left right memory, related left right → Coupled program program left right memory
    fun result other leftAfter rightAfter _ =>
      result.map (fun _ => ()) = other.map (fun _ => ()) ∧ related leftAfter rightAfter

section Parallel

variable {related : Database → Database → Prop}

theorem parallel_mapErr {wrap : Inner → Error} {program : Sql Database Memory Inner α}
    (parallel : Parallel related program) : Parallel related (mapErr wrap program) := by
  intro left right memory holds
  refine coupled_mapErr (coupled_mono ?_ (parallel left right memory holds))
  rintro (error | value) (other | otherValue) leftAfter rightAfter _ ⟨alike, held⟩
  · cases alike
    exact ⟨rfl, held⟩
  · cases alike
  · cases alike
  · exact ⟨rfl, held⟩

/-- Nothing depends on a value that is not used. -/
theorem lockstep_bind_discard {program : Sql Database Memory Error β}
    {next : Sql Database Memory Error α} (first : Parallel related program)
    (rest : Lockstep related next) : Lockstep related (program >>= fun _ => next) := by
  intro left right memory holds
  refine coupled_bind (coupled_mono ?_ (first left right memory holds))
  rintro (error | value) (other | otherValue) leftAfter rightAfter after ⟨alike, held⟩
  · cases alike
    exact ⟨rfl, held⟩
  · cases alike
  · cases alike
  · exact rest leftAfter rightAfter after held

end Parallel

end Annex.Sql
