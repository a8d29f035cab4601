import Annex.Foundation.Sql

namespace Annex.Sql

/-! What a program leaves alone, whatever statements fail and however it ends. -/

variable {Database Memory Message Error Inner α β γ : Type}

/-- No run of the program breaks the invariant of the database. -/
def Preserves (invariant : Database → Prop) (program : Sql Database Memory Error α) :
    Prop :=
  ∀ session, invariant session.database → invariant (program session).2.database

/-- No run of the program changes the view of the database. -/
def Keeps (view : Database → γ) (program : Sql Database Memory Error α) : Prop :=
  ∀ value, Preserves (fun database => view database = value) program

/-- No run of the program changes the database or sends or stores anything. -/
def Reads (program : Sql Database Memory Error α) : Prop :=
  ∀ session, (program session).2.database = session.database ∧
    (program session).2.memory = session.memory

section Reads

theorem reads_pure (value : α) : Reads (pure value : Sql Database Memory Error α) :=
  fun _ => ⟨rfl, rfl⟩

theorem reads_fail (error : Error) : Reads (fail error : Sql Database Memory Error α) :=
  fun _ => ⟨rfl, rfl⟩

theorem reads_ofExcept (result : Except Error α) :
    Reads (ofExcept result : Sql Database Memory Error α) :=
  fun _ => ⟨rfl, rfl⟩

theorem reads_readMemory : Reads (readMemory : Sql Database Memory Error Memory) :=
  fun _ => ⟨rfl, rfl⟩

theorem reads_require (value : Option α) (error : Error) :
    Reads (require value error : Sql Database Memory Error α) :=
  reads_ofExcept _

theorem reads_orElse (result : Except Inner α) (wrap : Inner → Error) :
    Reads (orElse result wrap : Sql Database Memory Error α) :=
  reads_ofExcept _

theorem reads_check (condition : Prop) [Decidable condition] (error : Error) :
    Reads (check condition error : Sql Database Memory Error Unit) := by
  unfold check
  split
  · exact reads_pure _
  · exact reads_fail _

theorem reads_query (wrap : DbError → Error) (read : Database → Except DbError α) :
    Reads (query wrap read : Sql Database Memory Error α) := by
  intro session
  unfold query statement
  dsimp only
  cases session.faults.head?.join with
  | some text => exact ⟨rfl, rfl⟩
  | none => cases read session.database <;> exact ⟨rfl, rfl⟩

theorem reads_connect (wrap : DbError → Error) :
    Reads (connect wrap : Sql Database Memory Error Unit) :=
  reads_query _ _

end Reads

/-- The program runs no statement: it leaves everything as it is, the faults to come too. -/
def Computes (program : Sql Database Memory Error α) : Prop :=
  ∀ session, (program session).2 = session

section Computes

theorem computes_ofExcept (result : Except Error α) :
    Computes (ofExcept result : Sql Database Memory Error α) :=
  fun _ => rfl

theorem computes_orElse (result : Except Inner α) (wrap : Inner → Error) :
    Computes (orElse result wrap : Sql Database Memory Error α) :=
  computes_ofExcept _

theorem computes_check (condition : Prop) [Decidable condition] (error : Error) :
    Computes (check condition error : Sql Database Memory Error Unit) := by
  intro session
  rw [check_apply]

theorem computes_bind {program : Sql Database Memory Error β}
    {next : β → Sql Database Memory Error α} (first : Computes program)
    (rest : ∀ value, Computes (next value)) : Computes (program >>= next) := by
  intro session
  have stays := first session
  rw [bind_apply]
  rcases ran : program session with ⟨error | value, after⟩
  · rw [ran] at stays
    exact stays
  · rw [ran] at stays
    exact (rest value after).trans stays

theorem faults_query (wrap : DbError → Error) (read : Database → Except DbError α)
    (session : Session Database Memory) :
    (query wrap read session).2.faults = session.faults.tail := by
  unfold query statement
  dsimp only
  cases session.faults.head?.join with
  | some text => rfl
  | none => cases read session.database <;> rfl

/-- A query and what is computed from its answer take one statement. -/
theorem faults_bind_query {wrap : DbError → Error} {read : Database → Except DbError β}
    {next : β → Sql Database Memory Error α} (computes : ∀ value, Computes (next value))
    (session : Session Database Memory) :
    ((query wrap read >>= next) session).2.faults = session.faults.tail := by
  have taken := faults_query wrap read session
  rw [bind_apply]
  rcases ran : query wrap read session with ⟨error | value, after⟩
  · rw [ran] at taken
    exact taken
  · rw [ran] at taken
    exact (congrArg Session.faults (computes value after)).trans taken

end Computes

section Preserves

variable {invariant : Database → Prop}

theorem Reads.preserves {program : Sql Database Memory Error α} (reads : Reads program) :
    Preserves invariant program := by
  intro session holds
  rw [(reads session).1]
  exact holds

theorem preserves_remember (change : Memory → Memory) :
    Preserves invariant (remember change : Sql Database Memory Error Unit) :=
  fun _ holds => holds

theorem preserves_send (message : Message) :
    Preserves invariant (send message : Sql Database (List Message) Error Unit) :=
  fun _ holds => holds

theorem preserves_bind {program : Sql Database Memory Error β}
    {next : β → Sql Database Memory Error α} (first : Preserves invariant program)
    (rest : ∀ value, Preserves invariant (next value)) :
    Preserves invariant (program >>= next) := by
  intro session holds
  rw [bind_apply]
  have held := first session holds
  rcases ran : program session with ⟨_ | value, after⟩
  · simpa [ran] using held
  · rw [ran] at held
    exact rest value after held

theorem preserves_attempt {program : Sql Database Memory Inner α}
    (preserved : Preserves invariant program) :
    Preserves invariant (attempt program : Sql Database Memory Error (Except Inner α)) :=
  preserved

theorem preserves_mapErr {wrap : Inner → Error} {program : Sql Database Memory Inner α}
    (preserved : Preserves invariant program) : Preserves invariant (mapErr wrap program) :=
  preserves_bind (preserves_attempt preserved) fun result =>
    (reads_orElse result wrap).preserves

theorem preserves_statement {wrap : DbError → Error}
    {effect : Database → Except DbError (α × Database)}
    (preserved : ∀ database value changed, effect database = .ok (value, changed) →
      invariant database → invariant changed) :
    Preserves invariant (statement wrap effect : Sql Database Memory Error α) := by
  intro session holds
  unfold statement
  dsimp only
  cases session.faults.head?.join with
  | some text => exact holds
  | none =>
      cases outcome : effect session.database with
      | ok pair => exact preserved _ _ _ outcome holds
      | error error => exact holds

theorem preserves_execute {wrap : DbError → Error}
    {write : Database → Except DbError Database}
    (preserved : ∀ database changed, write database = .ok changed →
      invariant database → invariant changed) :
    Preserves invariant (execute wrap write : Sql Database Memory Error Unit) := by
  apply preserves_statement
  intro database value changed outcome
  cases written : write database with
  | ok found =>
      simp only [written, Except.ok.injEq, Prod.mk.injEq, true_and] at outcome
      exact outcome ▸ preserved _ _ written
  | error error => simp [written] at outcome

theorem preserves_transaction {wrapBegin wrapCommit : DbError → Error}
    {body : Sql Database Memory Error α} (preserved : Preserves invariant body) :
    Preserves invariant (transaction wrapBegin wrapCommit body) := by
  intro session holds
  have ensured : Ensures (transaction wrapBegin wrapCommit body) session.database
      session.memory fun _ changed _ => invariant changed := by
    refine ensures_transaction (fun _ => holds) fun faults => ?_
    have held := preserved ⟨session.database, session.memory, faults⟩ holds
    cases (body ⟨session.database, session.memory, faults⟩).1 with
    | ok value => exact ⟨held, fun _ => holds⟩
    | error error => exact holds
  exact ensured session.faults

end Preserves

section Keeps

variable {view : Database → γ}

theorem Reads.keeps {program : Sql Database Memory Error α} (reads : Reads program) :
    Keeps view program :=
  fun _ => reads.preserves

theorem keeps_send (message : Message) :
    Keeps view (send message : Sql Database (List Message) Error Unit) :=
  fun _ => preserves_send message

theorem keeps_bind {program : Sql Database Memory Error β}
    {next : β → Sql Database Memory Error α} (first : Keeps view program)
    (rest : ∀ value, Keeps view (next value)) : Keeps view (program >>= next) :=
  fun value => preserves_bind (first value) fun result => rest result value

theorem keeps_mapErr {wrap : Inner → Error} {program : Sql Database Memory Inner α}
    (kept : Keeps view program) : Keeps view (mapErr wrap program) :=
  fun value => preserves_mapErr (kept value)

theorem keeps_statement {wrap : DbError → Error}
    {effect : Database → Except DbError (α × Database)}
    (kept : ∀ database value changed, effect database = .ok (value, changed) →
      view changed = view database) :
    Keeps view (statement wrap effect : Sql Database Memory Error α) :=
  fun _ => preserves_statement fun database value changed outcome held =>
    (kept database value changed outcome).trans held

theorem keeps_execute {wrap : DbError → Error}
    {write : Database → Except DbError Database}
    (kept : ∀ database changed, write database = .ok changed →
      view changed = view database) :
    Keeps view (execute wrap write : Sql Database Memory Error Unit) :=
  fun _ => preserves_execute fun database changed written held =>
    (kept database changed written).trans held

theorem keeps_transaction {wrapBegin wrapCommit : DbError → Error}
    {body : Sql Database Memory Error α} (kept : Keeps view body) :
    Keeps view (transaction wrapBegin wrapCommit body) :=
  fun value => preserves_transaction (kept value)

theorem Keeps.ensures {program : Sql Database Memory Error α} (kept : Keeps view program)
    {database : Database} {memory : Memory} :
    Ensures program database memory fun _ changed _ => view changed = view database :=
  fun faults => kept (view database) ⟨database, memory, faults⟩ rfl

/-- What comes after a program that keeps the view starts with the view it started with. -/
theorem Keeps.ensures_bind {program : Sql Database Memory Error β}
    {next : β → Sql Database Memory Error α} {database : Database} {memory : Memory}
    {post : Except Error α → Database → Memory → Prop} (kept : Keeps view program)
    (refused : ∀ error changed after, view changed = view database →
      post (.error error) changed after)
    (rest : ∀ value changed after, view changed = view database →
      Ensures (next value) changed after post) :
    Ensures (program >>= next) database memory post := by
  refine Sql.ensures_bind (ensures_mono ?_ kept.ensures)
  intro result changed after same
  cases result with
  | error error => exact refused error changed after same
  | ok value => exact rest value changed after same

theorem keeps_attempt {program : Sql Database Memory Inner α} (kept : Keeps view program) :
    Keeps view (attempt program : Sql Database Memory Error (Except Inner α)) :=
  fun value => preserves_attempt (kept value)

end Keeps

/-- Whatever statements fail, the program fails with such errors only. -/
def FailsWith (allowed : Error → Prop) (program : Sql Database Memory Error α) : Prop :=
  ∀ session error, (program session).1 = .error error → allowed error

section FailsWith

variable {allowed : Error → Prop}

theorem failsWith_ofExcept {result : Except Error α}
    (refused : ∀ error, result = .error error → allowed error) :
    FailsWith allowed (ofExcept result : Sql Database Memory Error α) :=
  fun _ error failed => refused error failed

theorem failsWith_pure {value : α} :
    FailsWith allowed (pure value : Sql Database Memory Error α) :=
  failsWith_ofExcept fun _ failed => nomatch failed

theorem failsWith_fail {error : Error} (refused : allowed error) :
    FailsWith allowed (fail error : Sql Database Memory Error α) :=
  failsWith_ofExcept fun _ failed => Except.error.inj failed ▸ refused

theorem failsWith_send {message : Message} :
    FailsWith allowed (send message : Sql Database (List Message) Error Unit) :=
  fun _ _ failed => nomatch failed

theorem failsWith_attempt {program : Sql Database Memory Inner α} :
    FailsWith allowed (attempt program : Sql Database Memory Error (Except Inner α)) :=
  fun _ _ failed => nomatch failed

theorem failsWith_require {value : Option α} {error : Error} (refused : allowed error) :
    FailsWith allowed (require value error : Sql Database Memory Error α) := by
  refine failsWith_ofExcept fun other failed => ?_
  cases value with
  | none => exact Except.error.inj failed ▸ refused
  | some found => cases failed

theorem failsWith_check {condition : Prop} [Decidable condition] {error : Error}
    (refused : ¬ condition → allowed error) :
    FailsWith allowed (check condition error : Sql Database Memory Error Unit) := by
  intro session other failed
  rw [check_apply] at failed
  split at failed
  · cases failed
  · next violated => exact Except.error.inj failed ▸ refused violated

theorem failsWith_query {wrap : DbError → Error} {read : Database → Except DbError α}
    (faulty : ∀ text, allowed (wrap (.failure text)))
    (refused : ∀ database error, read database = .error error → allowed (wrap error)) :
    FailsWith allowed (query wrap read : Sql Database Memory Error α) := by
  intro session error failed
  have ensured : Ensures (query wrap read : Sql Database Memory Error α) session.database
      session.memory fun result _ _ => ∀ error, result = .error error → allowed error := by
    refine ensures_query ?_ ?_ ?_
    · rintro text _ ⟨⟩
      exact faulty text
    · rintro value - _ ⟨⟩
    · rintro error found _ ⟨⟩
      exact refused _ error found
  exact ensured session.faults error failed

theorem failsWith_connect {wrap : DbError → Error}
    (faulty : ∀ text, allowed (wrap (.failure text))) :
    FailsWith allowed (connect wrap : Sql Database Memory Error Unit) :=
  failsWith_query faulty fun _ _ failed => nomatch failed

theorem failsWith_bind {program : Sql Database Memory Error β}
    {next : β → Sql Database Memory Error α} (first : FailsWith allowed program)
    (rest : ∀ value, FailsWith allowed (next value)) :
    FailsWith allowed (program >>= next) := by
  intro session error failed
  rw [bind_apply] at failed
  have stopped := first session
  rcases ran : program session with ⟨other | value, after⟩
  · rw [ran] at failed stopped
    exact stopped error (congrArg Except.error (Except.error.inj failed))
  · rw [ran] at failed
    exact rest value after error failed

theorem failsWith_mapErr {wrap : Inner → Error} {program : Sql Database Memory Inner α}
    (inner : FailsWith (fun error => allowed (wrap error)) program) :
    FailsWith allowed (mapErr wrap program) := by
  intro session error failed
  have stopped := inner session
  rcases ran : program session with ⟨other | value, after⟩
  · rw [mapErr_apply ran] at failed
    rw [ran] at stopped
    cases failed
    exact stopped other rfl
  · rw [mapErr_apply ran] at failed
    cases failed

end FailsWith

end Annex.Sql
