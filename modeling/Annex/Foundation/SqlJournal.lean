import Mathlib.Data.List.Nodup
import Annex.Foundation.SqlAnswer
import Annex.Foundation.SqlFrame

namespace Annex.Sql

/-! Running a program on a part of a database. -/

variable {Whole Part Memory Error α γ : Type}

/-- Run a program on the part that `read` gives, and write the part back. -/
def onPart (read : Whole → Part) (write : Part → Whole → Whole)
    (program : Sql Part Memory Error α) : Sql Whole Memory Error α :=
  fun session =>
    let ran := program ⟨read session.database, session.memory, session.faults⟩
    (ran.1, ⟨write ran.2.database session.database, ran.2.memory, ran.2.faults⟩)

/-- Run a program with the part of the memory that `read` gives, and write the part back. -/
def inMemory {Whole Part Database Error α : Type} (read : Whole → Part)
    (write : Part → Whole → Whole) (program : Sql Database Part Error α) :
    Sql Database Whole Error α :=
  fun session =>
    let ran := program ⟨session.database, read session.memory, session.faults⟩
    (ran.1, ⟨ran.2.database, write ran.2.memory session.memory, ran.2.faults⟩)

section Rules

variable {read : Whole → Part} {write : Part → Whole → Whole}
  {program : Sql Part Memory Error α}

/-- What the part's program keeps of every way the part is written back, the whole keeps. -/
theorem keeps_onPart {view : Whole → γ} (law : ∀ database, write (read database) database =
      database)
    (kept : ∀ database, Keeps (fun part => view (write part database)) program) :
    Keeps view (onPart read write program) := by
  intro value session held
  apply kept session.database value ⟨read session.database, session.memory, session.faults⟩
  exact (congrArg view (law session.database)).trans held

theorem returns_onPart {session : Session Whole Memory} {spent : Nat}
    (returns : Returns program ⟨read session.database, session.memory, session.faults⟩ spent) :
    Returns (onPart read write program) session spent := by
  rcases returns with ⟨value, part, memory, ran⟩
  refine ⟨value, write part session.database, memory, ?_⟩
  simp only [onPart, ran]

/-- A program that only looks at a part only looks at the whole. -/
theorem looks_onPart (law : ∀ database, write (read database) database = database)
    (looks : Looks program) : Looks (onPart read write program) := by
  intro database memory
  rcases looks (read database) memory with ⟨result, ran, faulty⟩
  refine ⟨result, by simp only [onPart, ran, law], fun faults => ?_⟩
  rcases faulty faults with ⟨rest, same | ⟨error, failed⟩⟩
  · exact ⟨rest, Or.inl (by simp only [onPart, same, law])⟩
  · exact ⟨rest, Or.inr ⟨error, by simp only [onPart, failed, law]⟩⟩

theorem answers_onPart (law : ∀ database, write (read database) database = database)
    {whole : Whole} {memory : Memory} {value : α}
    (answers : Answers program (read whole) memory value) :
    Answers (onPart read write program) whole memory value := by
  rw [Answers] at answers
  simp only [Answers, onPart, answers, law]

/-- Where writing a part back takes the place of what was written before. -/
theorem onPart_bind {next : α → Sql Part Memory Error γ}
    (readBack : ∀ part whole, read (write part whole) = part)
    (overwrite : ∀ part other whole, write part (write other whole) = write part whole) :
    onPart read write (program >>= next) =
      onPart read write program >>= fun value => onPart read write (next value) := by
  funext session
  simp only [onPart, bind_apply]
  rcases program ⟨read session.database, session.memory, session.faults⟩ with
    ⟨_ | value, after⟩
  · rfl
  · dsimp only
    rw [readBack, overwrite]

theorem onPart_ofExcept (result : Except Error α)
    (unchanged : ∀ whole, write (read whole) whole = whole) :
    onPart read write (ofExcept result : Sql Part Memory Error α) = ofExcept result := by
  funext session
  simp only [onPart, ofExcept, unchanged]

end Rules

section MemoryRules

variable {Database : Type} {read : Whole → Part} {write : Part → Whole → Whole}
  {program : Sql Database Part Error α}

theorem inMemory_bind {next : α → Sql Database Part Error γ}
    (readBack : ∀ part whole, read (write part whole) = part)
    (overwrite : ∀ part other whole, write part (write other whole) = write part whole) :
    inMemory read write (program >>= next) =
      inMemory read write program >>= fun value => inMemory read write (next value) := by
  funext session
  simp only [inMemory, bind_apply]
  rcases program ⟨session.database, read session.memory, session.faults⟩ with
    ⟨_ | value, after⟩
  · rfl
  · dsimp only
    rw [readBack, overwrite]

theorem inMemory_ofExcept (result : Except Error α)
    (unchanged : ∀ whole, write (read whole) whole = whole) :
    inMemory read write (ofExcept result : Sql Database Part Error α) = ofExcept result := by
  funext session
  simp only [inMemory, ofExcept, unchanged]

end MemoryRules

end Annex.Sql

namespace Annex

/-! A log in the database, and what a process announces of it. An entry is announced as soon
as it is written, before the transaction it is written in has been committed. -/

/-- A log whose entries have keys, and what has been announced. -/
structure Journal (Database Memory Entry Key : Type) where
  logged : Database → List Entry
  announced : Memory → List Entry
  key : Entry → Key

namespace Journal

variable {Database Memory Whole Extended Entry Key : Type} {key : Entry → Key}
  {log told new more : List Entry}

/-- The journal of a part of the database and a part of the memory. -/
def comap (journal : Journal Database Memory Entry Key) (database : Whole → Database)
    (memory : Extended → Memory) : Journal Whole Extended Entry Key where
  logged := journal.logged ∘ database
  announced := journal.announced ∘ memory
  key := journal.key

/-- The entries have keys of their own, which the log does not have yet. -/
structure Fresh (key : Entry → Key) (log new : List Entry) : Prop where
  absent : ∀ entry ∈ new, ∀ old ∈ log, key old ≠ key entry
  distinct : (new.map key).Nodup

/-- What has been announced is in the log, each key once. -/
structure Agrees (key : Entry → Key) (log told : List Entry) : Prop where
  logged : ∀ entry ∈ told, entry ∈ log
  distinct : (told.map key).Nodup

theorem fresh_nil : Fresh key log [] where
  absent _ member := nomatch member
  distinct := List.nodup_nil

theorem fresh_singleton {entry : Entry} (absent : ∀ old ∈ log, key old ≠ key entry) :
    Fresh key log [entry] where
  absent other member old oldMember := by
    rw [List.mem_singleton.mp member]
    exact absent old oldMember
  distinct := List.nodup_singleton _

theorem Fresh.append (first : Fresh key log new) (second : Fresh key (log ++ new) more) :
    Fresh key log (new ++ more) := by
  constructor
  · intro entry member old oldMember
    rcases List.mem_append.mp member with member | member
    · exact first.absent entry member old oldMember
    · exact second.absent entry member old (List.mem_append_left _ oldMember)
  · rw [List.map_append]
    apply List.nodup_append.mpr
    refine ⟨first.distinct, second.distinct, ?_⟩
    intro left leftMember right rightMember
    rcases List.mem_map.mp leftMember with ⟨earlier, earlierMember, isLeft⟩
    rcases List.mem_map.mp rightMember with ⟨later, laterMember, isRight⟩
    rw [← isLeft, ← isRight]
    exact second.absent later laterMember earlier (List.mem_append_right _ earlierMember)

/-- Entries that are written and announced keep the announcements in step with the log. -/
theorem Agrees.append (agrees : Agrees key log told) (fresh : Fresh key log new) :
    Agrees key (log ++ new) (told ++ new) := by
  constructor
  · intro entry member
    rcases List.mem_append.mp member with member | member
    · exact List.mem_append_left _ (agrees.logged entry member)
    · exact List.mem_append_right _ member
  · rw [List.map_append]
    apply List.nodup_append.mpr
    refine ⟨agrees.distinct, fresh.distinct, ?_⟩
    intro left leftMember right rightMember
    rcases List.mem_map.mp leftMember with ⟨earlier, earlierMember, isLeft⟩
    rcases List.mem_map.mp rightMember with ⟨later, laterMember, isRight⟩
    rw [← isLeft, ← isRight]
    exact fresh.absent later laterMember earlier (agrees.logged earlier earlierMember)

/-- Entries that are announced and not written leave an announcement without an entry. -/
theorem Fresh.lost (fresh : Fresh key log new) (announced : new ≠ []) :
    ∃ entry ∈ told ++ new, ∀ old ∈ log, key old ≠ key entry := by
  rcases List.exists_mem_of_ne_nil new announced with ⟨entry, member⟩
  exact ⟨entry, List.mem_append_right _ member, fresh.absent entry member⟩

/-- The step has written and announced the entries. -/
structure Grows (journal : Journal Database Memory Entry Key)
    (before after : Session Database Memory) (new : List Entry) : Prop where
  fresh : Fresh journal.key (journal.logged before.database) new
  logged : journal.logged after.database = journal.logged before.database ++ new
  announced : journal.announced after.memory = journal.announced before.memory ++ new

variable {journal : Journal Database Memory Entry Key}
  {before middle after : Session Database Memory}

theorem grows_nil (logged : journal.logged after.database = journal.logged before.database)
    (announced : journal.announced after.memory = journal.announced before.memory) :
    journal.Grows before after [] where
  fresh := fresh_nil
  logged := by rw [logged, List.append_nil]
  announced := by rw [announced, List.append_nil]

theorem Grows.trans (first : journal.Grows before middle new)
    (second : journal.Grows middle after more) :
    journal.Grows before after (new ++ more) where
  fresh := first.fresh.append (first.logged ▸ second.fresh)
  logged := by rw [second.logged, first.logged, List.append_assoc]
  announced := by rw [second.announced, first.announced, List.append_assoc]

end Journal

namespace Sql

variable {Database Memory Whole Extended Entry Key Error Inner α β γ : Type}

/-- No run of the program changes the view of the memory. -/
def KeepsMemory (view : Memory → γ) (program : Sql Database Memory Error α) : Prop :=
  ∀ session, view (program session).2.memory = view session.memory

section KeepsMemory

variable {view : Memory → γ}

theorem Reads.keepsMemory {program : Sql Database Memory Error α} (reads : Reads program) :
    KeepsMemory view program := by
  intro session
  rw [(reads session).2]

theorem keepsMemory_remember {change : Memory → Memory}
    (kept : ∀ memory, view (change memory) = view memory) :
    KeepsMemory view (remember change : Sql Database Memory Error Unit) :=
  fun session => kept session.memory

theorem keepsMemory_bind {program : Sql Database Memory Error β}
    {next : β → Sql Database Memory Error α} (first : KeepsMemory view program)
    (rest : ∀ value, KeepsMemory view (next value)) :
    KeepsMemory view (program >>= next) := by
  intro session
  have kept := first session
  rw [bind_apply]
  rcases ran : program session with ⟨_ | value, after⟩
  · rw [ran] at kept
    exact kept
  · rw [ran] at kept
    exact (rest value after).trans kept

theorem keepsMemory_statement (wrap : DbError → Error)
    (effect : Database → Except DbError (α × Database)) :
    KeepsMemory view (statement wrap effect : Sql Database Memory Error α) := by
  intro session
  unfold statement
  dsimp only
  cases session.faults.head?.join with
  | some text => rfl
  | none => cases effect session.database <;> rfl

theorem keepsMemory_execute (wrap : DbError → Error)
    (write : Database → Except DbError Database) :
    KeepsMemory view (execute wrap write : Sql Database Memory Error Unit) :=
  keepsMemory_statement _ _

theorem keepsMemory_transaction {wrapBegin wrapCommit : DbError → Error}
    {body : Sql Database Memory Error α} (kept : KeepsMemory view body) :
    KeepsMemory view (transaction wrapBegin wrapCommit body) := by
  intro session
  have ensured : Ensures (transaction wrapBegin wrapCommit body) session.database
      session.memory fun _ _ after => view after = view session.memory := by
    apply ensures_transaction
    · exact fun text => rfl
    · intro faults
      have held := kept ⟨session.database, session.memory, faults⟩
      cases (body ⟨session.database, session.memory, faults⟩).1 with
      | ok value => exact ⟨held, fun text => held⟩
      | error error => exact held
  exact ensured session.faults

end KeepsMemory

/-- Whatever fails, the program announces what it writes to the log. -/
def Records (journal : Journal Database Memory Entry Key)
    (program : Sql Database Memory Error α) : Prop :=
  ∀ session, ∃ new, journal.Grows session (program session).2 new

section Records

variable {journal : Journal Database Memory Entry Key}

/-- A program that touches neither the log nor the announcements. -/
theorem records_of_keeps {program : Sql Database Memory Error α}
    (logged : Keeps journal.logged program)
    (announced : KeepsMemory journal.announced program) : Records journal program :=
  fun session => ⟨[], Journal.grows_nil (logged _ session rfl) (announced session)⟩

theorem Reads.records {program : Sql Database Memory Error α} (reads : Reads program) :
    Records journal program :=
  records_of_keeps reads.keeps reads.keepsMemory

theorem records_bind {program : Sql Database Memory Error β}
    {next : β → Sql Database Memory Error α} (first : Records journal program)
    (rest : ∀ value, Records journal (next value)) : Records journal (program >>= next) := by
  intro session
  rcases first session with ⟨new, grows⟩
  rw [bind_apply]
  rcases ran : program session with ⟨_ | value, after⟩
  · rw [ran] at grows
    exact ⟨new, grows⟩
  · rw [ran] at grows
    rcases rest value after with ⟨more, later⟩
    exact ⟨new ++ more, grows.trans later⟩

theorem records_mapErr {wrap : Inner → Error} {program : Sql Database Memory Inner α}
    (records : Records journal program) : Records journal (mapErr wrap program) := by
  intro session
  rcases records session with ⟨new, grows⟩
  rw [mapErr_apply (rfl : program session = ((program session).1, (program session).2))]
  exact ⟨new, grows⟩

theorem records_onPart {read : Whole → Database} {write : Database → Whole → Whole}
    {program : Sql Database Memory Error α}
    (law : ∀ part whole, read (write part whole) = part) (records : Records journal program) :
    Records (journal.comap read id) (onPart read write program) := by
  intro session
  rcases records ⟨read session.database, session.memory, session.faults⟩ with
    ⟨new, fresh, logged, announced⟩
  refine ⟨new, fresh, ?_, announced⟩
  exact (congrArg journal.logged (law _ _)).trans logged

theorem records_inMemory {read : Extended → Memory} {write : Memory → Extended → Extended}
    {program : Sql Database Memory Error α}
    (law : ∀ part whole, read (write part whole) = part) (records : Records journal program) :
    Records (journal.comap id read) (inMemory read write program) := by
  intro session
  rcases records ⟨session.database, read session.memory, session.faults⟩ with
    ⟨new, fresh, logged, announced⟩
  refine ⟨new, fresh, logged, ?_⟩
  exact (congrArg journal.announced (law _ _)).trans announced

end Records

end Sql

end Annex
