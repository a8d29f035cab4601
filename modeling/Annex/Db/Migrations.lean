import Mathlib.Data.List.Nodup
import Annex.Foundation.Execution
import Annex.Foundation.Sql
import Annex.Foundation.Table

namespace Annex.Db

open Sql

/-! The migration runner. It is called again after every restart, and whatever statements fail in
its calls, the migrations it has recorded are those that it has applied, in order. -/

/-- A row of `_annex_migrations`. -/
structure AnnexMigration where
  id : Nat
  name : String
  appliedAt : String
deriving DecidableEq, Repr

instance : Keyed AnnexMigration := ⟨AnnexMigration.id⟩

/-- `_annex_migrations`, once it exists, and the schema, which is everything else. -/
structure MigratedDatabase (Schema : Type) where
  annexMigrations : Option (Table AnnexMigration)
  schema : Schema

/-- A migration. The statements of its script act on the schema only. -/
structure Migration (Schema : Type) where
  name : String
  sql : List (Schema → Except DbError Schema)

inductive MigrationError where
  | executionFailed (name : String) (source : DbError)
  | stateQuery (source : DbError)
deriving DecidableEq, Repr

abbrev Migrator (Schema : Type) := Sql (MigratedDatabase Schema) Unit MigrationError

variable {Schema : Type}

def noSuchTable : DbError := .failure "no such table: _annex_migrations"

/-- The name that a failed bootstrap is reported with. -/
def bootstrapName : String := "_annex_migrations_bootstrap"

def bootstrap : Migrator Schema Unit :=
  execute (.executionFailed bootstrapName) fun database =>
    .ok { database with annexMigrations := some (database.annexMigrations.getD .empty) }

def isApplied (name : String) : Migrator Schema Bool :=
  query .stateQuery fun database =>
    match database.annexMigrations with
    | none => .error noSuchTable
    | some table => .ok (table.rows.any (·.name = name))

/-- The statements of a script, up to the first that fails. -/
def executeBatch (name : String) : List (Schema → Except DbError Schema) → Migrator Schema Unit
  | [] => pure ()
  | statement :: rest => do
      execute (.executionFailed name) fun database =>
        match statement database.schema with
        | .ok schema => .ok { database with schema }
        | .error error => .error error
      executeBatch name rest

def recordMigration (name appliedAt : String) : Migrator Schema Unit :=
  execute (.executionFailed name) fun database =>
    match database.annexMigrations with
    | none => .error noSuchTable
    | some table =>
        if table.rows.any (·.name = name) then
          .error (.constraint .unique "UNIQUE constraint failed: _annex_migrations.name")
        else
          .ok { database with
            annexMigrations := some (table.insert fun id => ⟨id, name, appliedAt⟩) }

/-- The script and its record, in a transaction. -/
def applyMigration (appliedAt : String) (migration : Migration Schema) : Migrator Schema Unit :=
  transaction (.executionFailed migration.name) (.executionFailed migration.name) do
    executeBatch migration.name migration.sql
    recordMigration migration.name appliedAt

/-- The loop over the migrations. The times are those at which each one is recorded. -/
def runEach (appliedAt : String → String) : List (Migration Schema) → Nat → Migrator Schema Nat
  | [], applied => pure applied
  | migration :: rest, applied => do
      let alreadyApplied ← isApplied migration.name
      if alreadyApplied then runEach appliedAt rest applied
      else do
        applyMigration (appliedAt migration.name) migration
        runEach appliedAt rest (applied + 1)

def runMigrationsFromList (migrations : List (Migration Schema)) (appliedAt : String → String) :
    Migrator Schema Nat := do
  bootstrap
  runEach appliedAt migrations 0

/-- One call: the times it records and which of its statements fail. -/
structure MigrationCall where
  appliedAt : String → String
  faults : List (Option String)

/-- What a call returns. -/
def MigrationCall.result (migrations : List (Migration Schema))
    (database : MigratedDatabase Schema) (call : MigrationCall) : Except MigrationError Nat :=
  (runMigrationsFromList migrations call.appliedAt ⟨database, (), call.faults⟩).1

/-- The database after a call. -/
def migrationStep (migrations : List (Migration Schema)) (database : MigratedDatabase Schema)
    (call : MigrationCall) : MigratedDatabase Schema :=
  (runMigrationsFromList migrations call.appliedAt ⟨database, (), call.faults⟩).2.database

/-- The names that are recorded, in order. -/
def MigratedDatabase.recorded (database : MigratedDatabase Schema) : List String :=
  (database.annexMigrations.getD .empty).rows.map (·.name)

def applyScript (script : List (Schema → Except DbError Schema)) (schema : Schema) :
    Except DbError Schema :=
  script.foldlM (fun schema statement => statement schema) schema

def applyScripts (migrations : List (Migration Schema)) (schema : Schema) :
    Except DbError Schema :=
  migrations.foldlM (fun schema migration => applyScript migration.sql schema) schema

/-- Exactly the first migrations are recorded, and the schema is that of having applied them. -/
structure Applied (migrations : List (Migration Schema)) (base : Schema) (count : Nat)
    (database : MigratedDatabase Schema) : Prop where
  le : count ≤ migrations.length
  recorded : database.recorded = (migrations.take count).map (·.name)
  schema : applyScripts (migrations.take count) base = .ok database.schema

/-- What a call leaves: the first migrations, which are all of them where it succeeds and those
before the one that failed where it does not. -/
def CallEnds (migrations : List (Migration Schema)) (base : Schema)
    (result : Except MigrationError Nat) (database : MigratedDatabase Schema) : Prop :=
  ∃ count, Applied migrations base count database ∧
    match result with
    | .ok _ => count = migrations.length
    | .error (.executionFailed name _) => ∃ migration, migrations[count]? = some migration ∧
        migration.name = name
    | .error (.stateQuery _) => True

theorem ensures_executeBatch (name : String) (script : List (Schema → Except DbError Schema))
    (database : MigratedDatabase Schema) :
    Ensures (executeBatch name script) database () fun result after _ =>
      match result with
      | .ok () => after.annexMigrations = database.annexMigrations ∧
          applyScript script database.schema = .ok after.schema
      | .error error => ∃ source, error = .executionFailed name source := by
  induction script generalizing database with
  | nil => exact (ensures_pure _).mpr ⟨rfl, rfl⟩
  | cons statement rest induction =>
      unfold executeBatch
      refine ensures_bind (ensures_execute ?_ ?_ ?_)
      · intro text
        exact ⟨_, rfl⟩
      · intro changed done
        cases ran : statement database.schema with
        | error error =>
            rw [ran] at done
            cases done
        | ok schema =>
            rw [ran] at done
            cases done
            rw [andThen_ok]
            refine ensures_mono ?_ (induction { database with schema })
            intro result after memory holds
            cases result with
            | error error => exact holds
            | ok value =>
                refine ⟨holds.1, ?_⟩
                unfold applyScript
                rw [List.foldlM_cons, ran]
                exact holds.2
      · intro error refused
        exact ⟨_, rfl⟩

theorem applyScripts_concat {migrations : List (Migration Schema)} {base schema : Schema}
    (before : applyScripts migrations base = .ok schema) (migration : Migration Schema) :
    applyScripts (migrations ++ [migration]) base = applyScript migration.sql schema := by
  unfold applyScripts at before ⊢
  rw [List.foldlM_append, before]
  exact bind_pure (applyScript migration.sql schema)

theorem recorded_eq {database : MigratedDatabase Schema} {table : Table AnnexMigration}
    (exists_ : database.annexMigrations = some table) :
    database.recorded = table.rows.map (·.name) := by
  unfold MigratedDatabase.recorded
  rw [exists_]
  rfl

section Loop

variable {migrations : List (Migration Schema)} {base : Schema} {count : Nat}
  {database : MigratedDatabase Schema} {table : Table AnnexMigration}

theorem isApplied_ensures (exists_ : database.annexMigrations = some table) (name : String)
    {post : Except MigrationError Bool → MigratedDatabase Schema → Unit → Prop}
    (faulty : ∀ source, post (.error (.stateQuery source)) database ())
    (done : post (.ok (decide (name ∈ database.recorded))) database ()) :
    Ensures (isApplied name) database () post := by
  refine ensures_query (fun text => faulty _) ?_ (fun error _ => faulty error)
  intro value read
  rw [exists_] at read
  cases read
  have same : table.rows.any (·.name = name) = decide (name ∈ database.recorded) := by
    rw [recorded_eq exists_, Bool.eq_iff_iff, List.any_eq_true, decide_eq_true_iff, List.mem_map]
    simp only [decide_eq_true_iff]
  rw [same]
  exact done

/-- A migration that is not recorded is applied and recorded, or neither. -/
theorem ensures_applyMigration (applied : Applied migrations base count database)
    (exists_ : database.annexMigrations = some table) {migration : Migration Schema}
    (next : migrations[count]? = some migration) (appliedAt : String) :
    Ensures (applyMigration appliedAt migration) database () fun result after _ =>
      match result with
      | .ok () => Applied migrations base (count + 1) after ∧ after.annexMigrations.isSome
      | .error error =>
          after = database ∧ ∃ source, error = .executionFailed migration.name source := by
  refine ensures_transaction (fun text => ⟨rfl, _, rfl⟩) (ensures_bind ?_)
  refine ensures_mono ?_ (ensures_executeBatch migration.name migration.sql database)
  intro result after memory ran
  cases result with
  | error error => exact ⟨rfl, ran⟩
  | ok value =>
      rw [andThen_ok]
      refine ensures_execute ?_ ?_ ?_
      · intro text
        exact ⟨rfl, _, rfl⟩
      · intro changed done
        refine ⟨?_, fun text => ⟨rfl, _, rfl⟩⟩
        rw [ran.1, exists_] at done
        dsimp only at done
        split at done
        · cases done
        · cases done
          have inside := List.getElem?_eq_some_iff.mp next
          have taken : migrations.take (count + 1) = migrations.take count ++ [migration] := by
            rw [List.take_add_one, next]
            rfl
          refine ⟨⟨inside.1, ?_, ?_⟩, rfl⟩
          · rw [recorded_eq rfl, Table.rows_insert, List.map_append, ← recorded_eq exists_,
              applied.recorded, taken, List.map_append]
            rfl
          · rw [taken, applyScripts_concat applied.schema]
            exact ran.2
      · intro error refused
        exact ⟨rfl, _, rfl⟩

/-- Where names are distinct, the recorded migrations are the first ones by name. -/
theorem mem_recorded_iff (distinct : (migrations.map (·.name)).Nodup)
    (applied : Applied migrations base count database) {index : Nat}
    {migration : Migration Schema} (here : migrations[index]? = some migration) :
    migration.name ∈ database.recorded ↔ index < count := by
  rcases List.getElem?_eq_some_iff.mp here with ⟨inside, isHere⟩
  rw [applied.recorded, List.mem_map]
  constructor
  · intro recorded
    rcases recorded with ⟨other, member, same⟩
    rcases List.mem_take_iff_getElem.mp member with ⟨position, below, isOther⟩
    have positionInside : position < (migrations.map (·.name)).length := by
      rw [List.length_map]
      omega
    have indexInside : index < (migrations.map (·.name)).length := by
      rwa [List.length_map]
    have equal : (migrations.map (·.name))[position] = (migrations.map (·.name))[index] := by
      rw [List.getElem_map, List.getElem_map, isOther, isHere, same]
    have positions := (List.Nodup.getElem_inj_iff distinct).mp equal
    omega
  · intro below
    exact ⟨migration, List.mem_take_iff_getElem.mpr ⟨index, by omega, isHere⟩, rfl⟩

/-- The loop goes on to apply what is not recorded. What is recorded already it leaves alone. -/
theorem ensures_runEach (distinct : (migrations.map (·.name)).Nodup)
    (appliedAt : String → String) (rest : List (Migration Schema)) :
    ∀ (done : List (Migration Schema)) (number count : Nat) (database : MigratedDatabase Schema),
      done ++ rest = migrations → Applied migrations base count database →
        done.length ≤ count → database.annexMigrations.isSome →
          Ensures (runEach appliedAt rest number) database () fun result after _ =>
            CallEnds migrations base result after ∧ after.annexMigrations.isSome ∧
              (count = migrations.length → after = database) := by
  induction rest with
  | nil =>
      intro done number count database split applied past exists_
      rw [List.append_nil] at split
      rw [split] at past
      exact (ensures_pure _).mpr
        ⟨⟨count, applied, Nat.le_antisymm applied.le past⟩, exists_, fun _ => rfl⟩
  | cons migration rest induction =>
      intro done number count database split applied past exists_
      rcases Option.isSome_iff_exists.mp exists_ with ⟨table, isTable⟩
      have here : migrations[done.length]? = some migration := by
        rw [← split, List.getElem?_append_right (Nat.le_refl _), Nat.sub_self]
        rfl
      have further : (done ++ [migration]) ++ rest = migrations := by
        rw [List.append_assoc]
        exact split
      have inside := (List.getElem?_eq_some_iff.mp here).1
      unfold runEach
      refine ensures_bind (isApplied_ensures isTable migration.name ?_ ?_)
      · intro source
        exact ⟨⟨count, applied, trivial⟩, exists_, fun _ => rfl⟩
      · rw [andThen_ok]
        by_cases recorded : migration.name ∈ database.recorded
        · rw [decide_eq_true recorded, if_pos rfl]
          have below := (mem_recorded_iff distinct applied here).mp recorded
          exact induction (done ++ [migration]) number count database further applied
            (by rw [List.length_append]; exact below) exists_
        · have same : count = done.length := by
            have notBelow := mt (mem_recorded_iff distinct applied here).mpr recorded
            omega
          rw [same] at applied
          rw [decide_eq_false recorded, if_neg Bool.false_ne_true]
          refine ensures_bind (ensures_mono ?_
            (ensures_applyMigration applied isTable here (appliedAt migration.name)))
          intro result after memory holds
          cases result with
          | error error =>
              rcases holds with ⟨unchanged, source, isError⟩
              rw [unchanged, isError]
              exact ⟨⟨done.length, applied, migration, here, rfl⟩, exists_, fun _ => rfl⟩
          | ok value =>
              rw [andThen_ok]
              refine ensures_mono ?_ (induction (done ++ [migration]) (number + 1)
                (done.length + 1) after further holds.1 (Nat.le_of_eq List.length_append) holds.2)
              intro result last _ ends
              refine ⟨ends.1, ends.2.1, ?_⟩
              omega

/-- A call whose bootstrap fails changes nothing. Any other ends as the loop does. -/
theorem ensures_runMigrationsFromList (distinct : (migrations.map (·.name)).Nodup)
    (applied : Applied migrations base count database) (appliedAt : String → String) :
    Ensures (runMigrationsFromList migrations appliedAt) database () fun result after _ =>
      (after = database ∧ ∃ source, result = .error (.executionFailed bootstrapName source)) ∨
        CallEnds migrations base result after ∧ after.annexMigrations.isSome ∧
          (count = migrations.length → database.annexMigrations.isSome → after = database) := by
  refine ensures_bind (ensures_execute ?_ ?_ ?_)
  · intro text
    exact Or.inl ⟨rfl, _, rfl⟩
  · intro changed done
    cases done
    rw [andThen_ok]
    have begun : Applied migrations base count
        { database with annexMigrations := some (database.annexMigrations.getD .empty) } :=
      ⟨applied.le, applied.recorded, applied.schema⟩
    refine ensures_mono ?_
      (ensures_runEach distinct appliedAt migrations [] 0 count _ rfl begun (Nat.zero_le _) rfl)
    intro result after _ ends
    refine Or.inr ⟨ends.1, ends.2.1, ?_⟩
    intro all exists_
    rcases Option.isSome_iff_exists.mp exists_ with ⟨table, isTable⟩
    rw [ends.2.2 all, isTable]
    exact congrArg (fun table => MigratedDatabase.mk table database.schema) isTable.symm
  · intro error refused
    cases refused

end Loop

/-- A database without any migration. -/
def MigratedDatabase.fresh (base : Schema) : MigratedDatabase Schema := ⟨none, base⟩

/-- The database after the calls. -/
def afterCalls (migrations : List (Migration Schema)) (base : Schema)
    (calls : List MigrationCall) : MigratedDatabase Schema :=
  Execution.run (migrationStep migrations) (.fresh base) calls

/-- After every call exactly a first part of the migrations is applied and recorded. Where one
fails, it is those before it; where a call succeeds, all of them, and later calls change
nothing. -/
structure AppliedExactly (migrations : List (Migration Schema)) (base : Schema)
    (calls : List MigrationCall) : Prop where
  always : ∃ count, Applied migrations base count (afterCalls migrations base calls)
  failed : ∀ front call name source, calls = front ++ [call] →
    call.result migrations (afterCalls migrations base front) =
      .error (.executionFailed name source) →
        name = bootstrapName ∧
            afterCalls migrations base calls = afterCalls migrations base front ∨
          ∃ count migration, Applied migrations base count (afterCalls migrations base calls) ∧
            migrations[count]? = some migration ∧ migration.name = name
  complete : ∀ front call rest number, calls = front ++ call :: rest →
    call.result migrations (afterCalls migrations base front) = .ok number →
      Applied migrations base migrations.length (afterCalls migrations base (front ++ [call])) ∧
        afterCalls migrations base calls = afterCalls migrations base (front ++ [call])

section Calls

variable {migrations : List (Migration Schema)} {base : Schema}

theorem exists_applied (distinct : (migrations.map (·.name)).Nodup) (base : Schema)
    (calls : List MigrationCall) :
    ∃ count, Applied migrations base count (afterCalls migrations base calls) := by
  refine Execution.run_invariant (fun database => ∃ count, Applied migrations base count database)
    ?_ ⟨0, Nat.zero_le _, rfl, rfl⟩ calls
  intro database call holds
  rcases holds with ⟨count, applied⟩
  have ends := ensures_runMigrationsFromList distinct applied call.appliedAt call.faults
  rcases ends with ⟨unchanged, _⟩ | ⟨⟨after, applied, _⟩, _⟩
  · refine ⟨count, ?_⟩
    rw [migrationStep, unchanged]
    exact applied
  · exact ⟨after, applied⟩

/-- Once all migrations are recorded, no call changes anything. -/
theorem afterCalls_of_complete (distinct : (migrations.map (·.name)).Nodup)
    {database : MigratedDatabase Schema}
    (applied : Applied migrations base migrations.length database)
    (exists_ : database.annexMigrations.isSome) (calls : List MigrationCall) :
    Execution.run (migrationStep migrations) database calls = database := by
  refine Execution.run_invariant (fun after => after = database) ?_ rfl calls
  intro after call same
  rw [same]
  have ends := ensures_runMigrationsFromList distinct applied call.appliedAt call.faults
  rcases ends with ⟨unchanged, _⟩ | ⟨_, _, unchanged⟩
  · exact unchanged
  · exact unchanged rfl exists_

/-- However the statements of the calls fail, migrations with distinct names apply as an exact
prefix. -/
theorem appliedExactly (migrations : List (Migration Schema))
    (distinct : (migrations.map (·.name)).Nodup) (base : Schema) (calls : List MigrationCall) :
    AppliedExactly migrations base calls := by
  have step (front : List MigrationCall) (call : MigrationCall) :
      afterCalls migrations base (front ++ [call]) =
        migrationStep migrations (afterCalls migrations base front) call :=
    Execution.run_concat _ _ front call
  constructor
  · exact exists_applied distinct base calls
  · intro front call name source split failed
    rcases exists_applied distinct base front with ⟨count, applied⟩
    have ends := ensures_runMigrationsFromList distinct applied call.appliedAt call.faults
    rw [split, step]
    rcases ends with ⟨unchanged, error, isError⟩ | ⟨⟨after, applied, ended⟩, _⟩
    · cases failed.symm.trans isError
      exact Or.inl ⟨rfl, unchanged⟩
    · unfold MigrationCall.result at failed
      rw [failed] at ended
      rcases ended with ⟨migration, here, same⟩
      exact Or.inr ⟨after, migration, applied, here, same⟩
  · intro front call rest number split succeeded
    rcases exists_applied distinct base front with ⟨count, applied⟩
    have ends := ensures_runMigrationsFromList distinct applied call.appliedAt call.faults
    have all : Applied migrations base migrations.length
          (afterCalls migrations base (front ++ [call])) ∧
        (afterCalls migrations base (front ++ [call])).annexMigrations.isSome := by
      rw [step]
      rcases ends with ⟨_, error, isError⟩ | ⟨⟨after, applied, ended⟩, exists_, _⟩
      · cases succeeded.symm.trans isError
      · unfold MigrationCall.result at succeeded
        rw [succeeded] at ended
        exact ⟨ended ▸ applied, exists_⟩
    refine ⟨all.1, ?_⟩
    have later := afterCalls_of_complete distinct all.1 all.2 rest
    rw [split, List.append_cons]
    exact (Execution.run_append _ _ (front ++ [call]) rest).trans later

end Calls

/-- Two migrations that each count one up. -/
def sampleMigrations : List (Migration Nat) :=
  [⟨"000_init", [fun schema => .ok (schema + 1)]⟩,
    ⟨"001_identity", [fun schema => .ok (schema + 1)]⟩]

/-- The record of the second migration fails in the first call. -/
def sampleCalls : List MigrationCall :=
  [⟨fun _ => "", [none, none, none, none, none, none, none, none, none, some "disk I/O error"]⟩,
    ⟨fun _ => "", []⟩]

theorem appliedExactly_sampleCalls : AppliedExactly sampleMigrations 0 sampleCalls :=
  appliedExactly sampleMigrations (by decide) 0 sampleCalls

end Annex.Db
