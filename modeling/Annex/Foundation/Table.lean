import Mathlib.Data.List.Basic
import Mathlib.Data.List.Pairwise

namespace Annex

/-! SQL tables with an `INTEGER PRIMARY KEY AUTOINCREMENT` column. A table
carries the proof that its rows stand in key order below the last key handed
out, so an update or a delete by key touches at most one row. -/

/-- A row type with its integer primary key. -/
class Keyed (Row : Type u) where
  key : Row → Nat

export Keyed (key)

/-- The rows of a table in key order, and the largest key it ever handed out. -/
structure Table (Row : Type u) [Keyed Row] where
  rows : List Row
  lastId : Nat
  ascending : rows.Pairwise fun left right => key left < key right
  bounded : ∀ row ∈ rows, key row ≤ lastId
deriving DecidableEq

namespace Table

variable {Row : Type u} [Keyed Row]

/-- The table a migration creates. -/
def empty : Table Row where
  rows := []
  lastId := 0
  ascending := List.Pairwise.nil
  bounded := by simp

instance : Inhabited (Table Row) := ⟨empty⟩

/-- `INSERT`: the new row gets the next key. -/
def insert (table : Table Row) (make : Nat → Row)
    (keyed : ∀ id, key (make id) = id := by intro; rfl) : Table Row where
  rows := table.rows ++ [make (table.lastId + 1)]
  lastId := table.lastId + 1
  ascending := by
    rw [List.pairwise_append]
    refine ⟨table.ascending, List.pairwise_singleton _ _, ?_⟩
    intro old oldMember new newMember
    rw [List.mem_singleton.mp newMember, keyed]
    exact Nat.lt_succ_of_le (table.bounded old oldMember)
  bounded := by
    intro row member
    rcases List.mem_append.mp member with member | member
    · exact Nat.le_succ_of_le (table.bounded row member)
    · exact Nat.le_of_eq (by rw [List.mem_singleton.mp member, keyed])

/-- `INSERT` of a row that brings its own key, which must be free. -/
def place (table : Table Row) (row : Row) : Option (Table Row) :=
  if table.rows.any fun old => key old = key row then
    none
  else
    some
      { rows := (table.rows.filter fun old => key old < key row) ++
          row :: table.rows.filter fun old => key row < key old
        lastId := max table.lastId (key row)
        ascending := by
          refine List.pairwise_append.mpr ⟨table.ascending.filter _,
            List.pairwise_cons.mpr ⟨?_, table.ascending.filter _⟩, ?_⟩
          · intro later member
            simpa using (List.mem_filter.mp member).2
          · intro earlier earlierMember later laterMember
            have before : key earlier < key row := by
              simpa using (List.mem_filter.mp earlierMember).2
            rcases List.mem_cons.mp laterMember with rfl | laterMember
            · exact before
            · have after : key row < key later := by
                simpa using (List.mem_filter.mp laterMember).2
              exact Nat.lt_trans before after
        bounded := by
          intro old member
          rcases List.mem_append.mp member with member | member
          · exact Nat.le_trans (table.bounded old (List.mem_of_mem_filter member))
              (Nat.le_max_left _ _)
          · rcases List.mem_cons.mp member with rfl | member
            · exact Nat.le_max_right _ _
            · exact Nat.le_trans (table.bounded old (List.mem_of_mem_filter member))
                (Nat.le_max_left _ _) }

/-- `UPDATE ... WHERE`: change the selected rows in place. -/
def updateWhere (table : Table Row) (selected : Row → Bool)
    (change : Row → Row)
    (keyed : ∀ row, key (change row) = key row := by intro; rfl) :
    Table Row where
  rows := table.rows.map fun row => if selected row then change row else row
  lastId := table.lastId
  ascending := by
    refine List.pairwise_map.mpr (table.ascending.imp fun {left right} less => ?_)
    split <;> split <;> simpa [keyed] using less
  bounded := by
    intro row member
    rcases List.mem_map.mp member with ⟨old, oldMember, rfl⟩
    split
    · rw [keyed]
      exact table.bounded old oldMember
    · exact table.bounded old oldMember

/-- `DELETE ... WHERE`: keep the rows that are not selected. -/
def deleteWhere (table : Table Row) (selected : Row → Bool) : Table Row where
  rows := table.rows.filter fun row => !selected row
  lastId := table.lastId
  ascending := table.ascending.filter _
  bounded := fun row member => table.bounded row (List.mem_of_mem_filter member)

/-- `INSERT ... ON CONFLICT DO UPDATE`: change the rows the new one conflicts
with, or insert it when there are none. -/
def upsert (table : Table Row) (conflicts : Row → Bool) (change : Row → Row)
    (make : Nat → Row)
    (changeKeyed : ∀ row, key (change row) = key row := by intro; rfl)
    (makeKeyed : ∀ id, key (make id) = id := by intro; rfl) : Table Row :=
  if table.rows.any conflicts then
    table.updateWhere conflicts change changeKeyed
  else
    table.insert make makeKeyed

/-- `ORDER BY text DESC LIMIT 1`: of several largest the first. -/
def latest (text : Row → String) : List Row → Option Row
  | [] => none
  | row :: rest =>
      match latest text rest with
      | none => some row
      | some found => if text row < text found then some found else some row

@[ext] theorem ext {left right : Table Row} (rows : left.rows = right.rows)
    (lastId : left.lastId = right.lastId) : left = right := by
  cases left
  cases right
  congr

@[simp] theorem rows_empty : (empty : Table Row).rows = [] := rfl

@[simp] theorem rows_insert (table : Table Row) (make : Nat → Row)
    (keyed : ∀ id, key (make id) = id) :
    (table.insert make keyed).rows =
      table.rows ++ [make (table.lastId + 1)] := rfl

@[simp] theorem lastId_insert (table : Table Row) (make : Nat → Row)
    (keyed : ∀ id, key (make id) = id) :
    (table.insert make keyed).lastId = table.lastId + 1 := rfl

@[simp] theorem rows_updateWhere (table : Table Row) (selected : Row → Bool)
    (change : Row → Row) (keyed : ∀ row, key (change row) = key row) :
    (table.updateWhere selected change keyed).rows =
      table.rows.map fun row => if selected row then change row else row := rfl

@[simp] theorem rows_deleteWhere (table : Table Row) (selected : Row → Bool) :
    (table.deleteWhere selected).rows =
      table.rows.filter fun row => !selected row := rfl

theorem mem_insert {table : Table Row} {make : Nat → Row}
    {keyed : ∀ id, key (make id) = id} {row : Row} :
    row ∈ (table.insert make keyed).rows ↔
      row ∈ table.rows ∨ row = make (table.lastId + 1) := by
  simp

theorem mem_updateWhere {table : Table Row} {selected : Row → Bool}
    {change : Row → Row} {keyed : ∀ row, key (change row) = key row} {row : Row} :
    row ∈ (table.updateWhere selected change keyed).rows ↔
      ∃ old ∈ table.rows, (if selected old then change old else old) = row :=
  List.mem_map

theorem mem_deleteWhere {table : Table Row} {selected : Row → Bool} {row : Row} :
    row ∈ (table.deleteWhere selected).rows ↔
      row ∈ table.rows ∧ selected row = false := by
  simp

/-- A key above all others puts the row at the end. -/
theorem place_of_above {table : Table Row} {row : Row}
    (above : ∀ old ∈ table.rows, key old < key row) :
    ∃ placed, table.place row = some placed ∧ placed.rows = table.rows ++ [row] := by
  have free : table.rows.any (fun old => key old = key row) = false := by
    rw [List.any_eq_false]
    intro old member
    simpa using Nat.ne_of_lt (above old member)
  have before : table.rows.filter (fun old => key old < key row) = table.rows := by
    rw [List.filter_eq_self]
    intro old member
    simpa using above old member
  have after : table.rows.filter (fun old => key row < key old) = [] := by
    rw [List.filter_eq_nil_iff]
    intro old member
    simpa using Nat.le_of_lt (above old member)
  refine ⟨_, by rw [place, if_neg (by simp [free])], ?_⟩
  simp only [before, after]

/-- A property of the old rows that the change keeps holds of the new rows. -/
theorem forall_updateWhere {table : Table Row} {selected : Row → Bool}
    {change : Row → Row} (keyed : ∀ row, key (change row) = key row)
    {property : Row → Prop} (holds : ∀ row ∈ table.rows, property row)
    (changed : ∀ row ∈ table.rows, selected row = true → property (change row)) :
    ∀ row ∈ (table.updateWhere selected change keyed).rows, property row := by
  intro row member
  rcases mem_updateWhere.mp member with ⟨old, oldMember, rfl⟩
  split
  · exact changed old oldMember (by assumption)
  · exact holds old oldMember

omit [Keyed Row] in
theorem latest_eq_head (text : Row → String) {rows : List Row} (few : rows.length ≤ 1) :
    latest text rows = rows.head? := by
  match rows with
  | [] => rfl
  | [row] => rfl
  | _ :: _ :: _ => simp at few

/-- An insert changes the table: its sequence moves on. -/
theorem insert_ne (table : Table Row) (make : Nat → Row)
    (keyed : ∀ id, key (make id) = id) : table.insert make keyed ≠ table := by
  intro equal
  have sequence := congrArg lastId equal
  simp at sequence

/-- An upsert leaves a table alone exactly when it finds rows to change and changes none
of them. -/
theorem upsert_eq_self_iff {table : Table Row} {conflicts : Row → Bool}
    {change : Row → Row} {make : Nat → Row}
    {changeKeyed : ∀ row, key (change row) = key row}
    {makeKeyed : ∀ id, key (make id) = id} :
    table.upsert conflicts change make changeKeyed makeKeyed = table ↔
      (∃ row ∈ table.rows, conflicts row = true) ∧
        ∀ row ∈ table.rows, conflicts row = true → change row = row := by
  unfold upsert
  split
  · next found =>
    have present := List.any_eq_true.mp found
    rw [Table.ext_iff]
    constructor
    · rintro ⟨same, -⟩
      refine ⟨present, fun row member conflict => ?_⟩
      have fixed := List.map_inj_left.mp (same.trans (List.map_id _).symm) row member
      simpa [conflict] using fixed
    · rintro ⟨-, fixed⟩
      refine ⟨?_, rfl⟩
      rw [rows_updateWhere]
      refine (List.map_congr_left ?_).trans (List.map_id _)
      intro row member
      split
      · exact fixed row member (by assumption)
      · rfl
  · next absent =>
    apply iff_of_false (insert_ne _ _ _)
    rintro ⟨⟨row, member, conflict⟩, -⟩
    exact absent (List.any_eq_true.mpr ⟨row, member, conflict⟩)

/-- The rows after an upsert: old ones, changed ones, and the new one. -/
theorem mem_upsert_cases {table : Table Row} {conflicts : Row → Bool} {change : Row → Row}
    {make : Nat → Row} {changeKeyed : ∀ row, key (change row) = key row}
    {makeKeyed : ∀ id, key (make id) = id} {row : Row}
    (member : row ∈ (table.upsert conflicts change make changeKeyed makeKeyed).rows) :
    row ∈ table.rows ∨ (∃ old ∈ table.rows, conflicts old = true ∧ row = change old) ∨
      row = make (table.lastId + 1) := by
  unfold upsert at member
  split at member
  · rcases mem_updateWhere.mp member with ⟨old, oldMember, same⟩
    split at same
    · next conflict => exact Or.inr (Or.inl ⟨old, oldMember, conflict, same.symm⟩)
    · exact Or.inl (same ▸ oldMember)
  · exact (mem_insert.mp member).imp_right Or.inr

/-- A delete leaves a table alone exactly when it finds no row. -/
theorem deleteWhere_eq_self_iff {table : Table Row} {selected : Row → Bool} :
    table.deleteWhere selected = table ↔ table.rows.any selected = false := by
  rw [Table.ext_iff, rows_deleteWhere, List.filter_eq_self, List.any_eq_false]
  constructor
  · rintro ⟨kept, -⟩ row member
    simpa using kept row member
  · intro unselected
    exact ⟨fun row member => by simpa using unselected row member, rfl⟩

/-- An `UPDATE` that selects nothing. -/
theorem updateWhere_of_none {table : Table Row} {selected : Row → Bool} {change : Row → Row}
    {keyed : ∀ row, key (change row) = key row} (none : table.rows.countP selected = 0) :
    table.updateWhere selected change keyed = table := by
  apply ext
  · rw [rows_updateWhere]
    refine (List.map_congr_left ?_).trans (List.map_id _)
    intro row member
    exact if_neg (List.countP_eq_zero.mp none row member)
  · rfl

/-- A row that is inserted where there was none like it. -/
theorem find?_insert {table : Table Row} {make : Nat → Row}
    {keyed : ∀ id, key (make id) = id} {test : Row → Bool}
    (free : table.rows.any test = false) (made : test (make (table.lastId + 1)) = true) :
    (table.insert make keyed).rows.find? test = some (make (table.lastId + 1)) := by
  have absent : table.rows.find? test = none := by
    rw [List.find?_eq_none]
    exact List.any_eq_false.mp free
  rw [rows_insert, List.find?_append, absent, Option.none_or, List.find?_cons, made]

/-- The first conflicting row after an upsert: the old one changed, or the new one. -/
theorem find?_upsert {table : Table Row} {conflicts : Row → Bool} {change : Row → Row}
    {make : Nat → Row} {changeKeyed : ∀ row, key (change row) = key row}
    {makeKeyed : ∀ id, key (make id) = id}
    (kept : ∀ row, conflicts row = true → conflicts (change row) = true)
    (made : ∀ id, conflicts (make id) = true) :
    (table.upsert conflicts change make changeKeyed makeKeyed).rows.find? conflicts =
      some (match table.rows.find? conflicts with
        | some row => change row
        | none => make (table.lastId + 1)) := by
  have same : ∀ row, conflicts (if conflicts row then change row else row) =
      conflicts row := by
    intro row
    cases conflict : conflicts row with
    | true => simpa [conflict] using kept row conflict
    | false => simpa using conflict
  unfold upsert
  split
  · next found =>
    rw [rows_updateWhere, List.find?_map]
    rw [show (conflicts ∘ fun row => if conflicts row then change row else row) =
      conflicts from funext same]
    cases first : table.rows.find? conflicts with
    | none =>
        rw [List.find?_eq_none] at first
        rcases List.any_eq_true.mp found with ⟨row, member, conflict⟩
        exact absurd conflict (first row member)
    | some row => simp [List.find?_some first]
  · next absent =>
    have none : table.rows.find? conflicts = none := by
      rw [List.find?_eq_none]
      exact fun row member conflict =>
        absent (List.any_eq_true.mpr ⟨row, member, conflict⟩)
    simp [List.find?_append, none, made]

theorem nodup_rows (table : Table Row) : table.rows.Nodup :=
  table.ascending.imp fun less equal => Nat.ne_of_lt less (congrArg key equal)

/-- Two rows with one key are one row. -/
theorem eq_of_key (table : Table Row) {left right : Row} (leftMember : left ∈ table.rows)
    (rightMember : right ∈ table.rows) (same : key left = key right) : left = right := by
  have apart : table.rows.Pairwise fun left right => key left = key right → left = right :=
    table.ascending.imp fun less equal => absurd equal (Nat.ne_of_lt less)
  have symmetric : Std.Symm fun left right : Row => key left = key right → left = right :=
    ⟨fun _ _ unique equal => (unique equal.symm).symm⟩
  exact apart.forall_of_forall (fun _ _ _ => rfl) leftMember rightMember same

end Table

end Annex
