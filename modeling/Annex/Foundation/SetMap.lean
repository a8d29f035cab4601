import Mathlib.Data.Finset.Basic

namespace Annex

/-- A map from keys to sets of values, as a relation is stored by one of its sides. -/
def SetMap (Key : Type u) (Value : Type v) := Key → Option (Finset Value)

namespace SetMap

variable {Key : Type u} {Value : Type v}

def empty : SetMap Key Value := fun _ => none

/-- The set of the key has the value. -/
def Lists (map : SetMap Key Value) (key : Key) (value : Value) : Prop :=
  ∃ values, map key = some values ∧ value ∈ values

/-- No stored set is empty. -/
def NonemptySets (map : SetMap Key Value) : Prop := ∀ key, map key ≠ some ∅

@[simp] theorem not_lists_empty (key : Key) (value : Value) :
    ¬ (empty : SetMap Key Value).Lists key value := by
  simp [Lists, empty]

theorem nonemptySets_empty : (empty : SetMap Key Value).NonemptySets := by
  intro key
  simp [empty]

section Keys

variable [DecidableEq Key]

/-- Remove a key with its set. -/
def remove (map : SetMap Key Value) (key : Key) : SetMap Key Value :=
  fun other => if other = key then none else map other

@[simp] theorem lists_remove {map : SetMap Key Value} {key other : Key} {listed : Value} :
    (map.remove key).Lists other listed ↔ map.Lists other listed ∧ other ≠ key := by
  by_cases same : other = key
  · simp [Lists, remove, same]
  · simp [Lists, remove, same]

theorem NonemptySets.remove {map : SetMap Key Value} (nonempty : map.NonemptySets)
    (key : Key) : (map.remove key).NonemptySets := by
  intro other
  by_cases same : other = key
  · simp [SetMap.remove, same]
  · simp only [SetMap.remove, same, if_false]
    exact nonempty other

end Keys

variable [DecidableEq Key] [DecidableEq Value]

instance (map : SetMap Key Value) (key : Key) (value : Value) :
    Decidable (map.Lists key value) :=
  match found : map key with
  | none => isFalse fun ⟨_, stored, _⟩ => by rw [found] at stored; cases stored
  | some values =>
      decidable_of_iff (value ∈ values) (by simp [Lists, found])

/-- Add a value to the set of a key, which is created if it does not exist. -/
def insert (map : SetMap Key Value) (key : Key) (value : Value) : SetMap Key Value :=
  fun other => if other = key then some (Insert.insert value ((map key).getD ∅)) else map other

/-- The set without the value; an empty one is dropped. -/
def without (values : Finset Value) (value : Value) : Option (Finset Value) :=
  if values.erase value = ∅ then none else some (values.erase value)

/-- Remove a value from the sets of the keys. -/
def eraseAll (map : SetMap Key Value) (keys : Finset Key) (value : Value) :
    SetMap Key Value :=
  fun other => if other ∈ keys then (map other).bind (without · value) else map other

/-- Remove a value from the set of a key. -/
def erase (map : SetMap Key Value) (key : Key) (value : Value) : SetMap Key Value :=
  map.eraseAll {key} value

@[simp] theorem lists_insert {map : SetMap Key Value} {key other : Key}
    {value listed : Value} :
    (map.insert key value).Lists other listed ↔
      (other = key ∧ listed = value) ∨ map.Lists other listed := by
  by_cases same : other = key
  · subst same
    cases found : map other <;> simp [Lists, insert, found]
  · simp [Lists, insert, same]

@[simp] theorem lists_eraseAll {map : SetMap Key Value} {keys : Finset Key} {other : Key}
    {value listed : Value} :
    (map.eraseAll keys value).Lists other listed ↔
      map.Lists other listed ∧ ¬ (other ∈ keys ∧ listed = value) := by
  by_cases inside : other ∈ keys
  · cases found : map other with
    | none => simp [Lists, eraseAll, inside, found]
    | some values =>
        by_cases isEmpty : values.erase value = ∅
        · have only : ∀ other ∈ values, other = value := by
            intro other member
            by_contra different
            exact absurd (Finset.mem_erase.mpr ⟨different, member⟩) (by simp [isEmpty])
          simp only [Lists, eraseAll, inside, found, without, isEmpty, if_true, Option.bind_some]
          simp
          exact only listed
        · simp [Lists, eraseAll, inside, found, without, isEmpty, and_comm]
  · simp [Lists, eraseAll, inside]

@[simp] theorem lists_erase {map : SetMap Key Value} {key other : Key}
    {value listed : Value} :
    (map.erase key value).Lists other listed ↔
      map.Lists other listed ∧ ¬ (other = key ∧ listed = value) := by
  rw [erase, lists_eraseAll, Finset.mem_singleton]

theorem NonemptySets.insert {map : SetMap Key Value} (nonempty : map.NonemptySets)
    (key : Key) (value : Value) : (map.insert key value).NonemptySets := by
  intro other
  by_cases same : other = key
  · simp [SetMap.insert, same]
  · simp only [SetMap.insert, same, if_false]
    exact nonempty other

theorem NonemptySets.eraseAll {map : SetMap Key Value} (nonempty : map.NonemptySets)
    (keys : Finset Key) (value : Value) : (map.eraseAll keys value).NonemptySets := by
  intro other
  by_cases inside : other ∈ keys
  · simp only [SetMap.eraseAll, inside, if_true]
    cases map other with
    | none => simp
    | some values =>
        simp only [Option.bind_some, without]
        split
        · simp
        · simpa using ‹_›
  · simp only [SetMap.eraseAll, inside, if_false]
    exact nonempty other

theorem NonemptySets.erase {map : SetMap Key Value} (nonempty : map.NonemptySets)
    (key : Key) (value : Value) : (map.erase key value).NonemptySets :=
  nonempty.eraseAll {key} value

end SetMap

end Annex
