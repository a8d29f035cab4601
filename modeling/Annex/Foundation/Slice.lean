import Mathlib.Algebra.Group.Nat.Defs
import Mathlib.Data.List.Basic

namespace Annex

/-! Slices that are read by index. An index outside of them and a sum that a machine word does
not hold stop the program. -/

inductive Fault where
  | outOfBounds
  | overflow
deriving DecidableEq, Repr

/-- The sum of two words of 64 bits. -/
def wordSum (left right : Nat) : Except Fault Nat :=
  if left + right < 2 ^ 64 then .ok (left + right) else .error .overflow

/-- The elements of a slice, of which no more than `isize::MAX` fit. -/
structure Slice (α : Type) where
  elements : List α
  fits : elements.length < 2 ^ 63

namespace Slice

variable {α : Type}

def length (slice : Slice α) : Nat := slice.elements.length

def get (slice : Slice α) (index : Nat) : Except Fault α :=
  match slice.elements[index]? with
  | some element => .ok element
  | none => .error .outOfBounds

/-- The elements from the first index up to the last, which is left out. -/
def range (slice : Slice α) (first last : Nat) : Except Fault (List α) :=
  if first ≤ last ∧ last ≤ slice.length then
    .ok ((slice.elements.drop first).take (last - first))
  else
    .error .outOfBounds

variable {slice : Slice α} {first last : Nat}

/-- A sum that stays below the length, or little above it, is a word. -/
theorem wordSum_of_le (slice : Slice α) {left right : Nat}
    (near : left + right ≤ slice.length + 2 ^ 33) :
    wordSum left right = .ok (left + right) := by
  have fits := slice.fits
  unfold length at near
  apply if_pos
  omega

theorem get_of_drop {element : α} {offset : Nat} {rest : List α}
    (found : (slice.elements.drop first).drop offset = element :: rest) :
    slice.get (first + offset) = .ok element := by
  rw [List.drop_drop] at found
  have here : slice.elements[first + offset]? = some element := by
    rw [← List.head?_drop, found, List.head?_cons]
  unfold get
  rw [here]

theorem range_of_le (ordered : first ≤ last) (within : last ≤ slice.length) :
    slice.range first last = .ok ((slice.elements.drop first).take (last - first)) :=
  if_pos ⟨ordered, within⟩

/-- The rest of a slice. -/
theorem range_length (within : first ≤ slice.length) :
    slice.range first slice.length = .ok (slice.elements.drop first) := by
  rw [range_of_le within (Nat.le_refl _), List.take_of_length_le]
  rw [List.length_drop]
  exact Nat.le_refl _

end Slice

end Annex
