import Mathlib.Data.List.Basic

namespace Annex

/-! Encodings that can be read off the front of a longer text, and lists written in them one
item after the other. -/

/-- Where the writing of an item ends can be told from the writing. -/
def SelfDelimiting {α : Type u} {β : Type v} (domain : α → Prop) (encode : α → List β) : Prop :=
  ∀ left right, domain left → domain right → ∀ leftRest rightRest,
    encode left ++ leftRest = encode right ++ rightRest → left = right

namespace SelfDelimiting

variable {α : Type u} {β : Type v} {domain : α → Prop} {encode : α → List β}

/-- Items in such an encoding can be written without anything between them. -/
theorem flatMap_inj (delimits : SelfDelimiting domain encode)
    (nonempty : ∀ item, encode item ≠ []) {left right : List α}
    (leftInside : ∀ item ∈ left, domain item) (rightInside : ∀ item ∈ right, domain item) :
    left.flatMap encode = right.flatMap encode ↔ left = right := by
  constructor
  · intro same
    induction left generalizing right with
    | nil =>
        cases right with
        | nil => rfl
        | cons other others =>
            rw [List.flatMap_nil, List.flatMap_cons] at same
            exact absurd (List.append_eq_nil_iff.mp same.symm).1 (nonempty other)
    | cons item items induction =>
        cases right with
        | nil =>
            rw [List.flatMap_nil, List.flatMap_cons] at same
            exact absurd (List.append_eq_nil_iff.mp same).1 (nonempty item)
        | cons other others =>
            rw [List.forall_mem_cons] at leftInside rightInside
            rw [List.flatMap_cons, List.flatMap_cons] at same
            have first := delimits item other leftInside.1 rightInside.1 _ _ same
            rw [first] at same ⊢
            rw [induction leftInside.2 rightInside.2 (List.append_cancel_left same)]
  · intro same
    rw [same]

/-- A body behind a header of one width that tells how long the body is. -/
theorem of_header {header : Nat → List β} {body : α → List β} {width : Nat}
    (fixed : ∀ length, (header length).length = width)
    (told : ∀ left right, domain left → domain right →
      header (body left).length = header (body right).length →
        (body left).length = (body right).length)
    (injective : ∀ left right, body left = body right → left = right) :
    SelfDelimiting domain fun item => header (body item).length ++ body item := by
  intro left right leftInside rightInside leftRest rightRest same
  dsimp only at same
  rw [List.append_assoc, List.append_assoc] at same
  have headers := List.append_inj same (by rw [fixed, fixed])
  have lengths := told left right leftInside rightInside headers.1
  exact injective left right (List.append_inj headers.2 lengths).1

end SelfDelimiting

end Annex
