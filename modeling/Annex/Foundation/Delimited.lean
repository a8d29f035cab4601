import Mathlib.Algebra.GroupWithZero.Nat
import Mathlib.Data.List.Basic
import Mathlib.Data.List.Count

namespace Annex

/-! Fields joined with a delimiter between them, and when the joined text tells them apart. -/

namespace Delimited

section Lists

variable {α : Type u} [DecidableEq α] {delimiter : α} {fields others : List (List α)}

/-- A delimiter is in a field or between two of them. -/
theorem count_intercalate (nonempty : fields ≠ []) :
    ([delimiter].intercalate fields).count delimiter + 1 =
      (fields.map (List.count delimiter)).sum + fields.length := by
  induction fields with
  | nil => exact absurd rfl nonempty
  | cons field rest induction =>
      cases rest with
      | nil => simp
      | cons next rest =>
          have remaining := induction (List.cons_ne_nil next rest)
          rw [List.intercalate_cons_cons, List.count_append, List.count_append, List.map_cons,
            List.sum_cons, List.length_cons, List.count_singleton_self]
          omega

/-- Fields without the delimiter are told apart from all lists as long. -/
theorem eq_of_intercalate (free : ∀ field ∈ fields, delimiter ∉ field)
    (length : others.length = fields.length)
    (same : [delimiter].intercalate others = [delimiter].intercalate fields) :
    others = fields := by
  by_cases empty : fields = []
  · subst empty
    exact List.length_eq_zero_iff.mp length
  · have otherNonempty : others ≠ [] := by
      intro otherEmpty
      subst otherEmpty
      exact empty (List.length_eq_zero_iff.mp length.symm)
    have count := @count_intercalate _ _ delimiter fields empty
    have otherCount := @count_intercalate _ _ delimiter others otherNonempty
    have none : (fields.map (List.count delimiter)).sum = 0 := by
      rw [List.sum_eq_zero_iff_forall_eq_nat]
      intro number member
      rcases List.mem_map.mp member with ⟨field, inside, counted⟩
      rw [← counted]
      exact List.count_eq_zero.mpr (free field inside)
    rw [same] at otherCount
    have otherNone : (others.map (List.count delimiter)).sum = 0 := by omega
    have otherFree : ∀ field ∈ others, delimiter ∉ field := by
      intro field inside
      apply List.count_eq_zero.mp
      exact List.sum_eq_zero_iff_forall_eq_nat.mp otherNone _ (List.mem_map_of_mem inside)
    calc others
        = ([delimiter].intercalate others).splitOn delimiter :=
          (List.splitOn_intercalate delimiter otherFree otherNonempty).symm
      _ = ([delimiter].intercalate fields).splitOn delimiter := by rw [same]
      _ = fields := List.splitOn_intercalate delimiter free empty

omit [DecidableEq α] in
/-- What is in the joined text is in a field or stands between two. -/
theorem mem_intercalate {value : α}
    (member : value ∈ [delimiter].intercalate fields) :
    value = delimiter ∨ ∃ field ∈ fields, value ∈ field := by
  induction fields with
  | nil => cases member
  | cons field rest induction =>
      cases rest with
      | nil => exact Or.inr ⟨field, List.mem_cons_self, by simpa using member⟩
      | cons next rest =>
          rw [List.intercalate_cons_cons, List.mem_append, List.mem_append,
            List.mem_singleton] at member
          rcases member with (inField | equal) | later
          · exact Or.inr ⟨field, List.mem_cons_self, inField⟩
          · exact Or.inl equal
          · rcases induction later with equal | ⟨other, member, inside⟩
            · exact Or.inl equal
            · exact Or.inr ⟨other, List.mem_cons_of_mem _ member, inside⟩

omit [DecidableEq α] in
/-- What stands in front of the first field stands in front of the joined text. -/
theorem intercalate_append_cons (front field : List α) (rest : List (List α)) :
    [delimiter].intercalate ((front ++ field) :: rest) =
      front ++ [delimiter].intercalate (field :: rest) := by
  cases rest with
  | nil => rw [List.intercalate_singleton, List.intercalate_singleton]
  | cons next rest =>
      rw [List.intercalate_cons_cons, List.intercalate_cons_cons]
      simp only [List.append_assoc]

omit [DecidableEq α] in
/-- The delimiter in front of the second field. -/
theorem intercalate_merged (front back field : List α) (rest : List (List α)) :
    front ++ [delimiter].intercalate ((back ++ delimiter :: field) :: rest) =
      [delimiter].intercalate ((front ++ back) :: field :: rest) := by
  have apart : back ++ delimiter :: field = (back ++ [delimiter]) ++ field := by
    rw [List.append_assoc]
    rfl
  rw [apart, intercalate_append_cons, List.intercalate_cons_cons]
  simp only [List.append_assoc]

/-- A delimiter in a field can be taken for the one beside it. -/
theorem exists_shifted (several : 2 ≤ fields.length)
    (found : ∃ field ∈ fields, delimiter ∈ field) :
    ∃ others, others.length = fields.length ∧ others ≠ fields ∧
      [delimiter].intercalate others = [delimiter].intercalate fields := by
  induction fields with
  | nil => cases several
  | cons field rest induction =>
      cases rest with
      | nil => exact absurd several (by simp)
      | cons next rest =>
          by_cases here : delimiter ∈ field
          · rcases List.append_of_mem here with ⟨front, back, split⟩
            subst split
            refine ⟨front :: (back ++ delimiter :: next) :: rest, rfl, ?_, ?_⟩
            · intro equal
              have lengths := congrArg List.length (List.cons.inj equal).1
              rw [List.length_append, List.length_cons] at lengths
              omega
            · rw [List.intercalate_cons_cons, intercalate_merged]
              have apart : front ++ delimiter :: back = (front ++ [delimiter]) ++ back := by
                rw [List.append_assoc]
                rfl
              rw [apart]
          · have later : ∃ other ∈ next :: rest, delimiter ∈ other := by
              rcases found with ⟨other, member, inside⟩
              rcases List.mem_cons.mp member with equal | member
              · exact absurd (equal ▸ inside) here
              · exact ⟨other, member, inside⟩
            cases rest with
            | nil =>
                rcases later with ⟨other, member, inside⟩
                rw [List.mem_singleton] at member
                subst member
                rcases List.append_of_mem inside with ⟨front, back, split⟩
                subst split
                refine ⟨[field ++ delimiter :: front, back], rfl, ?_, ?_⟩
                · intro equal
                  have lengths := congrArg List.length (List.cons.inj equal).1
                  rw [List.length_append, List.length_cons] at lengths
                  omega
                · rw [List.intercalate_cons_cons, List.intercalate_cons_cons]
                  simp
            | cons last rest =>
                rcases induction (by simp) later with ⟨others, length, different, same⟩
                refine ⟨field :: others, congrArg Nat.succ length, ?_, ?_⟩
                · intro equal
                  exact different (List.cons.inj equal).2
                · have nonempty : others ≠ [] := by
                    intro empty
                    subst empty
                    cases length
                  rw [List.intercalate_cons_of_ne_nil nonempty, same,
                    ← List.intercalate_cons_of_ne_nil (List.cons_ne_nil next _)]

/-- Joined, two or more fields are told apart from all lists as long exactly when none has
the delimiter. -/
theorem forall_eq_of_length_iff (several : 2 ≤ fields.length) :
    (∀ others : List (List α), others.length = fields.length →
      [delimiter].intercalate others = [delimiter].intercalate fields → others = fields) ↔
      ∀ field ∈ fields, delimiter ∉ field := by
  constructor
  · intro unique field member inside
    rcases exists_shifted several ⟨field, member, inside⟩ with
      ⟨others, length, different, same⟩
    exact different (unique others length same)
  · exact fun free _ length same => eq_of_intercalate free length same

omit [DecidableEq α] in
/-- Joined, a list is told apart from the lists of all lengths exactly when it is one field,
not empty and without the delimiter. -/
theorem forall_eq_iff :
    (∀ others : List (List α),
      [delimiter].intercalate others = [delimiter].intercalate fields → others = fields) ↔
      ∃ field, fields = [field] ∧ field ≠ [] ∧ delimiter ∉ field := by
  constructor
  · intro unique
    match fields with
    | [] => cases unique [[]] rfl
    | [field] =>
        refine ⟨field, rfl, ?_, ?_⟩
        · intro empty
          subst empty
          cases unique [] rfl
        · intro inside
          rcases List.append_of_mem inside with ⟨front, back, split⟩
          subst split
          have two := unique [front, back] (by
            rw [List.intercalate_cons_cons, List.intercalate_singleton,
              List.intercalate_singleton, List.append_assoc]
            rfl)
          exact absurd (congrArg List.length two) (by simp)
    | field :: next :: rest =>
        have fewer := unique ((field ++ delimiter :: next) :: rest)
          (intercalate_merged [] field next rest)
        have lengths := congrArg List.length fewer
        rw [List.length_cons, List.length_cons, List.length_cons] at lengths
        omega
  · intro single others same
    rcases single with ⟨field, isSingle, nonempty, free⟩
    subst isSingle
    match others with
    | [] =>
        rw [List.intercalate_singleton] at same
        exact absurd same.symm nonempty
    | [other] =>
        rw [List.intercalate_singleton, List.intercalate_singleton] at same
        rw [same]
    | other :: next :: rest =>
        have inside : delimiter ∈ [delimiter].intercalate (other :: next :: rest) := by
          rw [List.intercalate_cons_cons]
          simp
        rw [same, List.intercalate_singleton] at inside
        exact absurd inside free

end Lists

section Strings

variable {delimiter : Char} {fields : List String}

theorem map_toList_inj {left right : List String} :
    left.map String.toList = right.map String.toList ↔ left = right :=
  List.map_inj_right fun _ _ equal => String.toList_inj.mp equal

theorem intercalate_inj {left right : List String} :
    (String.singleton delimiter).intercalate left =
        (String.singleton delimiter).intercalate right ↔
      [delimiter].intercalate (left.map String.toList) =
        [delimiter].intercalate (right.map String.toList) := by
  rw [← String.toList_inj, String.toList_intercalate, String.toList_intercalate,
    String.toList_singleton]

theorem map_toList_ofList (texts : List (List Char)) :
    (texts.map String.ofList).map String.toList = texts := by
  rw [List.map_map]
  exact (List.map_congr_left fun text _ => String.toList_ofList).trans (List.map_id texts)

theorem forall_eq_of_length_iff_string (several : 2 ≤ fields.length) :
    (∀ others : List String, others.length = fields.length →
      (String.singleton delimiter).intercalate others =
        (String.singleton delimiter).intercalate fields → others = fields) ↔
      ∀ field ∈ fields, delimiter ∉ field.toList := by
  have lists := @forall_eq_of_length_iff _ _ delimiter (fields.map String.toList)
    (by rw [List.length_map]; exact several)
  rw [List.forall_mem_map] at lists
  rw [← lists]
  constructor
  · intro unique others length same
    rw [List.length_map] at length
    have equal := unique (others.map String.ofList) (by rw [List.length_map, length])
      (by rw [intercalate_inj, map_toList_ofList, same])
    rw [← equal, map_toList_ofList]
  · intro unique others length same
    apply map_toList_inj.mp
    apply unique
    · rw [List.length_map, List.length_map, length]
    · exact intercalate_inj.mp same

theorem forall_eq_iff_string :
    (∀ others : List String, (String.singleton delimiter).intercalate others =
        (String.singleton delimiter).intercalate fields → others = fields) ↔
      ∃ field, fields = [field] ∧ field ≠ "" ∧ delimiter ∉ field.toList := by
  have lists := @forall_eq_iff _ delimiter (fields.map String.toList)
  constructor
  · intro unique
    have single := lists.mp fun others same => by
      have equal := unique (others.map String.ofList)
        (by rw [intercalate_inj, map_toList_ofList, same])
      rw [← equal, map_toList_ofList]
    rcases single with ⟨field, isSingle, nonempty, free⟩
    rcases List.map_eq_singleton_iff.mp isSingle with ⟨text, isText, read⟩
    subst read
    refine ⟨text, isText, ?_, free⟩
    intro empty
    subst empty
    exact nonempty rfl
  · intro single others same
    rcases single with ⟨field, isSingle, nonempty, free⟩
    subst isSingle
    apply map_toList_inj.mp
    apply lists.mpr
    · refine ⟨field.toList, rfl, ?_, free⟩
      intro empty
      exact nonempty (String.toList_inj.mp empty)
    · exact intercalate_inj.mp same

end Strings

end Delimited

end Annex
