import Mathlib.Data.List.Basic

namespace Annex

/-! A loop that looks at each element of a list, collects what some of them come to, and stops
at the first failure. Another one appends the chunks of a stream up to a limit. -/

variable {α β ε : Type}

/-- What the elements come to, unless one of them fails. -/
def collect (visit : α → Except ε (Option β)) : List α → Except ε (List β)
  | [] => .ok []
  | element :: rest =>
      match visit element with
      | .error error => .error error
      | .ok outcome =>
          match collect visit rest with
          | .error error => .error error
          | .ok found => .ok (outcome.toList ++ found)

variable {visit : α → Except ε (Option β)} {elements : List α} {found : List β}

/-- Every element was visited, and everything found is what one of them came to. -/
theorem collect_ok (collected : collect visit elements = .ok found) :
    (∀ element ∈ elements, ∃ outcome, visit element = .ok outcome ∧
        ∀ value, outcome = some value → value ∈ found) ∧
      ∀ value ∈ found, ∃ element ∈ elements, visit element = .ok (some value) := by
  induction elements generalizing found with
  | nil =>
      cases collected
      exact ⟨(fun _ member => nomatch member), fun _ member => nomatch member⟩
  | cons first rest induction =>
      rw [collect] at collected
      split at collected
      · cases collected
      · next outcome visited =>
        split at collected
        · cases collected
        · next later restCollected =>
          cases collected
          have others := induction restCollected
          constructor
          · intro element member
            rcases List.mem_cons.mp member with same | member
            · rw [same]
              refine ⟨outcome, visited, ?_⟩
              intro value same
              exact List.mem_append_left _ (Option.mem_toList.mpr same)
            · rcases others.1 element member with ⟨other, otherVisited, kept⟩
              exact ⟨other, otherVisited, fun value same =>
                List.mem_append_right _ (kept value same)⟩
          · intro value member
            rcases List.mem_append.mp member with member | member
            · rw [Option.mem_toList.mp member] at visited
              exact ⟨first, List.mem_cons_self, visited⟩
            · rcases others.2 value member with ⟨other, otherMember, otherVisited⟩
              exact ⟨other, List.mem_cons_of_mem _ otherMember, otherVisited⟩

/-- Where no element fails, the loop comes to its end. -/
theorem collect_of_forall (visited : ∀ element ∈ elements, ∃ outcome,
    visit element = .ok outcome) : ∃ found, collect visit elements = .ok found := by
  induction elements with
  | nil => exact ⟨[], rfl⟩
  | cons first rest induction =>
      rcases visited first List.mem_cons_self with ⟨outcome, visitedFirst⟩
      rcases induction fun other member =>
        visited other (List.mem_cons_of_mem _ member) with ⟨found, collected⟩
      refine ⟨outcome.toList ++ found, ?_⟩
      rw [collect, visitedFirst, collected]

section Chunks

/-- The chunks after those in a buffer. A stream that fails or grows beyond the limit is not
read any further. -/
def readCapped (maxBytes : Nat) (tooLarge : ε) :
    List α → List (Except ε (List α)) → Except ε (List α)
  | buffer, [] => .ok buffer
  | _, .error error :: _ => .error error
  | buffer, .ok chunk :: chunks =>
      if maxBytes < buffer.length + chunk.length then .error tooLarge
      else readCapped maxBytes tooLarge (buffer ++ chunk) chunks

/-- No more is read than the limit. -/
theorem length_readCapped {maxBytes : Nat} {tooLarge : ε} {buffer read : List α}
    {chunks : List (Except ε (List α))} (bounded : buffer.length ≤ maxBytes)
    (isRead : readCapped maxBytes tooLarge buffer chunks = .ok read) :
    read.length ≤ maxBytes := by
  induction chunks generalizing buffer with
  | nil =>
      cases isRead
      exact bounded
  | cons chunk chunks induction =>
      cases chunk with
      | error error => cases isRead
      | ok chunk =>
          rw [readCapped] at isRead
          split at isRead
          · cases isRead
          · next fits =>
            refine induction ?_ isRead
            rw [List.length_append]
            exact Nat.le_of_not_lt fits

end Chunks

end Annex
