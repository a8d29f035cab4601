import Mathlib.Algebra.GroupWithZero.Nat
import Mathlib.Algebra.BigOperators.Group.List.Lemmas
import Mathlib.Data.List.Sort
import Mathlib.Data.List.Forall2
import Annex.Foundation.TimedWindow

namespace Annex

/-! Queries of a log that is read newest first and grows meanwhile: pages that are asked for by
their offset, and counts by a key. -/

variable {α : Type u} {Key : Type v}

/-- `LIMIT limit OFFSET offset`. -/
def pageAt (limit offset : Nat) (entries : List α) : List α :=
  (entries.drop offset).take limit

/-- Pages with their offsets, each where the one before ends, up to one that is not full. -/
def Walk (limit : Nat) : Nat → List (Nat × List α) → Prop
  | _, [] => False
  | offset, [page] => page.1 = offset ∧ page.2.length < limit
  | offset, page :: next :: rest => page.1 = offset ∧ Walk limit (offset + limit) (next :: rest)

section Pages

variable {limit offset : Nat} {entries before : List α}

theorem length_pageAt :
    (pageAt limit offset entries).length = min limit (entries.length - offset) := by
  rw [pageAt, List.length_take, List.length_drop]

/-- A page that is not full is the rest. -/
theorem pageAt_of_short (short : (pageAt limit offset entries).length < limit) :
    pageAt limit offset entries = entries.drop offset := by
  rw [length_pageAt] at short
  apply List.take_of_length_le
  rw [List.length_drop]
  omega

/-- An entry behind the offset is on the page or behind it. -/
theorem mem_pageAt_or {entry : α} (member : entry ∈ entries.drop offset) :
    entry ∈ pageAt limit offset entries ∨ entry ∈ entries.drop (offset + limit) := by
  rw [← List.take_append_drop limit (entries.drop offset), List.drop_drop] at member
  exact List.mem_append.mp member

/-- New entries at the front move the others behind every offset. -/
theorem drop_subset_of_suffix (grown : before <:+ entries) :
    before.drop offset ⊆ entries.drop offset := by
  rcases grown with ⟨newer, rfl⟩
  intro entry member
  rw [List.drop_append, List.mem_append]
  exact Or.inr ((List.drop_suffix_drop_left before (Nat.sub_le _ _)).subset member)

/-- A walk over the pages of a growing list misses no entry of the list it began with. -/
theorem mem_of_walk {pages : List (Nat × List α)} {lists : List (List α)}
    (reads : List.Forall₂ (fun page entries => page.2 = pageAt limit page.1 entries) pages lists)
    (grows : lists.Pairwise fun old new => old <:+ new)
    (later : ∀ entries ∈ lists, before <:+ entries) (walk : Walk limit offset pages)
    {entry : α} (member : entry ∈ before.drop offset) :
    ∃ page ∈ pages, entry ∈ page.2 := by
  induction reads generalizing before offset with
  | nil => exact walk.elim
  | @cons page entries pages lists read reads induction =>
      have there := drop_subset_of_suffix (later entries List.mem_cons_self) member
      cases pages with
      | nil =>
          have short := walk.2
          rw [read, walk.1] at short
          refine ⟨page, List.mem_cons_self, ?_⟩
          rw [read, walk.1, pageAt_of_short short]
          exact there
      | cons next rest =>
          rcases mem_pageAt_or there with here | behind
          · refine ⟨page, List.mem_cons_self, ?_⟩
            rw [read, walk.1]
            exact here
          · rw [List.pairwise_cons] at grows
            rcases induction grows.2 grows.1 walk.2 behind with ⟨found, isPage, listed⟩
            exact ⟨found, List.mem_cons_of_mem _ isPage, listed⟩

end Pages

/-! Counts. -/

section Counts

variable [DecidableEq Key] (key : α → Key) (ties : Key → Nat)

/-- `COUNT(DISTINCT key)`. -/
def countDistinct (entries : List α) : Nat :=
  (entries.map key).dedup.length

/-- `SELECT key, COUNT(*) AS cnt ... GROUP BY key ORDER BY cnt DESC`. The ties say in which order
keys of one count come. -/
def countByKey (entries : List α) : List (Key × Nat) :=
  ((entries.map key).dedup.map fun value => (value, (entries.map key).count value)).insertionSort
    (TimeOrder (OrderDual.toDual ∘ Prod.snd) fun group => ties group.1)

variable {key ties} {entries : List α}

theorem countDistinct_le_length : countDistinct key entries ≤ entries.length := by
  have length_eq : (entries.map key).length = entries.length := List.length_map _
  rw [countDistinct, ← length_eq]
  exact (List.dedup_sublist _).length_le

theorem countDistinct_append_le (entries newer : List α) :
    countDistinct key entries ≤ countDistinct key (entries ++ newer) := by
  refine ((List.nodup_dedup _).subperm ?_).length_le
  intro value member
  rw [List.mem_dedup] at member ⊢
  rw [List.map_append]
  exact List.mem_append_left _ member

theorem perm_countByKey : (countByKey key ties entries).Perm
    ((entries.map key).dedup.map fun value => (value, (entries.map key).count value)) :=
  List.perm_insertionSort _ _

/-- The counts add up to the number of entries. -/
theorem sum_countByKey : ((countByKey key ties entries).map Prod.snd).sum = entries.length := by
  rw [(perm_countByKey.map Prod.snd).sum_eq, List.map_map]
  exact (List.sum_map_count_dedup_eq_length (entries.map key)).trans (List.length_map _)

/-- Every key has one count. -/
theorem nodup_countByKey : ((countByKey key ties entries).map Prod.fst).Nodup := by
  rw [(perm_countByKey.map Prod.fst).nodup_iff, List.map_map]
  exact (List.map_id _).symm ▸ List.nodup_dedup _

theorem sorted_countByKey :
    (countByKey key ties entries).Pairwise fun left right => right.2 ≤ left.2 := by
  have ordered := List.pairwise_insertionSort
    (TimeOrder (OrderDual.toDual ∘ Prod.snd) fun group : Key × Nat => ties group.1)
    ((entries.map key).dedup.map fun value => (value, (entries.map key).count value))
  apply ordered.imp
  intro left right before
  exact OrderDual.toDual_le_toDual.mp before.time_le

end Counts

end Annex
