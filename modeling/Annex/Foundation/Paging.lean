import Mathlib.Data.List.Nodup
import Mathlib.Data.List.Sort

namespace Annex

section Ties

variable {Row : Type u} (order : Row → Row → Prop) [DecidableRel order] [Std.Total order]
  [IsTrans Row order] {ties : Row → Row → Prop} {rows : List Row}

theorem pairwise_orderedInsert_ties {row : Row} (before : ∀ other ∈ rows, ties row other)
    (ordered : rows.Pairwise fun left right =>
      order left right ∧ (order right left → ties left right)) :
    (rows.orderedInsert order row).Pairwise fun left right =>
      order left right ∧ (order right left → ties left right) := by
  induction rows with
  | nil => exact List.pairwise_singleton _ row
  | cons first rest induction =>
      rw [List.forall_mem_cons] at before
      rw [List.orderedInsert_cons]
      split
      · next less =>
          refine List.pairwise_cons.mpr ⟨?_, ordered⟩
          intro other member
          rcases List.mem_cons.mp member with same | later
          · rw [same]
            exact ⟨less, fun _ => before.1⟩
          · have behind := (List.pairwise_cons.mp ordered).1 other later
            exact ⟨trans_of order less behind.1, fun _ => before.2 other later⟩
      · next notLess =>
          rw [List.pairwise_cons] at ordered
          refine List.pairwise_cons.mpr ⟨?_, induction before.2 ordered.2⟩
          intro other member
          rcases (List.mem_orderedInsert order).mp member with same | later
          · rw [same]
            exact ⟨(total_of order row first).resolve_left notLess,
              fun less => absurd less notLess⟩
          · exact ordered.1 other later

/-- A sort leaves the rows that it does not tell apart in the order they had. -/
theorem pairwise_insertionSort_ties (ordered : rows.Pairwise ties) :
    (rows.insertionSort order).Pairwise fun left right =>
      order left right ∧ (order right left → ties left right) := by
  induction rows with
  | nil => exact List.Pairwise.nil
  | cons row rest induction =>
      rw [List.pairwise_cons] at ordered
      refine pairwise_orderedInsert_ties order ?_ (induction ordered.2)
      intro other member
      exact ordered.1 other ((List.mem_insertionSort order).mp member)

/-- It does not matter whether the rows are sorted or selected first. -/
theorem insertionSort_filter
    (antisymm : ∀ left right, ties left right → ties right left → left = right)
    (ordered : rows.Pairwise ties) (test : Row → Bool) :
    (rows.filter test).insertionSort order = (rows.insertionSort order).filter test := by
  have selected := pairwise_insertionSort_ties order (ordered.filter test)
  have sorted := (pairwise_insertionSort_ties order ordered).filter test
  have same := (List.perm_insertionSort order (rows.filter test)).trans
    ((List.perm_insertionSort order rows).symm.filter test)
  apply same.eq_of_pairwise _ selected sorted
  intro left right _ _ before after
  exact antisymm left right (before.2 after.1) (after.2 before.1)

/-- A row behind all others stays there. -/
theorem insertionSort_concat {row : Row}
    (antisymm : ∀ left right, ties left right → ties right left → left = right)
    (ordered : (rows ++ [row]).Pairwise ties) (behind : ∀ other ∈ rows, order other row) :
    (rows ++ [row]).insertionSort order = rows.insertionSort order ++ [row] := by
  have together := pairwise_insertionSort_ties order ordered
  rw [List.pairwise_append] at ordered
  have apart : (rows.insertionSort order ++ [row]).Pairwise fun left right =>
      order left right ∧ (order right left → ties left right) := by
    rw [List.pairwise_append]
    refine ⟨pairwise_insertionSort_ties order ordered.1, List.pairwise_singleton _ row, ?_⟩
    intro left leftMember right rightMember
    have member := (List.mem_insertionSort order).mp leftMember
    rw [List.mem_singleton.mp rightMember]
    exact ⟨behind left member, fun _ => ordered.2.2 left member row (List.mem_singleton_self row)⟩
  have same := (List.perm_insertionSort order (rows ++ [row])).trans
    ((List.perm_insertionSort order rows).symm.append_right [row])
  apply same.eq_of_pairwise _ together apart
  intro left right _ _ before after
  exact antisymm left right (before.2 after.1) (after.2 before.1)

end Ties

/-- How rows are read page by page: which rows lie past a cursor, the cursor that the last row
of a page gives, and how many rows a page has at most. -/
structure Paging (Row : Type u) (Cursor : Type v) where
  past : Cursor → Row → Bool
  cursorOf : Row → Cursor
  limit : Nat

namespace Paging

/-! Reading rows page by page while they change. Between one page and the next there can be
other rows than before. -/

variable {Row : Type u} {Cursor : Type v} (paging : Paging Row Cursor)

/-- The first rows past the cursor. -/
def page (cursor : Option Cursor) (contents : List Row) : List Row :=
  (contents.filter fun row => cursor.all (paging.past · row)).take paging.limit

/-- The pages, of what there is when each is read, from the given cursor on. After an empty page
no other is read. -/
def pages (first : Option Cursor) (contents : Nat → List Row) : Nat → List Row
  | 0 => paging.page first (contents 0)
  | count + 1 =>
      match (pages first contents count).getLast? with
      | none => []
      | some last => paging.page (some (paging.cursorOf last)) (contents (count + 1))

/-- The rows of the first pages together. -/
def received (first : Option Cursor) (contents : Nat → List Row) (count : Nat) : List Row :=
  (List.range count).flatMap (paging.pages first contents)

section Pages

variable {paging} {first : Option Cursor} {contents : Nat → List Row} {count : Nat} {row : Row}

theorem page_sublist (cursor : Option Cursor) (rows : List Row) :
    (paging.page cursor rows).Sublist rows :=
  (List.take_sublist _ _).trans List.filter_sublist

theorem past_of_mem_page {cursor : Cursor} {rows : List Row}
    (member : row ∈ paging.page (some cursor) rows) : paging.past cursor row = true :=
  (List.mem_filter.mp (List.mem_of_mem_take member)).2

theorem pages_next {last : Row} (ended : (paging.pages first contents count).getLast? = some last) :
    paging.pages first contents (count + 1) =
      paging.page (some (paging.cursorOf last)) (contents (count + 1)) := by
  rw [pages, ended]

theorem pages_done (ended : paging.pages first contents count = []) :
    paging.pages first contents (count + 1) = [] := by
  rw [pages, ended]
  rfl

theorem received_succ : paging.received first contents (count + 1) =
    paging.received first contents count ++ paging.pages first contents count := by
  unfold received
  rw [List.range_succ, List.flatMap_append, List.flatMap_singleton]

theorem mem_received : row ∈ paging.received first contents count ↔
    ∃ earlier < count, row ∈ paging.pages first contents earlier := by
  unfold received
  rw [List.mem_flatMap]
  simp only [List.mem_range]

end Pages

/-- Only rows that come before all others are added. -/
def OnlyFront (precedes : Row → Row → Prop) (contents : Nat → List Row) : Prop :=
  ∀ time, ∀ row ∈ contents (time + 1),
    row ∈ contents time ∨ ∀ old ∈ contents time, ¬ precedes old row

/-- The pages list every row that is there throughout, each once and in order, and end with an
empty page. -/
structure Complete (precedes : Row → Row → Prop) (contents : Nat → List Row) : Prop where
  ordered : ∀ count, (paging.received none contents count).Pairwise precedes
  everything : ∀ count, paging.pages none contents count = [] →
    ∀ row, (∀ time ≤ count, row ∈ contents time) → row ∈ paging.received none contents count
  ends : OnlyFront precedes contents → ∃ count, paging.pages none contents count = []

/-- Past the cursor of the row lies what the row precedes. -/
def Separates (precedes : Row → Row → Prop) (last : Row) (rows : List Row) : Prop :=
  ∀ row ∈ rows, paging.past (paging.cursorOf last) row = true ↔ precedes last row

/-- Every cursor separates what is there when the next page is read. -/
def Separated (precedes : Row → Row → Prop) (contents : Nat → List Row) : Prop :=
  ∀ count last, (paging.pages none contents count).getLast? = some last →
    paging.Separates precedes last (contents (count + 1))

section Exclusive

variable {paging} {precedes : Row → Row → Prop} {contents : Nat → List Row} {count : Nat}

/-- What a page leaves out comes after its last row. -/
theorem mem_page_or_precedes {cursor : Option Cursor} {rows : List Row} {last row : Row}
    (sorted : rows.Pairwise precedes) (ended : (paging.page cursor rows).getLast? = some last)
    (member : row ∈ rows) (isPast : cursor.all (paging.past · row) = true) :
    row ∈ paging.page cursor rows ∨ precedes last row := by
  have filtered : row ∈ rows.filter fun row => cursor.all (paging.past · row) :=
    List.mem_filter.mpr ⟨member, isPast⟩
  rw [← List.take_append_drop paging.limit (rows.filter _), List.mem_append] at filtered
  rcases filtered with taken | dropped
  · exact Or.inl taken
  · have split := sorted.filter fun row => cursor.all (paging.past · row)
    rw [← List.take_append_drop paging.limit (rows.filter _), List.pairwise_append] at split
    exact Or.inr (split.2.2 last (List.mem_of_getLast? ended) row dropped)

/-- A page is empty only if nothing lies past its cursor. -/
theorem not_past_of_page_nil {cursor : Option Cursor} {rows : List Row} {row : Row}
    (positive : 0 < paging.limit) (empty : paging.page cursor rows = []) (member : row ∈ rows) :
    cursor.all (paging.past · row) ≠ true := by
  intro isPast
  have filtered : row ∈ rows.filter fun row => cursor.all (paging.past · row) :=
    List.mem_filter.mpr ⟨member, isPast⟩
  rcases List.take_eq_nil_iff.mp empty with none | nil
  · omega
  · rw [nil] at filtered
    cases filtered

/-- What is there throughout has been received or comes after the last row received. -/
theorem mem_received_or_precedes (sorted : ∀ time, (contents time).Pairwise precedes)
    (separated : paging.Separated precedes contents) {last row : Row}
    (ended : (paging.pages none contents count).getLast? = some last)
    (throughout : ∀ time ≤ count, row ∈ contents time) :
    row ∈ paging.received none contents (count + 1) ∨ precedes last row := by
  induction count generalizing last with
  | zero =>
      rw [received_succ]
      exact mem_page_or_precedes (sorted 0) ended (throughout 0 (Nat.le_refl 0)) rfl
  | succ count induction =>
      rw [received_succ]
      cases before : (paging.pages none contents count).getLast? with
      | none =>
          rw [pages_done (List.getLast?_eq_none_iff.mp before)] at ended
          cases ended
      | some earlier =>
          have here := throughout (count + 1) (Nat.le_refl _)
          rcases induction before fun time less => throughout time (Nat.le_succ_of_le less) with
            received | after
          · exact Or.inl (List.mem_append_left _ received)
          · rw [pages_next before] at ended ⊢
            have isPast := (separated count earlier before row here).mpr after
            rcases mem_page_or_precedes (sorted _) ended here isPast with paged | later
            · exact Or.inl (List.mem_append_right _ paged)
            · exact Or.inr later

theorem mem_received_of_done (positive : 0 < paging.limit)
    (sorted : ∀ time, (contents time).Pairwise precedes)
    (separated : paging.Separated precedes contents) {row : Row}
    (done : paging.pages none contents count = [])
    (throughout : ∀ time ≤ count, row ∈ contents time) :
    row ∈ paging.received none contents count := by
  induction count with
  | zero =>
      have none := not_past_of_page_nil positive done (throughout 0 (Nat.le_refl 0))
      exact absurd rfl none
  | succ count induction =>
      cases before : (paging.pages none contents count).getLast? with
      | none =>
          rw [received_succ]
          apply List.mem_append_left
          apply induction (List.getLast?_eq_none_iff.mp before)
          exact fun time less => throughout time (Nat.le_succ_of_le less)
      | some last =>
          have here := throughout (count + 1) (Nat.le_refl _)
          rcases mem_received_or_precedes sorted separated before
            fun time less => throughout time (Nat.le_succ_of_le less) with received | after
          · exact received
          · rw [pages_next before] at done
            have isPast := (separated count last before row here).mpr after
            exact absurd isPast (not_past_of_page_nil positive done here)

theorem mem_contents_of_mem_pages {row : Row} (member : row ∈ paging.pages none contents count) :
    row ∈ contents count := by
  cases count with
  | zero => exact (page_sublist none _).subset member
  | succ count =>
      rw [pages] at member
      cases before : (paging.pages none contents count).getLast? with
      | none =>
          rw [before] at member
          cases member
      | some last =>
          rw [before] at member
          exact (page_sublist _ _).subset member

theorem pairwise_pages (sorted : ∀ time, (contents time).Pairwise precedes) :
    (paging.pages none contents count).Pairwise precedes := by
  cases count with
  | zero => exact (sorted 0).sublist (page_sublist none _)
  | succ count =>
      rw [pages]
      cases (paging.pages none contents count).getLast? with
      | none => exact List.Pairwise.nil
      | some last => exact (sorted _).sublist (page_sublist _ _)

theorem precedes_last {rows : List Row} (sorted : rows.Pairwise precedes) {last row : Row}
    (ended : rows.getLast? = some last) (member : row ∈ rows) :
    row = last ∨ precedes row last := by
  rcases List.getLast?_eq_some_iff.mp ended with ⟨front, split⟩
  rw [split, List.pairwise_append] at sorted
  rw [split, List.mem_append] at member
  rcases member with before | same
  · exact Or.inr (sorted.2.2 row before last (List.mem_singleton_self last))
  · exact Or.inl (List.mem_singleton.mp same)

/-- Where a page is read past a cursor that separates, it comes after all that was received. -/
theorem precedes_of_received (sorted : ∀ time, (contents time).Pairwise precedes)
    (trans : ∀ first second third, precedes first second → precedes second third →
      precedes first third)
    (separated : paging.Separated precedes contents) :
    (paging.received none contents (count + 1)).Pairwise precedes ∧
      ∀ last, (paging.pages none contents count).getLast? = some last →
        ∀ row ∈ paging.received none contents (count + 1), row = last ∨ precedes row last := by
  induction count with
  | zero =>
      rw [received_succ]
      have paged := @pairwise_pages _ _ paging _ _ 0 sorted
      exact ⟨paged, fun last ended row member => precedes_last paged ended member⟩
  | succ count induction =>
      rw [received_succ]
      have paged := @pairwise_pages _ _ paging _ _ (count + 1) sorted
      cases before : (paging.pages none contents count).getLast? with
      | none =>
          have done := pages_done (List.getLast?_eq_none_iff.mp before)
          rw [done, List.append_nil]
          exact ⟨induction.1, fun last ended => nomatch ended⟩
      | some earlier =>
          have across : ∀ old ∈ paging.received none contents (count + 1),
              ∀ row ∈ paging.pages none contents (count + 1), precedes old row := by
            intro old oldMember row member
            have here := mem_contents_of_mem_pages member
            rw [pages_next before] at member
            have after := (separated count earlier before row here).mp (past_of_mem_page member)
            rcases induction.2 earlier before old oldMember with same | less
            · exact same ▸ after
            · exact trans _ _ _ less after
          refine ⟨List.pairwise_append.mpr ⟨induction.1, paged, across⟩, ?_⟩
          intro last ended row member
          rcases List.mem_append.mp member with old | new
          · exact Or.inr (across row old last (List.mem_of_getLast? ended))
          · exact precedes_last paged ended new

/-- Where only rows are added that come before all others, ever fewer come after the last row
received. -/
theorem pages_end (irrefl : ∀ row, ¬ precedes row row)
    (trans : ∀ first second third, precedes first second → precedes second third →
      precedes first third)
    (separated : paging.Separated precedes contents) (front : OnlyFront precedes contents)
    {last : Row} (ended : (paging.pages none contents count).getLast? = some last)
    {remaining : List Row} (follow : ∀ row ∈ contents count, precedes last row → row ∈ remaining) :
    ∃ later, paging.pages none contents later = [] := by
  classical
  induction size : remaining.length using Nat.strongRecOn
    generalizing count last remaining with
  | ind bound induction =>
      cases next : (paging.pages none contents (count + 1)).getLast? with
      | none => exact ⟨count + 1, List.getLast?_eq_none_iff.mp next⟩
      | some later =>
          have here := mem_contents_of_mem_pages (List.mem_of_getLast? ended)
          have old (row : Row) (member : row ∈ contents (count + 1)) (after : precedes last row) :
              row ∈ contents count := by
            rcases front count row member with old | first
            · exact old
            · exact absurd after (first last here)
          have laterMember := List.mem_of_getLast? next
          have there := mem_contents_of_mem_pages laterMember
          rw [pages_next ended] at laterMember
          have after := (separated count last ended later there).mp (past_of_mem_page laterMember)
          have fewer : (remaining.filter fun row => row ≠ later).length < bound := by
            rw [← size, List.length_filter_lt_length_iff_exists]
            exact ⟨later, follow later (old later there after) after, by simp⟩
          refine induction _ fewer next ?_ rfl
          intro row member behind
          have behindLast := trans _ _ _ after behind
          apply List.mem_filter.mpr
          refine ⟨follow row (old row member behindLast) behindLast, ?_⟩
          apply decide_eq_true
          intro same
          rw [same] at behind
          exact irrefl later behind

/-- Where every cursor separates, the pages are complete. -/
theorem complete_of_separated (positive : 0 < paging.limit)
    (irrefl : ∀ row, ¬ precedes row row)
    (trans : ∀ first second third, precedes first second → precedes second third →
      precedes first third)
    (sorted : ∀ time, (contents time).Pairwise precedes)
    (separated : paging.Separated precedes contents) : paging.Complete precedes contents where
  ordered count := by
    cases count with
    | zero => exact List.Pairwise.nil
    | succ count => exact (precedes_of_received sorted trans separated).1
  everything count done row throughout :=
    mem_received_of_done positive sorted separated done throughout
  ends front := by
    cases first : (paging.pages none contents 0).getLast? with
    | none => exact ⟨0, List.getLast?_eq_none_iff.mp first⟩
    | some last =>
        exact pages_end irrefl trans separated front first fun row member _ => member

end Exclusive

/-! Pages of rows that do not change. -/

/-- At the end of every page, and of the last one, the cursor of the last row has that row not
past it, and the next one past it. -/
def BoundariesSeparate (rows : List Row) : Prop :=
  ∀ front back last, rows = front ++ back → front.getLast? = some last →
    paging.limit ∣ front.length ∨ back = [] →
      paging.past (paging.cursorOf last) last = false ∧
        ∀ next, back.head? = some next → paging.past (paging.cursorOf last) next = true

section Constant

variable {paging} {precedes : Row → Row → Prop} {rows : List Row} {count : Nat}

/-- The rows past a cursor are a last part of them. -/
theorem filter_past_eq_drop (monotone : ∀ cursor left right, precedes left right →
      paging.past cursor left = true → paging.past cursor right = true)
    (sorted : rows.Pairwise precedes) (cursor : Cursor) :
    ∃ start ≤ rows.length, rows.filter (paging.past cursor) = rows.drop start := by
  induction rows with
  | nil => exact ⟨0, Nat.le_refl _, rfl⟩
  | cons row rest induction =>
      rw [List.pairwise_cons] at sorted
      cases isPast : paging.past cursor row with
      | true =>
          refine ⟨0, Nat.zero_le _, ?_⟩
          rw [List.drop_zero, List.filter_eq_self]
          intro other member
          rcases List.mem_cons.mp member with same | later
          · exact same ▸ isPast
          · exact monotone cursor row other (sorted.1 other later) isPast
      | false =>
          rcases induction sorted.2 with ⟨start, bounded, same⟩
          refine ⟨start + 1, Nat.succ_le_succ bounded, ?_⟩
          rw [List.filter_cons_of_neg (by simp [isPast]), List.drop_succ_cons, same]

theorem page_none_eq : paging.page none rows = rows.take paging.limit := by
  unfold page
  exact congrArg (List.take paging.limit) (List.filter_eq_self.mpr fun _ _ => rfl)

/-- The rows past a cursor that stands between two of them. -/
theorem filter_past_of_boundary (monotone : ∀ cursor left right, precedes left right →
      paging.past cursor left = true → paging.past cursor right = true)
    {front back : List Row} (sorted : (front ++ back).Pairwise precedes) {cursor : Cursor}
    {last : Row} (ended : front.getLast? = some last) (notPast : paging.past cursor last = false)
    (next : ∀ first, back.head? = some first → paging.past cursor first = true) :
    (front ++ back).filter (paging.past cursor) = back := by
  rw [List.pairwise_append] at sorted
  have none : front.filter (paging.past cursor) = [] := by
    rw [List.filter_eq_nil_iff]
    intro row member isPast
    rcases precedes_last sorted.1 ended member with same | before
    · rw [← same, isPast] at notPast
      cases notPast
    · rw [monotone cursor row last before isPast] at notPast
      cases notPast
  have all : back.filter (paging.past cursor) = back := by
    rw [List.filter_eq_self]
    cases back with
    | nil => exact fun row member => nomatch member
    | cons first rest =>
        have isPast := next first rfl
        intro row member
        rcases List.mem_cons.mp member with same | later
        · exact same ▸ isPast
        · exact monotone cursor first row ((List.pairwise_cons.mp sorted.2.1).1 row later) isPast
  rw [List.filter_append, none, all, List.nil_append]

/-- After the page, what is past its cursor is what the pages so far have left out. -/
def ResumesAt (paging : Paging Row Cursor) (rows : List Row) (count : Nat) : Prop :=
  ∀ last, (paging.pages none (fun _ => rows) count).getLast? = some last →
    rows.filter (paging.past (paging.cursorOf last)) = rows.drop ((count + 1) * paging.limit)

/-- Pages that resume are the chunks of the rows. -/
theorem pages_of_resumes (resumes : ∀ earlier < count, ResumesAt paging rows earlier) :
    paging.pages none (fun _ => rows) count =
      (rows.drop (count * paging.limit)).take paging.limit := by
  induction count with
  | zero => rw [pages, page_none_eq, Nat.zero_mul, List.drop_zero]
  | succ count induction =>
      have before := induction fun earlier less => resumes earlier (Nat.lt_succ_of_lt less)
      cases ended : (paging.pages none (fun _ => rows) count).getLast? with
      | some last =>
          rw [pages_next ended, page, ← resumes count (Nat.lt_succ_self count) last ended]
          rfl
      | none =>
          have empty := List.getLast?_eq_none_iff.mp ended
          rw [pages_done empty]
          rw [empty] at before
          rcases List.take_eq_nil_iff.mp before.symm with none | nil
          · rw [none, List.take_zero]
          · rw [Nat.succ_mul, ← List.drop_drop, nil, List.drop_nil, List.take_nil]

theorem received_of_resumes (resumes : ∀ earlier < count, ResumesAt paging rows earlier) :
    paging.received none (fun _ => rows) (count + 1) =
      rows.take ((count + 1) * paging.limit) := by
  induction count with
  | zero =>
      rw [received_succ, pages_of_resumes resumes, Nat.zero_mul, List.drop_zero, Nat.one_mul]
      rfl
  | succ count induction =>
      rw [received_succ, induction fun time less => resumes time (Nat.lt_succ_of_lt less),
        pages_of_resumes resumes, Nat.succ_mul (count + 1), List.take_add]

/-- The last row of a page is the last of all rows up to there. -/
theorem last_of_pages (resumes : ∀ earlier < count, ResumesAt paging rows earlier) {last : Row}
    (ended : (paging.pages none (fun _ => rows) count).getLast? = some last) :
    (rows.take ((count + 1) * paging.limit)).getLast? = some last := by
  rw [Nat.succ_mul, List.take_add, ← pages_of_resumes resumes, List.getLast?_append, ended]
  rfl

theorem resumes_of_boundaries (monotone : ∀ cursor left right, precedes left right →
      paging.past cursor left = true → paging.past cursor right = true)
    (sorted : rows.Pairwise precedes) (boundaries : paging.BoundariesSeparate rows)
    (count : Nat) : ResumesAt paging rows count := by
  induction count using Nat.strongRecOn with
  | ind count induction =>
      intro last ended
      have lastOfFront := last_of_pages induction ended
      have split := List.take_append_drop ((count + 1) * paging.limit) rows
      have atEnd : paging.limit ∣ (rows.take ((count + 1) * paging.limit)).length ∨
          rows.drop ((count + 1) * paging.limit) = [] := by
        rw [List.length_take, List.drop_eq_nil_iff]
        rcases Nat.le_total ((count + 1) * paging.limit) rows.length with within | beyond
        · rw [Nat.min_eq_left within]
          exact Or.inl (Nat.dvd_mul_left _ _)
        · exact Or.inr beyond
      rcases boundaries _ _ last split.symm lastOfFront atEnd with ⟨notPast, next⟩
      have filtered := filter_past_of_boundary monotone (split.symm ▸ sorted) lastOfFront notPast
        next
      rw [split] at filtered
      exact filtered

/-- The page that ends with a boundary. -/
theorem page_of_boundary (positive : 0 < paging.limit) {front back : List Row}
    (split : rows = front ++ back) (some : front ≠ [])
    (atEnd : paging.limit ∣ front.length ∨ back = []) :
    ∃ count, count * paging.limit < front.length ∧
      rows.take ((count + 1) * paging.limit) = front ∧
        rows.drop ((count + 1) * paging.limit) = back := by
  have size := List.length_pos_iff.mpr some
  rcases atEnd with ⟨chunks, isLength⟩ | none
  · cases chunks with
    | zero => omega
    | succ count =>
        rw [Nat.mul_comm] at isLength
        refine ⟨count, ?_, ?_, ?_⟩
        · rw [isLength, Nat.succ_mul]
          omega
        · rw [split, ← isLength, List.take_left]
        · rw [split, ← isLength, List.drop_left]
  · rw [none, List.append_nil] at split
    have within := Nat.div_mul_le_self (front.length - 1) paging.limit
    have beyond := @Nat.lt_div_mul_add (front.length - 1) _ positive
    refine ⟨(front.length - 1) / paging.limit, by omega, ?_, ?_⟩
    · rw [split, List.take_of_length_le (by rw [Nat.succ_mul]; omega)]
    · rw [split, none, List.drop_eq_nil_iff, Nat.succ_mul]
      omega

theorem boundaries_of_resumes (positive : 0 < paging.limit) (irrefl : ∀ row, ¬ precedes row row)
    (sorted : rows.Pairwise precedes) (resumes : ∀ count, ResumesAt paging rows count) :
    paging.BoundariesSeparate rows := by
  intro front back last split lastOfFront atEnd
  have some : front ≠ [] := by
    intro none
    rw [none] at lastOfFront
    cases lastOfFront
  rcases page_of_boundary positive split some atEnd with ⟨count, within, isFront, isBack⟩
  have paged := @pages_of_resumes _ _ paging rows count fun earlier _ => resumes earlier
  cases ended : (paging.pages none (fun _ => rows) count).getLast? with
  | none =>
      rw [List.getLast?_eq_none_iff.mp ended] at paged
      rcases List.take_eq_nil_iff.mp paged.symm with zero | nil
      · omega
      · rw [List.drop_eq_nil_iff, split, List.length_append] at nil
        omega
  | some found =>
      have same := last_of_pages (fun earlier _ => resumes earlier) ended
      rw [isFront, lastOfFront, Option.some.injEq] at same
      have filtered := resumes count found ended
      rw [← same, isBack] at filtered
      constructor
      · rw [← Bool.not_eq_true]
        intro isPast
        have member := List.mem_of_getLast? lastOfFront
        have inBack : last ∈ back := by
          rw [← filtered, List.mem_filter, split]
          exact ⟨List.mem_append_left _ member, isPast⟩
        rw [split, List.pairwise_append] at sorted
        exact irrefl last (sorted.2.2 last member last inBack)
      · intro next isNext
        have inBack := List.mem_of_head? isNext
        rw [← filtered] at inBack
        exact (List.mem_filter.mp inBack).2

/-- The pages that resume separate. -/
theorem separated_of_resumes (irrefl : ∀ row, ¬ precedes row row)
    (trans : ∀ first second third, precedes first second → precedes second third →
      precedes first third)
    (sorted : rows.Pairwise precedes) (resumes : ∀ count, ResumesAt paging rows count) :
    paging.Separated precedes fun _ => rows := by
  intro count last ended row member
  have lastOfFront := last_of_pages (fun earlier _ => resumes earlier) ended
  have filtered := resumes count last ended
  rw [← List.take_append_drop ((count + 1) * paging.limit) rows, List.pairwise_append] at sorted
  constructor
  · intro isPast
    have inBack := List.mem_filter.mpr ⟨member, isPast⟩
    rw [filtered] at inBack
    exact sorted.2.2 last (List.mem_of_getLast? lastOfFront) row inBack
  · intro after
    rw [← List.take_append_drop ((count + 1) * paging.limit) rows, List.mem_append] at member
    rcases member with inFront | inBack
    · rcases precedes_last sorted.1 lastOfFront inFront with same | before
      · rw [same] at after
        exact absurd after (irrefl last)
      · exact absurd (trans _ _ _ before after) (irrefl row)
    · rw [← filtered] at inBack
      exact (List.mem_filter.mp inBack).2

theorem nodup_of_pairwise (irrefl : ∀ row, ¬ precedes row row) (sorted : rows.Pairwise precedes) :
    rows.Nodup := by
  apply sorted.imp
  intro left right before same
  rw [same] at before
  exact irrefl right before

/-- Once complete pages have ended, the rows have been received as they are. -/
theorem received_of_complete (irrefl : ∀ row, ¬ precedes row row)
    (trans : ∀ first second third, precedes first second → precedes second third →
      precedes first third)
    (sorted : rows.Pairwise precedes) (complete : paging.Complete precedes fun _ => rows)
    (done : paging.pages none (fun _ => rows) count = []) :
    paging.received none (fun _ => rows) count = rows := by
  have asymm (left right : Row) : precedes left right → precedes right left → left = right :=
    fun before after => absurd (trans _ _ _ before after) (irrefl left)
  have ordered := complete.ordered count
  apply List.Perm.eq_of_pairwise (fun left right _ _ => asymm left right) ordered sorted
  rw [List.perm_ext_iff_of_nodup (nodup_of_pairwise irrefl ordered)
    (nodup_of_pairwise irrefl sorted)]
  intro row
  constructor
  · intro member
    rcases mem_received.mp member with ⟨earlier, _, paged⟩
    exact mem_contents_of_mem_pages paged
  · exact fun member => complete.everything count done row fun _ _ => member

theorem pages_stay_done (done : paging.pages none (fun _ => rows) count = []) (more : Nat) :
    paging.pages none (fun _ => rows) (count + more) = [] := by
  induction more with
  | zero => exact done
  | succ more induction => exact pages_done induction

theorem received_grows (more : Nat) : paging.received none (fun _ => rows) count <+:
    paging.received none (fun _ => rows) (count + more) := by
  induction more with
  | zero => exact List.prefix_rfl
  | succ more induction =>
      rw [← Nat.add_assoc, received_succ]
      exact induction.trans (List.prefix_append _ _)

theorem resumes_of_complete (positive : 0 < paging.limit) (irrefl : ∀ row, ¬ precedes row row)
    (trans : ∀ first second third, precedes first second → precedes second third →
      precedes first third)
    (monotone : ∀ cursor left right, precedes left right →
      paging.past cursor left = true → paging.past cursor right = true)
    (sorted : rows.Pairwise precedes) (complete : paging.Complete precedes fun _ => rows)
    (count : Nat) : ResumesAt paging rows count := by
  have onlyFront : OnlyFront precedes fun _ => rows := fun _ _ member => Or.inl member
  rcases complete.ends onlyFront with ⟨enough, done⟩
  induction count using Nat.strongRecOn with
  | ind count induction =>
      intro last ended
      have soFar := received_of_resumes induction
      rcases filter_past_eq_drop monotone sorted (paging.cursorOf last) with
        ⟨start, _, filtered⟩
      have next : paging.pages none (fun _ => rows) (count + 1) =
          (rows.drop start).take paging.limit := by
        rw [← filtered]
        exact pages_next ended
      have isPrefix : paging.received none (fun _ => rows) (count + 1 + 1) <+: rows := by
        have whole := received_of_complete irrefl trans sorted complete
          (pages_stay_done done (count + 1 + 1))
        rw [Nat.add_comm enough] at whole
        have grows := @received_grows _ _ paging rows (count + 1 + 1) enough
        rw [whole] at grows
        exact grows
      rw [received_succ, soFar, next] at isPrefix
      rw [filtered]
      cases rest : rows.drop start with
      | nil =>
          rw [rest, List.take_nil] at next
          have whole := received_of_complete irrefl trans sorted complete next
          have size := congrArg List.length (soFar.symm.trans whole)
          rw [List.length_take] at size
          rw [eq_comm, List.drop_eq_nil_iff]
          omega
      | cons first tail =>
          have isFirst : rows[start]? = some first := by
            rw [← List.head?_drop, rest]
            rfl
          have same : rows[start]? = rows[(count + 1) * paging.limit]? := by
            rw [rest, List.take_cons positive] at isPrefix
            rcases isPrefix with ⟨others, whole⟩
            have others := whole.trans
              (List.take_append_drop ((count + 1) * paging.limit) rows).symm
            rw [List.append_assoc, List.append_cancel_left_eq] at others
            rw [isFirst, ← List.head?_drop, ← others]
            rfl
          have inside := (List.getElem?_eq_some_iff.mp isFirst).1
          have distinct := nodup_of_pairwise irrefl sorted
          rw [← rest, (List.getElem?_inj inside distinct).mp same]

/-- Pages of unchanging rows are complete exactly if the cursors separate at the end of every
page. -/
theorem complete_const_iff (positive : 0 < paging.limit) (irrefl : ∀ row, ¬ precedes row row)
    (trans : ∀ first second third, precedes first second → precedes second third →
      precedes first third)
    (monotone : ∀ cursor left right, precedes left right →
      paging.past cursor left = true → paging.past cursor right = true)
    (sorted : rows.Pairwise precedes) :
    paging.Complete precedes (fun _ => rows) ↔ paging.BoundariesSeparate rows := by
  constructor
  · intro complete
    apply boundaries_of_resumes positive irrefl sorted
    exact resumes_of_complete positive irrefl trans monotone sorted complete
  · intro boundaries
    apply complete_of_separated positive irrefl trans fun _ => sorted
    apply separated_of_resumes irrefl trans sorted
    exact resumes_of_boundaries monotone sorted boundaries

end Constant

end Paging

end Annex
