import Mathlib.Data.List.Infix
import Mathlib.Order.Defs.LinearOrder
import Annex.Foundation.Paging

namespace Annex

namespace Paging

/-! Reading rows that are only ever added to, page by page, where a page goes on with the rows
not before the time of the last one read. Several rows can have one time, and their order need
not be that of their times. -/

variable {Row : Type u} {Time : Type v} [LinearOrder Time]

/-- Past the cursor is what is not before it. -/
def fromTime (time : Row → Time) (limit : Nat) : Paging Row Time where
  past cursor row := decide (cursor ≤ time row)
  cursorOf := time
  limit := limit

/-- The cursor that each page is read with. It stays after an empty page. -/
def cursorAt {Cursor : Type v} (paging : Paging Row Cursor) (first : Option Cursor)
    (contents : Nat → List Row) : Nat → Option Cursor
  | 0 => first
  | count + 1 =>
      match (paging.page (cursorAt paging first contents count) (contents count)).getLast? with
      | none => cursorAt paging first contents count
      | some last => some (paging.cursorOf last)

/-- The pages as they are read. -/
def reading {Cursor : Type v} (paging : Paging Row Cursor) (first : Option Cursor)
    (contents : Nat → List Row) (count : Nat) : List Row :=
  paging.page (paging.cursorAt first contents count) (contents count)

/-- The rows not before the cursor. -/
def remaining (time : Row → Time) (cursor : Option Time) (rows : List Row) : List Row :=
  rows.filter fun row => cursor.all fun earliest => decide (earliest ≤ time row)

/-- If a page of these rows leaves rows out, then its last row is later than the cursor and none
of the rows left out is before it. -/
def Advances (time : Row → Time) (limit : Nat) (rows : List Row) (cursor : Option Time) : Prop :=
  ∀ last, (remaining time cursor rows)[limit - 1]? = some last →
    ∀ left ∈ (remaining time cursor rows).drop limit,
      (∀ earliest ∈ cursor, earliest < time last) ∧ time last ≤ time left

section Step

variable {time : Row → Time} {limit : Nat} {start rows : List Row} {cursor : Option Time}
  {row last : Row}

theorem mem_remaining : row ∈ remaining time cursor rows ↔
    row ∈ rows ∧ ∀ earliest ∈ cursor, earliest ≤ time row := by
  unfold remaining
  rw [List.mem_filter]
  apply and_congr_right
  intro _
  cases cursor with
  | none => simp
  | some earliest => simp

theorem remaining_grows (appended : start <+: rows) :
    remaining time cursor start <+: remaining time cursor rows := by
  exact appended.filter _

/-- Where more rows remain than a page has, rows added after them do not change it. -/
theorem page_of_le (appended : start <+: rows)
    (many : limit ≤ (remaining time cursor start).length) :
    (fromTime time limit).page cursor rows = (remaining time cursor start).take limit := by
  rcases @remaining_grows _ _ _ time _ _ cursor appended with ⟨new, same⟩
  have paged : (fromTime time limit).page cursor rows =
      (remaining time cursor rows).take limit := rfl
  rw [paged, ← same]
  exact List.take_append_of_le_length many

/-- A row that remains and is not in the page is left out by it. -/
theorem mem_page_or_drop (appended : start <+: rows) (member : row ∈ remaining time cursor start) :
    row ∈ (fromTime time limit).page cursor rows ∨
      row ∈ (remaining time cursor start).drop limit := by
  rw [← List.take_append_drop limit (remaining time cursor start), List.mem_append] at member
  rcases member with taken | dropped
  · exact Or.inl ((List.IsPrefix.take (remaining_grows appended) limit).subset taken)
  · exact Or.inr dropped

theorem getLast?_take_of_le (positive : 0 < limit) (many : limit ≤ rows.length) :
    (rows.take limit).getLast? = rows[limit - 1]? := by
  have inside : limit - 1 < rows.length := by omega
  rw [List.getLast?_take, if_neg (by omega), List.getElem?_eq_getElem inside]
  rfl

theorem le_length_of_mem_drop (dropped : row ∈ rows.drop limit) : limit ≤ rows.length := by
  rcases Nat.le_total limit rows.length with within | beyond
  · exact within
  · rw [List.drop_eq_nil_of_le beyond] at dropped
    cases dropped

/-- What is left out of a selection is left out of the whole. -/
theorem not_mem_take_of_filter {test : Row → Bool} (distinct : rows.Nodup)
    (dropped : row ∈ (rows.filter test).drop limit) : row ∉ rows.take limit := by
  have split := List.take_append_drop limit rows
  rw [← split, List.filter_append, List.drop_append] at dropped
  rw [← split, List.nodup_append] at distinct
  intro taken
  rcases List.mem_append.mp dropped with inFront | inBack
  · rw [List.drop_eq_nil_of_le] at inFront
    · cases inFront
    · exact (List.length_filter_le _ _).trans (List.length_take_le _ _)
  · have behind := List.mem_of_mem_filter (List.mem_of_mem_drop inBack)
    exact distinct.2.2 row taken row behind rfl

/-- A row that a page would leave out is in no page of an earlier cursor. -/
theorem not_mem_page_of_left {earlier : Option Time} (distinct : rows.Nodup)
    (appended : start <+: rows)
    (grows : ∀ other, other ∈ remaining time cursor rows → other ∈ remaining time earlier rows)
    (left : row ∈ (remaining time cursor start).drop limit) :
    row ∉ (fromTime time limit).page earlier rows := by
  have same : remaining time cursor rows =
      (remaining time earlier rows).filter fun row =>
        cursor.all fun earliest => decide (earliest ≤ time row) := by
    unfold remaining
    rw [List.filter_filter]
    apply List.filter_congr
    intro other member
    rw [Bool.eq_iff_iff, Bool.and_eq_true]
    constructor
    · intro isPast
      have found := grows other (List.mem_filter.mpr ⟨member, isPast⟩)
      exact ⟨isPast, (List.mem_filter.mp found).2⟩
    · exact And.left
  have dropped := (List.IsPrefix.drop (remaining_grows appended) limit).subset left
  rw [same] at dropped
  exact not_mem_take_of_filter (distinct.filter _) dropped

end Step

section Read

variable {time : Row → Time} {limit : Nat} {start : List Row} {contents : Nat → List Row}
  {first : Option Time} {count : Nat} {row last : Row}

theorem cursorAt_succ
    (ended : ((fromTime time limit).reading first contents count).getLast? = some last) :
    (fromTime time limit).cursorAt first contents (count + 1) = some (time last) := by
  unfold reading at ended
  rw [cursorAt, ended]
  rfl

/-- No cursor is earlier than the one before. -/
theorem remaining_of_succ {rows : List Row}
    (member : row ∈ remaining time
      ((fromTime time limit).cursorAt first contents (count + 1)) rows) :
    row ∈ remaining time ((fromTime time limit).cursorAt first contents count) rows := by
  cases ended : ((fromTime time limit).reading first contents count).getLast? with
  | none =>
      unfold reading at ended
      rw [cursorAt, ended] at member
      exact member
  | some last =>
      rw [cursorAt_succ ended, mem_remaining] at member
      rw [mem_remaining]
      refine ⟨member.1, ?_⟩
      intro earliest isCursor
      have paged := List.mem_of_getLast? ended
      unfold reading at paged
      rw [isCursor] at paged
      exact (of_decide_eq_true (past_of_mem_page paged)).trans (member.2 _ rfl)

theorem remaining_of_le {rows : List Row} (more : Nat)
    (member : row ∈ remaining time
      ((fromTime time limit).cursorAt first contents (count + more)) rows) :
    row ∈ remaining time ((fromTime time limit).cursorAt first contents count) rows := by
  induction more with
  | zero => exact member
  | succ more induction => exact induction (remaining_of_succ member)

/-- A page that leaves rows out ends with the last row that fits. -/
theorem cursorAt_of_left (positive : 0 < limit) (appended : ∀ time, start <+: contents time)
    (left : row ∈ (remaining time
      ((fromTime time limit).cursorAt first contents count) start).drop limit) :
    ∃ last, (remaining time ((fromTime time limit).cursorAt first contents count)
        start)[limit - 1]? = some last ∧
      (fromTime time limit).cursorAt first contents (count + 1) = some (time last) := by
  have many := le_length_of_mem_drop left
  have inside := Nat.lt_of_lt_of_le (Nat.pred_lt (Nat.pos_iff_ne_zero.mp positive)) many
  refine ⟨_, List.getElem?_eq_getElem inside, ?_⟩
  apply cursorAt_succ
  unfold reading
  rw [page_of_le (appended count) many, getLast?_take_of_le positive many]
  exact List.getElem?_eq_getElem inside

/-- Where every page advances, what is not before a cursor is read from there on. Ever fewer rows
are later than the cursor. -/
theorem read_of_advances (positive : 0 < limit) (appended : ∀ time, start <+: contents time)
    (advances : ∀ count, Advances time limit start
      ((fromTime time limit).cursorAt first contents count))
    {later : List Row}
    (within : ∀ other ∈ start, (∀ earliest ∈ (fromTime time limit).cursorAt first contents count,
      earliest < time other) → other ∈ later)
    (member : row ∈ remaining time ((fromTime time limit).cursorAt first contents count) start) :
    ∃ count, row ∈ (fromTime time limit).reading first contents count := by
  classical
  induction size : later.length using Nat.strongRecOn generalizing count later with
  | ind bound induction =>
      rcases @mem_page_or_drop _ _ _ _ limit _ _ _ _ (appended count) member with paged | left
      · exact ⟨count, paged⟩
      · rcases cursorAt_of_left positive appended left with ⟨last, isLast, next⟩
        rcases advances count last isLast row left with ⟨isLater, notBefore⟩
        have lastMember := (mem_remaining.mp (List.mem_of_getElem? isLast)).1
        have fewer : (later.filter fun other => other ≠ last).length < bound := by
          rw [← size, List.length_filter_lt_length_iff_exists]
          exact ⟨last, within last lastMember isLater, by simp⟩
        refine @induction _ fewer (count + 1) _ ?_ ?_ rfl
        · intro other otherMember after
          have afterLast : time last < time other := after _ next
          apply List.mem_filter.mpr
          constructor
          · apply within other otherMember
            exact fun earliest isCursor => (isLater earliest isCursor).trans afterLast
          · apply decide_eq_true
            intro same
            rw [same] at afterLast
            exact lt_irrefl _ afterLast
        · rw [next, mem_remaining]
          refine ⟨(mem_remaining.mp member).1, ?_⟩
          intro earliest isCursor
          exact Option.some.inj isCursor ▸ notBefore

/-- A page that leaves rows out and does not advance comes again forever. -/
theorem cursorAt_stuck (positive : 0 < limit) (appended : ∀ time, start <+: contents time)
    (left : row ∈ (remaining time
      ((fromTime time limit).cursorAt first contents count) start).drop limit)
    (same : (fromTime time limit).cursorAt first contents (count + 1) =
      (fromTime time limit).cursorAt first contents count) (more : Nat) :
    (fromTime time limit).cursorAt first contents (count + more) =
      (fromTime time limit).cursorAt first contents count := by
  induction more with
  | zero => rfl
  | succ more induction =>
      rw [← induction] at left
      rcases cursorAt_of_left positive appended left with ⟨last, isLast, next⟩
      rw [induction] at left isLast
      rcases cursorAt_of_left positive appended left with ⟨again, isAgain, after⟩
      rw [isLast, Option.some.injEq] at isAgain
      rw [← Nat.add_assoc, next, isAgain, ← after, same]

/-- Every row of the start that is not before the first cursor is read at some time, exactly if
every page advances over the rows of the start. -/
theorem read_all_iff (positive : 0 < limit) (distinct : ∀ time, (contents time).Nodup)
    (appended : ∀ time, start <+: contents time) :
    (∀ row ∈ start, (∀ earliest ∈ first, earliest ≤ time row) →
      ∃ count, row ∈ (fromTime time limit).reading first contents count) ↔
    ∀ count, Advances time limit start
      ((fromTime time limit).cursorAt first contents count) := by
  constructor
  · intro read count last isLast row left
    have started := remaining_of_le count (Nat.zero_add count ▸ List.mem_of_mem_drop left)
    have member := mem_remaining.mp started
    rcases read row member.1 member.2 with ⟨found, inPage⟩
    rcases cursorAt_of_left positive appended left with ⟨same, isSame, next⟩
    rw [isLast, Option.some.injEq] at isSame
    rw [← isSame] at next
    constructor
    · intro earliest isCursor
      have lastMember := mem_remaining.mp (List.mem_of_getElem? isLast)
      apply lt_of_le_of_ne (lastMember.2 earliest isCursor)
      intro stays
      rw [← stays, ← isCursor] at next
      apply not_mem_page_of_left (distinct found) (appended found) _ left inPage
      intro other otherMember
      rcases Nat.le_total count found with before | after
      · rcases Nat.exists_eq_add_of_le before with ⟨more, isMore⟩
        have stuck := cursorAt_stuck positive appended left next more
        rw [← isMore] at stuck
        exact stuck ▸ otherMember
      · rcases Nat.exists_eq_add_of_le after with ⟨more, isMore⟩
        rw [isMore] at otherMember
        exact remaining_of_le more otherMember
    · rcases Nat.lt_or_ge count found with before | after
      · rcases Nat.exists_eq_add_of_lt before with ⟨more, isMore⟩
        have there : row ∈ remaining time
            ((fromTime time limit).cursorAt first contents found) (contents found) :=
          List.mem_of_mem_take inPage
        rw [isMore, Nat.add_right_comm] at there
        have later := remaining_of_le more there
        exact (mem_remaining.mp later).2 _ next
      · exfalso
        apply not_mem_page_of_left (distinct found) (appended found) _ left inPage
        intro other otherMember
        rcases Nat.exists_eq_add_of_le after with ⟨more, isMore⟩
        rw [isMore] at otherMember
        exact remaining_of_le more otherMember
  · intro advances row member notBefore
    apply @read_of_advances _ _ _ time limit start contents first 0 row positive appended advances
      start
    · exact fun other otherMember _ => otherMember
    · exact mem_remaining.mpr ⟨member, notBefore⟩

end Read

end Paging

end Annex
