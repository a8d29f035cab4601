import Mathlib.Data.List.Dedup
import Mathlib.Data.List.Perm.Subperm
import Mathlib.Data.List.Sort
import Mathlib.Order.Defs.LinearOrder

namespace Annex

/-! The last rows of a log by the times they bear. Rows of one time may come in any order, and
where the window begins among them, any of them may be the ones left out. -/

variable {Row : Type u} {Time : Type v} [LinearOrder Time]

/-- One reading of the last rows of a log, the earliest first. -/
structure IsWindow (time : Row → Time) (limit : Nat) (rows window : List Row) : Prop where
  ordered : window.Pairwise fun earlier later => time earlier ≤ time later
  length : window.length = min limit rows.length
  latest : ∃ left, (window ++ left).Perm rows ∧
    ∀ row ∈ window, ∀ other ∈ left, time other ≤ time row

/-- The rows of one time. -/
def rowsAt (time : Row → Time) (moment : Time) (rows : List Row) : List Row :=
  rows.filter fun row => decide (time row = moment)

/-- How many rows are later. -/
def countAfter (time : Row → Time) (moment : Time) (rows : List Row) : Nat :=
  rows.countP fun row => decide (moment < time row)

/-- How many rows are not earlier. -/
def countSince (time : Row → Time) (moment : Time) (rows : List Row) : Nat :=
  rows.countP fun row => decide (moment ≤ time row)

/-- The order of rows of one time does not matter: any two swap if all of the time are in the
window, and any two are the same if the window begins among them. -/
structure TiesHarmless (time : Row → Time) (limit : Nat) (swaps same : Row → Row → Prop)
    (rows : List Row) : Prop where
  whole : ∀ first ∈ rows, ∀ second ∈ rows, time first = time second →
    countSince time (time first) rows ≤ limit → swaps first second
  cut : ∀ first ∈ rows, ∀ second ∈ rows, time first = time second →
    countAfter time (time first) rows < limit → limit < countSince time (time first) rows →
    same first second

section Counts

variable {time : Row → Time} {limit : Nat} {rows window : List Row} {row : Row} {moment : Time}

theorem mem_rowsAt : row ∈ rowsAt time moment rows ↔ row ∈ rows ∧ time row = moment := by
  simp [rowsAt]

theorem rowsAt_append (first second : List Row) :
    rowsAt time moment (first ++ second) =
      rowsAt time moment first ++ rowsAt time moment second := by
  simp [rowsAt]

theorem countAfter_append (first second : List Row) :
    countAfter time moment (first ++ second) =
      countAfter time moment first + countAfter time moment second := by
  simp [countAfter]

theorem countSince_eq (time : Row → Time) (moment : Time) (rows : List Row) :
    countSince time moment rows =
      countAfter time moment rows + (rowsAt time moment rows).length := by
  induction rows with
  | nil => rfl
  | cons row rows induction =>
      simp only [countSince, countAfter, rowsAt, List.countP_cons, List.filter_cons] at induction ⊢
      rcases lt_trichotomy moment (time row) with later | same | earlier
      · simp [later, later.le, later.ne', induction]
        omega
      · simp [← same, induction]
        omega
      · simp [earlier.not_gt, earlier.not_ge, earlier.ne, induction]

/-- Where no row is earlier, each is of the time or later. -/
theorem length_of_not_earlier (late : ∀ row ∈ rows, moment ≤ time row) :
    rows.length = countAfter time moment rows + (rowsAt time moment rows).length := by
  rw [← countSince_eq, eq_comm]
  apply List.countP_eq_length.mpr
  intro row member
  simpa using late row member

theorem countAfter_eq_zero (early : ∀ row ∈ rows, time row ≤ moment) :
    countAfter time moment rows = 0 := by
  apply List.countP_eq_zero.mpr
  intro row member
  simpa using early row member

theorem rowsAt_eq_nil (away : ∀ row ∈ rows, time row ≠ moment) : rowsAt time moment rows = [] := by
  apply List.filter_eq_nil_iff.mpr
  intro row member
  simpa using away row member

/-- How many rows of a time a window has: all of them, or as many as there is room for. -/
theorem IsWindow.count_at (reading : IsWindow time limit rows window) (moment : Time) :
    (rowsAt time moment window).length =
      min (rowsAt time moment rows).length (limit - countAfter time moment rows) := by
  rcases reading.latest with ⟨left, same, latest⟩
  have counted : countAfter time moment rows =
      countAfter time moment window + countAfter time moment left := by
    rw [← countAfter_append]
    exact (same.countP_eq _).symm
  have ofTime : (rowsAt time moment rows).length =
      (rowsAt time moment window).length + (rowsAt time moment left).length := by
    rw [← List.length_append, ← rowsAt_append]
    exact ((same.filter _).length_eq).symm
  have sizes : window.length + left.length = rows.length := by
    rw [← List.length_append]
    exact same.length_eq
  have room := reading.length
  have inWindow : countSince time moment window ≤ window.length := List.countP_le_length
  rw [countSince_eq] at inWindow
  by_cases early : ∀ other ∈ left, time other < moment
  · have noneAfter : countAfter time moment left = 0 :=
      countAfter_eq_zero fun other member => (early other member).le
    have noneAt : rowsAt time moment left = [] :=
      rowsAt_eq_nil fun other member => (early other member).ne
    rw [noneAt, List.length_nil] at ofTime
    omega
  · push Not at early
    rcases early with ⟨other, otherLeft, late⟩
    have someLeft := List.length_pos_of_mem otherLeft
    have full : window.length = limit := by omega
    have lateWindow : window.length =
        countAfter time moment window + (rowsAt time moment window).length :=
      length_of_not_earlier fun row member => le_trans late (latest row member other otherLeft)
    by_cases after : ∃ later ∈ left, moment < time later
    · rcases after with ⟨later, laterLeft, after⟩
      have noneAt : rowsAt time moment window = [] :=
        rowsAt_eq_nil fun row member =>
          (lt_of_lt_of_le after (latest row member later laterLeft)).ne'
      rw [noneAt, List.length_nil] at lateWindow ⊢
      omega
    · push Not at after
      have noneAfter : countAfter time moment left = 0 := countAfter_eq_zero after
      omega

end Counts

section Folds

variable {time : Row → Time} {limit : Nat} {rows window other : List Row} {moment : Time}

/-- Of rows in time order, those of the first time come first. -/
theorem rowsAt_append_later (ordered : rows.Pairwise fun earlier later => time earlier ≤ time later)
    (late : ∀ row ∈ rows, moment ≤ time row) :
    rowsAt time moment rows ++ rows.filter (fun row => decide (moment < time row)) = rows := by
  induction rows with
  | nil => rfl
  | cons row rows induction =>
      have tail := induction ordered.of_cons fun other member =>
        late other (List.mem_cons_of_mem _ member)
      rcases (late row List.mem_cons_self).eq_or_lt with same | later
      · simp only [rowsAt, List.filter_cons, ← same] at tail ⊢
        simpa using tail
      · have allLater : ∀ other ∈ row :: rows, moment < time other := by
          intro other member
          rcases List.mem_cons.mp member with rfl | member
          · exact later
          · exact lt_of_lt_of_le later ((List.pairwise_cons.mp ordered).1 other member)
        rw [rowsAt_eq_nil fun other member => (allLater other member).ne', List.nil_append]
        apply List.filter_eq_self.mpr
        intro other member
        simpa using allLater other member

/-- Rows in time order are their groups, one time after the other. -/
theorem flatMap_rowsAt {times : List Time} (ascending : times.Pairwise (· < ·))
    (ordered : rows.Pairwise fun earlier later => time earlier ≤ time later)
    (covered : ∀ row ∈ rows, time row ∈ times) :
    times.flatMap (fun moment => rowsAt time moment rows) = rows := by
  induction times generalizing rows with
  | nil =>
      cases rows with
      | nil => rfl
      | cons row rows => exact absurd (covered row List.mem_cons_self) List.not_mem_nil
  | cons moment times induction =>
      have late : ∀ row ∈ rows, moment ≤ time row := by
        intro row member
        rcases List.mem_cons.mp (covered row member) with same | later
        · exact same.ge
        · exact ((List.pairwise_cons.mp ascending).1 _ later).le
      have rest : times.flatMap (fun later => rowsAt time later rows) =
          rows.filter fun row => decide (moment < time row) := by
        rw [← induction ascending.of_cons (ordered.filter _) ?_]
        · apply List.flatMap_congr
          intro later member
          have after := (List.pairwise_cons.mp ascending).1 later member
          simp only [rowsAt, List.filter_filter]
          apply List.filter_congr
          intro row _
          by_cases same : time row = later
          · simp [same, after]
          · simp [same]
        · intro row member
          simp only [List.mem_filter, decide_eq_true_eq] at member
          rcases List.mem_cons.mp (covered row member.1) with same | later
          · exact absurd same member.2.ne'
          · exact later
      rw [List.flatMap_cons, rest]
      exact rowsAt_append_later ordered late

variable {State : Type w} {step : State → Row → State}

/-- Passes over rows in time order agree if they agree on the rows of each time. -/
theorem foldl_eq_of_rowsAt
    (ordered : window.Pairwise fun earlier later => time earlier ≤ time later)
    (ordered' : other.Pairwise fun earlier later => time earlier ≤ time later)
    (groups : ∀ moment state, (rowsAt time moment window).foldl step state =
      (rowsAt time moment other).foldl step state) (start : State) :
    window.foldl step start = other.foldl step start := by
  let times := ((window ++ other).map time).dedup.insertionSort (· ≤ ·)
  have ascending : times.Pairwise (· < ·) := by
    have nodup : times.Nodup := (List.perm_insertionSort _ _).nodup_iff.mpr (List.nodup_dedup _)
    exact ((List.pairwise_insertionSort (· ≤ ·) _).and nodup).imp
      fun both => lt_of_le_of_ne both.1 both.2
  have covered : ∀ row ∈ window ++ other, time row ∈ times := by
    intro row member
    rw [List.mem_insertionSort, List.mem_dedup]
    exact List.mem_map_of_mem member
  have passes : ∀ (times : List Time) (start : State),
      (times.flatMap fun moment => rowsAt time moment window).foldl step start =
        (times.flatMap fun moment => rowsAt time moment other).foldl step start := by
    intro times
    induction times with
    | nil =>
        intro start
        rfl
    | cons moment times induction =>
        intro start
        simp only [List.flatMap_cons, List.foldl_append]
        rw [groups, induction]
  have before := passes times start
  rw [flatMap_rowsAt ascending ordered fun row member =>
      covered row (List.mem_append_left _ member),
    flatMap_rowsAt ascending ordered' fun row member =>
      covered row (List.mem_append_right _ member)] at before
  exact before

/-- What a step says of the rows: which swap, and which do the same. -/
structure TieLaws (step : State → Row → State) (good : State → Prop)
    (swaps same : Row → Row → Prop) : Prop where
  keeps : ∀ state row, good state → good (step state row)
  cancels : ∀ first second row, step first row = step second row → first = second
  swaps_iff : ∀ state first second,
    swaps first second ↔ step (step state first) second = step (step state second) first
  step_eq : ∀ state first second, same first second → step state first = step state second
  same : ∀ state first second, good state → step state first = step state second →
    same first second

namespace TieLaws

variable {good : State → Prop} {swaps same : Row → Row → Prop}

theorem foldl_keeps (laws : TieLaws step good swaps same) (state : State) (rows : List Row)
    (start : good state) : good (rows.foldl step state) := by
  induction rows generalizing state with
  | nil => exact start
  | cons row rows induction => exact induction _ (laws.keeps state row start)

theorem foldl_cancels (laws : TieLaws step good swaps same) {first second : State} (rows : List Row)
    (equal : rows.foldl step first = rows.foldl step second) : first = second := by
  induction rows generalizing first second with
  | nil => exact equal
  | cons row rows induction => exact laws.cancels _ _ row (induction equal)

/-- Passes over as many rows that all do the same agree. -/
theorem foldl_of_same (laws : TieLaws step good swaps same) {first second : List Row}
    (alike : ∀ row ∈ first, ∀ other ∈ second, same row other)
    (length : first.length = second.length) (state : State) :
    first.foldl step state = second.foldl step state := by
  induction first generalizing second state with
  | nil =>
      rw [List.length_nil, eq_comm, List.length_eq_zero_iff] at length
      rw [length]
  | cons row first induction =>
      cases second with
      | nil => simp at length
      | cons other second =>
          have head := alike row List.mem_cons_self other List.mem_cons_self
          rw [List.foldl_cons, List.foldl_cons, laws.step_eq state row other head]
          apply induction
          · intro later member last lastMember
            exact alike later (List.mem_cons_of_mem _ member) last
              (List.mem_cons_of_mem _ lastMember)
          · simpa using length

end TieLaws

theorem IsWindow.rowsAt_subperm (reading : IsWindow time limit rows window) (moment : Time) :
    (rowsAt time moment window).Subperm (rowsAt time moment rows) := by
  rcases reading.latest with ⟨left, same, _⟩
  have within : (rowsAt time moment (window ++ left)).Perm (rowsAt time moment rows) :=
    same.filter _
  rw [rowsAt_append] at within
  exact (List.sublist_append_left _ _).subperm.trans within.subperm

/-- Where all rows of a time fit, a window has all of them. -/
theorem IsWindow.rowsAt_perm (reading : IsWindow time limit rows window)
    (fits : countSince time moment rows ≤ limit) :
    (rowsAt time moment window).Perm (rowsAt time moment rows) := by
  have count := reading.count_at moment
  rw [countSince_eq] at fits
  apply (reading.rowsAt_subperm moment).perm_of_length_le
  omega

/-- If ties are harmless, all readings come to the same. -/
theorem TiesHarmless.foldl_eq {good : State → Prop} {swaps same : Row → Row → Prop}
    (harmless : TiesHarmless time limit swaps same rows) (laws : TieLaws step good swaps same)
    (reading : IsWindow time limit rows window) (reading' : IsWindow time limit rows other)
    (start : State) : window.foldl step start = other.foldl step start := by
  apply foldl_eq_of_rowsAt reading.ordered reading'.ordered
  intro moment state
  have inRows : ∀ {window}, IsWindow time limit rows window → ∀ row ∈ rowsAt time moment window,
      row ∈ rows ∧ time row = moment := by
    intro window reading row member
    exact mem_rowsAt.mp ((reading.rowsAt_subperm moment).subset member)
  have count := reading.count_at moment
  have count' := reading'.count_at moment
  have split := countSince_eq time moment rows
  rcases Nat.lt_or_ge limit (countSince time moment rows) with more | fits
  · apply laws.foldl_of_same
    · intro first firstMember second secondMember
      have firstAt := inRows reading first firstMember
      have secondAt := inRows reading' second secondMember
      have someHere := List.length_pos_of_mem firstMember
      apply harmless.cut first firstAt.1 second secondAt.1 (firstAt.2.trans secondAt.2.symm)
      · rw [firstAt.2]
        omega
      · rw [firstAt.2]
        exact more
    · omega
  · apply ((reading.rowsAt_perm fits).trans (reading'.rowsAt_perm fits).symm).foldl_eq'
    intro first firstMember second secondMember between
    have firstAt := inRows reading first firstMember
    have secondAt := inRows reading second secondMember
    apply (laws.swaps_iff between first second).mp
    apply harmless.whole first firstAt.1 second secondAt.1 (firstAt.2.trans secondAt.2.symm)
    rw [firstAt.2]
    exact fits

end Folds

section Readings

variable {time : Row → Time} {limit : Nat} {rows window front group back : List Row}
  {moment : Time}

/-- The last rows of a list in time order. -/
theorem isWindow_drop (ordered : rows.Pairwise fun earlier later => time earlier ≤ time later) :
    IsWindow time limit rows (rows.drop (rows.length - limit)) := by
  have cut : rows.take (rows.length - limit) ++ rows.drop (rows.length - limit) = rows :=
    List.take_append_drop _ _
  constructor
  · exact ordered.drop
  · rw [List.length_drop]
    omega
  · use rows.take (rows.length - limit)
    constructor
    · apply List.perm_append_comm.trans
      rw [cut]
    · rw [← cut] at ordered
      intro row member earlier earlierMember
      exact (List.pairwise_append.mp ordered).2.2 earlier earlierMember row member

/-- A reading depends only on which rows there are. -/
theorem IsWindow.perm {others : List Row} (reading : IsWindow time limit rows window)
    (same : rows.Perm others) : IsWindow time limit others window := by
  rcases reading.latest with ⟨left, covers, latest⟩
  exact ⟨reading.ordered, by rw [reading.length, same.length_eq], left, covers.trans same, latest⟩

/-- Rows sorted by time, and those of one time as they stood. -/
def byTime (time : Row → Time) (rows : List Row) : List Row :=
  rows.insertionSort fun left right => time left ≤ time right

theorem byTime_perm (rows : List Row) : (byTime time rows).Perm rows :=
  List.perm_insertionSort _ _

theorem byTime_ordered (rows : List Row) :
    (byTime time rows).Pairwise fun earlier later => time earlier ≤ time later := by
  have total : Std.Total fun left right : Row => time left ≤ time right :=
    ⟨fun left right => le_total (time left) (time right)⟩
  have transitive : IsTrans Row fun left right => time left ≤ time right :=
    ⟨fun _ _ _ first second => le_trans first second⟩
  exact List.pairwise_insertionSort _ _

theorem byTime_eq (ordered : rows.Pairwise fun earlier later => time earlier ≤ time later) :
    byTime time rows = rows :=
  ordered.insertionSort_eq

/-- The last rows by time are a reading. -/
theorem isWindow_byTime (time : Row → Time) (limit : Nat) (rows : List Row) :
    IsWindow time limit rows ((byTime time rows).drop (rows.length - limit)) := by
  have sorted : IsWindow time limit (byTime time rows)
      ((byTime time rows).drop ((byTime time rows).length - limit)) :=
    isWindow_drop (byTime_ordered rows)
  rw [(byTime_perm rows).length_eq] at sorted
  exact sorted.perm (byTime_perm rows)

/-- Rows in time order, cut at the rows of one time. -/
theorem exists_split (ordered : window.Pairwise fun earlier later => time earlier ≤ time later)
    (moment : Time) : ∃ front back, window = front ++ rowsAt time moment window ++ back ∧
      (∀ row ∈ front, time row < moment) ∧ ∀ row ∈ back, moment < time row := by
  induction window with
  | nil => exact ⟨[], [], rfl, by simp, by simp⟩
  | cons row window induction =>
      rcases induction ordered.of_cons with ⟨front, back, equal, early, late⟩
      rcases lt_or_ge (time row) moment with earlier | notEarlier
      · use row :: front, back
        have away : rowsAt time moment (row :: window) = rowsAt time moment window := by
          simp [rowsAt, earlier.ne]
        rw [away]
        constructor
        · rw [List.cons_append, List.cons_append, ← equal]
        · constructor
          · intro other member
            rcases List.mem_cons.mp member with rfl | member
            · exact earlier
            · exact early other member
          · exact late
      · have allLate : ∀ other ∈ row :: window, moment ≤ time other := by
          intro other member
          rcases List.mem_cons.mp member with rfl | member
          · exact notEarlier
          · exact le_trans notEarlier ((List.pairwise_cons.mp ordered).1 other member)
        use [], (row :: window).filter fun row => decide (moment < time row)
        constructor
        · rw [List.nil_append, rowsAt_append_later ordered allLate]
        · constructor
          · simp
          · intro other member
            simpa using (List.mem_filter.mp member).2

/-- In time order, rows of one time may make place for others of the time. -/
theorem ordered_replace {other : List Row}
    (ordered : (front ++ group ++ back).Pairwise fun earlier later => time earlier ≤ time later)
    (ofTime : ∀ row ∈ other, time row = moment)
    (known : ∀ row ∈ other, ∃ old ∈ group, time old = time row) :
    (front ++ other ++ back).Pairwise fun earlier later => time earlier ≤ time later := by
  rw [List.append_assoc, List.pairwise_append, List.pairwise_append] at ordered ⊢
  rcases ordered with ⟨inFront, ⟨_, inBack, groupBack⟩, frontRest⟩
  constructor
  · exact inFront
  · constructor
    · constructor
      · apply List.pairwise_of_forall_mem_list
        intro first firstMember second secondMember
        rw [ofTime first firstMember, ofTime second secondMember]
      · constructor
        · exact inBack
        · intro row member later laterMember
          rcases known row member with ⟨old, oldMember, same⟩
          rw [← same]
          exact groupBack old oldMember later laterMember
    · intro row member later laterMember
      rcases List.mem_append.mp laterMember with inOther | inBack
      · rcases known later inOther with ⟨old, oldMember, same⟩
        rw [← same]
        exact frontRest row member old (List.mem_append_left _ oldMember)
      · exact frontRest row member later (List.mem_append_right _ inBack)

/-- Rows of one time within a reading may come in any order. -/
theorem IsWindow.reorder {other : List Row}
    (reading : IsWindow time limit rows (front ++ group ++ back))
    (ofTime : ∀ row ∈ group, time row = moment) (same : other.Perm group) :
    IsWindow time limit rows (front ++ other ++ back) := by
  have reordered : (front ++ other ++ back).Perm (front ++ group ++ back) :=
    (same.append_left front).append_right back
  rcases reading.latest with ⟨left, covers, latest⟩
  constructor
  · apply ordered_replace reading.ordered
    · intro row member
      exact ofTime row (same.subset member)
    · intro row member
      exact ⟨row, same.subset member, rfl⟩
  · rw [reordered.length_eq]
    exact reading.length
  · use left
    constructor
    · exact (reordered.append_right left).trans covers
    · intro row member
      exact latest row (reordered.subset member)

theorem exchanged_perm (first second : Row) (front group back left : List Row) :
    (front ++ second :: group ++ back ++ first :: left).Perm
      (front ++ first :: group ++ back ++ second :: left) := by
  classical
  apply List.perm_iff_count.mpr
  intro row
  simp [List.count_cons]
  omega

/-- A row left out may stand for one of its time. -/
theorem IsWindow.exchange {first second : Row} {left : List Row}
    (reading : IsWindow time limit rows (front ++ (first :: group) ++ back))
    (covers : (front ++ (first :: group) ++ back ++ second :: left).Perm rows)
    (latest : ∀ row ∈ front ++ (first :: group) ++ back, ∀ other ∈ second :: left,
      time other ≤ time row)
    (ofTime : ∀ row ∈ first :: group, time row = moment) (same : time second = moment) :
    IsWindow time limit rows (front ++ (second :: group) ++ back) := by
  have firstTime : time first = moment := ofTime first List.mem_cons_self
  have firstRead : first ∈ front ++ (first :: group) ++ back := by simp
  have before : ∀ row ∈ front ++ (second :: group) ++ back,
      row ∈ front ++ (first :: group) ++ back ∨ row = second := by
    intro row member
    simp only [List.mem_append, List.mem_cons] at member ⊢
    tauto
  constructor
  · apply ordered_replace reading.ordered
    · intro row member
      rcases List.mem_cons.mp member with rfl | member
      · exact same
      · exact ofTime row (List.mem_cons_of_mem _ member)
    · intro row member
      rcases List.mem_cons.mp member with rfl | member
      · exact ⟨first, List.mem_cons_self, firstTime.trans same.symm⟩
      · exact ⟨row, List.mem_cons_of_mem _ member, rfl⟩
  · rw [← reading.length]
    simp
  · use first :: left
    constructor
    · exact (exchanged_perm first second front group back left).trans covers
    · intro row member other otherMember
      have low : time other ≤ moment := by
        rcases List.mem_cons.mp otherMember with rfl | otherMember
        · exact firstTime.le
        · rw [← firstTime]
          exact latest first firstRead other (List.mem_cons_of_mem _ otherMember)
      rcases before row member with old | rfl
      · apply le_trans low
        rw [← same]
        exact latest row old second List.mem_cons_self
      · rw [same]
        exact low

variable {State : Type w} {step : State → Row → State} {good : State → Prop}
  {swaps same : Row → Row → Prop} {start : State}

/-- If all readings come to the same, two rows of a time whose rows all fit swap. -/
theorem swaps_of_foldl_eq (laws : TieLaws step good swaps same)
    (agree : ∀ window other, IsWindow time limit rows window → IsWindow time limit rows other →
      window.foldl step start = other.foldl step start) {first second : Row}
    (firstMember : first ∈ rows) (secondMember : second ∈ rows)
    (sameTime : time first = time second)
    (fits : countSince time (time first) rows ≤ limit) : swaps first second := by
  classical
  by_cases one : first = second
  · rw [one, laws.swaps_iff start]
  · have reading := isWindow_byTime time limit rows
    generalize (byTime time rows).drop (rows.length - limit) = window at reading
    rcases exists_split reading.ordered (time first) with ⟨front, back, split, _⟩
    have all := reading.rowsAt_perm fits
    have ofTime : ∀ row ∈ rowsAt time (time first) window, time row = time first := by
      intro row member
      exact (mem_rowsAt.mp member).2
    have firstIn : first ∈ rowsAt time (time first) window :=
      all.mem_iff.mpr (mem_rowsAt.mpr ⟨firstMember, rfl⟩)
    have secondIn : second ∈ (rowsAt time (time first) window).erase first :=
      (List.mem_erase_of_ne (Ne.symm one)).mpr
        (all.mem_iff.mpr (mem_rowsAt.mpr ⟨secondMember, sameTime.symm⟩))
    have pair := (List.perm_cons_erase firstIn).trans
      ((List.perm_cons_erase secondIn).cons first)
    generalize ((rowsAt time (time first) window).erase first).erase second = rest at pair
    rw [split] at reading
    have straight := reading.reorder ofTime pair.symm
    have swapped := reading.reorder ofTime
      ((List.Perm.swap first second rest).trans pair.symm)
    have equal := agree _ _ straight swapped
    simp only [List.append_assoc, List.foldl_append, List.cons_append, List.foldl_cons] at equal
    exact (laws.swaps_iff _ first second).mpr
      (laws.foldl_cancels rest (laws.foldl_cancels back equal))

/-- If all readings come to the same, a row left out does what one of its time within does. -/
theorem step_eq_of_left (laws : TieLaws step good swaps same) (startGood : good start)
    (agree : ∀ window other, IsWindow time limit rows window → IsWindow time limit rows other →
      window.foldl step start = other.foldl step start) (reading : IsWindow time limit rows window)
    {left : List Row} (covers : (window ++ left).Perm rows)
    (latest : ∀ row ∈ window, ∀ other ∈ left, time other ≤ time row) {within out : Row}
    (withinMember : within ∈ rowsAt time moment window)
    (outMember : out ∈ rowsAt time moment left) :
    step start within = step start out := by
  classical
  rcases exists_split reading.ordered moment with ⟨front, back, split, _⟩
  have ofTime : ∀ row ∈ rowsAt time moment window, time row = moment := by
    intro row member
    exact (mem_rowsAt.mp member).2
  have first := List.perm_cons_erase withinMember
  generalize (rowsAt time moment window).erase within = group at first
  rw [split] at reading covers latest
  have straight := reading.reorder ofTime first.symm
  have reordered : (front ++ within :: group ++ back).Perm
      (front ++ rowsAt time moment window ++ back) :=
    (first.symm.append_left front).append_right back
  have others := List.perm_cons_erase (mem_rowsAt.mp outMember).1
  have exchanged : IsWindow time limit rows (front ++ out :: group ++ back) := by
    apply straight.exchange ((reordered.append others.symm).trans covers)
    · intro row member other otherMember
      exact latest row (reordered.subset member) other (others.symm.subset otherMember)
    · intro row member
      exact ofTime row (first.symm.subset member)
    · exact (mem_rowsAt.mp outMember).2
  have equal := agree _ _ straight exchanged
  simp only [List.append_assoc, List.foldl_append, List.cons_append, List.foldl_cons] at equal
  apply laws.step_eq
  apply laws.same _ _ _ (laws.foldl_keeps start front startGood)
  exact laws.foldl_cancels group (laws.foldl_cancels back equal)

/-- If all readings come to the same, so do two rows of a time that the window begins among. -/
theorem same_of_foldl_eq (laws : TieLaws step good swaps same) (startGood : good start)
    (agree : ∀ window other, IsWindow time limit rows window → IsWindow time limit rows other →
      window.foldl step start = other.foldl step start) {first second : Row}
    (firstMember : first ∈ rows) (secondMember : second ∈ rows)
    (sameTime : time first = time second)
    (room : countAfter time (time first) rows < limit)
    (more : limit < countSince time (time first) rows) : same first second := by
  have reading := isWindow_byTime time limit rows
  generalize (byTime time rows).drop (rows.length - limit) = window at reading
  rcases reading.latest with ⟨left, covers, latest⟩
  have groups : (rowsAt time (time first) window ++ rowsAt time (time first) left).Perm
      (rowsAt time (time first) rows) := by
    rw [← rowsAt_append]
    exact covers.filter _
  have sizes := groups.length_eq
  rw [List.length_append] at sizes
  have count := reading.count_at (time first)
  have split := countSince_eq time (time first) rows
  have someWithin : rowsAt time (time first) window ≠ [] := by
    intro nothing
    rw [nothing, List.length_nil] at count
    omega
  have someOut : rowsAt time (time first) left ≠ [] := by
    intro nothing
    rw [nothing, List.length_nil] at sizes
    omega
  rcases List.exists_mem_of_ne_nil _ someWithin with ⟨within, withinMember⟩
  rcases List.exists_mem_of_ne_nil _ someOut with ⟨out, outMember⟩
  have like : ∀ row ∈ rowsAt time (time first) rows, step start row = step start out := by
    intro row member
    rcases List.mem_append.mp (groups.symm.subset member) with inside | outside
    · exact step_eq_of_left laws startGood agree reading covers latest inside outMember
    · rw [← step_eq_of_left laws startGood agree reading covers latest withinMember outside]
      exact step_eq_of_left laws startGood agree reading covers latest withinMember outMember
  apply laws.same start first second startGood
  rw [like first (mem_rowsAt.mpr ⟨firstMember, rfl⟩),
    like second (mem_rowsAt.mpr ⟨secondMember, sameTime.symm⟩)]

/-- All readings come to the same exactly if ties are harmless. -/
theorem foldl_eq_iff_tiesHarmless (start : State) (laws : TieLaws step good swaps same)
    (startGood : good start) :
    (∀ window other, IsWindow time limit rows window → IsWindow time limit rows other →
      window.foldl step start = other.foldl step start) ↔
      TiesHarmless time limit swaps same rows := by
  constructor
  · intro agree
    constructor
    · intro first firstMember second secondMember sameTime fits
      exact swaps_of_foldl_eq laws agree firstMember secondMember sameTime fits
    · intro first firstMember second secondMember sameTime room more
      exact same_of_foldl_eq laws startGood agree firstMember secondMember sameTime room more
  · intro harmless window other reading reading'
    exact harmless.foldl_eq laws reading reading' start

end Readings

section Sorts

variable {time : Row → Time} {limit : Nat} {rows sorted : List Row}

/-- By time, and rows of one time by their ranks. -/
def TimeOrder (time : Row → Time) (rank : Row → Nat) (left right : Row) : Prop :=
  time left < time right ∨ time left = time right ∧ rank left ≤ rank right

instance (time : Row → Time) (rank : Row → Nat) : IsTrans Row (TimeOrder time rank) where
  trans first second third before after := by
    rcases before with before | ⟨before, rank⟩
    · rcases after with after | ⟨after, _⟩
      · exact .inl (before.trans after)
      · exact .inl (after ▸ before)
    · rcases after with after | ⟨after, rank'⟩
      · exact .inl (before ▸ after)
      · exact .inr ⟨before.trans after, rank.trans rank'⟩

instance (time : Row → Time) (rank : Row → Nat) : Std.Total (TimeOrder time rank) where
  total first second := by
    rcases lt_trichotomy (time first) (time second) with before | same | after
    · exact .inl (.inl before)
    · rcases Nat.le_total (rank first) (rank second) with low | high
      · exact .inl (.inr ⟨same, low⟩)
      · exact .inr (.inr ⟨same.symm, high⟩)
    · exact .inr (.inl after)

instance (time : Row → Time) (rank : Row → Nat) : DecidableRel (TimeOrder time rank) :=
  fun left right => inferInstanceAs
    (Decidable (time left < time right ∨ time left = time right ∧ rank left ≤ rank right))

theorem TimeOrder.time_le {rank : Row → Nat} {left right : Row}
    (before : TimeOrder time rank left right) : time left ≤ time right := by
  rcases before with earlier | ⟨same, _⟩
  · exact earlier.le
  · exact same.le

section Ranks

variable {Name : Type w} [DecidableEq Name] (name : Row → Name)

/-- The place of a row among rows, found by its name. -/
def rankIn (sorted : List Row) (row : Row) : Nat :=
  (sorted.map name).idxOf (name row)

theorem rankIn_getElem (names : (sorted.map name).Nodup) (index : Nat)
    (low : index < sorted.length) : rankIn name sorted sorted[index] = index := by
  have found := names.idxOf_getElem index (by simpa using low)
  rw [List.getElem_map] at found
  exact found

theorem rankIn_injective (names : (sorted.map name).Nodup) {first second : Row}
    (firstMember : first ∈ sorted) (secondMember : second ∈ sorted)
    (same : rankIn name sorted first = rankIn name sorted second) : first = second := by
  rcases List.getElem_of_mem firstMember with ⟨index, low, rfl⟩
  rcases List.getElem_of_mem secondMember with ⟨other, otherLow, rfl⟩
  rw [rankIn_getElem name names index low, rankIn_getElem name names other otherLow] at same
  simp only [same]

theorem TimeOrder.antisymm {rank : Row → Nat} {first second : Row}
    (before : TimeOrder time rank first second) (after : TimeOrder time rank second first) :
    rank first = rank second := by
  rcases before with earlier | ⟨same, low⟩
  · exact absurd after.time_le earlier.not_ge
  · rcases after with later | ⟨_, high⟩
    · exact absurd same.le later.not_ge
    · exact le_antisymm low high

theorem insertionSort_congr {before after : Row → Row → Prop} [DecidableRel before]
    [DecidableRel after] (same : ∀ left right, before left right ↔ after left right)
    (rows : List Row) : rows.insertionSort before = rows.insertionSort after := by
  have equal : before = after := by
    funext left right
    exact propext (same left right)
  subst equal
  congr

/-- An order that keeps to the times is the sorted one for the ranks in it. -/
theorem insertionSort_rankIn (distinct : (rows.map name).Nodup) (same : sorted.Perm rows)
    (ordered : sorted.Pairwise fun earlier later => time earlier ≤ time later) :
    rows.insertionSort (TimeOrder time (rankIn name sorted)) = sorted := by
  have names : (sorted.map name).Nodup := (same.map name).nodup_iff.mpr distinct
  apply List.Perm.eq_of_pairwise _ (List.pairwise_insertionSort _ _) _
    ((List.perm_insertionSort _ _).trans same.symm)
  · intro first second firstMember secondMember before after
    apply rankIn_injective name names _ secondMember (before.antisymm after)
    exact same.symm.subset ((List.perm_insertionSort _ _).subset firstMember)
  · apply List.pairwise_iff_getElem.mpr
    intro first second firstLow secondLow before
    rcases (List.pairwise_iff_getElem.mp ordered first second firstLow secondLow before).lt_or_eq
      with earlier | sameTime
    · exact .inl earlier
    · right
      constructor
      · exact sameTime
      · rw [rankIn_getElem name names first firstLow, rankIn_getElem name names second secondLow]
        exact before.le

end Ranks

/-- The last rows by time, taken from the latest on and put in order again. Both orders break
ties by a rank. -/
def lastByTime (time : Row → Time) (limit : Nat) (newestFirst oldestFirst : Row → Nat)
    (rows : List Row) : List Row :=
  ((rows.insertionSort (TimeOrder (OrderDual.toDual ∘ time) newestFirst)).take limit).insertionSort
    (TimeOrder time oldestFirst)

theorem isWindow_lastByTime (newestFirst oldestFirst : Row → Nat) :
    IsWindow time limit rows (lastByTime time limit newestFirst oldestFirst rows) := by
  have newest := List.pairwise_insertionSort (TimeOrder (OrderDual.toDual ∘ time) newestFirst) rows
  have all := List.perm_insertionSort (TimeOrder (OrderDual.toDual ∘ time) newestFirst) rows
  have sorted := List.perm_insertionSort (TimeOrder time oldestFirst)
    ((rows.insertionSort (TimeOrder (OrderDual.toDual ∘ time) newestFirst)).take limit)
  unfold lastByTime
  generalize rows.insertionSort (TimeOrder (OrderDual.toDual ∘ time) newestFirst) = latest
    at newest all sorted
  rw [← List.take_append_drop limit latest] at newest
  constructor
  · exact (List.pairwise_insertionSort _ _).imp fun before => before.time_le
  · rw [sorted.length_eq, List.length_take, all.length_eq]
  · use latest.drop limit
    constructor
    · apply (sorted.append_right _).trans
      rw [List.take_append_drop]
      exact all
    · intro row member other otherMember
      exact ((List.pairwise_append.mp newest).2.2 row (sorted.subset member) other
        otherMember).time_le

/-- Every reading is the one that the ranks in some orders give. -/
theorem exists_lastByTime {Name : Type w} [DecidableEq Name] (name : Row → Name)
    (distinct : (rows.map name).Nodup) {window : List Row}
    (reading : IsWindow time limit rows window) : ∃ newest oldest : List Row,
      lastByTime time limit (rankIn name newest) (rankIn name oldest) rows = window := by
  rcases reading.latest with ⟨left, covers, latest⟩
  let newest := window.reverse ++ (byTime time left).reverse
  have all : newest.Perm rows :=
    (((List.reverse_perm _).append (List.reverse_perm _)).trans
      ((byTime_perm left).append_left window)).trans covers
  have ordered : newest.Pairwise fun later earlier => time earlier ≤ time later := by
    apply List.pairwise_append.mpr
    constructor
    · exact List.pairwise_reverse.mpr reading.ordered
    · constructor
      · exact List.pairwise_reverse.mpr (byTime_ordered left)
      · intro row member other otherMember
        exact latest row (List.mem_reverse.mp member) other
          ((byTime_perm left).subset (List.mem_reverse.mp otherMember))
  have taken : newest.take limit = window.reverse := by
    have length := reading.length
    have sizes := covers.length_eq
    rw [List.length_append] at sizes
    rcases Nat.lt_or_ge limit rows.length with more | fits
    · have full : window.reverse.length = limit := by
        rw [List.length_reverse]
        omega
      exact List.take_left' full
    · have nothing : left = [] := by
        apply List.length_eq_zero_iff.mp
        omega
      have whole : newest = window.reverse := by
        simp [newest, nothing, byTime]
      rw [whole]
      apply List.take_of_length_le
      rw [List.length_reverse]
      omega
  have windowNames : (window.reverse.map name).Nodup := by
    have names := (all.map name).nodup_iff.mpr distinct
    rw [← List.take_append_drop limit newest, taken, List.map_append] at names
    exact names.of_append_left
  use newest, window
  have sorted : rows.insertionSort (TimeOrder (OrderDual.toDual ∘ time) (rankIn name newest)) =
      newest :=
    insertionSort_rankIn name distinct all ordered
  unfold lastByTime
  rw [sorted, taken]
  exact insertionSort_rankIn name windowNames (List.reverse_perm _).symm reading.ordered

end Sorts

end Annex
