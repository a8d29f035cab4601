import Mathlib.Data.String.Basic
import Annex.Foundation.TimedWindow
import Annex.Vrp.Reputation

namespace Annex.Vrp

/-! What the reputation takes from the log: outcomes of one second may be read in any order, and
where the window begins among them, any of them may be left out. -/

/-- The handshakes of a peer, in the order they were recorded. -/
def peerHistory (serverId : Nat) (peerPseudonym : String) (log : Table VrpHandshakeOutcome) :
    List VrpHandshakeOutcome :=
  log.rows.filter fun row => row.serverId = serverId && row.peerPseudonym = peerPseudonym

/-- The last 1000 outcomes recorded, in that order. -/
def recordedOutcomes (history : List VrpHandshakeOutcome) : List String :=
  (history.drop (history.length - 1000)).map VrpHandshakeOutcome.alignmentStatus

/-- The last 1000 outcomes by their seconds, those of one second in the order recorded. -/
def outcomesByTime (history : List VrpHandshakeOutcome) : List String :=
  ((byTime VrpHandshakeOutcome.createdAt history).drop (history.length - 1000)).map
    VrpHandshakeOutcome.alignmentStatus

/-- Whether the score looks at a status. -/
def counts (status : String) : Bool :=
  status = "ALIGNED" || status = "PARTIAL" || status = "CONFLICT"

/-- The outcomes that count stand by their seconds as they were recorded. -/
def RecordedByTime (history : List VrpHandshakeOutcome) : Prop :=
  (outcomesByTime history).filter counts = (recordedOutcomes history).filter counts

/-- However ties are broken, the score is that of the recorded outcomes. -/
def ScoreFromRecord {R : Type} (scale : ReputationScale R) (serverId : Nat)
    (peerPseudonym : String) (log : Table VrpHandshakeOutcome) : Prop :=
  ∀ ties : TieOrder, reputationScore scale (recentOutcomes ties serverId peerPseudonym log) =
    reputationScore scale (recordedOutcomes (peerHistory serverId peerPseudonym log))

/-- Two handshakes that do the same to every score. -/
def SameOutcome (left right : VrpHandshakeOutcome) : Prop :=
  left.alignmentStatus = right.alignmentStatus ∨
    counts left.alignmentStatus = false ∧ counts right.alignmentStatus = false

/-- Two handshakes whose order no arithmetic shows. -/
def OrderFree (left right : VrpHandshakeOutcome) : Prop :=
  counts left.alignmentStatus = false ∨ counts right.alignmentStatus = false ∨
    left.alignmentStatus = right.alignmentStatus

/-- Two handshakes whose order exact arithmetic does not show: the penalties are factors. -/
def OrderFreeExactly (left right : VrpHandshakeOutcome) : Prop :=
  counts left.alignmentStatus = false ∨ counts right.alignmentStatus = false ∨
    (left.alignmentStatus = "ALIGNED" ↔ right.alignmentStatus = "ALIGNED")

section Readings

variable {serverId : Nat} {peerPseudonym : String} {log : Table VrpHandshakeOutcome}

theorem recentOutcomes_eq (ties : TieOrder) :
    recentOutcomes ties serverId peerPseudonym log =
      (lastByTime VrpHandshakeOutcome.createdAt 1000 (fun row => ties.newestFirst row.id)
        (fun row => ties.oldestFirst row.id) (peerHistory serverId peerPseudonym log)).map
          VrpHandshakeOutcome.alignmentStatus := by
  have newest : ∀ rows : List VrpHandshakeOutcome,
      rows.insertionSort (fun left right => right.createdAt < left.createdAt ∨
        right.createdAt = left.createdAt ∧
          ties.newestFirst left.id ≤ ties.newestFirst right.id) =
      rows.insertionSort (TimeOrder (OrderDual.toDual ∘ VrpHandshakeOutcome.createdAt)
        fun row => ties.newestFirst row.id) := by
    intro rows
    apply insertionSort_congr
    intro left right
    exact or_congr_right (and_congr_left' eq_comm)
  have oldest : ∀ rows : List VrpHandshakeOutcome,
      rows.insertionSort (fun left right => left.createdAt < right.createdAt ∨
        left.createdAt = right.createdAt ∧
          ties.oldestFirst left.id ≤ ties.oldestFirst right.id) =
      rows.insertionSort (TimeOrder VrpHandshakeOutcome.createdAt
        fun row => ties.oldestFirst row.id) := by
    intro rows
    apply insertionSort_congr
    intro left right
    rfl
  unfold recentOutcomes lastByTime
  simp only [newest, oldest]
  rfl

/-- What holds of the outcomes however ties are broken is what holds of every reading. -/
theorem forall_recentOutcomes (holds : List String → Prop) :
    (∀ ties : TieOrder, holds (recentOutcomes ties serverId peerPseudonym log)) ↔
      ∀ window, IsWindow VrpHandshakeOutcome.createdAt 1000
        (peerHistory serverId peerPseudonym log) window →
        holds (window.map VrpHandshakeOutcome.alignmentStatus) := by
  constructor
  · intro always window reading
    have distinct :
        ((peerHistory serverId peerPseudonym log).map VrpHandshakeOutcome.id).Nodup := by
      apply List.pairwise_map.mpr
      exact (log.ascending.filter _).imp fun before => before.ne
    rcases exists_lastByTime VrpHandshakeOutcome.id distinct reading with ⟨newest, oldest, given⟩
    have held := always ⟨fun id => (newest.map VrpHandshakeOutcome.id).idxOf id,
      fun id => (oldest.map VrpHandshakeOutcome.id).idxOf id⟩
    rw [recentOutcomes_eq] at held
    rw [← given]
    exact held
  · intro always ties
    rw [recentOutcomes_eq]
    exact always _ (isWindow_lastByTime _ _)

theorem isWindow_outcomesByTime (history : List VrpHandshakeOutcome) :
    ∃ window, IsWindow VrpHandshakeOutcome.createdAt 1000 history window ∧
      outcomesByTime history = window.map VrpHandshakeOutcome.alignmentStatus :=
  ⟨_, isWindow_byTime _ _ _, rfl⟩

/-- Where the clock never went back, the last by time are the last recorded. -/
theorem recordedByTime_of_ordered {history : List VrpHandshakeOutcome}
    (ordered : history.Pairwise fun earlier later => earlier.createdAt ≤ later.createdAt) :
    RecordedByTime history := by
  unfold RecordedByTime outcomesByTime recordedOutcomes
  rw [byTime_eq ordered]

end Readings

section Arithmetic

variable {R : Type} (scale : ReputationScale R)

/-- The arithmetic that writes the outcomes down. -/
def ReputationScale.written : ReputationScale (List String) where
  zero := []
  twentieth := ["PARTIAL"]
  tenth := ["ALIGNED"]
  fifth := ["CONFLICT"]
  half := []
  one := []
  add left right := left ++ right
  sub left right := left ++ right
  mul left _ := left
  lt _ _ := false

theorem reputationStep_of_not_counts {status : String} (unknown : counts status = false)
    (score : R) : reputationStep scale score status = score := by
  simp only [counts, Bool.or_eq_false_iff, decide_eq_false_iff_not] at unknown
  exact reputationStep_unknown unknown.1.1 unknown.1.2 unknown.2 scale score

theorem reputationScore_filter (outcomes : List String) :
    reputationScore scale (outcomes.filter counts) = reputationScore scale outcomes := by
  unfold reputationScore
  congr 1
  generalize scale.half = start
  induction outcomes generalizing start with
  | nil => rfl
  | cons status outcomes induction =>
      cases known : counts status with
      | false =>
          rw [List.filter_cons_of_neg (by simp [known]), List.foldl_cons,
            reputationStep_of_not_counts scale known]
          exact induction start
      | true =>
          rw [List.filter_cons_of_pos known]
          exact induction _

theorem reputationStep_written (written : List String) (status : String) :
    reputationStep .written written status = written ++ [status].filter counts := by
  induction status using status_cases with
  | aligned => rfl
  | lowered => rfl
  | conflict => rfl
  | unknown notAligned other notConflict =>
      rw [reputationStep_unknown notAligned other notConflict]
      simp [counts, notAligned, other, notConflict]

theorem foldl_written (written outcomes : List String) :
    outcomes.foldl (reputationStep .written) written = written ++ outcomes.filter counts := by
  induction outcomes generalizing written with
  | nil => simp
  | cons status outcomes induction =>
      rw [List.foldl_cons, induction, reputationStep_written, List.append_assoc,
        ← List.filter_append]
      rfl

theorem reputationScore_written (outcomes : List String) :
    reputationScore .written outcomes = outcomes.filter counts := by
  have clamped : ∀ score, clampScore .written score = score := fun _ => rfl
  rw [reputationScore, clamped, foldl_written]
  rfl

/-- Reading a handshake. -/
def handshakeStep (score : R) (row : VrpHandshakeOutcome) : R :=
  reputationStep scale score row.alignmentStatus

theorem foldl_handshakeStep (start : R) (rows : List VrpHandshakeOutcome) :
    rows.foldl (handshakeStep scale) start =
      (rows.map VrpHandshakeOutcome.alignmentStatus).foldl (reputationStep scale) start := by
  rw [List.foldl_map]
  rfl

theorem reputationStep_of_sameOutcome {left right : VrpHandshakeOutcome}
    (same : SameOutcome left right) (score : R) :
    handshakeStep scale score left = handshakeStep scale score right := by
  unfold handshakeStep
  rcases same with same | ⟨first, second⟩
  · rw [same]
  · rw [reputationStep_of_not_counts scale first, reputationStep_of_not_counts scale second]

theorem written_laws : TieLaws (handshakeStep .written) (fun _ => True) OrderFree SameOutcome where
  keeps _ _ _ := trivial
  cancels first second row equal := by
    simp only [handshakeStep, reputationStep_written] at equal
    exact List.append_cancel_right equal
  swaps_iff written first second := by
    simp only [handshakeStep, reputationStep_written, List.append_assoc,
      List.append_cancel_left_eq, OrderFree]
    cases firstCounts : counts first.alignmentStatus with
    | false => simp [firstCounts]
    | true =>
        cases secondCounts : counts second.alignmentStatus with
        | false => simp [secondCounts]
        | true => simp [firstCounts, secondCounts, eq_comm]
  step_eq written first second same := reputationStep_of_sameOutcome _ same written
  same written first second _ equal := by
    simp only [handshakeStep, reputationStep_written, List.append_cancel_left_eq] at equal
    cases firstCounts : counts first.alignmentStatus with
    | false =>
        cases secondCounts : counts second.alignmentStatus with
        | false => exact .inr ⟨firstCounts, secondCounts⟩
        | true => simp [firstCounts, secondCounts] at equal
    | true =>
        cases secondCounts : counts second.alignmentStatus with
        | false => simp [firstCounts, secondCounts] at equal
        | true =>
            left
            simpa [firstCounts, secondCounts] using equal

theorem eq_of_counts {status : String} (known : counts status = true) :
    status = "ALIGNED" ∨ status = "PARTIAL" ∨ status = "CONFLICT" := by
  simpa [counts, or_assoc] using known

/-- A boost and a penalty never swap: the boost read last is not lowered. -/
theorem exact_swaps_iff {first second : String} (firstCounts : counts first = true)
    (secondCounts : counts second = true) (score : ℚ) :
    (first = "ALIGNED" ↔ second = "ALIGNED") ↔
      reputationStep .exact (reputationStep .exact score first) second =
        reputationStep .exact (reputationStep .exact score second) first := by
  have lowered : ("PARTIAL" = "ALIGNED") = False := by decide
  have conflict : ("CONFLICT" = "ALIGNED") = False := by decide
  rcases eq_of_counts firstCounts with rfl | rfl | rfl
  · rcases eq_of_counts secondCounts with rfl | rfl | rfl
    · simp
    · simp only [lowered, reputationStep_aligned, reputationStep_lowered, true_iff, false_iff]
      intro equal
      linarith
    · simp only [conflict, reputationStep_aligned, reputationStep_conflict, true_iff, false_iff]
      intro equal
      linarith
  · rcases eq_of_counts secondCounts with rfl | rfl | rfl
    · simp only [lowered, reputationStep_aligned, reputationStep_lowered, false_iff, not_true]
      intro equal
      linarith
    · simp
    · simp only [lowered, conflict, reputationStep_lowered, reputationStep_conflict, true_iff]
      ring
  · rcases eq_of_counts secondCounts with rfl | rfl | rfl
    · simp only [conflict, reputationStep_aligned, reputationStep_conflict, false_iff, not_true]
      intro equal
      linarith
    · simp only [lowered, conflict, reputationStep_lowered, reputationStep_conflict, true_iff]
      ring
    · simp

/-- Inside the unit interval each outcome that counts moves the score. -/
theorem reputationStep_ne {status : String} (known : counts status = true) {score : ℚ}
    (inside : Inside score) : reputationStep .exact score status ≠ score := by
  rcases inside with ⟨positive, below⟩
  rcases eq_of_counts known with rfl | rfl | rfl
  · rw [reputationStep_aligned]
    intro equal
    linarith
  · rw [reputationStep_lowered]
    intro equal
    linarith
  · rw [reputationStep_conflict]
    intro equal
    linarith

/-- Inside the unit interval two outcomes that count move the score apart. -/
theorem reputationStep_injective {first second : String} (firstCounts : counts first = true)
    (secondCounts : counts second = true) {score : ℚ} (inside : Inside score)
    (equal : reputationStep .exact score first = reputationStep .exact score second) :
    first = second := by
  have low := conflict_lt_lowered inside
  have high := lowered_lt_aligned inside
  rcases eq_of_counts firstCounts with rfl | rfl | rfl
  · rcases eq_of_counts secondCounts with rfl | rfl | rfl
    · rfl
    · linarith
    · linarith
  · rcases eq_of_counts secondCounts with rfl | rfl | rfl
    · linarith
    · rfl
    · linarith
  · rcases eq_of_counts secondCounts with rfl | rfl | rfl
    · linarith
    · linarith
    · rfl

theorem exact_laws : TieLaws (handshakeStep .exact) Inside OrderFreeExactly SameOutcome where
  keeps _ row inside := reputationStep_inside row.alignmentStatus inside
  cancels _ _ row equal := (reputationStep_strictMono row.alignmentStatus).injective equal
  swaps_iff score first second := by
    unfold handshakeStep OrderFreeExactly
    cases firstCounts : counts first.alignmentStatus with
    | false => simp [reputationStep_of_not_counts _ firstCounts]
    | true =>
        cases secondCounts : counts second.alignmentStatus with
        | false => simp [reputationStep_of_not_counts _ secondCounts]
        | true =>
            rw [← exact_swaps_iff firstCounts secondCounts score]
            simp
  step_eq score first second same := reputationStep_of_sameOutcome _ same score
  same score first second inside equal := by
    unfold handshakeStep at equal
    cases firstCounts : counts first.alignmentStatus with
    | false =>
        cases secondCounts : counts second.alignmentStatus with
        | false => exact .inr ⟨firstCounts, secondCounts⟩
        | true =>
            rw [reputationStep_of_not_counts _ firstCounts] at equal
            exact absurd equal.symm (reputationStep_ne secondCounts inside)
    | true =>
        cases secondCounts : counts second.alignmentStatus with
        | false =>
            rw [reputationStep_of_not_counts _ secondCounts] at equal
            exact absurd equal (reputationStep_ne firstCounts inside)
        | true => exact .inl (reputationStep_injective firstCounts secondCounts inside equal)

end Arithmetic

section Record

variable {serverId : Nat} {peerPseudonym : String} {log : Table VrpHandshakeOutcome}

theorem scoreFromRecord_iff_window {R : Type} (scale : ReputationScale R) :
    ScoreFromRecord scale serverId peerPseudonym log ↔
      ∀ window, IsWindow VrpHandshakeOutcome.createdAt 1000
        (peerHistory serverId peerPseudonym log) window →
        reputationScore scale (window.map VrpHandshakeOutcome.alignmentStatus) =
          reputationScore scale (recordedOutcomes (peerHistory serverId peerPseudonym log)) :=
  forall_recentOutcomes fun outcomes => reputationScore scale outcomes =
    reputationScore scale (recordedOutcomes (peerHistory serverId peerPseudonym log))

/-- Readings agree in what counts if no tie matters to any arithmetic. -/
theorem window_filter_iff (history : List VrpHandshakeOutcome) :
    (∀ window other, IsWindow VrpHandshakeOutcome.createdAt 1000 history window →
      IsWindow VrpHandshakeOutcome.createdAt 1000 history other →
      (window.map VrpHandshakeOutcome.alignmentStatus).filter counts =
        (other.map VrpHandshakeOutcome.alignmentStatus).filter counts) ↔
      TiesHarmless VrpHandshakeOutcome.createdAt 1000 OrderFree SameOutcome history := by
  rw [← foldl_eq_iff_tiesHarmless [] written_laws trivial]
  simp only [foldl_handshakeStep, foldl_written, List.nil_append]

theorem scoreFromRecord_every_iff :
    (∀ (R : Type) (scale : ReputationScale R), ScoreFromRecord scale serverId peerPseudonym log) ↔
      TiesHarmless VrpHandshakeOutcome.createdAt 1000 OrderFree SameOutcome
        (peerHistory serverId peerPseudonym log) ∧
      RecordedByTime (peerHistory serverId peerPseudonym log) := by
  unfold RecordedByTime
  rw [← window_filter_iff]
  rcases isWindow_outcomesByTime (peerHistory serverId peerPseudonym log) with
    ⟨byTime, reading, named⟩
  rw [named]
  constructor
  · intro always
    have written := (scoreFromRecord_iff_window .written).mp (always _ .written)
    simp only [reputationScore_written] at written
    constructor
    · intro window other read otherRead
      rw [written window read, written other otherRead]
    · exact written byTime reading
  · intro ⟨agree, record⟩ R scale
    rw [scoreFromRecord_iff_window]
    intro window read
    rw [← reputationScore_filter scale (window.map _), agree window byTime read reading, record,
      reputationScore_filter]

theorem scoreFromRecord_exact_iff
    (record : RecordedByTime (peerHistory serverId peerPseudonym log)) :
    ScoreFromRecord .exact serverId peerPseudonym log ↔
      TiesHarmless VrpHandshakeOutcome.createdAt 1000 OrderFreeExactly SameOutcome
        (peerHistory serverId peerPseudonym log) := by
  have startInside : Inside ReputationScale.exact.half := runningScore_inside []
  have sameScore : reputationScore .exact
        (recordedOutcomes (peerHistory serverId peerPseudonym log)) =
      reputationScore .exact (outcomesByTime (peerHistory serverId peerPseudonym log)) := by
    rw [← reputationScore_filter, ← record, reputationScore_filter]
  rcases isWindow_outcomesByTime (peerHistory serverId peerPseudonym log) with
    ⟨byTime, reading, named⟩
  rw [scoreFromRecord_iff_window, ← foldl_eq_iff_tiesHarmless _ exact_laws startInside, sameScore,
    named]
  simp only [reputationScore_exact, foldl_handshakeStep]
  constructor
  · intro always window other read otherRead
    exact (always window read).trans (always other otherRead).symm
  · intro agree window read
    exact agree window byTime read reading

/-- In every arithmetic the score is that of the recorded outcomes exactly if two outcomes of one
second that count are the same wherever all of the second fit the window, all of a second do the
same where the window begins among them, and the times of the log keep to its order. Where they
do, the exact score is that of the record exactly if, of the outcomes of a second that fit, all
that count are `ALIGNED` or none is, and again all are the same where the window begins. -/
theorem scoreFromRecord_iff (serverId : Nat) (peerPseudonym : String)
    (log : Table VrpHandshakeOutcome) :
    ((∀ (R : Type) (scale : ReputationScale R),
        ScoreFromRecord scale serverId peerPseudonym log) ↔
      TiesHarmless VrpHandshakeOutcome.createdAt 1000 OrderFree SameOutcome
        (peerHistory serverId peerPseudonym log) ∧
      RecordedByTime (peerHistory serverId peerPseudonym log)) ∧
    (RecordedByTime (peerHistory serverId peerPseudonym log) →
      (ScoreFromRecord .exact serverId peerPseudonym log ↔
        TiesHarmless VrpHandshakeOutcome.createdAt 1000 OrderFreeExactly SameOutcome
          (peerHistory serverId peerPseudonym log))) := by
  constructor
  · exact scoreFromRecord_every_iff
  · exact scoreFromRecord_exact_iff

end Record

namespace Sample

/-- A handshake with a peer, all of them in one second. -/
def handshake (report : VrpValidationReport) (id : Nat) : VrpHandshakeOutcome where
  id := id
  serverId := 1
  peerPseudonym := "agent-007"
  peerType := "AGENT"
  alignmentStatus := report.alignmentStatus.toString
  reportJson := .encoded report
  createdAt := "2025-01-01 12:00:00"

/-- An aligned handshake and a conflict right after it. -/
def log : Table VrpHandshakeOutcome :=
  (Table.empty.insert (handshake ⟨.aligned, .fullKnowledgeBundle, F32.one, []⟩)).insert
    (handshake ⟨.conflict, .noTransfer, F32.zero, ["Conflict!"]⟩)

/-- Recorded in this order they leave 0.44, read in the other 0.46. -/
theorem log_not_scoreFromRecord : ¬ScoreFromRecord .exact 1 "agent-007" log := by
  intro fromRecord
  have swapped := fromRecord ⟨fun id => id, fun id => 2 - id⟩
  revert swapped
  decide +kernel

end Sample

end Annex.Vrp
