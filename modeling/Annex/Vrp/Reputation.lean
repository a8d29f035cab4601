import Mathlib.Algebra.Order.Ring.Rat
import Mathlib.Data.List.Sort
import Mathlib.Order.Monotone.Basic
import Mathlib.Tactic.Linarith
import Mathlib.Tactic.NormNum
import Mathlib.Tactic.Ring
import Annex.Foundation.JsonText
import Annex.Foundation.Table
import Annex.Vrp.Types

namespace Annex.Vrp

/-! The reputation of a peer, over any number type: what its earlier handshakes came to. -/

/-- `vrp_handshake_log`. -/
structure VrpHandshakeOutcome where
  id : Nat
  serverId : Nat
  peerPseudonym : String
  peerType : String
  alignmentStatus : String
  reportJson : JsonText VrpValidationReport
  createdAt : String
deriving DecidableEq, Repr

instance : Keyed VrpHandshakeOutcome := ⟨VrpHandshakeOutcome.id⟩

/-- The numbers and the operations the score is computed with. -/
structure ReputationScale (R : Type) where
  zero : R
  twentieth : R
  tenth : R
  fifth : R
  half : R
  one : R
  add : R → R → R
  sub : R → R → R
  mul : R → R → R
  lt : R → R → Bool

/-- Single precision, on the machine's arithmetic. A difference is a sum with the sign bit
of the second operand turned. -/
def ReputationScale.single (arithmetic : Scalar F32) : ReputationScale F32 where
  zero := F32.zero
  twentieth := ⟨0x3d4ccccd⟩
  tenth := ⟨0x3dcccccd⟩
  fifth := ⟨0x3e4ccccd⟩
  half := F32.half
  one := F32.one
  add := arithmetic.add
  sub left right := arithmetic.add left ⟨right.bits ^^^ 0x80000000⟩
  mul := arithmetic.mul
  lt := arithmetic.lt

section Score

variable {R : Type} (scale : ReputationScale R)

/-- What one handshake does to the score. An unknown status does nothing. -/
def reputationStep (score : R) (status : String) : R :=
  if status = "ALIGNED" then
    scale.add score (scale.mul scale.tenth (scale.sub scale.one score))
  else if status = "PARTIAL" then
    scale.sub score (scale.mul scale.twentieth score)
  else if status = "CONFLICT" then
    scale.sub score (scale.mul scale.fifth score)
  else
    score

/-- `score.clamp(0.0, 1.0)`. -/
def clampScore (score : R) : R :=
  if scale.lt score scale.zero then scale.zero
  else if scale.lt scale.one score then scale.one
  else score

/-- The score of a history, its oldest outcome first. -/
def reputationScore (statuses : List String) : R :=
  clampScore scale (statuses.foldl (reputationStep scale) scale.half)

end Score

/-- Where rows of one second come in the two orders of the query, by their ids. -/
structure TieOrder where
  newestFirst : Nat → Nat
  oldestFirst : Nat → Nat

/-- The statuses of the last 1000 handshakes of a peer, the oldest first. -/
def recentOutcomes (ties : TieOrder) (serverId : Nat) (peerPseudonym : String)
    (log : Table VrpHandshakeOutcome) : List String :=
  let history := log.rows.filter fun row =>
    row.serverId = serverId && row.peerPseudonym = peerPseudonym
  let newest := history.insertionSort fun left right =>
    right.createdAt < left.createdAt ∨ right.createdAt = left.createdAt ∧
      ties.newestFirst left.id ≤ ties.newestFirst right.id
  let window := (newest.take 1000).insertionSort fun left right =>
    left.createdAt < right.createdAt ∨ left.createdAt = right.createdAt ∧
      ties.oldestFirst left.id ≤ ties.oldestFirst right.id
  window.map VrpHandshakeOutcome.alignmentStatus

/-! The reputation in exact arithmetic: every outcome moves the score within the unit interval,
keeps two scores in order, and a better outcome leaves it higher. -/

/-- The rational numbers. -/
def ReputationScale.exact : ReputationScale ℚ where
  zero := 0
  twentieth := 1 / 20
  tenth := 1 / 10
  fifth := 1 / 5
  half := 1 / 2
  one := 1
  add left right := left + right
  sub left right := left - right
  mul left right := left * right
  lt left right := decide (left < right)

section Steps

variable {score : ℚ}

theorem reputationStep_aligned (score : ℚ) :
    reputationStep .exact score "ALIGNED" = 9 / 10 * score + 1 / 10 := by
  simp only [reputationStep, ReputationScale.exact, if_pos]
  ring

theorem reputationStep_lowered (score : ℚ) :
    reputationStep .exact score "PARTIAL" = 19 / 20 * score := by
  have other : "PARTIAL" ≠ "ALIGNED" := by decide
  simp only [reputationStep, ReputationScale.exact, if_pos, if_neg other]
  ring

theorem reputationStep_conflict (score : ℚ) :
    reputationStep .exact score "CONFLICT" = 4 / 5 * score := by
  have notAligned : "CONFLICT" ≠ "ALIGNED" := by decide
  have other : "CONFLICT" ≠ "PARTIAL" := by decide
  simp only [reputationStep, ReputationScale.exact, if_pos, if_neg notAligned, if_neg other]
  ring

theorem reputationStep_unknown {status : String} (notAligned : status ≠ "ALIGNED")
    (other : status ≠ "PARTIAL") (notConflict : status ≠ "CONFLICT") {R : Type}
    (scale : ReputationScale R) (score : R) : reputationStep scale score status = score := by
  rw [reputationStep, if_neg notAligned, if_neg other, if_neg notConflict]

/-- Whatever holds of the three outcomes and of one that is unknown holds of all. -/
theorem status_cases {motive : String → Prop} (status : String) (aligned : motive "ALIGNED")
    (lowered : motive "PARTIAL") (conflict : motive "CONFLICT")
    (unknown : status ≠ "ALIGNED" → status ≠ "PARTIAL" → status ≠ "CONFLICT" → motive status) :
    motive status := by
  by_cases isAligned : status = "ALIGNED"
  · exact isAligned ▸ aligned
  · by_cases isLowered : status = "PARTIAL"
    · exact isLowered ▸ lowered
    · by_cases isConflict : status = "CONFLICT"
      · exact isConflict ▸ conflict
      · exact unknown isAligned isLowered isConflict

/-- A score strictly between 0 and 1. -/
def Inside (score : ℚ) : Prop :=
  0 < score ∧ score < 1

theorem reputationStep_inside (status : String) (inside : Inside score) :
    Inside (reputationStep .exact score status) := by
  rcases inside with ⟨positive, below⟩
  induction status using status_cases with
  | aligned =>
      rw [reputationStep_aligned]
      constructor <;> linarith
  | lowered =>
      rw [reputationStep_lowered]
      constructor <;> linarith
  | conflict =>
      rw [reputationStep_conflict]
      constructor <;> linarith
  | unknown notAligned other notConflict =>
      rw [reputationStep_unknown notAligned other notConflict]
      exact ⟨positive, below⟩

theorem reputationStep_strictMono (status : String) :
    StrictMono fun score => reputationStep .exact score status := by
  intro low high less
  simp only
  induction status using status_cases with
  | aligned =>
      rw [reputationStep_aligned, reputationStep_aligned]
      linarith
  | lowered =>
      rw [reputationStep_lowered, reputationStep_lowered]
      linarith
  | conflict =>
      rw [reputationStep_conflict, reputationStep_conflict]
      linarith
  | unknown notAligned other notConflict =>
      rw [reputationStep_unknown notAligned other notConflict,
        reputationStep_unknown notAligned other notConflict]
      exact less

theorem conflict_lt_lowered (inside : Inside score) :
    reputationStep .exact score "CONFLICT" < reputationStep .exact score "PARTIAL" := by
  rw [reputationStep_conflict, reputationStep_lowered]
  linarith [inside.1]

theorem lowered_lt_aligned (inside : Inside score) :
    reputationStep .exact score "PARTIAL" < reputationStep .exact score "ALIGNED" := by
  rw [reputationStep_lowered, reputationStep_aligned]
  linarith [inside.2]

end Steps

section Histories

/-- The score while the history is read. -/
def runningScore (outcomes : List String) : ℚ :=
  outcomes.foldl (reputationStep .exact) ReputationScale.exact.half

theorem foldl_inside (outcomes : List String) {score : ℚ} (inside : Inside score) :
    Inside (outcomes.foldl (reputationStep .exact) score) := by
  induction outcomes generalizing score with
  | nil => exact inside
  | cons status outcomes induction => exact induction (reputationStep_inside status inside)

theorem foldl_strictMono (outcomes : List String) :
    StrictMono fun score => outcomes.foldl (reputationStep .exact) score := by
  induction outcomes with
  | nil => exact strictMono_id
  | cons status outcomes induction => exact induction.comp (reputationStep_strictMono status)

theorem runningScore_inside (outcomes : List String) : Inside (runningScore outcomes) := by
  apply foldl_inside
  constructor
  · norm_num [ReputationScale.exact]
  · norm_num [ReputationScale.exact]

/-- The clamp never acts. -/
theorem reputationScore_exact (outcomes : List String) :
    reputationScore .exact outcomes = runningScore outcomes := by
  have inside := runningScore_inside outcomes
  have notBelow : ¬runningScore outcomes < 0 := not_lt.mpr inside.1.le
  have notAbove : ¬1 < runningScore outcomes := not_lt.mpr inside.2.le
  change clampScore .exact (runningScore outcomes) = runningScore outcomes
  simp [clampScore, ReputationScale.exact, notBelow, notAbove]

/-- An outcome that leaves the score lower where it stands leaves the final score lower. -/
theorem reputationScore_lt {worse better : String}
    (lower : ∀ score, Inside score →
      reputationStep .exact score worse < reputationStep .exact score better)
    (earlier later : List String) :
    reputationScore .exact (earlier ++ worse :: later) <
      reputationScore .exact (earlier ++ better :: later) := by
  rw [reputationScore_exact, reputationScore_exact]
  simp only [runningScore, List.foldl_append, List.foldl_cons]
  exact foldl_strictMono later (lower _ (runningScore_inside earlier))

/-- For every sequence of outcomes the running score stays strictly between 0 and 1 and is the
score given, and a better outcome anywhere in it never lowers that. -/
theorem reputation_bounded_monotone (outcomes earlier later : List String) :
    (0 < runningScore outcomes ∧ runningScore outcomes < 1) ∧
      reputationScore .exact outcomes = runningScore outcomes ∧
      reputationScore .exact (earlier ++ "CONFLICT" :: later) ≤
        reputationScore .exact (earlier ++ "PARTIAL" :: later) ∧
      reputationScore .exact (earlier ++ "PARTIAL" :: later) ≤
        reputationScore .exact (earlier ++ "ALIGNED" :: later) := by
  constructor
  · exact runningScore_inside outcomes
  · constructor
    · exact reputationScore_exact outcomes
    · constructor
      · exact (reputationScore_lt (fun _ => conflict_lt_lowered) earlier later).le
      · exact (reputationScore_lt (fun _ => lowered_lt_aligned) earlier later).le

end Histories

end Annex.Vrp
