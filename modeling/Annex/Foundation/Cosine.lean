import Mathlib.Algebra.BigOperators.Group.Finset.Basic
import Mathlib.Algebra.Order.BigOperators.Ring.Finset
import Mathlib.Analysis.Real.Sqrt

namespace Annex

/-! The cosine between two vectors of real numbers, and zero where one of them is zero. -/

variable {Index : Type u} (indices : Finset Index)

noncomputable section

/-- The length of a vector. -/
def magnitude (vector : Index → ℝ) : ℝ :=
  √(∑ index ∈ indices, vector index * vector index)

open Classical in
/-- The cosine between two vectors. -/
def cosine (left right : Index → ℝ) : ℝ :=
  if magnitude indices left = 0 ∨ magnitude indices right = 0 then
    0
  else
    (∑ index ∈ indices, left index * right index) /
      (magnitude indices left * magnitude indices right)

end

variable {indices} {left right vector : Index → ℝ}

theorem magnitude_nonneg : 0 ≤ magnitude indices vector :=
  Real.sqrt_nonneg _

theorem magnitude_mul_self (indices : Finset Index) (vector : Index → ℝ) :
    magnitude indices vector * magnitude indices vector =
      ∑ index ∈ indices, vector index * vector index :=
  Real.mul_self_sqrt (Finset.sum_nonneg fun index _ => mul_self_nonneg (vector index))

theorem magnitude_ne_zero {index : Index} (member : index ∈ indices)
    (nonzero : vector index ≠ 0) : magnitude indices vector ≠ 0 := by
  intro zero
  have squares := magnitude_mul_self indices vector
  rw [zero, mul_zero, eq_comm, Finset.sum_eq_zero_iff_of_nonneg] at squares
  · exact nonzero (mul_self_eq_zero.mp (squares index member))
  · intro other _
    exact mul_self_nonneg (vector other)

/-- The inequality of Cauchy and Schwarz. -/
theorem dot_le_magnitudes :
    ∑ index ∈ indices, left index * right index ≤
      magnitude indices left * magnitude indices right := by
  have bound := Real.sum_mul_le_sqrt_mul_sqrt indices left right
  simp only [pow_two] at bound
  exact bound

theorem cosine_nonneg (leftNonneg : ∀ index ∈ indices, 0 ≤ left index)
    (rightNonneg : ∀ index ∈ indices, 0 ≤ right index) : 0 ≤ cosine indices left right := by
  unfold cosine
  split
  · exact le_rfl
  · apply div_nonneg
    · apply Finset.sum_nonneg
      intro index member
      exact mul_nonneg (leftNonneg index member) (rightNonneg index member)
    · exact mul_nonneg magnitude_nonneg magnitude_nonneg

theorem cosine_le_one : cosine indices left right ≤ 1 := by
  unfold cosine
  split
  · exact zero_le_one
  · exact div_le_one_of_le₀ dot_le_magnitudes (mul_nonneg magnitude_nonneg magnitude_nonneg)

/-- A vector other than zero points where it does. -/
theorem cosine_self {index : Index} (member : index ∈ indices) (nonzero : vector index ≠ 0) :
    cosine indices vector vector = 1 := by
  have length := magnitude_ne_zero member nonzero
  unfold cosine
  rw [if_neg (not_or_intro length length), ← magnitude_mul_self]
  exact div_self (mul_ne_zero length length)

end Annex
