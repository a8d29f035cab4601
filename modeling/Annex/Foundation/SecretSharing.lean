import Mathlib.LinearAlgebra.Lagrange

namespace Annex.SecretSharing

open Polynomial

/-! Sharing by a polynomial over a field: its constant term is the secret and its values
are the shares. Enough shares determine the secret, and one share fewer fits every secret
in exactly one way. -/

variable {F : Type u} [Field F]

/-- The value at a point of the polynomial with the given coefficients, the constant first. -/
def value : List F → F → F
  | [], _ => 0
  | coefficient :: rest, point => coefficient + point * value rest point

noncomputable def polynomial : List F → F[X]
  | [] => 0
  | coefficient :: rest => C coefficient + X * polynomial rest

@[simp] theorem eval_polynomial (coefficients : List F) (point : F) :
    (polynomial coefficients).eval point = value coefficients point := by
  induction coefficients with
  | nil => simp [polynomial, value]
  | cons coefficient rest induction => simp [polynomial, value, induction]

theorem coeff_polynomial (coefficients : List F) (index : Nat) :
    (polynomial coefficients).coeff index = coefficients.getD index 0 := by
  induction coefficients generalizing index with
  | nil => simp [polynomial]
  | cons coefficient rest induction =>
      cases index with
      | zero => simp [polynomial]
      | succ index => simp [polynomial, induction]

theorem degree_polynomial_lt (coefficients : List F) :
    (polynomial coefficients).degree < coefficients.length := by
  rw [degree_lt_iff_coeff_zero]
  intro index outside
  rw [coeff_polynomial]
  simp [List.getD_eq_getElem?_getD, List.getElem?_eq_none outside]

/-- The coefficients of a polynomial of small degree give it back. -/
theorem polynomial_ofFn_coeff {count : Nat} {source : F[X]} (small : source.degree < count) :
    polynomial (List.ofFn fun index : Fin count => source.coeff index) = source := by
  ext index
  rw [coeff_polynomial]
  rcases Nat.lt_or_ge index count with inside | outside
  · simp [List.getD_eq_getElem?_getD, inside]
  · rw [List.getD_eq_getElem?_getD, List.getElem?_eq_none (by simpa using outside)]
    exact ((degree_lt_iff_coeff_zero _ _).mp small index outside).symm

section Points

variable {Index : Type v} [Fintype Index] [DecidableEq Index]

/-- The weight of a point in the interpolation at zero. -/
def weight (points : Index → F) (index : Index) : F :=
  ∏ other ∈ Finset.univ.erase index, (0 - points other) / (points index - points other)

/-- As many shares as coefficients determine the constant. -/
theorem sum_value_mul_weight {points : Index → F} (distinct : Function.Injective points)
    {coefficients : List F} (enough : coefficients.length ≤ Fintype.card Index) :
    ∑ index, value coefficients (points index) * weight points index =
      value coefficients 0 := by
  have small : (polynomial coefficients).degree < (Finset.univ : Finset Index).card := by
    apply lt_of_lt_of_le (degree_polynomial_lt coefficients)
    exact_mod_cast enough
  have interpolated := congrArg (Polynomial.eval 0)
    (Lagrange.eq_interpolate (distinct.injOn (s := ↑(Finset.univ : Finset Index))) small)
  rw [eval_polynomial, Lagrange.interpolate_apply, eval_finsetSum] at interpolated
  rw [interpolated]
  apply Finset.sum_congr rfl
  intro index _
  rw [eval_mul, eval_C, eval_polynomial, weight, Lagrange.basis, eval_prod]
  congr 1
  apply Finset.prod_congr rfl
  intro other _
  simp [Lagrange.basisDivisor, div_eq_mul_inv, mul_comm]

/-- Values at as many points as there are coefficients fit exactly one polynomial. -/
theorem existsUnique_coefficients {count : Nat} {points : Fin count → F}
    (distinct : Function.Injective points) (values : Fin count → F) :
    ∃! coefficients : Fin count → F,
      ∀ index, value (List.ofFn coefficients) (points index) = values index := by
  have onAll := distinct.injOn (s := ↑(Finset.univ : Finset (Fin count)))
  have small := Lagrange.degree_interpolate_lt values onAll
  rw [Finset.card_univ, Fintype.card_fin] at small
  refine ⟨fun index => (Lagrange.interpolate Finset.univ points values).coeff index, ?_, ?_⟩
  · intro index
    rw [← eval_polynomial, polynomial_ofFn_coeff small]
    exact Lagrange.eval_interpolate_at_node values onAll (Finset.mem_univ index)
  · intro coefficients fits
    have same : polynomial (List.ofFn coefficients) =
        Lagrange.interpolate Finset.univ points values := by
      apply Lagrange.eq_interpolate_of_eval_eq _ onAll
      · simpa using degree_polynomial_lt (List.ofFn coefficients)
      · intro index _
        rw [eval_polynomial, fits index]
    funext index
    rw [← same, coeff_polynomial]
    simp

/-- Shares at points other than zero fit each secret with exactly one choice of the other
coefficients. -/
theorem existsUnique_rest {count : Nat} {points : Fin count → F}
    (distinct : Function.Injective points) (nonzero : ∀ index, points index ≠ 0)
    (secret : F) (values : Fin count → F) :
    ∃! rest : Fin count → F,
      ∀ index, value (secret :: List.ofFn rest) (points index) = values index := by
  have fits (rest : Fin count → F) (index : Fin count) :
      value (secret :: List.ofFn rest) (points index) = values index ↔
        value (List.ofFn rest) (points index) = (values index - secret) / points index := by
    rw [value, eq_div_iff (nonzero index), eq_sub_iff_add_eq', mul_comm]
  simp only [fits]
  exact existsUnique_coefficients distinct _

end Points

end Annex.SecretSharing
