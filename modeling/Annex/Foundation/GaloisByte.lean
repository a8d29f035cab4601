import Mathlib.Algebra.Group.Nat.Defs
import Mathlib.Algebra.Field.Defs
import Mathlib.Algebra.GroupWithZero.Basic
import Mathlib.Algebra.Group.Basic
import Mathlib.Data.Fintype.EquivFin

namespace Annex

/-- A byte as an element of the field of 256 elements: the coefficients of a polynomial over
the bits, reduced by `x^8 + x^4 + x^3 + x + 1`. -/
@[ext] structure GaloisByte where
  bits : BitVec 8
deriving DecidableEq, Repr

namespace GaloisByte

/-! The field of bytes. Addition is bitwise, and multiplication adds the multiples of one
factor that the bits of the other select. Both are linear in each factor, so that a law
of multiplication follows from its cases on the eight single bits. -/

instance : Zero GaloisByte := ⟨⟨0#8⟩⟩

instance : One GaloisByte := ⟨⟨1#8⟩⟩

instance : Add GaloisByte := ⟨fun left right => ⟨left.bits ^^^ right.bits⟩⟩

instance : Neg GaloisByte := ⟨id⟩

@[simp] theorem bits_zero : (0 : GaloisByte).bits = 0#8 := rfl

@[simp] theorem bits_one : (1 : GaloisByte).bits = 1#8 := rfl

@[simp] theorem bits_add (left right : GaloisByte) :
    (left + right).bits = left.bits ^^^ right.bits := rfl

@[simp] theorem add_self (element : GaloisByte) : element + element = 0 := by
  apply GaloisByte.ext
  exact BitVec.xor_self

instance : AddCommGroup GaloisByte where
  add_assoc left middle right := by
    apply GaloisByte.ext
    exact BitVec.xor_assoc _ _ _
  zero_add element := by
    apply GaloisByte.ext
    exact BitVec.zero_xor
  add_zero element := by
    apply GaloisByte.ext
    exact BitVec.xor_zero
  add_comm left right := by
    apply GaloisByte.ext
    exact BitVec.xor_comm _ _
  neg_add_cancel := add_self
  nsmul := nsmulRec
  zsmul := zsmulRec

/-- In characteristic two a difference is a sum. -/
theorem sub_eq_add (left right : GaloisByte) : left - right = left + right := rfl

/-- The number whose binary digits are the bits. -/
def toNat (element : GaloisByte) : Nat := element.bits.toNat

/-- The element of the low eight bits of a number. -/
def ofNat (value : Nat) : GaloisByte := ⟨BitVec.ofNat 8 value⟩

@[simp] theorem toNat_zero : (0 : GaloisByte).toNat = 0 := rfl

@[simp] theorem toNat_one : (1 : GaloisByte).toNat = 1 := rfl

theorem toNat_lt (element : GaloisByte) : element.toNat < 256 := element.bits.isLt

@[simp] theorem toNat_add (left right : GaloisByte) :
    (left + right).toNat = left.toNat ^^^ right.toNat :=
  BitVec.toNat_xor _ _

theorem toNat_injective {left right : GaloisByte} (equal : left.toNat = right.toNat) :
    left = right := by
  apply GaloisByte.ext
  exact BitVec.eq_of_toNat_eq equal

theorem toNat_ofNat {value : Nat} (bound : value < 256) : (ofNat value).toNat = value := by
  rw [toNat, ofNat, BitVec.toNat_ofNat]
  exact Nat.mod_eq_of_lt bound

@[simp] theorem ofNat_toNat (element : GaloisByte) : ofNat element.toNat = element :=
  toNat_injective (toNat_ofNat element.toNat_lt)

@[simp] theorem toNat_eq_zero_iff {element : GaloisByte} : element.toNat = 0 ↔ element = 0 := by
  constructor
  · intro isZero
    exact toNat_injective isZero
  · intro isZero
    rw [isZero, toNat_zero]

/-- The product with `x`: a shift, reduced where it overflows. -/
def timesX (element : GaloisByte) : GaloisByte :=
  ⟨element.bits <<< 1 ^^^ if element.bits.msb then 0x1b#8 else 0#8⟩

/-- The sum of the multiples of the left factor that the low bits of the right one select. -/
def product : Nat → GaloisByte → GaloisByte → GaloisByte
  | 0, _, _ => 0
  | width + 1, left, right =>
      (if right.bits.getLsbD 0 then left else 0) +
        product width left.timesX ⟨right.bits >>> 1⟩

instance : Mul GaloisByte := ⟨product 8⟩

theorem toNat_timesX_bits : ∀ bits : BitVec 8, (timesX ⟨bits⟩).toNat =
    if bits.toNat <<< 1 &&& 0x100 ≠ 0 then bits.toNat <<< 1 ^^^ 0x11b
    else bits.toNat <<< 1 := by
  decide +kernel

/-- The product with `x` on numbers: the bit shifted out selects the reduction. -/
theorem toNat_timesX (element : GaloisByte) : element.timesX.toNat =
    if element.toNat <<< 1 &&& 0x100 ≠ 0 then element.toNat <<< 1 ^^^ 0x11b
    else element.toNat <<< 1 :=
  toNat_timesX_bits element.bits

theorem mul_eq_product (left right : GaloisByte) : left * right = product 8 left right := rfl

theorem timesX_add (left right : GaloisByte) :
    (left + right).timesX = left.timesX + right.timesX := by
  apply GaloisByte.ext
  simp only [timesX, bits_add, BitVec.shiftLeft_xor_distrib, BitVec.msb_xor]
  cases left.bits.msb with
  | false => simp [BitVec.xor_assoc]
  | true =>
      cases right.bits.msb with
      | false =>
          simp only [Bool.true_xor, Bool.not_false, if_true, Bool.false_eq_true, if_false,
            BitVec.xor_zero]
          rw [BitVec.xor_assoc, BitVec.xor_comm (right.bits <<< 1), ← BitVec.xor_assoc]
      | true =>
          have cancel (mask first second : BitVec 8) :
              first ^^^ mask ^^^ (second ^^^ mask) = first ^^^ second := by
            rw [BitVec.xor_comm second mask, ← BitVec.xor_assoc, BitVec.xor_assoc first,
              BitVec.xor_self, BitVec.xor_zero]
          simp [cancel]

theorem product_add_left (width : Nat) (left other right : GaloisByte) :
    product width (left + other) right = product width left right + product width other right := by
  induction width generalizing left other right with
  | zero => exact (add_zero 0).symm
  | succ width induction =>
      simp only [product, timesX_add, induction]
      cases right.bits.getLsbD 0 with
      | false => simp
      | true => exact add_add_add_comm _ _ _ _

theorem product_add_right (width : Nat) (left right other : GaloisByte) :
    product width left (right + other) = product width left right + product width left other := by
  induction width generalizing left right other with
  | zero => exact (add_zero 0).symm
  | succ width induction =>
      have shifted : (⟨(right + other).bits >>> 1⟩ : GaloisByte) =
          ⟨right.bits >>> 1⟩ + ⟨other.bits >>> 1⟩ := by
        apply GaloisByte.ext
        exact BitVec.ushiftRight_xor_distrib _ _ _
      have selected : (if (right + other).bits.getLsbD 0 then left else 0) =
          (if right.bits.getLsbD 0 then left else 0) +
            if other.bits.getLsbD 0 then left else 0 := by
        rw [bits_add, BitVec.getLsbD_xor]
        cases right.bits.getLsbD 0 <;> cases other.bits.getLsbD 0 <;> simp
      rw [product, shifted, selected, induction]
      exact add_add_add_comm _ _ _ _

theorem sum_mul (left other right : GaloisByte) :
    (left + other) * right = left * right + other * right :=
  product_add_left 8 left other right

theorem mul_sum (left right other : GaloisByte) :
    left * (right + other) = left * right + left * other :=
  product_add_right 8 left right other

theorem product_zero_left (width : Nat) (right : GaloisByte) : product width 0 right = 0 := by
  have doubled := product_add_left width 0 0 right
  rw [add_zero, add_self] at doubled
  exact doubled

theorem product_zero_right (width : Nat) (left : GaloisByte) : product width left 0 = 0 := by
  have doubled := product_add_right width left 0 0
  rw [add_zero, add_self] at doubled
  exact doubled

/-- The byte of a single bit. -/
def power (index : Fin 8) : GaloisByte := ⟨BitVec.twoPow 8 index⟩

/-- Every byte is a sum of single bits. -/
theorem bits_induction {motive : GaloisByte → Prop} (zero : motive 0)
    (single : ∀ index, motive (power index))
    (add : ∀ left right, motive left → motive right → motive (left + right))
    (element : GaloisByte) : motive element := by
  have below : ∀ width, width ≤ 8 → ∀ element : GaloisByte,
      (∀ index, width ≤ index → element.bits.getLsbD index = false) → motive element := by
    intro width
    induction width with
    | zero =>
        intro _ element clear
        have isZero : element = 0 := by
          apply GaloisByte.ext
          apply BitVec.eq_of_getLsbD_eq
          intro index _
          rw [clear index (Nat.zero_le index), bits_zero, BitVec.getLsbD_zero]
        rw [isZero]
        exact zero
    | succ width induction =>
        intro bound element clear
        cases top : element.bits.getLsbD width with
        | false =>
            apply induction (by omega) element
            intro index atLeast
            rcases Nat.eq_or_lt_of_le atLeast with equal | above
            · rw [← equal, top]
            · exact clear index above
        | true =>
            have lower : motive (element + power ⟨width, bound⟩) := by
              apply induction (by omega)
              intro index atLeast
              rw [bits_add, BitVec.getLsbD_xor, power, BitVec.getLsbD_twoPow]
              rcases Nat.eq_or_lt_of_le atLeast with equal | above
              · have inside : width < 8 := bound
                simp [← equal, top, inside]
              · have different : width ≠ index := by omega
                simp [clear index above, different]
            have restored := add _ _ lower (single ⟨width, bound⟩)
            rw [add_assoc, add_self, add_zero] at restored
            exact restored
  apply below 8 (Nat.le_refl 8) element
  intro index atLeast
  exact BitVec.getLsbD_of_ge _ _ atLeast

theorem power_mul_comm : ∀ i j : Fin 8, power i * power j = power j * power i := by
  decide +kernel

theorem power_mul_assoc :
    ∀ i j k : Fin 8, power i * power j * power k = power i * (power j * power k) := by
  decide +kernel

theorem mul_commutes (left right : GaloisByte) : left * right = right * left := by
  induction left using bits_induction with
  | zero => exact (product_zero_left 8 right).trans (product_zero_right 8 right).symm
  | single i =>
      induction right using bits_induction with
      | zero => exact (product_zero_right 8 _).trans (product_zero_left 8 _).symm
      | single j => exact power_mul_comm i j
      | add first second firstLaw secondLaw =>
          rw [mul_sum, sum_mul, firstLaw, secondLaw]
  | add first second firstLaw secondLaw =>
      rw [mul_sum, sum_mul, firstLaw, secondLaw]

theorem mul_associates (left middle right : GaloisByte) :
    left * middle * right = left * (middle * right) := by
  induction left using bits_induction with
  | zero =>
      simp only [mul_eq_product, product_zero_left]
  | single i =>
      induction middle using bits_induction with
      | zero =>
          simp only [mul_eq_product, product_zero_left, product_zero_right]
      | single j =>
          induction right using bits_induction with
          | zero =>
              simp only [mul_eq_product, product_zero_right]
          | single k => exact power_mul_assoc i j k
          | add first second firstLaw secondLaw =>
              rw [mul_sum, mul_sum, mul_sum, firstLaw, secondLaw]
      | add first second firstLaw secondLaw =>
          rw [mul_sum, sum_mul, sum_mul, mul_sum, firstLaw, secondLaw]
  | add first second firstLaw secondLaw =>
      rw [sum_mul, sum_mul, sum_mul, firstLaw, secondLaw]

theorem mul_unit (element : GaloisByte) : element * 1 = element := by
  rw [mul_eq_product]
  simp [product]

instance : CommRing GaloisByte where
  left_distrib := mul_sum
  right_distrib := sum_mul
  zero_mul := product_zero_left 8
  mul_zero := product_zero_right 8
  mul_assoc := mul_associates
  one_mul element := (mul_commutes 1 element).trans (mul_unit element)
  mul_one := mul_unit
  mul_comm := mul_commutes
  zsmul := zsmulRec
  neg_add_cancel := add_self

theorem square_add (left right : GaloisByte) :
    (left + right) ^ 2 = left ^ 2 + right ^ 2 := by
  rw [sq, sq, sq, mul_add, add_mul, add_mul, mul_comm right left, ← add_assoc,
    add_assoc (left * left), add_self, add_zero]

theorem frobenius_add (times : Nat) (left right : GaloisByte) :
    (left + right) ^ 2 ^ times = left ^ 2 ^ times + right ^ 2 ^ times := by
  induction times with
  | zero => simp
  | succ times induction =>
      simp only [Nat.pow_succ, pow_mul, induction, square_add]

theorem power_squares : ∀ i : Fin 8, (· ^ 2)^[8] (power i) = power i := by
  decide +kernel

theorem pow_256 (element : GaloisByte) : element ^ 2 ^ 8 = element := by
  induction element using bits_induction with
  | zero => exact zero_pow (by decide)
  | single i =>
      have squares := power_squares i
      rw [pow_iterate] at squares
      exact squares
  | add left right leftLaw rightLaw => rw [frobenius_add, leftLaw, rightLaw]

theorem idempotent_bits : ∀ bits : BitVec 8,
    (⟨bits⟩ : GaloisByte) * ⟨bits⟩ = ⟨bits⟩ → bits = 0#8 ∨ bits = 1#8 := by
  decide +kernel

/-- The power 255 of an element is idempotent, so that it is zero or one. -/
theorem pow_255 {element : GaloisByte} (nonzero : element ≠ 0) : element ^ 255 = 1 := by
  have fixed : element * element ^ 255 = element := by
    rw [← pow_succ']
    exact pow_256 element
  have idempotent : element ^ 255 * element ^ 255 = element ^ 255 := by
    calc element ^ 255 * element ^ 255 = element ^ 254 * (element * element ^ 255) := by
          rw [← mul_assoc, ← pow_succ]
      _ = element ^ 254 * element := by rw [fixed]
      _ = element ^ 255 := (pow_succ element 254).symm
  rcases idempotent_bits _ idempotent with zero | one
  · have isZero : element ^ 255 = 0 := GaloisByte.ext zero
    rw [isZero, mul_zero] at fixed
    exact absurd fixed.symm nonzero
  · exact GaloisByte.ext one

instance : Inv GaloisByte := ⟨fun element => element ^ 254⟩

theorem inv_eq_pow (element : GaloisByte) : element⁻¹ = element ^ 254 := rfl

instance : Field GaloisByte where
  exists_pair_ne := ⟨0, 1, by decide⟩
  mul_inv_cancel element nonzero := by
    rw [inv_eq_pow, ← pow_succ']
    exact pow_255 nonzero
  inv_zero := zero_pow (by decide)
  nnqsmul := _
  nnqsmul_def := fun _ _ => rfl
  qsmul := _
  qsmul_def := fun _ _ => rfl

end GaloisByte

end Annex
