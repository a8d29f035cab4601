namespace Annex

/-! Number types a computation is written for once and run on several: the
machine's floating point, and exact arithmetic in proofs. -/

/-- The operations such a computation uses. -/
class Scalar (R : Type) where
  zero : R
  one : R
  add : R → R → R
  mul : R → R → R
  div : R → R → R
  sqrt : R → R
  ofNat : Nat → R
  eq : R → R → Bool
  lt : R → R → Bool
  le : R → R → Bool

/-- An IEEE 754 single-precision value, by its bits. Its arithmetic is the
machine's: an instance of `Scalar F32` stands for it. -/
structure F32 where
  bits : BitVec 32
deriving DecidableEq, Repr

namespace F32

def zero : F32 := ⟨0x00000000⟩

def half : F32 := ⟨0x3f000000⟩

/-- The nearest value to 0.8. -/
def fourFifths : F32 := ⟨0x3f4ccccd⟩

def one : F32 := ⟨0x3f800000⟩

end F32

end Annex
