import Mathlib.Algebra.GroupWithZero.Nat
import Mathlib.Data.List.Basic
import Mathlib.Data.Fin.Basic

namespace Annex

/-! Bytes, their big-endian numbers, and their hexadecimal text. -/

abbrev Byte := Fin 256

/-! There are bytes and digits. -/

instance (priority := 2000) byteNeZero : NeZero 256 := ⟨by decide⟩

instance (priority := 2000) digitNeZero : NeZero 16 := ⟨by decide⟩

namespace Hex

/-- The lowercase digit of a value. -/
def digit (value : Fin 16) : Char :=
  "0123456789abcdef".toList.getD value '0'

/-- The value of a digit in either case. -/
def digitValue (character : Char) : Option (Fin 16) :=
  let code := character.toNat
  if 48 ≤ code ∧ code ≤ 57 then some (Fin.ofNat 16 (code - 48))
  else if 97 ≤ code ∧ code ≤ 102 then some (Fin.ofNat 16 (code - 87))
  else if 65 ≤ code ∧ code ≤ 70 then some (Fin.ofNat 16 (code - 55))
  else none

def encodeByte (byte : Byte) : List Char :=
  [digit (Fin.ofNat 16 (byte.val / 16)), digit (Fin.ofNat 16 (byte.val % 16))]

/-- `hex::encode`. -/
def encode (bytes : List Byte) : String :=
  String.ofList (bytes.flatMap encodeByte)

def decodeChars : List Char → Option (List Byte)
  | [] => some []
  | [_] => none
  | high :: low :: rest =>
      match digitValue high, digitValue low, decodeChars rest with
      | some high, some low, some bytes =>
          some (Fin.ofNat 256 (16 * high.val + low.val) :: bytes)
      | _, _, _ => none

/-- `hex::decode`: an odd number of digits or a character that is none fails. -/
def decode (text : String) : Option (List Byte) :=
  decodeChars text.toList

/-- The number of big-endian bytes. -/
def number (bytes : List Byte) : Nat :=
  bytes.foldl (fun value byte => 256 * value + byte.val) 0

/-- The low bytes of a number, big-endian. -/
def bytes : (length value : Nat) → List Byte
  | 0, _ => []
  | length + 1, value => bytes length (value / 256) ++ [Fin.ofNat 256 value]

theorem digitValue_digit (value : Fin 16) : digitValue (digit value) = some value := by
  revert value
  decide

theorem decodeChars_encodeByte (byte : Byte) (rest : List Char) :
    decodeChars (encodeByte byte ++ rest) = (decodeChars rest).map (byte :: ·) := by
  have value : Fin.ofNat 256 (16 * (Fin.ofNat 16 (byte.val / 16)).val +
      (Fin.ofNat 16 (byte.val % 16)).val) = byte := by
    apply Fin.ext
    have bound := byte.isLt
    simp only [Fin.ofNat]
    omega
  simp only [encodeByte, List.cons_append, List.nil_append, decodeChars,
    digitValue_digit]
  cases decodeChars rest with
  | none => rfl
  | some bytes => simp only [value, Option.map_some]

@[simp] theorem decode_encode (bytes : List Byte) : decode (encode bytes) = some bytes := by
  rw [decode, encode, String.toList_ofList]
  induction bytes with
  | nil => rfl
  | cons byte rest induction =>
      rw [List.flatMap_cons, decodeChars_encodeByte, induction]
      rfl

theorem encode_injective : Function.Injective encode := by
  intro left right same
  have decoded := congrArg decode same
  rw [decode_encode, decode_encode] at decoded
  exact Option.some.inj decoded

theorem length_bytes (length value : Nat) : (bytes length value).length = length := by
  induction length generalizing value with
  | zero => rfl
  | succ length induction => rw [bytes, List.length_append, induction, List.length_singleton]

theorem number_concat (bytes : List Byte) (byte : Byte) :
    number (bytes ++ [byte]) = 256 * number bytes + byte.val := by
  simp [number]

theorem number_bytes {length value : Nat} (bound : value < 256 ^ length) :
    number (bytes length value) = value := by
  induction length generalizing value with
  | zero =>
      have zero : value = 0 := by simpa using bound
      simp [zero, bytes, number]
  | succ length induction =>
      have quotient : value / 256 < 256 ^ length := by
        rw [Nat.div_lt_iff_lt_mul (by decide), ← Nat.pow_succ]
        exact bound
      rw [bytes, number_concat, induction quotient]
      exact Nat.div_add_mod value 256

end Hex

end Annex
