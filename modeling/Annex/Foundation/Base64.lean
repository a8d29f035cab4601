import Mathlib.Data.List.TakeWhile
import Annex.Foundation.Hex

namespace Annex

/-! Base 64 with padding: three bytes stand in four characters of six bits each. -/

namespace Base64

abbrev Sextet := Fin 64

instance (priority := 2000) sextetNeZero : NeZero 64 := ⟨by decide⟩

/-- The character of six bits. -/
def digit (value : Sextet) : Char :=
  "ABCDEFGHIJKLMNOPQRSTUVWXYZabcdefghijklmnopqrstuvwxyz0123456789+/".toList.getD value '='

def digitValue (character : Char) : Option Sextet :=
  let code := character.toNat
  if 65 ≤ code ∧ code ≤ 90 then some (Fin.ofNat 64 (code - 65))
  else if 97 ≤ code ∧ code ≤ 122 then some (Fin.ofNat 64 (code - 71))
  else if 48 ≤ code ∧ code ≤ 57 then some (Fin.ofNat 64 (code + 4))
  else if character = '+' then some 62
  else if character = '/' then some 63
  else none

/-- The six-bit groups of some bytes. The last one is filled up with zeros. -/
def sextets : List Byte → List Sextet
  | [] => []
  | [first] => [Fin.ofNat 64 (first.val / 4), Fin.ofNat 64 (first.val % 4 * 16)]
  | [first, second] =>
      [Fin.ofNat 64 (first.val / 4), Fin.ofNat 64 (first.val % 4 * 16 + second.val / 16),
        Fin.ofNat 64 (second.val % 16 * 4)]
  | first :: second :: third :: rest =>
      Fin.ofNat 64 (first.val / 4) :: Fin.ofNat 64 (first.val % 4 * 16 + second.val / 16) ::
        Fin.ofNat 64 (second.val % 16 * 4 + third.val / 64) :: Fin.ofNat 64 third.val ::
          sextets rest

/-- The whole bytes in some six-bit groups. The bits that are left over are dropped. -/
def bytes : List Sextet → List Byte
  | first :: second :: third :: fourth :: rest =>
      Fin.ofNat 256 (first.val * 4 + second.val / 16) ::
        Fin.ofNat 256 (second.val % 16 * 16 + third.val / 4) ::
          Fin.ofNat 256 (third.val % 4 * 64 + fourth.val) :: bytes rest
  | [first, second, third] =>
      [Fin.ofNat 256 (first.val * 4 + second.val / 16),
        Fin.ofNat 256 (second.val % 16 * 16 + third.val / 4)]
  | [first, second] => [Fin.ofNat 256 (first.val * 4 + second.val / 16)]
  | _ => []

/-- `btoa` of a text of bytes. -/
def encode (data : List Byte) : List Char :=
  (sextets data).map digit ++ List.replicate ((3 - data.length % 3) % 3) '='

def isSpace (character : Char) : Bool :=
  character = ' ' || character = '\t' || character = '\n' || character = '\r' ||
    character.toNat = 0x0C

/-- The text without one or two characters of padding, if it is a whole number of groups. -/
def unpad (text : List Char) : List Char :=
  if text.length % 4 = 0 then
    match text.reverse with
    | '=' :: '=' :: rest => rest.reverse
    | '=' :: rest => rest.reverse
    | _ => text
  else text

/-- `atob`: white space is left out, and the padding may be missing. -/
def decode (text : List Char) : Option (List Byte) :=
  let digits := unpad (text.filter fun character => !isSpace character)
  if digits.length % 4 = 1 then none else (digits.mapM digitValue).map bytes

example : encode [0x41, 0x42, 0x43, 0xFF] = ['Q', 'U', 'J', 'D', '/', 'w', '=', '='] ∧
    decode ['Q', 'U', 'J', 'D', '/', 'w'] = some [0x41, 0x42, 0x43, 0xFF] := by
  decide

theorem digit_facts (value : Sextet) :
    digitValue (digit value) = some value ∧ isSpace (digit value) = false ∧
      digit value ≠ '=' := by
  revert value
  decide +kernel

theorem bytes_sextets (data : List Byte) : bytes (sextets data) = data := by
  induction data using sextets.induct with
  | case1 => rfl
  | case2 first =>
      have bound := first.isLt
      have same : Fin.ofNat 256 ((Fin.ofNat 64 (first.val / 4)).val * 4 +
          (Fin.ofNat 64 (first.val % 4 * 16)).val / 16) = first := by
        apply Fin.ext
        simp only [Fin.ofNat]
        omega
      simp only [sextets, bytes, same]
  | case3 first second =>
      have bound := first.isLt
      have secondBound := second.isLt
      simp only [sextets, bytes, List.cons.injEq, and_true, Fin.ext_iff, Fin.ofNat]
      omega
  | case4 first second third rest induction =>
      have bound := first.isLt
      have secondBound := second.isLt
      have thirdBound := third.isLt
      simp only [sextets, bytes, induction, List.cons.injEq, and_true, Fin.ext_iff, Fin.ofNat]
      omega

/-- Without its padding a text is not a whole number of groups, but for whole triples. -/
theorem length_sextets (data : List Byte) :
    (sextets data).length % 4 + (3 - data.length % 3) % 3 = 4 ∨
      (sextets data).length % 4 = 0 ∧ (3 - data.length % 3) % 3 = 0 := by
  induction data using sextets.induct with
  | case1 => exact Or.inr ⟨rfl, rfl⟩
  | case2 first => exact Or.inl rfl
  | case3 first second => exact Or.inl rfl
  | case4 first second third rest induction =>
      simp only [sextets, List.length_cons]
      omega

theorem mapM_digits (values : List Sextet) :
    (values.map digit).mapM digitValue = some values := by
  induction values with
  | nil => rfl
  | cons value values induction =>
      rw [List.map_cons, List.mapM_cons, (digit_facts value).1, induction]
      rfl

theorem unpad_encode (data : List Byte) : unpad (encode data) = (sextets data).map digit := by
  have size := length_sextets data
  have padding : (3 - data.length % 3) % 3 ≤ 2 := by omega
  have whole : (encode data).length % 4 = 0 := by
    rw [encode, List.length_append, List.length_map, List.length_replicate]
    omega
  have last : ∀ rest, ((sextets data).map digit).reverse ≠ '=' :: rest := by
    intro rest same
    have member : '=' ∈ (sextets data).map digit := by
      rw [← List.mem_reverse, same]
      exact List.mem_cons_self
    rcases List.mem_map.mp member with ⟨value, _, digits⟩
    exact (digit_facts value).2.2 digits
  rw [unpad, if_pos whole, encode, List.reverse_append, List.reverse_replicate]
  generalize (3 - data.length % 3) % 3 = count at padding
  match count, padding with
  | 0, _ =>
      rw [List.replicate_zero, List.nil_append, List.append_nil]
      split
      · next same => exact absurd same (last _)
      · next same => exact absurd same (last _)
      · rfl
  | 1, _ =>
      simp only [List.replicate_succ, List.replicate_zero, List.cons_append, List.nil_append,
        List.reverse_reverse]
  | 2, _ =>
      simp only [List.replicate_succ, List.replicate_zero, List.cons_append, List.nil_append,
        List.reverse_reverse]

/-- Bytes are read back from their text. -/
@[simp] theorem decode_encode (data : List Byte) : decode (encode data) = some data := by
  have visible : (encode data).filter (fun character => !isSpace character) = encode data := by
    refine List.filter_eq_self.mpr ?_
    intro character member
    rcases List.mem_append.mp member with member | member
    · rcases List.mem_map.mp member with ⟨value, _, rfl⟩
      rw [(digit_facts value).2.1]
      rfl
    · rw [List.eq_of_mem_replicate member]
      rfl
  have size := length_sextets data
  rw [decode, visible, unpad_encode, List.length_map, if_neg (by omega), mapM_digits,
    Option.map_some, bytes_sextets]

end Base64

end Annex
