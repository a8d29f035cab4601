import Annex.Foundation.Hex

namespace Annex

/-! The bytes of texts, and texts read from any bytes: what is no character is read as a
replacement character. -/

namespace Utf8

/-- The bytes of a character. -/
def encodeChar (character : Char) : List Byte :=
  (String.utf8EncodeChar character).map fun byte => Fin.ofNat 256 byte.toNat

def encode (characters : List Char) : List Byte := characters.flatMap encodeChar

theorem encode_append (left right : List Char) :
    encode (left ++ right) = encode left ++ encode right := List.flatMap_append

theorem encode_cons (character : Char) (rest : List Char) :
    encode (character :: rest) = encodeChar character ++ encode rest := List.flatMap_cons

theorem encodeChar_of_ascii {character : Char} (ascii : character.toNat < 128) :
    encodeChar character = [Fin.ofNat 256 character.toNat] := by
  have code : character.val.toNat = character.toNat := rfl
  unfold encodeChar String.utf8EncodeChar
  simp only [code]
  rw [if_pos (by omega), List.map_singleton, UInt8.toNat_ofNat', Nat.mod_eq_of_lt (by omega)]

theorem length_encodeChar_pos (character : Char) : 0 < (encodeChar character).length := by
  rw [encodeChar, List.length_map]
  exact List.length_pos_iff.mpr String.utf8EncodeChar_ne_nil

theorem forall_ascii {motive : Char → Prop} (all : ∀ code : Fin 128, motive (Char.ofNat code.val))
    {character : Char} (ascii : character.toNat < 128) : motive character := by
  rw [← Char.ofNat_toNat character]
  exact all ⟨character.toNat, ascii⟩

/-- What has been read of a character, how many bytes of it are to come, and the least and the
greatest that the next one may be. -/
structure Decoder where
  codePoint : Nat
  needed : Nat
  lower : Nat
  upper : Nat
deriving DecidableEq, Repr

namespace Decoder

/-- Between two characters. -/
def idle : Decoder := ⟨0, 0, 0x80, 0xBF⟩

def replacement : Char := Char.ofNat 0xFFFD

/-- The first byte of a character. -/
def first (byte : Byte) : List Char × Decoder :=
  if byte.val ≤ 0x7F then ([Char.ofNat byte.val], idle)
  else if 0xC2 ≤ byte.val ∧ byte.val ≤ 0xDF then ([], ⟨byte.val - 0xC0, 1, 0x80, 0xBF⟩)
  else if 0xE0 ≤ byte.val ∧ byte.val ≤ 0xEF then
    ([], ⟨byte.val - 0xE0, 2, if byte.val = 0xE0 then 0xA0 else 0x80,
      if byte.val = 0xED then 0x9F else 0xBF⟩)
  else if 0xF0 ≤ byte.val ∧ byte.val ≤ 0xF4 then
    ([], ⟨byte.val - 0xF0, 3, if byte.val = 0xF0 then 0x90 else 0x80,
      if byte.val = 0xF4 then 0x8F else 0xBF⟩)
  else ([replacement], idle)

/-- A further byte. One that does not belong to the character is the first of another. -/
def take (decoder : Decoder) (byte : Byte) : List Char × Decoder :=
  if decoder.needed = 0 then first byte
  else if byte.val < decoder.lower ∨ decoder.upper < byte.val then
    (replacement :: (first byte).1, (first byte).2)
  else if decoder.needed = 1 then
    ([Char.ofNat (64 * decoder.codePoint + byte.val % 64)], idle)
  else
    ([], ⟨64 * decoder.codePoint + byte.val % 64, decoder.needed - 1, 0x80, 0xBF⟩)

def read : Decoder → List Byte → List Char
  | decoder, [] => if decoder.needed = 0 then [] else [replacement]
  | decoder, byte :: rest => (decoder.take byte).1 ++ read (decoder.take byte).2 rest

end Decoder

/-- `UTF-8 decode without BOM`. -/
def decode (bytes : List Byte) : List Char := Decoder.idle.read bytes

example : decode [0x41, 0xC3, 0xA9, 0xE2, 0x82, 0x42] =
    ['A', 'é', Decoder.replacement, 'B'] := by
  decide

namespace Decoder

theorem read_first {byte : Byte} (rest : List Byte) :
    idle.read (byte :: rest) = (first byte).1 ++ (first byte).2.read rest := by
  simp [read, take, idle]

/-- A byte in the bounds that is not the last one of its character. -/
theorem read_next {codePoint needed lower upper : Nat} {byte : Byte} (rest : List Byte)
    (above : lower ≤ byte.val) (below : byte.val ≤ upper) :
    read ⟨codePoint, needed + 2, lower, upper⟩ (byte :: rest) =
      read ⟨64 * codePoint + byte.val % 64, needed + 1, 0x80, 0xBF⟩ rest := by
  simp [read, take, Nat.not_lt.mpr above, Nat.not_lt.mpr below]

/-- A byte in the bounds that is the last one of its character. -/
theorem read_last {codePoint lower upper : Nat} {byte : Byte} (rest : List Byte)
    (above : lower ≤ byte.val) (below : byte.val ≤ upper) :
    read ⟨codePoint, 1, lower, upper⟩ (byte :: rest) =
      Char.ofNat (64 * codePoint + byte.val % 64) :: idle.read rest := by
  simp [read, take, Nat.not_lt.mpr above, Nat.not_lt.mpr below]

end Decoder

section Inverse

open Decoder

variable {number : Nat} (rest : List Byte)

theorem val_ofNat (small : number < 256) : (Fin.ofNat 256 number).val = number :=
  Nat.mod_eq_of_lt small

theorem read_one (small : number ≤ 0x7F) :
    idle.read (Fin.ofNat 256 number :: rest) = Char.ofNat number :: idle.read rest := by
  have lead : (Fin.ofNat 256 number).val = number := val_ofNat (by omega)
  rw [read_first, first, lead, if_pos small]
  rfl

theorem read_two (large : 0x7F < number) (small : number ≤ 0x7FF) :
    idle.read (Fin.ofNat 256 (number / 64 + 0xC0) :: Fin.ofNat 256 (number % 64 + 0x80) :: rest) =
      Char.ofNat number :: idle.read rest := by
  have lead : (Fin.ofNat 256 (number / 64 + 0xC0)).val = number / 64 + 0xC0 :=
    val_ofNat (by omega)
  have last : (Fin.ofNat 256 (number % 64 + 0x80)).val = number % 64 + 0x80 :=
    val_ofNat (by omega)
  have started : first (Fin.ofNat 256 (number / 64 + 0xC0)) =
      ([], ⟨number / 64, 1, 0x80, 0xBF⟩) := by
    rw [first, lead, if_neg (by omega), if_pos (by omega), Nat.add_sub_cancel]
  rw [read_first, started, List.nil_append, read_last rest (by omega) (by omega), last]
  congr 2
  omega

theorem read_three (large : 0x7FF < number) (small : number ≤ 0xFFFF)
    (scalar : number < 0xD800 ∨ 0xDFFF < number) :
    idle.read (Fin.ofNat 256 (number / 4096 + 0xE0) ::
        Fin.ofNat 256 (number / 64 % 64 + 0x80) :: Fin.ofNat 256 (number % 64 + 0x80) :: rest) =
      Char.ofNat number :: idle.read rest := by
  have lead : (Fin.ofNat 256 (number / 4096 + 0xE0)).val = number / 4096 + 0xE0 :=
    val_ofNat (by omega)
  have second : (Fin.ofNat 256 (number / 64 % 64 + 0x80)).val = number / 64 % 64 + 0x80 :=
    val_ofNat (by omega)
  have last : (Fin.ofNat 256 (number % 64 + 0x80)).val = number % 64 + 0x80 :=
    val_ofNat (by omega)
  have started : first (Fin.ofNat 256 (number / 4096 + 0xE0)) =
      ([], ⟨number / 4096, 2, if number / 4096 + 0xE0 = 0xE0 then 0xA0 else 0x80,
        if number / 4096 + 0xE0 = 0xED then 0x9F else 0xBF⟩) := by
    rw [first, lead, if_neg (by omega), if_neg (by omega), if_pos (by omega), Nat.add_sub_cancel]
  -- the bounds after the first byte keep out what two bytes can hold, and the surrogates
  have above : (if number / 4096 + 0xE0 = 0xE0 then 0xA0 else 0x80) ≤
      number / 64 % 64 + 0x80 := by
    split <;> omega
  have below : number / 64 % 64 + 0x80 ≤
      if number / 4096 + 0xE0 = 0xED then 0x9F else 0xBF := by
    split <;> omega
  rw [read_first, started, List.nil_append,
    read_next _ (second.symm ▸ above) (second.symm ▸ below),
    read_last rest (by omega) (by omega), second, last]
  congr 2
  omega

theorem read_four (large : 0xFFFF < number) (small : number < 0x110000) :
    idle.read (Fin.ofNat 256 (number / 262144 + 0xF0) ::
        Fin.ofNat 256 (number / 4096 % 64 + 0x80) ::
          Fin.ofNat 256 (number / 64 % 64 + 0x80) :: Fin.ofNat 256 (number % 64 + 0x80) :: rest) =
      Char.ofNat number :: idle.read rest := by
  have lead : (Fin.ofNat 256 (number / 262144 + 0xF0)).val = number / 262144 + 0xF0 :=
    val_ofNat (by omega)
  have second : (Fin.ofNat 256 (number / 4096 % 64 + 0x80)).val = number / 4096 % 64 + 0x80 :=
    val_ofNat (by omega)
  have third : (Fin.ofNat 256 (number / 64 % 64 + 0x80)).val = number / 64 % 64 + 0x80 :=
    val_ofNat (by omega)
  have last : (Fin.ofNat 256 (number % 64 + 0x80)).val = number % 64 + 0x80 :=
    val_ofNat (by omega)
  have started : first (Fin.ofNat 256 (number / 262144 + 0xF0)) =
      ([], ⟨number / 262144, 3, if number / 262144 + 0xF0 = 0xF0 then 0x90 else 0x80,
        if number / 262144 + 0xF0 = 0xF4 then 0x8F else 0xBF⟩) := by
    rw [first, lead, if_neg (by omega), if_neg (by omega), if_neg (by omega), if_pos (by omega),
      Nat.add_sub_cancel]
  have above : (if number / 262144 + 0xF0 = 0xF0 then 0x90 else 0x80) ≤
      number / 4096 % 64 + 0x80 := by
    split <;> omega
  have below : number / 4096 % 64 + 0x80 ≤
      if number / 262144 + 0xF0 = 0xF4 then 0x8F else 0xBF := by
    split <;> omega
  rw [read_first, started, List.nil_append,
    read_next _ (second.symm ▸ above) (second.symm ▸ below),
    read_next _ (by omega) (by omega), read_last rest (by omega) (by omega), second, third, last]
  congr 2
  omega

/-- A character is read back from its bytes, and then what follows. -/
theorem read_encodeChar (character : Char) :
    idle.read (encodeChar character ++ rest) = character :: idle.read rest := by
  have valid := character.valid
  have same : Char.ofNat character.toNat = character := Char.ofNat_toNat character
  have code : character.val.toNat = character.toNat := rfl
  have byte (number : Nat) (small : number < 256) :
      Fin.ofNat 256 (UInt8.ofNat number).toNat = Fin.ofNat 256 number := by
    rw [UInt8.toNat_ofNat', Nat.mod_eq_of_lt small]
  simp only [UInt32.isValidChar, Nat.isValidChar, code] at valid
  unfold encodeChar String.utf8EncodeChar
  simp only [code]
  split
  · next small =>
    have read := read_one rest small
    simp only [List.map_cons, List.map_nil, List.cons_append, List.nil_append]
    rw [byte _ (by omega), read, same]
  · split
    · next large small =>
      have read := read_two rest (Nat.lt_of_not_le large) small
      have front : character.toNat / 64 % 0x20 = character.toNat / 64 := by omega
      simp only [List.map_cons, List.map_nil, List.cons_append, List.nil_append]
      rw [byte _ (by omega), byte _ (by omega), front, read, same]
    · split
      · next large small =>
        have read := read_three rest (Nat.lt_of_not_le large) small (by omega)
        have front : character.toNat / 4096 % 0x10 = character.toNat / 4096 := by omega
        simp only [List.map_cons, List.map_nil, List.cons_append, List.nil_append]
        rw [byte _ (by omega), byte _ (by omega), byte _ (by omega), front, read, same]
      · next large =>
        have read := read_four rest (Nat.lt_of_not_le large) (by omega)
        have front : character.toNat / 262144 % 0x08 = character.toNat / 262144 := by omega
        simp only [List.map_cons, List.map_nil, List.cons_append, List.nil_append]
        rw [byte _ (by omega), byte _ (by omega), byte _ (by omega), byte _ (by omega), front,
          read, same]

/-- A text is read back from its bytes. -/
@[simp] theorem decode_encode (characters : List Char) :
    decode (encode characters) = characters := by
  induction characters with
  | nil => rfl
  | cons character rest induction =>
      rw [decode, encode, List.flatMap_cons, read_encodeChar]
      exact congrArg _ induction

end Inverse

end Utf8

end Annex
