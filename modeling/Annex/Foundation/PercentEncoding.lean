import Annex.Foundation.Delimited
import Annex.Foundation.Utf8

namespace Annex

/-! Texts with escapes of bytes in them, and lists of names and values as one such text. -/

namespace PercentEncoding

/-- The uppercase digit of a value. -/
def digit (value : Fin 16) : Char := "0123456789ABCDEF".toList.getD value '0'

def encodeByte (byte : Byte) : List Char :=
  ['%', digit (Fin.ofNat 16 (byte.val / 16)), digit (Fin.ofNat 16 (byte.val % 16))]

/-- Plain characters stay as they are. -/
def encodeChar (plain : Char → Bool) (character : Char) : List Char :=
  if plain character then [character] else (Utf8.encodeChar character).flatMap encodeByte

def encode (plain : Char → Bool) (characters : List Char) : List Char :=
  characters.flatMap (encodeChar plain)

/-- The byte that three bytes are the escape of. -/
def escaped (byte high low : Byte) : Option Byte :=
  if byte = 0x25 then
    match Hex.digitValue (Char.ofNat high.val), Hex.digitValue (Char.ofNat low.val) with
    | some high, some low => some (Fin.ofNat 256 (16 * high.val + low.val))
    | _, _ => none
  else
    none

/-- What is no escape stays as it is. -/
def decode : List Byte → List Byte
  | [] => []
  | [byte] => [byte]
  | [byte, next] => [byte, next]
  | byte :: high :: low :: rest =>
      match escaped byte high low with
      | some value => value :: decode rest
      | none => byte :: decode (high :: low :: rest)

/-- The text that a text with escapes stands for. -/
def decodeText (characters : List Char) : List Char :=
  Utf8.decode (decode (Utf8.encode characters))

example : decodeText "caf%C3%A9 100%".toList = "café 100%".toList := by decide

section Characters

variable {plain : Char → Bool}

theorem digit_lt (value : Fin 16) : (digit value).toNat < 128 := by
  revert value
  decide

theorem digit_isAlphanum (value : Fin 16) : (digit value).isAlphanum = true := by
  revert value
  decide

theorem digitValue_digit (value : Fin 16) : Hex.digitValue (digit value) = some value := by
  revert value
  decide

theorem mem_encodeByte {byte : Byte} {character : Char} (member : character ∈ encodeByte byte) :
    character = '%' ∨ character.isAlphanum = true := by
  simp only [encodeByte, List.mem_cons, List.not_mem_nil, or_false] at member
  rcases member with percent | high | low
  · exact Or.inl percent
  · rw [high]
    exact Or.inr (digit_isAlphanum _)
  · rw [low]
    exact Or.inr (digit_isAlphanum _)

/-- An encoded text has plain characters and those of escapes. -/
theorem mem_encode {characters : List Char} {character : Char}
    (member : character ∈ encode plain characters) :
    plain character = true ∨ character = '%' ∨ character.isAlphanum = true := by
  rcases List.mem_flatMap.mp member with ⟨original, _, inside⟩
  rw [encodeChar] at inside
  split at inside
  · next isPlain =>
    rw [List.mem_singleton.mp inside]
    exact Or.inl isPlain
  · rcases List.mem_flatMap.mp inside with ⟨byte, _, inByte⟩
    exact Or.inr (mem_encodeByte inByte)

theorem encode_of_plain {characters : List Char}
    (isPlain : ∀ character ∈ characters, plain character = true) :
    encode plain characters = characters := by
  induction characters with
  | nil => rfl
  | cons character rest induction =>
      rw [List.forall_mem_cons] at isPlain
      have same : encode plain rest = rest := induction isPlain.2
      rw [encode] at same ⊢
      rw [List.flatMap_cons, encodeChar, if_pos isPlain.1, same]
      rfl

end Characters

section Decoding

theorem decode_cons_of_ne {byte : Byte} (other : byte ≠ 0x25) (rest : List Byte) :
    decode (byte :: rest) = byte :: decode rest := by
  match rest with
  | [] => rfl
  | [next] => rfl
  | high :: low :: rest => simp [decode, escaped, other]

theorem decode_encodeByte (byte : Byte) (rest : List Byte) :
    decode (Utf8.encode (encodeByte byte) ++ rest) = byte :: decode rest := by
  have bytes : Utf8.encode (encodeByte byte) =
      [0x25, Fin.ofNat 256 (digit (Fin.ofNat 16 (byte.val / 16))).toNat,
        Fin.ofNat 256 (digit (Fin.ofNat 16 (byte.val % 16))).toNat] := by
    rw [encodeByte, Utf8.encode_cons, Utf8.encode_cons, Utf8.encode_cons,
      Utf8.encodeChar_of_ascii (digit_lt _), Utf8.encodeChar_of_ascii (digit_lt _)]
    rfl
  have character (value : Fin 16) :
      Char.ofNat (Fin.ofNat 256 (digit value).toNat).val = digit value := by
    rw [Utf8.val_ofNat (Nat.lt_trans (digit_lt value) (by decide)), Char.ofNat_toNat]
  have value : Fin.ofNat 256 (16 * (Fin.ofNat 16 (byte.val / 16)).val +
      (Fin.ofNat 16 (byte.val % 16)).val) = byte := by
    apply Fin.ext
    have bound := byte.isLt
    simp only [Fin.ofNat]
    omega
  have isEscape : escaped 0x25 (Fin.ofNat 256 (digit (Fin.ofNat 16 (byte.val / 16))).toNat)
      (Fin.ofNat 256 (digit (Fin.ofNat 16 (byte.val % 16))).toNat) = some byte := by
    rw [escaped, if_pos rfl, character, character, digitValue_digit, digitValue_digit]
    dsimp only
    rw [value]
  rw [bytes]
  simp only [List.cons_append, List.nil_append, decode, isEscape]

theorem decode_escapes (bytes rest : List Byte) :
    decode (Utf8.encode (bytes.flatMap encodeByte) ++ rest) = bytes ++ decode rest := by
  induction bytes with
  | nil => rfl
  | cons byte bytes induction =>
      rw [List.flatMap_cons, Utf8.encode_append, List.append_assoc, decode_encodeByte, induction,
        List.cons_append]

/-- The plain characters are ASCII, and the sign of an escape is none of them. -/
structure Decodable (plain : Char → Bool) : Prop where
  ascii : ∀ character, plain character = true → character.toNat < 128
  percent : plain '%' = false

variable {plain : Char → Bool}

theorem decode_encodeChar (decodable : Decodable plain) (character : Char) (rest : List Byte) :
    decode (Utf8.encode (encodeChar plain character) ++ rest) =
      Utf8.encodeChar character ++ decode rest := by
  rw [encodeChar]
  split
  · next isPlain =>
    have ascii := decodable.ascii character isPlain
    have other : Fin.ofNat 256 character.toNat ≠ (0x25 : Byte) := by
      intro same
      have code : character.toNat = 0x25 := by
        rw [← Utf8.val_ofNat (Nat.lt_trans ascii (by decide)), same]
        rfl
      have percent : character = '%' := by
        rw [← Char.ofNat_toNat character, code]
      rw [percent, decodable.percent] at isPlain
      cases isPlain
    rw [Utf8.encode_cons, Utf8.encodeChar_of_ascii ascii]
    exact decode_cons_of_ne other rest
  · exact decode_escapes (Utf8.encodeChar character) rest

theorem decode_encode (decodable : Decodable plain) (characters : List Char) :
    decode (Utf8.encode (encode plain characters)) = Utf8.encode characters := by
  induction characters with
  | nil => rfl
  | cons character rest induction =>
      rw [encode, List.flatMap_cons, Utf8.encode_append, decode_encodeChar decodable]
      exact congrArg _ induction

/-- An encoded text stands for the text. -/
theorem decodeText_encode (decodable : Decodable plain) (characters : List Char) :
    decodeText (encode plain characters) = characters := by
  rw [decodeText, decode_encode decodable, Utf8.decode_encode]

end Decoding

section Unchanged

variable {plain : Char → Bool}

theorem length_escapes (bytes : List Byte) :
    (bytes.flatMap encodeByte).length = 3 * bytes.length := by
  induction bytes with
  | nil => rfl
  | cons byte bytes induction =>
      rw [List.flatMap_cons, List.length_append, induction, List.length_cons, encodeByte]
      simp only [List.length_cons, List.length_nil]
      omega

theorem length_encodeChar_of_not_plain {character : Char} (notPlain : ¬ plain character = true) :
    3 ≤ (encodeChar plain character).length := by
  have bytes := Utf8.length_encodeChar_pos character
  rw [encodeChar, if_neg notPlain, length_escapes]
  omega

theorem length_le_encode (characters : List Char) :
    characters.length ≤ (encode plain characters).length := by
  induction characters with
  | nil => exact Nat.zero_le _
  | cons character rest induction =>
      have one : 1 ≤ (encodeChar plain character).length := by
        by_cases isPlain : plain character = true
        · simp [encodeChar, isPlain]
        · exact Nat.le_trans (by decide) (length_encodeChar_of_not_plain isPlain)
      rw [encode] at induction ⊢
      rw [List.flatMap_cons, List.length_append, List.length_cons]
      omega

/-- Only a text of plain characters is its own encoding: escapes make it longer. -/
theorem encode_eq_self_iff {characters : List Char} :
    encode plain characters = characters ↔
      ∀ character ∈ characters, plain character = true := by
  constructor
  · intro same
    induction characters with
    | nil => simp
    | cons character rest induction =>
        have longer := @length_le_encode plain rest
        have lengths := congrArg List.length same
        rw [encode] at longer
        rw [encode, List.flatMap_cons] at same lengths
        rw [List.length_append, List.length_cons] at lengths
        have isPlain : plain character = true := by
          by_contra notPlain
          have long := length_encodeChar_of_not_plain notPlain
          omega
        rw [encodeChar, if_pos isPlain] at same
        rw [List.forall_mem_cons]
        exact ⟨isPlain, induction (List.cons.inj same).2⟩
  · exact encode_of_plain

end Unchanged

theorem toNat_lt_of_isAlphanum {character : Char} (alphanumeric : character.isAlphanum = true) :
    character.toNat < 128 := by
  have code : character.toNat = character.val.toNat := rfl
  change (decide ('A'.val ≤ character.val ∧ character.val ≤ 'Z'.val) ||
      (decide ('a'.val ≤ character.val) && decide (character.val ≤ 'z'.val)) ||
    (decide ('0'.val ≤ character.val) && decide (character.val ≤ '9'.val))) = true at alphanumeric
  simp only [Bool.or_eq_true, Bool.and_eq_true, decide_eq_true_eq,
    UInt32.le_iff_toNat_le] at alphanumeric
  simp at alphanumeric
  omega

end PercentEncoding

/-! Names and values as one text, `application/x-www-form-urlencoded`. -/

namespace FormEncoding

/-- Plus signs stand for the spaces that are left. -/
def plain (character : Char) : Bool := character.isAlphanum || "*-._ ".toList.contains character

def encodeText (text : List Char) : List Char :=
  (PercentEncoding.encode plain text).map fun character =>
    if character = ' ' then '+' else character

def decodeText (text : List Char) : List Char :=
  PercentEncoding.decodeText (text.map fun character =>
    if character = '+' then ' ' else character)

def encodePair (pair : List Char × List Char) : List Char :=
  encodeText pair.1 ++ '=' :: encodeText pair.2

/-- The value of a name without a sign of equality is empty. -/
def decodePair (field : List Char) : List Char × List Char :=
  (decodeText (field.takeWhile (· ≠ '=')), decodeText ((field.dropWhile (· ≠ '=')).drop 1))

/-- `urlencoded serializer`. -/
def serialize (pairs : List (List Char × List Char)) : List Char :=
  ['&'].intercalate (pairs.map encodePair)

/-- `urlencoded parser`. -/
def parse (text : List Char) : List (List Char × List Char) :=
  ((text.splitOn '&').filter (· ≠ [])).map decodePair

/-- The first value of a name. -/
def get (name : List Char) (pairs : List (List Char × List Char)) : Option (List Char) :=
  (pairs.find? (·.1 = name)).map (·.2)

/-- The first value of the name is replaced and the others are left out. -/
def set (name value : List Char) :
    List (List Char × List Char) → List (List Char × List Char)
  | [] => [(name, value)]
  | pair :: rest =>
      if pair.1 = name then (name, value) :: rest.filter (·.1 ≠ name)
      else pair :: set name value rest

example : (parse "slug=a%20b&&label=x=y+z&tail".toList).map
    (fun pair => (String.ofList pair.1, String.ofList pair.2)) =
    [("slug", "a b"), ("label", "x=y z"), ("tail", "")] := by
  decide

section Characters

theorem toNat_lt_of_plain {character : Char} (isPlain : plain character = true) :
    character.toNat < 128 := by
  have signs : "*-._ ".toList.all (·.toNat < 128) = true := by decide
  rw [plain, Bool.or_eq_true, List.contains_iff_mem] at isPlain
  rcases isPlain with alphanumeric | sign
  · exact PercentEncoding.toNat_lt_of_isAlphanum alphanumeric
  · exact of_decide_eq_true (List.all_eq_true.mp signs character sign)

theorem decodable_plain : PercentEncoding.Decodable plain where
  ascii _ := toNat_lt_of_plain
  percent := by decide

/-- The characters of an encoded text. -/
theorem mem_encodeText {text : List Char} {character : Char}
    (member : character ∈ encodeText text) :
    character.isAlphanum = true ∨ character ∈ "*-._+%".toList := by
  rcases List.mem_map.mp member with ⟨original, inside, rfl⟩
  have signs : "*-._ ".toList.all (fun other =>
      (if other = ' ' then '+' else other) ∈ "*-._+%".toList) = true := by decide
  have unchanged (alphanumeric : original.isAlphanum = true) :
      (if original = ' ' then '+' else original).isAlphanum = true := by
    have other : original ≠ ' ' := by
      rintro rfl
      cases alphanumeric
    rwa [if_neg other]
  rcases PercentEncoding.mem_encode inside with isPlain | rfl | alphanumeric
  · rw [plain, Bool.or_eq_true, List.contains_iff_mem] at isPlain
    exact isPlain.imp unchanged fun sign =>
      of_decide_eq_true (List.all_eq_true.mp signs original sign)
  · exact Or.inr (by decide)
  · exact Or.inl (unchanged alphanumeric)

/-- The characters of a text of pairs. -/
theorem mem_serialize {pairs : List (List Char × List Char)} {character : Char}
    (member : character ∈ serialize pairs) :
    character.isAlphanum = true ∨ character ∈ "*-._+%=&".toList := by
  have wider : character ∈ "*-._+%".toList → character ∈ "*-._+%=&".toList := by
    intro sign
    exact List.mem_append_left "=&".toList sign
  rcases Delimited.mem_intercalate member with rfl | ⟨field, isField, inside⟩
  · exact Or.inr (by decide)
  · rcases List.mem_map.mp isField with ⟨pair, _, rfl⟩
    rw [encodePair, List.mem_append, List.mem_cons] at inside
    rcases inside with inName | rfl | inValue
    · exact (mem_encodeText inName).imp_right wider
    · exact Or.inr (by decide)
    · exact (mem_encodeText inValue).imp_right wider

theorem not_mem_encodeText {text : List Char} {character : Char}
    (alphanumeric : character.isAlphanum = false)
    (sign : character ∉ "*-._+%".toList) : character ∉ encodeText text := by
  intro member
  rcases mem_encodeText member with isAlphanumeric | isSign
  · rw [alphanumeric] at isAlphanumeric
    cases isAlphanumeric
  · exact sign isSign

end Characters

section Inverse

@[simp] theorem decodeText_encodeText (text : List Char) : decodeText (encodeText text) = text := by
  have same : ∀ character ∈ PercentEncoding.encode plain text,
      ((fun character => if character = '+' then ' ' else character) ∘
        fun character => if character = ' ' then '+' else character) character =
        id character := by
    intro character member
    have other : character ≠ '+' := by
      rintro rfl
      rcases PercentEncoding.mem_encode member with isPlain | percent | alphanumeric
      · cases isPlain
      · cases percent
      · cases alphanumeric
    by_cases space : character = ' '
    · simp [space]
    · simp [space, other]
  rw [decodeText, encodeText, List.map_map, List.map_congr_left same, List.map_id,
    PercentEncoding.decodeText_encode decodable_plain]

@[simp] theorem decodePair_encodePair (pair : List Char × List Char) :
    decodePair (encodePair pair) = pair := by
  have other : ∀ character ∈ encodeText pair.1, decide (character ≠ '=') = true := by
    intro character member
    apply decide_eq_true
    rintro rfl
    exact not_mem_encodeText (by decide) (by decide) member
  rw [decodePair, encodePair, List.takeWhile_append_of_pos other,
    List.dropWhile_append_of_pos other]
  simp

theorem not_mem_encodePair (pair : List Char × List Char) : '&' ∉ encodePair pair := by
  rw [encodePair]
  simp only [List.mem_append, List.mem_cons, not_or]
  exact ⟨not_mem_encodeText (by decide) (by decide), by decide,
    not_mem_encodeText (by decide) (by decide)⟩

/-- Names and values are read back from the text. -/
@[simp] theorem parse_serialize (pairs : List (List Char × List Char)) :
    parse (serialize pairs) = pairs := by
  have free : ∀ field ∈ pairs.map encodePair, '&' ∉ field := by
    intro field member
    rcases List.mem_map.mp member with ⟨pair, _, rfl⟩
    exact not_mem_encodePair pair
  have nonempty : ∀ field ∈ pairs.map encodePair, decide (field ≠ []) = true := by
    intro field member
    rcases List.mem_map.mp member with ⟨pair, _, rfl⟩
    simp [encodePair]
  match pairs with
  | [] => rfl
  | pair :: rest =>
      have decoded : decodePair ∘ encodePair = id := by
        funext pair
        exact decodePair_encodePair pair
      rw [parse, serialize, List.splitOn_intercalate '&' free (by simp),
        List.filter_eq_self.mpr nonempty, List.map_map, decoded, List.map_id]

end Inverse

section Values

variable {name other value : List Char} {pairs : List (List Char × List Char)}

theorem get_cons {pair : List Char × List Char} :
    get name (pair :: pairs) = if pair.1 = name then some pair.2 else get name pairs := by
  by_cases same : pair.1 = name <;> simp [get, same]

theorem get_filter_of_ne (different : other ≠ name) :
    get other (pairs.filter (·.1 ≠ name)) = get other pairs := by
  induction pairs with
  | nil => rfl
  | cons pair rest induction =>
      by_cases same : pair.1 = name
      · rw [List.filter_cons_of_neg (by simp [same]), get_cons, same, if_neg different.symm,
          induction]
      · rw [List.filter_cons_of_pos (by simp [same]), get_cons, get_cons, induction]

@[simp] theorem get_set_self : get name (set name value pairs) = some value := by
  induction pairs with
  | nil => simp [set, get_cons]
  | cons pair rest induction =>
      rw [set]
      split
      · simp [get_cons]
      · next different => rw [get_cons, if_neg different, induction]

theorem get_set_of_ne (different : other ≠ name) :
    get other (set name value pairs) = get other pairs := by
  induction pairs with
  | nil => simp [set, get_cons, different.symm]
  | cons pair rest induction =>
      rw [set]
      split
      · next same =>
        rw [get_cons, get_cons, get_filter_of_ne different, same]
        simp [different.symm]
      · rw [get_cons, get_cons, induction]

end Values

end FormEncoding

end Annex
