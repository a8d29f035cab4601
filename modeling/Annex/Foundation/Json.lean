import Mathlib.Data.List.TakeWhile
import Annex.Foundation.Hex

namespace Annex

/-! JSON values and their texts: how they are written, with or without white space for
readers, and how any text is read. -/

namespace JsonNumber

def isExponent : List Char → Bool
  | [] => true
  | mark :: sign :: digits =>
      (mark = 'e' || mark = 'E') &&
        if sign = '+' || sign = '-' then digits ≠ [] && digits.all Char.isDigit
        else (sign :: digits).all Char.isDigit
  | [_] => false

/-- What stands after the digits of the whole part. -/
def isFraction : List Char → Bool
  | '.' :: rest =>
      rest.takeWhile Char.isDigit ≠ [] && isExponent (rest.dropWhile Char.isDigit)
  | rest => isExponent rest

def isUnsigned : List Char → Bool
  | [] => false
  | first :: rest =>
      if first = '0' then isFraction rest
      else first.isDigit && isFraction (rest.dropWhile Char.isDigit)

def isNumber : List Char → Bool
  | '-' :: rest => isUnsigned rest
  | text => isUnsigned text

/-- The characters of numbers and of the three names. -/
def isAtomic (character : Char) : Bool :=
  character.isAlphanum || character = '+' || character = '-' || character = '.'

end JsonNumber

/-- A number, by its text: what it is rounded to is left to the reader. -/
structure JsonNumber where
  text : List Char
  wellFormed : JsonNumber.isNumber text = true
  atomic : text.all JsonNumber.isAtomic = true

inductive JsonValue where
  | null
  | bool (value : Bool)
  | number (value : JsonNumber)
  | string (text : String)
  | array (items : List JsonValue)
  | object (members : List (String × JsonValue))

namespace JsonValue

def isSpace (character : Char) : Bool :=
  character = ' ' || character = '\n' || character = '\r' || character = '\t'

section Writing

/-- How a character stands in a string. -/
def escape (character : Char) : List Char :=
  if character = '"' then ['\\', '"']
  else if character = '\\' then ['\\', '\\']
  else if character.toNat < 0x20 then
    match character.toNat with
    | 0x08 => ['\\', 'b']
    | 0x09 => ['\\', 't']
    | 0x0A => ['\\', 'n']
    | 0x0C => ['\\', 'f']
    | 0x0D => ['\\', 'r']
    | code => '\\' :: 'u' :: '0' :: '0' :: Hex.encodeByte (Fin.ofNat 256 code)
  else [character]

def quote (text : String) : List Char := '"' :: (text.toList.flatMap escape ++ ['"'])

/-- Where white space is written: in front of what stands at a depth, and after colons. -/
structure Layout where
  line : Nat → List Char
  gap : List Char
  lineSpace : ∀ depth, ∀ character ∈ line depth, isSpace character = true
  gapSpace : ∀ character ∈ gap, isSpace character = true

/-- `JSON.stringify(value)`, `serde_json::to_string`. -/
def Layout.compact : Layout where
  line := fun _ => []
  gap := []
  lineSpace := by simp
  gapSpace := by simp

/-- `JSON.stringify(value, null, 2)`, `serde_json::to_string_pretty`. -/
def Layout.pretty : Layout where
  line := fun depth => '\n' :: List.replicate (2 * depth) ' '
  gap := [' ']
  lineSpace := by
    intro depth character member
    rcases List.mem_cons.mp member with rfl | member
    · rfl
    · rw [List.eq_of_mem_replicate member]
      rfl
  gapSpace := by simp [isSpace]

variable (layout : Layout)

mutual

def render (depth : Nat) : JsonValue → List Char
  | .null => "null".toList
  | .bool true => "true".toList
  | .bool false => "false".toList
  | .number value => value.text
  | .string text => quote text
  | .array [] => ['[', ']']
  | .array (first :: rest) =>
      '[' :: (layout.line (depth + 1) ++ renderItems (depth + 1) (first :: rest) ++
        layout.line depth ++ [']'])
  | .object [] => ['{', '}']
  | .object (first :: rest) =>
      '{' :: (layout.line (depth + 1) ++ renderMembers (depth + 1) (first :: rest) ++
        layout.line depth ++ ['}'])

def renderItems (depth : Nat) : List JsonValue → List Char
  | [] => []
  | [item] => render depth item
  | item :: next :: rest =>
      render depth item ++ ',' :: (layout.line depth ++ renderItems depth (next :: rest))

def renderMembers (depth : Nat) : List (String × JsonValue) → List Char
  | [] => []
  | [(name, value)] => quote name ++ ':' :: (layout.gap ++ render depth value)
  | (name, value) :: next :: rest =>
      quote name ++ ':' :: (layout.gap ++ render depth value ++
        ',' :: (layout.line depth ++ renderMembers depth (next :: rest)))

end

/-- `JSON.stringify` and its like. -/
def stringify (value : JsonValue) : String := String.ofList (render layout 0 value)

end Writing

section Reading

/-- Where in a string a reader is. Characters beyond the first 65536 are escaped as two
surrogates. -/
inductive Place where
  | plain
  | escape
  | unicode (digits code : Nat)
  | high (surrogate : Nat)
  | highEscape (surrogate : Nat)
  | low (surrogate digits code : Nat)
deriving DecidableEq, Repr

/-- The character that one letter after a backslash stands for. -/
def unescape (letter : Char) : Option Char :=
  if letter = '"' || letter = '\\' || letter = '/' then some letter
  else if letter = 'b' then some (Char.ofNat 0x08)
  else if letter = 't' then some '\t'
  else if letter = 'n' then some '\n'
  else if letter = 'f' then some (Char.ofNat 0x0C)
  else if letter = 'r' then some '\r'
  else none

/-- The characters that are complete after the next one, and where the reader is then. -/
def Place.take : Place → Char → Option (List Char × Place)
  | .plain, character =>
      if character = '\\' then some ([], .escape)
      else if character.toNat < 0x20 then none
      else some ([character], .plain)
  | .escape, letter =>
      if letter = 'u' then some ([], .unicode 4 0)
      else (unescape letter).map fun character => ([character], .plain)
  | .unicode digits code, digit =>
      (Hex.digitValue digit).bind fun value =>
        let code := 16 * code + value.val
        if 1 < digits then some ([], .unicode (digits - 1) code)
        else if 0xD800 ≤ code ∧ code < 0xDC00 then some ([], .high code)
        else if 0xDC00 ≤ code ∧ code < 0xE000 then none
        else some ([Char.ofNat code], .plain)
  | .high surrogate, character =>
      if character = '\\' then some ([], .highEscape surrogate) else none
  | .highEscape surrogate, letter =>
      if letter = 'u' then some ([], .low surrogate 4 0) else none
  | .low surrogate digits code, digit =>
      (Hex.digitValue digit).bind fun value =>
        let code := 16 * code + value.val
        if 1 < digits then some ([], .low surrogate (digits - 1) code)
        else if 0xDC00 ≤ code ∧ code < 0xE000 then
          some ([Char.ofNat (0x10000 + 0x400 * (surrogate - 0xD800) + (code - 0xDC00))], .plain)
        else none

/-- The rest of a string, and what follows its closing quote. -/
def readString : Place → List Char → Option (List Char × List Char)
  | _, [] => none
  | place, character :: rest =>
      if place = .plain ∧ character = '"' then some ([], rest)
      else
        (place.take character).bind fun taken =>
          (readString taken.2 rest).map fun read => (taken.1 ++ read.1, read.2)

def skipSpace (text : List Char) : List Char := text.dropWhile isSpace

/-- What follows a character that has to come next, but for white space. -/
def accept (expected : Char) (text : List Char) : Option (List Char) :=
  match skipSpace text with
  | [] => none
  | first :: rest => if first = expected then some rest else none

/-- A number or one of the three names. -/
def readAtom (text : List Char) : Option JsonValue :=
  if text = "null".toList then some .null
  else if text = "true".toList then some (.bool true)
  else if text = "false".toList then some (.bool false)
  else if number : JsonNumber.isNumber text = true ∧ text.all JsonNumber.isAtomic = true then
    some (.number ⟨text, number.1, number.2⟩)
  else none

/-- The name of a member, and what follows its colon. -/
def readName (text : List Char) : Option (String × List Char) :=
  (accept '"' text).bind fun rest => (readString .plain rest).bind fun read =>
    (accept ':' read.2).map fun rest => (String.ofList read.1, rest)

mutual

/-- A value, and what follows it. The fuel bounds the depth. -/
def readValue : Nat → List Char → Option (JsonValue × List Char)
  | 0, _ => none
  | fuel + 1, text =>
      match skipSpace text with
      | [] => none
      | first :: rest =>
          if first = '"' then
            (readString .plain rest).map fun read => (.string (String.ofList read.1), read.2)
          else if first = '[' then
            match accept ']' rest with
            | some rest => some (.array [], rest)
            | none => (readItems fuel rest).map fun read => (.array read.1, read.2)
          else if first = '{' then
            match accept '}' rest with
            | some rest => some (.object [], rest)
            | none => (readMembers fuel rest).map fun read => (.object read.1, read.2)
          else
            (readAtom ((first :: rest).takeWhile JsonNumber.isAtomic)).map fun value =>
              (value, (first :: rest).dropWhile JsonNumber.isAtomic)

/-- The items up to the bracket that closes them, of which there is one at least. -/
def readItems : Nat → List Char → Option (List JsonValue × List Char)
  | 0, _ => none
  | fuel + 1, text =>
      (readValue fuel text).bind fun first =>
        match accept ',' first.2 with
        | some rest => (readItems fuel rest).map fun read => (first.1 :: read.1, read.2)
        | none => (accept ']' first.2).map fun rest => ([first.1], rest)

/-- The members up to the brace that closes them, of which there is one at least. -/
def readMembers : Nat → List Char → Option (List (String × JsonValue) × List Char)
  | 0, _ => none
  | fuel + 1, text =>
      (readName text).bind fun name => (readValue fuel name.2).bind fun first =>
        match accept ',' first.2 with
        | some rest =>
            (readMembers fuel rest).map fun read => ((name.1, first.1) :: read.1, read.2)
        | none => (accept '}' first.2).map fun rest => ([(name.1, first.1)], rest)

end

/-- `JSON.parse` and its like, of a text without unpaired surrogates. -/
def parse (text : String) : Option JsonValue :=
  match readValue (text.toList.length + 1) text.toList with
  | some (value, rest) => if skipSpace rest = [] then some value else none
  | none => none

end Reading

section Strings

theorem readString_of_take {place next : Place} {character : Char} {chars : List Char}
    (taken : place.take character = some (chars, next))
    (inside : ¬ (place = .plain ∧ character = '"')) (rest : List Char) :
    readString place (character :: rest) =
      (readString next rest).map fun read => (chars ++ read.1, read.2) := by
  rw [readString, if_neg inside, taken]
  rfl

theorem readString_of_silent {place next : Place} {character : Char}
    (taken : place.take character = some ([], next))
    (inside : ¬ (place = .plain ∧ character = '"')) (rest : List Char) :
    readString place (character :: rest) = readString next rest := by
  rw [readString_of_take taken inside]
  simp

/-- A digit that is not the last of its escape. -/
theorem readString_digit {digits code : Nat} (more : 1 < digits) (value : Fin 16)
    (rest : List Char) :
    readString (.unicode digits code) (Hex.digit value :: rest) =
      readString (.unicode (digits - 1) (16 * code + value.val)) rest := by
  have taken : Place.take (.unicode digits code) (Hex.digit value) =
      some ([], .unicode (digits - 1) (16 * code + value.val)) := by
    rw [Place.take, Hex.digitValue_digit, Option.bind_some]
    simp only [if_pos more]
  exact readString_of_silent taken (by simp) rest

/-- The last digit of the escape of a control character. -/
theorem readString_lastDigit {code : Nat} {value : Fin 16}
    (small : 16 * code + value.val < 0xD800) (rest : List Char) :
    readString (.unicode 1 code) (Hex.digit value :: rest) =
      (readString .plain rest).map fun read =>
        (Char.ofNat (16 * code + value.val) :: read.1, read.2) := by
  have taken : Place.take (.unicode 1 code) (Hex.digit value) =
      some ([Char.ofNat (16 * code + value.val)], .plain) := by
    rw [Place.take, Hex.digitValue_digit, Option.bind_some]
    simp only [Nat.lt_irrefl, if_false]
    rw [if_neg (by omega), if_neg (by omega)]
  rw [readString_of_take taken (by simp)]
  rfl

/-- A letter after a backslash. -/
theorem readString_letter {letter character : Char} (known : unescape letter = some character)
    (rest : List Char) :
    readString .plain ('\\' :: letter :: rest) =
      (readString .plain rest).map fun read => (character :: read.1, read.2) := by
  have other : letter ≠ 'u' := by
    rintro rfl
    have unknown : unescape 'u' = none := by decide
    rw [unknown] at known
    cases known
  have begun : Place.take .plain '\\' = some ([], .escape) := by decide
  have taken : Place.take .escape letter = some ([character], .plain) := by
    rw [Place.take, if_neg other, known]
    rfl
  rw [readString_of_silent begun (by decide), readString_of_take taken (by simp)]
  rfl

theorem readString_control {code : Nat} (small : code < 0x20) (rest : List Char) :
    readString .plain ('\\' :: 'u' :: '0' :: '0' ::
        (Hex.encodeByte (Fin.ofNat 256 code) ++ rest)) =
      (readString .plain rest).map fun read => (Char.ofNat code :: read.1, read.2) := by
  have zero (digits code : Nat) (more : 1 < digits) (rest : List Char) :
      readString (.unicode digits code) ('0' :: rest) =
        readString (.unicode (digits - 1) (16 * code)) rest :=
    readString_digit more 0 rest
  have byte : (Fin.ofNat 256 code).val = code := Nat.mod_eq_of_lt (by omega)
  have high : (Fin.ofNat 16 (code / 16)).val = code / 16 := Nat.mod_eq_of_lt (by omega)
  have low : (Fin.ofNat 16 (code % 16)).val = code % 16 := Nat.mod_eq_of_lt (by omega)
  have whole : 16 * (code / 16) + code % 16 = code := Nat.div_add_mod code 16
  have begun : Place.take .plain '\\' = some ([], .escape) := by decide
  have coded : Place.take .escape 'u' = some ([], .unicode 4 0) := by decide
  rw [readString_of_silent begun (by decide), readString_of_silent coded (by decide),
    zero 4 0 (by decide), zero 3 _ (by decide), Hex.encodeByte, byte, List.cons_append,
    List.cons_append, List.nil_append, readString_digit (by decide), high]
  simp only [Nat.mul_zero, Nat.zero_add, Nat.reduceSub]
  rw [readString_lastDigit (by rw [low, whole]; omega), low, whole]

theorem readString_escape (character : Char) (rest : List Char) :
    readString .plain (escape character ++ rest) =
      (readString .plain rest).map fun read => (character :: read.1, read.2) := by
  have same : Char.ofNat character.toNat = character := Char.ofNat_toNat character
  unfold escape
  split
  · next quoted =>
    rw [quoted]
    exact readString_letter (by decide) rest
  · next notQuote =>
    split
    · next backslash =>
      rw [backslash]
      exact readString_letter (by decide) rest
    · next notBackslash =>
      split
      · next control =>
        split
        · next code =>
          rw [← same, code]
          exact readString_letter (by decide) rest
        · next code =>
          rw [← same, code]
          exact readString_letter (by decide) rest
        · next code =>
          rw [← same, code]
          exact readString_letter (by decide) rest
        · next code =>
          rw [← same, code]
          exact readString_letter (by decide) rest
        · next code =>
          rw [← same, code]
          exact readString_letter (by decide) rest
        · rw [← same]
          simpa using readString_control control rest
      · next printable =>
        have taken : Place.take .plain character = some ([character], .plain) := by
          rw [Place.take, if_neg notBackslash, if_neg printable]
        rw [List.singleton_append, readString_of_take taken (by simp [notQuote])]
        rfl

theorem readString_quoted (text : List Char) (rest : List Char) :
    readString .plain (text.flatMap escape ++ '"' :: rest) = some (text, rest) := by
  induction text with
  | nil => rfl
  | cons character text induction =>
      rw [List.flatMap_cons, List.append_assoc, readString_escape, induction]
      rfl

end Strings

section Texts

variable {blank rest : List Char}

theorem skipSpace_append (space : ∀ character ∈ blank, isSpace character = true)
    (text : List Char) : skipSpace (blank ++ text) = skipSpace text :=
  List.dropWhile_append_of_pos space

theorem skipSpace_cons {first : Char} (visible : isSpace first = false) (rest : List Char) :
    skipSpace (first :: rest) = first :: rest := by
  rw [skipSpace, List.dropWhile_cons, if_neg (by simp [visible])]

theorem accept_append (space : ∀ character ∈ blank, isSpace character = true)
    (expected : Char) (text : List Char) :
    accept expected (blank ++ text) = accept expected text := by
  rw [accept, accept, skipSpace_append space]

theorem accept_cons {first : Char} (visible : isSpace first = false) (expected : Char)
    (rest : List Char) :
    accept expected (first :: rest) = if first = expected then some rest else none := by
  rw [accept, skipSpace_cons visible]

theorem readValue_append (space : ∀ character ∈ blank, isSpace character = true)
    (fuel : Nat) (text : List Char) : readValue fuel (blank ++ text) = readValue fuel text := by
  cases fuel with
  | zero => rw [readValue, readValue]
  | succ fuel => rw [readValue, readValue, skipSpace_append space]

theorem readItems_append (space : ∀ character ∈ blank, isSpace character = true)
    (fuel : Nat) (text : List Char) : readItems fuel (blank ++ text) = readItems fuel text := by
  cases fuel with
  | zero => rw [readItems, readItems]
  | succ fuel => rw [readItems, readItems, readValue_append space]

theorem readMembers_append (space : ∀ character ∈ blank, isSpace character = true)
    (fuel : Nat) (text : List Char) :
    readMembers fuel (blank ++ text) = readMembers fuel text := by
  cases fuel with
  | zero => rw [readMembers, readMembers]
  | succ fuel => rw [readMembers, readMembers, readName, readName, accept_append space]

/-- A number or a name ends in front of the text. -/
def Ends (text : List Char) : Prop :=
  ∀ first ∈ text.head?, JsonNumber.isAtomic first = false

theorem ends_append (space : ∀ character ∈ blank, isSpace character = true)
    (ends : Ends rest) : Ends (blank ++ rest) := by
  cases blank with
  | nil => exact ends
  | cons first blank =>
      have isBlank := space first List.mem_cons_self
      intro character member
      cases Option.some.inj (Option.mem_def.mp member)
      simp only [isSpace, Bool.or_eq_true, decide_eq_true_eq] at isBlank
      rcases isBlank with ((rfl | rfl) | rfl) | rfl <;> rfl

theorem takeWhile_atomic {text : List Char}
    (atomic : text.all JsonNumber.isAtomic = true) (ends : Ends rest) :
    (text ++ rest).takeWhile JsonNumber.isAtomic = text ∧
      (text ++ rest).dropWhile JsonNumber.isAtomic = rest := by
  have stops : rest.takeWhile JsonNumber.isAtomic = [] ∧
      rest.dropWhile JsonNumber.isAtomic = rest := by
    cases rest with
    | nil => exact ⟨rfl, rfl⟩
    | cons first rest =>
        have other := ends first (by simp)
        rw [List.takeWhile_cons, List.dropWhile_cons, if_neg (by simp [other]),
          if_neg (by simp [other])]
        exact ⟨rfl, rfl⟩
  have every := List.all_eq_true.mp atomic
  rw [List.takeWhile_append_of_pos every, List.dropWhile_append_of_pos every, stops.1,
    stops.2, List.append_nil]
  exact ⟨rfl, rfl⟩

/-- What begins a number or a name begins nothing else. -/
theorem visible_of_isAtomic {first : Char} (atomic : JsonNumber.isAtomic first = true) :
    isSpace first = false ∧ first ≠ '"' ∧ first ≠ '[' ∧ first ≠ ']' ∧ first ≠ '{' := by
  refine ⟨?_, ?_, ?_, ?_, ?_⟩
  · cases blank : isSpace first with
    | false => rfl
    | true =>
        simp only [isSpace, Bool.or_eq_true, decide_eq_true_eq] at blank
        rcases blank with ((rfl | rfl) | rfl) | rfl <;> cases atomic
  · rintro rfl
    cases atomic
  · rintro rfl
    cases atomic
  · rintro rfl
    cases atomic
  · rintro rfl
    cases atomic

theorem readValue_atom {text : List Char} {value : JsonValue} (read : readAtom text = some value)
    (nonempty : text ≠ [])
    (atomic : text.all JsonNumber.isAtomic = true) (fuel : Nat)
    (ends : Ends rest) : readValue (fuel + 1) (text ++ rest) = some (value, rest) := by
  cases text with
  | nil => exact absurd rfl nonempty
  | cons first tail =>
      have visible := visible_of_isAtomic (List.all_eq_true.mp atomic first List.mem_cons_self)
      have parts := takeWhile_atomic atomic ends
      rw [List.cons_append] at parts ⊢
      rw [readValue, skipSpace_cons visible.1]
      simp only [if_neg visible.2.1, if_neg visible.2.2.1, if_neg visible.2.2.2.2]
      rw [parts.1, parts.2, read]
      rfl

theorem readAtom_number (number : JsonNumber) :
    readAtom number.text = some (.number number) := by
  have other {name : List Char} (isName : JsonNumber.isNumber name = false) :
      number.text ≠ name := by
    intro same
    have wellFormed := number.wellFormed
    rw [same, isName] at wellFormed
    cases wellFormed
  rw [readAtom, if_neg (other (by decide)), if_neg (other (by decide)),
    if_neg (other (by decide)), dif_pos ⟨number.wellFormed, number.atomic⟩]

end Texts

section Inverse

variable (layout : Layout)

theorem render_head (depth : Nat) (value : JsonValue) :
    ∃ first rest, render layout depth value = first :: rest ∧ isSpace first = false ∧
      first ≠ ']' := by
  cases value with
  | null => exact ⟨_, _, rfl, by decide, by decide⟩
  | bool value => cases value <;> exact ⟨_, _, rfl, by decide, by decide⟩
  | number number =>
      cases text : number.text with
      | nil =>
          have wellFormed := number.wellFormed
          rw [text] at wellFormed
          cases wellFormed
      | cons first rest =>
          have visible := visible_of_isAtomic
            (List.all_eq_true.mp number.atomic first (text ▸ List.mem_cons_self))
          exact ⟨first, rest, by rw [render, text], visible.1, visible.2.2.2.1⟩
  | string text => exact ⟨_, _, rfl, by decide, by decide⟩
  | array items => cases items <;> exact ⟨_, _, rfl, by decide, by decide⟩
  | object members => cases members <;> exact ⟨_, _, rfl, by decide, by decide⟩

theorem renderItems_head (depth : Nat) (item : JsonValue) (items : List JsonValue) :
    ∃ first rest, renderItems layout depth (item :: items) = first :: rest ∧
      isSpace first = false ∧ first ≠ ']' := by
  rcases render_head layout depth item with ⟨first, rest, rendered, visible, other⟩
  cases items with
  | nil => exact ⟨first, rest, rendered, visible, other⟩
  | cons next items =>
      rw [renderItems, rendered, List.cons_append]
      exact ⟨first, _, rfl, visible, other⟩

theorem renderMembers_head (depth : Nat) (member : String × JsonValue)
    (members : List (String × JsonValue)) :
    ∃ rest, renderMembers layout depth (member :: members) = '"' :: rest := by
  cases members with
  | nil => exact ⟨_, rfl⟩
  | cons next members => exact ⟨_, rfl⟩

theorem ends_comma (text : List Char) : Ends (',' :: text) := by
  rintro _ ⟨⟩
  rfl

theorem ends_bracket (text : List Char) : Ends (']' :: text) := by
  rintro _ ⟨⟩
  rfl

theorem ends_brace (text : List Char) : Ends ('}' :: text) := by
  rintro _ ⟨⟩
  rfl

theorem readName_quote (name : String) (rest : List Char) :
    readName (quote name ++ ':' :: rest) = some (name, rest) := by
  rw [readName, quote, List.cons_append, accept_cons (by decide), if_pos rfl, Option.bind_some,
    List.append_assoc, List.singleton_append, readString_quoted, Option.bind_some,
    accept_cons (by decide), if_pos rfl, String.ofList_toList]
  rfl

mutual

/-- A value is read back, whatever white space it was written with. -/
theorem readValue_render (value : JsonValue) (depth fuel : Nat) (rest : List Char)
    (enough : (render layout depth value).length < fuel) (ends : Ends rest) :
    readValue fuel (render layout depth value ++ rest) = some (value, rest) := by
  cases fuel with
  | zero => exact absurd enough (Nat.not_lt_zero _)
  | succ fuel =>
      match value with
      | .null =>
          rw [render]
          exact readValue_atom rfl (by decide) (by decide) fuel ends
      | .bool true =>
          rw [render]
          exact readValue_atom rfl (by decide) (by decide) fuel ends
      | .bool false =>
          rw [render]
          exact readValue_atom rfl (by decide) (by decide) fuel ends
      | .number numeral =>
          refine readValue_atom (readAtom_number numeral) ?_ numeral.atomic fuel ends
          intro empty
          have wellFormed := numeral.wellFormed
          rw [empty] at wellFormed
          cases wellFormed
      | .string text =>
          rw [render, quote, List.cons_append, readValue, skipSpace_cons (by decide)]
          simp only [if_true, List.append_assoc, List.singleton_append]
          rw [readString_quoted, Option.map_some, String.ofList_toList]
      | .array [] =>
          rw [render, List.cons_append, readValue, skipSpace_cons (by decide)]
          simp only [List.cons_append, List.nil_append]
          rw [accept_cons (by decide)]
          rfl
      | .array (item :: items) =>
          rcases renderItems_head layout (depth + 1) item items with
            ⟨first, tail, rendered, visible, other⟩
          have read := readItems_render (item :: items) (depth + 1) fuel (layout.line depth) rest
            (by simp) (layout.lineSpace depth) (by
              simp only [render, List.length_cons, List.length_append] at enough
              omega)
          rw [render, List.cons_append, readValue, skipSpace_cons (by decide)]
          simp only [List.append_assoc, List.singleton_append]
          have opens : accept ']' (layout.line (depth + 1) ++
              (renderItems layout (depth + 1) (item :: items) ++
                (layout.line depth ++ ']' :: rest))) = none := by
            rw [accept_append (layout.lineSpace _), rendered, List.cons_append,
              accept_cons visible, if_neg other]
          rw [opens]
          simp only [readItems_append (layout.lineSpace _), read]
          rfl
      | .object [] =>
          rw [render, List.cons_append, readValue, skipSpace_cons (by decide)]
          simp only [List.cons_append, List.nil_append]
          rw [accept_cons (by decide)]
          rfl
      | .object (member :: members) =>
          have read := readMembers_render (member :: members) (depth + 1) fuel
            (layout.line depth) rest (by simp) (layout.lineSpace depth) (by
              simp only [render, List.length_cons, List.length_append] at enough
              omega)
          rw [render, List.cons_append, readValue, skipSpace_cons (by decide)]
          simp only [List.append_assoc, List.singleton_append]
          have opens : accept '}' (layout.line (depth + 1) ++
              (renderMembers layout (depth + 1) (member :: members) ++
                (layout.line depth ++ '}' :: rest))) = none := by
            rcases renderMembers_head layout (depth + 1) member members with
              ⟨tail, rendered⟩
            rw [accept_append (layout.lineSpace _), rendered, List.cons_append,
              accept_cons (by decide), if_neg (by decide)]
          rw [opens]
          simp only [readMembers_append (layout.lineSpace _), read]
          rfl

theorem readItems_render (items : List JsonValue) (depth fuel : Nat) (blank rest : List Char)
    (nonempty : items ≠ [])
    (space : ∀ character ∈ blank, isSpace character = true)
    (enough : (renderItems layout depth items).length + 1 < fuel) :
    readItems fuel (renderItems layout depth items ++ (blank ++ ']' :: rest)) =
      some (items, rest) := by
  cases fuel with
  | zero => exact absurd enough (Nat.not_lt_zero _)
  | succ fuel =>
      match items with
      | [] => exact absurd rfl nonempty
      | [item] =>
          rw [renderItems] at enough ⊢
          rw [readItems, readValue_render item depth fuel _ (by omega)
            (ends_append space (ends_bracket rest)), Option.bind_some]
          simp only [accept_append space, @accept_cons ']' (by decide)]
          rfl
      | item :: next :: items =>
          rw [renderItems] at enough ⊢
          simp only [List.length_cons, List.length_append] at enough
          simp only [List.append_assoc, List.cons_append]
          rw [readItems, readValue_render item depth fuel _ (by omega) (ends_comma _),
            Option.bind_some]
          simp only [@accept_cons ',' (by decide), if_true]
          rw [readItems_append (layout.lineSpace _),
            readItems_render (next :: items) depth fuel blank rest (by simp) space (by omega)]
          rfl

theorem readMembers_render (members : List (String × JsonValue)) (depth fuel : Nat)
    (blank rest : List Char) (nonempty : members ≠ [])
    (space : ∀ character ∈ blank, isSpace character = true)
    (enough : (renderMembers layout depth members).length + 1 < fuel) :
    readMembers fuel (renderMembers layout depth members ++ (blank ++ '}' :: rest)) =
      some (members, rest) := by
  cases fuel with
  | zero => exact absurd enough (Nat.not_lt_zero _)
  | succ fuel =>
      match members with
      | [] => exact absurd rfl nonempty
      | [(name, value)] =>
          rw [renderMembers] at enough ⊢
          simp only [List.length_cons, List.length_append] at enough
          simp only [List.append_assoc, List.cons_append]
          rw [readMembers, readName_quote, Option.bind_some,
            readValue_append layout.gapSpace,
            readValue_render value depth fuel _ (by omega)
              (ends_append space (ends_brace rest)), Option.bind_some]
          simp only [accept_append space, @accept_cons '}' (by decide)]
          rfl
      | (name, value) :: next :: members =>
          rw [renderMembers] at enough ⊢
          simp only [List.length_cons, List.length_append] at enough
          simp only [List.append_assoc, List.cons_append]
          rw [readMembers, readName_quote, Option.bind_some,
            readValue_append layout.gapSpace,
            readValue_render value depth fuel _ (by omega) (ends_comma _), Option.bind_some]
          simp only [@accept_cons ',' (by decide), if_true]
          rw [readMembers_append (layout.lineSpace _),
            readMembers_render (next :: members) depth fuel blank rest (by simp) space (by omega)]
          rfl

end

/-- Every value is read back from its text, with or without white space. -/
@[simp] theorem parse_stringify (layout : Layout) (value : JsonValue) :
    parse (stringify layout value) = some value := by
  have read := readValue_render layout value 0
    ((render layout 0 value).length + 1) [] (Nat.lt_succ_self _) (by simp [Ends])
  rw [List.append_nil] at read
  rw [parse, stringify, String.toList_ofList, read]
  rfl

end Inverse

section Values

/-- A member, by its name. Of several the last counts. -/
def member (name : String) : JsonValue → Option JsonValue
  | .object members => (members.reverse.find? (·.1 = name)).map Prod.snd
  | _ => none

/-- Only zero is written with a zero in front. -/
theorem head_toDigits {number : Nat} (positive : 0 < number) :
    (Nat.toDigits 10 number).head? ≠ some '0' := by
  induction number using Nat.strongRecOn with
  | ind number induction =>
      by_cases small : number < 10
      · have digit : ∀ value : Fin 10, 0 < value.val →
            [Nat.digitChar value.val].head? ≠ some '0' := by
          decide
        rw [Nat.toDigits_of_lt_base small]
        exact digit ⟨number, small⟩ positive
      · rw [Nat.toDigits_of_base_le (by decide) (Nat.le_of_not_lt small),
          List.head?_append_of_ne_nil _ Nat.toDigits_ne_nil]
        exact induction (number / 10) (by omega) (by omega)

theorem all_isDigit_toDigits (number : Nat) : (Nat.toDigits 10 number).all Char.isDigit = true :=
  List.all_eq_true.mpr fun _ member => Nat.isDigit_of_mem_toDigits (by decide) (by decide) member

theorem isUnsigned_toDigits (number : Nat) :
    JsonNumber.isUnsigned (Nat.toDigits 10 number) = true := by
  have digits := List.all_eq_true.mp (all_isDigit_toDigits number)
  cases written : Nat.toDigits 10 number with
  | nil => exact absurd written Nat.toDigits_ne_nil
  | cons first rest =>
      rw [written] at digits
      rw [JsonNumber.isUnsigned]
      split
      · next leading =>
        have zero : number = 0 := by
          by_contra positive
          have head := head_toDigits (Nat.pos_of_ne_zero positive)
          rw [written, leading] at head
          exact head rfl
        rw [zero, Nat.toDigits_zero] at written
        cases written
        rfl
      · have ended : rest.dropWhile Char.isDigit = [] :=
          List.dropWhile_eq_nil_iff.mpr fun character member =>
            digits character (List.mem_cons_of_mem first member)
        rw [digits first List.mem_cons_self, ended]
        rfl

theorem isNumber_toDigits (number : Nat) :
    JsonNumber.isNumber (Nat.toDigits 10 number) = true := by
  have digits := List.all_eq_true.mp (all_isDigit_toDigits number)
  have unsigned := isUnsigned_toDigits number
  unfold JsonNumber.isNumber
  split
  · next written =>
    have minus := digits '-' (written ▸ List.mem_cons_self)
    cases minus
  · exact unsigned

theorem all_isAtomic_toDigits (number : Nat) :
    (Nat.toDigits 10 number).all JsonNumber.isAtomic = true := by
  refine List.all_eq_true.mpr ?_
  intro character member
  have digit := List.all_eq_true.mp (all_isDigit_toDigits number) character member
  simp [JsonNumber.isAtomic, Char.isAlphanum, digit]

/-- A whole number, as it is written without fraction and exponent. -/
def ofNat (number : Nat) : JsonValue :=
  .number ⟨Nat.toDigits 10 number, isNumber_toDigits number, all_isAtomic_toDigits number⟩

/-- A whole number that is written without fraction and exponent. -/
def toNat? : JsonValue → Option Nat
  | .number value =>
      if value.text.all Char.isDigit then some (Nat.ofDigitChars 10 value.text 0) else none
  | _ => none

def text? : JsonValue → Option String
  | .string text => some text
  | _ => none

@[simp] theorem toNat?_ofNat (number : Nat) : (ofNat number).toNat? = some number := by
  rw [ofNat, toNat?, if_pos (all_isDigit_toDigits number), Nat.ofDigitChars_ten_toDigits]

@[simp] theorem text?_string (text : String) : (JsonValue.string text).text? = some text := rfl

/-- A value that may be missing: `null`, or what the reader takes. -/
def nullable {α : Type u} (read : JsonValue → Option α) : JsonValue → Option (Option α)
  | .null => some none
  | value => (read value).map some

def ofOption {α : Type u} (write : α → JsonValue) : Option α → JsonValue
  | none => .null
  | some value => write value

theorem nullable_ofOption {α : Type u} {read : JsonValue → Option α} {write : α → JsonValue}
    (inverse : ∀ value, read (write value) = some value)
    (given : ∀ value, write value ≠ .null) (value : Option α) :
    nullable read (ofOption write value) = some value := by
  cases value with
  | none => rfl
  | some value =>
      have other := given value
      rw [ofOption]
      unfold nullable
      split
      · next same => exact absurd same other
      · rw [inverse]
        rfl

end Values

end JsonValue

end Annex
