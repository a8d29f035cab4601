import Mathlib.Data.List.DropRight
import Annex.Foundation.PercentEncoding

namespace Annex

/-! Addresses of pages, read from texts as the URL standard has it. -/

/-- Where a page is from. The host has its port with it. -/
structure Origin where
  scheme : List Char
  host : List Char
  visible : (scheme ++ host).all (0x20 < ·.toNat) = true
  whole : (scheme ++ host).all (!"/?#\\@".toList.contains ·) = true
deriving DecidableEq

namespace Origin

def isSpecial (origin : Origin) : Bool :=
  ["http", "https", "ws", "wss", "ftp"].any fun scheme => scheme.toList = origin.scheme

def text (origin : Origin) : List Char := origin.scheme ++ "://".toList ++ origin.host

theorem visible_text (origin : Origin) : ∀ character ∈ origin.text, 0x20 < character.toNat := by
  have visible := origin.visible
  rw [List.all_append, Bool.and_eq_true] at visible
  have all : origin.text.all (0x20 < ·.toNat) = true := by
    rw [text, List.all_append, List.all_append, visible.1, visible.2]
    decide
  exact fun character member => of_decide_eq_true (List.all_eq_true.mp all character member)

end Origin

/-- The path is a list of segments. -/
structure WebUrl where
  origin : Origin
  path : List (List Char)
  query : Option (List Char)
  fragment : Option (List Char)
deriving DecidableEq

namespace WebUrl

/-- What the path percent-encode set leaves. -/
def pathPlain (character : Char) : Bool :=
  0x20 < character.toNat && character.toNat < 0x7F && !"\"#<>?^`\x7b\x7d".toList.contains character

/-- What the path percent-encode set leaves of a segment. -/
def segmentPlain (character : Char) : Bool :=
  pathPlain character && character != '/' && character != '\\'

/-- What the query percent-encode set leaves, and the special one. -/
def queryPlain (special : Bool) (character : Char) : Bool :=
  0x20 < character.toNat && character.toNat < 0x7F && !"\"#<>".toList.contains character &&
    !(special && character == '\'')

/-- What the fragment percent-encode set leaves. -/
def fragmentPlain (character : Char) : Bool :=
  0x20 < character.toNat && character.toNat < 0x7F && !"\"<>`".toList.contains character

/-- The number of dots, also those that are escapes, in a segment that has nothing else. -/
def dots : List Char → Option Nat
  | [] => some 0
  | '.' :: rest => (dots rest).map (· + 1)
  | '%' :: '2' :: 'e' :: rest => (dots rest).map (· + 1)
  | '%' :: '2' :: 'E' :: rest => (dots rest).map (· + 1)
  | _ => none

/-- Two dots take a segment back, one is left out. At the end they leave an empty segment. -/
def walk (path : List (List Char)) : List (List Char) → List (List Char)
  | [] => path
  | segment :: rest =>
      if dots segment = some 2 then
        walk (path.dropLast ++ if rest = [] then [[]] else []) rest
      else if dots segment = some 1 then
        walk (path ++ if rest = [] then [[]] else []) rest
      else
        walk (path ++ [segment]) rest

example : walk [] ["a".toList, "%2E.".toList, "b".toList, ".".toList] = ["b".toList, []] := by
  decide

/-- Blanks around a text, and its tabs and line ends, do not count. -/
def strip (text : List Char) : List Char :=
  ((text.dropWhile (·.toNat ≤ 0x20)).rdropWhile (·.toNat ≤ 0x20)).filter fun character =>
    !"\t\n\r".toList.contains character

/-- The segments of a path. In special schemes a backslash is a slash. -/
def segments (special : Bool) (path : List Char) : Option (List (List Char)) :=
  match path.map fun character => if special && character == '\\' then '/' else character with
  | [] => some (if special then [[]] else [])
  | '/' :: rest => some (rest.splitOn '/')
  | _ :: _ => none

/-- Whether a path goes on at a character. -/
def inPath (character : Char) : Bool := character != '?' && character != '#'

/-- The query, from the text behind the path. -/
def queryOf (special : Bool) : List Char → Option (List Char)
  | '?' :: text => some (PercentEncoding.encode (queryPlain special) (text.takeWhile (· != '#')))
  | _ => none

/-- The fragment, from the text behind the path. -/
def fragmentOf (text : List Char) : Option (List Char) :=
  match text.dropWhile (· != '#') with
  | [] => none
  | _ :: fragment => some (PercentEncoding.encode fragmentPlain fragment)

/-- A page's address, from the text behind the origin. -/
def ofRest (origin : Origin) (rest : List Char) : Option WebUrl :=
  (segments origin.isSpecial (rest.takeWhile inPath)).map fun segments => {
    origin
    path := walk [] (segments.map (PercentEncoding.encode pathPlain))
    query := queryOf origin.isSpecial (rest.dropWhile inPath)
    fragment := fragmentOf (rest.dropWhile inPath)
  }

/-- The address that a text is, if it is one of the origin. -/
def parse (origin : Origin) (text : List Char) : Option WebUrl :=
  if origin.text.isPrefixOf (strip text) then
    ofRest origin ((strip text).drop origin.text.length)
  else
    none

def pathname (url : WebUrl) : List Char := url.path.flatMap ('/' :: ·)

def hash (url : WebUrl) : List Char :=
  match url.fragment with
  | none | some [] => []
  | some fragment => '#' :: fragment

def searchParams (url : WebUrl) : List (List Char × List Char) :=
  FormEncoding.parse (url.query.getD [])

section Dots

open PercentEncoding

theorem decode_of_dots {segment : List Char} {number : Nat} (found : dots segment = some number) :
    decode (Utf8.encode segment) = Utf8.encode (List.replicate number '.') := by
  induction segment using dots.induct generalizing number with
  | case1 =>
      cases found
      rfl
  | case2 rest induction =>
      rcases Option.map_eq_some_iff.mp found with ⟨less, before, rfl⟩
      rw [List.replicate_succ, Utf8.encode_cons, Utf8.encode_cons, ← induction before]
      exact decode_cons_of_ne (by decide) _
  | case3 rest induction =>
      rcases Option.map_eq_some_iff.mp found with ⟨less, before, rfl⟩
      rw [List.replicate_succ, Utf8.encode_cons ('.'), ← induction before]
      rfl
  | case4 rest induction =>
      rcases Option.map_eq_some_iff.mp found with ⟨less, before, rfl⟩
      rw [List.replicate_succ, Utf8.encode_cons ('.'), ← induction before]
      rfl
  | case5 => simp [dots, *] at found

theorem dots_replicate (number : Nat) : dots (List.replicate number '.') = some number := by
  induction number with
  | zero => rfl
  | succ number induction => simp [List.replicate_succ, dots, induction]

/-- An encoded text has nothing but dots if the text has. -/
theorem dots_encode {plain : Char → Bool} (decodable : Decodable plain) (dot : plain '.' = true)
    {text : List Char} {number : Nat} :
    dots (encode plain text) = some number ↔ text = List.replicate number '.' := by
  constructor
  · intro found
    have same := congrArg Utf8.decode (decode_of_dots found)
    rwa [← decodeText, decodeText_encode decodable, Utf8.decode_encode] at same
  · rintro rfl
    rw [encode_of_plain, dots_replicate]
    intro character member
    rw [List.eq_of_mem_replicate member, dot]

end Dots

section Visible

theorem strip_of_visible {text : List Char} (visible : ∀ character ∈ text, 0x20 < character.toNat) :
    strip text = text := by
  have front : text.dropWhile (·.toNat ≤ 0x20) = text := by
    rw [List.dropWhile_eq_self_iff]
    intro nonempty
    simpa using visible _ (List.getElem_mem nonempty)
  have back : text.rdropWhile (·.toNat ≤ 0x20) = text := by
    rw [List.rdropWhile_eq_self_iff]
    intro nonempty
    simpa using visible _ (List.getLast_mem nonempty)
  rw [strip, front, back, List.filter_eq_self]
  intro character member
  have blank : "\t\n\r".toList.all (·.toNat ≤ 0x20) = true := by decide
  have large := visible character member
  have other : character ∉ "\t\n\r".toList := fun inside =>
    absurd (of_decide_eq_true (List.all_eq_true.mp blank character inside)) (by omega)
  simpa using other

theorem parse_append {origin : Origin} {rest : List Char}
    (visible : ∀ character ∈ rest, 0x20 < character.toNat) :
    parse origin (origin.text ++ rest) = ofRest origin rest := by
  have stripped : strip (origin.text ++ rest) = origin.text ++ rest := by
    apply strip_of_visible
    intro character member
    rcases List.mem_append.mp member with inside | behind
    · exact origin.visible_text character inside
    · exact visible character behind
  rw [parse, stripped, if_pos (by simp), List.drop_left]

end Visible

section Plain

variable {special : Bool} {character : Char}

theorem visible_of_pathPlain (plain : pathPlain character = true) : 0x20 < character.toNat := by
  simp only [pathPlain, Bool.and_eq_true, decide_eq_true_eq] at plain
  exact plain.1.1

theorem visible_of_queryPlain (plain : queryPlain special character = true) :
    0x20 < character.toNat := by
  simp only [queryPlain, Bool.and_eq_true, decide_eq_true_eq] at plain
  exact plain.1.1.1

theorem pathPlain_of_segmentPlain (plain : segmentPlain character = true) :
    pathPlain character = true := by
  simp only [segmentPlain, Bool.and_eq_true] at plain
  exact plain.1.1

theorem inPath_of_pathPlain (plain : pathPlain character = true) : inPath character = true := by
  by_contra marked
  have marks : character = '?' ∨ character = '#' := by
    simpa [inPath, imp_iff_not_or] using marked
  rcases marks with rfl | rfl <;> cases plain

theorem not_mark_of_queryPlain (plain : queryPlain special character = true) :
    (character != '#') = true := by
  rw [bne_iff_ne]
  rintro rfl
  simp [queryPlain] at plain

theorem segmentPlain_of_isAlphanum (alphanumeric : character.isAlphanum = true) :
    segmentPlain character = true := by
  have ascii := PercentEncoding.toNat_lt_of_isAlphanum alphanumeric
  revert alphanumeric
  exact Utf8.forall_ascii (motive := fun character => character.isAlphanum = true →
    segmentPlain character = true) (by decide) ascii

theorem queryPlain_of_isAlphanum (alphanumeric : character.isAlphanum = true) :
    queryPlain special character = true := by
  have ascii := PercentEncoding.toNat_lt_of_isAlphanum alphanumeric
  revert alphanumeric
  exact Utf8.forall_ascii (motive := fun character => character.isAlphanum = true →
    queryPlain special character = true) (by revert special; decide) ascii

end Plain

section Reading

variable {names : List (List Char)} {query : List Char}

theorem splitOn_pathname {url : WebUrl} (free : ∀ segment ∈ url.path, '/' ∉ segment) :
    url.pathname.splitOn '/' = [] :: url.path := by
  have text : url.pathname = ['/'].intercalate ([] :: url.path) := by
    rw [pathname]
    induction url.path with
    | nil => rfl
    | cons segment rest induction =>
        cases rest with
        | nil => simp
        | cons next rest =>
            rw [List.flatMap_cons, induction, List.intercalate_cons_cons,
              List.intercalate_cons_cons, List.intercalate_cons_cons]
            simp
  rw [text, List.splitOn_intercalate '/' _ (List.cons_ne_nil _ _)]
  intro segment member
  rcases List.mem_cons.mp member with rfl | inside
  · simp
  · exact free segment inside

theorem segments_slash {special : Bool} (nonempty : names ≠ [])
    (plain : ∀ name ∈ names, ∀ character ∈ name, segmentPlain character = true) :
    segments special ('/' :: ['/'].intercalate names) = some names := by
  have slashes : ∀ character ∈ ['/'].intercalate names,
      (if special && character == '\\' then '/' else character) = id character := by
    intro character member
    have other : character ≠ '\\' := by
      rintro rfl
      rcases Delimited.mem_intercalate member with equal | ⟨name, isName, inside⟩
      · cases equal
      · cases plain name isName _ inside
    simp [other]
  have free : ∀ name ∈ names, '/' ∉ name := by
    intro name isName inside
    cases plain name isName _ inside
  rw [segments, List.map_cons, List.map_congr_left slashes, List.map_id]
  simp [List.splitOn_intercalate '/' free nonempty]

theorem queryOf_plain {special : Bool}
    (plain : ∀ character ∈ query, queryPlain special character = true) :
    queryOf special ('?' :: query) = some query := by
  have only : query.takeWhile (· != '#') = query := by
    rw [List.takeWhile_eq_self_iff]
    exact fun character member => not_mark_of_queryPlain (plain character member)
  rw [queryOf, only, PercentEncoding.encode_of_plain plain]

theorem fragmentOf_plain {special : Bool}
    (plain : ∀ character ∈ query, queryPlain special character = true) :
    fragmentOf ('?' :: query) = none := by
  have nothing : ('?' :: query).dropWhile (· != '#') = [] := by
    rw [List.dropWhile_eq_nil_iff, List.forall_mem_cons]
    exact ⟨by decide, fun character member => not_mark_of_queryPlain (plain character member)⟩
  rw [fragmentOf, nothing]

/-- Plain segments and a plain query are read as they are written, up to dot segments. -/
theorem parse_plain {origin : Origin} (nonempty : names ≠ [])
    (plain : ∀ name ∈ names, ∀ character ∈ name, segmentPlain character = true)
    (plainQuery : ∀ character ∈ query, queryPlain origin.isSpecial character = true) :
    parse origin (origin.text ++ ('/' :: ['/'].intercalate names ++ '?' :: query)) =
      some { origin, path := walk [] names, query := some query, fragment := none } := by
  have plainPath : ∀ character ∈ '/' :: ['/'].intercalate names,
      pathPlain character = true := by
    intro character member
    rcases List.mem_cons.mp member with rfl | inside
    · decide
    · rcases Delimited.mem_intercalate inside with rfl | ⟨name, isName, inName⟩
      · decide
      · exact pathPlain_of_segmentPlain (plain name isName character inName)
  have visible : ∀ character ∈ '/' :: ['/'].intercalate names ++ '?' :: query,
      0x20 < character.toNat := by
    intro character member
    rcases List.mem_append.mp member with inside | inside
    · exact visible_of_pathPlain (plainPath character inside)
    · rcases List.mem_cons.mp inside with rfl | inQuery
      · decide
      · exact visible_of_queryPlain (plainQuery character inQuery)
  have path : ∀ character ∈ '/' :: ['/'].intercalate names, inPath character = true :=
    fun character member => inPath_of_pathPlain (plainPath character member)
  have text : ('/' :: ['/'].intercalate names ++ '?' :: query).takeWhile inPath =
      '/' :: ['/'].intercalate names := by
    rw [List.takeWhile_append_of_pos path, List.takeWhile_cons_of_neg (by decide),
      List.append_nil]
  have behind : ('/' :: ['/'].intercalate names ++ '?' :: query).dropWhile inPath =
      '?' :: query := by
    rw [List.dropWhile_append_of_pos path, List.dropWhile_cons_of_neg (by decide)]
  have kept : ∀ name ∈ names, PercentEncoding.encode pathPlain name = id name := by
    intro name isName
    apply PercentEncoding.encode_of_plain
    exact fun character inside => pathPlain_of_segmentPlain (plain name isName character inside)
  rw [parse_append visible, ofRest, text, behind, segments_slash nonempty plain,
    queryOf_plain plainQuery, fragmentOf_plain plainQuery, Option.map_some,
    List.map_congr_left kept, List.map_id]

end Reading

end WebUrl

end Annex
