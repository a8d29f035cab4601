import Annex.Foundation.Hex
import Annex.Foundation.Scalar

namespace Annex

/-! What the program calls outside its own repository. -/

/-- The bytes of a text. -/
def utf8 (text : String) : List Byte :=
  text.toUTF8.toList.map fun byte => Fin.ofNat 256 byte.toNat

section Bytes

/-- `ByteArray.toList` reads the bytes from an index on. -/
theorem toList_loop (bytes : ByteArray) (remaining index : Nat) (front : List UInt8)
    (enough : bytes.size - index ≤ remaining) :
    ByteArray.toList.loop bytes index front = front.reverse ++ bytes.data.toList.drop index := by
  induction remaining generalizing index front with
  | zero =>
      have past : bytes.data.toList.length ≤ index := by
        show bytes.size ≤ index
        omega
      rw [ByteArray.toList.loop, if_neg (by omega), List.drop_eq_nil_of_le past,
        List.append_nil]
  | succ remaining induction =>
      rw [ByteArray.toList.loop]
      split
      · next below =>
        have inside : index < bytes.data.toList.length := below
        have byte : bytes.get! index = bytes.data.toList[index] := by
          show bytes.data[index]! = _
          rw [Array.getElem_toList]
          exact getElem!_pos bytes.data index below
        rw [induction (index + 1) _ (by omega), List.reverse_cons, List.append_assoc,
          List.singleton_append, byte, ← List.drop_eq_getElem_cons inside]
      · next above =>
        have past : bytes.data.toList.length ≤ index := Nat.le_of_not_lt above
        rw [List.drop_eq_nil_of_le past, List.append_nil]

theorem toList_eq_toList_data (bytes : ByteArray) : bytes.toList = bytes.data.toList := by
  unfold ByteArray.toList
  rw [toList_loop bytes bytes.size 0 [] (by omega)]
  rfl

theorem length_utf8 (text : String) : (utf8 text).length = text.utf8ByteSize := by
  rw [utf8, List.length_map, toList_eq_toList_data, Array.length_toList]
  rfl

theorem utf8_injective : Function.Injective utf8 := by
  have bytes : Function.Injective fun byte : UInt8 => Fin.ofNat 256 byte.toNat := by
    intro left right same
    have values := congrArg Fin.val same
    have leftBound := left.toNat_lt
    have rightBound := right.toNat_lt
    simp only [Fin.ofNat] at values
    apply UInt8.toNat_inj.mp
    omega
  intro left right same
  have lists := List.map_injective_iff.mpr bytes same
  rw [toList_eq_toList_data, toList_eq_toList_data] at lists
  exact String.toByteArray_inj.mp (ByteArray.ext (Array.toList_inj.mp lists))

end Bytes

/-- The Unicode tables of the standard library, the SHA-256 of its package, the
machine's arithmetic, the texts the hexadecimal and JSON packages report a broken
input with, the seconds since the epoch of a `%Y-%m-%d %H:%M:%S` text, and the text a task
that panicked is reported with. -/
structure Environment where
  toLowercase : String → String
  isAlphanumeric : Char → Bool
  sha256 : List Byte → List Byte
  arithmetic : Scalar F32
  hexErrorText : String → String
  jsonErrorText : String → String
  parseDatetime : String → Option Int
  joinErrorText : String

/-- `hex::encode(Sha256::digest(input.as_bytes()))`. -/
def Environment.sha256Hex (environment : Environment) (input : String) : String :=
  Hex.encode (environment.sha256 (utf8 input))

/-- The clock while a request runs: the database's `datetime('now')`, the same plus a
number of days, and the seconds since the epoch. -/
structure Clock where
  datetime : String
  datetimePlusDays : Nat → Option String
  unixSeconds : Int

/-- An environment for concrete runs: ASCII tables, the given digest, and no
fractions, so that every computed score is zero. -/
def Environment.sample (sha256 : List Byte → List Byte) : Environment where
  toLowercase := fun text => String.ofList (text.toList.map Char.toLower)
  isAlphanumeric := Char.isAlphanum
  sha256 := sha256
  arithmetic := ⟨F32.zero, F32.one, fun left _ => left, fun left _ => left,
    fun left _ => left, id, fun _ => F32.zero, fun _ _ => false, fun _ _ => false,
    fun _ _ => false⟩
  hexErrorText := id
  jsonErrorText := id
  parseDatetime := fun _ => some 0
  joinErrorText := "task panicked"

end Annex
