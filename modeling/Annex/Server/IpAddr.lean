import Mathlib.Algebra.GroupWithZero.Nat
import Mathlib.Data.List.Basic

namespace Annex.Server

/-! The addresses of hosts: which of them are private, and which texts are addresses. -/

inductive IpAddr where
  | v4 (bits : BitVec 32)
  | v6 (bits : BitVec 128)
deriving DecidableEq, Repr

section Classes

instance (priority := 2000) octetNeZero : NeZero 4 := ⟨by decide⟩

/-- `octets()[index]`. -/
def octet (bits : BitVec 32) (index : Fin 4) : Nat :=
  (bits.extractLsb' (24 - 8 * index.val) 8).toNat

def isPrivateIpv4 (bits : BitVec 32) : Bool :=
  -- Loopback.
  octet bits 0 = 127 ||
  -- Private use.
  octet bits 0 = 10 || (octet bits 0 = 172 && 16 ≤ octet bits 1 && octet bits 1 ≤ 31) ||
  (octet bits 0 = 192 && octet bits 1 = 168) ||
  -- Link-local, cloud metadata.
  (octet bits 0 = 169 && octet bits 1 = 254) ||
  -- Broadcast and unspecified.
  bits = 0xFFFFFFFF || bits = 0 ||
  -- Shared address space.
  (octet bits 0 = 100 && octet bits 1 &&& 0xC0 = 64)

/-- `to_ipv4_mapped`: the address in `::ffff:a.b.c.d`. -/
def toIpv4Mapped (bits : BitVec 128) : Option (BitVec 32) :=
  if bits.extractLsb' 32 96 = 0xFFFF then some (bits.extractLsb' 0 32) else none

def firstSegment (bits : BitVec 128) : BitVec 16 := bits.extractLsb' 112 16

def isPrivateIp : IpAddr → Bool
  | .v4 bits => isPrivateIpv4 bits
  | .v6 bits =>
      match toIpv4Mapped bits with
      | some mapped => isPrivateIpv4 mapped
      | none =>
          -- Loopback and unspecified.
          bits = 1 || bits = 0 ||
          -- Unique local and link-local.
          firstSegment bits &&& 0xFE00 = 0xFC00 || firstSegment bits &&& 0xFFC0 = 0xFE80

example : isPrivateIp (.v4 0xA9FEA9FE) = true ∧ isPrivateIp (.v6 0xFFFF7F000001) = true ∧
    isPrivateIp (.v4 0x08080808) = false := by
  decide

end Classes

section Texts

/-- A decimal number of one byte, without leading zeros. -/
def parseOctet (digits : List Char) : Option (BitVec 8) :=
  if digits ≠ [] ∧ digits.length ≤ 3 ∧ digits.all Char.isDigit ∧
      (digits.head? = some '0' → digits.length = 1) ∧ Nat.ofDigitChars 10 digits 0 < 256 then
    some (BitVec.ofNat 8 (Nat.ofDigitChars 10 digits 0))
  else none

def parseIpv4 (text : List Char) : Option (BitVec 32) :=
  match (text.splitOn '.').mapM parseOctet with
  | some [first, second, third, fourth] => some (first ++ second ++ third ++ fourth)
  | _ => none

def hexValue (digit : Char) : Option Nat :=
  if digit.isDigit then some (digit.toNat - 48)
  else if 'a' ≤ digit ∧ digit ≤ 'f' then some (digit.toNat - 87)
  else if 'A' ≤ digit ∧ digit ≤ 'F' then some (digit.toNat - 55)
  else none

/-- One to four hexadecimal digits. -/
def parseGroup (digits : List Char) : Option (BitVec 16) :=
  if digits ≠ [] ∧ digits.length ≤ 4 then
    (digits.mapM hexValue).map fun values =>
      BitVec.ofNat 16 (values.foldl (fun number value => 16 * number + value) 0)
  else none

/-- The groups between colons. The last may be an IPv4 address, which makes two. -/
def parseGroups (embedded : Bool) : List (List Char) → Option (List (BitVec 16))
  | [] => some []
  | [last] =>
      match if embedded then parseIpv4 last else none with
      | some bits => some [bits.extractLsb' 16 16, bits.extractLsb' 0 16]
      | none => (parseGroup last).map fun group => [group]
  | part :: rest => do
      let group ← parseGroup part
      let groups ← parseGroups embedded rest
      some (group :: groups)

def readGroups (embedded : Bool) (text : List Char) : Option (List (BitVec 16)) :=
  if text = [] then some [] else parseGroups embedded (text.splitOn ':')

/-- The texts before and after the first two colons in a row. -/
def splitDoubleColon : List Char → Option (List Char × List Char)
  | ':' :: ':' :: rest => some ([], rest)
  | character :: rest =>
      (splitDoubleColon rest).map fun parts => (character :: parts.1, parts.2)
  | [] => none

def joinGroups (groups : List (BitVec 16)) : BitVec 128 :=
  groups.foldl (fun bits group => bits <<< 16 ||| group.setWidth 128) 0

def parseIpv6 (text : List Char) : Option (BitVec 128) :=
  match splitDoubleColon text with
  | none => do
      let groups ← readGroups true text
      if groups.length = 8 then some (joinGroups groups) else none
  | some (front, back) => do
      let head ← readGroups false front
      let tail ← readGroups true back
      -- The two colons stand for one group at least.
      if head.length + tail.length ≤ 7 then
        some (joinGroups (head ++ List.replicate (8 - (head.length + tail.length)) 0 ++ tail))
      else none

/-- `parse::<IpAddr>`. -/
def parseIpAddr (text : String) : Option IpAddr :=
  match parseIpv4 text.toList with
  | some bits => some (.v4 bits)
  | none => (parseIpv6 text.toList).map .v6

example : parseIpAddr "169.254.169.254" = some (.v4 0xA9FEA9FE) ∧
    parseIpAddr "::ffff:10.0.0.1" = some (.v6 0xFFFF0A000001) ∧
    parseIpAddr "fe80::1" = some (.v6 0xFE800000000000000000000000000001) ∧
    parseIpAddr "1:2:3" = none ∧ parseIpAddr "127.0.0.01" = none := by
  decide +kernel

/-- The part after the last dot is a number. -/
def EndsInNumber (text : String) : Prop :=
  ∃ label, (text.toList.splitOn '.').getLast? = some label ∧ label ≠ [] ∧ label.all Char.isDigit

theorem getLast?_of_mapM {α β : Type} {read : α → Option β} {parts : List α} {values : List β}
    {last : β} (all : parts.mapM read = some values) (ends : values.getLast? = some last) :
    ∃ part, parts.getLast? = some part ∧ read part = some last := by
  induction parts generalizing values with
  | nil =>
      cases all
      cases ends
  | cons part rest induction =>
      rw [List.mapM_cons] at all
      rcases Option.bind_eq_some_iff.mp all with ⟨value, isValue, all⟩
      rcases Option.bind_eq_some_iff.mp all with ⟨later, isLater, all⟩
      cases all
      cases rest with
      | nil =>
          cases isLater
          cases ends
          exact ⟨part, rfl, isValue⟩
      | cons next others =>
          cases later with
          | nil =>
              rw [List.mapM_cons] at isLater
              rcases Option.bind_eq_some_iff.mp isLater with ⟨_, _, isLater⟩
              rcases Option.bind_eq_some_iff.mp isLater with ⟨_, _, isLater⟩
              cases isLater
          | cons second values =>
              rw [List.getLast?_cons_cons] at ends ⊢
              exact induction isLater ends

theorem endsInNumber_of_parseIpv4 {text : String} {bits : BitVec 32}
    (parsed : parseIpv4 text.toList = some bits) : EndsInNumber text := by
  unfold parseIpv4 at parsed
  split at parsed
  · next first second third fourth all =>
    have ends : [first, second, third, fourth].getLast? = some fourth := rfl
    rcases getLast?_of_mapM all ends with ⟨label, ends, isOctet⟩
    unfold parseOctet at isOctet
    split at isOctet
    · next digits => exact ⟨label, ends, digits.1, digits.2.2.1⟩
    · cases isOctet
  · cases parsed

theorem splitDoubleColon_of_free {text : List Char} (free : ':' ∉ text) :
    splitDoubleColon text = none := by
  induction text with
  | nil => rfl
  | cons character rest induction =>
      rw [List.mem_cons, not_or] at free
      unfold splitDoubleColon
      split
      · next same =>
        cases same
        exact absurd rfl free.1
      · next same =>
        cases same
        rw [induction free.2]
        rfl
      · rfl

theorem mem_colon_of_parseIpv6 {text : List Char} {bits : BitVec 128}
    (parsed : parseIpv6 text = some bits) : ':' ∈ text := by
  by_contra free
  unfold parseIpv6 at parsed
  rw [splitDoubleColon_of_free free] at parsed
  rcases Option.bind_eq_some_iff.mp parsed with ⟨groups, read, parsed⟩
  have single : text.splitOn ':' = [text] := List.splitOn_eq_singleton free
  have few : groups.length ≤ 2 := by
    unfold readGroups at read
    split at read
    · cases read
      decide
    · rw [single] at read
      unfold parseGroups at read
      split at read
      · cases read
        exact Nat.le_refl 2
      · rcases Option.map_eq_some_iff.mp read with ⟨group, _, same⟩
        cases same
        exact Nat.le_succ 1
  split at parsed
  · omega
  · cases parsed

/-- Without a colon a text is an address only as four decimal numbers. -/
theorem parseIpAddr_eq_some {text : String} {address : IpAddr}
    (parsed : parseIpAddr text = some address) : ':' ∈ text.toList ∨ EndsInNumber text := by
  unfold parseIpAddr at parsed
  cases isV4 : parseIpv4 text.toList with
  | some bits => exact .inr (endsInNumber_of_parseIpv4 isV4)
  | none =>
      rw [isV4] at parsed
      rcases Option.map_eq_some_iff.mp parsed with ⟨bits, isV6, _⟩
      exact .inl (mem_colon_of_parseIpv6 isV6)

end Texts

end Annex.Server
