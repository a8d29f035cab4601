import Mathlib.Data.List.FinRange
import Mathlib.Tactic.Ring
import Annex.Foundation.GaloisByte
import Annex.Foundation.Hex
import Annex.Foundation.SecretSharing

namespace Annex.Client

/-! Shamir's secret sharing over the field of 256 elements, byte by byte, and the recovery
shards of a secret key's hexadecimal text. Numbers stand for the bytes that the operations
take; the random coefficients are an argument of `split`. -/

/-- The passes of `gfMul`'s loop; the first argument bounds their number. -/
def gfMulLoop : (fuel r x y : Nat) → Nat
  | 0, r, _, _ => r
  | fuel + 1, r, x, y =>
      if 0 < y then
        let r := if y &&& 1 ≠ 0 then r ^^^ x else r
        let x := x <<< 1
        let x := if x &&& 0x100 ≠ 0 then x ^^^ 0x11b else x
        gfMulLoop fuel r x (y >>> 1)
      else r

/-- Multiplication with the polynomial `0x11b`. Every pass halves `y`, so that there are at
most `b` of them. -/
def gfMul (a b : Nat) : Nat :=
  gfMulLoop b 0 a b

def gfInv (a : Nat) : Except String Nat :=
  if a = 0 then .error "Cannot invert zero in GF(2^8)"
  else
    let r := (List.range 6).foldl (fun r _ => gfMul (gfMul r r) a) a
    .ok (gfMul r r)

def gfDiv (a b : Nat) : Except String Nat := do
  return gfMul a (← gfInv b)

/-- The value of a polynomial at `x`; the constant term comes first. -/
def polyEval (coefficients : List Nat) (x : Nat) : Nat :=
  (coefficients.foldl
    (fun (result, xPow) coeff => (result ^^^ gfMul coeff xPow, gfMul xPow x)) (0, 1)).1

structure Share where
  index : Nat
  data : List Byte
deriving DecidableEq, Repr

/-- A byte's coefficients: the byte of the secret, then the drawn ones. -/
def coefficients {count : Nat} (secret : Byte) (random : Fin count → Byte) : List Nat :=
  secret.val :: List.ofFn fun i => (random i).val

def split (secret : List Byte) (totalShards threshold : Nat)
    (random : Fin secret.length → Fin (threshold - 1) → Byte) :
    Except String (List Share) :=
  if threshold < 2 then .error "Threshold must be at least 2"
  else if totalShards < threshold then .error "Total shards must be >= threshold"
  else if totalShards > 255 then .error "Maximum 255 shards"
  else
    .ok ((List.range totalShards).map fun i =>
      { index := i + 1
        data := List.ofFn fun byteIdx =>
          Fin.ofNat 256 (polyEval (coefficients secret[byteIdx] (random byteIdx)) (i + 1)) })

/-- The Lagrange basis polynomial of a share at zero. -/
def lagrangeBasis (shares : List Share) (i : Fin shares.length) : Except String Nat :=
  (List.finRange shares.length).foldlM (fun basis j =>
    if i = j then return basis
    else return gfMul basis (← gfDiv shares[j].index (shares[i].index ^^^ shares[j].index))) 1

/-- A byte of the secret. A byte that a share does not have counts as zero. -/
def reconstructByte (shares : List Share) (byteIdx : Nat) : Except String Nat :=
  (List.finRange shares.length).foldlM (fun value i => do
    let basis ← lagrangeBasis shares i
    return value ^^^ gfMul (shares[i].data.getD byteIdx 0).val basis) 0

def reconstruct (shares : List Share) : Except String (List Byte) :=
  match shares with
  | first :: _ :: _ =>
      (List.range first.data.length).mapM fun byteIdx => do
        return Fin.ofNat 256 (← reconstructByte shares byteIdx)
  | _ => .error "Need at least 2 shares to reconstruct"

/-- The number of the hexadecimal digits a text starts with; without any it is zero, as
`NaN` is when it is stored into a byte. -/
def hexPrefix (text : List Char) : Nat :=
  ((text.map Hex.digitValue).takeWhile Option.isSome).reduceOption.foldl
    (fun value digit => 16 * value + digit.val) 0

/-- `parseInt(text, 16)` for a slice of one or two characters, stored into a byte. -/
def parseSlice (text : List Char) : Byte :=
  match text.dropWhile Char.isWhitespace with
  | '-' :: rest => -Fin.ofNat 256 (hexPrefix rest)
  | '+' :: rest => Fin.ofNat 256 (hexPrefix rest)
  | rest => Fin.ofNat 256 (hexPrefix rest)

/-- The bytes of the slices. A last single character would be stored behind the end of the
array, whose length is half of the text's rounded down, so that it is lost. -/
def hexToBytesLoop : List Char → List Byte
  | high :: low :: rest => parseSlice [high, low] :: hexToBytesLoop rest
  | _ => []

def hexToBytes (hex : String) : List Byte :=
  hexToBytesLoop hex.toList

def bytesToHex (bytes : List Byte) : String :=
  Hex.encode bytes

/-- A share with its bytes as hexadecimal text. -/
structure Shard where
  index : Nat
  data : String
deriving DecidableEq, Repr

def splitSecretKey (skHex : String) (totalShards threshold : Nat)
    (random : Fin (hexToBytes skHex).length → Fin (threshold - 1) → Byte) :
    Except String (List Shard) := do
  let shares ← split (hexToBytes skHex) totalShards threshold random
  return shares.map fun s => { index := s.index, data := bytesToHex s.data }

def reconstructSecretKey (shards : List Shard) : Except String String := do
  let secret ← reconstruct (shards.map fun s => { index := s.index, data := hexToBytes s.data })
  return bytesToHex secret

/-- `sk.toString(16)`, as `generateLocalKeys` stores a key. -/
def storedKey (sk : Nat) : String :=
  String.ofList (Nat.toDigits 16 sk)

/-- `BigInt('0x' + text)`, as `registerWithServer` reads a stored key: without digits, or
with a character that is none, it throws. -/
def readKey (text : String) : Option Nat :=
  if text.toList = [] then none
  else (text.toList.mapM Hex.digitValue).map
    (List.foldl (fun value digit => 16 * value + digit.val) 0)

open SecretSharing

/-! The shares of a secret determine it and hide it: the arithmetic on numbers is the field
of bytes, splitting evaluates a polynomial over it, and reconstruction interpolates. -/

section Arithmetic

theorem gfMulLoop_zero (fuel r x : Nat) : gfMulLoop fuel r x 0 = r := by
  cases fuel with
  | zero => rfl
  | succ fuel => simp [gfMulLoop]

/-- The loop adds the multiples of `x` that the remaining bits of `y` select. -/
theorem gfMulLoop_eq_product (width : Nat) (bound : width ≤ 8) {fuel : Nat}
    (r x y : GaloisByte) (small : y.toNat < 2 ^ width) (enough : y.toNat ≤ fuel) :
    gfMulLoop fuel r.toNat x.toNat y.toNat = (r + GaloisByte.product width x y).toNat := by
  induction width generalizing fuel r x y with
  | zero =>
      have isZero : y.toNat = 0 := by simpa using small
      rw [isZero, gfMulLoop_zero, GaloisByte.product, add_zero]
  | succ width induction =>
      rcases Nat.eq_zero_or_pos y.toNat with isZero | positive
      · have yZero : y = 0 := GaloisByte.toNat_eq_zero_iff.mp isZero
        rw [isZero, gfMulLoop_zero, yZero, GaloisByte.product_zero_right, add_zero]
      · obtain ⟨fuel, rfl⟩ : ∃ rest, fuel = rest + 1 := ⟨fuel - 1, by omega⟩
        have shifted : (⟨y.bits >>> 1⟩ : GaloisByte).toNat = y.toNat >>> 1 :=
          BitVec.toNat_ushiftRight _ _
        have halved : y.toNat >>> 1 = y.toNat / 2 := Nat.shiftRight_eq_div_pow _ 1
        have selected : (if y.toNat &&& 1 ≠ 0 then r.toNat ^^^ x.toNat else r.toNat) =
            (r + if y.bits.getLsbD 0 then x else 0).toNat := by
          rw [← BitVec.testBit_toNat, Nat.testBit_zero, Nat.and_one_is_mod, GaloisByte.toNat]
          rcases Nat.mod_two_eq_zero_or_one y.bits.toNat with even | odd
          · simp [even]
          · simp [odd]
        rw [gfMulLoop, if_pos positive]
        simp only [selected, ← GaloisByte.toNat_timesX, ← shifted]
        rw [induction (by omega) _ _ _ (by omega) (by omega), GaloisByte.product, add_assoc]

theorem gfMul_toNat (a b : GaloisByte) : gfMul a.toNat b.toNat = (a * b).toNat := by
  have loop := gfMulLoop_eq_product 8 (Nat.le_refl 8) 0 a b b.toNat_lt (Nat.le_refl _)
  rw [zero_add] at loop
  exact loop

theorem gfInv_toNat {a : GaloisByte} (nonzero : a ≠ 0) : gfInv a.toNat = .ok (a⁻¹).toNat := by
  have different : a.toNat ≠ 0 := fun isZero => nonzero (GaloisByte.toNat_eq_zero_iff.mp isZero)
  rw [gfInv, if_neg different]
  simp only [List.range, List.range.loop, List.foldl_cons, List.foldl_nil, gfMul_toNat]
  congr 2
  rw [GaloisByte.inv_eq_pow]
  ring

theorem gfDiv_toNat (a : GaloisByte) {b : GaloisByte} (nonzero : b ≠ 0) :
    gfDiv a.toNat b.toNat = .ok (a / b).toNat := by
  rw [gfDiv, gfInv_toNat nonzero, div_eq_mul_inv, ← gfMul_toNat]
  rfl

theorem polyEval_fold (coefficients : List GaloisByte) (x result xPow : GaloisByte) :
    ((coefficients.map GaloisByte.toNat).foldl
      (fun (result, xPow) coeff => (result ^^^ gfMul coeff xPow, gfMul xPow x.toNat))
      (result.toNat, xPow.toNat)).1 = (result + xPow * value coefficients x).toNat := by
  induction coefficients generalizing result xPow with
  | nil => simp [value]
  | cons coefficient rest induction =>
      simp only [List.map_cons, List.foldl_cons, gfMul_toNat, ← GaloisByte.toNat_add, induction]
      congr 1
      rw [value]
      ring

theorem polyEval_toNat (coefficients : List GaloisByte) (x : GaloisByte) :
    polyEval (coefficients.map GaloisByte.toNat) x.toNat = (value coefficients x).toNat := by
  have fold := polyEval_fold coefficients x 0 1
  rw [zero_add, one_mul] at fold
  exact fold

end Arithmetic

section Reconstruction

variable {shares : List Share}

/-- The point at which a share was taken. -/
def point (shares : List Share) (i : Fin shares.length) : GaloisByte :=
  GaloisByte.ofNat (shares.get i).index

/-- The byte of a share as an element of the field. -/
def shareValue (shares : List Share) (byteIdx : Nat) (i : Fin shares.length) : GaloisByte :=
  GaloisByte.ofNat ((shares.get i).data.getD byteIdx 0).val

theorem toNat_point (bytes : ∀ share ∈ shares, share.index < 256) (i : Fin shares.length) :
    (point shares i).toNat = (shares.get i).index :=
  GaloisByte.toNat_ofNat (bytes _ (List.getElem_mem _))

theorem toNat_shareValue (byteIdx : Nat) (i : Fin shares.length) :
    (shareValue shares byteIdx i).toNat = ((shares.get i).data.getD byteIdx 0).val :=
  GaloisByte.toNat_ofNat (Fin.isLt _)

/-- The factor of a share's basis polynomial that another share gives. -/
def basisFactor (shares : List Share) (i j : Fin shares.length) : GaloisByte :=
  if i = j then 1 else (0 - point shares j) / (point shares i - point shares j)

theorem lagrangeBasis_fold (bytes : ∀ share ∈ shares, share.index < 256)
    (distinct : Function.Injective (point shares)) (i : Fin shares.length)
    (others : List (Fin shares.length)) (basis : GaloisByte) :
    others.foldlM (fun basis j =>
      if i = j then return basis
      else return gfMul basis (← gfDiv (shares.get j).index
        ((shares.get i).index ^^^ (shares.get j).index)))
      basis.toNat =
        (.ok (basis * (others.map (basisFactor shares i)).prod).toNat : Except String Nat) := by
  induction others generalizing basis with
  | nil => simp [pure, Except.pure]
  | cons j others induction =>
      rw [List.foldlM_cons, List.map_cons, List.prod_cons, ← mul_assoc, ← induction]
      by_cases same : i = j
      · rw [if_pos same, basisFactor, if_pos same, mul_one]
        rfl
      · have nonzero : point shares i + point shares j ≠ 0 := by
          rw [← GaloisByte.sub_eq_add]
          exact sub_ne_zero.mpr fun equal => same (distinct equal)
        rw [if_neg same, basisFactor, if_neg same, GaloisByte.sub_eq_add, zero_add,
          GaloisByte.sub_eq_add, ← toNat_point bytes, ← toNat_point bytes,
          ← GaloisByte.toNat_add, gfDiv_toNat _ nonzero, ← gfMul_toNat]
        rfl

theorem lagrangeBasis_eq_weight (bytes : ∀ share ∈ shares, share.index < 256)
    (distinct : Function.Injective (point shares)) (i : Fin shares.length) :
    lagrangeBasis shares i = .ok (weight (point shares) i).toNat := by
  have fold := lagrangeBasis_fold bytes distinct i (List.finRange shares.length) 1
  have unit : basisFactor shares i i = 1 := if_pos rfl
  rw [one_mul, ← Fin.prod_univ_def, ← Finset.prod_erase _ unit] at fold
  rw [lagrangeBasis]
  have factors : ∏ j ∈ Finset.univ.erase i, basisFactor shares i j =
      weight (point shares) i := by
    apply Finset.prod_congr rfl
    intro j other
    exact if_neg (Finset.ne_of_mem_erase other).symm
  rw [← factors]
  exact fold

theorem reconstructByte_fold (bytes : ∀ share ∈ shares, share.index < 256)
    (distinct : Function.Injective (point shares)) (byteIdx : Nat)
    (indices : List (Fin shares.length)) (sum : GaloisByte) :
    indices.foldlM (fun value i => do
      let basis ← lagrangeBasis shares i
      return value ^^^ gfMul ((shares.get i).data.getD byteIdx 0).val basis) sum.toNat =
        (.ok (sum + (indices.map fun i =>
          shareValue shares byteIdx i * weight (point shares) i).sum).toNat :
            Except String Nat) := by
  induction indices generalizing sum with
  | nil => simp [pure, Except.pure]
  | cons i indices induction =>
      rw [List.foldlM_cons, List.map_cons, List.sum_cons, ← add_assoc, ← induction,
        lagrangeBasis_eq_weight bytes distinct, ← toNat_shareValue, GaloisByte.toNat_add,
        ← gfMul_toNat]
      rfl

/-- Reconstruction of a byte interpolates the shares at zero. -/
theorem reconstructByte_eq_sum (bytes : ∀ share ∈ shares, share.index < 256)
    (distinct : Function.Injective (point shares)) (byteIdx : Nat) :
    reconstructByte shares byteIdx =
      .ok (∑ i, shareValue shares byteIdx i * weight (point shares) i).toNat := by
  have fold := reconstructByte_fold bytes distinct byteIdx (List.finRange shares.length) 0
  rw [zero_add, ← Fin.sum_univ_def] at fold
  exact fold

end Reconstruction

section Shares

variable {secret : List Byte} {totalShards threshold : Nat}

/-- The coefficients of a byte as elements of the field. -/
def elements {count : Nat} (secret : Byte) (random : Fin count → Byte) : List GaloisByte :=
  GaloisByte.ofNat secret.val :: List.ofFn fun i => GaloisByte.ofNat (random i).val

theorem elements_toNat {count : Nat} (secret : Byte) (random : Fin count → Byte) :
    (elements secret random).map GaloisByte.toNat = coefficients secret random := by
  rw [elements, coefficients, List.map_cons, List.map_ofFn,
    GaloisByte.toNat_ofNat secret.isLt]
  congr 2
  funext i
  exact GaloisByte.toNat_ofNat (random i).isLt

/-- The share of a secret that `split` makes for an index. -/
def shareOf (secret : List Byte)
    (random : Fin secret.length → Fin (threshold - 1) → Byte) (index : Nat) : Share :=
  { index := index
    data := List.ofFn fun byteIdx =>
      Fin.ofNat 256 (polyEval (coefficients (secret.get byteIdx) (random byteIdx)) index) }

theorem split_eq_ok (atLeast : 2 ≤ threshold) (within : threshold ≤ totalShards)
    (bound : totalShards ≤ 255)
    (random : Fin secret.length → Fin (threshold - 1) → Byte) :
    split secret totalShards threshold random =
      .ok ((List.range totalShards).map fun i => shareOf secret random (i + 1)) := by
  rw [split, if_neg (by omega), if_neg (by omega), if_neg (by omega)]
  rfl

/-- A byte of a share is the value of the byte's polynomial. -/
theorem shareOf_byte (random : Fin secret.length → Fin (threshold - 1) → Byte)
    {index : Nat} (small : index < 256) (byteIdx : Fin secret.length) :
    GaloisByte.ofNat ((shareOf secret random index).data.getD byteIdx 0).val =
      value (elements secret[byteIdx] (random byteIdx)) (GaloisByte.ofNat index) := by
  have evaluated := polyEval_toNat (elements (secret.get byteIdx) (random byteIdx))
    (GaloisByte.ofNat index)
  rw [elements_toNat, GaloisByte.toNat_ofNat small] at evaluated
  have byte : ((shareOf secret random index).data.getD byteIdx 0).val =
      (value (elements secret[byteIdx] (random byteIdx)) (GaloisByte.ofNat index)).toNat := by
    simp only [shareOf, List.getD_eq_getElem?_getD, List.getElem?_ofFn, Fin.is_lt, dite_true,
      Option.getD_some, Fin.eta, evaluated]
    exact Nat.mod_eq_of_lt (GaloisByte.toNat_lt _)
  rw [byte, GaloisByte.ofNat_toNat]

theorem mapM_ok {Item : Type u} {Result : Type v} {Error : Type w}
    {action : Item → Except Error Result} {result : Item → Result} {items : List Item}
    (succeeds : ∀ item ∈ items, action item = .ok (result item)) :
    items.mapM action = .ok (items.map result) := by
  induction items with
  | nil => rfl
  | cons item items induction =>
      rw [List.mapM_cons, succeeds item List.mem_cons_self,
        induction fun other member => succeeds other (List.mem_cons_of_mem _ member)]
      rfl

/-- Distinct shares of one secret, as many as its threshold, determine its bytes. -/
theorem reconstructByte_shareOf {random : Fin secret.length → Fin (threshold - 1) → Byte}
    (atLeast : 2 ≤ threshold) {chosen : List Share} (unique : chosen.Nodup)
    (made : ∀ share ∈ chosen, share.index < 256 ∧ share = shareOf secret random share.index)
    (enough : threshold ≤ chosen.length) (byteIdx : Fin secret.length) :
    reconstructByte chosen byteIdx = .ok secret[byteIdx].val := by
  have bytes : ∀ share ∈ chosen, share.index < 256 := fun share member => (made share member).1
  have shareAt (i : Fin chosen.length) :
      chosen[i] = shareOf secret random chosen[i].index :=
    (made _ (List.getElem_mem i.isLt)).2
  have distinct : Function.Injective (point chosen) := by
    intro i j equal
    have sameIndex : (chosen.get i).index = (chosen.get j).index := by
      rw [← toNat_point bytes, ← toNat_point bytes, equal]
    have sameShare : chosen[i] = chosen[j] := by
      calc chosen[i] = shareOf secret random chosen[i].index := shareAt i
        _ = shareOf secret random chosen[j].index := congrArg (shareOf secret random) sameIndex
        _ = chosen[j] := (shareAt j).symm
    apply Fin.ext
    exact (List.Nodup.getElem_inj_iff unique).mp sameShare
  have values (i : Fin chosen.length) : shareValue chosen byteIdx i =
      value (elements secret[byteIdx] (random byteIdx)) (point chosen i) := by
    have small : chosen[i].index < 256 := bytes _ (List.getElem_mem i.isLt)
    have byte := shareOf_byte random small byteIdx
    rw [← shareAt i] at byte
    exact byte
  have count : (elements secret[byteIdx] (random byteIdx)).length ≤
      Fintype.card (Fin chosen.length) := by
    simp only [elements, List.length_cons, List.length_ofFn, Fintype.card_fin]
    omega
  rw [reconstructByte_eq_sum bytes distinct]
  simp only [values]
  rw [sum_value_mul_weight distinct count, elements, value, zero_mul, add_zero,
    GaloisByte.toNat_ofNat (Fin.isLt _)]

theorem reconstruct_shareOf {random : Fin secret.length → Fin (threshold - 1) → Byte}
    (atLeast : 2 ≤ threshold) {chosen : List Share} (unique : chosen.Nodup)
    (made : ∀ share ∈ chosen, share.index < 256 ∧ share = shareOf secret random share.index)
    (enough : threshold ≤ chosen.length) : reconstruct chosen = .ok secret := by
  obtain ⟨first, second, rest, rfl⟩ : ∃ first second rest, chosen = first :: second :: rest := by
    match chosen, enough with
    | [], enough => simp at enough; omega
    | [_], enough => simp at enough; omega
    | first :: second :: rest, _ => exact ⟨first, second, rest, rfl⟩
  have length : first.data.length = secret.length := by
    rw [(made first List.mem_cons_self).2, shareOf, List.length_ofFn]
  have recovered : ∀ byteIdx ∈ List.range secret.length,
      (do return Fin.ofNat 256 (← reconstructByte (first :: second :: rest) byteIdx) :
        Except String Byte) = .ok (secret.getD byteIdx 0) := by
    intro byteIdx inRange
    have inside := List.mem_range.mp inRange
    have byte := reconstructByte_shareOf atLeast unique made enough ⟨byteIdx, inside⟩
    rw [byte, List.getD_eq_getElem?_getD, List.getElem?_eq_getElem inside]
    exact congrArg Except.ok (Fin.ext (Nat.mod_eq_of_lt (Fin.isLt _)))
  rw [reconstruct, length, mapM_ok recovered]
  congr 1
  apply List.ext_getElem
  · simp
  · intro byteIdx left right
    simp [right]

/-- The shares that `split` makes are those of the indices from one. -/
theorem mem_split {random : Fin secret.length → Fin (threshold - 1) → Byte} {share : Share} :
    share ∈ (List.range totalShards).map (fun i => shareOf secret random (i + 1)) ↔
      (1 ≤ share.index ∧ share.index ≤ totalShards) ∧
        share = shareOf secret random share.index := by
  rw [List.mem_map]
  constructor
  · intro made
    rcases made with ⟨i, inRange, rfl⟩
    have below := List.mem_range.mp inRange
    exact ⟨⟨Nat.succ_le_succ (Nat.zero_le i), below⟩, rfl⟩
  · intro made
    rcases made with ⟨range, made⟩
    refine ⟨share.index - 1, List.mem_range.mpr (by omega), ?_⟩
    rw [Nat.sub_add_cancel range.1]
    exact made.symm

end Shares

section Secrecy

variable {secret : List Byte} {totalShards threshold : Nat}

/-- Bytes are the elements of the field. -/
def byteEquiv : Byte ≃ GaloisByte where
  toFun byte := GaloisByte.ofNat byte.val
  invFun element := ⟨element.toNat, element.toNat_lt⟩
  left_inv byte := Fin.ext (GaloisByte.toNat_ofNat byte.isLt)
  right_inv element := GaloisByte.ofNat_toNat element

/-- A share is the one made for its index exactly when its bytes are values of the bytes'
polynomials. -/
theorem eq_shareOf_iff (random : Fin secret.length → Fin (threshold - 1) → Byte)
    {share : Share} (small : share.index < 256)
    (length : share.data.length = secret.length) :
    share = shareOf secret random share.index ↔
      ∀ byteIdx : Fin secret.length,
        value (elements secret[byteIdx] (random byteIdx)) (GaloisByte.ofNat share.index) =
          byteEquiv (share.data.getD byteIdx 0) := by
  constructor
  · intro made byteIdx
    rw [← shareOf_byte random small byteIdx, ← made]
    rfl
  · intro values
    have data : share.data = (shareOf secret random share.index).data := by
      apply List.ext_getElem
      · rw [length, shareOf, List.length_ofFn]
      · intro byteIdx left right
        have inside : byteIdx < secret.length := length ▸ left
        have byte := values ⟨byteIdx, inside⟩
        rw [← shareOf_byte random small ⟨byteIdx, inside⟩] at byte
        have equal := byteEquiv.injective byte
        simpa [List.getD_eq_getElem?_getD, left, right] using equal.symm
    exact congrArg (Share.mk share.index) data

/-- The draws of the random coefficients with which `split` hands out the given shares. -/
def consistentDraws (secret : List Byte) (totalShards threshold : Nat)
    (given : Fin (threshold - 1) → Share) :
    Set (Fin secret.length → Fin (threshold - 1) → Byte) :=
  { random | ∃ shares, split secret totalShards threshold random = .ok shares ∧
      ∀ i, given i ∈ shares }

/-- Of one byte, the coefficients that give prescribed values at fewer points by one than the
threshold are unique. -/
theorem existsUnique_random {count : Nat} (secret : Byte) {points values : Fin count → GaloisByte}
    (distinct : Function.Injective points) (nonzero : ∀ i, points i ≠ 0) :
    ∃! random : Fin count → Byte,
      ∀ i, value (elements secret random) (points i) = values i := by
  rw [Equiv.existsUnique_congr (Equiv.piCongrRight fun _ => byteEquiv)
    (q := fun rest => ∀ i, value (byteEquiv secret :: List.ofFn rest) (points i) = values i)]
  · exact existsUnique_rest distinct nonzero _ values
  · intro random
    exact Iff.rfl

/-- Draws hand out the given shares exactly when their polynomials have the shares' values. -/
theorem mem_consistentDraws (atLeast : 2 ≤ threshold) (within : threshold ≤ totalShards)
    (bound : totalShards ≤ 255) {given : Fin (threshold - 1) → Share}
    (indices : ∀ i, 1 ≤ (given i).index ∧ (given i).index ≤ totalShards)
    (lengths : ∀ i, (given i).data.length = secret.length)
    (draw : Fin secret.length → Fin (threshold - 1) → Byte) :
    draw ∈ consistentDraws secret totalShards threshold given ↔
      ∀ (byteIdx : Fin secret.length) (i : Fin (threshold - 1)),
        value (elements secret[byteIdx] (draw byteIdx)) (GaloisByte.ofNat (given i).index) =
          byteEquiv ((given i).data.getD byteIdx 0) := by
  have shareIff (i : Fin (threshold - 1)) :=
    eq_shareOf_iff draw (Nat.lt_of_le_of_lt (indices i).2 (Nat.lt_succ_of_le bound)) (lengths i)
  simp only [consistentDraws, Set.mem_ofPred_eq, split_eq_ok atLeast within bound draw,
    Except.ok.injEq, exists_eq_left', mem_split]
  constructor
  · intro handedOut byteIdx i
    exact (shareIff i).mp (handedOut i).2 byteIdx
  · intro values i
    exact ⟨indices i, (shareIff i).mpr fun byteIdx => values byteIdx i⟩

/-- One share fewer than the threshold says nothing about the secret: whatever the shares
are, every secret fits them for exactly one draw of the coefficients. -/
theorem ncard_consistentDraws (atLeast : 2 ≤ threshold) (within : threshold ≤ totalShards)
    (bound : totalShards ≤ 255) (given : Fin (threshold - 1) → Share)
    (distinct : Function.Injective fun i => (given i).index)
    (indices : ∀ i, 1 ≤ (given i).index ∧ (given i).index ≤ totalShards)
    {length : Nat} (lengths : ∀ i, (given i).data.length = length) :
    ∀ secret : List Byte, secret.length = length →
      (consistentDraws secret totalShards threshold given).ncard = 1 := by
  intro secret secretLength
  have index (i : Fin (threshold - 1)) :
      (GaloisByte.ofNat (given i).index).toNat = (given i).index :=
    GaloisByte.toNat_ofNat (Nat.lt_of_le_of_lt (indices i).2 (Nat.lt_succ_of_le bound))
  have points : Function.Injective fun i => GaloisByte.ofNat (given i).index := by
    intro i j equal
    apply distinct
    change (given i).index = (given j).index
    rw [← index i, ← index j]
    exact congrArg GaloisByte.toNat equal
  have nonzero (i : Fin (threshold - 1)) : GaloisByte.ofNat (given i).index ≠ 0 := by
    intro isZero
    have positive := (indices i).1
    rw [← index i, isZero, GaloisByte.toNat_zero] at positive
    exact absurd positive (by decide)
  have perByte (byteIdx : Fin secret.length) :=
    @existsUnique_random _ secret[byteIdx] _
      (fun i => byteEquiv ((given i).data.getD byteIdx 0)) points nonzero
  choose random fits unique using perByte
  have consistent := @mem_consistentDraws secret _ _ atLeast within bound given indices
    (fun i => (lengths i).trans secretLength.symm)
  rw [Set.ncard_eq_one]
  refine ⟨random, Set.ext fun draw => ?_⟩
  rw [consistent, Set.mem_singleton_iff]
  constructor
  · intro matching
    funext byteIdx
    exact unique byteIdx (draw byteIdx) (matching byteIdx)
  · intro same byteIdx
    rw [same]
    exact fits byteIdx

theorem ncard_consistentDraws_three_of_five :
    (consistentDraws [0x2a] 5 3
      fun i => if i = 0 then ⟨1, [0x91]⟩ else ⟨4, [0x07]⟩).ncard = 1 :=
  ncard_consistentDraws (by decide) (by decide) (by decide) _ (by decide) (by decide)
    (by decide) [0x2a] rfl

end Secrecy

end Annex.Client
