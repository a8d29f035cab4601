import Annex.Foundation.Slice
import Annex.Server.StrippingStability

namespace Annex.Server

open Segments Reader

/-! Stripping a PNG file takes out its metadata chunks and nothing else, and the walk over the
bytes of any file ends inside of them. -/

/-- The type, the data and the CRC of a chunk. -/
structure PngChunk where
  type : List UInt8
  data : List UInt8
  crc : List UInt8
  typed : type.length = 4
  measured : data.length < 2 ^ 32
  checked : crc.length = 4

/-- The four bytes of a length, the high one first. -/
def u32Bytes (value : Nat) : List UInt8 :=
  [UInt8.ofNat (value / 2 ^ 24), UInt8.ofNat (value / 2 ^ 16), UInt8.ofNat (value / 2 ^ 8),
    UInt8.ofNat value]

def PngChunk.bytes (chunk : PngChunk) : List UInt8 :=
  u32Bytes chunk.data.length ++ (chunk.type ++ (chunk.data ++ chunk.crc))

def PngChunk.isMetadata (chunk : PngChunk) : Bool := metadataTypes.contains chunk.type

/-- The signature followed by chunks. -/
def pngFile (chunks : List PngChunk) : List UInt8 :=
  pngSignature ++ chunks.flatMap PngChunk.bytes

section Chunks

variable {chunk : PngChunk} {rest : List UInt8}

theorem chunkLength_u32Bytes {value : Nat} (small : value < 2 ^ 32) (rest : List UInt8) :
    chunkLength (u32Bytes value ++ rest) = value := by
  unfold u32Bytes
  simp only [List.cons_append, List.nil_append, chunkLength, UInt8.toNat_ofNat']
  omega

theorem PngChunk.length_bytes : chunk.bytes.length = 12 + chunk.data.length := by
  unfold bytes
  simp only [List.length_append, chunk.typed, chunk.checked, u32Bytes, List.length_cons,
    List.length_nil]
  omega

theorem PngChunk.chunkTotal_bytes : chunkTotal (chunk.bytes ++ rest) = chunk.bytes.length := by
  rw [length_bytes, chunkTotal, bytes, List.append_assoc, chunkLength_u32Bytes chunk.measured]

theorem PngChunk.chunkType_bytes : chunkType (chunk.bytes ++ rest) = chunk.type := by
  have header : (u32Bytes chunk.data.length).length = 4 := rfl
  unfold chunkType bytes
  rw [List.append_assoc, List.drop_left' header, List.append_assoc,
    List.take_left' chunk.typed]

/-- A chunk is read as itself. -/
theorem PngChunk.pngRead_bytes :
    pngRead (chunk.bytes ++ rest) = .segment chunk.bytes.length (!chunk.isMetadata) := by
  have length : (chunk.bytes ++ rest).length = chunk.bytes.length + rest.length :=
    List.length_append
  have header : chunk.bytes.length = 12 + chunk.data.length := length_bytes
  unfold pngRead
  rw [chunkTotal_bytes, chunkType_bytes, length, if_neg (by omega), if_neg (by omega)]
  rfl

theorem pngOutput_chunks (chunks : List PngChunk) :
    pngOutput (chunks.flatMap PngChunk.bytes) =
      (chunks.filter fun chunk => !chunk.isMetadata).flatMap PngChunk.bytes := by
  induction chunks with
  | nil => exact pngOutput_whole rfl
  | cons chunk later induction =>
      have found : pngRead (chunk.bytes ++ later.flatMap PngChunk.bytes) =
          .segment chunk.bytes.length (!chunk.isMetadata) :=
        chunk.pngRead_bytes
      rw [List.flatMap_cons, List.filter_cons]
      cases metadata : chunk.isMetadata with
      | true =>
          rw [metadata] at found
          rw [pngOutput_strip found, List.drop_left' rfl, induction]
          rfl
      | false =>
          rw [metadata] at found
          rw [pngOutput_keep found, List.drop_left' rfl, List.take_left' rfl, induction]
          rfl

end Chunks

/-! The walk with its index, as the code computes it. -/

/-- How a turn of the loop goes on: at an index, or not at all. -/
inductive ChunkTurn where
  | goesOn (i : Nat) (result : List UInt8)
  | ended (i : Nat) (result : List UInt8)

section Walk

variable (data : Slice UInt8)

/-- `u32::from_be_bytes` of the four bytes from `i` on. -/
def readLength (i : Nat) : Except Fault Nat := do
  let first ← data.get i
  let second ← data.get (← wordSum i 1)
  let third ← data.get (← wordSum i 2)
  let fourth ← data.get (← wordSum i 3)
  pure (((first.toNat * 256 + second.toNat) * 256 + third.toNat) * 256 + fourth.toNat)

def chunkTurn (i : Nat) (result : List UInt8) : Except Fault ChunkTurn := do
  if data.length < (← wordSum i 12) then
    pure (.ended i result)
  else
    let length ← readLength data i
    let chunkType ← data.range (← wordSum i 4) (← wordSum i 8)
    let total ← wordSum 12 length
    if data.length < (← wordSum i total) then
      -- Partial chunk: copy rest.
      pure (.ended i (result ++ (← data.range i data.length)))
    else if metadataTypes.contains chunkType then
      pure (.goesOn (← wordSum i total) result)
    else
      let chunk ← data.range i (← wordSum i total)
      pure (.goesOn (← wordSum i total) (result ++ chunk))

/-- The loop, as far as the fuel goes. -/
def chunkLoop : Nat → Nat → List UInt8 → Except Fault (Option (Nat × List UInt8))
  | 0, _, _ => pure none
  | fuel + 1, i, result => do
      match ← chunkTurn data i result with
      | .ended i result => pure (some (i, result))
      | .goesOn i result => chunkLoop fuel i result

/-- `strip_png_metadata` on a slice. Nothing is returned when the fuel runs out. -/
def walkPngMetadata (fuel : Nat) : Except Fault (Option (List UInt8)) := do
  if data.length < 8 then
    pure (some data.elements)
  else if (← data.range 0 8) ≠ pngSignature then
    pure (some data.elements)
  else
    match ← chunkLoop data fuel 8 pngSignature with
    | none => pure none
    | some (i, result) =>
        -- Copy any trailing bytes.
        if i < data.length then
          pure (some (result ++ (← data.range i data.length)))
        else
          pure (some result)

end Walk

section Turns

variable {data : Slice UInt8} {i : Nat} {result : List UInt8}

theorem ok_bind {α β : Type} (value : α) (next : α → Except Fault β) :
    (Except.ok value >>= next) = next value := rfl

theorem readLength_eq (header : i + 12 ≤ data.length) :
    readLength data i = .ok (chunkLength (data.elements.drop i)) := by
  have long : 12 ≤ (data.elements.drop i).length := by
    rw [List.length_drop]
    exact Nat.le_sub_of_add_le' header
  match found : data.elements.drop i, long with
  | first :: second :: third :: fourth :: rest, _ =>
      have sums : ∀ offset, offset ≤ 12 → wordSum i offset = .ok (i + offset) :=
        fun offset small => data.wordSum_of_le (by omega)
      have at0 : data.get (i + 0) = .ok first := Slice.get_of_drop (by rw [found]; rfl)
      have at1 : data.get (i + 1) = .ok second := Slice.get_of_drop (by rw [found]; rfl)
      have at2 : data.get (i + 2) = .ok third := Slice.get_of_drop (by rw [found]; rfl)
      have at3 : data.get (i + 3) = .ok fourth := Slice.get_of_drop (by rw [found]; rfl)
      unfold readLength
      rw [show data.get i = .ok first from at0, ok_bind, sums 1 (by decide), ok_bind, at1,
        ok_bind, sums 2 (by decide), ok_bind, at2, ok_bind, sums 3 (by decide), ok_bind, at3]
      rfl

theorem chunkLength_lt (rest : List UInt8) : chunkLength rest < 2 ^ 32 := by
  unfold chunkLength
  split
  · next first second third fourth _ =>
    have bounds := And.intro first.toNat_lt (And.intro second.toNat_lt
      (And.intro third.toNat_lt fourth.toNat_lt))
    omega
  · decide

/-- What a turn does with what it reads at the index. -/
def turnOf (i : Nat) (result rest : List UInt8) : Reading → ChunkTurn
  | .stop copies => .ended i (result ++ if copies then rest else [])
  | .segment size keep => .goesOn (i + size) (result ++ if keep then rest.take size else [])

/-- A turn inside of the slice reads inside of it, and its sums fit. -/
theorem chunkTurn_eq (within : i ≤ data.length) :
    chunkTurn data i result =
      .ok (turnOf i result (data.elements.drop i) (pngRead (data.elements.drop i))) := by
  have lengthRest : (data.elements.drop i).length = data.length - i := List.length_drop
  have short := chunkLength_lt (data.elements.drop i)
  have small : chunkTotal (data.elements.drop i) ≤ 2 ^ 33 := by
    unfold chunkTotal
    omega
  have sums : ∀ offset, offset ≤ 2 ^ 33 → wordSum i offset = .ok (i + offset) :=
    fun offset small => data.wordSum_of_le (by omega)
  unfold chunkTurn pngRead
  rw [sums 12 (by decide), ok_bind]
  by_cases header : data.length < i + 12
  · rw [if_pos header, if_pos (by omega), turnOf, if_neg Bool.false_ne_true, List.append_nil]
    rfl
  · have total : wordSum 12 (chunkLength (data.elements.drop i)) =
        .ok (chunkTotal (data.elements.drop i)) := by
      apply if_pos
      omega
    have typed : data.range (i + 4) (i + 8) = .ok (chunkType (data.elements.drop i)) := by
      rw [Slice.range_of_le (by omega) (by omega), chunkType, List.drop_drop,
        Nat.add_sub_add_left]
    rw [if_neg header, if_neg (by omega), readLength_eq (by omega), ok_bind,
      sums 4 (by decide), ok_bind, sums 8 (by decide), ok_bind, typed, ok_bind, total, ok_bind,
      sums _ small, ok_bind]
    by_cases cutOff : data.length < i + chunkTotal (data.elements.drop i)
    · rw [if_pos cutOff, if_pos (by omega), Slice.range_length within, turnOf, if_pos rfl]
      rfl
    · have whole : ¬ (data.elements.drop i).length < chunkTotal (data.elements.drop i) := by
        omega
      rw [if_neg cutOff, if_neg whole]
      cases metadataTypes.contains (chunkType (data.elements.drop i)) with
      | true =>
          rw [if_pos rfl, turnOf, Bool.not_true, if_neg Bool.false_ne_true, List.append_nil]
          rfl
      | false =>
          rw [if_neg Bool.false_ne_true, ok_bind, Slice.range_of_le (by omega) (by omega),
            ok_bind, Nat.add_sub_cancel_left, turnOf, Bool.not_false, if_pos rfl]
          rfl

/-- With fuel for the bytes that are left, the loop ends where the pass does. -/
theorem chunkLoop_eq (fuel : Nat) (result : List UInt8) (within : i ≤ data.length)
    (enough : data.length - i < fuel) :
    ∃ last, last ≤ data.length ∧
      data.elements.drop last = (pngReader.pass (data.elements.drop i)).left ∧
      chunkLoop data fuel i result =
        .ok (some (last, result ++ (pngReader.pass (data.elements.drop i)).written)) := by
  induction fuel generalizing i result with
  | zero => omega
  | succ fuel induction =>
      rw [chunkLoop, chunkTurn_eq within, ok_bind]
      cases found : pngRead (data.elements.drop i) with
      | stop copies =>
          rw [pass_stop (show pngReader.read _ = _ from found)]
          exact ⟨i, within, rfl, rfl⟩
      | segment size keep =>
          have positive := pngReader.positive _ _ _ found
          have fits := pngReader.within _ _ _ found
          rw [List.length_drop] at fits
          unfold Slice.length at within enough
          rw [pass_segment (show pngReader.read _ = _ from found), List.drop_drop,
            ← List.append_assoc]
          apply induction
          · unfold Slice.length
            omega
          · unfold Slice.length
            omega

end Turns

/-- The walk over any slice ends, stays inside of the slice, and writes what the pass writes. -/
theorem walkPngMetadata_eq (data : Slice UInt8) (fuel : Nat) (enough : data.length ≤ fuel) :
    walkPngMetadata data fuel = .ok (some (stripPngMetadata data.elements)) := by
  unfold walkPngMetadata stripPngMetadata
  by_cases short : data.length < 8
  · have unsigned : data.elements.take 8 ≠ pngSignature := by
      intro same
      have lengths := congrArg List.length same
      rw [List.length_take] at lengths
      change min 8 data.length = 8 at lengths
      omega
    rw [if_pos short, if_neg unsigned]
    rfl
  · have signature : data.range 0 8 = .ok (data.elements.take 8) :=
      Slice.range_of_le (by decide) (by omega)
    rw [if_neg short, signature, ok_bind]
    by_cases image : data.elements.take 8 = pngSignature
    · rcases chunkLoop_eq fuel pngSignature (Nat.le_of_not_lt short) (by omega) with
        ⟨last, within, left, ran⟩
      rw [if_neg (not_not_intro image), if_pos image, ran, ok_bind]
      dsimp only
      by_cases trailing : last < data.length
      · rw [if_pos trailing, Slice.range_length within, ← left]
        rfl
      · have nothing : data.elements.drop last = [] :=
          List.drop_eq_nil_of_le (Nat.le_of_not_lt trailing)
        rw [if_neg trailing, ← left, nothing, List.append_nil]
        rfl
    · rw [if_pos image, if_neg image]
      rfl

/-- Exactly the metadata chunks go, and the walk over any slice ends without leaving it. -/
theorem stripPngMetadata_exact (chunks : List PngChunk) (data : Slice UInt8) (spare : Nat) :
    stripPngMetadata (pngFile chunks) =
        pngFile (chunks.filter fun chunk => !chunk.isMetadata) ∧
      walkPngMetadata data (data.length + spare) =
        .ok (some (stripPngMetadata data.elements)) := by
  constructor
  · rw [pngFile, stripPngMetadata_chunks, pngOutput_chunks, pngFile]
  · exact walkPngMetadata_eq data _ (Nat.le_add_right _ _)

end Annex.Server
