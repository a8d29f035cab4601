import Annex.Foundation.Segments

namespace Annex.Server

open Segments

/-! Stripping of metadata from uploaded images. -/

/-- Markers without length (RST0-RST7, SOI, EOI). -/
def standsAlone (marker : UInt8) : Bool :=
  marker = 0xD8 || marker = 0xD9 || (0xD0 ≤ marker && marker ≤ 0xD7)

/-- APP1 (EXIF, XMP), APP12 (Ducky), APP13 (IPTC, Photoshop) and COM. -/
def isMetadataMarker (marker : UInt8) : Bool :=
  marker = 0xE1 || marker = 0xEC || marker = 0xED || marker = 0xFE

/-- The length of two bytes, the high one first. -/
def segLen (high low : UInt8) : Nat := high.toNat * 256 + low.toNat

/-- What the loop of `strip_jpeg_metadata` does with the bytes from `i` on. -/
def jpegRead : List UInt8 → Reading
  | first :: marker :: tail =>
      -- Not at a marker: copy remaining data as-is.
      if first ≠ 0xFF then .stop true
      -- Start of scan: everything after this is image data.
      else if marker = 0xDA then .stop true
      else if standsAlone marker then .segment 2 true
      else
        match tail with
        | high :: low :: data =>
            let totalLen := segLen high low + 2
            -- Corrupted segment: copy rest as-is.
            if data.length + 4 < totalLen then .stop true
            else .segment totalLen (!isMetadataMarker marker)
        | _ => .stop false
  | _ => .stop false

/-- `tEXt`, `iTXt`, `zTXt` and `eXIf`. -/
def metadataTypes : List (List UInt8) :=
  [[0x74, 0x45, 0x58, 0x74], [0x69, 0x54, 0x58, 0x74], [0x7A, 0x54, 0x58, 0x74],
    [0x65, 0x58, 0x49, 0x66]]

/-- `u32::from_be_bytes` of the first four bytes. -/
def chunkLength : List UInt8 → Nat
  | first :: second :: third :: fourth :: _ =>
      ((first.toNat * 256 + second.toNat) * 256 + third.toNat) * 256 + fourth.toNat
  | _ => 0

def chunkType (rest : List UInt8) : List UInt8 := (rest.drop 4).take 4

/-- Length, type, data and CRC of a chunk. -/
def chunkTotal (rest : List UInt8) : Nat := 12 + chunkLength rest

/-- What the loop of `strip_png_metadata` does with the bytes from `i` on. -/
def pngRead (rest : List UInt8) : Reading :=
  if rest.length < 12 then .stop false
  -- Partial chunk: copy rest.
  else if rest.length < chunkTotal rest then .stop true
  else .segment (chunkTotal rest) (!metadataTypes.contains (chunkType rest))

section JpegMarkers

variable {first marker high low : UInt8} {tail data : List UInt8}

theorem jpegRead_other (other : first ≠ 0xFF) :
    jpegRead (first :: marker :: tail) = .stop true := by
  unfold jpegRead
  dsimp only
  rw [if_pos other]

theorem jpegRead_scan : jpegRead (0xFF :: 0xDA :: tail) = .stop true := rfl

theorem not_standsAlone_scan : ¬ standsAlone 0xDA := by
  decide

theorem jpegRead_alone (alone : standsAlone marker) :
    jpegRead (0xFF :: marker :: tail) = .segment 2 true := by
  have notScan : marker ≠ 0xDA := fun same => not_standsAlone_scan (same ▸ alone)
  unfold jpegRead
  dsimp only
  rw [if_neg (not_not_intro rfl), if_neg notScan, if_pos alone]

/-- A marker with a length is read with the two bytes after it. -/
theorem jpegRead_length (notScan : marker ≠ 0xDA) (notAlone : ¬ standsAlone marker) :
    jpegRead (0xFF :: marker :: high :: low :: data) =
      if data.length + 4 < segLen high low + 2 then .stop true
      else .segment (segLen high low + 2) (!isMetadataMarker marker) := by
  unfold jpegRead
  dsimp only
  rw [if_neg (not_not_intro rfl), if_neg notScan, if_neg notAlone]

theorem jpegRead_short (notScan : marker ≠ 0xDA) (notAlone : ¬ standsAlone marker)
    (short : tail.length < 2) : jpegRead (0xFF :: marker :: tail) = .stop false := by
  unfold jpegRead
  dsimp only
  rw [if_neg (not_not_intro rfl), if_neg notScan, if_neg notAlone]
  match tail, short with
  | [], _ => rfl
  | [_], _ => rfl

end JpegMarkers

/-- The segments of a JPEG file are the markers without length, and those that are there with
the length they declare. -/
theorem jpegRead_segment {rest : List UInt8} {size : Nat} {keep : Bool}
    (found : jpegRead rest = .segment size keep) :
    (∃ marker tail, rest = 0xFF :: marker :: tail ∧ standsAlone marker ∧ size = 2 ∧
        keep = true) ∨
      ∃ marker high low data, rest = 0xFF :: marker :: high :: low :: data ∧
        marker ≠ 0xDA ∧ ¬ standsAlone marker ∧ size = segLen high low + 2 ∧
          size ≤ rest.length ∧ keep = !isMetadataMarker marker := by
  match rest with
  | [] => cases found
  | [_] => cases found
  | first :: marker :: tail =>
      by_cases atMarker : first = 0xFF
      · rw [atMarker] at found ⊢
        by_cases scan : marker = 0xDA
        · rw [scan, jpegRead_scan] at found
          cases found
        · by_cases alone : standsAlone marker
          · rw [jpegRead_alone alone] at found
            cases found
            exact .inl ⟨marker, tail, rfl, alone, rfl, rfl⟩
          · match tail with
            | [] =>
                rw [jpegRead_short scan alone (by simp)] at found
                cases found
            | [_] =>
                rw [jpegRead_short scan alone (by simp)] at found
                cases found
            | high :: low :: data =>
                rw [jpegRead_length scan alone] at found
                split at found
                · cases found
                · next whole =>
                  cases found
                  refine .inr ⟨marker, high, low, data, rfl, scan, alone, rfl, ?_, rfl⟩
                  simp only [List.length_cons]
                  omega
      · rw [jpegRead_other atMarker] at found
        cases found

theorem pngRead_segment {rest : List UInt8} {size : Nat} {keep : Bool}
    (found : pngRead rest = .segment size keep) :
    12 ≤ rest.length ∧ size = chunkTotal rest ∧ chunkTotal rest ≤ rest.length ∧
      keep = !metadataTypes.contains (chunkType rest) := by
  unfold pngRead at found
  split at found
  · cases found
  · split at found
    · cases found
    · cases found
      exact ⟨by omega, rfl, by omega, rfl⟩

/-- The segments of a JPEG file. -/
def jpegReader : Reader UInt8 where
  read := jpegRead
  positive := by
    intro rest size keep found
    rcases jpegRead_segment found with ⟨_, _, _, _, size, _⟩ | ⟨_, _, _, _, _, _, _, size, _⟩ <;>
      omega
  within := by
    intro rest size keep found
    rcases jpegRead_segment found with
      ⟨_, _, rfl, _, rfl, _⟩ | ⟨_, _, _, _, _, _, _, _, fits, _⟩
    · simp
    · exact fits

/-- The chunks of a PNG file. -/
def pngReader : Reader UInt8 where
  read := pngRead
  positive := by
    intro rest size keep found
    rw [(pngRead_segment found).2.1, chunkTotal]
    omega
  within := by
    intro rest size keep found
    rw [(pngRead_segment found).2.1]
    exact (pngRead_segment found).2.2.1

/-- Strips EXIF and other metadata from JPEG files without re-encoding. -/
def stripJpegMetadata : List UInt8 → List UInt8
  | 0xFF :: 0xD8 :: rest => 0xFF :: 0xD8 :: (jpegReader.pass rest).written
  | data => data

def pngSignature : List UInt8 := [137, 80, 78, 71, 13, 10, 26, 10]

/-- Strips metadata chunks from PNG files without re-encoding. -/
def stripPngMetadata (data : List UInt8) : List UInt8 :=
  if data.take 8 = pngSignature then
    -- The bytes from `i` on are copied after the loop, however it ends.
    let pass := pngReader.pass (data.drop 8)
    pngSignature ++ pass.written ++ pass.left
  else
    data

/-- Strips metadata from an image based on its content type. Non-image types are returned
as-is. -/
def stripMetadata (data : List UInt8) (contentType : String) : List UInt8 :=
  match contentType with
  | "image/jpeg" => stripJpegMetadata data
  | "image/png" => stripPngMetadata data
  | _ => data

end Annex.Server
