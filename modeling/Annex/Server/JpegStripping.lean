import Annex.Server.StrippingStability

namespace Annex.Server

open Segments Reader

/-! Which JPEG files lose exactly their metadata segments. -/

/-- What stands between the start of a JPEG file and its scan: a fill byte before a marker, a
marker without length (TEM, RST0-RST7), or a segment with its length. -/
inductive JpegPart where
  | fill
  | standAlone (marker : UInt8) (alone : marker = 0x01 ∨ 0xD0 ≤ marker ∧ marker ≤ 0xD7)
  | segment (marker : UInt8) (payload : List UInt8)
      (measured : 0xC0 ≤ marker ∧ marker < 0xD0 ∨ 0xDB ≤ marker ∧ marker ≤ 0xFE)
      (short : payload.length + 2 < 65536)

/-- The two bytes of a length, the high one first. -/
def lengthBytes (length : Nat) : List UInt8 :=
  [UInt8.ofNat (length / 256), UInt8.ofNat (length % 256)]

def JpegPart.bytes : JpegPart → List UInt8
  | .fill => [0xFF]
  | .standAlone marker _ => [0xFF, marker]
  | .segment marker payload _ _ => 0xFF :: marker :: (lengthBytes (payload.length + 2) ++ payload)

/-- APP1, APP12, APP13 and COM segments. -/
def JpegPart.isMetadata : JpegPart → Bool
  | .fill => false
  | .standAlone _ _ => false
  | .segment marker _ _ _ => isMetadataMarker marker

/-- The scan with all that follows it, or the end of an image without one. -/
inductive JpegEnd where
  | scan (data : List UInt8)
  | image

def JpegEnd.bytes : JpegEnd → List UInt8
  | .scan data => 0xFF :: 0xDA :: data
  | .image => [0xFF, 0xD9]

structure JpegFile where
  parts : List JpegPart
  ending : JpegEnd

/-- The bytes of a file after its first marker. -/
def jpegBody (ending : JpegEnd) (parts : List JpegPart) : List UInt8 :=
  parts.flatMap JpegPart.bytes ++ ending.bytes

/-- The bytes that are no metadata. -/
def jpegRemains (ending : JpegEnd) (parts : List JpegPart) : List UInt8 :=
  jpegBody ending (parts.filter fun part => !part.isMetadata)

def JpegFile.bytes (file : JpegFile) : List UInt8 :=
  0xFF :: 0xD8 :: jpegBody file.ending file.parts

/-- The file without its metadata segments. -/
def JpegFile.remains (file : JpegFile) : List UInt8 :=
  0xFF :: 0xD8 :: jpegRemains file.ending file.parts

/-- The walk keeps what it comes to, then leaves out all up to a metadata segment that is cut
off, copies that, and has written what should remain. -/
def Coincides (rest remains : List UInt8) : Prop :=
  ∃ taken middle removed marker tail, rest = taken ++ middle ∧
    jpegReader.Reaches rest 0 middle ∧
    jpegReader.Reaches middle removed (0xFF :: marker :: tail) ∧
    removed + (0xFF :: marker :: tail).length = middle.length ∧
    isMetadataMarker marker ∧ jpegRead (0xFF :: marker :: tail) = .stop true ∧
    taken ++ 0xFF :: marker :: tail = remains

/-- The walk comes to each metadata segment in turn and keeps all in between, and then it keeps
the rest, or what it writes for the rest is right by coincidence. -/
inductive StaysInStep (ending : JpegEnd) : List JpegPart → Prop where
  | last {parts : List JpegPart} (image : ∀ part ∈ parts, part.isMetadata = false)
      (keeps : jpegReader.Keeps CopiesAll (jpegBody ending parts)) : StaysInStep ending parts
  | next {before after : List JpegPart} {part : JpegPart}
      (image : ∀ other ∈ before, other.isMetadata = false) (metadata : part.isMetadata = true)
      (reaches : jpegReader.Reaches (jpegBody ending (before ++ part :: after)) 0
        (jpegBody ending (part :: after)))
      (later : StaysInStep ending after) : StaysInStep ending (before ++ part :: after)
  | coincidence {parts : List JpegPart}
      (coincides : Coincides (jpegBody ending parts) (jpegRemains ending parts)) :
      StaysInStep ending parts

section Parts

variable {ending : JpegEnd} {part : JpegPart} {before parts : List JpegPart}
  {marker : UInt8} {payload rest : List UInt8}

theorem jpegBody_append :
    jpegBody ending (before ++ parts) =
      before.flatMap JpegPart.bytes ++ jpegBody ending parts := by
  rw [jpegBody, List.flatMap_append, List.append_assoc, jpegBody]

theorem jpegBody_cons : jpegBody ending (part :: parts) = part.bytes ++ jpegBody ending parts := by
  rw [jpegBody, List.flatMap_cons, List.append_assoc, jpegBody]

theorem not_isMetadataMarker_fill : ¬ isMetadataMarker 0xFF := by
  decide

theorem segLen_lengthBytes {length : Nat} (short : length < 65536) :
    segLen (UInt8.ofNat (length / 256)) (UInt8.ofNat (length % 256)) = length := by
  rw [segLen, UInt8.toNat_ofNat', UInt8.toNat_ofNat']
  omega

/-- A segment is read as a whole. -/
theorem jpegRead_part (measured : 0xC0 ≤ marker ∧ marker < 0xD0 ∨ 0xDB ≤ marker ∧ marker ≤ 0xFE)
    (short : payload.length + 2 < 65536) (rest : List UInt8) :
    jpegRead ((JpegPart.segment marker payload measured short).bytes ++ rest) =
      .segment (JpegPart.segment marker payload measured short).bytes.length
        (!isMetadataMarker marker) := by
  have notScan : marker ≠ 0xDA := by
    grind
  have notAlone : ¬ standsAlone marker := by
    grind [standsAlone]
  rw [JpegPart.bytes, lengthBytes]
  simp only [List.cons_append, List.nil_append]
  rw [jpegRead_length notScan notAlone, segLen_lengthBytes short, if_neg]
  · simp only [List.length_cons]
  · rw [List.length_append]
    omega

/-- A metadata segment is left out. -/
theorem jpegOutput_metadata (metadata : part.isMetadata = true) (rest : List UInt8) :
    jpegRead (part.bytes ++ rest) = .segment part.bytes.length false ∧
      jpegOutput (part.bytes ++ rest) = jpegOutput rest := by
  cases part with
  | fill => cases metadata
  | standAlone => cases metadata
  | segment marker payload measured short =>
      have found := jpegRead_part measured short rest
      rw [show isMetadataMarker marker = true from metadata] at found
      refine ⟨found, ?_⟩
      rw [jpegOutput_strip found, List.drop_left' rfl]

/-- Nothing that is no metadata begins like a metadata segment. -/
theorem jpegBody_start (image : ∀ part ∈ parts, part.isMetadata = false) :
    ∃ marker tail, jpegBody ending parts = 0xFF :: marker :: tail ∧
      ¬ isMetadataMarker marker := by
  induction parts with
  | nil =>
      cases ending with
      | scan data => exact ⟨0xDA, data, rfl, by decide⟩
      | image => exact ⟨0xD9, [], rfl, by decide⟩
  | cons part rest induction =>
      rw [jpegBody_cons]
      cases part with
      | fill =>
          rcases induction fun other member => image other (List.mem_cons_of_mem _ member) with
            ⟨marker, tail, body, _⟩
          exact ⟨0xFF, marker :: tail, congrArg (0xFF :: ·) body, by decide⟩
      | standAlone marker alone =>
          exact ⟨marker, jpegBody ending rest, rfl, by grind [isMetadataMarker]⟩
      | segment marker payload measured short =>
          have kept := image _ List.mem_cons_self
          refine ⟨marker, _, rfl, ?_⟩
          rw [show isMetadataMarker marker = false from kept]
          exact Bool.false_ne_true

theorem jpegRemains_start (ending : JpegEnd) (parts : List JpegPart) :
    ∃ marker tail, jpegRemains ending parts = 0xFF :: marker :: tail ∧
      ¬ isMetadataMarker marker := by
  refine jpegBody_start fun part member => ?_
  simpa using (List.mem_filter.mp member).2

theorem metadata_start (metadata : part.isMetadata = true) :
    ∃ marker tail, part.bytes = 0xFF :: marker :: tail ∧ isMetadataMarker marker ∧
      2 ≤ tail.length := by
  cases part with
  | fill => cases metadata
  | standAlone => cases metadata
  | segment marker payload measured short =>
      refine ⟨marker, _, rfl, metadata, ?_⟩
      rw [List.length_append]
      exact Nat.le_add_right 2 _

theorem jpegRemains_image (image : ∀ part ∈ parts, part.isMetadata = false) :
    jpegRemains ending parts = jpegBody ending parts := by
  rw [jpegRemains, List.filter_eq_self.mpr]
  intro part member
  rw [image part member]
  rfl

theorem jpegRemains_next (image : ∀ other ∈ before, other.isMetadata = false)
    (metadata : part.isMetadata = true) :
    jpegRemains ending (before ++ part :: parts) =
      before.flatMap JpegPart.bytes ++ jpegRemains ending parts := by
  rw [jpegRemains, List.filter_append, List.filter_cons, metadata, jpegBody_append,
    List.filter_eq_self.mpr]
  · rfl
  · intro other member
    rw [image other member]
    rfl

end Parts

section Walk

variable {marker : UInt8} {tail rest : List UInt8}

theorem jpegRead_start {size : Nat} {keep : Bool} (found : jpegRead rest = .segment size keep) :
    ∃ marker tail, rest = 0xFF :: marker :: tail ∧ 2 ≤ size ∧
      keep = !isMetadataMarker marker := by
  rcases jpegRead_segment found with ⟨marker, tail, rfl, alone, rfl, rfl⟩ |
    ⟨marker, high, low, data, rfl, _, _, rfl, _, kept⟩
  · exact ⟨marker, tail, rfl, Nat.le_refl 2, by grind [standsAlone, isMetadataMarker]⟩
  · exact ⟨marker, _, rfl, Nat.le_add_left 2 _, kept⟩

/-- What is written for a kept segment begins with its marker. -/
theorem jpegOutput_keep_start {size : Nat} (found : jpegRead rest = .segment size true) :
    ∃ marker tail, jpegOutput rest = 0xFF :: marker :: tail ∧ ¬ isMetadataMarker marker := by
  rcases jpegRead_start found with ⟨marker, tail, rfl, long, kept⟩
  rcases Nat.exists_eq_add_of_le' long with ⟨count, rfl⟩
  rw [jpegOutput_keep found, List.take_succ_cons, List.take_succ_cons]
  exact ⟨marker, _, rfl, by simpa using kept⟩

/-- An output that begins like a metadata segment is the copy of a segment that is cut off, with
all before it left out. -/
theorem jpegOutput_cut (rest : List UInt8) (metadata : isMetadataMarker marker)
    (written : jpegOutput rest = 0xFF :: marker :: tail) :
    ∃ removed, jpegReader.Reaches rest removed (0xFF :: marker :: tail) ∧
      removed + (0xFF :: marker :: tail).length = rest.length ∧
        jpegRead (0xFF :: marker :: tail) = .stop true := by
  induction rest using jpegReader.pass_induction with
  | stop rest copies found =>
      cases copies with
      | true =>
          rw [jpegOutput_copy found] at written
          rw [← written]
          exact ⟨0, .start rest, Nat.zero_add _, found⟩
      | false =>
          rw [jpegOutput_drop found] at written
          cases written
  | segment rest size keep found induction =>
      have within := jpegReader.within rest size keep found
      cases keep with
      | true =>
          rcases jpegOutput_keep_start found with ⟨other, more, writtenToo, image⟩
          cases writtenToo.symm.trans written
          exact absurd metadata image
      | false =>
          rw [jpegOutput_strip found] at written
          rcases induction written with ⟨removed, reaches, all, cut⟩
          refine ⟨size + removed, .strip found reaches, ?_, cut⟩
          rw [List.length_drop] at all
          omega

theorem Coincides.keep {size : Nat} {remains : List UInt8}
    (found : jpegRead rest = .segment size true)
    (coincides : Coincides (rest.drop size) remains) :
    Coincides rest (rest.take size ++ remains) := by
  rcases coincides with
    ⟨taken, middle, removed, marker, tail, whole, keeps, strips, all, metadata, cut, written⟩
  refine ⟨rest.take size ++ taken, middle, removed, marker, tail, ?_, .keep found keeps, strips,
    all, metadata, cut, ?_⟩
  · rw [List.append_assoc, ← whole, List.take_append_drop]
  · rw [List.append_assoc, written]

/-- A kept segment does not run into a metadata segment where the right bytes are written. -/
theorem size_le_of_written {before coreTail remainsTail : List UInt8} {size : Nat}
    {marker image : UInt8} (metadata : isMetadataMarker marker) (more : coreTail ≠ [])
    (notMetadata : ¬ isMetadataMarker image)
    (written : (before ++ 0xFF :: marker :: coreTail).take size ++
      jpegOutput ((before ++ 0xFF :: marker :: coreTail).drop size) =
        before ++ 0xFF :: image :: remainsTail) : size ≤ before.length := by
  have different : marker ≠ image := fun same => notMetadata (same ▸ metadata)
  by_contra beyond
  rcases Nat.exists_eq_add_of_lt (Nat.lt_of_not_le beyond) with ⟨count, rfl⟩
  rw [Nat.add_assoc, List.take_length_add_append, List.drop_length_add_append,
    List.append_assoc, List.append_cancel_left_eq, List.take_succ_cons, List.drop_succ_cons,
    List.cons_append, List.cons_inj_right] at written
  cases count with
  | zero =>
      have copied : jpegRead (marker :: coreTail) = .stop true := by
        rcases List.exists_cons_of_ne_nil more with ⟨next, later, rfl⟩
        exact jpegRead_other fun same => not_isMetadataMarker_fill (same ▸ metadata)
      rw [List.take_zero, List.nil_append, List.drop_zero, jpegOutput_copy copied] at written
      cases written
      exact different rfl
  | succ count =>
      rw [List.take_succ_cons, List.cons_append] at written
      cases written
      exact different rfl

/-- Where a walk writes the right bytes, it comes to the next metadata segment, or the bytes are
right by coincidence. -/
theorem reaches_metadata {before coreTail remainsTail : List UInt8} {marker image : UInt8}
    (metadata : isMetadataMarker marker) (more : coreTail ≠ [])
    (notMetadata : ¬ isMetadataMarker image)
    (written : jpegOutput (before ++ 0xFF :: marker :: coreTail) =
      before ++ 0xFF :: image :: remainsTail) :
    jpegReader.Reaches (before ++ 0xFF :: marker :: coreTail) 0 (0xFF :: marker :: coreTail) ∨
      Coincides (before ++ 0xFF :: marker :: coreTail) (before ++ 0xFF :: image :: remainsTail) := by
  have different : marker ≠ image := fun same => notMetadata (same ▸ metadata)
  generalize whole : before ++ 0xFF :: marker :: coreTail = rest at written ⊢
  induction rest using jpegReader.pass_induction generalizing before with
  | stop rest copies found =>
      cases copies with
      | true =>
          rw [jpegOutput_copy found, ← whole, List.append_cancel_left_eq] at written
          cases written
          exact absurd rfl different
      | false =>
          rw [jpegOutput_drop found] at written
          exact absurd written.symm (List.append_ne_nil_of_right_ne_nil _ (List.cons_ne_nil _ _))
  | segment rest size keep found induction =>
      cases keep with
      | true =>
          rw [jpegOutput_keep found] at written
          have fits : size ≤ before.length := by
            rw [← whole] at written
            exact size_le_of_written metadata more notMetadata written
          have same : rest.take size = before.take size := by
            rw [← whole, List.take_append_of_le_length fits]
          have left : rest.drop size = before.drop size ++ 0xFF :: marker :: coreTail := by
            rw [← whole, List.drop_append_of_le_length fits]
          have parts : before ++ 0xFF :: image :: remainsTail =
              rest.take size ++ (before.drop size ++ 0xFF :: image :: remainsTail) := by
            rw [same, ← List.append_assoc, List.take_append_drop]
          rw [parts, List.append_cancel_left_eq] at written
          rcases induction left.symm written with reaches | coincides
          · exact .inl (.keep found reaches)
          · rw [parts]
            exact .inr (coincides.keep found)
      | false =>
          rcases jpegRead_start found with ⟨other, tail, start, -, kept⟩
          have metadataToo : isMetadataMarker other := by simpa using kept
          rw [start] at whole
          match before with
          | [] =>
              rw [start, ← whole]
              exact .inl (.start _)
          | [first] =>
              cases whole
              exact absurd metadataToo not_isMetadataMarker_fill
          | first :: second :: before =>
              cases whole
              rcases jpegOutput_cut rest metadataToo written with ⟨removed, reaches, all, cut⟩
              exact .inr ⟨[], rest, removed, _, _, rfl, .start rest, reaches, all, metadataToo,
                cut, rfl⟩

theorem Coincides.written {rest remains : List UInt8} (coincides : Coincides rest remains) :
    jpegOutput rest = remains := by
  rcases coincides with
    ⟨taken, middle, removed, marker, tail, whole, keeps, strips, all, -, cut, written⟩
  rcases keeps.written_of_zero with ⟨takenToo, wholeToo, output⟩
  have same : takenToo = taken := List.append_cancel_right (wholeToo.symm.trans whole)
  have copied := jpegOutput_copy cut
  rw [jpegOutput, ← strips.written_of_all all] at copied
  rw [jpegOutput, output, copied, same, written]

end Walk

section Files

variable {ending : JpegEnd} {part : JpegPart} {before after parts : List JpegPart}

/-- A walk that comes to a metadata segment leaves it out. -/
theorem jpegOutput_next (metadata : part.isMetadata = true)
    (reaches : jpegReader.Reaches (jpegBody ending (before ++ part :: after)) 0
      (jpegBody ending (part :: after))) :
    jpegOutput (jpegBody ending (before ++ part :: after)) =
      before.flatMap JpegPart.bytes ++ jpegOutput (jpegBody ending after) := by
  rcases reaches.written_of_zero with ⟨taken, whole, output⟩
  rw [jpegBody_append] at whole
  have same := List.append_cancel_right whole
  have stripped := (jpegOutput_metadata metadata (jpegBody ending after)).2
  rw [← jpegBody_cons] at stripped
  rw [← stripped, same]
  exact output

theorem jpegOutput_of_staysInStep (stays : StaysInStep ending parts) :
    jpegOutput (jpegBody ending parts) = jpegRemains ending parts := by
  induction stays with
  | last image keeps => rw [(jpegOutput_eq_self _).mpr keeps, jpegRemains_image image]
  | @next before after part image metadata reaches later induction =>
      rw [jpegOutput_next metadata reaches, induction, jpegRemains_next image metadata]
  | coincidence coincides => exact coincides.written

theorem exists_metadata (metadata : ¬ ∀ part ∈ parts, part.isMetadata = false) :
    ∃ before part after, parts = before ++ part :: after ∧ part.isMetadata = true ∧
      ∀ other ∈ before, other.isMetadata = false := by
  induction parts with
  | nil => exact absurd nofun metadata
  | cons first rest induction =>
      cases here : first.isMetadata with
      | true => exact ⟨[], first, rest, rfl, here, nofun⟩
      | false =>
          have later : ¬ ∀ part ∈ rest, part.isMetadata = false := by
            intro image
            refine metadata fun part member => ?_
            rcases List.mem_cons.mp member with same | member
            · rw [same, here]
            · exact image part member
          rcases induction later with ⟨before, part, after, split, found, image⟩
          refine ⟨first :: before, part, after, ?_, found, ?_⟩
          · rw [split, List.cons_append]
          · intro other member
            rcases List.mem_cons.mp member with same | member
            · rw [same, here]
            · exact image other member

theorem staysInStep_of_written
    (written : jpegOutput (jpegBody ending parts) = jpegRemains ending parts) :
    StaysInStep ending parts := by
  induction count : parts.length using Nat.strongRecOn generalizing parts with
  | ind count induction =>
      by_cases image : ∀ part ∈ parts, part.isMetadata = false
      · rw [jpegRemains_image image] at written
        exact .last image ((jpegOutput_eq_self _).mp written)
      · rcases exists_metadata image with ⟨before, part, after, rfl, metadata, others⟩
        rcases metadata_start metadata with ⟨marker, tail, start, isMetadata, long⟩
        rcases jpegRemains_start ending after with ⟨first, later, remains, notMetadata⟩
        have body : jpegBody ending (part :: after) =
            0xFF :: marker :: (tail ++ jpegBody ending after) := by
          rw [jpegBody_cons, start]
          rfl
        have more : tail ++ jpegBody ending after ≠ [] := by
          intro nothing
          have lengths := congrArg List.length nothing
          rw [List.length_append, List.length_nil] at lengths
          omega
        have split := written
        rw [jpegBody_append, body, jpegRemains_next others metadata, remains] at split
        rcases reaches_metadata isMetadata more notMetadata split with reaches | coincides
        · rw [← body, ← jpegBody_append] at reaches
          refine .next others metadata reaches (induction after.length ?_ ?_ rfl)
          · rw [← count, List.length_append, List.length_cons]
            omega
          · rw [jpegOutput_next metadata reaches, jpegRemains_next others metadata,
              List.append_cancel_left_eq] at written
            exact written
        · rw [← body, ← jpegBody_append, ← remains, ← jpegRemains_next others metadata]
            at coincides
          exact .coincidence coincides

/-- A JPEG file loses exactly its metadata segments where the walk stays in step, and nowhere
else. -/
theorem stripJpegMetadata_exact (file : JpegFile) :
    stripJpegMetadata file.bytes = file.remains ↔ StaysInStep file.ending file.parts := by
  have once : stripJpegMetadata file.bytes =
      0xFF :: 0xD8 :: jpegOutput (jpegBody file.ending file.parts) := rfl
  rw [once, JpegFile.remains, List.cons_inj_right, List.cons_inj_right]
  exact ⟨staysInStep_of_written, jpegOutput_of_staysInStep⟩

/-- The walk knows the part: it is no fill byte and no TEM. -/
def JpegPart.isRegular : JpegPart → Bool
  | .fill => false
  | .standAlone marker _ => marker ≠ 0x01
  | .segment _ _ _ _ => true

theorem jpegOutput_end (ending : JpegEnd) : jpegOutput ending.bytes = ending.bytes := by
  cases ending with
  | scan data => exact jpegOutput_copy jpegRead_scan
  | image =>
      have found : jpegRead [0xFF, 0xD9] = .segment 2 true := jpegRead_alone (by decide)
      have nothing : jpegOutput [] = [] := jpegOutput_drop rfl
      exact (jpegOutput_keep found).trans (congrArg ([0xFF, 0xD9] ++ ·) nothing)

/-- Each regular part is kept, or left out as metadata. -/
theorem jpegOutput_regular (regular : ∀ part ∈ parts, part.isRegular = true) :
    jpegOutput (jpegBody ending parts) = jpegRemains ending parts := by
  induction parts with
  | nil => exact jpegOutput_end ending
  | cons part rest induction =>
      have later := induction fun other member => regular other (List.mem_cons_of_mem _ member)
      have here := regular part List.mem_cons_self
      cases metadata : part.isMetadata with
      | true =>
          rw [jpegBody_cons, (jpegOutput_metadata metadata _).2, later]
          have none : ∀ other ∈ ([] : List JpegPart), other.isMetadata = false := nofun
          exact (jpegRemains_next none metadata).symm
      | false =>
          have kept : jpegRead (part.bytes ++ jpegBody ending rest) =
              .segment part.bytes.length true := by
            cases part with
            | fill => cases here
            | standAlone marker alone =>
                exact jpegRead_alone (by grind [standsAlone, JpegPart.isRegular])
            | segment marker payload measured short =>
                have found := jpegRead_part measured short (jpegBody ending rest)
                rw [show isMetadataMarker marker = false from metadata] at found
                exact found
          rw [jpegBody_cons, jpegOutput_keep kept, List.take_left' rfl, List.drop_left' rfl,
            later, jpegRemains, jpegRemains, List.filter_cons, metadata]
          exact jpegBody_cons.symm

/-- Without fill bytes and TEM before the scan the metadata segments are removed and nothing
else. -/
theorem stripJpegMetadata_regular (file : JpegFile)
    (regular : ∀ part ∈ file.parts, part.isRegular = true) :
    stripJpegMetadata file.bytes = file.remains :=
  congrArg (0xFF :: 0xD8 :: ·) (jpegOutput_regular regular)

end Files

namespace Sample

/-- A fill byte, an APP1 segment that holds `Exif`, and a scan. -/
def filledImage : JpegFile where
  parts := [.fill, .segment 0xE1 [0x45, 0x78, 0x69, 0x66] (by decide) (by decide)]
  ending := .scan [0x00, 0x02, 0x01, 0x02, 0x03]

/-- The EXIF segment is kept. -/
theorem filledImage_not_stripped :
    ¬ stripJpegMetadata filledImage.bytes = filledImage.remains := by
  decide +kernel

end Sample

end Annex.Server
