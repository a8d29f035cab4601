import Annex.Server.MetadataStripping

namespace Annex.Server

open Segments Reader

/-! When stripping the metadata of a file again changes nothing, and the file never grows. -/

section Chunks

variable {start rest : List UInt8} {size : Nat} {keep : Bool}

theorem chunkLength_append (other : List UInt8) (long : 4 ≤ start.length) :
    chunkLength (start ++ other) = chunkLength start := by
  match start, long with
  | _ :: _ :: _ :: _ :: _, _ => rfl

theorem chunkTotal_append (other : List UInt8) (long : 4 ≤ start.length) :
    chunkTotal (start ++ other) = chunkTotal start := by
  rw [chunkTotal, chunkTotal, chunkLength_append other long]

theorem chunkType_append (other : List UInt8) (long : 8 ≤ start.length) :
    chunkType (start ++ other) = chunkType start := by
  rw [chunkType, chunkType, List.drop_append_of_le_length (by omega),
    List.take_append_of_le_length]
  rw [List.length_drop]
  omega

theorem pngRead_cutOff (found : pngRead rest = .stop true) :
    12 ≤ rest.length ∧ rest.length < chunkTotal rest := by
  unfold pngRead at found
  split at found
  · cases found
  · split at found
    · exact ⟨by omega, by assumption⟩
    · cases found

/-- A chunk is read alike whatever follows it. -/
theorem pngRead_take (found : pngRead rest = .segment size keep) (other : List UInt8) :
    pngRead (rest.take size ++ other) = .segment size keep ∧
      chunkType (rest.take size ++ other) = chunkType rest ∧
      chunkTotal (rest.take size ++ other) = chunkTotal rest := by
  rcases pngRead_segment found with ⟨_, total, whole, kept⟩
  have positive : 12 ≤ size := by
    rw [total, chunkTotal]
    omega
  have length : (rest.take size).length = size := by
    rw [List.length_take]
    omega
  have same : rest.take size ++ rest.drop size = rest := List.take_append_drop size rest
  have sameTotal : chunkTotal (rest.take size ++ other) = chunkTotal rest := by
    rw [chunkTotal_append other (by omega), ← chunkTotal_append (rest.drop size) (by omega), same]
  have sameType : chunkType (rest.take size ++ other) = chunkType rest := by
    rw [chunkType_append other (by omega), ← chunkType_append (rest.drop size) (by omega), same]
  refine ⟨?_, sameType, sameTotal⟩
  unfold pngRead
  rw [sameTotal, sameType, ← total, List.length_append, length, if_neg (by omega),
    if_neg (by omega), kept]

/-- The bytes written for the chunks and after them. -/
def pngOutput (rest : List UInt8) : List UInt8 :=
  (pngReader.pass rest).written ++ (pngReader.pass rest).left

theorem pngOutput_whole (found : pngRead rest = .stop false) : pngOutput rest = rest := by
  rw [pngOutput, pass_stop (show pngReader.read rest = _ from found)]
  rfl

theorem pngOutput_cutOff (found : pngRead rest = .stop true) :
    pngOutput rest = rest ++ rest := by
  rw [pngOutput, pass_stop (show pngReader.read rest = _ from found)]
  rfl

theorem pngOutput_keep (found : pngRead rest = .segment size true) :
    pngOutput rest = rest.take size ++ pngOutput (rest.drop size) := by
  rw [pngOutput, pass_segment (show pngReader.read rest = _ from found), pngOutput,
    List.append_assoc]
  rfl

theorem pngOutput_strip (found : pngRead rest = .segment size false) :
    pngOutput rest = pngOutput (rest.drop size) := by
  rw [pngOutput, pass_segment (show pngReader.read rest = _ from found), pngOutput]
  rfl

/-- An output that begins like a metadata chunk is too short for that chunk and what the output
was made of. -/
theorem pngOutput_length_lt (rest : List UInt8) (long : 12 ≤ (pngOutput rest).length)
    (metadata : metadataTypes.contains (chunkType (pngOutput rest))) :
    (pngOutput rest).length < chunkTotal (pngOutput rest) + rest.length := by
  induction rest using pngReader.pass_induction with
  | stop rest copies found =>
      cases copies with
      | false =>
          rw [pngOutput_whole found] at long ⊢
          rw [chunkTotal]
          omega
      | true =>
          have cut := pngRead_cutOff found
          rw [pngOutput_cutOff found, List.length_append, chunkTotal_append rest (by omega)]
          omega
  | segment rest size keep found induction =>
      cases keep with
      | true =>
          have taken := pngRead_take found (pngOutput (rest.drop size))
          rw [pngOutput_keep found, taken.2.1] at metadata
          have kept := (pngRead_segment found).2.2.2
          rw [metadata] at kept
          cases kept
      | false =>
          rw [pngOutput_strip found] at long metadata ⊢
          have shorter := pngReader.drop_length_lt found
          have bound := induction long metadata
          omega

/-- No chunk is left out, and none is cut off. -/
def KeepsAllChunks (rest : List UInt8) : Prop :=
  pngReader.Keeps (fun left => pngRead left = .stop false) rest

/-- The output is the input where all chunks are kept, and nowhere else. -/
theorem pngOutput_eq_self (rest : List UInt8) : pngOutput rest = rest ↔ KeepsAllChunks rest := by
  have stops : ∀ left, pngRead left = .stop false →
      ∃ copies, pngReader.read left = .stop copies := fun _ whole => ⟨false, whole⟩
  induction rest using pngReader.pass_induction with
  | stop rest copies found =>
      rw [KeepsAllChunks, keeps_stop found]
      cases copies with
      | false => exact ⟨fun _ => found, fun _ => pngOutput_whole found⟩
      | true =>
          have cut := pngRead_cutOff found
          rw [pngOutput_cutOff found]
          constructor
          · intro same
            have lengths := congrArg List.length same
            rw [List.length_append] at lengths
            omega
          · intro whole
            exact absurd (whole.symm.trans found) nofun
  | segment rest size keep found induction =>
      cases keep with
      | true =>
          rw [pngOutput_keep found]
          exact take_append_eq_self.trans (induction.trans (keeps_keep stops found).symm)
      | false =>
          rw [KeepsAllChunks, iff_false_intro (not_keeps_strip stops found), iff_false]
          intro same
          rcases pngRead_segment found with ⟨long, total, whole, kept⟩
          have metadata : metadataTypes.contains (chunkType rest) := by
            rw [← Bool.not_eq_false', ← kept]
          rw [pngOutput_strip found] at same
          have bound := pngOutput_length_lt (rest.drop size)
          rw [same, List.length_drop, ← total] at bound
          have less := bound long metadata
          omega

/-- The output has no chunk to strip and no partial chunk, unless the input ends in one. -/
theorem keepsAllChunks_pngOutput (rest : List UInt8) :
    KeepsAllChunks (pngOutput rest) ↔ pngRead (pngReader.pass rest).left = .stop false ∨
      KeepsAllChunks ((pngReader.pass rest).left ++ (pngReader.pass rest).left) := by
  have stops : ∀ left, pngRead left = .stop false →
      ∃ copies, pngReader.read left = .stop copies := fun _ whole => ⟨false, whole⟩
  induction rest using pngReader.pass_induction with
  | stop rest copies found =>
      rw [pass_stop found]
      cases copies with
      | false =>
          rw [pngOutput_whole found]
          exact ⟨fun _ => .inl found, fun _ => (keeps_stop found).mpr found⟩
      | true =>
          rw [pngOutput_cutOff found]
          refine ⟨.inr, fun ends => ends.resolve_left fun whole => ?_⟩
          exact absurd (whole.symm.trans found) nofun
  | segment rest size keep found induction =>
      rw [pass_segment found]
      refine Iff.trans ?_ induction
      cases keep with
      | true =>
          have taken := (pngRead_take found (pngOutput (rest.drop size))).1
          have within := pngReader.within rest size true found
          have length : (rest.take size).length = size := by
            rw [List.length_take]
            omega
          rw [pngOutput_keep found, KeepsAllChunks, keeps_keep stops taken, List.drop_left' length]
          rfl
      | false => rw [pngOutput_strip found]

/-- The file ends in whole chunks. Or it ends in a partial one, which is no longer than what is
stripped before it and which, written twice, makes whole chunks that are kept. -/
def PngStable (rest : List UInt8) : Prop :=
  ∃ removed left, pngReader.Reaches rest removed left ∧
    (pngRead left = .stop false ∨
      pngRead left = .stop true ∧ left.length ≤ removed ∧ KeepsAllChunks (left ++ left))

theorem pngOutput_stable (rest : List UInt8) :
    (pngOutput rest).length ≤ rest.length ∧ pngOutput (pngOutput rest) = pngOutput rest ↔
      PngStable rest := by
  rcases pngReader.exists_reaches rest with ⟨removed, copies, reaches, stops, lengths⟩
  rw [pngOutput_eq_self, keepsAllChunks_pngOutput, pngOutput, List.length_append]
  cases copies with
  | false =>
      rw [if_neg Bool.false_ne_true] at lengths
      constructor
      · intro _
        exact ⟨removed, _, reaches, .inl stops⟩
      · intro _
        exact ⟨by omega, .inl stops⟩
  | true =>
      rw [if_pos rfl] at lengths
      constructor
      · intro stable
        refine ⟨removed, _, reaches, .inr ⟨stops, by omega, stable.2.resolve_left ?_⟩⟩
        exact fun whole => absurd (whole.symm.trans stops) nofun
      · intro stable
        rcases stable with ⟨other, last, reachesToo, whole | ⟨cut, short, twice⟩⟩
        · have same := (reaches.unique stops reachesToo whole).2
          rw [same] at whole
          exact absurd (whole.symm.trans stops) nofun
        · rcases reaches.unique stops reachesToo cut with ⟨sameRemoved, same⟩
          rw [same] at short twice
          exact ⟨by omega, .inr twice⟩

end Chunks

section JpegSegments

variable {rest : List UInt8} {size : Nat} {keep : Bool}

/-- The bytes written for the segments. -/
def jpegOutput (rest : List UInt8) : List UInt8 := (jpegReader.pass rest).written

theorem jpegOutput_copy (found : jpegRead rest = .stop true) : jpegOutput rest = rest := by
  rw [jpegOutput, pass_stop (show jpegReader.read rest = _ from found)]
  rfl

theorem jpegOutput_drop (found : jpegRead rest = .stop false) : jpegOutput rest = [] := by
  rw [jpegOutput, pass_stop (show jpegReader.read rest = _ from found)]
  rfl

theorem jpegOutput_keep (found : jpegRead rest = .segment size true) :
    jpegOutput rest = rest.take size ++ jpegOutput (rest.drop size) := by
  rw [jpegOutput, pass_segment (show jpegReader.read rest = _ from found), jpegOutput]
  rfl

theorem jpegOutput_strip (found : jpegRead rest = .segment size false) :
    jpegOutput rest = jpegOutput (rest.drop size) := by
  rw [jpegOutput, pass_segment (show jpegReader.read rest = _ from found), jpegOutput]
  rfl

/-- What a pass writes is no longer than what it reads. -/
theorem jpegOutput_length_le (rest : List UInt8) : (jpegOutput rest).length ≤ rest.length := by
  rcases jpegReader.exists_reaches rest with ⟨removed, copies, -, -, lengths⟩
  rw [jpegOutput]
  cases copies with
  | false =>
      rw [if_neg Bool.false_ne_true] at lengths
      omega
  | true =>
      rw [if_pos rfl] at lengths
      omega

/-- A pass ends by copying what is left, or with nothing left. -/
def CopiesAll (left : List UInt8) : Prop := jpegRead left = .stop true ∨ left = []

theorem CopiesAll.stops {left : List UInt8} (all : CopiesAll left) :
    ∃ copies, jpegReader.read left = .stop copies := by
  rcases all with found | nothing
  · exact ⟨true, found⟩
  · rw [nothing]
    exact ⟨false, rfl⟩

theorem jpegOutput_eq_self (rest : List UInt8) :
    jpegOutput rest = rest ↔ jpegReader.Keeps CopiesAll rest := by
  induction rest using jpegReader.pass_induction with
  | stop rest copies found =>
      rw [keeps_stop found]
      cases copies with
      | true => exact ⟨fun _ => .inl found, fun _ => jpegOutput_copy found⟩
      | false =>
          rw [jpegOutput_drop found]
          constructor
          · exact fun nothing => .inr nothing.symm
          · intro all
            rcases all with copied | nothing
            · exact absurd (copied.symm.trans found) nofun
            · exact nothing.symm
  | segment rest size keep found induction =>
      cases keep with
      | true =>
          rw [jpegOutput_keep found]
          exact take_append_eq_self.trans
            (induction.trans (keeps_keep (fun _ => CopiesAll.stops) found).symm)
      | false =>
          rw [iff_false_intro (not_keeps_strip (fun _ => CopiesAll.stops) found), iff_false]
          intro same
          rw [jpegOutput_strip found] at same
          have bound := jpegOutput_length_le (rest.drop size)
          have shorter := jpegReader.drop_length_lt found
          rw [same] at bound
          omega

/-- The last segment is kept and declares a length of one byte, which only the first of its two
length bytes can be. -/
def EndsInLength (rest : List UInt8) : Prop :=
  ∃ removed marker, jpegReader.Reaches rest removed [0xFF, marker, 0, 1] ∧
    jpegRead [0xFF, marker, 0, 1] = .segment 3 true

theorem not_endsInLength_stop {copies : Bool} (found : jpegRead rest = .stop copies) :
    ¬ EndsInLength rest := by
  intro ends
  rcases ends with ⟨removed, marker, reaches, segment⟩
  rw [(reaches.of_stop found).2, found] at segment
  cases segment

theorem endsInLength_segment (found : jpegRead rest = .segment size keep)
    (other : size ≠ 3 ∨ keep = false ∨ rest.length ≠ 4) :
    EndsInLength rest ↔ EndsInLength (rest.drop size) := by
  constructor
  · intro ends
    rcases ends with ⟨removed, marker, reaches, segment⟩
    cases reaches with
    | start =>
        rw [found] at segment
        cases segment
        rcases other with notThree | notKept | notFour
        · exact absurd rfl notThree
        · cases notKept
        · exact absurd rfl notFour
    | keep foundToo later =>
        cases found.symm.trans foundToo
        exact ⟨_, marker, later, segment⟩
    | strip foundToo later =>
        cases found.symm.trans foundToo
        exact ⟨_, marker, later, segment⟩
  · intro ends
    rcases ends with ⟨removed, marker, reaches, segment⟩
    cases keep with
    | true => exact ⟨removed, marker, .keep found reaches, segment⟩
    | false => exact ⟨size + removed, marker, .strip found reaches, segment⟩

/-- A segment with both its length bytes is read alike whatever follows it. -/
theorem jpegRead_take (found : jpegRead rest = .segment size true)
    (complete : 4 ≤ size ∨ ∃ marker tail, rest = 0xFF :: marker :: tail ∧ standsAlone marker)
    (other : List UInt8) : jpegRead (rest.take size ++ other) = .segment size true := by
  rcases jpegRead_segment found with ⟨marker, tail, rfl, alone, rfl, _⟩ |
    ⟨marker, high, low, data, rfl, notScan, notAlone, length, fits, kept⟩
  · exact jpegRead_alone alone
  · rcases complete with long | ⟨_, _, same, alone⟩
    · rcases Nat.exists_eq_add_of_le' long with ⟨count, rfl⟩
      simp only [List.length_cons] at fits
      rw [List.take_succ_cons, List.take_succ_cons, List.take_succ_cons, List.take_succ_cons,
        List.cons_append, List.cons_append, List.cons_append, List.cons_append,
        jpegRead_length notScan notAlone, ← length, if_neg, ← kept]
      rw [List.length_append, List.length_take]
      omega
    · cases same
      exact absurd alone notAlone

/-- A kept segment without both its length bytes is followed by something that is copied, unless
its second length byte is the last byte. -/
theorem jpegRead_half (found : jpegRead rest = .segment size true) (short : size < 4)
    (notAlone : ¬ ∃ marker tail, rest = 0xFF :: marker :: tail ∧ standsAlone marker) :
    jpegRead (rest.drop size) = .stop true ∧ (size ≠ 3 ∨ rest.length ≠ 4) ∨
      ∃ marker, rest = [0xFF, marker, 0, 1] ∧ size = 3 ∧
        jpegRead [0xFF, marker, 0] = .stop false := by
  rcases jpegRead_segment found with ⟨marker, tail, same, alone, _, _⟩ |
    ⟨marker, high, low, data, rfl, notScan, alone, length, fits, _⟩
  · exact absurd ⟨marker, tail, same, alone⟩ notAlone
  · rw [segLen] at length
    have highZero : high = 0 := UInt8.toNat_inj.mp (by rw [UInt8.toNat_zero]; omega)
    rcases Nat.lt_or_ge low.toNat 1 with zero | positive
    · have lowZero : low = 0 := UInt8.toNat_inj.mp (by rw [UInt8.toNat_zero]; omega)
      rw [highZero, lowZero, UInt8.toNat_zero] at length
      rw [highZero, lowZero, length]
      exact .inl ⟨jpegRead_other (by decide), .inl (by decide)⟩
    · have lowOne : low = 1 := UInt8.toNat_inj.mp (by rw [UInt8.toNat_one]; omega)
      rw [highZero, lowOne, UInt8.toNat_zero, UInt8.toNat_one] at length
      rw [highZero, lowOne, length]
      cases data with
      | nil => exact .inr ⟨marker, rfl, rfl, jpegRead_short notScan alone (by decide)⟩
      | cons next later => exact .inl ⟨jpegRead_other (by decide), .inr (by simp)⟩

/-- Reading the output again copies all of it, unless the input ends in a length. -/
theorem keeps_jpegOutput (rest : List UInt8) :
    jpegReader.Keeps CopiesAll (jpegOutput rest) ↔ ¬ EndsInLength rest := by
  induction rest using jpegReader.pass_induction with
  | stop rest copies found =>
      rw [iff_true_right (not_endsInLength_stop found)]
      cases copies with
      | true =>
          rw [jpegOutput_copy found]
          exact ⟨rest, .start rest, .inl found⟩
      | false =>
          rw [jpegOutput_drop found]
          exact ⟨[], .start [], .inr rfl⟩
  | segment rest size keep found induction =>
      cases keep with
      | false =>
          rw [jpegOutput_strip found, endsInLength_segment found (.inr (.inl rfl))]
          exact induction
      | true =>
          have within := jpegReader.within rest size true found
          have length : (rest.take size).length = size := by
            rw [List.length_take]
            omega
          have stops : ∀ left, CopiesAll left → ∃ copies, jpegReader.read left = .stop copies :=
            fun _ => CopiesAll.stops
          by_cases complete : 4 ≤ size ∨
              ∃ marker tail, rest = 0xFF :: marker :: tail ∧ standsAlone marker
          · have again := jpegRead_take found complete (jpegOutput (rest.drop size))
            have other : size ≠ 3 := by
              rcases complete with long | ⟨marker, tail, rfl, alone⟩
              · omega
              · cases (jpegRead_alone alone).symm.trans found
                decide
            rw [jpegOutput_keep found, keeps_keep stops again, List.drop_left' length,
              endsInLength_segment found (.inl other)]
            exact induction
          · rw [not_or, Nat.not_le] at complete
            rcases jpegRead_half found complete.1 complete.2 with
              ⟨copied, other⟩ | ⟨marker, rfl, rfl, cut⟩
            · rw [jpegOutput_keep found, jpegOutput_copy copied, List.take_append_drop,
                keeps_keep stops found, keeps_stop copied,
                endsInLength_segment found (other.imp_right .inr)]
              exact iff_of_true (.inl copied) (not_endsInLength_stop copied)
            · have ends : EndsInLength [0xFF, marker, 0, 1] := ⟨0, marker, .start _, found⟩
              have written : jpegOutput [0xFF, marker, 0, 1] = [0xFF, marker, 0] :=
                (jpegOutput_keep (show jpegRead [0xFF, marker, 0, 1] = _ from found)).trans
                  (congrArg ([0xFF, marker, 0] ++ ·)
                    (jpegOutput_drop (show jpegRead [1] = _ from rfl)))
              rw [written]
              refine iff_of_false ?_ (not_not_intro ends)
              intro keeps
              rcases (keeps_stop cut).mp keeps with copied | nothing
              · exact absurd (copied.symm.trans cut) nofun
              · cases nothing

end JpegSegments

/-- The condition on a JPEG file under which stripping it again changes nothing. -/
def JpegStable : List UInt8 → Prop
  | 0xFF :: 0xD8 :: rest => ¬ EndsInLength rest
  | _ => True

/-- Stripping a JPEG file never makes it longer. -/
theorem stripJpegMetadata_stable (data : List UInt8) :
    (stripJpegMetadata data).length ≤ data.length ∧
        stripJpegMetadata (stripJpegMetadata data) = stripJpegMetadata data ↔
      JpegStable data := by
  by_cases image : ∃ rest, data = 0xFF :: 0xD8 :: rest
  · rcases image with ⟨rest, rfl⟩
    have once : ∀ rest, stripJpegMetadata (0xFF :: 0xD8 :: rest) =
        0xFF :: 0xD8 :: jpegOutput rest := fun _ => rfl
    have shorter := jpegOutput_length_le rest
    rw [once, once, List.cons_inj_right, List.cons_inj_right, jpegOutput_eq_self,
      keeps_jpegOutput]
    constructor
    · exact fun stable => stable.2
    · intro stable
      refine ⟨?_, stable⟩
      simp only [List.length_cons]
      omega
  · have same : stripJpegMetadata data = data := by
      unfold stripJpegMetadata
      split
      · exact absurd ⟨_, rfl⟩ image
      · rfl
    rw [same, same, JpegStable]
    · exact iff_of_true ⟨Nat.le_refl _, rfl⟩ True.intro
    · intro rest found
      exact image ⟨rest, found⟩

theorem stripPngMetadata_chunks (rest : List UInt8) :
    stripPngMetadata (pngSignature ++ rest) = pngSignature ++ pngOutput rest := by
  have length : pngSignature.length = 8 := rfl
  rw [stripPngMetadata, List.take_left' length, if_pos rfl, List.drop_left' length, pngOutput,
    ← List.append_assoc]

theorem stripPngMetadata_stable (data : List UInt8) :
    (stripPngMetadata data).length ≤ data.length ∧
        stripPngMetadata (stripPngMetadata data) = stripPngMetadata data ↔
      (data.take 8 = pngSignature → PngStable (data.drop 8)) := by
  by_cases image : data.take 8 = pngSignature
  · have whole : data = pngSignature ++ data.drop 8 := by
      rw [← image, List.take_append_drop]
    rw [← pngOutput_stable, forall_prop_of_true image]
    generalize data.drop 8 = rest at whole
    rw [whole, stripPngMetadata_chunks, stripPngMetadata_chunks, List.append_cancel_left_eq,
      List.length_append, List.length_append, Nat.add_le_add_iff_left]
  · rw [stripPngMetadata, if_neg image, stripPngMetadata, if_neg image,
      forall_prop_of_false image]
    exact iff_of_true ⟨Nat.le_refl _, rfl⟩ True.intro

/-- The condition on a file under which stripping it is stable. -/
def StripsStably (data : List UInt8) (contentType : String) : Prop :=
  match contentType with
  | "image/jpeg" => JpegStable data
  | "image/png" => data.take 8 = pngSignature → PngStable (data.drop 8)
  | _ => True

/-- Stripping does not make a file longer, and stripping it again changes nothing, under the
condition and never else. -/
theorem stripMetadata_stable (data : List UInt8) (contentType : String) :
    (stripMetadata data contentType).length ≤ data.length ∧
        stripMetadata (stripMetadata data contentType) contentType =
          stripMetadata data contentType ↔
      StripsStably data contentType := by
  by_cases jpeg : contentType = "image/jpeg"
  · rw [jpeg]
    exact stripJpegMetadata_stable data
  · by_cases png : contentType = "image/png"
    · rw [png]
      exact stripPngMetadata_stable data
    · have same : stripMetadata data contentType = data := by
        unfold stripMetadata
        split
        · exact absurd rfl jpeg
        · exact absurd rfl png
        · rfl
      rw [same, same, iff_true_left ⟨Nat.le_refl _, rfl⟩, StripsStably]
      · exact True.intro
      · exact jpeg
      · exact png

namespace Sample

/-- A chunk that declares one byte more than there is. -/
def partialChunk : List UInt8 := [0, 0, 0, 1, 0x49, 0x48, 0x44, 0x52, 0, 0, 0, 0]

/-- The partial chunk is written twice. -/
theorem strip_grows :
    ¬ ((stripMetadata (pngSignature ++ partialChunk) "image/png").length ≤
        (pngSignature ++ partialChunk).length ∧
      stripMetadata (stripMetadata (pngSignature ++ partialChunk) "image/png") "image/png" =
        stripMetadata (pngSignature ++ partialChunk) "image/png") := by
  have written : stripMetadata (pngSignature ++ partialChunk) "image/png" =
      pngSignature ++ partialChunk ++ partialChunk := by
    have found : pngRead partialChunk = .stop true := by decide
    refine (stripPngMetadata_chunks partialChunk).trans ?_
    rw [pngOutput_cutOff found, ← List.append_assoc]
  intro stable
  rw [written] at stable
  exact absurd stable.1 (by decide)

/-- The last byte is lost, and then the segment is. -/
example : stripMetadata [0xFF, 0xD8, 0xFF, 0xE0, 0, 1] "image/jpeg" =
      [0xFF, 0xD8, 0xFF, 0xE0, 0] ∧
    stripMetadata [0xFF, 0xD8, 0xFF, 0xE0, 0] "image/jpeg" = [0xFF, 0xD8] := by
  decide +kernel

end Sample

end Annex.Server
