import Mathlib.Data.List.Basic

namespace Annex.Segments

/-! A pass over a list that takes it segment by segment, keeps some of the segments and leaves
out the others. -/

variable {α : Type}

/-- What a pass finds at the beginning of what is left: a whole segment, or that it stops, with
or without copying the rest. -/
inductive Reading where
  | segment (size : Nat) (keep : Bool)
  | stop (copies : Bool)
deriving DecidableEq, Repr

/-- A way to read segments. It finds no empty ones and none that are cut off. -/
structure Reader (α : Type) where
  read : List α → Reading
  positive : ∀ rest size keep, read rest = .segment size keep → 0 < size
  within : ∀ rest size keep, read rest = .segment size keep → size ≤ rest.length

/-- What a pass has written when it stops, and what is left then. -/
structure Pass (α : Type) where
  written : List α
  left : List α

/-- Only the rest completes what was taken. -/
theorem take_append_eq_self {rest other : List α} {size : Nat} :
    rest.take size ++ other = rest ↔ other = rest.drop size := by
  constructor
  · intro same
    refine List.append_cancel_left (same.trans ?_)
    exact (List.take_append_drop size rest).symm
  · intro same
    rw [same, List.take_append_drop]

namespace Reader

theorem drop_length_lt (reader : Reader α) {rest : List α} {size : Nat} {keep : Bool}
    (found : reader.read rest = .segment size keep) :
    (rest.drop size).length < rest.length := by
  have positive := reader.positive rest size keep found
  have within := reader.within rest size keep found
  rw [List.length_drop]
  omega

variable (reader : Reader α)

/-- Take segments until the reader stops. -/
def pass (rest : List α) : Pass α :=
  match found : reader.read rest with
  | .stop copies => { written := if copies then rest else [], left := rest }
  | .segment size keep =>
      have := reader.drop_length_lt found
      let later := pass (rest.drop size)
      { later with written := (if keep then rest.take size else []) ++ later.written }
termination_by rest.length
decreasing_by exact this

variable {reader} {rest : List α} {size : Nat} {keep copies : Bool}

theorem pass_stop (found : reader.read rest = .stop copies) :
    reader.pass rest = { written := if copies then rest else [], left := rest } := by
  rw [pass]
  split
  · next other same =>
    rw [found] at same
    cases same
    rfl
  · next other _ same =>
    rw [found] at same
    cases same

theorem pass_segment (found : reader.read rest = .segment size keep) :
    reader.pass rest =
      { written := (if keep then rest.take size else []) ++
          (reader.pass (rest.drop size)).written
        left := (reader.pass (rest.drop size)).left } := by
  rw [pass]
  split
  · next other same =>
    rw [found] at same
    cases same
  · next other _ same =>
    rw [found] at same
    cases same
    rfl

/-- What holds where the reader stops, and before a segment if it holds after it, holds
everywhere. -/
theorem pass_induction {motive : List α → Prop}
    (stop : ∀ rest copies, reader.read rest = .stop copies → motive rest)
    (segment : ∀ rest size keep, reader.read rest = .segment size keep →
      motive (rest.drop size) → motive rest) (rest : List α) : motive rest := by
  induction length : rest.length using Nat.strongRecOn generalizing rest with
  | ind _ induction =>
      cases found : reader.read rest with
      | stop copies => exact stop rest copies found
      | segment size keep =>
          have shorter := reader.drop_length_lt found
          rw [length] at shorter
          exact segment rest size keep found (induction _ shorter _ rfl)

theorem length_written_le (reader : Reader α) (rest : List α) :
    (reader.pass rest).written.length ≤ rest.length := by
  refine @pass_induction _ reader
    (fun rest => (reader.pass rest).written.length ≤ rest.length) ?_ ?_ rest
  · intro rest copies found
    rw [pass_stop found]
    dsimp only
    split
    · exact Nat.le_refl _
    · exact Nat.zero_le _
  · intro rest size keep found induction
    have taken : (if keep then rest.take size else []).length ≤ size := by
      split
      · exact List.length_take_le _ _
      · exact Nat.zero_le _
    have within := reader.within rest size keep found
    rw [List.length_drop] at induction
    rw [pass_segment found]
    dsimp only
    rw [List.length_append]
    omega

theorem length_left_le (reader : Reader α) (rest : List α) :
    (reader.pass rest).left.length ≤ rest.length := by
  refine @pass_induction _ reader
    (fun rest => (reader.pass rest).left.length ≤ rest.length) ?_ ?_ rest
  · intro rest copies found
    simp only [pass_stop found, Nat.le_refl]
  · intro rest size keep found induction
    rw [List.length_drop] at induction
    rw [pass_segment found]
    dsimp only
    omega

/-- A pass comes to the later list by segments, and leaves out so many elements on the way. -/
inductive Reaches (reader : Reader α) : List α → Nat → List α → Prop where
  | start (rest : List α) : Reaches reader rest 0 rest
  | keep {rest later : List α} {size removed : Nat}
      (found : reader.read rest = .segment size true)
      (reaches : Reaches reader (rest.drop size) removed later) :
      Reaches reader rest removed later
  | strip {rest later : List α} {size removed : Nat}
      (found : reader.read rest = .segment size false)
      (reaches : Reaches reader (rest.drop size) removed later) :
      Reaches reader rest (size + removed) later

variable {removed other : Nat} {later last : List α}

theorem Reaches.of_stop (reaches : reader.Reaches rest removed later)
    (found : reader.read rest = .stop copies) : removed = 0 ∧ later = rest := by
  cases reaches with
  | start => exact ⟨rfl, rfl⟩
  | keep segment => exact absurd (segment.symm.trans found) nofun
  | strip segment => exact absurd (segment.symm.trans found) nofun

/-- A pass stops in one place. -/
theorem Reaches.unique (reaches : reader.Reaches rest removed later)
    (stops : reader.read later = .stop copies) {copiesToo : Bool}
    (reachesToo : reader.Reaches rest other last)
    (stopsToo : reader.read last = .stop copiesToo) : other = removed ∧ last = later := by
  induction reaches generalizing other with
  | start => exact reachesToo.of_stop stops
  | keep found _ induction =>
      cases reachesToo with
      | start => exact absurd (found.symm.trans stopsToo) nofun
      | keep foundToo rest =>
          cases found.symm.trans foundToo
          exact induction stops rest
      | strip foundToo rest => exact absurd (found.symm.trans foundToo) nofun
  | strip found _ induction =>
      cases reachesToo with
      | start => exact absurd (found.symm.trans stopsToo) nofun
      | keep foundToo rest => exact absurd (found.symm.trans foundToo) nofun
      | strip foundToo rest =>
          cases found.symm.trans foundToo
          have same := induction stops rest
          exact ⟨congrArg (_ + ·) same.1, same.2⟩

/-- On the way nothing was left out, so all of it was written. -/
theorem Reaches.written_of_zero (reaches : reader.Reaches rest 0 later) :
    ∃ taken, rest = taken ++ later ∧
      (reader.pass rest).written = taken ++ (reader.pass later).written := by
  generalize none : 0 = removed at reaches
  induction reaches with
  | start => exact ⟨[], rfl, rfl⟩
  | @keep rest _ size _ found _ induction =>
      rcases induction none with ⟨taken, whole, written⟩
      refine ⟨rest.take size ++ taken, ?_, ?_⟩
      · rw [List.append_assoc, ← whole, List.take_append_drop]
      · rw [pass_segment found, if_pos rfl, written, List.append_assoc]
  | strip found _ _ =>
      have positive := reader.positive _ _ _ found
      omega

theorem Reaches.length_le (reaches : reader.Reaches rest removed later) :
    removed + later.length ≤ rest.length := by
  induction reaches with
  | start => omega
  | keep found _ induction =>
      rw [List.length_drop] at induction
      omega
  | strip found _ induction =>
      have within := reader.within _ _ _ found
      rw [List.length_drop] at induction
      omega

/-- On the way everything was left out, so none of it was written. -/
theorem Reaches.written_of_all (reaches : reader.Reaches rest removed later)
    (all : removed + later.length = rest.length) :
    (reader.pass rest).written = (reader.pass later).written := by
  induction reaches with
  | start => rfl
  | keep found reaches _ =>
      have positive := reader.positive _ _ _ found
      have within := reader.within _ _ _ found
      have below := reaches.length_le
      rw [List.length_drop] at below
      omega
  | strip found reaches induction =>
      have within := reader.within _ _ _ found
      rw [pass_segment found, if_neg Bool.false_ne_true, List.nil_append]
      refine induction ?_
      rw [List.length_drop]
      omega

/-- Where a pass stops, and how much it has written then. -/
theorem exists_reaches (reader : Reader α) (rest : List α) :
    ∃ removed copies, reader.Reaches rest removed (reader.pass rest).left ∧
      reader.read (reader.pass rest).left = .stop copies ∧
      (reader.pass rest).written.length + removed + (reader.pass rest).left.length =
        rest.length + if copies then (reader.pass rest).left.length else 0 := by
  induction rest using reader.pass_induction with
  | stop rest copies found =>
      rw [pass_stop found]
      refine ⟨0, copies, .start rest, found, ?_⟩
      cases copies <;> simp
  | segment rest size keep found induction =>
      rcases induction with ⟨removed, copies, reaches, stops, lengths⟩
      have within := reader.within rest size keep found
      rw [pass_segment found]
      rw [List.length_drop] at lengths
      cases keep with
      | true =>
          refine ⟨removed, copies, .keep found reaches, stops, ?_⟩
          simp only [if_true, List.length_append, List.length_take]
          omega
      | false =>
          refine ⟨size + removed, copies, .strip found reaches, stops, ?_⟩
          simp only [Bool.false_eq_true, if_false, List.nil_append]
          omega

/-- The pass keeps every segment up to a place where it stops as it should. -/
def Keeps (reader : Reader α) (final : List α → Prop) (rest : List α) : Prop :=
  ∃ left, reader.Reaches rest 0 left ∧ final left

section Keeps

variable {final : List α → Prop}

theorem keeps_stop (found : reader.read rest = .stop copies) :
    reader.Keeps final rest ↔ final rest := by
  constructor
  · intro keeps
    rcases keeps with ⟨left, reaches, ends⟩
    rw [← (reaches.of_stop found).2]
    exact ends
  · intro ends
    exact ⟨rest, .start rest, ends⟩

theorem keeps_keep (stops : ∀ left, final left → ∃ copies, reader.read left = .stop copies)
    (found : reader.read rest = .segment size true) :
    reader.Keeps final rest ↔ reader.Keeps final (rest.drop size) := by
  constructor
  · intro keeps
    rcases keeps with ⟨left, reaches, ends⟩
    rcases stops left ends with ⟨copies, stopped⟩
    generalize none : 0 = removed at reaches
    cases reaches with
    | start => exact absurd (found.symm.trans stopped) nofun
    | keep foundToo later =>
        cases found.symm.trans foundToo
        rw [← none] at later
        exact ⟨left, later, ends⟩
    | strip foundToo => exact absurd (found.symm.trans foundToo) nofun
  · intro keeps
    rcases keeps with ⟨left, reaches, ends⟩
    exact ⟨left, .keep found reaches, ends⟩

theorem not_keeps_strip (stops : ∀ left, final left → ∃ copies, reader.read left = .stop copies)
    (found : reader.read rest = .segment size false) : ¬ reader.Keeps final rest := by
  intro keeps
  rcases keeps with ⟨left, reaches, ends⟩
  rcases stops left ends with ⟨copies, stopped⟩
  generalize none : 0 = removed at reaches
  cases reaches with
  | start => exact absurd (found.symm.trans stopped) nofun
  | keep foundToo => exact absurd (found.symm.trans foundToo) nofun
  | strip foundToo =>
      have positive := reader.positive _ _ _ foundToo
      omega

end Keeps

end Reader

end Annex.Segments
