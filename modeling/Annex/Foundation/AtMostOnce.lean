import Mathlib.Data.List.Nodup
import Mathlib.Logic.Function.Basic

namespace Annex

/-! Items that are taken up once, and delivered by the call that took them up. Between the two
the call holds its item; the calls go by their numbers. -/

/-- Each item is taken up once and nothing is delivered twice. An item that a call holds is
taken up and held by no other call, and nothing of it has been delivered yet. -/
structure AtMostOnce {Item : Type u} {Delivery : Type v} (item : Delivery → Item)
    (taken : List Item) (delivered : List Delivery) (held : Nat → Option Item) : Prop where
  takenOnce : taken.Nodup
  deliveredOnce : delivered.Nodup
  known : ∀ delivery ∈ delivered, item delivery ∈ taken
  heldTaken : ∀ id what, held id = some what → what ∈ taken
  undelivered : ∀ id what, held id = some what → ∀ delivery ∈ delivered, item delivery ≠ what
  heldOnce : ∀ id other what, held id = some what → held other = some what → id = other

/-- What each call in progress holds. -/
def heldBy {Call : Type u} {Item : Type v} (holds : Call → Option Item)
    (calls : Nat → Option Call) (id : Nat) : Option Item :=
  (calls id).bind holds

theorem heldBy_update {Call : Type u} {Item : Type v} (holds : Call → Option Item)
    (calls : Nat → Option Call) (id : Nat) (next : Option Call) :
    heldBy holds (Function.update calls id next) =
      Function.update (heldBy holds calls) id (next.bind holds) := by
  funext other
  rw [heldBy]
  by_cases same : other = id
  · rw [same, Function.update_self, Function.update_self]
  · rw [Function.update_of_ne same, Function.update_of_ne same, heldBy]

namespace AtMostOnce

variable {Item : Type u} {Delivery : Type v} {item : Delivery → Item} {taken : List Item}
  {delivered copies : List Delivery} {held : Nat → Option Item} {id : Nat}
  {next : Option Item} {what : Item}

/-- At first nothing is delivered and no call holds anything. -/
theorem initial (nodup : taken.Nodup) : AtMostOnce item taken [] fun _ => none where
  takenOnce := nodup
  deliveredOnce := List.nodup_nil
  known _ member := by cases member
  heldTaken _ _ holds := by cases holds
  undelivered _ _ holds := by cases holds
  heldOnce _ _ _ holds := by cases holds

/-- A call goes on holding what it held, or lets it go. -/
theorem stays (once : AtMostOnce item taken delivered held)
    (goesOn : ∀ what, next = some what → held id = some what) :
    AtMostOnce item taken delivered (Function.update held id next) := by
  have old : ∀ other what, Function.update held id next other = some what →
      held other = some what := by
    intro other what holds
    by_cases same : other = id
    · rw [same, Function.update_self] at holds
      rw [same]
      exact goesOn what holds
    · rwa [Function.update_of_ne same] at holds
  constructor
  · exact once.takenOnce
  · exact once.deliveredOnce
  · exact once.known
  · intro other what holds
    exact once.heldTaken other what (old other what holds)
  · intro other what holds
    exact once.undelivered other what (old other what holds)
  · intro left right what leftHolds rightHolds
    exact once.heldOnce left right what (old left what leftHolds) (old right what rightHolds)

/-- A new item is taken up, and held by the call that took it up. -/
theorem takes (once : AtMostOnce item taken delivered held) (fresh : what ∉ taken)
    (goesOn : ∀ other, next = some other → other = what) :
    AtMostOnce item (taken ++ [what]) delivered (Function.update held id next) := by
  have kept : ∀ other ∈ taken, other ∈ taken ++ [what] :=
    fun other member => List.mem_append_left _ member
  have cases_held : ∀ other found, Function.update held id next other = some found →
      (other = id ∧ found = what) ∨ (other ≠ id ∧ held other = some found) := by
    intro other found holds
    by_cases same : other = id
    · rw [same, Function.update_self] at holds
      exact Or.inl ⟨same, goesOn found holds⟩
    · rw [Function.update_of_ne same] at holds
      exact Or.inr ⟨same, holds⟩
  constructor
  · refine List.nodup_append.mpr ⟨once.takenOnce, List.nodup_singleton _, ?_⟩
    intro other member last isLast same
    rw [← List.mem_singleton.mp isLast, ← same] at fresh
    exact fresh member
  · exact once.deliveredOnce
  · exact fun delivery member => kept _ (once.known delivery member)
  · intro other found holds
    rcases cases_held other found holds with ⟨-, isNew⟩ | ⟨-, before⟩
    · rw [isNew]
      exact List.mem_concat_self
    · exact kept _ (once.heldTaken other found before)
  · intro other found holds delivery member
    rcases cases_held other found holds with ⟨-, isNew⟩ | ⟨-, before⟩
    · intro same
      rw [← isNew, ← same] at fresh
      exact fresh (once.known delivery member)
    · exact once.undelivered other found before delivery member
  · intro left right found leftHolds rightHolds
    rcases cases_held left found leftHolds with ⟨leftSame, isNew⟩ | ⟨-, leftBefore⟩
    · rcases cases_held right found rightHolds with ⟨rightSame, -⟩ | ⟨-, rightBefore⟩
      · rw [leftSame, rightSame]
      · exact absurd (once.heldTaken right found rightBefore) (isNew ▸ fresh)
    · rcases cases_held right found rightHolds with ⟨-, isNew⟩ | ⟨-, rightBefore⟩
      · exact absurd (once.heldTaken left found leftBefore) (isNew ▸ fresh)
      · exact once.heldOnce left right found leftBefore rightBefore

/-- The call that holds an item delivers what there is of it, and lets it go. -/
theorem delivers (once : AtMostOnce item taken delivered held) (holds : held id = some what)
    (nodup : copies.Nodup) (ofItem : ∀ copy ∈ copies, item copy = what) :
    AtMostOnce item taken (delivered ++ copies) (Function.update held id none) := by
  have old : ∀ other found, Function.update held id none other = some found →
      other ≠ id ∧ held other = some found := by
    intro other found otherHolds
    by_cases same : other = id
    · rw [same, Function.update_self] at otherHolds
      cases otherHolds
    · rw [Function.update_of_ne same] at otherHolds
      exact ⟨same, otherHolds⟩
  constructor
  · exact once.takenOnce
  · refine List.nodup_append.mpr ⟨once.deliveredOnce, nodup, ?_⟩
    intro delivery member copy copied same
    apply once.undelivered id what holds delivery member
    rw [same]
    exact ofItem copy copied
  · intro delivery member
    rcases List.mem_append.mp member with before | copied
    · exact once.known delivery before
    · rw [ofItem delivery copied]
      exact once.heldTaken id what holds
  · intro other found otherHolds
    exact once.heldTaken other found (old other found otherHolds).2
  · intro other found otherHolds delivery member same
    rcases old other found otherHolds with ⟨different, before⟩
    rcases List.mem_append.mp member with earlier | copied
    · exact once.undelivered other found before delivery earlier same
    · rw [ofItem delivery copied] at same
      exact different (once.heldOnce other id found before (holds.trans (congrArg some same)))
  · intro left right found leftHolds rightHolds
    exact once.heldOnce left right found (old left found leftHolds).2
      (old right found rightHolds).2

end AtMostOnce

end Annex
