import Annex.Channels.MessageWrites

namespace Annex.Channels

open Db Interleaving Sql

/-! Whether a tombstone lasts. An edit checks the message in one statement and overwrites it in
another that asks nothing of the row, so that one which checked before the tombstone was
written can undo it. -/

/-- The message has its tombstone. -/
def Tombstoned (messageId : String) (database : Database) : Prop :=
  ∃ message, findMessage messageId database = some message ∧ message.deletedAt ≠ none

/-- Under its tombstone the message is empty. -/
def EmptyTombstone (messageId : String) (database : Database) : Prop :=
  ∀ message, findMessage messageId database = some message → message.deletedAt ≠ none →
    message.content = ""

namespace WriteCall

def IsEdit : WriteCall → Prop
  | checkEdit _ _ => True
  | archive _ _ => True
  | overwrite _ => True
  | edited => True
  | _ => False

/-- An edit that has found the message alive. -/
def PastCheck : WriteCall → Prop
  | archive _ _ => True
  | overwrite _ => True
  | edited => True
  | _ => False

end WriteCall

namespace MessageWrites

/-- A tombstone is written while no edit is past its checks. -/
def TombstonesAlone (state : MessageWrites) : WriteLabel → Prop
  | .start _ _ => True
  | .advance id _ => state.calls id = some .tombstone → ¬ state.Pending WriteCall.PastCheck

/-- An edit that ends with the step fails. -/
def EditsFail (environment : Environment) (messageId : String) (state : MessageWrites) :
    WriteLabel → Prop
  | .start _ _ => True
  | .advance id clock => ∀ call result, state.calls id = some call → call.IsEdit →
      (messageWrites environment messageId).returns state (.advance id clock) = some result →
        ∃ error, result = .error error

/-- The message is empty under its tombstone, and no edit is left that could change it. -/
structure Sealed (messageId : String) (state : MessageWrites) : Prop where
  empty : EmptyTombstone messageId state.shared
  alone : Tombstoned messageId state.shared → ¬ state.Pending WriteCall.PastCheck

variable {environment : Environment} {messageId : String}

theorem sealed_idle {database : Database} (empty : EmptyTombstone messageId database) :
    Sealed messageId (idle database) where
  empty := empty
  alone _ := (idle_idle database).not_pending _

/-- A call that is not past an edit's checks leaves those that are as they were. -/
theorem Sealed.next {state : MessageWrites} {id : Nat} {database : Database}
    {next : Option WriteCall} (isSealed : Sealed messageId state)
    (empty : EmptyTombstone messageId database)
    (older : Tombstoned messageId database → Tombstoned messageId state.shared)
    (new : ∀ call, next = some call → call.PastCheck → ¬ Tombstoned messageId database) :
    Sealed messageId ⟨database, Function.update state.calls id next⟩ := by
  constructor
  · exact empty
  · intro deleted pending
    rcases pending with ⟨otherId, call, found, past⟩
    by_cases written : next = some call
    · exact new call written past deleted
    · have before := (calls_of_update found written).2
      exact isSealed.alone (older deleted) ⟨otherId, call, before, past⟩

theorem findMessage_overwriteMessage {now newContent : String} {database : Database} :
    findMessage messageId (overwriteMessage now messageId newContent database) =
      (findMessage messageId database).map fun row =>
        { row with content := newContent, editedAt := some now } :=
  findMessage_updateMessage fun _ => rfl

theorem findMessage_tombstoneMessage {now : String} {database : Database} :
    findMessage messageId (tombstoneMessage now messageId database) =
      (findMessage messageId database).map fun row =>
        { row with content := "", deletedAt := some now } :=
  findMessage_updateMessage fun _ => rfl

theorem tombstoned_overwriteMessage {now newContent : String} {database : Database} :
    Tombstoned messageId (overwriteMessage now messageId newContent database) ↔
      Tombstoned messageId database := by
  rw [Tombstoned, Tombstoned, findMessage_overwriteMessage]
  cases findMessage messageId database <;> simp

/-- Every step that writes no tombstone beside an edit past its checks keeps the seal. -/
theorem sealed_step (state : MessageWrites) (label : WriteLabel)
    (isSealed : Sealed messageId state) (alone : state.TombstonesAlone label) :
    Sealed messageId
      (step (messageWrites environment messageId).program state label) := by
  apply Routine.step_invariant _ _ _ state label isSealed alone
  · intro state id request isSealed _ _
    apply isSealed.next isSealed.empty fun deleted => deleted
    intro call entered past
    cases entered
    cases request <;> exact past.elim
  · intro state id call clock after rest isSealed found alone stepped
    cases continues_of_step stepped with
    | checkEdit newContent stored alive =>
        apply isSealed.next isSealed.empty fun deleted => deleted
        intro next _ _ deleted
        rcases deleted with ⟨message, storedToo, gone⟩
        rw [stored, Option.some.injEq] at storedToo
        exact gone (storedToo ▸ alive)
    | archive newContent oldContent =>
        have pending : state.Pending WriteCall.PastCheck := ⟨id, _, found, trivial⟩
        apply isSealed.next
        · exact isSealed.empty
        · intro deleted
          exact deleted
        · intro _ _ _ deleted
          exact isSealed.alone deleted pending
    | overwrite newContent =>
        have pending : state.Pending WriteCall.PastCheck := ⟨id, _, found, trivial⟩
        have live : ¬ Tombstoned messageId state.shared :=
          fun deleted => isSealed.alone deleted pending
        apply isSealed.next
        · intro message stored gone
          exact absurd (tombstoned_overwriteMessage.mp ⟨message, stored, gone⟩) live
        · exact tombstoned_overwriteMessage.mp
        · intro _ _ _ deleted
          exact live (tombstoned_overwriteMessage.mp deleted)
    | checkDelete stored alive =>
        apply isSealed.next isSealed.empty fun deleted => deleted
        intro next written past
        cases written
        exact past.elim
    | tombstone =>
        constructor
        · intro message stored _
          rw [findMessage_tombstoneMessage] at stored
          rcases Option.map_eq_some_iff.mp stored with ⟨row, _, changed⟩
          rw [← changed]
        · intro _ pending
          rcases pending with ⟨otherId, other, otherFound, past⟩
          by_cases written : some WriteCall.deleted = some other
          · cases written
            exact past
          · have before := (calls_of_update otherFound written).2
            exact alone found ⟨otherId, other, before, past⟩
  · intro state id call clock after result isSealed found alone stepped
    rw [database_of_end stepped]
    apply isSealed.next isSealed.empty fun deleted => deleted
    intro next written
    cases written

/-- Under the seal an edit ends with an error. -/
theorem Sealed.editsFail {state : MessageWrites} {label : WriteLabel}
    (isSealed : Sealed messageId state) (deleted : Tombstoned messageId state.shared) :
    EditsFail environment messageId state label := by
  cases label with
  | start id request => trivial
  | advance id clock =>
      intro call result found isEdit returned
      rcases Routine.returns_advance returned with ⟨other, otherFound, ends⟩
      rw [found, Option.some.injEq] at otherFound
      subst otherFound
      have waiting : ¬ call.PastCheck :=
        fun past => isSealed.alone deleted ⟨id, call, found, past⟩
      cases call with
      | checkEdit senderPseudonym newContent =>
          change (writeStep environment messageId clock _ state.shared).2 = _ at ends
          rw [writeStep] at ends
          split at ends
          · cases ends
          · next error refused =>
            cases ends
            exact ⟨error, rfl⟩
      | archive newContent oldContent => exact absurd trivial waiting
      | overwrite newContent => exact absurd trivial waiting
      | edited => exact absurd trivial waiting
      | checkDelete senderPseudonym => exact isEdit.elim
      | tombstone => exact isEdit.elim
      | deleted => exact isEdit.elim

/-- A tombstone is never taken away. -/
theorem tombstoned_step {state : MessageWrites} (label : WriteLabel)
    (deleted : Tombstoned messageId state.shared) :
    Tombstoned messageId
      (step (messageWrites environment messageId).program state label).shared := by
  apply @Routine.step_invariant _ _ _ _ _ (messageWrites environment messageId)
    (fun _ _ => True) (fun state => Tombstoned messageId state.shared) _ _ _ state label
    deleted trivial
  · exact fun _ _ _ deleted _ _ => deleted
  · intro state id call clock after rest deleted found _ stepped
    cases continues_of_step stepped with
    | checkEdit newContent stored alive => exact deleted
    | archive newContent oldContent => exact deleted
    | overwrite newContent => exact tombstoned_overwriteMessage.mpr deleted
    | checkDelete stored alive => exact deleted
    | tombstone =>
        rcases deleted with ⟨message, stored, _⟩
        refine ⟨{ message with content := "", deletedAt := some clock.datetime }, ?_, ?_⟩
        · exact findMessage_tombstoneMessage.trans (by rw [stored, Option.map_some])
        · exact Option.some_ne_none _
  · intro state id call clock after result deleted found _ stepped
    rw [database_of_end stepped]
    exact deleted

/-- Once the message has its tombstone, it stays empty, and the edits that end later fail. -/
theorem tombstone_permanent (environment : Environment) (messageId : String)
    (database : Database) (front back : List WriteLabel)
    (empty : EmptyTombstone messageId database)
    (alone : Execution.Guarded (step (messageWrites environment messageId).program)
      TombstonesAlone (idle database) (front ++ back))
    (deleted : Tombstoned messageId (Execution.run
      (step (messageWrites environment messageId).program) (idle database) front).shared) :
    (∀ state, Execution.Visits (step (messageWrites environment messageId).program)
        (Execution.run (step (messageWrites environment messageId).program) (idle database)
          front) back state →
      ∃ message, findMessage messageId state.shared = some message ∧
        message.deletedAt ≠ none ∧ message.content = "") ∧
    Execution.Guarded (step (messageWrites environment messageId).program)
      (EditsFail environment messageId)
      (Execution.run (step (messageWrites environment messageId).program) (idle database)
        front) back := by
  have parts := Execution.guarded_append.mp alone
  have isSealed := Execution.run_invariant_of_guarded (Sealed messageId)
    sealed_step (sealed_idle empty) parts.1
  have kept (state : MessageWrites) (label : WriteLabel)
      (both : Sealed messageId state ∧ Tombstoned messageId state.shared)
      (allowed : state.TombstonesAlone label) :
      Sealed messageId (step (messageWrites environment messageId).program state label) ∧
        Tombstoned messageId
          (step (messageWrites environment messageId).program state label).shared :=
    ⟨sealed_step state label both.1 allowed, tombstoned_step label both.2⟩
  constructor
  · intro state visited
    have both := Execution.visits_invariant_of_guarded _ kept ⟨isSealed, deleted⟩ parts.2
      state visited
    rcases both.2 with ⟨message, stored, gone⟩
    exact ⟨message, stored, gone, both.1.empty message stored gone⟩
  · exact Execution.guarded_of_invariant _ kept (fun _ _ both _ => both.1.editsFail both.2)
      ⟨isSealed, deleted⟩ parts.2

/-- An edit past its checks succeeds, whatever became of the message in between. -/
theorem finish_pastCheck {call : WriteCall} {clock : Clock} {database : Database}
    {message : Message} (past : call.PastCheck)
    (stored : findMessage messageId database = some message) :
    ∃ changed edited,
      (messageWrites environment messageId).finish clock 3 call database =
        (changed, some (.ok edited)) := by
  have readBack (after : Database) (row : Message)
      (found : findMessage messageId after = some row) :
      (messageWrites environment messageId).step clock .edited after =
        (after, .inr (.ok row)) := by
    change writeStep environment messageId clock .edited after = _
    rw [writeStep, storedMessage, found]
  have overwritten (newContent : String) (before : Database) (fuel : Nat)
      (found : findMessage messageId before = some message) :
      ∃ changed edited,
        (messageWrites environment messageId).finish clock (fuel + 2) (.overwrite newContent)
          before = (changed, some (.ok edited)) := by
    have after : findMessage messageId
        (overwriteMessage clock.datetime messageId newContent before) =
          some { message with content := newContent, editedAt := some clock.datetime } :=
      findMessage_overwriteMessage.trans (by rw [found, Option.map_some])
    exact ⟨_, _, (Routine.finish_next rfl).trans (Routine.finish_last (readBack _ _ after))⟩
  cases call with
  | archive newContent oldContent =>
      have known : database.messages.rows.any (·.messageId = messageId) = true := by
        have named := List.find?_some stored
        exact List.any_eq_true.mpr ⟨message, List.mem_of_find?_eq_some stored, named⟩
      have first : (messageWrites environment messageId).step clock
          (.archive newContent oldContent) database =
            (archiveContent clock.datetime messageId oldContent database,
              .inl (.overwrite newContent)) := by
        change writeStep environment messageId clock (.archive newContent oldContent)
          database = _
        rw [writeStep, insertEdit, if_pos known]
        rfl
      rw [Routine.finish_next first]
      exact overwritten newContent _ 0 stored
  | overwrite newContent => exact overwritten newContent database 1 stored
  | edited => exact ⟨_, _, Routine.finish_last (readBack database message stored)⟩
  | checkEdit senderPseudonym newContent => exact past.elim
  | checkDelete senderPseudonym => exact past.elim
  | tombstone => exact past.elim
  | deleted => exact past.elim

section Sample

/-! One message of one sender. -/

def writeEnvironment : Environment := Environment.sample fun _ => []

def writeClock : Clock := ⟨"2026-01-01 00:00:01", fun _ => none, 1⟩

def oneMessage : Database :=
  { migrated with
    messages := Table.empty.insert fun id =>
      ⟨id, 1, "general", "m-1", "alice", "first", none, "2026-01-01 00:00:00", none, none,
        none⟩ }

/-- A deletion up to its tombstone. -/
def deleteAlone : List WriteLabel :=
  [.start 0 (.delete "alice"), .advance 0 writeClock, .advance 0 writeClock]

/-- The deletion ends and an edit is tried. -/
def editTooLate : List WriteLabel :=
  [.advance 0 writeClock, .start 1 (.edit "alice" "second"), .advance 1 writeClock]

/-- An edit passes its checks, and a deletion writes the tombstone. -/
def deleteAmidEdit : List WriteLabel :=
  [.start 0 (.edit "alice" "second"), .advance 0 writeClock, .start 1 (.delete "alice"),
    .advance 1 writeClock, .advance 1 writeClock]

def editResumes : List WriteLabel := [.advance 0 writeClock, .advance 0 writeClock]

theorem tombstonesAlone_deleteAlone :
    Execution.Guarded (step (messageWrites writeEnvironment "m-1").program) TombstonesAlone
      (idle oneMessage) (deleteAlone ++ editTooLate) := by
  refine ⟨trivial, ?_, ?_, ?_, trivial, ?_, trivial⟩
  · intro found
    exact absurd found (by decide +kernel)
  · intro found
    apply not_pending_of_only found _ not_false
    intro other different
    have labels : ∀ label ∈ deleteAlone.take 2, label.id ≠ other := by
      simpa [deleteAlone, Label.id] using different.symm
    exact @calls_run_of_ne _ _ _ _ (messageWrites writeEnvironment "m-1").program
      (idle oneMessage) _ _ labels
  · intro found
    exact absurd found (by decide +kernel)
  · intro found
    exact absurd found (by decide +kernel)

theorem tombstone_permanent_deleteAlone :
    (∀ state, Execution.Visits (step (messageWrites writeEnvironment "m-1").program)
        (Execution.run (step (messageWrites writeEnvironment "m-1").program) (idle oneMessage)
          deleteAlone) editTooLate state →
      ∃ message, findMessage "m-1" state.shared = some message ∧
        message.deletedAt ≠ none ∧ message.content = "") ∧
    Execution.Guarded (step (messageWrites writeEnvironment "m-1").program)
      (EditsFail writeEnvironment "m-1")
      (Execution.run (step (messageWrites writeEnvironment "m-1").program) (idle oneMessage)
        deleteAlone) editTooLate := by
  have alive : (findMessage "m-1" oneMessage).bind Message.deletedAt = none := by
    decide +kernel
  have tombstone : (findMessage "m-1" (Execution.run
      (step (messageWrites writeEnvironment "m-1").program) (idle oneMessage)
        deleteAlone).shared).bind Message.deletedAt = some "2026-01-01 00:00:01" := by
    decide +kernel
  apply tombstone_permanent writeEnvironment "m-1" oneMessage deleteAlone editTooLate
  · intro message found gone
    rw [found] at alive
    exact absurd alive gone
  · exact tombstonesAlone_deleteAlone
  · rcases Option.bind_eq_some_iff.mp tombstone with ⟨message, found, gone⟩
    exact ⟨message, found, by rw [gone]; exact Option.some_ne_none _⟩

/-- The message comes back under its tombstone. -/
theorem not_tombstone_permanent :
    ¬ ∀ (environment : Environment) (messageId : String) (database : Database)
      (front back : List WriteLabel), EmptyTombstone messageId database →
      Tombstoned messageId (Execution.run
        (step (messageWrites environment messageId).program) (idle database) front).shared →
      (∀ state, Execution.Visits (step (messageWrites environment messageId).program)
          (Execution.run (step (messageWrites environment messageId).program) (idle database)
            front) back state →
        ∃ message, findMessage messageId state.shared = some message ∧
          message.deletedAt ≠ none ∧ message.content = "") ∧
      Execution.Guarded (step (messageWrites environment messageId).program)
        (EditsFail environment messageId)
        (Execution.run (step (messageWrites environment messageId).program) (idle database)
          front) back := by
  intro permanent
  have alive : (findMessage "m-1" oneMessage).bind Message.deletedAt = none := by
    decide +kernel
  have tombstone : (findMessage "m-1" (Execution.run
      (step (messageWrites writeEnvironment "m-1").program) (idle oneMessage)
        deleteAmidEdit).shared).bind Message.deletedAt = some "2026-01-01 00:00:01" := by
    decide +kernel
  have revived : (findMessage "m-1" (Execution.run
      (step (messageWrites writeEnvironment "m-1").program) (Execution.run
        (step (messageWrites writeEnvironment "m-1").program) (idle oneMessage)
          deleteAmidEdit) editResumes).shared).map Message.content = some "second" := by
    decide +kernel
  have stays := (permanent writeEnvironment "m-1" oneMessage deleteAmidEdit editResumes
    (fun message found gone => by
      rw [found] at alive
      exact absurd alive gone)
    (by
      rcases Option.bind_eq_some_iff.mp tombstone with ⟨message, found, gone⟩
      exact ⟨message, found, by rw [gone]; exact Option.some_ne_none _⟩)).1 _
        ⟨editResumes, List.prefix_rfl, rfl⟩
  rcases stays with ⟨message, found, _, empty⟩
  rw [found, Option.map_some, empty] at revived
  exact absurd revived (by decide)

end Sample

end MessageWrites

end Annex.Channels
