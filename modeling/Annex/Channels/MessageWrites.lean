import Annex.Channels.StoreCorrectness
import Annex.Foundation.Routine

namespace Annex.Channels

open Db Interleaving Sql

/-! Edits and deletions of one message at the same time. No transaction is held around the
statements of a call, so that those of other calls come between them. -/

/-- A call of `edit_message` or of `delete_message`. -/
inductive WriteRequest where
  | edit (senderPseudonym newContent : String)
  | delete (senderPseudonym : String)
deriving DecidableEq, Repr

/-- The statement a call comes to next. `edited` and `deleted` read the message back. -/
inductive WriteCall where
  | checkEdit (senderPseudonym newContent : String)
  | archive (newContent oldContent : String)
  | overwrite (newContent : String)
  | edited
  | checkDelete (senderPseudonym : String)
  | tombstone
  | deleted
deriving DecidableEq, Repr

abbrev MessageWrites := Interleaving Database WriteCall

abbrev WriteLabel := Label WriteRequest Clock

/-- `UPDATE messages` of one message. -/
def updateMessage (messageId : String) (change : Message → Message) (database : Database)
    (keyed : ∀ row, key (change row) = key row := by intro; rfl) : Database :=
  { database with
    messages := database.messages.updateWhere (·.messageId = messageId) change keyed }

theorem key_messageEdit (messageId oldContent now : String) (id : Nat) :
    key (⟨id, messageId, oldContent, now⟩ : MessageEdit) = id :=
  rfl

/-- The `INSERT` into the history. -/
def archiveContent (now messageId oldContent : String) (database : Database) : Database :=
  { database with
    messageEdits := database.messageEdits.insert
      (fun id => ⟨id, messageId, oldContent, now⟩) (key_messageEdit messageId oldContent now) }

/-- The `UPDATE` of an edit. -/
def overwriteMessage (now messageId newContent : String) (database : Database) : Database :=
  updateMessage messageId (fun row =>
    { row with content := newContent, editedAt := some now }) database

/-- The `UPDATE` of a deletion. -/
def tombstoneMessage (now messageId : String) (database : Database) : Database :=
  updateMessage messageId (fun row =>
    { row with content := "", deletedAt := some now }) database

/-- What `get_message` returns. -/
def storedMessage (messageId : String) (database : Database) : Except ChannelError Message :=
  match findMessage messageId database with
  | some message => .ok message
  | none => .error (.notFound messageId)

section Calls

variable (environment : Environment) (messageId : String)

/-- The message a call may go on with. -/
def ownRecentMessage (clock : Clock) (senderPseudonym deletedText expiredText : String) :
    Sql Database Unit ChannelError Message := do
  let message ← getMessage messageId
  checkOwnRecentMessage environment clock message messageId senderPseudonym deletedText
    expiredText
  pure message

def checkEdit (clock : Clock) (senderPseudonym : String) (database : Database) :
    Except ChannelError Message :=
  (ownRecentMessage environment messageId clock senderPseudonym
    ("message " ++ messageId ++ " has been deleted") "edit window has expired"
    ⟨database, (), []⟩).1

def checkDelete (clock : Clock) (senderPseudonym : String) (database : Database) :
    Except ChannelError Message :=
  (ownRecentMessage environment messageId clock senderPseudonym
    ("message " ++ messageId ++ " already deleted") "delete window has expired"
    ⟨database, (), []⟩).1

def writeStep (clock : Clock) :
    WriteCall → Database → Database × (WriteCall ⊕ Except ChannelError Message)
  | .checkEdit senderPseudonym newContent, database =>
      match checkEdit environment messageId clock senderPseudonym database with
      | .ok message => (database, .inl (.archive newContent message.content))
      | .error error => (database, .inr (.error error))
  | .archive newContent oldContent, database =>
      match insertEdit clock.datetime messageId oldContent database with
      | .ok changed => (changed, .inl (.overwrite newContent))
      | .error error => (database, .inr (.error (.database error)))
  | .overwrite newContent, database =>
      (overwriteMessage clock.datetime messageId newContent database, .inl .edited)
  | .edited, database => (database, .inr (storedMessage messageId database))
  | .checkDelete senderPseudonym, database =>
      match checkDelete environment messageId clock senderPseudonym database with
      | .ok _ => (database, .inl .tombstone)
      | .error error => (database, .inr (.error error))
  | .tombstone, database =>
      (tombstoneMessage clock.datetime messageId database, .inl .deleted)
  | .deleted, database => (database, .inr (storedMessage messageId database))

def WriteRequest.enter : WriteRequest → WriteCall
  | .edit senderPseudonym newContent => .checkEdit senderPseudonym newContent
  | .delete senderPseudonym => .checkDelete senderPseudonym

/-- The edits and deletions of the message. -/
def messageWrites :
    Routine Database WriteCall WriteRequest Clock (Except ChannelError Message) where
  enter := WriteRequest.enter
  step := writeStep environment messageId

end Calls

variable {environment : Environment} {messageId : String} {clock : Clock}
  {database : Database}

/-- The message as it is stored under its id. -/
theorem findMessage_updateMessage {change : Message → Message}
    {keyed : ∀ row, key (change row) = key row}
    (named : ∀ row : Message, (change row).messageId = row.messageId) :
    findMessage messageId (updateMessage messageId change database keyed) =
      (findMessage messageId database).map change := by
  have same (row : Message) :
      decide ((if row.messageId = messageId then change row else row).messageId = messageId) =
        decide (row.messageId = messageId) := by
    by_cases equal : row.messageId = messageId
    · rw [if_pos equal, named]
    · rw [if_neg equal]
  have selects : (fun row : Message => decide (row.messageId = messageId)) ∘
      (fun row => if decide (row.messageId = messageId) = true then change row else row) =
        fun row => decide (row.messageId = messageId) := by
    funext row
    simpa using same row
  rw [findMessage, updateMessage, Table.rows_updateWhere, List.find?_map, selects]
  rw [findMessage]
  cases found : database.messages.rows.find? (·.messageId = messageId) with
  | none => rfl
  | some message =>
      have equal := List.find?_some found
      rw [Option.map_some, Option.map_some, if_pos equal]

theorem looks_ownRecentMessage {senderPseudonym deletedText expiredText : String} :
    Looks (ownRecentMessage environment messageId clock senderPseudonym deletedText
      expiredText) :=
  looks_bind looks_getMessage fun _ => looks_bind looks_checkOwnRecentMessage fun _ =>
    looks_pure _

theorem ownRecentMessage_ok {senderPseudonym deletedText expiredText : String}
    {message : Message} :
    (ownRecentMessage environment messageId clock senderPseudonym deletedText expiredText
        ⟨database, (), []⟩).1 = .ok message ↔
      findMessage messageId database = some message ∧
        message.senderPseudonym = senderPseudonym ∧ message.deletedAt = none ∧
          ∃ created, environment.parseDatetime message.createdAt = some created ∧
            clock.unixSeconds - created ≤ editWindowSeconds := by
  have answers : Answers (ownRecentMessage environment messageId clock senderPseudonym
      deletedText expiredText) database () message ↔
        (ownRecentMessage environment messageId clock senderPseudonym deletedText expiredText
          ⟨database, (), []⟩).1 = .ok message := by
    rcases @looks_ownRecentMessage environment messageId clock senderPseudonym deletedText
      expiredText database () with ⟨result, ran, -⟩
    rw [Answers, ran]
    simp
  rw [← answers]
  simp only [ownRecentMessage, answers_bind looks_getMessage, answers_getMessage,
    answers_bind looks_checkOwnRecentMessage, answers_checkOwnRecentMessage, answers_pure]
  constructor
  · intro passed
    rcases passed with ⟨found, isFound, -, own, same⟩
    subst same
    exact ⟨isFound, own⟩
  · intro passed
    exact ⟨message, passed.1, (), passed.2, rfl⟩

/-- A check that fails ends the call. -/
theorem bind_own_error {senderPseudonym deletedText expiredText : String}
    {rest : Message → Sql Database Unit ChannelError Message} {error : ChannelError}
    (refused : (ownRecentMessage environment messageId clock senderPseudonym deletedText
      expiredText ⟨database, (), []⟩).1 = .error error) :
    (ownRecentMessage environment messageId clock senderPseudonym deletedText expiredText >>=
        rest) ⟨database, (), []⟩ = (.error error, ⟨database, (), []⟩) := by
  rcases @looks_ownRecentMessage environment messageId clock senderPseudonym deletedText
    expiredText database () with ⟨result, ran, -⟩
  rw [ran] at refused
  subst refused
  exact bind_error ran

theorem bind_own_ok {senderPseudonym deletedText expiredText : String}
    {rest : Message → Sql Database Unit ChannelError Message} {message : Message}
    (passed : (ownRecentMessage environment messageId clock senderPseudonym deletedText
      expiredText ⟨database, (), []⟩).1 = .ok message) :
    (ownRecentMessage environment messageId clock senderPseudonym deletedText expiredText >>=
        rest) ⟨database, (), []⟩ = rest message ⟨database, (), []⟩ := by
  rcases @looks_ownRecentMessage environment messageId clock senderPseudonym deletedText
    expiredText database () with ⟨result, ran, -⟩
  rw [ran] at passed
  subst passed
  exact bind_ok ran

theorem getMessage_apply :
    (getMessage messageId : Sql Database Unit ChannelError Message) ⟨database, (), []⟩ =
      (storedMessage messageId database, ⟨database, (), []⟩) := by
  rw [getMessage, bind_apply, query_apply, storedMessage]
  cases findMessage messageId database <;> rfl

/-- The last two statements of a call. -/
theorem write_getMessage (write : Database → Database) :
    ((do
        execute .database fun database => .ok (write database)
        getMessage messageId) : Sql Database Unit ChannelError Message)
        ⟨database, (), []⟩ =
      (storedMessage messageId (write database), ⟨write database, (), []⟩) :=
  getMessage_apply

/-- The statements of an edit that come after its checks. -/
theorem editMessage_eq {senderPseudonym newContent : String} :
    (editMessage environment clock messageId senderPseudonym newContent :
        Sql Database Unit ChannelError Message) =
      ownRecentMessage environment messageId clock senderPseudonym
        ("message " ++ messageId ++ " has been deleted") "edit window has expired" >>=
          fun message => (do
            execute .database (insertEdit clock.datetime messageId message.content)
            execute .database fun database =>
              .ok (overwriteMessage clock.datetime messageId newContent database)
            getMessage messageId) := by
  funext session
  rw [editMessage, ownRecentMessage]
  simp only [bind_apply]
  rcases getMessage messageId session with ⟨error | message, read⟩
  · rfl
  · dsimp only
    rcases checkOwnRecentMessage environment clock message messageId senderPseudonym
      ("message " ++ messageId ++ " has been deleted") "edit window has expired" read with
        ⟨error | done, checked⟩
    · rfl
    · rfl

theorem deleteMessage_eq {senderPseudonym : String} :
    (deleteMessage environment clock messageId senderPseudonym :
        Sql Database Unit ChannelError Message) =
      ownRecentMessage environment messageId clock senderPseudonym
        ("message " ++ messageId ++ " already deleted") "delete window has expired" >>=
          fun _ => (do
            execute .database fun database =>
              .ok (tombstoneMessage clock.datetime messageId database)
            getMessage messageId) := by
  funext session
  rw [deleteMessage, ownRecentMessage]
  simp only [bind_apply]
  rcases getMessage messageId session with ⟨error | message, read⟩
  · rfl
  · dsimp only
    rcases checkOwnRecentMessage environment clock message messageId senderPseudonym
      ("message " ++ messageId ++ " already deleted") "delete window has expired" read with
        ⟨error | done, checked⟩
    · rfl
    · rfl

/-- Without other calls between its steps a call is `edit_message`. -/
theorem finish_edit (senderPseudonym newContent : String) :
    (messageWrites environment messageId).finish clock 4
        (WriteRequest.edit senderPseudonym newContent).enter database =
      ((editMessage environment clock messageId senderPseudonym newContent
          ⟨database, (), []⟩).2.database,
        some (editMessage environment clock messageId senderPseudonym newContent
          ⟨database, (), []⟩).1) := by
  rw [editMessage_eq]
  cases checked : checkEdit environment messageId clock senderPseudonym database with
  | error error =>
      rw [bind_own_error checked]
      apply Routine.finish_last
      simp only [messageWrites, WriteRequest.enter, writeStep, checked]
  | ok message =>
      rw [bind_own_ok checked]
      have first : (messageWrites environment messageId).step clock
          (.checkEdit senderPseudonym newContent) database =
            (database, .inl (.archive newContent message.content)) := by
        simp only [messageWrites, writeStep, checked]
      rw [WriteRequest.enter, Routine.finish_next first]
      cases archived : insertEdit clock.datetime messageId message.content database with
      | error error =>
          rw [bind_error (execute_refused rfl archived)]
          apply Routine.finish_last
          simp only [messageWrites, writeStep, archived]
      | ok changed =>
          rw [bind_ok (execute_done rfl archived)]
          have second : (messageWrites environment messageId).step clock
              (.archive newContent message.content) database =
                (changed, .inl (.overwrite newContent)) := by
            simp only [messageWrites, writeStep, archived]
          rw [Routine.finish_next second, List.tail_nil, write_getMessage]
          rfl

/-- Without other calls between its steps a call is `delete_message`. -/
theorem finish_delete (senderPseudonym : String) :
    (messageWrites environment messageId).finish clock 3
        (WriteRequest.delete senderPseudonym).enter database =
      ((deleteMessage environment clock messageId senderPseudonym
          ⟨database, (), []⟩).2.database,
        some (deleteMessage environment clock messageId senderPseudonym
          ⟨database, (), []⟩).1) := by
  rw [deleteMessage_eq]
  cases checked : checkDelete environment messageId clock senderPseudonym database with
  | error error =>
      rw [bind_own_error checked]
      apply Routine.finish_last
      simp only [messageWrites, WriteRequest.enter, writeStep, checked]
  | ok message =>
      rw [bind_own_ok checked]
      have first : (messageWrites environment messageId).step clock
          (.checkDelete senderPseudonym) database = (database, .inl .tombstone) := by
        simp only [messageWrites, writeStep, checked]
      rw [WriteRequest.enter, Routine.finish_next first, write_getMessage]
      rfl

/-- An entry of the history is about a message that is stored. -/
theorem insertEdit_eq_ok {now oldContent : String} {changed : Database}
    (archived : insertEdit now messageId oldContent database = .ok changed) :
    changed = archiveContent now messageId oldContent database := by
  rw [insertEdit] at archived
  split at archived
  · exact (Except.ok.inj archived).symm
  · cases archived

/-- What a step within a call does, by the statement it is. -/
inductive Continues (environment : Environment) (messageId : String) (clock : Clock)
    (database : Database) : WriteCall → Database → WriteCall → Prop where
  | checkEdit (newContent : String) {message : Message}
      (found : findMessage messageId database = some message)
      (alive : message.deletedAt = none) :
      Continues environment messageId clock database
        (.checkEdit message.senderPseudonym newContent) database
        (.archive newContent message.content)
  | archive (newContent oldContent : String) :
      Continues environment messageId clock database (.archive newContent oldContent)
        (archiveContent clock.datetime messageId oldContent database) (.overwrite newContent)
  | overwrite (newContent : String) :
      Continues environment messageId clock database (.overwrite newContent)
        (overwriteMessage clock.datetime messageId newContent database) .edited
  | checkDelete {message : Message} (found : findMessage messageId database = some message)
      (alive : message.deletedAt = none) :
      Continues environment messageId clock database
        (.checkDelete message.senderPseudonym) database .tombstone
  | tombstone :
      Continues environment messageId clock database .tombstone
        (tombstoneMessage clock.datetime messageId database) .deleted

theorem continues_of_step {call rest : WriteCall} {after : Database}
    (stepped : (messageWrites environment messageId).step clock call database =
      (after, .inl rest)) :
    Continues environment messageId clock database call after rest := by
  change writeStep environment messageId clock call database = _ at stepped
  cases call with
  | checkEdit senderPseudonym newContent =>
      rw [writeStep] at stepped
      split at stepped
      · next message passed =>
        cases stepped
        rcases ownRecentMessage_ok.mp passed with ⟨found, own, alive, -⟩
        subst own
        exact .checkEdit newContent found alive
      · cases stepped
  | archive newContent oldContent =>
      rw [writeStep] at stepped
      split at stepped
      · next changed archived =>
        cases stepped
        rw [insertEdit_eq_ok archived]
        exact .archive newContent oldContent
      · cases stepped
  | overwrite newContent =>
      cases stepped
      exact .overwrite newContent
  | edited => cases stepped
  | checkDelete senderPseudonym =>
      rw [writeStep] at stepped
      split at stepped
      · next message passed =>
        cases stepped
        rcases ownRecentMessage_ok.mp passed with ⟨found, own, alive, -⟩
        subst own
        exact .checkDelete found alive
      · cases stepped
  | tombstone =>
      cases stepped
      exact .tombstone
  | deleted => cases stepped

/-- The last step of a call changes nothing. -/
theorem database_of_end {call : WriteCall} {after : Database}
    {result : Except ChannelError Message}
    (stepped : (messageWrites environment messageId).step clock call database =
      (after, .inr result)) : after = database := by
  change writeStep environment messageId clock call database = _ at stepped
  cases call with
  | checkEdit senderPseudonym newContent =>
      rw [writeStep] at stepped
      split at stepped
      · cases stepped
      · cases stepped
        rfl
  | archive newContent oldContent =>
      rw [writeStep] at stepped
      split at stepped
      · cases stepped
      · cases stepped
        rfl
  | checkDelete senderPseudonym =>
      rw [writeStep] at stepped
      split at stepped
      · cases stepped
      · cases stepped
        rfl
  | edited =>
      cases stepped
      rfl
  | deleted =>
      cases stepped
      rfl
  | overwrite newContent => cases stepped
  | tombstone => cases stepped

end Annex.Channels
