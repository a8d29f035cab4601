import Annex.Channels.Tombstone

namespace Annex.Channels

open Db Sql

/-! Sequential runs of `create_message`, `edit_message` and `delete_message`, and how little of
them depends on the contents of one message. -/

inductive ContentOperation where
  | create (params : CreateMessageParams)
  | edit (messageId senderPseudonym newContent : String)
  | delete (messageId senderPseudonym : String)

/-- An operation and the clock while it runs. -/
structure ContentCall where
  clock : Clock
  operation : ContentOperation

/-- What the operation leaves behind. -/
def contentStep (environment : Environment) (database : Database) (call : ContentCall) :
    Database :=
  match call.operation with
  | .create params =>
      (createMessage call.clock params ⟨database, (), []⟩).2.database
  | .edit messageId senderPseudonym newContent =>
      (editMessage environment call.clock messageId senderPseudonym newContent
        ⟨database, (), []⟩).2.database
  | .delete messageId senderPseudonym =>
      (deleteMessage environment call.clock messageId senderPseudonym
        ⟨database, (), []⟩).2.database

/-- The message of an edit or a deletion that passes its checks. -/
def writable (environment : Environment) (messageId : String) (clock : Clock)
    (senderPseudonym : String) (database : Database) : Option Message :=
  (findMessage messageId database).filter fun message =>
    message.senderPseudonym = senderPseudonym && decide (message.deletedAt = none) &&
      (environment.parseDatetime message.createdAt).any fun created =>
        clock.unixSeconds - created ≤ editWindowSeconds

variable {environment : Environment} {messageId : String} {clock : Clock}
  {database : Database}

theorem writable_eq_some {senderPseudonym : String} {message : Message} :
    writable environment messageId clock senderPseudonym database = some message ↔
      findMessage messageId database = some message ∧
        message.senderPseudonym = senderPseudonym ∧ message.deletedAt = none ∧
          ∃ created, environment.parseDatetime message.createdAt = some created ∧
            clock.unixSeconds - created ≤ editWindowSeconds := by
  rw [writable, Option.filter_eq_some_iff]
  simp [Option.any_eq_true, and_assoc]

theorem ownRecentMessage_writable {senderPseudonym deletedText expiredText : String} :
    (ownRecentMessage environment messageId clock senderPseudonym deletedText expiredText
        ⟨database, (), []⟩).1.toOption =
      writable environment messageId clock senderPseudonym database := by
  cases checked : (ownRecentMessage environment messageId clock senderPseudonym deletedText
      expiredText ⟨database, (), []⟩).1 with
  | ok message => exact (writable_eq_some.mpr (ownRecentMessage_ok.mp checked)).symm
  | error error =>
      cases passes : writable environment messageId clock senderPseudonym database with
      | none => rfl
      | some message =>
          have passed := (@ownRecentMessage_ok _ _ _ _ _ deletedText expiredText _).mpr
            (writable_eq_some.mp passes)
          rw [checked] at passed
          cases passed

theorem contentStep_edit {senderPseudonym newContent : String} :
    contentStep environment database
        ⟨clock, .edit messageId senderPseudonym newContent⟩ =
      match writable environment messageId clock senderPseudonym database with
      | some message =>
          overwriteMessage clock.datetime messageId newContent
            (archiveContent clock.datetime messageId message.content database)
      | none => database := by
  dsimp only [contentStep]
  rw [editMessage_eq, ← @ownRecentMessage_writable _ _ _ _ _
    ("message " ++ messageId ++ " has been deleted") "edit window has expired"]
  cases checked : (ownRecentMessage environment messageId clock senderPseudonym
      ("message " ++ messageId ++ " has been deleted") "edit window has expired"
      ⟨database, (), []⟩).1 with
  | error error =>
      rw [bind_own_error checked]
      rfl
  | ok message =>
      have found := List.find?_some (ownRecentMessage_ok.mp checked).1
      have known : database.messages.rows.any (·.messageId = messageId) = true :=
        List.any_eq_true.mpr ⟨message,
          List.mem_of_find?_eq_some (ownRecentMessage_ok.mp checked).1, found⟩
      have archived : insertEdit clock.datetime messageId message.content database =
          .ok (archiveContent clock.datetime messageId message.content database) :=
        if_pos known
      rw [bind_own_ok checked, bind_ok (execute_done rfl archived), List.tail_nil,
        write_getMessage]
      rfl

theorem contentStep_delete {senderPseudonym : String} :
    contentStep environment database ⟨clock, .delete messageId senderPseudonym⟩ =
      match writable environment messageId clock senderPseudonym database with
      | some _ => tombstoneMessage clock.datetime messageId database
      | none => database := by
  dsimp only [contentStep]
  rw [deleteMessage_eq, ← @ownRecentMessage_writable _ _ _ _ _
    ("message " ++ messageId ++ " already deleted") "delete window has expired"]
  cases checked : (ownRecentMessage environment messageId clock senderPseudonym
      ("message " ++ messageId ++ " already deleted") "delete window has expired"
      ⟨database, (), []⟩).1 with
  | error error =>
      rw [bind_own_error checked]
      rfl
  | ok message =>
      rw [bind_own_ok checked, write_getMessage]
      rfl

theorem contentStep_create {params : CreateMessageParams} :
    contentStep environment database ⟨clock, .create params⟩ =
      match (resolveRetentionDays params.channelId :
          Sql Database Unit ChannelError (Nat × Option Nat)) ⟨database, (), []⟩ with
      | (.error _, _) => database
      | (.ok (serverId, retentionDays), _) =>
          match insertMessage clock serverId retentionDays params database with
          | .ok (_, changed) => changed
          | .error _ => database := by
  rcases @looks_resolveRetentionDays Unit params.channelId database () with ⟨result, ran, -⟩
  dsimp only [contentStep]
  rw [createMessage, ran]
  rcases result with error | ⟨serverId, retentionDays⟩
  · rw [bind_error ran]
  · rw [bind_ok ran]
    change (statement ChannelError.database (insertMessage clock serverId retentionDays params)
      ⟨database, (), []⟩).2.database = _
    rw [statement_apply]
    dsimp only
    cases insertMessage clock serverId retentionDays params database <;> rfl

/-! The database without the contents of one message. -/

def blankMessage (messageId : String) (row : Message) : Message :=
  if row.messageId = messageId then { row with content := "" } else row

def blankEdit (messageId : String) (row : MessageEdit) : MessageEdit :=
  if row.messageId = messageId then { row with oldContent := "" } else row

theorem key_blankMessage (row : Message) : key (blankMessage messageId row) = key row := by
  rw [blankMessage]
  split <;> rfl

theorem key_blankEdit (row : MessageEdit) : key (blankEdit messageId row) = key row := by
  rw [blankEdit]
  split <;> rfl

/-- The contents of the message, those of its history included, are taken away. -/
def withoutContent (messageId : String) (database : Database) : Database :=
  { database with
    messages := database.messages.updateWhere (fun _ => true) (blankMessage messageId)
      key_blankMessage
    messageEdits := database.messageEdits.updateWhere (fun _ => true) (blankEdit messageId)
      key_blankEdit }

/-- The contents the operation gives to the message are taken away. -/
def ContentOperation.withoutContent (messageId : String) : ContentOperation → ContentOperation
  | .create params =>
      .create (if params.messageId = messageId then { params with content := "" } else params)
  | .edit id senderPseudonym newContent =>
      .edit id senderPseudonym (if id = messageId then "" else newContent)
  | .delete id senderPseudonym => .delete id senderPseudonym

def ContentCall.withoutContent (messageId : String) (call : ContentCall) : ContentCall :=
  { call with operation := call.operation.withoutContent messageId }

section Blank

variable {id : String}

@[simp] theorem messageId_blankMessage (row : Message) :
    (blankMessage messageId row).messageId = row.messageId := by
  rw [blankMessage]
  split <;> rfl

@[simp] theorem messageId_blankEdit (row : MessageEdit) :
    (blankEdit messageId row).messageId = row.messageId := by
  rw [blankEdit]
  split <;> rfl

theorem rows_messages_withoutContent :
    (withoutContent messageId database).messages.rows =
      database.messages.rows.map (blankMessage messageId) := by
  rw [withoutContent, Table.rows_updateWhere]
  rfl

theorem rows_messageEdits_withoutContent :
    (withoutContent messageId database).messageEdits.rows =
      database.messageEdits.rows.map (blankEdit messageId) := by
  rw [withoutContent, Table.rows_updateWhere]
  rfl

theorem findMessage_withoutContent :
    findMessage id (withoutContent messageId database) =
      (findMessage id database).map (blankMessage messageId) := by
  have named : (fun row : Message => decide (row.messageId = id)) ∘ blankMessage messageId =
      fun row => decide (row.messageId = id) := by
    funext row
    rw [Function.comp_apply, messageId_blankMessage]
  rw [findMessage, rows_messages_withoutContent, List.find?_map, named, findMessage]

theorem writable_withoutContent {senderPseudonym : String} :
    writable environment id clock senderPseudonym (withoutContent messageId database) =
      (writable environment id clock senderPseudonym database).map
        (blankMessage messageId) := by
  rw [writable, writable, findMessage_withoutContent]
  cases findMessage id database with
  | none => rfl
  | some message =>
      have same : (blankMessage messageId message).senderPseudonym = message.senderPseudonym ∧
          (blankMessage messageId message).deletedAt = message.deletedAt ∧
            (blankMessage messageId message).createdAt = message.createdAt := by
        rw [blankMessage]
        split <;> exact ⟨rfl, rfl, rfl⟩
      simp only [Option.map_some, Option.filter_some, same.1, same.2.1, same.2.2]
      split <;> rfl

/-- Databases that differ in contents of the message alone are the same without them. -/
theorem withoutContent_congr {left right : Database}
    (frame : left =
      { right with messages := left.messages, messageEdits := left.messageEdits })
    (messages : left.messages.rows.map (blankMessage messageId) =
      right.messages.rows.map (blankMessage messageId))
    (messageIds : left.messages.lastId = right.messages.lastId)
    (edits : left.messageEdits.rows.map (blankEdit messageId) =
      right.messageEdits.rows.map (blankEdit messageId))
    (editIds : left.messageEdits.lastId = right.messageEdits.lastId) :
    withoutContent messageId left = withoutContent messageId right := by
  have sameMessages : (withoutContent messageId left).messages =
      (withoutContent messageId right).messages := by
    apply Table.ext
    · rw [rows_messages_withoutContent, rows_messages_withoutContent, messages]
    · exact messageIds
  have sameEdits : (withoutContent messageId left).messageEdits =
      (withoutContent messageId right).messageEdits := by
    apply Table.ext
    · rw [rows_messageEdits_withoutContent, rows_messageEdits_withoutContent, edits]
    · exact editIds
  calc withoutContent messageId left
      = { left with
          messages := (withoutContent messageId left).messages
          messageEdits := (withoutContent messageId left).messageEdits } := rfl
    _ = { right with
          messages := (withoutContent messageId right).messages
          messageEdits := (withoutContent messageId right).messageEdits } := by
        rw [sameMessages, sameEdits, frame]
    _ = withoutContent messageId right := rfl

theorem blankMessage_blankMessage (row : Message) :
    blankMessage messageId (blankMessage messageId row) = blankMessage messageId row := by
  by_cases named : row.messageId = messageId
  · simp [blankMessage, named]
  · simp [blankMessage, named]

theorem map_blankMessage_blankMessage (rows : List Message) :
    (rows.map (blankMessage messageId)).map (blankMessage messageId) =
      rows.map (blankMessage messageId) := by
  rw [List.map_map]
  apply List.map_congr_left
  intro row _
  exact blankMessage_blankMessage row

theorem map_blankEdit_blankEdit (rows : List MessageEdit) :
    (rows.map (blankEdit messageId)).map (blankEdit messageId) =
      rows.map (blankEdit messageId) := by
  rw [List.map_map]
  apply List.map_congr_left
  intro row _
  by_cases named : row.messageId = messageId
  · simp [blankEdit, named]
  · simp [blankEdit, named]

theorem withoutContent_withoutContent :
    withoutContent messageId (withoutContent messageId database) =
      withoutContent messageId database := by
  apply withoutContent_congr rfl
  · rw [rows_messages_withoutContent, map_blankMessage_blankMessage]
  · rfl
  · rw [rows_messageEdits_withoutContent, map_blankEdit_blankEdit]
  · rfl

/-- An edit of the message or of another one. -/
theorem withoutContent_edit {now newContent : String} {message : Message}
    (named : message.messageId = id) :
    withoutContent messageId
        (overwriteMessage now id newContent (archiveContent now id message.content database)) =
      withoutContent messageId
        (overwriteMessage now id (if id = messageId then "" else newContent)
          (archiveContent now id (blankMessage messageId message).content
            (withoutContent messageId database))) := by
  apply withoutContent_congr rfl
  · rw [overwriteMessage, updateMessage, Table.rows_updateWhere, overwriteMessage,
      updateMessage, Table.rows_updateWhere]
    change _ = ((withoutContent messageId database).messages.rows.map _).map _
    rw [rows_messages_withoutContent, List.map_map, List.map_map, List.map_map]
    apply List.map_congr_left
    intro row _
    by_cases here : row.messageId = messageId
    · by_cases edited : row.messageId = id
      · simp [blankMessage, here, ← edited]
      · simp [blankMessage, here, show messageId ≠ id from here ▸ edited]
    · by_cases edited : row.messageId = id
      · simp [blankMessage, edited, show id ≠ messageId from edited ▸ here]
      · simp [blankMessage, here, edited]
  · rfl
  · change (database.messageEdits.rows ++ [_]).map _ =
      ((withoutContent messageId database).messageEdits.rows ++ [_]).map _
    rw [rows_messageEdits_withoutContent, List.map_append, List.map_append,
      map_blankEdit_blankEdit]
    apply congrArg
    by_cases here : id = messageId
    · simp [blankEdit, here, withoutContent, Table.updateWhere]
    · simp [blankEdit, blankMessage, here, named, withoutContent, Table.updateWhere]
  · rfl

theorem withoutContent_tombstone {now : String} :
    withoutContent messageId (tombstoneMessage now id database) =
      withoutContent messageId
        (tombstoneMessage now id (withoutContent messageId database)) := by
  apply withoutContent_congr rfl
  · rw [tombstoneMessage, updateMessage, Table.rows_updateWhere, tombstoneMessage,
      updateMessage, Table.rows_updateWhere]
    rw [rows_messages_withoutContent, List.map_map, List.map_map, List.map_map]
    apply List.map_congr_left
    intro row _
    by_cases here : row.messageId = messageId
    · by_cases deleted : row.messageId = id
      · simp [blankMessage, here, ← deleted]
      · simp [blankMessage, here, show messageId ≠ id from here ▸ deleted]
    · by_cases deleted : row.messageId = id
      · simp [blankMessage, deleted, show id ≠ messageId from deleted ▸ here]
      · simp [blankMessage, here, deleted]
  · rfl
  · change database.messageEdits.rows.map _ =
      (withoutContent messageId database).messageEdits.rows.map _
    rw [rows_messageEdits_withoutContent, map_blankEdit_blankEdit]
  · rfl

theorem resolveRetentionDays_withoutContent {channelId : String} :
    (resolveRetentionDays channelId : Sql Database Unit ChannelError (Nat × Option Nat))
        ⟨withoutContent messageId database, (), []⟩ =
      ((resolveRetentionDays channelId : Sql Database Unit ChannelError (Nat × Option Nat))
          ⟨database, (), []⟩ |>.1, ⟨withoutContent messageId database, (), []⟩) := by
  have channels : findChannel channelId (withoutContent messageId database) =
      findChannel channelId database := rfl
  have servers : (withoutContent messageId database).servers = database.servers := rfl
  rw [resolveRetentionDays]
  simp only [bind_apply, query_apply, channels]
  rcases findChannel channelId database with _ | row
  · rfl
  · rcases retained : row.retentionDays with _ | days
    · simp only [Option.map_some, retained, require, ofExcept_apply, bind_apply, query_apply,
        servers]
      generalize List.find? _ database.servers.rows = server
      cases server <;> rfl
    · simp only [Option.map_some, retained, require, ofExcept_apply]
      rfl

/-- The insertion of the message or of another one. -/
theorem withoutContent_insert {serverId : Nat} {retentionDays : Option Nat}
    {params : CreateMessageParams} :
    withoutContent messageId
        (match insertMessage clock serverId retentionDays params database with
        | .ok (_, changed) => changed
        | .error _ => database) =
      withoutContent messageId
        (match insertMessage clock serverId retentionDays
            (if params.messageId = messageId then { params with content := "" } else params)
            (withoutContent messageId database) with
        | .ok (_, changed) => changed
        | .error _ => withoutContent messageId database) := by
  have taken : (withoutContent messageId database).messages.rows.any
      (·.messageId = params.messageId) =
        database.messages.rows.any (·.messageId = params.messageId) := by
    rw [rows_messages_withoutContent, List.any_map]
    apply congrArg (database.messages.rows.any ·)
    funext row
    rw [Function.comp_apply, messageId_blankMessage]
  have servers : (withoutContent messageId database).servers = database.servers := rfl
  have channels : (withoutContent messageId database).channels = database.channels := rfl
  have named : (if params.messageId = messageId then { params with content := "" }
      else params).messageId = params.messageId := by
    split <;> rfl
  have placed : (if params.messageId = messageId then { params with content := "" }
      else params).channelId = params.channelId := by
    split <;> rfl
  rw [insertMessage, insertMessage, named, placed, taken, servers, channels]
  by_cases known : database.messages.rows.any (·.messageId = params.messageId) = true
  · rw [if_pos known, if_pos known]
    exact withoutContent_withoutContent.symm
  · rw [if_neg known, if_neg known]
    by_cases missing : (database.servers.rows.any (·.id = serverId) &&
        database.channels.rows.any (·.channelId = params.channelId)) = false
    · rw [if_pos missing, if_pos missing]
      exact withoutContent_withoutContent.symm
    · rw [if_neg missing, if_neg missing]
      apply withoutContent_congr rfl
      · change (database.messages.rows ++ [_]).map _ =
          ((withoutContent messageId database).messages.rows ++ [_]).map _
        rw [rows_messages_withoutContent, List.map_append, List.map_append,
          map_blankMessage_blankMessage]
        apply congrArg
        by_cases here : params.messageId = messageId
        · simp [blankMessage, here, withoutContent, Table.updateWhere]
        · simp [blankMessage, here, withoutContent, Table.updateWhere]
      · rfl
      · change database.messageEdits.rows.map _ =
          (withoutContent messageId database).messageEdits.rows.map _
        rw [rows_messageEdits_withoutContent, map_blankEdit_blankEdit]
      · rfl

end Blank

/-- Without the contents of the message, a step does what it does without them. -/
theorem withoutContent_contentStep {call : ContentCall} :
    withoutContent messageId (contentStep environment database call) =
      withoutContent messageId (contentStep environment (withoutContent messageId database)
        (call.withoutContent messageId)) := by
  rcases call with ⟨clock, params | ⟨id, senderPseudonym, newContent⟩ | ⟨id, senderPseudonym⟩⟩
  · have placed : (if params.messageId = messageId then { params with content := "" }
        else params).channelId = params.channelId := by
      split <;> rfl
    rw [ContentCall.withoutContent, ContentOperation.withoutContent, contentStep_create,
      contentStep_create, placed, resolveRetentionDays_withoutContent]
    rcases @looks_resolveRetentionDays Unit params.channelId database () with ⟨result, ran, -⟩
    rw [ran]
    rcases result with error | ⟨serverId, retentionDays⟩
    · exact withoutContent_withoutContent.symm
    · exact withoutContent_insert
  · rw [ContentCall.withoutContent, ContentOperation.withoutContent, contentStep_edit,
      contentStep_edit, writable_withoutContent]
    cases passes : writable environment id clock senderPseudonym database with
    | none => exact withoutContent_withoutContent.symm
    | some message =>
        have named := List.find?_some (writable_eq_some.mp passes).1
        exact withoutContent_edit (by simpa using named)
  · rw [ContentCall.withoutContent, ContentOperation.withoutContent, contentStep_delete,
      contentStep_delete, writable_withoutContent]
    cases passes : writable environment id clock senderPseudonym database with
    | none => exact withoutContent_withoutContent.symm
    | some message => exact withoutContent_tombstone

/-- Calls that differ in contents given to the message alone keep databases apart by no more
than its contents. -/
theorem contentStep_congr {left right : Database} {call other : ContentCall}
    (databases : withoutContent messageId left = withoutContent messageId right)
    (calls : call.withoutContent messageId = other.withoutContent messageId) :
    withoutContent messageId (contentStep environment left call) =
      withoutContent messageId (contentStep environment right other) := by
  rw [withoutContent_contentStep, databases, calls, ← withoutContent_contentStep]

end Annex.Channels
