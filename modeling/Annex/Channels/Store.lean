import Annex.Db.Schema
import Annex.Environment
import Annex.Foundation.Sql
import Mathlib.Data.List.Sort

namespace Annex.Channels

open Db Sql

/-! The operations of the channel store. -/

/-- Errors that can occur during channel operations. -/
inductive ChannelError where
  | database (error : DbError)
  | notFound (text : String)
deriving DecidableEq, Repr

def ChannelError.text : ChannelError → String
  | .database error => "database error: " ++ error.text
  | .notFound text => "channel not found: " ++ text

variable {Memory : Type} (environment : Environment)

/-- A column of JSON, or the driver's conversion error for it. -/
def decodeColumn {α : Type} (index : Nat) (column : JsonText α) : Except DbError α :=
  (column.parse environment.jsonErrorText).mapError fun text =>
    .conversion ("Conversion error from type Text at index: " ++ toString index ++ ", " ++
      text)

def mapRowToChannel (row : ChannelRow) : Except DbError Channel := do
  let channelType ← decodeColumn environment 4 row.channelType
  let agentMinAlignment ← row.agentMinAlignment.mapM (decodeColumn environment 8)
  let federationScope ← decodeColumn environment 10 row.federationScope
  .ok
    { id := row.id
      serverId := row.serverId
      channelId := row.channelId
      name := row.name
      channelType
      topic := row.topic
      vrpTopicBinding := row.vrpTopicBinding
      requiredCapabilitiesJson := row.requiredCapabilitiesJson
      agentMinAlignment
      retentionDays := row.retentionDays
      federationScope
      createdAt := row.createdAt }

/-- Parameters for creating a new channel. -/
structure CreateChannelParams where
  serverId : Nat
  channelId : String
  name : String
  channelType : ChannelType
  topic : Option String
  vrpTopicBinding : Option String
  requiredCapabilitiesJson : Option String
  agentMinAlignment : Option AlignmentStatus
  retentionDays : Option Nat
  federationScope : FederationScope
deriving DecidableEq, Repr

/-- Parameters for updating an existing channel; an absent field is left alone. -/
structure UpdateChannelParams where
  name : Option String
  topic : Option String
  vrpTopicBinding : Option String
  requiredCapabilitiesJson : Option String
  agentMinAlignment : Option AlignmentStatus
  retentionDays : Option Nat
  federationScope : Option FederationScope
deriving DecidableEq, Repr

/-- No field to update. -/
def UpdateChannelParams.none : UpdateChannelParams :=
  ⟨.none, .none, .none, .none, .none, .none, .none⟩

/-- The `SET` part of the update of a channel. -/
def UpdateChannelParams.apply (updates : UpdateChannelParams) (row : ChannelRow) :
    ChannelRow :=
  { row with
    name := updates.name.getD row.name
    topic := updates.topic.or row.topic
    vrpTopicBinding := updates.vrpTopicBinding.or row.vrpTopicBinding
    requiredCapabilitiesJson :=
      updates.requiredCapabilitiesJson.or row.requiredCapabilitiesJson
    agentMinAlignment := (updates.agentMinAlignment.map .encoded).or row.agentMinAlignment
    retentionDays := updates.retentionDays.or row.retentionDays
    federationScope := (updates.federationScope.map .encoded).getD row.federationScope }

theorem UpdateChannelParams.key_apply (updates : UpdateChannelParams) (row : ChannelRow) :
    key (updates.apply row) = key row :=
  rfl

/-- The row of a channel; its public id is unique. -/
def findChannel (channelId : String) (database : Database) : Option ChannelRow :=
  database.channels.rows.find? (·.channelId = channelId)

def getChannel (channelId : String) : Sql Database Memory ChannelError Channel := do
  let found ← query .database fun database =>
    match findChannel channelId database with
    | none => .ok none
    | some row => (mapRowToChannel environment row).map some
  require found (.notFound channelId)

def foreignKeyFailed : DbError := .constraint .foreignKey "FOREIGN KEY constraint failed"

/-- `INSERT INTO channels`. The channel id is unique; the server must exist. -/
def insertChannel (now : String) (params : CreateChannelParams) (database : Database) :
    Except DbError Database :=
  if database.channels.rows.any (·.channelId = params.channelId) then
    .error (.constraint .unique "UNIQUE constraint failed: channels.channel_id")
  else if database.servers.rows.any (·.id = params.serverId) = false then
    .error foreignKeyFailed
  else
    .ok
      { database with
        channels := database.channels.insert fun id =>
          { id
            serverId := params.serverId
            channelId := params.channelId
            name := params.name
            channelType := .encoded params.channelType
            topic := params.topic
            vrpTopicBinding := params.vrpTopicBinding
            requiredCapabilitiesJson := params.requiredCapabilitiesJson
            agentMinAlignment := params.agentMinAlignment.map .encoded
            retentionDays := params.retentionDays
            federationScope := .encoded params.federationScope
            createdAt := now } }

def createChannel (now : String) (params : CreateChannelParams) :
    Sql Database Memory ChannelError Unit :=
  execute .database (insertChannel now params)

/-- One `UPDATE` of the fields that are given. Without any, the channel only has to be
there. -/
def updateChannel (channelId : String) (updates : UpdateChannelParams) :
    Sql Database Memory ChannelError Unit :=
  if updates = .none then do
    let _ ← getChannel environment channelId
    pure ()
  else do
    let count ← statement .database fun database =>
      .ok (database.channels.rows.countP (·.channelId = channelId),
        { database with
          channels := database.channels.updateWhere (·.channelId = channelId)
            updates.apply updates.key_apply })
    check (count ≠ 0) (.notFound channelId)

/-- `DELETE FROM messages`. A stored edit of a selected message makes the whole statement
fail. -/
def deleteMessages (selected : Message → Bool) (database : Database) :
    Except DbError Database :=
  if database.messages.rows.any fun message =>
      selected message &&
        database.messageEdits.rows.any (·.messageId = message.messageId) then
    .error foreignKeyFailed
  else
    .ok { database with messages := database.messages.deleteWhere selected }

/-- `DELETE FROM channel_members`. -/
def deleteMembers (selected : ChannelMember → Bool) (database : Database) : Database :=
  { database with channelMembers := database.channelMembers.deleteWhere selected }

/-- `DELETE FROM channels`, with the number of rows deleted. A message or a member of the
channel makes it fail. -/
def deleteChannelRow (channelId : String) (database : Database) :
    Except DbError (Nat × Database) :=
  if database.channels.rows.any (·.channelId = channelId) &&
      (database.messages.rows.any (·.channelId = channelId) ||
        database.channelMembers.rows.any (·.channelId = channelId)) then
    .error foreignKeyFailed
  else
    .ok (database.channels.rows.countP (·.channelId = channelId),
      { database with
        channels := database.channels.deleteWhere (·.channelId = channelId) })

/-- Delete the messages and the members of a channel, then the channel: three statements,
without a transaction around them. -/
def deleteChannel (channelId : String) : Sql Database Memory ChannelError Unit := do
  execute .database (deleteMessages (·.channelId = channelId))
  execute .database fun database => .ok (deleteMembers (·.channelId = channelId) database)
  let count ← statement .database (deleteChannelRow channelId)
  check (count ≠ 0) (.notFound channelId)

/-- Whether the pseudonym has a membership row of the server in the channel. -/
def memberOf (serverId : Nat) (channelId pseudonymId : String) (database : Database) :
    Bool :=
  database.channelMembers.rows.any fun row =>
    row.serverId = serverId && row.channelId = channelId && row.pseudonymId = pseudonymId

def isMember (serverId : Nat) (channelId pseudonymId : String) :
    Sql Database Memory ChannelError Bool :=
  query .database fun database => .ok (memberOf serverId channelId pseudonymId database)

def uniqueMembers : DbError :=
  .constraint .unique
    "UNIQUE constraint failed: channel_members.channel_id, channel_members.pseudonym_id"

/-- `INSERT INTO channel_members`. A pseudonym is a member of a channel once; the
server, the channel and the platform identity must exist. -/
def insertMember (now : String) (serverId : Nat) (channelId pseudonymId : String)
    (database : Database) : Except DbError Database :=
  if database.channelMembers.rows.any fun row =>
      row.channelId = channelId && row.pseudonymId = pseudonymId then
    .error uniqueMembers
  else if (database.servers.rows.any (·.id = serverId) &&
      database.channels.rows.any (·.channelId = channelId) &&
      database.platformIdentities.rows.any fun row =>
        row.serverId = serverId && row.pseudonymId = pseudonymId) = false then
    .error foreignKeyFailed
  else
    .ok
      { database with
        channelMembers := database.channelMembers.insert fun id =>
          { id
            serverId
            channelId
            pseudonymId
            role := "MEMBER"
            joinedAt := now } }

/-- Add a member. A membership that exists is no error; every other violated
constraint is. -/
def addMember (now : String) (serverId : Nat) (channelId pseudonymId : String) :
    Sql Database Memory ChannelError Unit := do
  let _ ← getChannel environment channelId
  let outcome ← attempt (execute id (insertMember now serverId channelId pseudonymId))
  match outcome with
  | .ok () => pure ()
  | .error (.constraint .unique _) => pure ()
  | .error (.constraint .primaryKey _) => pure ()
  | .error error => fail (.database error)

/-- Remove a member, scoped by server. That there was none is no error. -/
def removeMember (serverId : Nat) (channelId pseudonymId : String) :
    Sql Database Memory ChannelError Unit :=
  execute .database fun database =>
    .ok (deleteMembers (fun row => row.serverId = serverId && row.channelId = channelId &&
      row.pseudonymId = pseudonymId) database)

/-- Parameters for creating a new message. -/
structure CreateMessageParams where
  channelId : String
  messageId : String
  senderPseudonym : String
  content : String
  replyToMessageId : Option String
deriving DecidableEq, Repr

/-- The server of a channel and the retention of its messages: the channel's, or else
the default of the server's stored policy, or of the built-in one where that does not
parse. -/
def resolveRetentionDays (channelId : String) :
    Sql Database Memory ChannelError (Nat × Option Nat) := do
  let found ← query .database fun database =>
    .ok ((findChannel channelId database).map fun row => (row.serverId, row.retentionDays))
  let (serverId, retentionDays) ← require found (.notFound channelId)
  match retentionDays with
  | some days => pure (serverId, some days)
  | none =>
      let policyJson ← query .database fun database =>
        match database.servers.rows.find? (·.id = serverId) with
        | none => .error .noRows
        | some row => .ok row.policyJson
      let policy := policyJson.decode.getD ServerPolicy.default
      pure (serverId, some policy.defaultRetentionDays)

/-- `INSERT INTO messages`. The message id is unique over all channels; the server and
the channel must exist. -/
def insertMessage (clock : Clock) (serverId : Nat) (retentionDays : Option Nat)
    (params : CreateMessageParams) (database : Database) :
    Except DbError (Message × Database) :=
  if database.messages.rows.any (·.messageId = params.messageId) then
    .error (.constraint .unique "UNIQUE constraint failed: messages.message_id")
  else if (database.servers.rows.any (·.id = serverId) &&
      database.channels.rows.any (·.channelId = params.channelId)) = false then
    .error foreignKeyFailed
  else
    let make := fun id : Nat =>
      { id
        serverId
        channelId := params.channelId
        messageId := params.messageId
        senderPseudonym := params.senderPseudonym
        content := params.content
        replyToMessageId := params.replyToMessageId
        createdAt := clock.datetime
        expiresAt := retentionDays.bind clock.datetimePlusDays
        editedAt := none
        deletedAt := none : Message }
    .ok (make (database.messages.lastId + 1),
      { database with messages := database.messages.insert make })

/-- Create a message, enforcing the retention policy. -/
def createMessage (clock : Clock) (params : CreateMessageParams) :
    Sql Database Memory ChannelError Message := do
  let (serverId, retentionDays) ← resolveRetentionDays params.channelId
  statement .database (insertMessage clock serverId retentionDays params)

/-- The row of a message; its public id is unique over all channels. -/
def findMessage (messageId : String) (database : Database) : Option Message :=
  database.messages.rows.find? (·.messageId = messageId)

def getMessage (messageId : String) : Sql Database Memory ChannelError Message := do
  let found ← query .database fun database => .ok (findMessage messageId database)
  require found (.notFound messageId)

/-- Newest first; of equal timestamps the later row, as the index is read backwards. -/
def newestFirst (messages : List Message) : List Message :=
  messages.reverse.insertionSort fun left right => right.createdAt ≤ left.createdAt

/-- List messages of a channel, created before the cursor where one is given. -/
def listMessages (serverId : Nat) (channelId : String) (before : Option String)
    (limit : Option Nat) : Sql Database Memory ChannelError (List Message) :=
  query .database fun database =>
    .ok ((newestFirst (database.messages.rows.filter fun row =>
      row.serverId = serverId && row.channelId = channelId &&
        before.all fun cursor => decide (row.createdAt < cursor))).take
          (min (limit.getD 50) 100))

/-- Seconds for which a message can be edited or deleted by its author. -/
def editWindowSeconds : Int := 60

/-- The checks `edit_message` and `delete_message` share: the author's own message,
not deleted, inside the window. -/
def checkOwnRecentMessage (clock : Clock) (message : Message)
    (messageId senderPseudonym deletedText expiredText : String) :
    Sql Database Memory ChannelError Unit := do
  check (message.senderPseudonym = senderPseudonym)
    (.notFound ("message " ++ messageId ++ " not owned by " ++ senderPseudonym))
  check (message.deletedAt = none) (.notFound deletedText)
  let created ← require (environment.parseDatetime message.createdAt)
    (.notFound "invalid created_at timestamp")
  check (clock.unixSeconds - created ≤ editWindowSeconds) (.notFound expiredText)

/-- `INSERT INTO message_edits`; the message must exist. -/
def insertEdit (now messageId oldContent : String) (database : Database) :
    Except DbError Database :=
  if database.messages.rows.any (·.messageId = messageId) then
    .ok
      { database with
        messageEdits := database.messageEdits.insert fun id =>
          ⟨id, messageId, oldContent, now⟩ }
  else
    .error foreignKeyFailed

/-- Store the old content in the history, then overwrite it. -/
def editMessage (clock : Clock) (messageId senderPseudonym newContent : String) :
    Sql Database Memory ChannelError Message := do
  let message ← getMessage messageId
  checkOwnRecentMessage environment clock message messageId senderPseudonym
    ("message " ++ messageId ++ " has been deleted") "edit window has expired"
  execute .database (insertEdit clock.datetime messageId message.content)
  execute .database fun database =>
    .ok
      { database with
        messages := database.messages.updateWhere (·.messageId = messageId) fun row =>
          { row with content := newContent, editedAt := some clock.datetime } }
  getMessage messageId

/-- Tombstone a message. -/
def deleteMessage (clock : Clock) (messageId senderPseudonym : String) :
    Sql Database Memory ChannelError Message := do
  let message ← getMessage messageId
  checkOwnRecentMessage environment clock message messageId senderPseudonym
    ("message " ++ messageId ++ " already deleted") "delete window has expired"
  execute .database fun database =>
    .ok
      { database with
        messages := database.messages.updateWhere (·.messageId = messageId) fun row =>
          { row with content := "", deletedAt := some clock.datetime } }
  getMessage messageId

/-- The history of a message, oldest first; equal timestamps in the order of the rows. -/
def getEditHistory (messageId : String) :
    Sql Database Memory ChannelError (List MessageEdit) :=
  query .database fun database =>
    .ok ((database.messageEdits.rows.filter (·.messageId = messageId)).insertionSort
      fun left right => left.editedAt ≤ right.editedAt)

/-- Maximum number of messages to delete in a single statement. -/
def retentionBatchLimit : Nat := 5000

/-- `expires_at IS NOT NULL AND expires_at < datetime('now')`. -/
def expired (now : String) (message : Message) : Bool :=
  message.expiresAt.any fun expiresAt => decide (expiresAt < now)

/-- The expired messages one call deletes. They are found through the index on
`expires_at`, so the ones that expired first come first. -/
def expiredBatch (now : String) (database : Database) : List Message :=
  ((database.messages.rows.filter (expired now)).insertionSort
    fun left right => left.expiresAt.getD "" ≤ right.expiresAt.getD "").take
      retentionBatchLimit

/-- Delete a batch of expired messages, answering how many. -/
def deleteExpiredMessages (now : String) : Sql Database Memory ChannelError Nat :=
  statement .database fun database =>
    match deleteMessages (fun message => message ∈ expiredBatch now database) database with
    | .ok changed => .ok ((expiredBatch now database).length, changed)
    | .error error => .error error

end Annex.Channels
