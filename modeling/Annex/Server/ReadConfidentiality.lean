import Mathlib.Data.Fintype.EquivFin
import Annex.Channels.DeletedContent
import Annex.Channels.StoreCorrectness
import Annex.Server.Channels

namespace Annex.Server

open Channels Db Identity Sql

/-! What a requester learns of the channels it is no member of. -/

/-- A request for the messages of a channel or for the edits of a message. -/
inductive ReadRequest where
  | history (channelId : String) (header : Option (JsonText ZkProofPayload))
      (before : Option String) (limit : Option Nat)
  | edits (channelId messageId : String)

inductive ReadResponse where
  | messages (messages : List Message)
  | edits (edits : List MessageEdit)
deriving DecidableEq

variable {Fq Key : Type}

def handleRead (server : ChannelServer Fq Key) (pseudonymId : String) :
    ReadRequest → StatusHandler ReadResponse
  | .history channelId header before limit => do
      let messages ← getChannelHistoryHandler server pseudonymId channelId header before limit
      pure (.messages messages)
  | .edits channelId messageId => do
      let edits ← getMessageEditsHandler server pseudonymId channelId messageId
      pure (.edits edits)

/-- The message is in a channel the pseudonym is a member of. -/
def visible (serverId : Nat) (pseudonymId : String) (database : Database)
    (message : Message) : Bool :=
  memberOf serverId message.channelId pseudonymId database

/-- Some message of that id is. -/
def visibleId (serverId : Nat) (pseudonymId : String) (database : Database)
    (messageId : String) : Bool :=
  database.messages.rows.any fun message =>
    message.messageId = messageId && visible serverId pseudonymId database message

/-- The foreign key of the edit history. -/
def EditsReferenced (database : Database) : Prop :=
  ∀ edit ∈ database.messageEdits.rows, ∃ message ∈ database.messages.rows,
    message.messageId = edit.messageId

/-- The databases agree on all identities and memberships, and on the messages and edits
of the channels the pseudonym is a member of. -/
structure AgreeFor (serverId : Nat) (pseudonymId : String) (left right : Database) :
    Prop where
  platformIdentities : left.platformIdentities = right.platformIdentities
  zkNullifiers : left.zkNullifiers = right.zkNullifiers
  vrpIdentities : left.vrpIdentities = right.vrpIdentities
  channelMembers : left.channelMembers = right.channelMembers
  messages : left.messages.rows.filter (visible serverId pseudonymId left) =
    right.messages.rows.filter (visible serverId pseudonymId right)
  messageEdits :
    (left.messageEdits.rows.filter fun edit =>
        visibleId serverId pseudonymId left edit.messageId) =
      right.messageEdits.rows.filter fun edit =>
        visibleId serverId pseudonymId right edit.messageId

/-- The request is answered alike in every database that agrees with this one. -/
def Confidential (server : ChannelServer Fq Key) (pseudonymId : String)
    (request : ReadRequest) (database : Database) : Prop :=
  ∀ right, EditsReferenced right → AgreeFor server.serverId pseudonymId database right →
    ∀ faults, (handleRead server pseudonymId request ⟨database, [], faults⟩).1 =
      (handleRead server pseudonymId request ⟨right, [], faults⟩).1

/-- A request for edits through a channel of the requester names a message the
requester may see. -/
def ReadRequest.NamesVisible (serverId : Nat) (pseudonymId : String)
    (database : Database) : ReadRequest → Prop
  | history .. => True
  | edits channelId messageId => memberOf serverId channelId pseudonymId database = true →
      visibleId serverId pseudonymId database messageId = true

section Agreement

variable {serverId : Nat} {pseudonymId : String} {left right : Database}

theorem AgreeFor.memberOf (agree : AgreeFor serverId pseudonymId left right)
    (channelId : String) :
    Channels.memberOf serverId channelId pseudonymId left =
      Channels.memberOf serverId channelId pseudonymId right := by
  rw [Channels.memberOf, Channels.memberOf, agree.channelMembers]

theorem visibleId_eq_any (database : Database) (messageId : String) :
    visibleId serverId pseudonymId database messageId =
      (database.messages.rows.filter (visible serverId pseudonymId database)).any
        (·.messageId = messageId) := by
  rw [visibleId, List.any_filter]
  congr 1
  funext message
  rw [Bool.and_comm]

theorem AgreeFor.visibleId (agree : AgreeFor serverId pseudonymId left right)
    (messageId : String) :
    visibleId serverId pseudonymId left messageId =
      visibleId serverId pseudonymId right messageId := by
  rw [visibleId_eq_any, visibleId_eq_any, agree.messages]

/-- A selection of rows the requester may see is the same in both databases. -/
theorem filter_eq_of_visible {Row : Type} {leftRows rightRows : List Row}
    {leftVisible rightVisible selected : Row → Bool}
    (agree : leftRows.filter leftVisible = rightRows.filter rightVisible)
    (seenLeft : ∀ row ∈ leftRows, selected row = true → leftVisible row = true)
    (seenRight : ∀ row ∈ rightRows, selected row = true → rightVisible row = true) :
    leftRows.filter selected = rightRows.filter selected := by
  have inside : ∀ {rows : List Row} {visible : Row → Bool},
      (∀ row ∈ rows, selected row = true → visible row = true) →
        rows.filter selected = (rows.filter visible).filter selected := by
    intro rows visible seen
    rw [List.filter_filter]
    refine List.filter_congr fun row member => ?_
    cases chosen : selected row with
    | false => rfl
    | true => rw [seen row member chosen]; rfl
  rw [inside seenLeft, inside seenRight, agree]

/-- The messages of a channel of the requester. -/
theorem AgreeFor.listed (agree : AgreeFor serverId pseudonymId left right)
    {channelId : String} (member : Channels.memberOf serverId channelId pseudonymId left = true)
    (before : Option String) :
    (left.messages.rows.filter fun row => row.serverId = serverId &&
        row.channelId = channelId && before.all fun cursor => decide (row.createdAt < cursor)) =
      right.messages.rows.filter fun row => row.serverId = serverId &&
        row.channelId = channelId &&
          before.all fun cursor => decide (row.createdAt < cursor) := by
  refine filter_eq_of_visible agree.messages ?_ ?_
  · intro row _ selected
    simp only [Bool.and_eq_true, decide_eq_true_eq] at selected
    rw [visible, selected.1.2]
    exact member
  · intro row _ selected
    simp only [Bool.and_eq_true, decide_eq_true_eq] at selected
    rw [visible, selected.1.2, ← agree.memberOf]
    exact member

/-- The edits of a message the requester may see. -/
theorem AgreeFor.edited (agree : AgreeFor serverId pseudonymId left right)
    {messageId : String} (seen : Server.visibleId serverId pseudonymId left messageId = true) :
    left.messageEdits.rows.filter (·.messageId = messageId) =
      right.messageEdits.rows.filter (·.messageId = messageId) := by
  refine filter_eq_of_visible agree.messageEdits ?_ ?_
  · intro row _ selected
    rw [of_decide_eq_true selected]
    exact seen
  · intro row _ selected
    rw [of_decide_eq_true selected, ← agree.visibleId]
    exact seen

end Agreement

/-! A request that names what the requester may see is answered alike. -/

section Same

variable {server : ChannelServer Fq Key} {pseudonymId : String} {left right : Database}

theorem sameAnswer_lookupCommitment
    (agree : AgreeFor server.serverId pseudonymId left right) :
    SameAnswer (lookupCommitment server pseudonymId) left right := by
  refine sameAnswer_bind (sameAnswer_connect _) fun _ =>
    sameAnswer_bind (sameAnswer_mapErr ?_) fun _ => sameAnswer_pure _
  refine sameAnswer_bind (sameAnswer_query (by rw [agree.zkNullifiers])) fun fast => ?_
  cases fast with
  | some found => exact sameAnswer_pure _
  | none =>
      refine sameAnswer_bind (sameAnswer_query (by rw [agree.zkNullifiers])) fun rows => ?_
      split
      · exact sameAnswer_pure _
      · exact sameAnswer_bind (sameAnswer_query (by rw [agree.vrpIdentities])) fun _ =>
          sameAnswer_pure _

/-- Either both requests are refused or both go on as those of a member. -/
theorem sameAnswer_requireMember {α : Type} {channelId : String}
    {next : Unit → StatusHandler α}
    (agree : AgreeFor server.serverId pseudonymId left right)
    (rest : memberOf server.serverId channelId pseudonymId left = true →
      SameAnswer (next ()) left right) :
    SameAnswer (requireMember server channelId pseudonymId >>= next) left right := by
  intro memory faults
  have same : SameAnswer (requireMember server channelId pseudonymId) left right := by
    refine sameAnswer_bind (sameAnswer_connect _) fun _ =>
      sameAnswer_bind (sameAnswer_mapErr (sameAnswer_query ?_)) fun _ =>
        sameAnswer_check _ _
    rw [agree.memberOf]
  have ensured : Ensures (requireMember server channelId pseudonymId) left memory
      fun result _ _ => result = .ok () →
        memberOf server.serverId channelId pseudonymId left = true := by
    refine (looks_connect _).ensures_bind (fun _ failed => by cases failed) fun _ _ => ?_
    refine (looks_mapErr looks_isMember).ensures_bind (fun _ failed => by cases failed) ?_
    intro found read
    rw [answers_mapErr looks_isMember, answers_isMember] at read
    cases read
    exact ensures_check (fun member _ => member) fun _ failed => by cases failed
  rcases same memory faults with ⟨error | ⟨⟩, middle, onLeft, onRight⟩
  · exact ⟨.error error, middle, bind_error onLeft, bind_error onRight⟩
  · have member := ensured faults (by rw [onLeft])
    rcases rest member memory middle with ⟨result, last, nextLeft, nextRight⟩
    exact ⟨result, last, (bind_ok onLeft).trans nextLeft,
      (bind_ok onRight).trans nextRight⟩

theorem sameAnswer_getChannelHistoryHandler
    (agree : AgreeFor server.serverId pseudonymId left right) (channelId : String)
    (header : Option (JsonText ZkProofPayload)) (before : Option String)
    (limit : Option Nat) :
    SameAnswer (getChannelHistoryHandler server pseudonymId channelId header before limit)
      left right := by
  refine sameAnswer_bind (sameAnswer_lookupCommitment agree) fun _ =>
    sameAnswer_bind (sameAnswer_ofExcept _) fun _ =>
      sameAnswer_requireMember agree fun member => ?_
  refine sameAnswer_bind (sameAnswer_connect _) fun _ =>
    sameAnswer_mapErr (sameAnswer_query ?_)
  rw [agree.listed member before]

theorem sameAnswer_getMessageEditsHandler
    (agree : AgreeFor server.serverId pseudonymId left right)
    {channelId messageId : String}
    (named : memberOf server.serverId channelId pseudonymId left = true →
      visibleId server.serverId pseudonymId left messageId = true) :
    SameAnswer (getMessageEditsHandler server pseudonymId channelId messageId) left
      right := by
  refine sameAnswer_requireMember agree fun member => ?_
  refine sameAnswer_bind (sameAnswer_connect _) fun _ =>
    sameAnswer_mapErr (sameAnswer_query ?_)
  rw [agree.edited (named member)]

end Same

/-! A request that names a message the requester may not see tells two databases
apart. -/

section Exposed

variable {server : ChannelServer Fq Key} {pseudonymId : String} {database : Database}

/-- The database with an edit of the message; a message that is not there yet is put
into the given channel. -/
def withEdit (messageId channelId : String) (database : Database) : Database :=
  { database with
    messages :=
      if database.messages.rows.any (·.messageId = messageId) then database.messages
      else database.messages.insert fun id =>
        ⟨id, 0, channelId, messageId, "", "", none, "", none, none, none⟩
    messageEdits := database.messageEdits.insert fun id => ⟨id, messageId, "", ""⟩ }

theorem messages_withEdit {serverId : Nat} {messageId channelId : String}
    (foreign : memberOf serverId channelId pseudonymId database = false) :
    (withEdit messageId channelId database).messages.rows.filter
        (visible serverId pseudonymId (withEdit messageId channelId database)) =
      database.messages.rows.filter (visible serverId pseudonymId database) := by
  have same : visible serverId pseudonymId (withEdit messageId channelId database) =
      visible serverId pseudonymId database := rfl
  rw [same]
  dsimp only [withEdit]
  split
  · rfl
  · rw [Table.rows_insert, List.filter_append]
    simp [visible, foreign]

theorem agreeFor_withEdit {serverId : Nat} {messageId channelId : String}
    (hidden : visibleId serverId pseudonymId database messageId = false)
    (foreign : memberOf serverId channelId pseudonymId database = false) :
    AgreeFor serverId pseudonymId database (withEdit messageId channelId database) := by
  have seen : ∀ other, visibleId serverId pseudonymId
      (withEdit messageId channelId database) other =
        visibleId serverId pseudonymId database other := by
    intro other
    rw [visibleId_eq_any, visibleId_eq_any, messages_withEdit foreign]
  refine ⟨rfl, rfl, rfl, rfl, (messages_withEdit foreign).symm, ?_⟩
  simp only [seen]
  rw [withEdit, Table.rows_insert, List.filter_append]
  simp [hidden]

theorem editsReferenced_withEdit {messageId channelId : String}
    (referenced : EditsReferenced database) :
    EditsReferenced (withEdit messageId channelId database) := by
  have kept : ∀ message ∈ database.messages.rows,
      message ∈ (withEdit messageId channelId database).messages.rows := by
    intro message member
    dsimp only [withEdit]
    split
    · exact member
    · exact Table.mem_insert.mpr (Or.inl member)
  intro edit member
  rcases Table.mem_insert.mp member with member | rfl
  · rcases referenced edit member with ⟨message, messageMember, same⟩
    exact ⟨message, kept message messageMember, same⟩
  · dsimp only [withEdit]
    split
    · next present =>
      rcases List.any_eq_true.mp present with ⟨message, messageMember, same⟩
      exact ⟨message, messageMember, of_decide_eq_true same⟩
    · exact ⟨_, Table.mem_insert.mpr (Or.inr rfl), rfl⟩

/-- Some channel name has no members. -/
theorem exists_foreign (serverId : Nat) (pseudonymId : String) (database : Database) :
    ∃ channelId, memberOf serverId channelId pseudonymId database = false := by
  rcases Infinite.exists_notMem_finset
    (database.channelMembers.rows.map ChannelMember.channelId).toFinset with
    ⟨channelId, absent⟩
  refine ⟨channelId, List.any_eq_false.mpr fun row member selected => absent ?_⟩
  simp only [Bool.and_eq_true, decide_eq_true_eq] at selected
  exact List.mem_toFinset.mpr (List.mem_map.mpr ⟨row, member, selected.1.2⟩)

theorem handleRead_edits {channelId messageId : String}
    (member : memberOf server.serverId channelId pseudonymId database = true) :
    (handleRead server pseudonymId (.edits channelId messageId) ⟨database, [], []⟩).1 =
      .ok (.edits ((database.messageEdits.rows.filter (·.messageId = messageId)).insertionSort
        fun left right => left.editedAt ≤ right.editedAt)) := by
  have admitted : Answers (requireMember server channelId pseudonymId) database [] () := by
    refine (answers_bind (looks_connect _)).mpr ⟨(), connect_answers _, ?_⟩
    refine (answers_bind (looks_mapErr looks_isMember)).mpr ⟨true, ?_, answers_check.mpr rfl⟩
    exact (answers_mapErr looks_isMember).mpr (answers_isMember.mpr member)
  have edits : Answers (getMessageEditsHandler server pseudonymId channelId messageId)
      database []
      ((database.messageEdits.rows.filter (·.messageId = messageId)).insertionSort
        fun left right => left.editedAt ≤ right.editedAt) := by
    refine (bind_ok admitted).trans ((bind_ok (connect_answers _)).trans ?_)
    exact (answers_mapErr (looks_query _ _)).mpr (answers_query.mpr rfl)
  exact congrArg Prod.fst (bind_ok edits)

theorem not_confidential {channelId messageId : String}
    (referenced : EditsReferenced database)
    (member : memberOf server.serverId channelId pseudonymId database = true)
    (hidden : visibleId server.serverId pseudonymId database messageId = false) :
    ¬ Confidential server pseudonymId (.edits channelId messageId) database := by
  intro confidential
  rcases exists_foreign server.serverId pseudonymId database with ⟨other, foreign⟩
  have same := confidential (withEdit messageId other database)
    (editsReferenced_withEdit referenced) (agreeFor_withEdit hidden foreign) []
  rw [handleRead_edits member,
    @handleRead_edits _ _ server pseudonymId (withEdit messageId other database) channelId
      messageId member] at same
  have lengths := congrArg List.length (ReadResponse.edits.inj (Except.ok.inj same))
  simp [List.length_insertionSort, withEdit, List.filter_append] at lengths

end Exposed

/-- A request is answered from what the requester may see exactly when it does not name,
through a channel of the requester, a message outside the requester's channels. -/
theorem confidential_iff_namesVisible (server : ChannelServer Fq Key)
    (pseudonymId : String) (request : ReadRequest) (database : Database)
    (referenced : EditsReferenced database) :
    Confidential server pseudonymId request database ↔
      request.NamesVisible server.serverId pseudonymId database := by
  cases request with
  | history channelId header before limit =>
      refine iff_of_true (fun right _ agree faults => ?_) trivial
      exact (sameAnswer_bind (sameAnswer_getChannelHistoryHandler agree channelId header
        before limit) fun _ => sameAnswer_pure _).eq [] faults
  | edits channelId messageId =>
      constructor
      · intro confidential member
        by_contra hidden
        exact not_confidential referenced member (Bool.eq_false_iff.mpr hidden) confidential
      · intro named right _ agree faults
        exact (sameAnswer_bind (sameAnswer_getMessageEditsHandler agree named)
          fun _ => sameAnswer_pure _).eq [] faults

section Sample

/-! A member of channel `a` and a message of channel `b`. -/

def readingServer : ChannelServer Unit Unit where
  environment := Environment.sample fun _ => []
  curve := ⟨fun _ => none, fun _ => none, fun _ => false, fun _ => false,
    fun _ _ _ => .ok false⟩
  membershipVkey := ()
  serverId := 1
  enforceZkProofs := false
  rootHex := ""

def channelRow (channelId : String) (id : Nat) : ChannelRow :=
  ⟨id, 1, channelId, channelId, .encoded .text, none, none, none, none, none,
    .encoded .localOnly, ""⟩

/-- The message of channel `b` was never edited. -/
def uneditedDatabase : Database :=
  { migrated with
    servers := singleServer
    platformIdentities := Table.empty.insert fun id =>
      ⟨id, 1, "reader", "HUMAN", false, false, false, false, false, true⟩
    channels := (Table.empty.insert (channelRow "a")).insert (channelRow "b")
    channelMembers := Table.empty.insert fun id => ⟨id, 1, "a", "reader", "MEMBER", ""⟩
    messages := Table.empty.insert fun id =>
      ⟨id, 1, "b", "m", "author", "new", none, "", none, none, none⟩ }

/-- It was edited once. -/
def editedDatabase : Database :=
  { uneditedDatabase with
    messageEdits := Table.empty.insert fun id => ⟨id, "m", "secret", ""⟩ }

/-- The equivalence for a path through a channel the reader is no member of. -/
theorem confidential_iff_namesVisible_unedited :
    Confidential readingServer "reader" (.edits "b" "m") uneditedDatabase ↔
      (ReadRequest.edits "b" "m").NamesVisible readingServer.serverId "reader"
        uneditedDatabase :=
  confidential_iff_namesVisible readingServer "reader" (.edits "b" "m") uneditedDatabase
    fun _ member => (List.not_mem_nil member).elim

/-- A member of `a` reads the edits of a message of `b`. -/
theorem edits_of_foreign_message :
    ¬ ∀ (server : ChannelServer Unit Unit) (pseudonymId : String) (request : ReadRequest)
      (database : Database), EditsReferenced database →
        Confidential server pseudonymId request database := by
  intro confidential
  have referenced : EditsReferenced editedDatabase := by
    intro edit member
    rcases List.mem_singleton.mp member with rfl
    exact ⟨_, List.mem_singleton.mpr rfl, rfl⟩
  have agree : AgreeFor readingServer.serverId "reader" uneditedDatabase editedDatabase :=
    ⟨rfl, rfl, rfl, rfl, rfl, by decide +kernel⟩
  have same := confidential readingServer "reader" (.edits "a" "m") uneditedDatabase
    (fun _ member => (List.not_mem_nil member).elim) editedDatabase referenced agree []
  have unedited : (handleRead readingServer "reader" (.edits "a" "m")
      ⟨uneditedDatabase, [], []⟩).1 = .ok (.edits []) := by
    rw [handleRead_edits (by decide +kernel)]
    rfl
  have edited : (handleRead readingServer "reader" (.edits "a" "m")
      ⟨editedDatabase, [], []⟩).1 = .ok (.edits [⟨1, "m", "secret", ""⟩]) := by
    rw [handleRead_edits (by decide +kernel)]
    decide +kernel
  rw [unedited, edited] at same
  cases same

end Sample

open Channels.MessageWrites

/-! Whether the content of a deleted message can be read back. -/

/-- The reads of the channel store, and the handlers over them, answer alike. -/
structure SameReads (left right : Database) : Prop where
  listMessages : ∀ serverId channelId before limit,
    ((Channels.listMessages serverId channelId before limit :
        Sql Database Unit ChannelError (List Message)) ⟨left, (), []⟩).1 =
      ((Channels.listMessages serverId channelId before limit :
        Sql Database Unit ChannelError (List Message)) ⟨right, (), []⟩).1
  getMessage : ∀ messageId,
    ((Channels.getMessage messageId : Sql Database Unit ChannelError Message)
        ⟨left, (), []⟩).1 =
      ((Channels.getMessage messageId : Sql Database Unit ChannelError Message)
        ⟨right, (), []⟩).1
  getEditHistory : ∀ messageId,
    ((Channels.getEditHistory messageId : Sql Database Unit ChannelError (List MessageEdit))
        ⟨left, (), []⟩).1 =
      ((Channels.getEditHistory messageId : Sql Database Unit ChannelError (List MessageEdit))
        ⟨right, (), []⟩).1
  handleRead : ∀ {Fq Key : Type} (server : ChannelServer Fq Key) pseudonymId request faults,
    (Server.handleRead server pseudonymId request ⟨left, [], faults⟩).1 =
      (Server.handleRead server pseudonymId request ⟨right, [], faults⟩).1

theorem SameReads.refl (database : Database) : SameReads database database where
  listMessages _ _ _ _ := rfl
  getMessage _ := rfl
  getEditHistory _ := rfl
  handleRead _ _ _ _ := rfl

theorem SameReads.editHistory_eq {left right : Database} (same : SameReads left right)
    (messageId : String) : editHistory messageId left = editHistory messageId right :=
  Except.ok.inj (same.getEditHistory messageId)

/-- What a deleted message contained is read nowhere exactly when no edit has archived a
content that the run gave to it. -/
theorem deleted_content_unread_iff (environment : Environment) (messageId : String)
    (database : Database) (calls : List ContentCall)
    (deleted : Tombstoned messageId
      (Execution.run (contentStep environment) database calls)) :
    (∀ others, List.Forall₂ (OtherContent messageId) calls others →
      Tombstoned messageId (Execution.run (contentStep environment) database others) →
        SameReads (Execution.run (contentStep environment) database calls)
          (Execution.run (contentStep environment) database others)) ↔
      acceptedEdits environment messageId database calls ≤ oldContents messageId database := by
  constructor
  · intro unread
    by_contra many
    have differ : List.Forall₂ (OtherContent messageId) calls
        (calls.map (ContentCall.marked messageId)) := by
      rw [List.forall₂_map_right_iff]
      exact List.forall₂_same.mpr fun call _ => otherContent_marked call
    have otherDeleted := tombstoned_congr
      (@withoutContent_run environment messageId _ _ _ _ differ rfl) deleted
    have leaked := @leaked_of_many environment messageId database calls (by omega)
    apply editHistory_ne_of_leaked leaked
    exact (unread _ differ otherDeleted).editHistory_eq messageId
  · intro few others differ _
    rw [run_eq_of_tombstoned differ few deleted]
    exact SameReads.refl _

section Sample

/-- A channel without messages. -/
def emptyRoom : Database :=
  { migrated with
    servers := singleServer
    channels := Table.empty.insert fun id =>
      ⟨id, 1, "general", "General", .encoded .text, none, none, none, none, some 30,
        .encoded .localOnly, "2026-01-01 00:00:00"⟩ }

def createThenDelete (content : String) : List ContentCall :=
  [⟨writeClock, .create ⟨"general", "m-1", "alice", content, none⟩⟩,
    ⟨writeClock, .delete "m-1" "alice"⟩]

def createEditDelete (content : String) : List ContentCall :=
  [⟨writeClock, .create ⟨"general", "m-1", "alice", content, none⟩⟩,
    ⟨writeClock, .edit "m-1" "alice" "corrected"⟩, ⟨writeClock, .delete "m-1" "alice"⟩]

theorem tombstoned_of_deletedAt {database : Database} {messageId deletedAt : String}
    (tombstone : (findMessage messageId database).bind Message.deletedAt = some deletedAt) :
    Tombstoned messageId database := by
  rcases Option.bind_eq_some_iff.mp tombstone with ⟨message, found, gone⟩
  refine ⟨message, found, ?_⟩
  rw [gone]
  exact Option.some_ne_none deletedAt

theorem deleted_content_unread_iff_createThenDelete :
    (∀ others, List.Forall₂ (OtherContent "m-1") (createThenDelete "secret") others →
      Tombstoned "m-1" (Execution.run (contentStep writeEnvironment) emptyRoom others) →
        SameReads (Execution.run (contentStep writeEnvironment) emptyRoom
            (createThenDelete "secret"))
          (Execution.run (contentStep writeEnvironment) emptyRoom others)) ↔
      acceptedEdits writeEnvironment "m-1" emptyRoom (createThenDelete "secret") ≤
        oldContents "m-1" emptyRoom := by
  apply deleted_content_unread_iff
  apply tombstoned_of_deletedAt
  have tombstone : (findMessage "m-1" (Execution.run (contentStep writeEnvironment) emptyRoom
      (createThenDelete "secret"))).bind Message.deletedAt = some "2026-01-01 00:00:01" := by
    decide +kernel
  exact tombstone

/-- The edit history of a deleted message gives its first content away. -/
theorem not_deleted_content_unread :
    ¬ ∀ (environment : Environment) (messageId : String) (database : Database)
      (calls others : List ContentCall), List.Forall₂ (OtherContent messageId) calls others →
      Tombstoned messageId (Execution.run (contentStep environment) database calls) →
      Tombstoned messageId (Execution.run (contentStep environment) database others) →
        SameReads (Execution.run (contentStep environment) database calls)
          (Execution.run (contentStep environment) database others) := by
  intro unread
  have differ : List.Forall₂ (OtherContent "m-1") (createEditDelete "secret")
      (createEditDelete "public") :=
    .cons (.create writeClock _ "public" rfl) (.cons (.same _) (.cons (.same _) .nil))
  have tombstone : (findMessage "m-1" (Execution.run (contentStep writeEnvironment) emptyRoom
      (createEditDelete "secret"))).bind Message.deletedAt = some "2026-01-01 00:00:01" := by
    decide +kernel
  have deleted := tombstoned_of_deletedAt tombstone
  have same := (unread writeEnvironment "m-1" emptyRoom _ _ differ deleted
    (tombstoned_congr (withoutContent_run differ rfl) deleted)).editHistory_eq "m-1"
  have contents := congrArg (List.map MessageEdit.oldContent) same
  have left : (editHistory "m-1" (Execution.run (contentStep writeEnvironment) emptyRoom
      (createEditDelete "secret"))).map MessageEdit.oldContent = ["secret"] := by
    decide +kernel
  have right : (editHistory "m-1" (Execution.run (contentStep writeEnvironment) emptyRoom
      (createEditDelete "public"))).map MessageEdit.oldContent = ["public"] := by
    decide +kernel
  rw [left, right] at contents
  exact absurd contents (by decide)

end Sample

end Annex.Server
