import Annex.Channels.StoreCorrectness
import Annex.Foundation.Execution

namespace Annex.Channels

open Db Sql

/-! Runs of the channel store, and what their foreign keys guarantee: a message or a
member without its channel is never stored. -/

/-- An operation that writes to the channel store. -/
inductive StoreOperation where
  | createChannel (now : String) (params : CreateChannelParams)
  | updateChannel (channelId : String) (updates : UpdateChannelParams)
  | deleteChannel (channelId : String)
  | addMember (now : String) (serverId : Nat) (channelId pseudonymId : String)
  | removeMember (serverId : Nat) (channelId pseudonymId : String)
  | createMessage (clock : Clock) (params : CreateMessageParams)
  | editMessage (clock : Clock) (messageId senderPseudonym newContent : String)
  | deleteMessage (clock : Clock) (messageId senderPseudonym : String)

/-- An operation and which of its statements fail. -/
structure StoreCall where
  operation : StoreOperation
  faults : List (Option String)

def discard {Memory α : Type} (program : Sql Database Memory ChannelError α) :
    Sql Database Memory ChannelError Unit := do
  let _ ← program
  pure ()

section Runs

variable (environment : Environment)

def perform : StoreOperation → Sql Database Unit ChannelError Unit
  | .createChannel now params => createChannel now params
  | .updateChannel channelId updates => updateChannel environment channelId updates
  | .deleteChannel channelId => deleteChannel channelId
  | .addMember now serverId channelId pseudonymId =>
      addMember environment now serverId channelId pseudonymId
  | .removeMember serverId channelId pseudonymId =>
      removeMember serverId channelId pseudonymId
  | .createMessage clock params => discard (createMessage clock params)
  | .editMessage clock messageId senderPseudonym newContent =>
      discard (editMessage environment clock messageId senderPseudonym newContent)
  | .deleteMessage clock messageId senderPseudonym =>
      discard (deleteMessage environment clock messageId senderPseudonym)

def storeStep (database : Database) (call : StoreCall) : Database :=
  (perform environment call.operation ⟨database, (), call.faults⟩).2.database

end Runs

/-- The channel store before its first operation. -/
def withoutChannels (base : Database) : Database :=
  { base with
    channels := Table.empty
    channelMembers := Table.empty
    messages := Table.empty
    messageEdits := Table.empty }

/-- What a run of the channel store leaves behind. -/
def storeAfter (environment : Environment) (base : Database) (calls : List StoreCall) :
    Database :=
  Execution.run (storeStep environment) (withoutChannels base) calls

/-- Whether the channel exists. -/
def channelExists (channelId : String) (database : Database) : Bool :=
  database.channels.rows.any (·.channelId = channelId)

/-- Every message and every member has its channel. -/
structure ChannelsReferenced (database : Database) : Prop where
  message : ∀ message ∈ database.messages.rows, channelExists message.channelId database
  member : ∀ member ∈ database.channelMembers.rows, channelExists member.channelId database

/-- No statement of the store breaks the invariant. -/
structure StatementsKeep (invariant : Database → Prop) : Prop where
  insertChannel : ∀ {now : String} {params : CreateChannelParams} {database changed : Database},
    insertChannel now params database = .ok changed → invariant database → invariant changed
  updateChannels : ∀ {channelId : String} {updates : UpdateChannelParams} {database : Database},
    invariant database →
      invariant { database with
        channels := database.channels.updateWhere (·.channelId = channelId) updates.apply }
  deleteMessages : ∀ {selected : Message → Bool} {database changed : Database},
    deleteMessages selected database = .ok changed → invariant database → invariant changed
  deleteMembers : ∀ {selected : ChannelMember → Bool} {database : Database},
    invariant database → invariant (deleteMembers selected database)
  deleteChannelRow : ∀ {channelId : String} {count : Nat} {database changed : Database},
    deleteChannelRow channelId database = .ok (count, changed) →
      invariant database → invariant changed
  insertMember : ∀ {now : String} {serverId : Nat} {channelId pseudonymId : String}
    {database changed : Database},
    insertMember now serverId channelId pseudonymId database = .ok changed →
      invariant database → invariant changed
  insertMessage : ∀ {clock : Clock} {serverId : Nat} {retentionDays : Option Nat}
    {params : CreateMessageParams} {message : Message} {database changed : Database},
    insertMessage clock serverId retentionDays params database = .ok (message, changed) →
      invariant database → invariant changed
  insertEdit : ∀ {now messageId oldContent : String} {database changed : Database},
    insertEdit now messageId oldContent database = .ok changed →
      invariant database → invariant changed
  updateMessages : ∀ {selected : Message → Bool} {change : Message → Message}
    {keyed : ∀ message, key (change message) = key message} {database : Database},
    (∀ message, (change message).channelId = message.channelId) →
      (∀ message, (change message).messageId = message.messageId) →
        invariant database →
          invariant { database with
            messages := database.messages.updateWhere selected change keyed }

section Operations

variable {environment : Environment} {invariant : Database → Prop} {Memory : Type}

theorem preserves_discard {α : Type} {program : Sql Database Memory ChannelError α}
    (preserved : Preserves invariant program) :
    Preserves invariant (discard program) :=
  preserves_bind preserved fun _ => (reads_pure _).preserves

theorem StatementsKeep.addMember (keep : StatementsKeep invariant) {now : String}
    {serverId : Nat} {channelId pseudonymId : String} :
    Preserves invariant (addMember environment now serverId channelId pseudonymId :
      Sql Database Memory ChannelError Unit) := by
  refine preserves_bind looks_getChannel.reads.preserves fun _ => ?_
  refine preserves_bind (preserves_attempt (preserves_execute fun _ _ inserted =>
    keep.insertMember inserted)) fun outcome => ?_
  split
  · exact (reads_pure _).preserves
  · exact (reads_pure _).preserves
  · exact (reads_pure _).preserves
  · exact (reads_fail _).preserves

theorem StatementsKeep.createMessage (keep : StatementsKeep invariant) {clock : Clock}
    {params : CreateMessageParams} :
    Preserves invariant (createMessage clock params :
      Sql Database Memory ChannelError Message) := by
  refine preserves_bind looks_resolveRetentionDays.reads.preserves fun _ => ?_
  exact preserves_statement fun _ _ _ inserted => keep.insertMessage inserted

theorem StatementsKeep.editMessage (keep : StatementsKeep invariant) {clock : Clock}
    {messageId senderPseudonym content : String} :
    Preserves invariant (editMessage environment clock messageId senderPseudonym
      content : Sql Database Memory ChannelError Message) := by
  refine preserves_bind looks_getMessage.reads.preserves fun _ => ?_
  refine preserves_bind looks_checkOwnRecentMessage.reads.preserves fun _ => ?_
  refine preserves_bind (preserves_execute fun _ _ inserted =>
    keep.insertEdit inserted) fun _ => ?_
  refine preserves_bind (preserves_execute ?_) fun _ => looks_getMessage.reads.preserves
  intro database changed edited holds
  cases edited
  exact keep.updateMessages (fun _ => rfl) (fun _ => rfl) holds

theorem StatementsKeep.deleteMessage (keep : StatementsKeep invariant) {clock : Clock}
    {messageId senderPseudonym : String} :
    Preserves invariant (deleteMessage environment clock messageId senderPseudonym :
      Sql Database Memory ChannelError Message) := by
  refine preserves_bind looks_getMessage.reads.preserves fun _ => ?_
  refine preserves_bind looks_checkOwnRecentMessage.reads.preserves fun _ => ?_
  refine preserves_bind (preserves_execute ?_) fun _ => looks_getMessage.reads.preserves
  intro database changed edited holds
  cases edited
  exact keep.updateMessages (fun _ => rfl) (fun _ => rfl) holds

theorem StatementsKeep.updateChannel (keep : StatementsKeep invariant) {channelId : String}
    {updates : UpdateChannelParams} :
    Preserves invariant (updateChannel environment channelId updates :
      Sql Database Memory ChannelError Unit) := by
  unfold Channels.updateChannel
  split
  · exact preserves_bind looks_getChannel.reads.preserves fun _ =>
      (reads_pure _).preserves
  · refine preserves_bind (preserves_statement ?_) fun _ => (reads_check _ _).preserves
    intro database count changed updated holds
    cases updated
    exact keep.updateChannels holds

theorem StatementsKeep.deleteChannel (keep : StatementsKeep invariant) {channelId : String} :
    Preserves invariant (deleteChannel channelId :
      Sql Database Memory ChannelError Unit) := by
  refine preserves_bind (preserves_execute fun _ _ deleted =>
    keep.deleteMessages deleted) fun _ => ?_
  refine preserves_bind (preserves_execute ?_) fun _ => ?_
  · intro database changed deleted holds
    cases deleted
    exact keep.deleteMembers holds
  · exact preserves_bind (preserves_statement fun _ _ _ deleted =>
      keep.deleteChannelRow deleted) fun _ => (reads_check _ _).preserves

/-- Every operation keeps what its statements keep, whichever of them fail. -/
theorem StatementsKeep.perform (keep : StatementsKeep invariant) (operation : StoreOperation) :
    Preserves invariant (perform environment operation) := by
  cases operation with
  | createChannel now params =>
      exact preserves_execute fun _ _ inserted => keep.insertChannel inserted
  | updateChannel channelId updates => exact keep.updateChannel
  | deleteChannel channelId => exact keep.deleteChannel
  | addMember now serverId channelId pseudonymId => exact keep.addMember
  | removeMember serverId channelId pseudonymId =>
      apply preserves_execute
      intro database changed deleted holds
      cases deleted
      exact keep.deleteMembers holds
  | createMessage clock params => exact preserves_discard keep.createMessage
  | editMessage clock messageId senderPseudonym newContent =>
      exact preserves_discard keep.editMessage
  | deleteMessage clock messageId senderPseudonym =>
      exact preserves_discard keep.deleteMessage

end Operations

section Preservation

variable {environment : Environment} {database changed : Database} {Memory : Type}

theorem channelsReferenced_withoutChannels (base : Database) :
    ChannelsReferenced (withoutChannels base) :=
  ⟨fun _ member => (List.not_mem_nil member).elim,
    fun _ member => (List.not_mem_nil member).elim⟩

/-- Only the channels a message or a member names count. -/
theorem ChannelsReferenced.mono (referenced : ChannelsReferenced database)
    (channels : ∀ channelId, channelExists channelId database →
      channelExists channelId changed)
    (messages : ∀ message ∈ changed.messages.rows,
      ∃ old ∈ database.messages.rows, old.channelId = message.channelId)
    (members : ∀ member ∈ changed.channelMembers.rows,
      member ∈ database.channelMembers.rows) : ChannelsReferenced changed := by
  refine ⟨fun message inside => ?_, fun member inside => ?_⟩
  · rcases messages message inside with ⟨old, oldInside, same⟩
    exact channels _ (same ▸ referenced.message old oldInside)
  · exact channels _ (referenced.member member (members member inside))

theorem channelsReferenced_insertChannel {now : String} {params : CreateChannelParams}
    (inserted : insertChannel now params database = .ok changed)
    (referenced : ChannelsReferenced database) : ChannelsReferenced changed := by
  unfold insertChannel at inserted
  split at inserted
  · cases inserted
  · split at inserted
    · cases inserted
    · cases inserted
      refine referenced.mono (fun channelId found => ?_)
        (fun message inside => ⟨message, inside, rfl⟩) fun _ inside => inside
      simp only [channelExists, Table.rows_insert, List.any_append, Bool.or_eq_true]
      exact Or.inl found

theorem channelsReferenced_updateChannels {channelId : String}
    {updates : UpdateChannelParams} (referenced : ChannelsReferenced database) :
    ChannelsReferenced { database with
      channels := database.channels.updateWhere (·.channelId = channelId)
        updates.apply } := by
  refine referenced.mono (fun other found => ?_)
    (fun message inside => ⟨message, inside, rfl⟩) fun _ inside => inside
  rcases List.any_eq_true.mp found with ⟨row, inside, named⟩
  simp only [channelExists]
  refine List.any_eq_true.mpr ⟨_, List.mem_map.mpr ⟨row, inside, rfl⟩, ?_⟩
  split
  · exact named
  · exact named

theorem channelsReferenced_deleteMessages {selected : Message → Bool}
    (deleted : deleteMessages selected database = .ok changed)
    (referenced : ChannelsReferenced database) : ChannelsReferenced changed := by
  unfold deleteMessages at deleted
  split at deleted
  · cases deleted
  · cases deleted
    exact referenced.mono (fun _ found => found)
      (fun message inside => ⟨message, (Table.mem_deleteWhere.mp inside).1, rfl⟩)
      fun _ inside => inside

theorem channelsReferenced_deleteMembers {selected : ChannelMember → Bool}
    (referenced : ChannelsReferenced database) :
    ChannelsReferenced (deleteMembers selected database) :=
  referenced.mono (fun _ found => found) (fun message inside => ⟨message, inside, rfl⟩)
    fun _ inside => (Table.mem_deleteWhere.mp inside).1

/-- A channel goes only when nothing names it any more. -/
theorem channelsReferenced_deleteChannelRow {channelId : String} {count : Nat}
    (deleted : deleteChannelRow channelId database = .ok (count, changed))
    (referenced : ChannelsReferenced database) : ChannelsReferenced changed := by
  unfold deleteChannelRow at deleted
  split at deleted
  · cases deleted
  · next unused =>
    cases deleted
    have kept : ∀ other, other ≠ channelId → channelExists other database →
        channelExists other { database with
          channels := database.channels.deleteWhere (·.channelId = channelId) } := by
      intro other different found
      rcases List.any_eq_true.mp found with ⟨row, inside, named⟩
      refine List.any_eq_true.mpr ⟨row, Table.mem_deleteWhere.mpr ⟨inside, ?_⟩, named⟩
      simp only [decide_eq_true_eq] at named
      simpa [named] using different
    refine ⟨fun message inside => ?_, fun member inside => ?_⟩
    · refine kept _ ?_ (referenced.message message inside)
      rintro rfl
      have found := referenced.message message inside
      have named : database.messages.rows.any (·.channelId = message.channelId) = true :=
        List.any_eq_true.mpr ⟨message, inside, by simp⟩
      rw [channelExists] at found
      simp [found, named] at unused
    · refine kept _ ?_ (referenced.member member inside)
      rintro rfl
      have found := referenced.member member inside
      have named : database.channelMembers.rows.any (·.channelId = member.channelId) =
          true :=
        List.any_eq_true.mpr ⟨member, inside, by simp⟩
      rw [channelExists] at found
      simp [found, named] at unused

theorem channelsReferenced_insertMember {now : String} {serverId : Nat}
    {channelId pseudonymId : String}
    (inserted : insertMember now serverId channelId pseudonymId database = .ok changed)
    (referenced : ChannelsReferenced database) : ChannelsReferenced changed := by
  unfold insertMember at inserted
  split at inserted
  · cases inserted
  · split at inserted
    · cases inserted
    · next present =>
      cases inserted
      simp only [Bool.not_eq_false, Bool.and_eq_true] at present
      refine ⟨referenced.message, fun member inside => ?_⟩
      rcases Table.mem_insert.mp inside with old | rfl
      · exact referenced.member member old
      · exact present.1.2

theorem channelsReferenced_insertMessage {clock : Clock} {serverId : Nat}
    {retentionDays : Option Nat} {params : CreateMessageParams} {message : Message}
    (inserted : insertMessage clock serverId retentionDays params database =
      .ok (message, changed)) (referenced : ChannelsReferenced database) :
    ChannelsReferenced changed := by
  unfold insertMessage at inserted
  split at inserted
  · cases inserted
  · split at inserted
    · cases inserted
    · next present =>
      cases inserted
      simp only [Bool.not_eq_false, Bool.and_eq_true] at present
      refine ⟨fun message inside => ?_, referenced.member⟩
      rcases Table.mem_insert.mp inside with old | rfl
      · exact referenced.message message old
      · exact present.2

theorem channelsReferenced_insertEdit {now messageId oldContent : String}
    (inserted : insertEdit now messageId oldContent database = .ok changed)
    (referenced : ChannelsReferenced database) : ChannelsReferenced changed := by
  unfold insertEdit at inserted
  split at inserted
  · cases inserted
    exact ⟨referenced.message, referenced.member⟩
  · cases inserted

theorem channelsReferenced_updateMessages {selected : Message → Bool}
    {change : Message → Message} {keyed : ∀ message, key (change message) = key message}
    (inPlace : ∀ message, (change message).channelId = message.channelId)
    (referenced : ChannelsReferenced database) :
    ChannelsReferenced { database with
      messages := database.messages.updateWhere selected change keyed } := by
  refine referenced.mono (fun _ found => found) (fun message inside => ?_)
    fun _ inside => inside
  dsimp only at inside
  rcases Table.mem_updateWhere.mp inside with ⟨old, oldInside, rfl⟩
  refine ⟨old, oldInside, ?_⟩
  split
  · exact (inPlace old).symm
  · rfl

theorem statementsKeep_channelsReferenced : StatementsKeep ChannelsReferenced where
  insertChannel := channelsReferenced_insertChannel
  updateChannels := channelsReferenced_updateChannels
  deleteMessages := channelsReferenced_deleteMessages
  deleteMembers := channelsReferenced_deleteMembers
  deleteChannelRow := channelsReferenced_deleteChannelRow
  insertMember := channelsReferenced_insertMember
  insertMessage := channelsReferenced_insertMessage
  insertEdit := channelsReferenced_insertEdit
  updateMessages inPlace _ := channelsReferenced_updateMessages inPlace

end Preservation

/-- After every run of the channel store the references hold. -/
theorem channelsReferenced_storeAfter (environment : Environment) (base : Database)
    (calls : List StoreCall) : ChannelsReferenced (storeAfter environment base calls) :=
  Execution.run_invariant ChannelsReferenced
    (fun _ call referenced =>
      statementsKeep_channelsReferenced.perform call.operation _ referenced)
    (channelsReferenced_withoutChannels base) calls

section Sample

def storeClock : Clock where
  datetime := "2025-01-01 00:00:00"
  datetimePlusDays := fun _ => some "2025-01-02 00:00:00"
  unixSeconds := 0

def oneServer : Database :=
  { migrated with servers := singleServer }

/-- A message is sent to a room and edited. -/
def editedRoom : List StoreCall :=
  [⟨.createChannel "" ⟨1, "room", "Room", .text, none, none, none, none, none, .localOnly⟩,
      []⟩,
    ⟨.createMessage storeClock ⟨"room", "m", "user", "old", none⟩, []⟩,
    ⟨.editMessage storeClock "m" "user" "new", []⟩]

end Sample

/-! What the unique message ids of the store guarantee. -/

/-- No two messages have the same public id. -/
def MessageIdsUnique (database : Database) : Prop :=
  (database.messages.rows.map (·.messageId)).Nodup

section Preservation

variable {database changed : Database}

theorem messageIdsUnique_withoutChannels (base : Database) :
    MessageIdsUnique (withoutChannels base) :=
  List.nodup_nil

theorem messageIdsUnique_insertMessage {clock : Clock} {serverId : Nat}
    {retentionDays : Option Nat} {params : CreateMessageParams} {message : Message}
    (inserted : insertMessage clock serverId retentionDays params database =
      .ok (message, changed)) (unique : MessageIdsUnique database) :
    MessageIdsUnique changed := by
  unfold insertMessage at inserted
  split at inserted
  · cases inserted
  · next fresh =>
    split at inserted
    · cases inserted
    · cases inserted
      have absent : params.messageId ∉ database.messages.rows.map (·.messageId) := by
        intro present
        apply fresh
        rcases List.mem_map.mp present with ⟨row, member, named⟩
        exact List.any_eq_true.mpr ⟨row, member, decide_eq_true named⟩
      unfold MessageIdsUnique
      rw [Table.rows_insert, List.map_append]
      exact List.Nodup.append unique (List.nodup_singleton _)
        (List.disjoint_singleton.mpr absent)

theorem messageIdsUnique_updateMessages {selected : Message → Bool}
    {change : Message → Message} {keyed : ∀ message, key (change message) = key message}
    (named : ∀ message, (change message).messageId = message.messageId)
    (unique : MessageIdsUnique database) :
    MessageIdsUnique { database with
      messages := database.messages.updateWhere selected change keyed } := by
  unfold MessageIdsUnique
  rw [Table.rows_updateWhere, List.map_map]
  have same : (Message.messageId ∘ fun row => if selected row then change row else row) =
      Message.messageId := by
    funext row
    rw [Function.comp_apply]
    split
    · exact named row
    · rfl
  rw [same]
  exact unique

theorem messageIdsUnique_deleteMessages {selected : Message → Bool}
    (deleted : deleteMessages selected database = .ok changed)
    (unique : MessageIdsUnique database) : MessageIdsUnique changed := by
  unfold deleteMessages at deleted
  split at deleted
  · cases deleted
  · cases deleted
    unfold MessageIdsUnique
    rw [Table.rows_deleteWhere]
    exact unique.sublist (List.filter_sublist.map _)

theorem statementsKeep_messageIdsUnique : StatementsKeep MessageIdsUnique where
  insertChannel inserted unique := by
    unfold insertChannel at inserted
    split at inserted
    · cases inserted
    · split at inserted
      · cases inserted
      · cases inserted
        exact unique
  updateChannels unique := unique
  deleteMessages := messageIdsUnique_deleteMessages
  deleteMembers unique := unique
  deleteChannelRow deleted unique := by
    unfold deleteChannelRow at deleted
    split at deleted
    · cases deleted
    · cases deleted
      exact unique
  insertMember inserted unique := by
    unfold insertMember at inserted
    split at inserted
    · cases inserted
    · split at inserted
      · cases inserted
      · cases inserted
        exact unique
  insertMessage := messageIdsUnique_insertMessage
  insertEdit inserted unique := by
    unfold insertEdit at inserted
    split at inserted
    · cases inserted
      exact unique
    · cases inserted
  updateMessages _ named := messageIdsUnique_updateMessages named

end Preservation

/-- After every run of the channel store the ids are unique. -/
theorem messageIdsUnique_storeAfter (environment : Environment) (base : Database)
    (calls : List StoreCall) : MessageIdsUnique (storeAfter environment base calls) :=
  Execution.run_invariant MessageIdsUnique
    (fun _ call unique => statementsKeep_messageIdsUnique.perform call.operation _ unique)
    (messageIdsUnique_withoutChannels base) calls

end Annex.Channels
