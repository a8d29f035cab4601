import Annex.Channels.Store
import Annex.Foundation.SqlAnswer

namespace Annex.Channels

open Db Sql

/-! What the operations of the channel store read and write. -/

variable {Memory : Type} {environment : Environment} {database changed : Database}
  {memory : Memory}

theorem channelId_of_findChannel {channelId : String} {row : ChannelRow}
    (found : findChannel channelId database = some row) :
    database.channels.rows.any (·.channelId = channelId) = true :=
  List.any_eq_true.mpr ⟨row, List.mem_of_find?_eq_some found, by
    simpa using List.find?_some found⟩

/-! Channels. -/

theorem looks_getChannel {channelId : String} :
    Looks (getChannel environment channelId : Sql Database Memory ChannelError Channel) :=
  looks_bind (looks_query _ _) fun _ => looks_require _ _

theorem answers_getChannel {channelId : String} {channel : Channel} :
    Answers (getChannel environment channelId : Sql Database Memory ChannelError Channel)
        database memory channel ↔
      ∃ row, findChannel channelId database = some row ∧
        mapRowToChannel environment row = .ok channel := by
  simp only [getChannel, answers_bind, looks_query, answers_query, answers_require]
  cases findChannel channelId database with
  | none => simp
  | some row =>
      cases decoded : mapRowToChannel environment row <;> simp [Except.map, decoded]

/-! Members. -/

theorem looks_isMember {serverId : Nat} {channelId pseudonymId : String} :
    Looks (isMember serverId channelId pseudonymId : Sql Database Memory ChannelError Bool) :=
  looks_query _ _

theorem answers_isMember {serverId : Nat} {channelId pseudonymId : String} {found : Bool} :
    Answers (isMember serverId channelId pseudonymId : Sql Database Memory ChannelError Bool)
        database memory found ↔ memberOf serverId channelId pseudonymId database = found := by
  simp [isMember]

/-- What a new membership needs. -/
structure CanJoin (serverId : Nat) (channelId pseudonymId : String) (database : Database) :
    Prop where
  fresh : (database.channelMembers.rows.any fun row =>
    row.channelId = channelId && row.pseudonymId = pseudonymId) = false
  server : database.servers.rows.any (·.id = serverId) = true
  channel : database.channels.rows.any (·.channelId = channelId) = true
  identity : (database.platformIdentities.rows.any fun row =>
    row.serverId = serverId && row.pseudonymId = pseudonymId) = true

theorem insertMember_eq_ok {now : String} {serverId : Nat} {channelId pseudonymId : String}
    (inserted : insertMember now serverId channelId pseudonymId database = .ok changed) :
    CanJoin serverId channelId pseudonymId database := by
  unfold insertMember at inserted
  split at inserted
  · cases inserted
  · next fresh =>
    split at inserted
    · cases inserted
    · next present =>
      simp only [Bool.not_eq_false, Bool.and_eq_true] at present
      exact ⟨Bool.eq_false_iff.mpr fresh, present.1.1, present.1.2, present.2⟩

theorem insertMember_memberOf {now : String} {serverId : Nat}
    {channelId pseudonymId : String}
    (inserted : insertMember now serverId channelId pseudonymId database = .ok changed) :
    memberOf serverId channelId pseudonymId changed = true := by
  unfold insertMember at inserted
  split at inserted
  · cases inserted
  · split at inserted
    · cases inserted
    · cases inserted
      simp [memberOf]

theorem CanJoin.notMember {serverId : Nat} {channelId pseudonymId : String}
    (canJoin : CanJoin serverId channelId pseudonymId database) :
    memberOf serverId channelId pseudonymId database = false := by
  rw [memberOf, List.any_eq_false]
  intro row member
  have free := List.any_eq_false.mp canJoin.fresh row member
  simp only [Bool.and_eq_true, decide_eq_true_eq] at free ⊢
  exact fun same => free ⟨same.1.2, same.2⟩

theorem CanJoin.insertMember {now : String} {serverId : Nat}
    {channelId pseudonymId : String}
    (canJoin : CanJoin serverId channelId pseudonymId database) :
    ∃ changed, insertMember now serverId channelId pseudonymId database = .ok changed := by
  simp only [Channels.insertMember, canJoin.fresh, canJoin.server, canJoin.channel,
    canJoin.identity, Bool.and_self, Bool.false_eq_true, Bool.true_eq_false, if_false]
  exact ⟨_, rfl⟩

/-- A membership that is stored has a readable channel. -/
theorem addMember_ensures {now : String} {serverId : Nat}
    {channelId pseudonymId : String} :
    Ensures (addMember environment now serverId channelId pseudonymId) database memory
      fun _ changed _ => changed ≠ database →
        (∃ row channel, findChannel channelId database = some row ∧
          mapRowToChannel environment row = .ok channel) ∧
        CanJoin serverId channelId pseudonymId database := by
  refine looks_getChannel.ensures_bind (fun _ same => absurd rfl same) ?_
  intro channel answers
  rcases answers_getChannel.mp answers with ⟨row, found, decoded⟩
  have inserted : Ensures (execute id (insertMember now serverId channelId pseudonymId))
      database memory fun _ changed _ => changed ≠ database →
        CanJoin serverId channelId pseudonymId database :=
    ensures_execute (fun _ same => absurd rfl same)
      (fun _ written _ => insertMember_eq_ok written) fun _ _ same => absurd rfl same
  refine ensures_bind (ensures_attempt.mpr (ensures_mono ?_ inserted))
  intro outcome changed after held
  have joined : changed ≠ database →
      (∃ row channel, findChannel channelId database = some row ∧
        mapRowToChannel environment row = .ok channel) ∧
      CanJoin serverId channelId pseudonymId database :=
    fun different => ⟨⟨row, channel, found, decoded⟩, held different⟩
  rw [andThen_ok]
  split
  · exact (ensures_pure _).mpr joined
  · exact (ensures_pure _).mpr joined
  · exact (ensures_pure _).mpr joined
  · exact (ensures_fail _).mpr joined

theorem addMember_achieves {now : String} {serverId : Nat}
    {channelId pseudonymId : String} {row : ChannelRow} {channel : Channel}
    (found : findChannel channelId database = some row)
    (decoded : mapRowToChannel environment row = .ok channel)
    (canJoin : CanJoin serverId channelId pseudonymId database) :
    Achieves (addMember environment now serverId channelId pseudonymId) database memory
      fun _ changed _ => memberOf serverId channelId pseudonymId changed = true := by
  have answers : Answers (getChannel environment channelId :
      Sql Database Memory ChannelError Channel) database memory channel :=
    answers_getChannel.mpr ⟨row, found, decoded⟩
  rcases @CanJoin.insertMember _ now _ _ _ canJoin with ⟨changed, inserted⟩
  exact answers.achieves_bind (achieves_bind (achieves_attempt
    (by rw [execute_apply, inserted]) (achieves_pure (insertMember_memberOf inserted))))

/-! Messages. -/

theorem looks_resolveRetentionDays {channelId : String} :
    Looks (resolveRetentionDays channelId :
      Sql Database Memory ChannelError (Nat × Option Nat)) := by
  refine looks_bind (looks_query _ _) fun _ => looks_bind (looks_require _ _) ?_
  rintro ⟨serverId, _ | days⟩
  · exact looks_bind (looks_query _ _) fun _ => looks_pure _
  · exact looks_pure _

/-- No constraint stands behind a failed read. -/
theorem failsWith_resolveRetentionDays {channelId : String} :
    FailsWith (fun error => ∀ kind text, error ≠ .database (.constraint kind text))
      (resolveRetentionDays channelId :
        Sql Database Memory ChannelError (Nat × Option Nat)) := by
  refine failsWith_bind (failsWith_query (by simp) (by simp)) fun _ =>
    failsWith_bind (failsWith_require (by simp)) ?_
  rintro ⟨serverId, _ | days⟩
  · refine failsWith_bind (failsWith_query (by simp) ?_) fun _ => failsWith_pure
    intro database error refused
    cases stored : database.servers.rows.find? (·.id = serverId) with
    | none =>
        rw [stored] at refused
        cases refused
        simp
    | some row =>
        rw [stored] at refused
        cases refused
  · exact failsWith_pure

/-- The retention of a channel can be read: the channel has its own, or its server is
there. -/
def RetentionKnown (row : ChannelRow) (database : Database) : Prop :=
  row.retentionDays = none → database.servers.rows.any (·.id = row.serverId) = true

theorem answers_resolveRetentionDays {channelId : String} {serverId : Nat}
    {retentionDays : Option Nat}
    (answers : Answers (resolveRetentionDays channelId :
      Sql Database Memory ChannelError (Nat × Option Nat)) database memory
        (serverId, retentionDays)) :
    ∃ row, findChannel channelId database = some row ∧ row.serverId = serverId ∧
      RetentionKnown row database := by
  simp only [resolveRetentionDays, answers_bind, looks_query, looks_require, answers_query,
    answers_require] at answers
  rcases answers with ⟨_, ⟨⟩, ⟨resolved, days⟩, found, rest⟩
  rcases Option.map_eq_some_iff.mp found with ⟨row, foundRow, equal⟩
  cases equal
  refine ⟨row, foundRow, ?_⟩
  cases own : row.retentionDays with
  | some days =>
      simp only [own, answers_pure, Prod.mk.injEq] at rest
      refine ⟨rest.1, fun unset => ?_⟩
      rw [own] at unset
      cases unset
  | none =>
      simp only [own, answers_bind, looks_query, answers_query, answers_pure,
        Prod.mk.injEq] at rest
      rcases rest with ⟨policyJson, stored, same, -⟩
      refine ⟨same, fun _ => ?_⟩
      cases server : database.servers.rows.find? (·.id = row.serverId) with
      | none => simp [server] at stored
      | some serverRow =>
          exact List.any_eq_true.mpr ⟨serverRow, List.mem_of_find?_eq_some server, by
            simpa using List.find?_some server⟩

theorem resolveRetentionDays_answers {channelId : String} {row : ChannelRow}
    (found : findChannel channelId database = some row)
    (known : RetentionKnown row database) :
    ∃ retentionDays, Answers (resolveRetentionDays channelId :
      Sql Database Memory ChannelError (Nat × Option Nat)) database memory
        (row.serverId, retentionDays) := by
  simp only [resolveRetentionDays, answers_bind, looks_query, looks_require, answers_query,
    answers_require, found]
  cases own : row.retentionDays with
  | some days => exact ⟨some days, _, rfl, _, by rw [Option.map_some, own], by simp⟩
  | none =>
      cases stored : database.servers.rows.find? (·.id = row.serverId) with
      | none =>
          rw [List.find?_eq_none] at stored
          rcases List.any_eq_true.mp (known own) with ⟨other, member, same⟩
          exact absurd same (stored other member)
      | some serverRow =>
          exact ⟨some (serverRow.policyJson.decode.getD ServerPolicy.default).defaultRetentionDays,
            _, rfl, _, by rw [Option.map_some, own], by simp [answers_bind, stored]⟩

/-- What a new message of a channel's server needs. -/
structure CanStore (params : CreateMessageParams) (serverId : Nat) (database : Database) :
    Prop where
  fresh : database.messages.rows.any (·.messageId = params.messageId) = false
  server : database.servers.rows.any (·.id = serverId) = true
  channel : database.channels.rows.any (·.channelId = params.channelId) = true

/-- A message as it is stored first. -/
structure StoredAs (params : CreateMessageParams) (message : Message) : Prop where
  channelId : message.channelId = params.channelId
  messageId : message.messageId = params.messageId
  senderPseudonym : message.senderPseudonym = params.senderPseudonym
  content : message.content = params.content
  unedited : message.editedAt = none
  undeleted : message.deletedAt = none

/-- A new message changes the table of messages alone. -/
structure StoresMessage (params : CreateMessageParams) (message : Message)
    (database changed : Database) : Prop where
  stored : StoredAs params message
  rows : changed.messages.rows = database.messages.rows ++ [message]
  frame : changed = { database with messages := changed.messages }

theorem StoresMessage.ne {params : CreateMessageParams} {message : Message}
    (stores : StoresMessage params message database changed) : changed ≠ database := by
  intro same
  have rows := stores.rows
  rw [same] at rows
  simp at rows

theorem insertMessage_eq_ok {clock : Clock} {serverId : Nat} {retentionDays : Option Nat}
    {params : CreateMessageParams} {message : Message}
    (inserted : insertMessage clock serverId retentionDays params database =
      .ok (message, changed)) :
    CanStore params serverId database ∧ StoresMessage params message database changed := by
  unfold insertMessage at inserted
  split at inserted
  · cases inserted
  · next fresh =>
    split at inserted
    · cases inserted
    · next present =>
      simp only [Bool.not_eq_false, Bool.and_eq_true] at present
      cases inserted
      exact ⟨⟨Bool.eq_false_iff.mpr fresh, present.1, present.2⟩,
        ⟨⟨rfl, rfl, rfl, rfl, rfl, rfl⟩, rfl, rfl⟩⟩

theorem CanStore.messageId_ne {params : CreateMessageParams} {serverId : Nat}
    {message : Message} (canStore : CanStore params serverId database)
    (member : message ∈ database.messages.rows) : message.messageId ≠ params.messageId := by
  simpa using List.any_eq_false.mp canStore.fresh message member

/-- A message that is stored was not there. -/
theorem CanStore.notMem {params : CreateMessageParams} {serverId : Nat} {message : Message}
    (canStore : CanStore params serverId database)
    (stores : StoresMessage params message database changed) :
    message ∉ database.messages.rows :=
  fun present => canStore.messageId_ne present stores.stored.messageId

theorem CanStore.insertMessage {clock : Clock} {serverId : Nat}
    {retentionDays : Option Nat} {params : CreateMessageParams}
    (canStore : CanStore params serverId database) :
    ∃ message changed, insertMessage clock serverId retentionDays params database =
      .ok (message, changed) := by
  simp only [Channels.insertMessage, canStore.fresh, canStore.server, canStore.channel,
    Bool.and_self, Bool.false_eq_true, Bool.true_eq_false, if_false]
  exact ⟨_, _, rfl⟩

/-- Only a constraint keeps a message from being stored. -/
theorem insertMessage_eq_error {clock : Clock} {serverId : Nat}
    {retentionDays : Option Nat} {params : CreateMessageParams}
    (cannotStore : ¬ CanStore params serverId database) :
    ∃ kind text, insertMessage clock serverId retentionDays params database =
      .error (.constraint kind text) := by
  unfold insertMessage
  split
  · exact ⟨_, _, rfl⟩
  · next fresh =>
    split
    · exact ⟨_, _, rfl⟩
    · next present =>
      simp only [Bool.not_eq_false, Bool.and_eq_true] at present
      exact absurd ⟨Bool.eq_false_iff.mpr fresh, present.1, present.2⟩ cannotStore

/-- What the answer to a new message says of the database. -/
def MessageOutcome (params : CreateMessageParams) (database : Database) :
    Except ChannelError Message → Database → Prop
  | .ok message, changed => ∃ row, findChannel params.channelId database = some row ∧
      RetentionKnown row database ∧ CanStore params row.serverId database ∧
      StoresMessage params message database changed
  | .error (.database (.constraint _ _)), changed =>
      changed = database ∧ ∃ row, findChannel params.channelId database = some row ∧
        RetentionKnown row database ∧ ¬ CanStore params row.serverId database
  | .error _, changed => changed = database

theorem createMessage_outcome {clock : Clock} {params : CreateMessageParams} :
    Ensures (createMessage clock params) database memory fun result changed after =>
      MessageOutcome params database result changed ∧ after = memory := by
  refine looks_resolveRetentionDays.ensures_bind_of failsWith_resolveRetentionDays ?_ ?_
  · intro error allowed
    refine ⟨?_, rfl⟩
    unfold MessageOutcome
    split
    · next failed => cases failed
    · next kind text failed => exact absurd (Except.error.inj failed) (allowed kind text)
    · rfl
  · rintro ⟨serverId, retentionDays⟩ answers
    rcases answers_resolveRetentionDays answers with ⟨row, found, rfl, known⟩
    refine ensures_statement (fun _ => ⟨rfl, rfl⟩) ?_ ?_
    · intro message changed inserted
      rcases insertMessage_eq_ok inserted with ⟨canStore, stores⟩
      exact ⟨⟨row, found, known, canStore, stores⟩, rfl⟩
    · intro error refused
      by_cases canStore : CanStore params row.serverId database
      · rcases canStore.insertMessage with ⟨message, changed, inserted⟩
        rw [inserted] at refused
        cases refused
      · rcases insertMessage_eq_error canStore with ⟨kind, text, violated⟩
        cases Except.error.inj (refused.symm.trans violated)
        exact ⟨⟨rfl, row, found, known, canStore⟩, rfl⟩

/-- A message that is stored has a channel whose server can store it. -/
theorem createMessage_ensures {clock : Clock} {params : CreateMessageParams} :
    Ensures (createMessage clock params) database memory fun _ changed _ =>
      changed ≠ database → ∃ row, findChannel params.channelId database = some row ∧
        CanStore params row.serverId database := by
  refine ensures_mono ?_ createMessage_outcome
  rintro (error | message) changed - ⟨outcome, -⟩ different
  · unfold MessageOutcome at outcome
    split at outcome
    · next failed => cases failed
    · exact absurd outcome.1 different
    · exact absurd outcome different
  · rcases outcome with ⟨row, found, -, canStore, -⟩
    exact ⟨row, found, canStore⟩

theorem createMessage_achieves {clock : Clock} {params : CreateMessageParams}
    {row : ChannelRow} (found : findChannel params.channelId database = some row)
    (canStore : CanStore params row.serverId database) :
    Achieves (createMessage clock params) database memory fun message changed _ =>
      StoresMessage params message database changed := by
  rcases resolveRetentionDays_answers found fun _ => canStore.server with
    ⟨retentionDays, answers⟩
  rcases canStore.insertMessage with ⟨message, changed, inserted⟩
  exact answers.achieves_bind (achieves_statement inserted (insertMessage_eq_ok inserted).2)

theorem createMessage_refused {clock : Clock} {params : CreateMessageParams}
    {row : ChannelRow} (found : findChannel params.channelId database = some row)
    (known : RetentionKnown row database)
    (cannotStore : ¬ CanStore params row.serverId database) :
    ∃ kind text, createMessage clock params ⟨database, memory, []⟩ =
      (.error (.database (.constraint kind text)), ⟨database, memory, []⟩) := by
  rcases @resolveRetentionDays_answers _ _ memory _ _ found known with
    ⟨retentionDays, answers⟩
  rcases @insertMessage_eq_error database clock _ retentionDays _ cannotStore with
    ⟨kind, text, violated⟩
  exact ⟨kind, text, (bind_ok answers).trans (statement_refused rfl violated)⟩

/-! Edits and deletions. -/

theorem answers_getMessage {messageId : String} {message : Message} :
    Answers (getMessage messageId : Sql Database Memory ChannelError Message) database memory
      message ↔ findMessage messageId database = some message := by
  simp [getMessage, answers_bind]

theorem looks_getMessage {messageId : String} :
    Looks (getMessage messageId : Sql Database Memory ChannelError Message) :=
  looks_bind (looks_query _ _) fun _ => looks_require _ _

theorem looks_checkOwnRecentMessage {clock : Clock} {message : Message}
    {messageId senderPseudonym deletedText expiredText : String} :
    Looks (checkOwnRecentMessage environment clock message messageId senderPseudonym
      deletedText expiredText : Sql Database Memory ChannelError Unit) :=
  looks_bind (looks_check _ _) fun _ => looks_bind (looks_check _ _) fun _ =>
    looks_bind (looks_require _ _) fun _ => looks_check _ _

theorem answers_checkOwnRecentMessage {clock : Clock} {message : Message}
    {messageId senderPseudonym deletedText expiredText : String} {done : Unit} :
    Answers (checkOwnRecentMessage environment clock message messageId senderPseudonym
        deletedText expiredText : Sql Database Memory ChannelError Unit) database memory done ↔
      message.senderPseudonym = senderPseudonym ∧ message.deletedAt = none ∧
        ∃ created, environment.parseDatetime message.createdAt = some created ∧
          clock.unixSeconds - created ≤ editWindowSeconds := by
  simp [checkOwnRecentMessage, answers_bind]

/-- What precedes the writes of an edit or a deletion: the message is there and is the
caller's own. -/
theorem ensures_ownMessage {clock : Clock}
    {messageId senderPseudonym deletedText expiredText : String}
    {rest : Message → Sql Database Memory ChannelError Message}
    {post : Except ChannelError Message → Database → Memory → Prop}
    (refused : ∀ error, post (.error error) database memory)
    (owned : ∀ message, findMessage messageId database = some message →
      message.senderPseudonym = senderPseudonym → message.deletedAt = none →
        Ensures (rest message) database memory post) :
    Ensures (do
        let message ← getMessage messageId
        checkOwnRecentMessage environment clock message messageId senderPseudonym
          deletedText expiredText
        rest message) database memory post := by
  refine looks_getMessage.ensures_bind refused fun message answers => ?_
  refine looks_checkOwnRecentMessage.ensures_bind refused fun _ passed => ?_
  have own := answers_checkOwnRecentMessage.mp passed
  exact owned message (answers_getMessage.mp answers) own.1 own.2.1

/-- An edit that changes anything is of a message of the caller's own. -/
theorem editMessage_ensures {clock : Clock} {messageId senderPseudonym content : String} :
    Ensures (editMessage environment clock messageId senderPseudonym content :
        Sql Database Memory ChannelError Message) database memory fun _ changed _ =>
      changed ≠ database → ∃ message, findMessage messageId database = some message ∧
        message.senderPseudonym = senderPseudonym := by
  refine ensures_ownMessage (fun _ same => absurd rfl same) fun message found own _ => ?_
  exact fun faults _ => ⟨message, found, own⟩

theorem deleteMessage_ensures {clock : Clock} {messageId senderPseudonym : String} :
    Ensures (deleteMessage environment clock messageId senderPseudonym :
        Sql Database Memory ChannelError Message) database memory fun _ changed _ =>
      changed ≠ database → ∃ message, findMessage messageId database = some message ∧
        message.senderPseudonym = senderPseudonym := by
  refine ensures_ownMessage (fun _ same => absurd rfl same) fun message found own _ => ?_
  exact fun faults _ => ⟨message, found, own⟩

end Annex.Channels
