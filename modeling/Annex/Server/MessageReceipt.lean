import Annex.Server.FederationCorrectness

namespace Annex.Server

open Channels Db Federation Identity Sql

/-! What an acknowledged message of a peer leaves behind: under whose name it is stored,
and whether it is stored at all. -/

variable {Fq Key : Type}

/-- The message passes the checks, and the retention of its channel can be read. -/
structure MessageAccepted (server : FederationServer Fq Key)
    (envelope : FederatedMessageEnvelope) (database : Database) (remote : Instance)
    (identity : FederatedIdentity) (row : ChannelRow) : Prop extends
    MessageAdmitted server envelope database remote identity row where
  retention : RetentionKnown row database

/-- Either the message is stored and broadcast, or a constraint keeps it out and nothing
happens. -/
def Receipt (envelope : FederatedMessageEnvelope) (identity : FederatedIdentity)
    (row : ChannelRow) (database changed : Database) (sent after : List Outbound) : Prop :=
  (CanStore (federatedMessageParams envelope identity.pseudonymId) row.serverId database ∧
    ∃ message, StoresMessage (federatedMessageParams envelope identity.pseudonymId) message
        database changed ∧
      after = sent ++ [.broadcast envelope.channelId (.message (.ofMessage message))]) ∨
  (¬ CanStore (federatedMessageParams envelope identity.pseudonymId) row.serverId database ∧
    changed = database ∧ after = sent)

/-- The row of an attestation of the instance under the commitment and the topic that the
reference names. -/
structure AttestedUnder (remoteInstanceId : Nat) (attestationRef : String)
    (database : Database) (identity : FederatedIdentity) : Prop where
  member : identity ∈ database.federatedIdentities.rows
  origin : identity.remoteInstanceId = remoteInstanceId
  named : parseAttestationRef attestationRef =
    .ok (identity.commitmentHex, identity.vrpTopic)

section Receipt

variable {server : FederationServer Fq Key} {envelope : FederatedMessageEnvelope}
  {database : Database} {sent : List Outbound} {remote : Instance}
  {identity : FederatedIdentity} {row : ChannelRow}

/-- The checks look at one instance, one identity and one channel. -/
theorem MessageAdmitted.unique {otherRemote : Instance} {otherIdentity : FederatedIdentity}
    {otherRow : ChannelRow}
    (admitted : MessageAdmitted server envelope database remote identity row)
    (other : MessageAdmitted server envelope database otherRemote otherIdentity otherRow) :
    otherRemote = remote ∧ otherIdentity = identity ∧ otherRow = row := by
  have sameRemote := Option.some.inj (other.known.symm.trans admitted.known)
  subst sameRemote
  rcases admitted.attested with ⟨commitmentHex, topic, parsed, attested⟩
  rcases other.attested with ⟨otherCommitmentHex, otherTopic, otherParsed, otherAttested⟩
  cases Except.ok.inj (otherParsed.symm.trans parsed)
  exact ⟨rfl, Option.some.inj (otherAttested.symm.trans attested),
    Option.some.inj (other.channel.symm.trans admitted.channel)⟩

theorem receiveFederatedMessageHandler_ensures (envelope : FederatedMessageEnvelope) :
    Ensures (receiveFederatedMessageHandler server envelope) database sent
      fun result changed after => result = .ok () →
        ∃ remote identity row, MessageAccepted server envelope database remote identity row ∧
          Receipt envelope identity row database changed sent after := by
  refine (looks_checkFederatedMessage envelope).ensures_bind
    (fun _ failed => nomatch failed) ?_
  intro pseudonymId answers
  rcases answers_checkFederatedMessage.mp answers with
    ⟨remote, identity, row, admitted, rfl⟩
  refine ensures_bind (ensures_bind (ensures_attempt.mpr
    (ensures_mono ?_ createMessage_outcome)))
  rintro result changed after ⟨outcome, rfl⟩
  rw [andThen_ok]
  unfold MessageOutcome at outcome
  split
  · next message =>
    rcases outcome with ⟨other, found, retention, canStore, stores⟩
    cases Option.some.inj (admitted.channel.symm.trans found)
    rw [ensures_pure, andThen_ok, ensures_send]
    exact fun _ => ⟨remote, identity, row, ⟨admitted, retention⟩,
      Or.inl ⟨canStore, message, stores, rfl⟩⟩
  · next kind text =>
    rcases outcome with ⟨rfl, other, found, retention, cannotStore⟩
    cases Option.some.inj (admitted.channel.symm.trans found)
    rw [ensures_pure, andThen_ok, ensures_pure]
    exact fun _ => ⟨remote, identity, row, ⟨admitted, retention⟩,
      Or.inr ⟨cannotStore, rfl, rfl⟩⟩
  · rw [ensures_fail, andThen_error]
    exact fun failed => nomatch failed

/-- Without failures an accepted message is acknowledged. -/
theorem MessageAccepted.acknowledged
    (accepted : MessageAccepted server envelope database remote identity row) :
    (receiveFederatedMessageHandler server envelope ⟨database, sent, []⟩).1 = .ok () := by
  have answers : Answers (checkFederatedMessage server envelope) database sent
      identity.pseudonymId :=
    answers_checkFederatedMessage.mpr
      ⟨remote, identity, row, accepted.toMessageAdmitted, rfl⟩
  have achieved : Achieves (receiveFederatedMessageHandler server envelope) database sent
      fun _ _ _ => True := by
    refine answers.achieves_bind (achieves_bind (achieves_bind ?_))
    by_cases canStore : CanStore (federatedMessageParams envelope identity.pseudonymId)
        row.serverId database
    · rcases @createMessage_achieves _ _ sent server.clock
        (federatedMessageParams envelope identity.pseudonymId) row accepted.channel canStore
        with ⟨message, changed, after, ran, -⟩
      exact achieves_attempt ran (achieves_pure (achieves_send trivial))
    · rcases @createMessage_refused _ _ sent server.clock
        (federatedMessageParams envelope identity.pseudonymId) row accepted.channel
        accepted.retention canStore with ⟨kind, text, ran⟩
      exact achieves_attempt ran (achieves_pure (achieves_pure trivial))
  rcases achieved with ⟨done, changed, after, ran, -⟩
  rw [ran]

/-- Without failures an accepted message is acknowledged, with its receipt. -/
theorem MessageAccepted.receipt
    (accepted : MessageAccepted server envelope database remote identity row) :
    (receiveFederatedMessageHandler server envelope ⟨database, sent, []⟩).1 = .ok () ∧
      Receipt envelope identity row database
        (receiveFederatedMessageHandler server envelope ⟨database, sent, []⟩).2.database sent
        (receiveFederatedMessageHandler server envelope ⟨database, sent, []⟩).2.memory := by
  have acknowledged := @MessageAccepted.acknowledged _ _ _ _ _ sent _ _ _ accepted
  rcases receiveFederatedMessageHandler_ensures envelope [] acknowledged with
    ⟨otherRemote, otherIdentity, otherRow, other, receipt⟩
  rcases accepted.unique other.toMessageAdmitted with ⟨rfl, rfl, rfl⟩
  exact ⟨acknowledged, receipt⟩

end Receipt

/-! Whose message it is. -/

/-- The messages stored since are from the pseudonym attested under the reference of the
envelope. -/
def Attributed (envelope : FederatedMessageEnvelope) (database changed : Database) : Prop :=
  ∃ remote attested, findInstance envelope.originatingServer database = some remote ∧
    AttestedUnder remote.id envelope.attestationRef database attested ∧
    ∀ message ∈ changed.messages.rows, message ∉ database.messages.rows →
      message.senderPseudonym = attested.pseudonymId

/-- Acknowledged messages are attributed, however statements fail, exactly where the
identity of every accepted message is attested under the named topic too, with the
pseudonym of the commitment's first row if the message is stored. -/
theorem acknowledged_attributed_iff (server : FederationServer Fq Key)
    (envelope : FederatedMessageEnvelope) (database : Database) (sent : List Outbound) :
    (∀ faults,
        (receiveFederatedMessageHandler server envelope ⟨database, sent, faults⟩).1 = .ok () →
          Attributed envelope database
            (receiveFederatedMessageHandler server envelope
              ⟨database, sent, faults⟩).2.database) ↔
      ∀ remote identity row, MessageAccepted server envelope database remote identity row →
        ∃ attested, AttestedUnder remote.id envelope.attestationRef database attested ∧
          (CanStore (federatedMessageParams envelope identity.pseudonymId) row.serverId
            database → attested.pseudonymId = identity.pseudonymId) := by
  constructor
  · intro attributed remote identity row accepted
    rcases @MessageAccepted.receipt _ _ _ _ _ sent _ _ _ accepted with
      ⟨acknowledged, receipt⟩
    rcases attributed [] acknowledged with ⟨found, attested, known, under, senders⟩
    cases Option.some.inj (known.symm.trans accepted.known)
    refine ⟨attested, under, fun canStore => ?_⟩
    rcases receipt with ⟨-, message, stores, -⟩ | ⟨cannotStore, -⟩
    · rw [← senders message (stores.rows ▸ List.mem_concat_self) (canStore.notMem stores)]
      exact stores.stored.senderPseudonym
    · exact absurd canStore cannotStore
  · intro named faults acknowledged
    rcases receiveFederatedMessageHandler_ensures envelope faults acknowledged with
      ⟨remote, identity, row, accepted, receipt⟩
    rcases named remote identity row accepted with ⟨attested, under, same⟩
    refine ⟨remote, attested, accepted.known, under, ?_⟩
    intro message after before
    rcases receipt with ⟨canStore, stored, stores, -⟩ | ⟨-, unchanged, -⟩
    · rw [stores.rows, List.mem_append, List.mem_singleton] at after
      rcases after with old | rfl
      · exact absurd old before
      · exact stores.stored.senderPseudonym.trans (same canStore).symm
    · rw [unchanged] at after
      exact absurd after before

/-! Whether it is stored. -/

/-- The content a message was stored with first, as far as the tables still tell: an edit
keeps the old content in the history, a deletion keeps nothing. -/
def firstContent (message : Message) (database : Database) : Option String :=
  if message.editedAt = none ∧ message.deletedAt = none then
    some message.content
  else
    (database.messageEdits.rows.find? (·.messageId = message.messageId)).map
      MessageEdit.oldContent

/-- A message of the envelope's id is there, in its channel, from the pseudonym attested
under its reference, and first stored with its content. -/
def Received (envelope : FederatedMessageEnvelope) (remoteInstanceId : Nat)
    (database changed : Database) : Prop :=
  ∃ message ∈ changed.messages.rows,
    message.messageId = envelope.messageId ∧ message.channelId = envelope.channelId ∧
      (∃ attested, AttestedUnder remoteInstanceId envelope.attestationRef database attested ∧
        message.senderPseudonym = attested.pseudonymId) ∧
      ∀ content, firstContent message changed = some content → content = envelope.content

section Received

variable {server : FederationServer Fq Key} {envelope : FederatedMessageEnvelope}
  {database changed : Database} {sent after : List Outbound} {remote : Instance}
  {identity : FederatedIdentity} {row : ChannelRow}

/-- A message that is stored is received exactly under the name it is attested with. -/
theorem received_of_stored {message : Message}
    (canStore : CanStore (federatedMessageParams envelope identity.pseudonymId)
      row.serverId database)
    (stores : StoresMessage (federatedMessageParams envelope identity.pseudonymId) message
      database changed) :
    Received envelope remote.id database changed ↔
      ∃ attested, AttestedUnder remote.id envelope.attestationRef database attested ∧
        attested.pseudonymId = identity.pseudonymId := by
  have stored := stores.stored
  constructor
  · rintro ⟨other, member, sameId, -, ⟨attested, under, sender⟩, -⟩
    rw [stores.rows, List.mem_append, List.mem_singleton] at member
    rcases member with old | rfl
    · exact absurd sameId (canStore.messageId_ne old)
    · exact ⟨attested, under, sender.symm.trans stored.senderPseudonym⟩
  · rintro ⟨attested, under, same⟩
    refine ⟨message, stores.rows ▸ List.mem_concat_self, stored.messageId,
      stored.channelId, ⟨attested, under, stored.senderPseudonym.trans same.symm⟩, ?_⟩
    intro content first
    rw [firstContent, if_pos ⟨stored.unedited, stored.undeleted⟩] at first
    exact (Option.some.inj first).symm.trans stored.content

/-- Acknowledged messages are received, however statements fail, exactly where every
accepted message can be stored, with its identity attested as for `Attributed`, or is there
already. -/
theorem acknowledged_received_iff (server : FederationServer Fq Key)
    (envelope : FederatedMessageEnvelope) (database : Database) (sent : List Outbound) :
    (∀ faults,
        (receiveFederatedMessageHandler server envelope ⟨database, sent, faults⟩).1 = .ok () →
          ∃ remote, findInstance envelope.originatingServer database = some remote ∧
            Received envelope remote.id database
              (receiveFederatedMessageHandler server envelope
                ⟨database, sent, faults⟩).2.database) ↔
      ∀ remote identity row, MessageAccepted server envelope database remote identity row →
        (CanStore (federatedMessageParams envelope identity.pseudonymId) row.serverId
            database ∧
          ∃ attested, AttestedUnder remote.id envelope.attestationRef database attested ∧
            attested.pseudonymId = identity.pseudonymId) ∨
        Received envelope remote.id database database := by
  constructor
  · intro received remote identity row accepted
    rcases @MessageAccepted.receipt _ _ _ _ _ sent _ _ _ accepted with
      ⟨acknowledged, receipt⟩
    rcases received [] acknowledged with ⟨found, known, there⟩
    cases Option.some.inj (known.symm.trans accepted.known)
    rcases receipt with ⟨canStore, message, stores, -⟩ | ⟨-, unchanged, -⟩
    · exact Or.inl ⟨canStore, (received_of_stored canStore stores).mp there⟩
    · rw [unchanged] at there
      exact Or.inr there
  · intro condition faults acknowledged
    rcases receiveFederatedMessageHandler_ensures envelope faults acknowledged with
      ⟨remote, identity, row, accepted, receipt⟩
    refine ⟨remote, accepted.known, ?_⟩
    rcases receipt with ⟨canStore, message, stores, -⟩ | ⟨cannotStore, unchanged, -⟩
    · apply (received_of_stored canStore stores).mpr
      rcases condition remote identity row accepted with ⟨-, attested⟩ | there
      · exact attested
      · rcases there with ⟨other, member, sameId, -⟩
        exact absurd sameId (canStore.messageId_ne member)
    · rw [unchanged]
      rcases condition remote identity row accepted with ⟨canStore, -⟩ | there
      · exact absurd canStore cannotStore
      · exact there

end Received

section Sample

/-! A message of a peer for a commitment attested under two topics, and one whose id is
taken in another channel. -/

def receivingServer : FederationServer Unit Unit where
  environment := Environment.sample fun _ => []
  ed25519 := ⟨fun _ => none, fun _ _ _ => .ok (), fun _ => []⟩
  get := fun _ => .error "connection refused"
  curve := ⟨fun _ => none, fun _ => none, fun _ => false, fun _ => false,
    fun _ _ _ => .error ""⟩
  membershipVkey := ()
  serverId := 1
  publicUrl := "https://here.example"
  clock := ⟨"2026-01-01 00:00:00", fun _ => none, 0⟩

def peerKey : String :=
  "0000000000000000000000000000000000000000000000000000000000000001"

def attestedIdentity (id : Nat) (topic pseudonymId : String) : FederatedIdentity :=
  ⟨id, 1, 1, "c0ffee", pseudonymId, topic, "2026-01-01 00:00:00", none, none⟩

/-- A federated channel with the member attested under the topic `alpha`. -/
def receivingDatabase : Database :=
  { migrated with
    servers := singleServer
    instances := Table.empty.insert fun id => ⟨id, "https://peer.example", peerKey, "ACTIVE"⟩
    federationAgreements := Table.empty.insert fun id =>
      ⟨id, 1, 1, "ALIGNED", "REFLECTION_SUMMARIES_ONLY", .foreign "\x7b\x7d", none, true,
        "2026-01-01 00:00:00", "2026-01-01 00:00:00"⟩
    federatedIdentities := Table.empty.insert fun id =>
      attestedIdentity id "alpha" "first pseudonym"
    channels := Table.empty.insert fun id =>
      ⟨id, 1, "room", "Room", .encoded .text, none, none, none, none, some 30,
        .encoded .federated, "2026-01-01 00:00:00"⟩
    channelMembers := Table.empty.insert fun id =>
      ⟨id, 1, "room", "first pseudonym", "MEMBER", "2026-01-01 00:00:00"⟩ }

def relayedMessage (attestationRef : String) : FederatedMessageEnvelope where
  messageId := "message"
  channelId := "room"
  content := "hello"
  senderPseudonym := "remote pseudonym"
  originatingServer := "https://peer.example"
  attestationRef
  signature := peerKey ++ peerKey
  createdAt := "2026-01-01 00:00:00"

/-- The commitment is attested under a second topic. -/
def twiceAttestedDatabase : Database :=
  { receivingDatabase with
    federatedIdentities := receivingDatabase.federatedIdentities.insert fun id =>
      attestedIdentity id "beta" "second pseudonym" }

/-- The message of the second topic is stored under the pseudonym of the first. -/
theorem message_of_second_topic :
    ¬ ∀ (server : FederationServer Unit Unit) (envelope : FederatedMessageEnvelope)
      (database : Database) (faults : List (Option String)),
        (receiveFederatedMessageHandler server envelope ⟨database, [], faults⟩).1 = .ok () →
          Attributed envelope database
            (receiveFederatedMessageHandler server envelope
              ⟨database, [], faults⟩).2.database := by
  intro attributed
  rcases attributed receivingServer (relayedMessage "beta:c0ffee") twiceAttestedDatabase []
    (by decide +kernel) with ⟨remote, attested, -, under, senders⟩
  have sender := senders
    ⟨1, 1, "room", "message", "first pseudonym", "hello", none, "2026-01-01 00:00:00", none,
      none, none⟩ (by decide +kernel) (by decide +kernel)
  have rows : twiceAttestedDatabase.federatedIdentities.rows =
      [attestedIdentity 1 "alpha" "first pseudonym",
        attestedIdentity 2 "beta" "second pseudonym"] := by decide +kernel
  have member := under.member
  rw [rows, List.mem_pair] at member
  rcases member with rfl | rfl
  · exact absurd under.named (by decide +kernel)
  · exact absurd sender (by decide +kernel)

/-- The id of the message is taken in a channel of this server's own. -/
def collidingDatabase : Database :=
  { receivingDatabase with
    messages := Table.empty.insert fun id =>
      ⟨id, 1, "lobby", "message", "local pseudonym", "unrelated", none,
        "2025-12-31 00:00:00", none, none, none⟩ }

/-- The message is acknowledged and lost. -/
theorem message_with_taken_id :
    ¬ ∀ (server : FederationServer Unit Unit) (envelope : FederatedMessageEnvelope)
      (database : Database) (faults : List (Option String)),
        (receiveFederatedMessageHandler server envelope ⟨database, [], faults⟩).1 = .ok () →
          ∃ remote, findInstance envelope.originatingServer database = some remote ∧
            Received envelope remote.id database
              (receiveFederatedMessageHandler server envelope
                ⟨database, [], faults⟩).2.database := by
  intro received
  rcases received receivingServer (relayedMessage "alpha:c0ffee") collidingDatabase []
    (by decide +kernel) with ⟨remote, -, message, member, -, channel, -⟩
  have elsewhere : ∀ message ∈ (receiveFederatedMessageHandler receivingServer
      (relayedMessage "alpha:c0ffee") ⟨collidingDatabase, [], []⟩).2.database.messages.rows,
      message.channelId ≠ "room" := by decide +kernel
  exact elsewhere message member channel

end Sample

end Annex.Server
