import Annex.Channels.StoreCorrectness
import Annex.Server.Federation

namespace Annex.Server

open Channels Db Federation Identity Rtx Sql Vrp

/-! Exactly when each federation endpoint may change the database. -/

section Origin

variable {database : Database} {sent : List Outbound}

theorem looks_resolveInstance (baseUrl : String) : Looks (resolveInstance baseUrl) :=
  looks_query _ _

theorem answers_resolveInstance {baseUrl : String} {remote : Instance} :
    Answers (resolveInstance baseUrl) database sent remote ↔
      findInstance baseUrl database = some remote := by
  rw [resolveInstance, answers_query]
  cases findInstance baseUrl database <;> simp

theorem looks_resolveFederatedInstance (originatingServer : String) :
    Looks (resolveFederatedInstance originatingServer) :=
  looks_bind (looks_resolveInstance _) fun _ => looks_bind (looks_check _ _) fun _ =>
    looks_bind (looks_query _ _) fun _ => looks_bind (looks_check _ _) fun _ =>
    looks_pure _

theorem answers_resolveFederatedInstance {originatingServer : String}
    {remote : Instance} :
    Answers (resolveFederatedInstance originatingServer) database sent remote ↔
      findInstance originatingServer database = some remote ∧ remote.status = "ACTIVE" ∧
        anyActiveAgreement remote.id database = true := by
  simp [resolveFederatedInstance, answers_bind, looks_resolveInstance,
    answers_resolveInstance]

end Origin

variable {Fq Key : Type} {server : FederationServer Fq Key} {database : Database}
  {sent : List Outbound}

/-! Relayed messages. -/

/-- What the checks on a relayed message ask for. -/
structure MessageAdmitted (server : FederationServer Fq Key)
    (envelope : FederatedMessageEnvelope) (database : Database) (remote : Instance)
    (identity : FederatedIdentity) (row : ChannelRow) : Prop where
  known : findInstance envelope.originatingServer database = some remote
  active : remote.status = "ACTIVE"
  agreed : anyActiveAgreement remote.id database = true
  signed : verifySignature server remote.publicKey envelope.signature
    (messageSignatureInput envelope) = .ok ()
  attested : ∃ commitmentHex topic,
    parseAttestationRef envelope.attestationRef = .ok (commitmentHex, topic) ∧
      findAttested remote.id commitmentHex database = some identity
  fresh : attestationStale server envelope.originatingServer
    (identity.rootHexAtVerification.getD "") = false
  channel : findChannel envelope.channelId database = some row
  federated : ∃ channel, mapRowToChannel server.environment row = .ok channel ∧
    channel.federationScope = .federated
  member : memberOf server.serverId envelope.channelId identity.pseudonymId database = true

theorem looks_checkFederatedMessage (envelope : FederatedMessageEnvelope) :
    Looks (checkFederatedMessage server envelope) :=
  looks_bind (looks_connect _) fun _ =>
    looks_bind (looks_resolveFederatedInstance _) fun _ =>
    looks_bind (looks_ofExcept _) fun _ => looks_bind (looks_ofExcept _) fun _ =>
    looks_bind (looks_query _ _) fun _ => looks_bind (looks_check _ _) fun _ =>
    looks_bind (looks_mapErr looks_getChannel) fun _ =>
    looks_bind (looks_check _ _) fun _ =>
    looks_bind (looks_mapErr (looks_query _ _)) fun _ =>
    looks_bind (looks_check _ _) fun _ => looks_pure _

theorem answers_checkFederatedMessage {envelope : FederatedMessageEnvelope}
    {pseudonymId : String} :
    Answers (checkFederatedMessage server envelope) database sent pseudonymId ↔
      ∃ remote identity row, MessageAdmitted server envelope database remote identity row ∧
        identity.pseudonymId = pseudonymId := by
  simp only [checkFederatedMessage, isMember, answers_bind, answers_connect,
    answers_ofExcept, answers_check, answers_query, answers_pure, looks_connect,
    looks_ofExcept, looks_check, looks_query, looks_resolveFederatedInstance,
    answers_resolveFederatedInstance, looks_mapErr, answers_mapErr, looks_getChannel,
    answers_getChannel, exists_const, true_and, Prod.exists]
  constructor
  · rintro ⟨remote, ⟨known, active, agreed⟩, _, signed, commitmentHex, topic, parsed,
      identity, found, fresh, channel, ⟨row, foundRow, decoded⟩, federated, _, member, isTrue,
      same⟩
    cases attested : findAttested remote.id commitmentHex database with
    | none => simp [attested] at found
    | some other =>
        simp only [attested, Except.ok.injEq] at found
        cases found
        refine ⟨remote, identity, row, ⟨known, active, agreed, signed,
          ⟨commitmentHex, topic, parsed, attested⟩, fresh, foundRow,
          ⟨channel, decoded, federated⟩, ?_⟩, same⟩
        exact (Except.ok.inj member).trans isTrue
  · rintro ⟨remote, identity, row, admitted, same⟩
    rcases admitted.attested with ⟨commitmentHex, topic, parsed, attested⟩
    rcases admitted.federated with ⟨channel, decoded, federated⟩
    exact ⟨remote, ⟨admitted.known, admitted.active, admitted.agreed⟩, (), admitted.signed,
      commitmentHex, topic, parsed, identity, by rw [attested], admitted.fresh, channel,
      ⟨row, admitted.channel, decoded⟩, federated, _, rfl, admitted.member, same⟩

/-- What a relayed message must satisfy for anything to be written. -/
def MessageAdmissible (server : FederationServer Fq Key)
    (envelope : FederatedMessageEnvelope) (database : Database) : Prop :=
  ∃ remote identity row, MessageAdmitted server envelope database remote identity row ∧
    CanStore (federatedMessageParams envelope identity.pseudonymId) row.serverId database

theorem receiveFederatedMessageHandler_mayChange (envelope : FederatedMessageEnvelope) :
    MayChange (receiveFederatedMessageHandler server envelope) database sent ↔
      MessageAdmissible server envelope database := by
  refine mayChange_iff ?_ ?_
  · refine (looks_checkFederatedMessage envelope).ensures_bind
      (fun _ same => absurd rfl same) ?_
    intro pseudonymId answers
    rcases answers_checkFederatedMessage.mp answers with
      ⟨remote, identity, row, admitted, rfl⟩
    have stored : Ensures (createMessage server.clock
        (federatedMessageParams envelope identity.pseudonymId)) database sent
        fun _ changed _ => changed ≠ database →
          MessageAdmissible server envelope database := by
      refine ensures_mono ?_ createMessage_ensures
      intro _ changed _ held different
      rcases held different with ⟨other, found, canStore⟩
      cases Option.some.inj (admitted.channel.symm.trans found)
      exact ⟨remote, identity, row, admitted, canStore⟩
    refine ensures_bind (ensures_bind (ensures_attempt.mpr (ensures_mono ?_ stored)))
    intro result changed after held
    rw [andThen_ok]
    split
    · rw [ensures_pure, andThen_ok, ensures_send]
      exact held
    · rw [ensures_pure, andThen_ok, ensures_pure]
      exact held
    · rw [ensures_fail, andThen_error]
      exact held
  · rintro ⟨remote, identity, row, admitted, canStore⟩
    have answers : Answers (checkFederatedMessage server envelope) database sent
        identity.pseudonymId :=
      answers_checkFederatedMessage.mpr ⟨remote, identity, row, admitted, rfl⟩
    rcases @createMessage_achieves _ _ sent server.clock
      (federatedMessageParams envelope identity.pseudonymId) row admitted.channel canStore
      with ⟨message, changed, after, ran, stores⟩
    refine answers.achieves_bind (achieves_bind (achieves_bind
      (achieves_attempt ran (achieves_pure ?_))))
    exact achieves_send stores.ne

/-! Attested identities. -/

/-- What the checks on an attestation ask for: the instance may be in any state. -/
structure AttestationAdmitted (server : FederationServer Fq Key)
    (payload : AttestationRequest) (database : Database) (remote : Instance)
    (remoteRootHex : String) : Prop where
  known : findInstance payload.originatingServer database = some remote
  signed : verifySignature server remote.publicKey payload.signature
    (String.intercalate "\n"
      [payload.topic, payload.commitment, payload.participantType]) = .ok ()
  fetched : fetchRemoteRoot server payload.originatingServer = .ok remoteRootHex
  proved : ∃ proof remoteRoot commitment,
    parseProof server.curve server.environment payload.proof = .ok proof ∧
      parseFrFromHex remoteRootHex = .ok remoteRoot ∧
      parseFrFromHex payload.commitment = .ok commitment ∧
      verifyProof server.curve server.membershipVkey proof [remoteRoot, commitment] =
        .ok true

theorem looks_checkAttestation (payload : AttestationRequest) :
    Looks (checkAttestation server payload) :=
  looks_bind (looks_connect _) fun _ => looks_bind (looks_resolveInstance _) fun _ =>
    looks_bind (looks_ofExcept _) fun _ => looks_bind (looks_ofExcept _) fun _ =>
    looks_bind (looks_orElse _ _) fun _ => looks_bind (looks_orElse _ _) fun _ =>
    looks_bind (looks_orElse _ _) fun _ => looks_bind (looks_orElse _ _) fun _ =>
    looks_bind (looks_check _ _) fun _ => looks_pure _

theorem answers_checkAttestation {payload : AttestationRequest} {remote : Instance}
    {remoteRootHex : String} :
    Answers (checkAttestation server payload) database sent (remote, remoteRootHex) ↔
      AttestationAdmitted server payload database remote remoteRootHex := by
  simp only [checkAttestation, answers_bind, answers_connect, answers_ofExcept,
    answers_orElse, answers_check, answers_pure, looks_connect, looks_ofExcept,
    looks_orElse, looks_check, looks_resolveInstance, answers_resolveInstance,
    exists_const, true_and, Prod.mk.injEq]
  constructor
  · rintro ⟨_, known, _, signed, _, fetched, proof, proofParsed, remoteRoot, rootParsed,
      commitment, commitmentParsed, valid, verified, isTrue, rfl, rfl⟩
    exact ⟨known, signed, fetched,
      ⟨proof, remoteRoot, commitment, proofParsed, rootParsed, commitmentParsed,
        isTrue ▸ verified⟩⟩
  · rintro ⟨known, signed, fetched, proof, remoteRoot, commitment, proofParsed, rootParsed,
      commitmentParsed, verified⟩
    exact ⟨remote, known, (), signed, remoteRootHex, fetched, proof, proofParsed,
      remoteRoot, rootParsed, commitment, commitmentParsed, true, verified, rfl, rfl, rfl⟩

/-- The names an attestation derives. -/
structure AttestationNamed (server : FederationServer Fq Key)
    (payload : AttestationRequest) (pseudonymId : String) (nodeType : NodeType) :
    Prop where
  derived : ∃ nullifierHex,
    deriveNullifierHex server.environment payload.commitment payload.topic =
        .ok nullifierHex ∧
      derivePseudonymId server.environment payload.topic nullifierHex = .ok pseudonymId
  typed : participantNodeType payload.participantType = .ok nodeType

theorem looks_attestedNames (payload : AttestationRequest) :
    Looks (attestedNames server payload) :=
  looks_bind (looks_connect _) fun _ => looks_bind (looks_orElse _ _) fun _ =>
    looks_bind (looks_orElse _ _) fun _ => looks_bind (looks_ofExcept _) fun _ =>
    looks_pure _

theorem answers_attestedNames {payload : AttestationRequest} {pseudonymId : String}
    {nodeType : NodeType} :
    Answers (attestedNames server payload) database sent (pseudonymId, nodeType) ↔
      AttestationNamed server payload pseudonymId nodeType := by
  simp only [attestedNames, answers_bind, answers_connect, answers_ofExcept, answers_orElse,
    answers_pure, looks_connect, looks_ofExcept, looks_orElse, exists_const, true_and,
    Prod.mk.injEq]
  constructor
  · rintro ⟨nullifierHex, nullifier, _, pseudonym, _, typed, rfl, rfl⟩
    exact ⟨⟨nullifierHex, nullifier, pseudonym⟩, typed⟩
  · rintro ⟨⟨nullifierHex, nullifier, pseudonym⟩, typed⟩
    exact ⟨nullifierHex, nullifier, pseudonymId, pseudonym, nodeType, typed, rfl, rfl⟩

/-- What the writes of an attestation need. -/
structure CanRecord (server : FederationServer Fq Key) (remoteInstanceId : Nat)
    (pseudonymId : String) (database : Database) : Prop where
  identity : (database.federatedIdentities.rows.any
        (attestedBy server.serverId remoteInstanceId pseudonymId) ||
      (database.servers.rows.any (·.id = server.serverId) &&
        database.instances.rows.any (·.id = remoteInstanceId))) = true
  node : Graph.KnownNode server.serverId pseudonymId database

/-- Everything an attestation writes is there already, to the second. -/
structure AlreadyRecorded (server : FederationServer Fq Key)
    (payload : AttestationRequest) (remoteInstanceId : Nat)
    (remoteRootHex pseudonymId : String) (database : Database) : Prop where
  identity : (∃ row ∈ database.federatedIdentities.rows,
      attestedBy server.serverId remoteInstanceId pseudonymId row = true) ∧
    ∀ row ∈ database.federatedIdentities.rows,
      attestedBy server.serverId remoteInstanceId pseudonymId row = true →
        row.attestedAt = server.clock.datetime ∧ row.commitmentHex = payload.commitment ∧
        row.vrpTopic = payload.topic ∧ row.rootHexAtVerification = some remoteRootHex ∧
        row.lastVerifiedAt = some server.clock.datetime
  platform : (∃ row ∈ database.platformIdentities.rows,
      row.serverId = server.serverId ∧ row.pseudonymId = pseudonymId) ∧
    ∀ row ∈ database.platformIdentities.rows,
      row.serverId = server.serverId → row.pseudonymId = pseudonymId →
        row.active = true ∧ row.participantType = payload.participantType
  node : (∃ row ∈ database.graphNodes.rows,
      row.serverId = server.serverId ∧ row.pseudonymId = pseudonymId) ∧
    ∀ row ∈ database.graphNodes.rows,
      row.serverId = server.serverId → row.pseudonymId = pseudonymId →
        row.active = true ∧ row.lastSeenAt = some server.clock.datetime

/-- The first write, once its references are there. -/
def recordIdentity (server : FederationServer Fq Key) (payload : AttestationRequest)
    (remoteInstanceId : Nat) (remoteRootHex pseudonymId : String) (database : Database) :
    Database :=
  { database with
    federatedIdentities := database.federatedIdentities.upsert
      (attestedBy server.serverId remoteInstanceId pseudonymId)
      (attest server payload remoteRootHex)
      (newFederatedIdentity server payload remoteInstanceId remoteRootHex pseudonymId)
      (key_attest server payload remoteRootHex)
      (key_newFederatedIdentity server payload remoteInstanceId remoteRootHex pseudonymId) }

/-- The database after the three writes. -/
def recorded (server : FederationServer Fq Key) (payload : AttestationRequest)
    (remoteInstanceId : Nat) (remoteRootHex pseudonymId : String) (nodeType : NodeType)
    (database : Database) : Database :=
  Graph.upsertGraphNode server.serverId pseudonymId nodeType none server.clock.datetime
    (upsertAttestedPlatformIdentity server pseudonymId payload.participantType
      (recordIdentity server payload remoteInstanceId remoteRootHex pseudonymId database))

section Record

variable {payload : AttestationRequest} {remoteInstanceId : Nat}
  {remoteRootHex pseudonymId : String} {nodeType : NodeType}

theorem attest_eq_self_iff {row : FederatedIdentity} :
    attest server payload remoteRootHex row = row ↔
      row.attestedAt = server.clock.datetime ∧ row.commitmentHex = payload.commitment ∧
        row.vrpTopic = payload.topic ∧ row.rootHexAtVerification = some remoteRootHex ∧
        row.lastVerifiedAt = some server.clock.datetime := by
  cases row
  simp only [attest, FederatedIdentity.mk.injEq, true_and]
  constructor
  · rintro ⟨rfl, rfl, rfl, rfl, rfl⟩
    exact ⟨rfl, rfl, rfl, rfl, rfl⟩
  · rintro ⟨rfl, rfl, rfl, rfl, rfl⟩
    exact ⟨rfl, rfl, rfl, rfl, rfl⟩

/-- Each of the writes has a table of its own. -/
theorem recorded_eq_self_iff_tables :
    recorded server payload remoteInstanceId remoteRootHex pseudonymId nodeType database =
        database ↔
      (recordIdentity server payload remoteInstanceId remoteRootHex pseudonymId
          database).federatedIdentities = database.federatedIdentities ∧
        (upsertAttestedPlatformIdentity server pseudonymId payload.participantType
          database).platformIdentities = database.platformIdentities ∧
        (Graph.upsertGraphNode server.serverId pseudonymId nodeType none
          server.clock.datetime database).graphNodes = database.graphNodes := by
  constructor
  · intro same
    have identity := congrArg Database.federatedIdentities same
    have platform := congrArg Database.platformIdentities same
    have node := congrArg Database.graphNodes same
    exact ⟨identity, platform, node⟩
  · rintro ⟨identity, platform, node⟩
    dsimp only [recordIdentity, upsertAttestedPlatformIdentity, Graph.upsertGraphNode]
      at identity platform node
    dsimp only [recorded, recordIdentity, upsertAttestedPlatformIdentity,
      Graph.upsertGraphNode]
    rw [identity, platform, node]

/-- The writes leave the database alone exactly when it has them all. -/
theorem recorded_eq_self_iff :
    recorded server payload remoteInstanceId remoteRootHex pseudonymId nodeType database =
        database ↔
      AlreadyRecorded server payload remoteInstanceId remoteRootHex pseudonymId
        database := by
  rw [recorded_eq_self_iff_tables, recordIdentity, upsertAttestedPlatformIdentity,
    Graph.upsertGraphNode, Table.upsert_eq_self_iff, Table.upsert_eq_self_iff,
    Table.upsert_eq_self_iff]
  simp only [attest_eq_self_iff, Bool.and_eq_true, decide_eq_true_eq]
  constructor
  · rintro ⟨identity, platform, node⟩
    refine ⟨identity, ⟨platform.1, ?_⟩, ⟨node.1, ?_⟩⟩
    · intro row member sameServer samePseudonym
      have fixed := platform.2 row member ⟨sameServer, samePseudonym⟩
      exact ⟨(congrArg PlatformIdentity.active fixed).symm,
        (congrArg PlatformIdentity.participantType fixed).symm⟩
    · intro row member sameServer samePseudonym
      have fixed := node.2 row member ⟨sameServer, samePseudonym⟩
      exact ⟨(congrArg GraphNode.active fixed).symm,
        (congrArg GraphNode.lastSeenAt fixed).symm⟩
  · rintro ⟨identity, platform, node⟩
    refine ⟨identity, ⟨platform.1, ?_⟩, ⟨node.1, ?_⟩⟩
    · rintro row member ⟨sameServer, samePseudonym⟩
      rcases platform.2 row member sameServer samePseudonym with ⟨active, participantType⟩
      rw [← active, ← participantType]
    · rintro row member ⟨sameServer, samePseudonym⟩
      rcases node.2 row member sameServer samePseudonym with ⟨active, lastSeenAt⟩
      rw [← active, ← lastSeenAt]
      cases row
      rfl

theorem upsertFederatedIdentity_eq_ok_iff {changed : Database} :
    upsertFederatedIdentity server payload remoteInstanceId remoteRootHex pseudonymId
        database = .ok changed ↔
      (database.federatedIdentities.rows.any
          (attestedBy server.serverId remoteInstanceId pseudonymId) ||
        (database.servers.rows.any (·.id = server.serverId) &&
          database.instances.rows.any (·.id = remoteInstanceId))) = true ∧
      recordIdentity server payload remoteInstanceId remoteRootHex pseudonymId database =
        changed := by
  unfold upsertFederatedIdentity
  split
  · next absent => simp [absent]
  · next present =>
    rw [Bool.not_eq_false] at present
    simp only [present, true_and, Except.ok.injEq]
    rfl

/-- The transaction writes all three rows or none. -/
theorem recordAttestation_ensures :
    Ensures (transaction .dbError .dbError (recordAttestation server payload
        remoteInstanceId remoteRootHex pseudonymId nodeType)) database sent
      fun _ changed _ => changed = database ∨
        CanRecord server remoteInstanceId pseudonymId database ∧
          changed = recorded server payload remoteInstanceId remoteRootHex pseudonymId
            nodeType database := by
  refine ensures_transaction (fun _ => Or.inl rfl) ?_
  refine ensures_bind (ensures_execute (fun _ => Or.inl rfl) ?_ fun _ _ => Or.inl rfl)
  intro first written
  rcases upsertFederatedIdentity_eq_ok_iff.mp written with ⟨present, rfl⟩
  rw [andThen_ok]
  refine ensures_bind (ensures_execute (fun _ => Or.inl rfl) ?_ fun _ _ => Or.inl rfl)
  rintro _ ⟨⟩
  rw [andThen_ok]
  refine ensures_bind (ensures_mapErr (ensures_mono ?_ Graph.ensureGraphNode_ensures))
  rintro (error | row) changed after ⟨rfl, ensured⟩
  · exact Or.inl rfl
  · rcases ensured row rfl with ⟨known, rfl⟩
    rw [Except.mapError, andThen_ok, ensures_pure]
    exact ⟨Or.inr ⟨⟨present, known⟩, rfl⟩, fun _ => Or.inl rfl⟩

theorem recordAttestation_achieves
    (canRecord : CanRecord server remoteInstanceId pseudonymId database)
    (fresh : ¬ AlreadyRecorded server payload remoteInstanceId remoteRootHex pseudonymId
      database) :
    Achieves (transaction .dbError .dbError (recordAttestation server payload
        remoteInstanceId remoteRootHex pseudonymId nodeType)) database sent
      fun _ changed _ => changed ≠ database := by
  refine achieves_transaction (achieves_bind (achieves_execute
    (upsertFederatedIdentity_eq_ok_iff.mpr ⟨canRecord.identity, rfl⟩) ?_))
  refine achieves_bind (achieves_execute rfl (achieves_bind (achieves_mapErr
    (achieves_mono ?_ (Graph.ensureGraphNode_achieves canRecord.node)))))
  rintro _ _ _ ⟨rfl, rfl⟩
  exact achieves_pure fun same => fresh (recorded_eq_self_iff.mp same)

end Record

/-- What an attestation must satisfy for anything to be written. -/
def AttestationAdmissible (server : FederationServer Fq Key) (payload : AttestationRequest)
    (database : Database) : Prop :=
  ∃ remote remoteRootHex pseudonymId nodeType,
    AttestationAdmitted server payload database remote remoteRootHex ∧
      AttestationNamed server payload pseudonymId nodeType ∧
      CanRecord server remote.id pseudonymId database ∧
      ¬ AlreadyRecorded server payload remote.id remoteRootHex pseudonymId database

/-- An attestation records what it was admitted for, or nothing. -/
theorem attestMembershipHandler_ensures (payload : AttestationRequest) :
    Ensures (attestMembershipHandler server payload) database sent fun _ changed _ =>
      changed = database ∨ ∃ remote remoteRootHex pseudonymId nodeType,
        AttestationAdmitted server payload database remote remoteRootHex ∧
          AttestationNamed server payload pseudonymId nodeType ∧
          CanRecord server remote.id pseudonymId database ∧
          changed = recorded server payload remote.id remoteRootHex pseudonymId nodeType
            database := by
  refine (looks_checkAttestation payload).ensures_bind (fun _ => Or.inl rfl) ?_
  rintro ⟨remote, remoteRootHex⟩ admitted
  refine (looks_attestedNames payload).ensures_bind (fun _ => Or.inl rfl) ?_
  rintro ⟨pseudonymId, nodeType⟩ named
  have outcome := @recordAttestation_ensures _ _ server database sent payload remote.id
    remoteRootHex pseudonymId nodeType
  refine ensures_bind (ensures_mono ?_ outcome)
  rintro result changed after held
  have outcome : changed = database ∨ ∃ remote remoteRootHex pseudonymId nodeType,
      AttestationAdmitted server payload database remote remoteRootHex ∧
        AttestationNamed server payload pseudonymId nodeType ∧
        CanRecord server remote.id pseudonymId database ∧
        changed = recorded server payload remote.id remoteRootHex pseudonymId nodeType
          database :=
    held.imp_right fun done => ⟨remote, remoteRootHex, pseudonymId, nodeType,
      answers_checkAttestation.mp admitted, answers_attestedNames.mp named, done⟩
  cases result with
  | error error => exact outcome
  | ok done =>
      rw [andThen_ok, ensures_pure]
      exact outcome

theorem attestMembershipHandler_mayChange (payload : AttestationRequest) :
    MayChange (attestMembershipHandler server payload) database sent ↔
      AttestationAdmissible server payload database := by
  refine mayChange_iff ?_ ?_
  · refine ensures_mono ?_ (attestMembershipHandler_ensures payload)
    rintro _ changed _ (rfl | ⟨remote, remoteRootHex, pseudonymId, nodeType, admitted, named,
      canRecord, rfl⟩) different
    · exact absurd rfl different
    · exact ⟨remote, remoteRootHex, pseudonymId, nodeType, admitted, named, canRecord,
        fun already => different (recorded_eq_self_iff.mpr already)⟩
  · rintro ⟨remote, remoteRootHex, pseudonymId, nodeType, admitted, named, canRecord, fresh⟩
    have checked : Answers (checkAttestation server payload) database sent
        (remote, remoteRootHex) := answers_checkAttestation.mpr admitted
    have names : Answers (attestedNames server payload) database sent
        (pseudonymId, nodeType) := answers_attestedNames.mpr named
    refine checked.achieves_bind (names.achieves_bind (achieves_bind
      (achieves_mono ?_ (recordAttestation_achieves canRecord fresh))))
    exact fun _ _ _ different => achieves_pure different

/-! Federated members. -/

/-- What the checks on a join ask for. -/
structure JoinAdmitted (server : FederationServer Fq Key) (channelId : String)
    (payload : JoinFederatedChannelRequest) (database : Database) (remote : Instance) :
    Prop where
  known : findInstance payload.originatingServer database = some remote
  active : remote.status = "ACTIVE"
  agreed : anyActiveAgreement remote.id database = true
  signed : verifySignature server remote.publicKey payload.signature
    (String.intercalate "\n" [channelId, payload.pseudonymId]) = .ok ()
  attested : (database.federatedIdentities.rows.any fun row =>
    row.remoteInstanceId = remote.id && row.pseudonymId = payload.pseudonymId) = true

theorem looks_checkFederatedJoin (channelId : String)
    (payload : JoinFederatedChannelRequest) :
    Looks (checkFederatedJoin server channelId payload) :=
  looks_bind (looks_connect _) fun _ =>
    looks_bind (looks_resolveFederatedInstance _) fun _ =>
    looks_bind (looks_ofExcept _) fun _ => looks_bind (looks_query _ _) fun _ =>
    looks_check _ _

theorem answers_checkFederatedJoin {channelId : String}
    {payload : JoinFederatedChannelRequest} :
    Answers (checkFederatedJoin server channelId payload) database sent () ↔
      ∃ remote, JoinAdmitted server channelId payload database remote := by
  simp only [checkFederatedJoin, answers_bind, answers_connect, answers_ofExcept,
    answers_check, answers_query, looks_connect, looks_ofExcept, looks_query,
    looks_resolveFederatedInstance, answers_resolveFederatedInstance, exists_const, true_and]
  constructor
  · rintro ⟨remote, ⟨known, active, agreed⟩, _, signed, _, attested, isTrue⟩
    exact ⟨remote, known, active, agreed, signed, (Except.ok.inj attested).trans isTrue⟩
  · rintro ⟨remote, known, active, agreed, signed, attested⟩
    exact ⟨remote, ⟨known, active, agreed⟩, (), signed, _, rfl, attested⟩

/-- What a join must satisfy for anything to be written. -/
def JoinAdmissible (server : FederationServer Fq Key) (channelId : String)
    (payload : JoinFederatedChannelRequest) (database : Database) : Prop :=
  (∃ remote, JoinAdmitted server channelId payload database remote) ∧
    (∃ row channel, findChannel channelId database = some row ∧
      mapRowToChannel server.environment row = .ok channel) ∧
    CanJoin server.serverId channelId payload.pseudonymId database

theorem joinFederatedChannelHandler_mayChange (channelId : String)
    (payload : JoinFederatedChannelRequest) :
    MayChange (joinFederatedChannelHandler server channelId payload) database sent ↔
      JoinAdmissible server channelId payload database := by
  refine mayChange_iff ?_ ?_
  · refine (looks_checkFederatedJoin channelId payload).ensures_bind
      (fun _ same => absurd rfl same) ?_
    rintro ⟨⟩ checked
    refine ensures_mapErr (ensures_mono ?_ addMember_ensures)
    rintro _ changed _ held different
    rcases held different with ⟨found, canJoin⟩
    exact ⟨answers_checkFederatedJoin.mp checked, found, canJoin⟩
  · rintro ⟨admitted, ⟨row, channel, found, decoded⟩, canJoin⟩
    have checked : Answers (checkFederatedJoin server channelId payload) database sent () :=
      answers_checkFederatedJoin.mpr admitted
    refine checked.achieves_bind (achieves_mapErr
      (achieves_mono ?_ (addMember_achieves found decoded canJoin)))
    intro _ changed _ joined same
    rw [same, canJoin.notMember] at joined
    cases joined

/-! Relayed bundles. -/

/-- What the checks on a relayed bundle ask for. -/
structure RtxAdmitted (server : FederationServer Fq Key) (envelope : FederatedRtxEnvelope)
    (database : Database) (remote : Instance) (scope : VrpTransferScope) : Prop where
  known : findInstance envelope.relayingServer database = some remote
  active : remote.status = "ACTIVE"
  acyclic : server.publicUrl = "" ∨ server.publicUrl ∉ envelope.provenance.relayPath
  originKnown :
    database.instances.rows.any (·.baseUrl = envelope.provenance.originServer) = true
  agreed : agreementScope remote.id database = some scope.toString
  permitted : scope ≠ .noTransfer
  signed : verifySignature server remote.publicKey envelope.signature
    (rtxRelaySigningPayload envelope.bundle.bundleId envelope.relayingServer
      envelope.provenance.originServer envelope.provenance.relayPath) = .ok ()
  wellFormed : WellFormed envelope.bundle

theorem looks_checkFederatedRtx (envelope : FederatedRtxEnvelope) :
    Looks (checkFederatedRtx server envelope) :=
  looks_bind (looks_connect _) fun _ => looks_bind (looks_resolveInstance _) fun _ =>
    looks_bind (looks_check _ _) fun _ => looks_bind (looks_check _ _) fun _ =>
    looks_bind (looks_query _ _) fun _ => looks_bind (looks_check _ _) fun _ =>
    looks_bind (looks_query _ _) fun _ => looks_bind (looks_require _ _) fun _ =>
    looks_bind (looks_check _ _) fun _ => looks_bind (looks_ofExcept _) fun _ =>
    looks_bind (looks_orElse _ _) fun _ => looks_bind (looks_orElse _ _) fun _ =>
    looks_pure _

theorem answers_checkFederatedRtx {envelope : FederatedRtxEnvelope}
    {scope : VrpTransferScope} {scopedBundle : ReflectionSummaryBundle} :
    Answers (checkFederatedRtx server envelope) database sent (scope, scopedBundle) ↔
      (∃ remote, RtxAdmitted server envelope database remote scope) ∧
        enforceTransferScope envelope.bundle scope = .ok scopedBundle := by
  simp only [checkFederatedRtx, answers_bind, answers_connect, answers_ofExcept,
    answers_orElse, answers_require, answers_check, answers_query, answers_pure,
    looks_connect, looks_ofExcept, looks_orElse, looks_require, looks_check, looks_query,
    looks_resolveInstance, answers_resolveInstance, VrpTransferScope.parse_eq_some_iff,
    exists_const, true_and, Prod.mk.injEq]
  constructor
  · rintro ⟨remote, known, active, acyclic, _, originKnown, isTrue, text, agreed, other,
      parsed, permitted, _, signed, _, wellFormed, stripped, enforced, rfl, rfl⟩
    refine ⟨⟨remote, known, active, ?_, (Except.ok.inj originKnown).trans isTrue, ?_, ?_,
      signed, validateBundleStructure_ok_iff.mp wellFormed⟩, enforced⟩
    · rw [not_and_or, not_not] at acyclic
      exact acyclic
    · cases found : agreementScope remote.id database with
      | none => simp [found] at agreed
      | some stored =>
          simp only [found, Except.ok.injEq] at agreed
          rw [agreed, parsed]
    · rintro rfl
      exact permitted (by decide)
  · rintro ⟨⟨remote, admitted⟩, enforced⟩
    refine ⟨remote, admitted.known, admitted.active, ?_, _, rfl, admitted.originKnown,
      scope.toString, by rw [admitted.agreed], scope, rfl, ?_, (), admitted.signed, (),
      validateBundleStructure_ok_iff.mpr admitted.wellFormed, scopedBundle, enforced, rfl,
      rfl⟩
    · rw [not_and_or, not_not]
      exact admitted.acyclic
    · cases scope with
      | noTransfer => exact absurd rfl admitted.permitted
      | reflectionSummariesOnly => decide
      | fullKnowledgeBundle => decide

/-- The local subscribers that take relayed bundles. -/
def federatedSubscribers (server : FederationServer Fq Key) (database : Database) :
    List Subscriber :=
  subscribers server.serverId (·.acceptFederated) database

/-- What a relayed bundle must satisfy for anything to be written. -/
def RtxAdmissible (server : FederationServer Fq Key) (envelope : FederatedRtxEnvelope)
    (database : Database) : Prop :=
  (∃ remote scope, RtxAdmitted server envelope database remote scope) ∧
    database.rtxBundles.rows.any (·.bundleId = envelope.bundle.bundleId) = false ∧
    database.servers.rows.any (·.id = server.serverId) = true ∧
    Deliverable envelope.bundle (federatedSubscribers server database)

/-- What a relayed bundle leaves behind: all of its rows, or nothing. -/
theorem storeFederatedRtx_ensures {envelope : FederatedRtxEnvelope}
    {scope : VrpTransferScope} {scopedBundle : ReflectionSummaryBundle} :
    Ensures (transaction (fun error => some (.dbError error))
        (fun error => some (.dbError error))
        (storeFederatedRtx server envelope scope scopedBundle)) database sent
      fun result changed after => after = sent ∧
        match result with
        | .error _ => changed = database
        | .ok delivered =>
            Deliverable scopedBundle (federatedSubscribers server database) ∧
              delivered = deliveries scopedBundle (federatedSubscribers server database) ∧
              ∃ stored rtxTransferLog,
                insertBundle server.serverId scopedBundle (some envelope.provenance) database =
                  .ok stored ∧ changed = { stored with rtxTransferLog } := by
  apply ensures_transaction
  · exact fun _ => ⟨rfl, rfl⟩
  apply ensures_bind
  apply ensures_execute
  · exact fun _ => ⟨rfl, rfl⟩
  · intro stored inserted
    rw [andThen_ok]
    apply ensures_bind
    apply ensures_execute
    · exact fun _ => ⟨rfl, rfl⟩
    · intro logged transferred
      rcases insertTransfer_eq_ok transferred with ⟨log, isLogged⟩
      have same : subscribers server.serverId (·.acceptFederated) logged =
          federatedSubscribers server database := by
        have known := insertBundle_eq_ok inserted
        rcases @insertBundle_new server.serverId scopedBundle (some envelope.provenance)
          database known.1 known.2 with ⟨rtxBundles, _, isStored⟩
        rw [isStored, Except.ok.injEq] at inserted
        subst inserted isLogged
        rfl
      rw [andThen_ok]
      refine (looks_query _ _).ensures_bind ?_ ?_
      · exact fun _ => ⟨rfl, rfl⟩
      · intro found read
        have isFound := answers_query.mp read
        rw [Except.ok.injEq] at isFound
        subst isFound
        rw [same]
        refine ensures_mono ?_ deliver_ensures
        intro result changed after delivered
        rcases delivered with ⟨kept, ⟨_, panicked, _⟩ | ⟨deliverable, copies, written⟩⟩
        · subst panicked
          exact ⟨kept, rfl⟩
        · rcases written with ⟨rtxTransferLog, isWritten⟩
          subst copies isWritten isLogged
          exact ⟨⟨kept, deliverable, rfl, stored, rtxTransferLog, inserted, rfl⟩,
            fun _ => ⟨kept, rfl⟩⟩
    · exact fun _ _ => ⟨rfl, rfl⟩
  · exact fun _ _ => ⟨rfl, rfl⟩

theorem storeFederatedRtx_achieves {envelope : FederatedRtxEnvelope}
    {scope : VrpTransferScope} {scopedBundle : ReflectionSummaryBundle}
    (fresh : database.rtxBundles.rows.any (·.bundleId = scopedBundle.bundleId) = false)
    (known : database.servers.rows.any (·.id = server.serverId) = true)
    (deliverable : Deliverable scopedBundle (federatedSubscribers server database)) :
    Achieves (transaction (fun error => some (.dbError error))
        (fun error => some (.dbError error))
        (storeFederatedRtx server envelope scope scopedBundle)) database sent
      fun _ changed _ => changed ≠ database := by
  rcases @insertBundle_new server.serverId scopedBundle (some envelope.provenance) database
    fresh known with ⟨rtxBundles, different, inserted⟩
  rcases @insertTransfer_known server.clock.datetime server.serverId scopedBundle
    { database with rtxBundles } none (redactions envelope.bundle scopedBundle) scope known
    with ⟨log, logged⟩
  refine achieves_transaction (achieves_bind (achieves_execute inserted
    (achieves_bind (achieves_execute logged ?_))))
  refine Answers.achieves_bind (answers_query.mpr rfl) ?_
  refine achieves_mono ?_ (deliver_tolerates deliverable).achieves
  intro _ _ _ delivered same
  rcases delivered with ⟨-, -, last, isLast⟩
  subst isLast
  exact different (congrArg Database.rtxBundles same)

/-- A relayed bundle that is admissible is stored and answered. -/
theorem receiveFederatedRtxHandler_achieves {envelope : FederatedRtxEnvelope}
    (admissible : RtxAdmissible server envelope database) :
    Achieves (receiveFederatedRtxHandler server envelope) database sent
      fun _ changed _ => changed ≠ database := by
  rcases admissible with ⟨⟨remote, scope, admitted⟩, fresh, known, deliverable⟩
  rcases enforceTransferScope_eq_ok admitted.permitted envelope.bundle with
    ⟨scopedBundle, enforced⟩
  have checked : Answers (checkFederatedRtx server envelope) database sent
      (scope, scopedBundle) :=
    answers_checkFederatedRtx.mpr ⟨⟨remote, admitted⟩, enforced⟩
  rw [← bundleId_enforceTransferScope enforced] at fresh
  rw [← deliverable_enforceTransferScope enforced] at deliverable
  rcases @storeFederatedRtx_achieves _ _ server database sent envelope scope scopedBundle
    fresh known deliverable with ⟨delivered, changed, after, ran, different⟩
  apply checked.achieves_bind
  apply achieves_bind
  apply achieves_attempt ran
  exact achieves_bind (achieves_remember (achieves_pure different))

theorem receiveFederatedRtxHandler_mayChange (envelope : FederatedRtxEnvelope) :
    MayChange (receiveFederatedRtxHandler server envelope) database sent ↔
      RtxAdmissible server envelope database := by
  refine mayChange_iff ?_ ?_
  · refine (looks_checkFederatedRtx envelope).ensures_bind (fun _ same => absurd rfl same) ?_
    rintro ⟨scope, scopedBundle⟩ answers
    rcases answers_checkFederatedRtx.mp answers with ⟨⟨remote, admitted⟩, enforced⟩
    refine ensures_bind (ensures_attempt.mpr (ensures_mono ?_ storeFederatedRtx_ensures))
    intro outcome changed after held
    have admissible : changed ≠ database → RtxAdmissible server envelope database := by
      intro different
      rcases held with ⟨-, held⟩
      cases outcome with
      | error error => exact absurd held different
      | ok delivered =>
          rcases held with ⟨deliverable, -, stored, log, inserted, -⟩
          have new := insertBundle_eq_ok inserted
          rw [bundleId_enforceTransferScope enforced] at new
          exact ⟨⟨remote, scope, admitted⟩, new.1, new.2,
            (deliverable_enforceTransferScope enforced).mp deliverable⟩
    rw [andThen_ok]
    split
    · exact (ensures_pure _).mpr admissible
    · exact (ensures_fail _).mpr admissible
    · refine ensures_bind ((ensures_remember _).mpr ?_)
      rw [andThen_ok, ensures_pure]
      exact admissible
  · exact fun admissible => receiveFederatedRtxHandler_achieves admissible

end Annex.Server
