import Annex.Server.MessageRelay
import Annex.Server.RtxScope
import Annex.Server.Staleness

namespace Annex.Server

open Channels Db Federation Identity Rtx Sql Vrp

/-! Two servers of this program, a sender and a receiver, that federate with each other:
what the one relays, and what the other makes of it. -/

variable {Fq Key : Type}

/-- What is signed with the one key verifies under its public key. -/
structure SigningKey (signer verifier : Ed25519) (publicKey : List Byte) : Prop where
  publicLength : publicKey.length = 32
  accepted : verifier.keyError publicKey = none
  length : ∀ text, (signer.sign text).length = 64
  verifies : ∀ text, verifier.verify publicKey text (signer.sign text) = .ok ()

/-- The other server is an active instance with an active agreement that permits
transfers. -/
structure FederatesWith (here there : FederationServer Fq Key) (database : Database)
    (peer : Instance) : Prop where
  known : findInstance there.publicUrl database = some peer
  active : peer.status = "ACTIVE"
  agreed : ∃ agreement ∈ database.federationAgreements.rows,
    agreement.localServerId = here.serverId ∧ agreement.remoteInstanceId = peer.id ∧
      agreement.active = true ∧
      ∃ scope : VrpTransferScope, agreement.transferScope = scope.toString ∧
        scope ≠ .noTransfer

/-- The two federate, and the receiver knows the sender's key. -/
structure Linked (sender receiver : FederationServer Fq Key)
    (senderDatabase receiverDatabase : Database) (receiverThere senderThere : Instance)
    (publicKey : List Byte) : Prop where
  sends : FederatesWith sender receiver senderDatabase receiverThere
  receives : FederatesWith receiver sender receiverDatabase senderThere
  distinct : sender.publicUrl ≠ receiver.publicUrl
  key : SigningKey sender.ed25519 receiver.ed25519 publicKey
  stored : senderThere.publicKey = Hex.encode publicKey
  sameProgram : receiver.environment = sender.environment

/-- The author of a message was verified by the sender under the pair, and is attested by
the receiver under it, with the root the sender still has, and a member of the channel of
the same id, which is federated. -/
structure AuthorKnown (sender receiver : FederationServer Fq Key)
    (senderDatabase receiverDatabase : Database) (senderThere : Instance)
    (channelId : String) (message : Message) (commitment topic : String) : Prop where
  verified : VerifiedUnder sender.environment message.senderPseudonym commitment topic
    senderDatabase
  attested : ∃ identity ∈ receiverDatabase.federatedIdentities.rows,
    identity.remoteInstanceId = senderThere.id ∧ identity.commitmentHex = commitment ∧
      identity.vrpTopic = topic ∧
      deriveTopicScopedPseudonym receiver.environment commitment topic =
        .ok identity.pseudonymId ∧
      ∃ tree response session, (getVrpRootHandler tree session).1 = .ok response ∧
        receiver.get (sender.publicUrl ++ "/api/federation/vrp-root") =
          .ok (HttpResponse.json response.toJson) ∧
        identity.rootHexAtVerification = some tree.rootHex
  channel : ∃ row channel, findChannel channelId receiverDatabase = some row ∧
    mapRowToChannel receiver.environment row = .ok channel ∧
    channel.federationScope = .federated ∧
    receiverDatabase.servers.rows.any (·.id = row.serverId) = true
  member : memberOf receiver.serverId channelId message.senderPseudonym receiverDatabase =
    true

/-- The envelope is acknowledged and, unless its id is taken, stored as the message. -/
def Delivered (receiver : FederationServer Fq Key) (receiverDatabase : Database)
    (channelId : String) (message : Message) (envelope : FederatedMessageEnvelope) : Prop :=
  (receiveFederatedMessageHandler receiver envelope ⟨receiverDatabase, [], []⟩).1 = .ok () ∧
    (receiverDatabase.messages.rows.any (·.messageId = message.messageId) = false →
      ∃ stored ∈ (receiveFederatedMessageHandler receiver envelope
          ⟨receiverDatabase, [], []⟩).2.database.messages.rows,
        stored.messageId = message.messageId ∧ stored.channelId = channelId ∧
          stored.content = message.content ∧
          stored.senderPseudonym = message.senderPseudonym)

/-- The first identity of the commitment, under whatever topic, is the author's; or it is a
member too and the id of the message is taken. -/
def FirstIsAuthor (receiver : FederationServer Fq Key) (receiverDatabase : Database)
    (senderThere : Instance) (channelId : String) (message : Message) (commitment : String) :
    Prop :=
  ∀ first, findAttested senderThere.id commitment receiverDatabase = some first →
    first.pseudonymId = message.senderPseudonym ∨
      memberOf receiver.serverId channelId first.pseudonymId receiverDatabase = true ∧
        receiverDatabase.messages.rows.any (·.messageId = message.messageId) = true

/-- The first active agreement with the sender, of whatever local server, permits
transfers. -/
def FirstPermits (receiverDatabase : Database) (senderThere : Instance) : Prop :=
  ∃ scope : VrpTransferScope,
    agreementScope senderThere.id receiverDatabase = some scope.toString ∧
      scope ≠ .noTransfer

section Message

variable {sender receiver : FederationServer Fq Key}
  {senderDatabase receiverDatabase : Database} {receiverThere senderThere : Instance}
  {publicKey : List Byte} {channelId : String} {message : Message}
  {commitment topic : String}

theorem of_findInstance {baseUrl : String} {database : Database} {remote : Instance}
    (found : findInstance baseUrl database = some remote) :
    remote ∈ database.instances.rows ∧ remote.baseUrl = baseUrl :=
  ⟨List.mem_of_find?_eq_some found, by simpa using List.find?_some found⟩

theorem decodeHex_encode (failure : String) (bytes : List Byte) :
    decodeHex receiver failure (Hex.encode bytes) = .ok bytes := by
  rw [decodeHex, Hex.decode_encode]

/-- What the sender signs, the receiver accepts. -/
theorem Linked.verifySignature
    (linked : Linked sender receiver senderDatabase receiverDatabase receiverThere
      senderThere publicKey) (text : String) :
    verifySignature receiver senderThere.publicKey
      (Hex.encode (sender.ed25519.sign (utf8 text))) text = .ok () := by
  have length := linked.key.length (utf8 text)
  rw [linked.stored, Server.verifySignature, decodeHex_encode, decodeHex_encode]
  simp only [bind, Except.bind, linked.key.publicLength, linked.key.accepted,
    length, linked.key.verifies]
  rfl

theorem FederatesWith.anyActiveAgreement {here there : FederationServer Fq Key}
    {database : Database} {peer : Instance}
    (federates : FederatesWith here there database peer) :
    anyActiveAgreement peer.id database = true := by
  rcases federates.agreed with ⟨agreement, member, -, samePeer, active, -⟩
  exact List.any_eq_true.mpr ⟨agreement, member, by simp [samePeer, active]⟩

/-- The receiver takes the message for the first identity of the commitment. -/
theorem AuthorKnown.accepted {first : FederatedIdentity} {row : ChannelRow}
    (known : AuthorKnown sender receiver senderDatabase receiverDatabase senderThere channelId
      message commitment topic)
    (linked : Linked sender receiver senderDatabase receiverDatabase receiverThere
      senderThere publicKey)
    (found : findAttested senderThere.id commitment receiverDatabase = some first)
    (foundRow : findChannel channelId receiverDatabase = some row)
    (member : memberOf receiver.serverId channelId first.pseudonymId receiverDatabase = true) :
    MessageAccepted receiver
      (relayEnvelope sender channelId message (topic ++ ":" ++ commitment)) receiverDatabase
      senderThere first row := by
  rcases known.attested with ⟨_, _, _, _, _, _, _, response, _, _, answered, -⟩
  rcases known.channel with ⟨otherRow, channel, otherFound, decoded, federated, server⟩
  cases Option.some.inj (foundRow.symm.trans otherFound)
  rcases derivable_of_derived known.verified.derived with ⟨named, lower⟩
  exact
    { known := linked.receives.known
      active := linked.receives.active
      agreed := linked.receives.anyActiveAgreement
      signed := linked.verifySignature _
      attested := ⟨commitment, topic, parseAttestationRef_relayed named lower, found⟩
      fresh := attestationStale_of_answered answered _
      channel := foundRow
      federated := ⟨channel, decoded, federated⟩
      member
      retention := fun _ => server }

/-- Some identity of the commitment is found, as the author's is one. -/
theorem AuthorKnown.findAttested
    (known : AuthorKnown sender receiver senderDatabase receiverDatabase senderThere channelId
      message commitment topic) :
    ∃ first, findAttested senderThere.id commitment receiverDatabase = some first := by
  rcases known.attested with ⟨identity, member, origin, named, -⟩
  cases found : Server.findAttested senderThere.id commitment receiverDatabase with
  | some first => exact ⟨first, rfl⟩
  | none =>
      have other := List.find?_eq_none.mp found identity member
      simp [origin, named] at other

/-- The receiver is among the peers the sender relays to. -/
theorem FederatesWith.mem_relayPeers {here there : FederationServer Fq Key}
    {database : Database} {peer : Instance}
    (federates : FederatesWith here there database peer) :
    ∃ scope : VrpTransferScope, scope ≠ .noTransfer ∧
      ⟨there.publicUrl, scope.toString⟩ ∈ relayPeers here database := by
  rcases federates.agreed with ⟨agreement, member, own, samePeer, active, scope, stored,
    permitted⟩
  rcases of_findInstance federates.known with ⟨peerMember, url⟩
  refine ⟨scope, permitted, Server.mem_relayPeers.mpr ⟨agreement, member, peer, peerMember,
    own, active, samePeer.symm, federates.active, ?_⟩⟩
  rw [url, stored]

/-- A relayed message whose id is free can be stored under any pseudonym. -/
theorem AuthorKnown.canStore {row : ChannelRow}
    (known : AuthorKnown sender receiver senderDatabase receiverDatabase senderThere channelId
      message commitment topic)
    (foundRow : findChannel channelId receiverDatabase = some row)
    (fresh : receiverDatabase.messages.rows.any (·.messageId = message.messageId) = false)
    (attestationRef pseudonymId : String) :
    CanStore (federatedMessageParams
      (relayEnvelope sender channelId message attestationRef) pseudonymId)
      row.serverId receiverDatabase := by
  rcases known.channel with ⟨otherRow, _, otherFound, -, -, server⟩
  cases Option.some.inj (foundRow.symm.trans otherFound)
  exact ⟨fresh, server, channelId_of_findChannel foundRow⟩

theorem firstIsAuthor_of_delivered
    (linked : Linked sender receiver senderDatabase receiverDatabase receiverThere
      senderThere publicKey)
    (known : AuthorKnown sender receiver senderDatabase receiverDatabase senderThere channelId
      message commitment topic)
    (delivered : Delivered receiver receiverDatabase channelId message
      (relayEnvelope sender channelId message (topic ++ ":" ++ commitment))) :
    FirstIsAuthor receiver receiverDatabase senderThere channelId message commitment := by
  rcases delivered with ⟨acknowledged, stored⟩
  rcases derivable_of_derived known.verified.derived with ⟨named, lower⟩
  intro first found
  rcases receiveFederatedMessageHandler_ensures _ [] acknowledged with
    ⟨remote, identity, row, accepted, receipt⟩
  cases Option.some.inj (linked.receives.known.symm.trans accepted.known)
  rcases accepted.attested with ⟨_, _, parsed, attested⟩
  cases Except.ok.inj ((parseAttestationRef_relayed named lower).symm.trans parsed)
  cases Option.some.inj (found.symm.trans attested)
  cases fresh : receiverDatabase.messages.rows.any (·.messageId = message.messageId) with
  | true => exact Or.inr ⟨accepted.member, rfl⟩
  | false =>
      have canStore := known.canStore accepted.channel fresh (topic ++ ":" ++ commitment)
      rcases stored fresh with ⟨new, member, sameId, -, -, author⟩
      rcases receipt with ⟨-, written, stores, -⟩ | ⟨cannotStore, -⟩
      · rw [stores.rows, List.mem_append, List.mem_singleton] at member
        rcases member with old | rfl
        · exact absurd sameId ((canStore "").messageId_ne old)
        · exact Or.inl (stores.stored.senderPseudonym.symm.trans author)
      · exact absurd (canStore _) cannotStore

theorem delivered_of_firstIsAuthor
    (linked : Linked sender receiver senderDatabase receiverDatabase receiverThere
      senderThere publicKey)
    (known : AuthorKnown sender receiver senderDatabase receiverDatabase senderThere channelId
      message commitment topic)
    (author : FirstIsAuthor receiver receiverDatabase senderThere channelId message
      commitment) :
    Delivered receiver receiverDatabase channelId message
      (relayEnvelope sender channelId message (topic ++ ":" ++ commitment)) := by
  rcases known.findAttested with ⟨first, found⟩
  rcases known.channel with ⟨row, _, foundRow, -⟩
  have member : memberOf receiver.serverId channelId first.pseudonymId receiverDatabase =
      true := by
    rcases author first found with same | ⟨member, -⟩
    · rw [same]
      exact known.member
    · exact member
  have accepted := known.accepted linked found foundRow member
  rcases @MessageAccepted.receipt _ _ _ _ _ [] _ _ _ accepted with ⟨acknowledged, receipt⟩
  refine ⟨acknowledged, fun fresh => ?_⟩
  rcases receipt with ⟨-, written, stores, -⟩ | ⟨cannotStore, -⟩
  · refine ⟨written, stores.rows ▸ List.mem_concat_self, stores.stored.messageId,
      stores.stored.channelId, stores.stored.content, ?_⟩
    rcases author _ found with same | ⟨-, taken⟩
    · exact stores.stored.senderPseudonym.trans same
    · exact absurd taken (Bool.eq_false_iff.mp fresh)
  · exact absurd (known.canStore foundRow fresh _ _) cannotStore

/-- A relayed message is delivered exactly where the first identity of the commitment is the
author's, or is a member too and the id is taken. -/
theorem delivered_iff
    (linked : Linked sender receiver senderDatabase receiverDatabase receiverThere
      senderThere publicKey)
    (known : AuthorKnown sender receiver senderDatabase receiverDatabase senderThere channelId
      message commitment topic) :
    Delivered receiver receiverDatabase channelId message
        (relayEnvelope sender channelId message (topic ++ ":" ++ commitment)) ↔
      FirstIsAuthor receiver receiverDatabase senderThere channelId message commitment :=
  ⟨firstIsAuthor_of_delivered linked known, delivered_of_firstIsAuthor linked known⟩

end Message

/-! Bundles. -/

/-- The bundle was published by the sender. -/
def WasPublished (sender : FederationServer Fq Key) (bundle : ReflectionSummaryBundle) : Prop :=
  ∃ pseudonymId database faults delivered,
    (publishHandler sender pseudonymId bundle ⟨database, [], faults⟩).1 = .ok delivered

/-- What a peer is sent of a bundle, with what its agreement leaves of it. -/
def rtxEnvelope (sender : FederationServer Fq Key) (bundle scopedBundle :
    ReflectionSummaryBundle) : FederatedRtxEnvelope where
  bundle := scopedBundle
  provenance := ⟨bundle.sourceServer, [sender.publicUrl], bundle.bundleId⟩
  relayingServer := sender.publicUrl
  signature := Hex.encode (sender.ed25519.sign (utf8 (rtxRelaySigningPayload bundle.bundleId
    sender.publicUrl bundle.sourceServer [sender.publicUrl])))

/-- The envelope passes the checks of the receiver. -/
def ChecksPass (receiver : FederationServer Fq Key) (receiverDatabase : Database)
    (envelope : FederatedRtxEnvelope) : Prop :=
  ∃ answer, Answers (checkFederatedRtx receiver envelope) receiverDatabase [] answer

section Bundle

variable {sender receiver : FederationServer Fq Key}
  {senderDatabase receiverDatabase : Database} {receiverThere senderThere : Instance}
  {publicKey : List Byte} {bundle scopedBundle : ReflectionSummaryBundle}

theorem WasPublished.wellFormed (published : WasPublished sender bundle) :
    WellFormed bundle ∧ bundle.sourceServer = sender.publicUrl := by
  rcases published with ⟨pseudonymId, database, faults, delivered, ran⟩
  have ensured := @publishHandler_ensures _ _ sender database pseudonymId bundle faults
  rw [ran] at ensured
  rcases ensured with ⟨scope, storedBundle, through, -⟩
  exact ⟨through.admitted.wellFormed, through.admitted.here⟩

theorem relayTo_eq_some {peer : RelayPeer} {url : String} {envelope : FederatedRtxEnvelope}
    (relayed : relayTo sender bundle peer = some (.rtxRelay url envelope)) :
    ∃ scope scopedBundle, enforceTransferScope bundle scope = .ok scopedBundle ∧
      envelope = rtxEnvelope sender bundle scopedBundle := by
  unfold relayTo at relayed
  split at relayed
  · cases relayed
  · split at relayed
    · cases relayed
    · next scope parsed =>
      split at relayed
      · cases relayed
      · split at relayed
        · cases relayed
        · next enforced =>
          cases relayed
          exact ⟨scope, _, enforced, rfl⟩

theorem relayTo_permitted {peer : RelayPeer} {scope : VrpTransferScope}
    (elsewhere : peer.baseUrl ≠ sender.publicUrl)
    (origin : bundle.sourceServer = sender.publicUrl)
    (parsed : peer.transferScope = scope.toString) (permitted : scope ≠ .noTransfer) :
    ∃ scopedBundle, enforceTransferScope bundle scope = .ok scopedBundle ∧
      relayTo sender bundle peer = some (.rtxRelay (peer.baseUrl ++ "/api/federation/rtx")
        (rtxEnvelope sender bundle scopedBundle)) := by
  rcases enforceTransferScope_eq_ok permitted bundle with ⟨scopedBundle, enforced⟩
  refine ⟨scopedBundle, enforced, ?_⟩
  have fromElsewhere : bundle.sourceServer ≠ peer.baseUrl :=
    fun same => elsewhere (same.symm.trans origin)
  unfold relayTo
  rw [if_neg (not_or.mpr ⟨elsewhere, fromElsewhere⟩),
    VrpTransferScope.parse_eq_some_iff.mpr parsed]
  simp only
  rw [if_neg (scope_of_permitted.mpr permitted), enforced]
  rfl

/-- A relayed bundle passes exactly where the first active agreement permits transfers. -/
theorem checksPass_iff {scope : VrpTransferScope}
    (linked : Linked sender receiver senderDatabase receiverDatabase receiverThere
      senderThere publicKey)
    (published : WasPublished sender bundle)
    (enforced : enforceTransferScope bundle scope = .ok scopedBundle) :
    ChecksPass receiver receiverDatabase (rtxEnvelope sender bundle scopedBundle) ↔
      FirstPermits receiverDatabase senderThere := by
  rcases published.wellFormed with ⟨wellFormed, origin⟩
  constructor
  · rintro ⟨⟨passed, left⟩, answers⟩
    rcases (answers_checkFederatedRtx.mp answers).1 with ⟨remote, admitted⟩
    cases Option.some.inj (linked.receives.known.symm.trans admitted.known)
    exact ⟨passed, admitted.agreed, admitted.permitted⟩
  · rintro ⟨passed, agreed, permitted⟩
    rcases enforceTransferScope_eq_ok permitted scopedBundle with ⟨left, stripped⟩
    refine ⟨(passed, left), answers_checkFederatedRtx.mpr ⟨⟨senderThere, ?_⟩, stripped⟩⟩
    have originKnown : receiverDatabase.instances.rows.any
        (·.baseUrl = bundle.sourceServer) = true := by
      rw [origin]
      rcases of_findInstance linked.receives.known with ⟨member, url⟩
      exact List.any_eq_true.mpr ⟨senderThere, member, decide_eq_true url⟩
    have signed := linked.verifySignature (rtxRelaySigningPayload scopedBundle.bundleId
      sender.publicUrl bundle.sourceServer [sender.publicUrl])
    rw [bundleId_enforceTransferScope enforced] at signed
    exact
      { known := linked.receives.known
        active := linked.receives.active
        acyclic := Or.inr fun member => linked.distinct (List.mem_singleton.mp member).symm
        originKnown
        agreed
        permitted
        signed := by
          rw [rtxEnvelope, bundleId_enforceTransferScope enforced]
          exact signed
        wellFormed := wellFormed_enforceTransferScope enforced wellFormed }

end Bundle

/-- Relay and receipt agree exactly where the receiver's first identity of the commitment is
the author's, or is a member too and the id is taken, and its first active agreement with
the sender permits transfers. -/
theorem relay_and_receipt_agree_iff (sender receiver : FederationServer Fq Key)
    (senderDatabase receiverDatabase : Database) (receiverThere senderThere : Instance)
    (publicKey : List Byte)
    (linked : Linked sender receiver senderDatabase receiverDatabase receiverThere
      senderThere publicKey)
    (channelId : String) (message : Message) (commitment topic : String)
    (known : AuthorKnown sender receiver senderDatabase receiverDatabase senderThere channelId
      message commitment topic)
    (bundle : ReflectionSummaryBundle) (published : WasPublished sender bundle) :
    ((∀ relayed ∈ (relayMessage sender channelId message ⟨senderDatabase, [], []⟩).2.memory,
        relayed.url = receiver.publicUrl ++ "/api/federation/messages" →
          Delivered receiver receiverDatabase channelId message relayed.envelope) ∧
      ∀ envelope, .rtxRelay (receiver.publicUrl ++ "/api/federation/rtx") envelope ∈
          (relayRtxBundles sender bundle ⟨senderDatabase, [], []⟩).2.memory →
        ChecksPass receiver receiverDatabase envelope) ↔
      FirstIsAuthor receiver receiverDatabase senderThere channelId message commitment ∧
        FirstPermits receiverDatabase senderThere := by
  rcases linked.sends.mem_relayPeers with ⟨scope, permitted, peer⟩
  refine and_congr ?_ ?_
  · rcases @relayMessage_achieves _ _ sender senderDatabase channelId message _ _ known.verified
      with ⟨_, _, _, ran, rfl⟩
    rw [ran, ← delivered_iff linked known]
    constructor
    · intro delivered
      have sentTo : (⟨receiver.publicUrl, scope.toString⟩ : RelayPeer) ∈
          (relayPeers sender senderDatabase).filter (·.transferScope ≠ "NO_TRANSFER") :=
        List.mem_filter.mpr ⟨peer, decide_eq_true fun same =>
          permitted (@VrpTransferScope.toString_injective scope .noTransfer same)⟩
      have received := delivered _ (List.mem_map_of_mem sentTo) rfl
      exact received
    · intro delivered relayed member _
      rcases List.mem_map.mp member with ⟨_, _, rfl⟩
      exact delivered
  · rcases @relayRtxBundles_achieves _ _ sender senderDatabase bundle with ⟨_, _, _, ran, rfl⟩
    rw [ran]
    constructor
    · intro passes
      rcases @relayTo_permitted _ _ sender bundle ⟨receiver.publicUrl, scope.toString⟩ scope
        linked.distinct.symm published.wellFormed.2 rfl permitted with
        ⟨scopedBundle, enforced, relayed⟩
      exact (checksPass_iff linked published enforced).mp
        (passes _ (List.mem_filterMap.mpr ⟨_, peer, relayed⟩))
    · intro permits envelope member
      rcases List.mem_filterMap.mp member with ⟨other, _, relayed⟩
      rcases relayTo_eq_some relayed with ⟨otherScope, scopedBundle, enforced, rfl⟩
      exact (checksPass_iff linked published enforced).mpr permits

section Sample

/-! A message of an author verified under the topic `beta`. The digest of a text is its first
byte, so that a pseudonym names the first letter of its topic. -/

def letterEnvironment : Environment :=
  Environment.sample fun bytes => List.replicate 32 (bytes.headD 0)

def relayCommitment : String :=
  "00000000000000000000000000000000000000000000000000000000000000c0"

def alphaPseudonym : String :=
  "6161616161616161616161616161616161616161616161616161616161616161"

def betaPseudonym : String :=
  "6262626262626262626262626262626262626262626262626262626262626262"

def relayKey : List Byte := List.replicate 31 0 ++ [1]

def relayingServer : FederationServer Unit Unit :=
  { receivingServer with
    environment := letterEnvironment
    ed25519 := ⟨fun _ => none, fun _ _ _ => .ok (), fun _ => List.replicate 64 0⟩
    publicUrl := "https://peer.example" }

def relayReceiver : FederationServer Unit Unit :=
  { answeringServer with environment := letterEnvironment }

def relayAgreement (id localServerId : Nat) (transferScope : String) : FederationAgreement :=
  ⟨id, localServerId, 1, "ALIGNED", transferScope, .foreign "\x7b\x7d", none, true,
    "2026-01-01 00:00:00", "2026-01-01 00:00:00"⟩

def relayingDatabase : Database :=
  { migrated with
    servers := singleServer
    zkNullifiers := Table.empty.insert fun id =>
      ⟨id, "beta", "3030303030303030303030303030303030303030303030303030303030303030",
        some betaPseudonym, some relayCommitment⟩
    agentRegistrations := Table.empty.insert fun id =>
      ⟨id, 1, "agent", "PARTIAL", "REFLECTION_SUMMARIES_ONLY", .encoded ⟨[], [], []⟩, "0.0",
        true⟩
    instances := Table.empty.insert fun id => ⟨id, "https://here.example", peerKey, "ACTIVE"⟩
    federationAgreements := Table.empty.insert fun id =>
      relayAgreement id 1 "REFLECTION_SUMMARIES_ONLY" }

def relayIdentity (id : Nat) (topic pseudonymId : String) : FederatedIdentity :=
  ⟨id, 1, 1, relayCommitment, pseudonymId, topic, "2026-01-01 00:00:00",
    some emptyTree.rootHex, none⟩

/-- The receiver attests the author under the topic `beta` alone. -/
def agreeingDatabase : Database :=
  { receivingDatabase with
    federationAgreements := Table.empty.insert fun id =>
      relayAgreement id 1 "REFLECTION_SUMMARIES_ONLY"
    federatedIdentities := Table.empty.insert fun id => relayIdentity id "beta" betaPseudonym
    channelMembers := Table.empty.insert fun id =>
      ⟨id, 1, "room", betaPseudonym, "MEMBER", "2026-01-01 00:00:00"⟩ }

def relayedByAuthor : Message :=
  ⟨1, 1, "room", "message", betaPseudonym, "hello", none, "2026-01-01 00:00:00", none, none,
    none⟩

def relayedBundle : ReflectionSummaryBundle :=
  ⟨"b-1", "agent", "https://peer.example", [], "summary", none, [], 1, "sig", "ref"⟩

theorem signingKey_sample :
    SigningKey relayingServer.ed25519 relayReceiver.ed25519 relayKey where
  publicLength := rfl
  accepted := rfl
  length _ := rfl
  verifies _ := rfl

theorem federatesWith_sample :
    FederatesWith relayingServer relayReceiver relayingDatabase
      ⟨1, "https://here.example", peerKey, "ACTIVE"⟩ where
  known := by decide +kernel
  active := rfl
  agreed := ⟨relayAgreement 1 1 "REFLECTION_SUMMARIES_ONLY", by decide +kernel, rfl, rfl, rfl,
    .reflectionSummariesOnly, rfl, by decide⟩

theorem verifiedUnder_sample :
    VerifiedUnder letterEnvironment betaPseudonym relayCommitment "beta" relayingDatabase := by
  have rows : relayingDatabase.zkNullifiers.rows =
      [⟨1, "beta", "3030303030303030303030303030303030303030303030303030303030303030",
        some betaPseudonym, some relayCommitment⟩] := by decide +kernel
  refine ⟨by decide +kernel, Or.inl ⟨_, rows ▸ List.mem_singleton_self _, rfl, by simp⟩, ?_, ?_⟩
  · intro row member _ other stored
    rw [rows, List.mem_singleton] at member
    cases member
    cases stored
    exact ⟨rfl, rfl⟩
  · intro row member unset
    rw [rows, List.mem_singleton] at member
    cases member
    cases unset

theorem wasPublished_sample : WasPublished relayingServer relayedBundle :=
  ⟨"agent", relayingDatabase, [], 0, by decide +kernel⟩

theorem linked_sample :
    Linked relayingServer relayReceiver relayingDatabase agreeingDatabase
      ⟨1, "https://here.example", peerKey, "ACTIVE"⟩
      ⟨1, "https://peer.example", peerKey, "ACTIVE"⟩ relayKey where
  sends := federatesWith_sample
  receives := ⟨by decide +kernel, rfl, relayAgreement 1 1 "REFLECTION_SUMMARIES_ONLY",
    by decide +kernel, rfl, rfl, rfl, .reflectionSummariesOnly, rfl, by decide⟩
  distinct := by decide
  key := signingKey_sample
  stored := by decide +kernel
  sameProgram := rfl

theorem authorKnown_sample :
    AuthorKnown relayingServer relayReceiver relayingDatabase agreeingDatabase
      ⟨1, "https://peer.example", peerKey, "ACTIVE"⟩ "room" relayedByAuthor relayCommitment
      "beta" where
  verified := verifiedUnder_sample
  attested := ⟨relayIdentity 1 "beta" betaPseudonym, by decide +kernel, rfl, rfl, rfl,
    by decide +kernel, emptyTree, emptyTreeResponse, ⟨migrated, [], []⟩, rfl, rfl, rfl⟩
  channel := ⟨⟨1, 1, "room", "Room", .encoded .text, none, none, none, none, some 30,
    .encoded .federated, "2026-01-01 00:00:00"⟩, _, by decide +kernel, rfl, rfl,
    by decide +kernel⟩
  member := by decide +kernel

theorem relay_and_receipt_agree_sample :
    (relayMessage relayingServer "room" relayedByAuthor ⟨relayingDatabase, [], []⟩).2.memory ≠
        [] ∧
      (∀ relayed ∈ (relayMessage relayingServer "room" relayedByAuthor
          ⟨relayingDatabase, [], []⟩).2.memory,
        relayed.url = relayReceiver.publicUrl ++ "/api/federation/messages" →
          Delivered relayReceiver agreeingDatabase "room" relayedByAuthor relayed.envelope) ∧
      ∀ envelope, .rtxRelay (relayReceiver.publicUrl ++ "/api/federation/rtx") envelope ∈
          (relayRtxBundles relayingServer relayedBundle ⟨relayingDatabase, [], []⟩).2.memory →
        ChecksPass relayReceiver agreeingDatabase envelope := by
  refine ⟨by decide +kernel, ?_⟩
  refine (relay_and_receipt_agree_iff relayingServer relayReceiver relayingDatabase
    agreeingDatabase _ _ relayKey linked_sample "room" relayedByAuthor relayCommitment "beta"
    authorKnown_sample relayedBundle wasPublished_sample).mpr ⟨?_, ?_⟩
  · intro first found
    have beta : findAttested 1 relayCommitment agreeingDatabase =
        some (relayIdentity 1 "beta" betaPseudonym) := by decide +kernel
    cases Option.some.inj (beta.symm.trans found)
    exact Or.inl rfl
  · exact ⟨.reflectionSummariesOnly, by decide +kernel, by decide⟩

/-- The author is attested under `alpha` too, and first; and another server of the database
federates with the peer without transfers, and did so first. -/
def disagreeingDatabase : Database :=
  { agreeingDatabase with
    federationAgreements :=
      (Table.empty.insert fun id => relayAgreement id 2 "NO_TRANSFER").insert fun id =>
        relayAgreement id 1 "REFLECTION_SUMMARIES_ONLY"
    federatedIdentities :=
      (Table.empty.insert fun id => relayIdentity id "alpha" alphaPseudonym).insert fun id =>
        relayIdentity id "beta" betaPseudonym }

theorem linked_disagreeing :
    Linked relayingServer relayReceiver relayingDatabase disagreeingDatabase
      ⟨1, "https://here.example", peerKey, "ACTIVE"⟩
      ⟨1, "https://peer.example", peerKey, "ACTIVE"⟩ relayKey :=
  { linked_sample with
    receives := ⟨by decide +kernel, rfl, relayAgreement 2 1 "REFLECTION_SUMMARIES_ONLY",
      by decide +kernel, rfl, rfl, rfl, .reflectionSummariesOnly, rfl, by decide⟩ }

theorem authorKnown_disagreeing :
    AuthorKnown relayingServer relayReceiver relayingDatabase disagreeingDatabase
      ⟨1, "https://peer.example", peerKey, "ACTIVE"⟩ "room" relayedByAuthor relayCommitment
      "beta" :=
  { authorKnown_sample with
    attested := ⟨relayIdentity 2 "beta" betaPseudonym, by decide +kernel, rfl, rfl, rfl,
      by decide +kernel, emptyTree, emptyTreeResponse, ⟨migrated, [], []⟩, rfl, rfl, rfl⟩ }

/-- The message is refused, as its author is taken for the identity of the other topic, and
the bundle by the scope of the other server's agreement. -/
theorem relay_and_receipt_disagree :
    Linked relayingServer relayReceiver relayingDatabase disagreeingDatabase
        ⟨1, "https://here.example", peerKey, "ACTIVE"⟩
        ⟨1, "https://peer.example", peerKey, "ACTIVE"⟩ relayKey ∧
      AuthorKnown relayingServer relayReceiver relayingDatabase disagreeingDatabase
        ⟨1, "https://peer.example", peerKey, "ACTIVE"⟩ "room" relayedByAuthor relayCommitment
        "beta" ∧
      WasPublished relayingServer relayedBundle ∧
      (¬ ∀ relayed ∈ (relayMessage relayingServer "room" relayedByAuthor
          ⟨relayingDatabase, [], []⟩).2.memory,
        relayed.url = relayReceiver.publicUrl ++ "/api/federation/messages" →
          Delivered relayReceiver disagreeingDatabase "room" relayedByAuthor
            relayed.envelope) ∧
      ¬ ∀ envelope, .rtxRelay (relayReceiver.publicUrl ++ "/api/federation/rtx") envelope ∈
          (relayRtxBundles relayingServer relayedBundle ⟨relayingDatabase, [], []⟩).2.memory →
        ChecksPass relayReceiver disagreeingDatabase envelope := by
  refine ⟨linked_disagreeing, authorKnown_disagreeing, wasPublished_sample, ?_, ?_⟩
  · intro delivered
    have accepted := (delivered
      ⟨"https://here.example/api/federation/messages", relayEnvelope relayingServer "room"
        relayedByAuthor ("beta:" ++ relayCommitment)⟩ (by decide +kernel) (by decide)).1
    have refused : (receiveFederatedMessageHandler relayReceiver
        (relayEnvelope relayingServer "room" relayedByAuthor ("beta:" ++ relayCommitment))
        ⟨disagreeingDatabase, [], []⟩).1 =
          .error (.forbidden ("User " ++ alphaPseudonym ++
            " is not a member of channel room")) := by decide +kernel
    rw [refused] at accepted
    cases accepted
  · intro passes
    rcases passes (rtxEnvelope relayingServer relayedBundle relayedBundle)
      (by decide +kernel) with ⟨answer, answers⟩
    have refused : (checkFederatedRtx relayReceiver
        (rtxEnvelope relayingServer relayedBundle relayedBundle)
        ⟨disagreeingDatabase, [], []⟩).1 =
          .error (.forbidden "Federation agreement does not permit RTX transfer") := by
      decide +kernel
    rw [answers] at refused
    cases refused

end Sample

end Annex.Server
