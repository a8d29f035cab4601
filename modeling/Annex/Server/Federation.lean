import Annex.Channels.Store
import Annex.Federation.Handshake
import Annex.Federation.Types
import Annex.Graph.Node
import Annex.Identity.Pseudonym
import Annex.Network
import Annex.Rtx.Store
import Annex.Server.State

namespace Annex.Server

open Channels Db Federation Identity Rtx Sql Vrp

/-! The endpoints federation peers call: relayed messages, attested identities,
federated members and relayed bundles. -/

inductive FederationError where
  | handshake (error : HandshakeError)
  | dbError (error : DbError)
  | unknownRemote (text : String)
  | invalidSignature (text : String)
  | network (text : String)
  | remoteServer (text : String)
  | zkVerification (text : String)
  | identityDerivation (text : String)
  | channel (error : ChannelError)
  | forbidden (text : String)
deriving DecidableEq, Repr

def FederationError.text : FederationError → String
  | .handshake error => "Handshake failed: " ++ error.text
  | .dbError error => "Database error: " ++ error.text
  | .unknownRemote text => "Unknown remote instance: " ++ text
  | .invalidSignature text => "Invalid signature: " ++ text
  | .network text => "Network error: " ++ text
  | .remoteServer text => "Remote server error: " ++ text
  | .zkVerification text => "ZK Verification failed: " ++ text
  | .identityDerivation text => "Identity derivation failed: " ++ text
  | .channel error => "Channel error: " ++ error.text
  | .forbidden text => "Forbidden: " ++ text

/-- A federation handler over the database and what it has sent so far. -/
abbrev FederationHandler := Sql Database (List Outbound) FederationError

/-- What the federation handlers run with: the state of the server, the clock, and
what lies outside the repository. `get` answers a request to another server. -/
structure FederationServer (Fq Key : Type) where
  environment : Environment
  ed25519 : Ed25519
  get : String → Except String HttpResponse
  curve : Curve Fq Key
  membershipVkey : Key
  serverId : Nat
  publicUrl : String
  clock : Clock

/-- Body of a request to join a channel. -/
structure JoinFederatedChannelRequest where
  originatingServer : String
  pseudonymId : String
  signature : String
deriving DecidableEq, Repr

/-- The row of an instance; its base URL is unique. -/
def findInstance (baseUrl : String) (database : Database) : Option Instance :=
  database.instances.rows.find? (·.baseUrl = baseUrl)

def resolveInstance (baseUrl : String) : FederationHandler Instance :=
  query
    (fun error =>
      if error = .noRows then .unknownRemote baseUrl else .dbError error)
    fun database =>
      match findInstance baseUrl database with
      | some row => .ok row
      | none => .error .noRows

/-- Whether some active agreement names the instance, of whatever server it is. -/
def anyActiveAgreement (remoteInstanceId : Nat) (database : Database) : Bool :=
  database.federationAgreements.rows.any fun row =>
    row.remoteInstanceId = remoteInstanceId && row.active

/-- The first checks of a relayed message and of a join: a known and active instance
with an active agreement. -/
def resolveFederatedInstance (originatingServer : String) : FederationHandler Instance := do
  let remote ← resolveInstance originatingServer
  check (remote.status = "ACTIVE")
    (.forbidden ("Instance " ++ originatingServer ++ " is not active"))
  let agreementActive ← query .dbError fun database =>
    .ok (anyActiveAgreement remote.id database)
  check (agreementActive = true)
    (.forbidden ("No active federation agreement with " ++ originatingServer))
  pure remote

/-- `rsplit_once(':')` with both parts non-empty, as commitment and topic. -/
def parseAttestationRef (attestationRef : String) :
    Except FederationError (String × String) :=
  let reversed := attestationRef.toList.reverse
  let commitment := (reversed.takeWhile (· ≠ ':')).reverse
  match reversed.dropWhile (· ≠ ':') with
  | _ :: topic =>
      if topic ≠ [] ∧ commitment ≠ [] then
        .ok (String.ofList commitment, String.ofList topic.reverse)
      else
        .error (.forbidden "Invalid attestation ref format")
  | [] => .error (.forbidden "Invalid attestation ref format")

/-- The signed text of a relay envelope. -/
def rtxRelaySigningPayload (bundleId relayingServer originServer : String)
    (relayPath : List String) : String :=
  String.intercalate "\n"
    [bundleId, relayingServer, originServer, String.intercalate "|" relayPath]

/-- `GET /api/federation/vrp-root`, over the tree in memory. -/
def getVrpRootHandler (tree : MerkleTree Fr) : FederationHandler GetRootResponse := do
  connect .dbError
  let updatedAt ← query .dbError fun database =>
    .ok ((database.vrpRoots.rows.find? (·.rootHex = tree.rootHex)).map VrpRoot.createdAt)
  pure ⟨tree.rootHex, tree.nextIndex, updatedAt⟩

section Handlers

variable {Fq Key : Type} (server : FederationServer Fq Key)

def decodeHex (failure text : String) : Except FederationError (List Byte) :=
  match Hex.decode text with
  | some bytes => .ok bytes
  | none => .error (.invalidSignature (failure ++ server.environment.hexErrorText text))

/-- The signature of a text under the key an instance is stored with. -/
def verifySignature (publicKeyHex signatureHex text : String) :
    Except FederationError Unit := do
  let publicKeyBytes ← decodeHex server "Invalid public key hex: " publicKeyHex
  let signatureBytes ← decodeHex server "Invalid signature hex: " signatureHex
  if publicKeyBytes.length ≠ 32 then
    .error (.invalidSignature "Invalid public key length")
  else
    match server.ed25519.keyError publicKeyBytes with
    | some text => .error (.invalidSignature text)
    | none =>
        if signatureBytes.length ≠ 64 then
          .error (.invalidSignature "Invalid signature length")
        else
          (server.ed25519.verify publicKeyBytes (utf8 text) signatureBytes).mapError
            .invalidSignature

/-! Relayed messages. -/

def messageSignatureInput (envelope : FederatedMessageEnvelope) : String :=
  String.intercalate "\n"
    [envelope.messageId, envelope.channelId, envelope.content, envelope.senderPseudonym,
      envelope.originatingServer, envelope.attestationRef, envelope.createdAt]

/-- The root the origin answers with now, under the name the check reads it by. -/
def currentRemoteRoot (originatingServer : String) : Except String String :=
  match server.get (originatingServer ++ "/api/federation/vrp-root") with
  | .error text => .error text
  | .ok response =>
      if response.isSuccess then
        match response.body with
        | none => .error response.decodeText
        | some body =>
            match (body.get "root_hex").bind Json.asStr with
            | some root => .ok root
            | none => .error "missing root_hex in response"
      else
        .error ("remote vrp-root returned " ++ response.statusText)

/-- The origin has another root now than at the attestation. A root that cannot be
fetched does not count. -/
def attestationStale (originatingServer rootHexAtVerification : String) : Bool :=
  rootHexAtVerification ≠ "" &&
    match currentRemoteRoot server originatingServer with
    | .ok current => current ≠ rootHexAtVerification
    | .error _ => false

/-- The attested identity of a commitment, of whatever server. -/
def findAttested (remoteInstanceId : Nat) (commitmentHex : String) (database : Database) :
    Option FederatedIdentity :=
  database.federatedIdentities.rows.find? fun row =>
    row.remoteInstanceId = remoteInstanceId && row.commitmentHex = commitmentHex

/-- Steps 1 to 6 of a relayed message: the pseudonym it is stored under. -/
def checkFederatedMessage (envelope : FederatedMessageEnvelope) :
    FederationHandler String := do
  connect .dbError
  let remote ← resolveFederatedInstance envelope.originatingServer
  ofExcept (verifySignature server remote.publicKey envelope.signature
    (messageSignatureInput envelope))
  let (commitmentHex, _) ← ofExcept (parseAttestationRef envelope.attestationRef)
  let identity ← query
    (fun error =>
      if error = .noRows then
        .forbidden ("Identity with commitment " ++ commitmentHex ++ " not attested")
      else .dbError error)
    fun database =>
      match findAttested remote.id commitmentHex database with
      | some row => .ok row
      | none => .error .noRows
  check (attestationStale server envelope.originatingServer
      (identity.rootHexAtVerification.getD "") = false)
    (.forbidden "attestation stale, re-verification required")
  let channel ← mapErr .channel (getChannel server.environment envelope.channelId)
  check (channel.federationScope = .federated)
    (.forbidden ("Channel " ++ envelope.channelId ++ " is not federated"))
  let isMember ← mapErr .channel
    (isMember server.serverId envelope.channelId identity.pseudonymId)
  check (isMember = true)
    (.forbidden ("User " ++ identity.pseudonymId ++ " is not a member of channel " ++
      envelope.channelId))
  pure identity.pseudonymId

def federatedMessageParams (envelope : FederatedMessageEnvelope)
    (localPseudonymId : String) : CreateMessageParams where
  channelId := envelope.channelId
  messageId := envelope.messageId
  senderPseudonym := localPseudonymId
  content := envelope.content
  replyToMessageId := none

/-- Step 7. Any violated constraint counts as a message received before. -/
def storeFederatedMessage (envelope : FederatedMessageEnvelope)
    (localPseudonymId : String) : FederationHandler (Option Message) := do
  let outcome ← attempt (createMessage server.clock
    (federatedMessageParams envelope localPseudonymId))
  match outcome with
  | .ok message => pure (some message)
  | .error (.database (.constraint _ _)) => pure none
  | .error error => fail (.channel error)

def receiveFederatedMessageHandler (envelope : FederatedMessageEnvelope) :
    FederationHandler Unit := do
  let localPseudonymId ← checkFederatedMessage server envelope
  let inserted ← storeFederatedMessage server envelope localPseudonymId
  match inserted with
  | some message => send (.broadcast envelope.channelId (.message (.ofMessage message)))
  | none => pure ()

/-! Attested identities. -/

/-- The root of the origin, as its endpoint answers it. -/
def fetchRemoteRoot (originatingServer : String) : Except FederationError String :=
  match server.get (originatingServer ++ "/api/federation/vrp-root") with
  | .error text => .error (.network text)
  | .ok response =>
      if response.isSuccess then
        match response.body.bind GetRootResponse.ofJson with
        | some root => .ok root.rootHex
        | none => .error (.network response.decodeText)
      else
        .error (.remoteServer ("Failed to fetch root: " ++ response.statusText))

def zkFailed (failure : String) (error : ZkError) : FederationError :=
  .zkVerification (failure ++ error.text)

/-- Steps 1 to 3 of an attestation: the instance that signed it, and the root of that
instance the proof holds under. -/
def checkAttestation (payload : AttestationRequest) :
    FederationHandler (Instance × String) := do
  connect .dbError
  let remote ← resolveInstance payload.originatingServer
  ofExcept (verifySignature server remote.publicKey payload.signature
    (String.intercalate "\n" [payload.topic, payload.commitment, payload.participantType]))
  let remoteRootHex ← ofExcept (fetchRemoteRoot server payload.originatingServer)
  let proof ← orElse (parseProof server.curve server.environment payload.proof)
    (zkFailed "Invalid proof format: ")
  let remoteRoot ← orElse (parseFrFromHex remoteRootHex) (zkFailed "Invalid root hex: ")
  let commitment ← orElse (parseFrFromHex payload.commitment)
    (zkFailed "Invalid commitment hex: ")
  let valid ← orElse
    (verifyProof server.curve server.membershipVkey proof [remoteRoot, commitment])
    (zkFailed "Proof verification error: ")
  check (valid = true) (.zkVerification "Invalid proof")
  pure (remote, remoteRootHex)

def participantNodeType (participantType : String) : Except FederationError NodeType :=
  if participantType = "HUMAN" then .ok .human
  else if participantType = "AI_AGENT" then .ok .aiAgent
  else if participantType = "COLLECTIVE" then .ok .collective
  else if participantType = "BRIDGE" then .ok .bridge
  else if participantType = "SERVICE" then .ok .service
  else .error (.zkVerification ("unknown participant type: " ++ participantType))

/-- The first half of step 4: what the identity is called here. -/
def attestedNames (payload : AttestationRequest) :
    FederationHandler (String × NodeType) := do
  connect .dbError
  let nullifierHex ← orElse
    (deriveNullifierHex server.environment payload.commitment payload.topic) fun error =>
      .identityDerivation ("Failed to derive nullifier: " ++ error.text)
  let pseudonymId ← orElse
    (derivePseudonymId server.environment payload.topic nullifierHex) fun error =>
      .identityDerivation ("Failed to derive pseudonym: " ++ error.text)
  let nodeType ← ofExcept (participantNodeType payload.participantType)
  pure (pseudonymId, nodeType)

/-- The key of `federated_identities`. -/
def attestedBy (serverId remoteInstanceId : Nat) (pseudonymId : String)
    (row : FederatedIdentity) : Bool :=
  row.serverId = serverId && row.remoteInstanceId = remoteInstanceId &&
    row.pseudonymId = pseudonymId

/-- What an attestation writes into the row of its identity. -/
def attest (payload : AttestationRequest) (remoteRootHex : String)
    (row : FederatedIdentity) : FederatedIdentity :=
  { row with
    attestedAt := server.clock.datetime
    commitmentHex := payload.commitment
    vrpTopic := payload.topic
    rootHexAtVerification := some remoteRootHex
    lastVerifiedAt := some server.clock.datetime }

theorem key_attest (payload : AttestationRequest) (remoteRootHex : String)
    (row : FederatedIdentity) : key (attest server payload remoteRootHex row) = key row :=
  rfl

def newFederatedIdentity (payload : AttestationRequest) (remoteInstanceId : Nat)
    (remoteRootHex pseudonymId : String) (id : Nat) : FederatedIdentity where
  id
  serverId := server.serverId
  remoteInstanceId
  commitmentHex := payload.commitment
  pseudonymId
  vrpTopic := payload.topic
  attestedAt := server.clock.datetime
  rootHexAtVerification := some remoteRootHex
  lastVerifiedAt := some server.clock.datetime

theorem key_newFederatedIdentity (payload : AttestationRequest) (remoteInstanceId : Nat)
    (remoteRootHex pseudonymId : String) (id : Nat) :
    key (newFederatedIdentity server payload remoteInstanceId remoteRootHex pseudonymId id) = id :=
  rfl

/-- The upsert of `federated_identities`; for a new row the server and the instance
must exist. -/
def upsertFederatedIdentity (payload : AttestationRequest) (remoteInstanceId : Nat)
    (remoteRootHex pseudonymId : String) (database : Database) :
    Except DbError Database :=
  if (database.federatedIdentities.rows.any
        (attestedBy server.serverId remoteInstanceId pseudonymId) ||
      (database.servers.rows.any (·.id = server.serverId) &&
        database.instances.rows.any (·.id = remoteInstanceId))) = false then
    .error foreignKeyFailed
  else
    .ok
      { database with
        federatedIdentities := database.federatedIdentities.upsert
          (attestedBy server.serverId remoteInstanceId pseudonymId)
          (attest server payload remoteRootHex)
          (newFederatedIdentity server payload remoteInstanceId remoteRootHex pseudonymId)
          (key_attest server payload remoteRootHex)
          (key_newFederatedIdentity server payload remoteInstanceId remoteRootHex pseudonymId) }

/-- The upsert of `platform_identities`: the identity is active, of the attested type. -/
def upsertAttestedPlatformIdentity (pseudonymId participantType : String)
    (database : Database) : Database :=
  { database with
    platformIdentities := database.platformIdentities.upsert
      (fun row => row.serverId = server.serverId && row.pseudonymId = pseudonymId)
      (fun row => { row with active := true, participantType })
      fun id =>
        { id
          serverId := server.serverId
          pseudonymId
          participantType
          canVoice := false
          canModerate := false
          canInvite := false
          canFederate := false
          canBridge := false
          active := true } }

def graphFailed : Graph.GraphError → FederationError
  | .databaseError error => .dbError error

/-- The three writes of step 4, inside their transaction. -/
def recordAttestation (payload : AttestationRequest) (remoteInstanceId : Nat)
    (remoteRootHex pseudonymId : String) (nodeType : NodeType) :
    FederationHandler Unit := do
  execute .dbError
    (upsertFederatedIdentity server payload remoteInstanceId remoteRootHex pseudonymId)
  execute .dbError fun database =>
    .ok (upsertAttestedPlatformIdentity server pseudonymId payload.participantType database)
  let _ ← mapErr graphFailed
    (Graph.ensureGraphNode server.clock.datetime server.serverId pseudonymId nodeType none)
  pure ()

/-- The handler, answering with the pseudonym. -/
def attestMembershipHandler (payload : AttestationRequest) : FederationHandler String := do
  let (remote, remoteRootHex) ← checkAttestation server payload
  let (pseudonymId, nodeType) ← attestedNames server payload
  transaction .dbError .dbError
    (recordAttestation server payload remote.id remoteRootHex pseudonymId nodeType)
  pure pseudonymId

/-! Federated members. -/

def checkFederatedJoin (channelId : String) (payload : JoinFederatedChannelRequest) :
    FederationHandler Unit := do
  connect .dbError
  let remote ← resolveFederatedInstance payload.originatingServer
  ofExcept (verifySignature server remote.publicKey payload.signature
    (String.intercalate "\n" [channelId, payload.pseudonymId]))
  let attested ← query .dbError fun database =>
    .ok (database.federatedIdentities.rows.any fun row =>
      row.remoteInstanceId = remote.id && row.pseudonymId = payload.pseudonymId)
  check (attested = true)
    (.forbidden ("Identity " ++ payload.pseudonymId ++ " not attested for instance " ++
      payload.originatingServer))

def joinFederatedChannelHandler (channelId : String)
    (payload : JoinFederatedChannelRequest) : FederationHandler Unit := do
  checkFederatedJoin server channelId payload
  mapErr .channel (addMember server.environment server.clock.datetime server.serverId
    channelId payload.pseudonymId)

/-! Relayed bundles. -/

/-- The transfer scope of the first active agreement with an instance. -/
def agreementScope (remoteInstanceId : Nat) (database : Database) : Option String :=
  (database.federationAgreements.rows.find? fun row =>
    row.remoteInstanceId = remoteInstanceId && row.active).map
      FederationAgreement.transferScope

/-- Steps 1 to 5 of a relayed bundle: the scope of the agreement and what it leaves of
the bundle. -/
def checkFederatedRtx (envelope : FederatedRtxEnvelope) :
    FederationHandler (VrpTransferScope × ReflectionSummaryBundle) := do
  connect .dbError
  let remote ← resolveInstance envelope.relayingServer
  check (remote.status = "ACTIVE")
    (.forbidden ("Instance " ++ envelope.relayingServer ++ " is not active"))
  check (¬ (server.publicUrl ≠ "" ∧ server.publicUrl ∈ envelope.provenance.relayPath))
    (.forbidden "circular relay detected: local server already in relay path")
  let originKnown ← query .dbError fun database =>
    .ok (database.instances.rows.any (·.baseUrl = envelope.provenance.originServer))
  check (originKnown = true)
    (.unknownRemote ("origin server " ++ envelope.provenance.originServer ++
      " is not a known instance"))
  let transferScope ← query
    (fun error =>
      if error = .noRows then
        .forbidden ("No active federation agreement with " ++ envelope.relayingServer)
      else .dbError error)
    fun database =>
      match agreementScope remote.id database with
      | some scope => .ok scope
      | none => .error .noRows
  let scope ← require (VrpTransferScope.parse transferScope)
    (.forbidden "Federation agreement has invalid transfer scope")
  check (¬ scope.rank < VrpTransferScope.reflectionSummariesOnly.rank)
    (.forbidden "Federation agreement does not permit RTX transfer")
  ofExcept (verifySignature server remote.publicKey envelope.signature
    (rtxRelaySigningPayload envelope.bundle.bundleId envelope.relayingServer
      envelope.provenance.originServer envelope.provenance.relayPath))
  orElse (validateBundleStructure envelope.bundle) fun error =>
    .forbidden ("Invalid bundle structure: " ++ error.text)
  let scopedBundle ← orElse (enforceTransferScope envelope.bundle scope) fun error =>
    .forbidden error.text
  pure (scope, scopedBundle)

/-- Steps 6 to 8, inside their transaction. `none` stands for a bundle received before,
on which the transaction is dropped. -/
def storeFederatedRtx (envelope : FederatedRtxEnvelope) (scope : VrpTransferScope)
    (scopedBundle : ReflectionSummaryBundle) :
    Sql Database (List Outbound) (Option FederationError)
      (List (String × ReflectionSummaryBundle)) := do
  execute
    (fun error =>
      match error with
      | .constraint _ _ => none
      | error => some (.dbError error))
    (insertBundle server.serverId scopedBundle (some envelope.provenance))
  execute (fun error => some (.dbError error))
    (insertTransfer server.clock.datetime server.serverId scopedBundle none scope
      (redactions envelope.bundle scopedBundle))
  let found ← query (fun error => some (.dbError error)) fun database =>
    .ok (subscribers server.serverId (·.acceptFederated) database)
  deliver (some (.dbError (.conversion server.environment.joinErrorText)))
    server.clock.datetime server.serverId scopedBundle found

/-- The handler, answering with the number of deliveries. -/
def receiveFederatedRtxHandler (envelope : FederatedRtxEnvelope) :
    FederationHandler Nat := do
  let (scope, scopedBundle) ← checkFederatedRtx server envelope
  let outcome ← attempt (transaction (fun error => some (.dbError error))
    (fun error => some (.dbError error))
    (storeFederatedRtx server envelope scope scopedBundle))
  match outcome with
  | .error none => pure 0
  | .error (some error) => fail error
  | .ok delivered => do
      sendAll (delivered.map fun copy =>
        .rtxBundle copy.1 copy.2 (some envelope.provenance))
      pure delivered.length

end Handlers

end Annex.Server
