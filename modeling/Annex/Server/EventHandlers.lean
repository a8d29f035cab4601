import Annex.Foundation.Task
import Annex.Identity.Platform
import Annex.Identity.Registry
import Annex.Server.AgentHandshake
import Annex.Server.Federation
import Annex.Server.VerifyMembership

namespace Annex.Server

open Db Federation Graph Identity Observe Sql Vrp

/-! The handlers that emit events. Each is a sequence of commands, and other handlers may come
between them: a statement outside a transaction is one command, and so is a transaction. -/

/-- What a server keeps in memory, and what has left it. -/
structure Live where
  tree : MerkleTree Fr
  policy : ServerPolicy
  sent : List Outbound
  disconnected : List String
  notified : List (String × Nat)

/-- What the handlers run with. `realText` is how the database shows a `REAL`, and
`isWhitespace` the Unicode property. -/
structure EventServer (Fq Key : Type) where
  environment : Environment
  curve : Curve Fq Key
  membershipVkey : Key
  hash : Fr → Fr → Fr
  serverId : Nat
  realText : F32 → String
  isWhitespace : Char → Bool

/-- What a command takes from outside: the time, in the database and in seconds, the order of
rows of one second, and the times before now. -/
structure EventContext where
  now : String
  clock : Option Nat
  ties : TieOrder
  secondsAgo : Nat → Option String

/-- A program over the whole database and the memory. -/
abbrev LiveSql (Error : Type) := Sql ServerDatabase Live Error

/-- Run a program that sends. -/
def sending {Error α : Type} (program : ServerSql Error α) : LiveSql Error α :=
  inMemory Live.sent (fun sent live => { live with sent }) program

/-- Run a program on the tree in memory. -/
def onTree {Error α : Type} (program : Sql Database (MerkleTree Fr) Error α) :
    LiveSql Error α :=
  inMemory Live.tree (fun tree live => { live with tree })
    (onPart (fun database => database.toDatabase)
      (fun part database => { database with toDatabase := part }) program)

/-- What a handler does at once. The transactions that emit events are listed one by one. -/
inductive EventCommand : Type → Type 1 where
  | program {Error α : Type} (run : EventContext → LiveSql Error α) :
      EventCommand (Except Error α)
  | storePolicy (request : PolicyRequest) : EventCommand (Except ApiError Unit)
  | recalculateAgents (policy : ServerPolicy) :
      EventCommand (Except ApiError (List String))
  | recalculateAgreements (policy : ServerPolicy) :
      EventCommand (Except ApiError (List (String × Nat)))
  | recordPseudonym (serverId : Nat) (payload : VerifyMembershipRequest)
      (nullifierHex pseudonymId : String) (roleCode : RoleCode)
      (metadataJson : Option AgentMetadata) : EventCommand (Except ApiError Unit)
  | storeAgentHandshake (request : AgentHandshakeRequest) (report : VrpValidationReport) :
      EventCommand (Except ApiError (Option EventPayload))

/-- A handler that emits events. -/
abbrev EventTask (Error α : Type) := Task EventCommand Error α

section Commands

variable {Fq Key : Type} (server : EventServer Fq Key)

namespace EventCommand

/-- The transaction of `verify_membership_handler`. -/
def recordingPseudonym (context : EventContext) (serverId : Nat)
    (payload : VerifyMembershipRequest) (nullifierHex pseudonymId : String)
    (roleCode : RoleCode) (metadataJson : Option AgentMetadata) : Handler Unit :=
  transaction startFailed commitFailed
    (Server.recordPseudonym context.now server.serverId serverId payload nullifierHex
      pseudonymId roleCode metadataJson)

/-- What a command does in a session. -/
def run : (β : Type) → EventContext → EventCommand β → Session ServerDatabase Live →
    β × Session ServerDatabase Live
  | _, context, .program ran => ran context
  | _, context, .storePolicy request =>
      sending (onPolicies (Server.storePolicy context.now server.serverId request))
  | _, context, .recalculateAgents policy =>
      sending (onPolicies (recalculateAgentAlignments server.environment context.clock
        context.now server.serverId policy))
  | _, context, .recalculateAgreements policy =>
      sending (onTables (recalculateFederationAgreements server.environment context.clock
        context.now server.serverId policy))
  | _, context, .recordPseudonym serverId payload nullifierHex pseudonymId roleCode metadata =>
      sending (onTables (recordingPseudonym server context serverId payload nullifierHex
        pseudonymId roleCode metadata))
  | _, context, .storeAgentHandshake request report =>
      sending (Server.storeAgentHandshake server.environment.arithmetic server.realText
        context.ties context.now server.serverId request report)

end EventCommand

/-! What the handlers have in common. -/

variable {Error : Type}

def command {α : Type} (run : EventContext → LiveSql Error α) : EventTask Error α :=
  Task.perform (.program run)

/-- Go on only under the condition. -/
def demand (condition : Prop) [Decidable condition] (error : Error) : EventTask Error Unit :=
  .ended (if condition then .ok () else .error error)

def readPolicy : EventTask Error ServerPolicy :=
  command fun _ => do
    let live ← readMemory
    pure live.policy

/-- Log an event outside a transaction and broadcast it. -/
def emit (entityId : String) (payload : EventPayload) : EventTask Error Unit :=
  command fun context =>
    sending (onTables (emitAndBroadcast context.now server.serverId entityId payload))

def announcePresence (events : List PresenceEvent) : EventTask Error Unit :=
  command fun _ => sending (remember fun sent => sent ++ events.map .presence)

end Commands

/-- A request to register a commitment. -/
structure RegisterRequest where
  commitmentHex : String
  roleCode : Nat
  nodeId : Int
deriving DecidableEq, Repr

def registrationFailed : IdentityError → ApiError
  | .invalidCommitmentFormat => .badRequest IdentityError.invalidCommitmentFormat.text
  | .invalidRoleCode code => .badRequest (IdentityError.invalidRoleCode code).text
  | .invalidHex => .badRequest IdentityError.invalidHex.text
  | .duplicateCommitment text => .conflict (IdentityError.duplicateCommitment text).text
  | error => .internalServerError error.text

structure FederationHandshakeRequest where
  baseUrl : String
  handshake : VrpFederationHandshake
deriving DecidableEq, Repr

/-- The image types a server image can have. -/
inductive ServerImageType where
  | jpeg
  | png
  | gif
  | webp
deriving DecidableEq, Repr

def ServerImageType.contentType : ServerImageType → String
  | jpeg => "image/jpeg"
  | png => "image/png"
  | gif => "image/gif"
  | webp => "image/webp"

def ServerImageType.ext : ServerImageType → String
  | jpeg => "jpg"
  | png => "png"
  | gif => "gif"
  | webp => "webp"

/-- A server image that has been checked, cleaned and written to disk. -/
structure SavedImage where
  uploadId : String
  originalFilename : String
  imageType : ServerImageType
  sizeBytes : Nat
deriving DecidableEq, Repr

def SavedImage.url (image : SavedImage) : String :=
  "/uploads/server/server_" ++ image.uploadId ++ "." ++ image.imageType.ext

/-- `INSERT INTO uploads` of a server image. -/
def insertUpload (serverId : Nat) (moderator : String) (image : SavedImage)
    (database : ServerDatabase) : Except DbError ServerDatabase :=
  if database.uploads.rows.any (·.uploadId = image.uploadId) then
    .error (.constraint .unique "UNIQUE constraint failed: uploads.upload_id")
  else if database.servers.rows.any (·.id = serverId) then
    .ok
      { database with
        uploads := database.uploads.insert fun id =>
          { id
            serverId
            uploadId := image.uploadId
            uploaderPseudonym := moderator
            originalFilename := image.originalFilename
            contentType := image.imageType.contentType
            sizeBytes := image.sizeBytes
            purpose := "server_image"
            category := "image" } }
  else
    .error Rtx.serverMissing

/-- `str::trim`. -/
def trim (isWhitespace : Char → Bool) (text : String) : String :=
  String.ofList ((text.toList.dropWhile isWhitespace).reverse.dropWhile isWhitespace).reverse

/-- How a truth value is displayed. -/
def boolText (value : Bool) : String :=
  if value then "true" else "false"

section Handlers

variable {Fq Key : Type} (server : EventServer Fq Key)

/-- `POST /api/registry/register`. -/
def registerHandler (payload : RegisterRequest) : EventTask ApiError RegistrationResult := do
  let role ← .ended (match RoleCode.fromU8 payload.roleCode with
    | some role => .ok role
    | none => .error (.badRequest ("invalid role code: " ++ toString payload.roleCode)))
  command fun _ => connect dbConnectionFailed
  let result ← command fun context => mapErr registrationFailed
    (onTree (registerIdentity server.hash context.now payload.commitmentHex role
      payload.nodeId))
  emit server payload.commitmentHex
    (.identityRegistered payload.commitmentHex role.asU8)
  pure result

/-- `POST /api/zk/verify-membership`. -/
def verifyMembership (payload : VerifyMembershipRequest) : EventTask ApiError String := do
  command fun _ => connect dbConnectionFailed
  command fun _ => sending (onTables
    (checkMembershipProof server.environment server.curve server.membershipVkey payload))
  emit server payload.commitment (.identityVerified payload.commitment payload.topic)
  let nullifierHex ← .ended
    ((deriveNullifierHex server.environment payload.commitment payload.topic).mapError
      fun error => .badRequest ("failed to derive nullifier: " ++ error.text))
  let pseudonymId ← .ended
    ((derivePseudonymId server.environment payload.topic nullifierHex).mapError
      fun error => .internalServerError ("failed to derive pseudonym: " ++ error.text))
  let roleCode ← command fun _ => sending (onTables (lookupRole payload.commitment))
  let serverId ← command fun _ => sending (onTables lookupServerId)
  let metadataJson ← command fun _ =>
    sending (onTables (agentMetadata serverId pseudonymId roleCode))
  Task.perform (.recordPseudonym serverId payload nullifierHex pseudonymId roleCode
    metadataJson)
  announcePresence [.nodeUpdated pseudonymId true]
  pure pseudonymId

/-- `POST /api/vrp/agent-handshake`. -/
def agentHandshakeHandler (request : AgentHandshakeRequest) :
    EventTask ApiError VrpValidationReport := do
  command fun _ => connect dbConnectionFailed
  let policy ← readPolicy
  let localAnchor ← command fun context => orElse
    (VrpAnchorSnapshot.new server.environment context.clock policy.principles
      policy.prohibitedActions)
    fun error => .internalServerError ("failed to create anchor snapshot: " ++ error.text)
  let report := agentHandshakeReport server.environment localAnchor policy request.handshake
  let event ← Task.perform (.storeAgentHandshake request report)
  match event with
  | some payload => emit server request.pseudonymId payload
  | none => pure ()
  pure report

/-- `POST /api/federation/handshake`. -/
def federationHandshakeHandler (payload : FederationHandshakeRequest) :
    EventTask FederationError VrpValidationReport := do
  command fun _ => connect .dbError
  let remote ← command fun _ => sending (onTables (resolveInstance payload.baseUrl))
  let policy ← readPolicy
  let report ← command fun context => mapErr .handshake (sending (onTables
    (processIncomingHandshake server.environment context.clock context.now server.serverId
      policy remote.id payload.handshake)))
  emit server payload.baseUrl
    (.federationEstablished payload.baseUrl report.alignmentStatus.toString)
  pure report

/-- `PUT /api/admin/policy`: the policy is stored, published and everything evaluated under
it. -/
def updatePolicyHandler (request : PolicyRequest) : EventTask ApiError PolicyUpdated := do
  Task.perform (.storePolicy request)
  command fun _ => remember fun live => { live with policy := request.newPolicy }
  let policy ← readPolicy
  let pseudonyms ← Task.perform (.recalculateAgents policy)
  command fun _ => remember fun live =>
    { live with disconnected := live.disconnected ++ pseudonyms }
  let policy ← readPolicy
  let affectedPeers ← Task.perform (.recalculateAgreements policy)
  command fun _ => remember fun live =>
    { live with notified := live.notified ++ affectedPeers }
  pure ⟨"ok", request.versionId, request.newPolicy⟩

/-- The base URL of the instance of an active agreement of the server. -/
def agreementUrl (serverId agreementId : Nat) (database : Database) : Except DbError String :=
  match database.federationAgreements.rows.find? fun row =>
      row.id = agreementId && row.localServerId = serverId && row.active with
  | none => .error .noRows
  | some row =>
      match database.instances.rows.find? (·.id = row.remoteInstanceId) with
      | none => .error .noRows
      | some found => .ok found.baseUrl

/-- `DELETE /api/admin/federation/:id`. -/
def revokeFederationHandler (identity : PlatformIdentity) (agreementId : Nat) :
    EventTask ApiError (Option String) := do
  demand (identity.canModerate = true)
    (.forbidden "insufficient permissions to revoke federation agreement")
  command fun _ => connect dbConnectionFailed
  let found ← Task.tolerate (.program fun _ =>
    sending (onTables (query id (agreementUrl server.serverId agreementId))))
  let revoked ← command fun context => mapErr
    (fun error : DbError =>
      .internalServerError ("failed to revoke agreement: " ++ error.text))
    (sending (onTables (revokeAgreement context.now agreementId server.serverId)))
  demand (revoked = true) (.notFound "federation agreement not found or already revoked")
  match found.toOption with
  | some remoteUrl =>
      emit server identity.pseudonymId
        (.federationSevered remoteUrl ("revoked by moderator " ++ identity.pseudonymId))
  | none => pure ()
  pure found.toOption

/-- `PATCH /api/admin/server`. -/
def renameServerHandler (identity : PlatformIdentity) (label : String) :
    EventTask ApiError String := do
  demand (identity.canModerate = true) (.forbidden "insufficient permissions to rename server")
  let label := trim server.isWhitespace label
  demand (label ≠ "" ∧ (utf8 label).length ≤ 128) (.badRequest "label must be 1–128 characters")
  command fun _ => connect dbConnectionFailed
  command fun _ => execute
    (fun error => .internalServerError ("failed to update label: " ++ error.text))
    fun database => .ok
      { database with
        label := fun id => if id = server.serverId then label else database.label id }
  emit server identity.pseudonymId
    (.moderationAction identity.pseudonymId "server_rename" none
      ("Server renamed to \"" ++ label ++ "\""))
  pure label

/-- `PATCH /api/admin/members/{pseudonymId}/capabilities`. -/
def updateMemberCapabilitiesHandler (identity : PlatformIdentity) (target : String)
    (caps : Capabilities) : EventTask ApiError Unit := do
  demand (identity.canModerate = true)
    (.forbidden "insufficient permissions to update member capabilities")
  command fun _ => connect dbConnectionFailed
  command fun _ => mapErr
    (fun error : IdentityError =>
      .internalServerError ("failed to update capabilities: " ++ error.text))
    (sending (onTables (updateCapabilities server.serverId target caps)))
  emit server identity.pseudonymId
    (.moderationAction identity.pseudonymId "capabilities_update" (some target)
      ("Updated capabilities for " ++ target ++ ": moderate=" ++ boolText caps.canModerate ++
        ", voice=" ++ boolText caps.canVoice ++ ", invite=" ++ boolText caps.canInvite ++
        ", federate=" ++ boolText caps.canFederate ++ ", bridge=" ++
        boolText caps.canBridge))

/-- `POST /api/admin/server/image`, from the image on disk on. -/
def uploadServerImageHandler (identity : PlatformIdentity) (image : SavedImage) :
    EventTask ApiError String := do
  demand (identity.canModerate = true)
    (.forbidden "insufficient permissions to upload server image")
  command fun _ => connect dbConnectionFailed
  command fun _ => execute
    (fun error => .internalServerError ("failed to update server: " ++ error.text))
    fun database => .ok
      { database with
        imageUrl := fun id =>
          if id = server.serverId then some image.url else database.imageUrl id }
  command fun _ => execute
    (fun error => .internalServerError ("failed to record upload: " ++ error.text))
    (insertUpload server.serverId identity.pseudonymId image)
  emit server identity.pseudonymId
    (.moderationAction identity.pseudonymId "server_image_upload" none "Server image updated")
  pure image.url

/-- The loop over the pruned nodes. -/
def emitPruned {Error : Type} : List String → EventTask Error Unit
  | [] => pure ()
  | pseudonymId :: rest => do
      emit server pseudonymId (.nodePruned pseudonymId)
      emitPruned rest

/-- One round of `start_pruning_task`. -/
def pruneNodes (thresholdSeconds : Nat) : EventTask String (List String) := do
  command fun _ => connect DbError.text
  let pruned ← command fun context => mapErr GraphError.text (sending (onTables
    (pruneInactiveNodes context.secondsAgo server.serverId thresholdSeconds)))
  emitPruned server pruned
  announcePresence (pruned.map .nodePruned)
  pure pruned

end Handlers

/-- What a server with these handlers does. The other handlers emit nothing and leave the event
log alone. -/
inductive EventRequest where
  | register (payload : RegisterRequest)
  | verifyMembership (payload : VerifyMembershipRequest)
  | agentHandshake (request : AgentHandshakeRequest)
  | federationHandshake (payload : FederationHandshakeRequest)
  | updatePolicy (request : PolicyRequest)
  | revokeFederation (identity : PlatformIdentity) (agreementId : Nat)
  | renameServer (identity : PlatformIdentity) (label : String)
  | updateMemberCapabilities (identity : PlatformIdentity) (target : String)
      (caps : Capabilities)
  | uploadServerImage (identity : PlatformIdentity) (image : SavedImage)
  | prune (thresholdSeconds : Nat)
  | elsewhere (change : ServerDatabase → ServerDatabase)
      (unlogged : ∀ database, (change database).publicEventLog = database.publicEventLog)

variable {Fq Key : Type}

/-- The handler of a request. -/
def EventRequest.handler (server : EventServer Fq Key) :
    EventRequest → EventTask Empty Unit
  | .register payload => (registerHandler server payload).unanswered
  | .verifyMembership payload => (Server.verifyMembership server payload).unanswered
  | .agentHandshake request => (agentHandshakeHandler server request).unanswered
  | .federationHandshake payload => (federationHandshakeHandler server payload).unanswered
  | .updatePolicy request => (updatePolicyHandler request).unanswered
  | .revokeFederation identity agreementId =>
      (revokeFederationHandler server identity agreementId).unanswered
  | .renameServer identity label => (renameServerHandler server identity label).unanswered
  | .updateMemberCapabilities identity target caps =>
      (updateMemberCapabilitiesHandler server identity target caps).unanswered
  | .uploadServerImage identity image =>
      (uploadServerImageHandler server identity image).unanswered
  | .prune thresholdSeconds => (pruneNodes server thresholdSeconds).unanswered
  | .elsewhere change _ =>
      (command fun _ => execute DbError.text fun database =>
        .ok (change database) : EventTask String Unit).unanswered

end Annex.Server
