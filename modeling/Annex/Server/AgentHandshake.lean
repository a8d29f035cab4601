import Annex.Graph.Node
import Annex.Server.PolicyUpdate
import Annex.Vrp.Reputation

namespace Annex.Server

open Db Graph Observe Rtx Sql Vrp

/-! `POST /api/vrp/agent-handshake`: an agent brings its anchor and its contract, and is
registered unless they conflict with the policy. -/

/-- `uploads`. -/
structure Upload where
  id : Nat
  serverId : Nat
  uploadId : String
  uploaderPseudonym : String
  originalFilename : String
  contentType : String
  sizeBytes : Nat
  purpose : String
  category : String
deriving DecidableEq, Repr

instance : Keyed Upload := ⟨Upload.id⟩

/-- The database with the handshake log, the uploads, and the `label` and the `image_url` of
the servers by their ids. -/
structure ServerDatabase extends PolicyDatabase where
  vrpHandshakeLog : Table VrpHandshakeOutcome := Table.empty
  uploads : Table Upload := Table.empty
  label : Nat → String := fun _ => ""
  imageUrl : Nat → Option String := fun _ => none

/-- A program over the whole database and what the process has sent so far. -/
abbrev ServerSql (Error : Type) := Sql ServerDatabase (List Outbound) Error

/-- Run a program of the modules that know the common tables alone. -/
def onTables {Error α : Type} (program : Sql Database (List Outbound) Error α) :
    ServerSql Error α :=
  onPart (fun database => database.toDatabase)
    (fun part database => { database with toDatabase := part }) program

/-- Run a program of the modules that know the policies. -/
def onPolicies {Error α : Type} (program : Sql PolicyDatabase (List Outbound) Error α) :
    ServerSql Error α :=
  onPart ServerDatabase.toPolicyDatabase
    (fun part database => { database with toPolicyDatabase := part }) program

structure AgentHandshakeRequest where
  pseudonymId : String
  handshake : VrpFederationHandshake
deriving DecidableEq, Repr

/-- What this server offers and requires when an agent shakes hands. -/
def agentContract (policy : ServerPolicy) : VrpCapabilitySharingContract where
  requiredCapabilities := policy.agentRequiredCapabilities
  offeredCapabilities :=
    ((if policy.voiceEnabled then ["VOICE"] else []) ++
      if policy.federationEnabled then ["FEDERATION"] else []) ++ ["TEXT"] ++ ["VRP"]
  redactedTopics := []

def agentHandshakeAlignmentConfig (policy : ServerPolicy) : VrpAlignmentConfig where
  semanticAlignmentRequired := true
  minAlignmentScore := policy.agentMinAlignmentScore

def agentHandshakeTransferConfig : VrpTransferAcceptanceConfig where
  allowReflectionSummaries := true
  allowFullKnowledge := false

/-- The report an agent's handshake is answered with. -/
def agentHandshakeReport (environment : Environment) (localAnchor : VrpAnchorSnapshot)
    (policy : ServerPolicy) (handshake : VrpFederationHandshake) : VrpValidationReport :=
  validateFederationHandshake environment localAnchor (agentContract policy) handshake
    (agentHandshakeAlignmentConfig policy) agentHandshakeTransferConfig

inductive ReputationError where
  | database (error : DbError)
deriving DecidableEq, Repr

def ReputationError.text : ReputationError → String
  | .database error => "Database error: " ++ error.text

/-- `INSERT INTO vrp_handshake_log`. -/
def recordVrpOutcome {Memory : Type} (now : String) (serverId : Nat)
    (peerPseudonym peerType : String) (report : VrpValidationReport) :
    Sql ServerDatabase Memory ReputationError Unit :=
  execute .database fun database =>
    if database.servers.rows.any (·.id = serverId) then
      .ok
        { database with
          vrpHandshakeLog := database.vrpHandshakeLog.insert fun id =>
            { id
              serverId
              peerPseudonym
              peerType
              alignmentStatus := report.alignmentStatus.toString
              reportJson := .encoded report
              createdAt := now } }
    else
      .error serverMissing

def checkReputationScore {Memory : Type} (arithmetic : Scalar F32) (ties : TieOrder)
    (serverId : Nat) (peerPseudonym : String) :
    Sql ServerDatabase Memory ReputationError F32 :=
  query .database fun database =>
    .ok (reputationScore (.single arithmetic)
      (recentOutcomes ties serverId peerPseudonym database.vrpHandshakeLog))

/-- `WHERE server_id = ? AND pseudonym_id = ?`. -/
def isAgent (serverId : Nat) (pseudonymId : String) (row : AgentRegistration) : Bool :=
  row.serverId = serverId && row.pseudonymId = pseudonymId

/-- The columns a handshake sets on a registration that exists. -/
def registered (request : AgentHandshakeRequest) (report : VrpValidationReport)
    (reputationScore : String) (row : AgentRegistration) : AgentRegistration :=
  { row with
    alignmentStatus := report.alignmentStatus.toString
    transferScope := report.transferScope.toString
    capabilityContractJson := .encoded request.handshake.capabilityContract
    reputationScore
    active := true }

/-- The registrations after `INSERT INTO agent_registrations ... ON CONFLICT`. -/
def upsertRegistration (serverId : Nat) (request : AgentHandshakeRequest)
    (report : VrpValidationReport) (reputationScore : String)
    (registrations : Table AgentRegistration) : Table AgentRegistration :=
  registrations.upsert (isAgent serverId request.pseudonymId)
    (registered request report reputationScore) fun id =>
      { id
        serverId
        pseudonymId := request.pseudonymId
        alignmentStatus := report.alignmentStatus.toString
        transferScope := report.transferScope.toString
        capabilityContractJson := .encoded request.handshake.capabilityContract
        reputationScore
        active := true }

/-- `INSERT INTO agent_registrations ... ON CONFLICT`, with the anchor it stores. -/
def upsertAgent (serverId : Nat) (request : AgentHandshakeRequest)
    (report : VrpValidationReport) (reputationScore : String) (database : ServerDatabase) :
    Except DbError ServerDatabase :=
  if database.servers.rows.any (·.id = serverId) then
    let agentRegistrations := upsertRegistration serverId request report reputationScore
      database.agentRegistrations
    .ok
      { database with
        agentRegistrations
        anchorSnapshotJson := fun id =>
          if agentRegistrations.rows.any fun row =>
              row.id = id && isAgent serverId request.pseudonymId row then
            some (.encoded request.handshake.anchorSnapshot)
          else
            database.anchorSnapshotJson id }
  else
    .error serverMissing

/-- The columns a conflict sets. The status is a text of its own here. -/
def conflicted (row : AgentRegistration) : AgentRegistration :=
  { row with
    alignmentStatus := "Conflict"
    transferScope := "NO_TRANSFER"
    active := false }

theorem key_conflicted (row : AgentRegistration) : key (conflicted row) = key row := rfl

/-- Register the agent of an accepted handshake, and reactivate its node if there is one. -/
def registerAgent (realText : F32 → String) (now : String) (serverId : Nat)
    (request : AgentHandshakeRequest) (report : VrpValidationReport) (reputationScore : F32) :
    ServerSql ApiError Unit := do
  let activity ← attempt (onTables (updateNodeActivity now serverId request.pseudonymId))
  match activity with
  | .ok true => do
      send (.presence (.nodeUpdated request.pseudonymId true))
      onTables (emitAndBroadcast now serverId request.pseudonymId
        (.nodeReactivated request.pseudonymId))
  | .ok false => pure ()
  | .error _ => pure ()
  execute
    (fun error => .internalServerError ("failed to upsert registration: " ++ error.text))
    (upsertAgent serverId request report (realText reputationScore))

/-- Deactivate an agent that is registered already, answering how many rows it changed. -/
def deactivateConflictAgent (serverId : Nat) (pseudonymId : String) :
    ServerSql ApiError Nat :=
  statement
    (fun error => .internalServerError ("failed to deactivate conflict agent: " ++ error.text))
    fun database => .ok
      (database.agentRegistrations.rows.countP (isAgent serverId pseudonymId),
        { database with
          agentRegistrations := database.agentRegistrations.updateWhere
            (isAgent serverId pseudonymId) conflicted key_conflicted })

/-- Steps 8 to 10 inside their transaction, answering with the event to log after it. -/
def storeAgentOutcome (arithmetic : Scalar F32) (realText : F32 → String) (ties : TieOrder)
    (now : String) (serverId : Nat) (request : AgentHandshakeRequest)
    (report : VrpValidationReport) : ServerSql ApiError (Option EventPayload) := do
  mapErr
    (fun error : ReputationError =>
      .internalServerError ("failed to log vrp outcome: " ++ error.text))
    (recordVrpOutcome now serverId request.pseudonymId "AI_AGENT" report)
  let reputationScore ← mapErr
    (fun error : ReputationError =>
      .internalServerError ("failed to check reputation: " ++ error.text))
    (checkReputationScore arithmetic ties serverId request.pseudonymId)
  match report.alignmentStatus with
  | .aligned | .partial_ => do
      registerAgent realText now serverId request report reputationScore
      pure (some (.agentConnected request.pseudonymId report.alignmentStatus.toString))
  | .conflict => do
      let updated ← deactivateConflictAgent serverId request.pseudonymId
      pure (if 0 < updated then
        some (.agentDisconnected request.pseudonymId
          "VRP handshake resulted in Conflict alignment")
      else none)

/-- The transaction of `agent_handshake_handler`. -/
def storeAgentHandshake (arithmetic : Scalar F32) (realText : F32 → String) (ties : TieOrder)
    (now : String) (serverId : Nat) (request : AgentHandshakeRequest)
    (report : VrpValidationReport) : ServerSql ApiError (Option EventPayload) :=
  transaction beginFailed commitFailed
    (storeAgentOutcome arithmetic realText ties now serverId request report)

end Annex.Server
