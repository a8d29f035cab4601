import Annex.Foundation.Interleaving
import Annex.Foundation.SqlJournal
import Annex.Rtx.Store
import Annex.Server.Policy

namespace Annex.Server

open Db Observe Rtx Sql Vrp

/-! Changing the policy of a server: the new policy is stored and written to memory, and
everything that was accepted under the old one is evaluated again. Each transaction, each
acquisition of the lock of the policy and each disconnection is a step. -/

/-- `server_policy_versions`. -/
structure ServerPolicyVersion where
  id : Nat
  serverId : Nat
  versionId : String
  policyJson : JsonText ServerPolicy
deriving DecidableEq, Repr

instance : Keyed ServerPolicyVersion := ⟨ServerPolicyVersion.id⟩

/-- The database with the history of the policies, and with the `anchor_snapshot_json` of the
agent registrations by their ids. -/
structure PolicyDatabase extends Database where
  serverPolicyVersions : Table ServerPolicyVersion := Table.empty
  anchorSnapshotJson : Nat → Option (JsonText VrpAnchorSnapshot) := fun _ => none

/-- A handler over the database with the policies. -/
abbrev PolicyHandler := Sql PolicyDatabase (List Outbound) ApiError

/-- Run a handler of the other modules. -/
def onDatabase {α : Type} (program : Handler α) : PolicyHandler α :=
  onPart PolicyDatabase.toDatabase
    (fun part database => { database with toDatabase := part }) program

/-! Storing a policy. -/

/-- A moderator's request, with the version id that is drawn for it. -/
structure PolicyRequest where
  identity : PlatformIdentity
  newPolicy : ServerPolicy
  versionId : String
deriving DecidableEq, Repr

/-- `UPDATE servers SET policy_json`. -/
def updateServerPolicy (serverId : Nat) (policy : ServerPolicy) (database : PolicyDatabase) :
    PolicyDatabase :=
  { database with
    servers := database.servers.updateWhere (·.id = serverId) fun row =>
      { row with policyJson := .encoded policy } }

/-- `INSERT INTO server_policy_versions`. -/
def insertPolicyVersion (serverId : Nat) (versionId : String) (policy : ServerPolicy)
    (database : PolicyDatabase) : Except DbError PolicyDatabase :=
  if database.serverPolicyVersions.rows.any (·.versionId = versionId) then
    .error (.constraint .unique "UNIQUE constraint failed: server_policy_versions.version_id")
  else if database.servers.rows.any (·.id = serverId) = false then
    .error serverMissing
  else
    .ok
      { database with
        serverPolicyVersions := database.serverPolicyVersions.insert fun id =>
          { id, serverId, versionId, policyJson := .encoded policy } }

/-- The permission and the transaction of `update_policy_handler`. -/
def storePolicy (now : String) (serverId : Nat) (request : PolicyRequest) :
    PolicyHandler Unit := do
  check (request.identity.canModerate = true)
    (.forbidden "insufficient permissions to update policy")
  connect dbConnectionFailed
  transaction startFailed commitFailed do
    execute (fun error => .internalServerError ("failed to update servers table: " ++ error.text))
      fun database => .ok (updateServerPolicy serverId request.newPolicy database)
    execute
      (fun error => .internalServerError ("failed to insert policy version: " ++ error.text))
      (insertPolicyVersion serverId request.versionId request.newPolicy)
    onDatabase (emitAndBroadcast now serverId request.identity.pseudonymId
      (.moderationAction request.identity.pseudonymId "policy_update" none
        ("Server policy updated to version " ++ request.versionId)))

/-! Evaluating the agents. -/

/-- An agent whose status or scope changes. -/
structure AgentUpdate where
  pseudonymId : String
  previousStatus : String
  report : VrpValidationReport
  active : Bool
deriving DecidableEq, Repr

def agentAlignmentConfig (policy : ServerPolicy) : VrpAlignmentConfig where
  semanticAlignmentRequired := true
  minAlignmentScore := policy.agentMinAlignmentScore

def agentTransferConfig : VrpTransferAcceptanceConfig where
  allowReflectionSummaries := true
  allowFullKnowledge := false

/-- The active agents of the server, with their anchors. -/
def activeAgents (serverId : Nat) (database : PolicyDatabase) :
    List (AgentRegistration × Option (JsonText VrpAnchorSnapshot)) :=
  (database.agentRegistrations.rows.filter fun row =>
      row.active && row.serverId = serverId).map fun row =>
    (row, database.anchorSnapshotJson row.id)

section Reevaluate

variable (environment : Environment) (localAnchor : VrpAnchorSnapshot)
  (policy : ServerPolicy)

def agentReport (handshake : VrpFederationHandshake) : VrpValidationReport :=
  validateFederationHandshake environment localAnchor (reevaluationContract policy)
    handshake (agentAlignmentConfig policy) agentTransferConfig

/-- The update of one agent, if there is one. Without an anchor it is skipped; an anchor or a
contract that does not parse stops the whole evaluation. -/
def reevaluateAgent (row : AgentRegistration)
    (anchorJson : Option (JsonText VrpAnchorSnapshot)) : Except ApiError (Option AgentUpdate) :=
  match anchorJson with
  | none => .ok none
  | some anchorJson =>
      match anchorJson.decode with
      | none => .error (.internalServerError "failed to parse anchor")
      | some anchor =>
          match row.capabilityContractJson.decode with
          | none => .error (.internalServerError "failed to parse contract")
          | some contract =>
              let report := agentReport environment localAnchor policy ⟨anchor, contract⟩
              if report.alignmentStatus.toString ≠ row.alignmentStatus ∨
                  report.transferScope.toString ≠ row.transferScope then
                .ok (some ⟨row.pseudonymId, row.alignmentStatus, report,
                  decide (report.alignmentStatus ≠ .conflict)⟩)
              else
                .ok none

/-- The loop that collects the updates. -/
def agentUpdates : List (AgentRegistration × Option (JsonText VrpAnchorSnapshot)) →
    Except ApiError (List AgentUpdate)
  | [] => .ok []
  | (row, anchorJson) :: rest =>
      match reevaluateAgent environment localAnchor policy row anchorJson with
      | .error error => .error error
      | .ok update =>
          match agentUpdates rest with
          | .error error => .error error
          | .ok updates => .ok (update.toList ++ updates)

end Reevaluate

/-- The columns an update sets. -/
def AgentUpdate.change (update : AgentUpdate) (row : AgentRegistration) : AgentRegistration :=
  { row with
    alignmentStatus := update.report.alignmentStatus.toString
    transferScope := update.report.transferScope.toString
    active := update.active }

theorem AgentUpdate.key_change (update : AgentUpdate) (row : AgentRegistration) :
    key (update.change row) = key row := rfl

/-- `UPDATE agent_registrations` of one agent. -/
def updateAgent (serverId : Nat) (update : AgentUpdate)
    (registrations : Table AgentRegistration) : Table AgentRegistration :=
  registrations.updateWhere
    (fun row => row.serverId = serverId && row.pseudonymId = update.pseudonymId)
    update.change update.key_change

/-- Store one update and announce it to the presence stream and the event log. -/
def applyAgentUpdate (now : String) (serverId : Nat) (update : AgentUpdate) :
    PolicyHandler Unit := do
  execute (fun error => .internalServerError ("update failed: " ++ error.text))
    fun database => .ok
      { database with
        agentRegistrations := updateAgent serverId update database.agentRegistrations }
  send (.presence (.nodeUpdated update.pseudonymId update.active))
  onDatabase (emitAndBroadcast now serverId update.pseudonymId
    (if update.active then
      .agentRealigned update.pseudonymId update.report.alignmentStatus.toString
        update.previousStatus
    else .agentDisconnected update.pseudonymId "policy_conflict"))

/-- The loop over the updates. -/
def applyAgentUpdates (now : String) (serverId : Nat) : List AgentUpdate → PolicyHandler Unit
  | [] => pure ()
  | update :: rest => do
      applyAgentUpdate now serverId update
      applyAgentUpdates now serverId rest

/-- The agents a conflict disconnects. -/
def agentsToDisconnect (updates : List AgentUpdate) : List String :=
  (updates.filter fun update => !update.active).map (·.pseudonymId)

/-- `recalculate_agent_alignments` from the policy it has read up to its commit, answering
with the agents to disconnect afterwards. -/
def recalculateAgentAlignments (environment : Environment) (clock : Option Nat)
    (now : String) (serverId : Nat) (policy : ServerPolicy) : PolicyHandler (List String) := do
  let localAnchor ← orElse
    (VrpAnchorSnapshot.new environment clock policy.principles policy.prohibitedActions)
    fun error => .internalServerError ("failed to create anchor snapshot: " ++ error.text)
  connect dbConnectionFailed
  transaction beginFailed commitFailed do
    let rows ← query
      (fun error => .internalServerError ("row error: " ++ error.text))
      fun database => .ok (activeAgents serverId database)
    let updates ← ofExcept (agentUpdates environment localAnchor policy rows)
    applyAgentUpdates now serverId updates
    pure (agentsToDisconnect updates)

/-! The requests of a server. -/

/-- The answer to an update. -/
structure PolicyUpdated where
  status : String
  versionId : String
  policy : ServerPolicy
deriving DecidableEq, Repr

/-- The database, the policy in memory, and what has left the server: events, the agents and
peers that were disconnected and notified, and the answers to the requests. -/
structure PolicyState where
  database : PolicyDatabase
  policy : ServerPolicy
  sent : List Outbound
  disconnected : List String
  notified : List (String × Nat)
  answers : List (Nat × Except ApiError PolicyUpdated)

/-- What is left of a request. The evaluations carry the policy they have read. -/
inductive PolicyCall where
  | store (request : PolicyRequest)
  | publish (request : PolicyRequest)
  | readForAgents (request : PolicyRequest)
  | evaluateAgents (request : PolicyRequest) (policy : ServerPolicy)
  | disconnect (request : PolicyRequest) (pseudonyms : List String)
  | readForAgreements (request : PolicyRequest)
  | evaluateAgreements (request : PolicyRequest) (policy : ServerPolicy)
deriving DecidableEq, Repr

/-- What a step takes from outside: the time, in the database and in seconds, and the
statements that fail. -/
structure PolicyInput where
  now : String
  clock : Option Nat
  faults : List (Option String)
deriving DecidableEq, Repr

/-- What the requests run with. -/
structure PolicyServer where
  environment : Environment
  serverId : Nat

namespace PolicyState

/-- A server that has just loaded its policy. -/
def start (database : PolicyDatabase) (policy : ServerPolicy) : PolicyState where
  database := database
  policy := policy
  sent := []
  disconnected := []
  notified := []
  answers := []

def session (state : PolicyState) (input : PolicyInput) :
    Session PolicyDatabase (List Outbound) :=
  ⟨state.database, state.sent, input.faults⟩

/-- The state after a handler. -/
def after (state : PolicyState) (session : Session PolicyDatabase (List Outbound)) :
    PolicyState :=
  { state with database := session.database, sent := session.memory }

def answer (state : PolicyState) (id : Nat) (result : Except ApiError PolicyUpdated) :
    PolicyState :=
  { state with answers := state.answers ++ [(id, result)] }

end PolicyState

namespace PolicyCall

/-- The next step of the request with the given number. -/
def act (server : PolicyServer) (id : Nat) (input : PolicyInput) (state : PolicyState) :
    PolicyCall → PolicyState × Option PolicyCall
  | .store request =>
      let ran := storePolicy input.now server.serverId request (state.session input)
      match ran.1 with
      | .ok () => (state.after ran.2, some (.publish request))
      | .error error => ((state.after ran.2).answer id (.error error), none)
  | .publish request =>
      ({ state with policy := request.newPolicy }, some (.readForAgents request))
  | .readForAgents request => (state, some (.evaluateAgents request state.policy))
  | .evaluateAgents request policy =>
      let ran := recalculateAgentAlignments server.environment input.clock input.now
        server.serverId policy (state.session input)
      match ran.1 with
      | .ok pseudonyms => (state.after ran.2, some (.disconnect request pseudonyms))
      | .error error => ((state.after ran.2).answer id (.error error), none)
  | .disconnect request [] => (state, some (.readForAgreements request))
  | .disconnect request (pseudonym :: rest) =>
      ({ state with disconnected := state.disconnected ++ [pseudonym] },
        some (.disconnect request rest))
  | .readForAgreements request => (state, some (.evaluateAgreements request state.policy))
  | .evaluateAgreements request policy =>
      let ran := onDatabase (recalculateFederationAgreements server.environment input.clock
        input.now server.serverId policy) (state.session input)
      match ran.1 with
      | .ok affectedPeers =>
          ({ state.after ran.2 with notified := state.notified ++ affectedPeers }.answer id
            (.ok ⟨"ok", request.versionId, request.newPolicy⟩), none)
      | .error error => ((state.after ran.2).answer id (.error error), none)

end PolicyCall

/-- The policy requests of a server. No step has to wait: the lock of the policy is never
held from one step to the next. -/
def policyProgram (server : PolicyServer) :
    Interleaving.Program PolicyState PolicyCall PolicyRequest PolicyInput where
  enter _ request := .store request
  act id call input state := some (call.act server id input state)

/-- The policy requests of a server in progress. -/
abbrev Policies := Interleaving PolicyState PolicyCall

abbrev PolicyLabel := Interleaving.Label PolicyRequest PolicyInput

end Annex.Server
