import Annex.Federation.Handshake
import Annex.Server.State

namespace Annex.Server

open Db Federation Sql Vrp

/-! Re-evaluating the active federation agreements after a policy change. -/

/-- What this server offers and requires when it re-evaluates its agreements. -/
def reevaluationContract (policy : ServerPolicy) : VrpCapabilitySharingContract where
  requiredCapabilities := policy.agentRequiredCapabilities
  offeredCapabilities :=
    ((if policy.voiceEnabled then ["VOICE"] else []) ++
      if policy.federationEnabled then ["FEDERATION"] else []) ++ ["TEXT", "VRP"]
  redactedTopics := []

/-- An agreement whose status or scope changes. -/
structure FederationUpdate where
  id : Nat
  baseUrl : String
  previousStatus : String
  report : VrpValidationReport
  remoteInstanceId : Nat
deriving DecidableEq, Repr

/-- The active agreements of every server, joined with their instances. -/
def activeAgreements (database : Database) : List (FederationAgreement × Instance) :=
  (database.federationAgreements.rows.filter (·.active)).filterMap fun row =>
    (database.instances.rows.find? (·.id = row.remoteInstanceId)).map fun found =>
      (row, found)

section Reevaluate

variable (environment : Environment) (localAnchor : VrpAnchorSnapshot)
  (policy : ServerPolicy)

def reevaluatedReport (handshake : VrpFederationHandshake) : VrpValidationReport :=
  validateFederationHandshake environment localAnchor (reevaluationContract policy)
    handshake (federationAlignmentConfig policy) (federationTransferConfig policy)

/-- The update of one agreement, if there is one. Without a stored handshake it is
skipped; a handshake that does not parse stops the whole evaluation. -/
def reevaluate (row : FederationAgreement) (found : Instance) :
    Except ApiError (Option FederationUpdate) :=
  match row.remoteHandshakeJson with
  | none => .ok none
  | some handshakeJson =>
      match handshakeJson.decode with
      | none => .error (.internalServerError "failed to parse handshake")
      | some handshake =>
          let report := reevaluatedReport environment localAnchor policy handshake
          if report.alignmentStatus.toString ≠ row.alignmentStatus ∨
              report.transferScope.toString ≠ row.transferScope then
            .ok (some ⟨row.id, found.baseUrl, row.alignmentStatus, report,
              row.remoteInstanceId⟩)
          else
            .ok none

/-- The loop that collects the updates. -/
def federationUpdates :
    List (FederationAgreement × Instance) → Except ApiError (List FederationUpdate)
  | [] => .ok []
  | (row, found) :: rest =>
      match reevaluate environment localAnchor policy row found with
      | .error error => .error error
      | .ok update =>
          match federationUpdates rest with
          | .error error => .error error
          | .ok updates => .ok (update.toList ++ updates)

end Reevaluate

def presenceAlignment : VrpAlignmentStatus → AlignmentStatus
  | .aligned => .aligned
  | .partial_ => .partial_
  | .conflict => .conflict

/-- `UPDATE federation_agreements` of one agreement; a conflict deactivates it. -/
def updateAgreement (now : String) (update : FederationUpdate)
    (agreements : Table FederationAgreement) : Table FederationAgreement :=
  agreements.updateWhere (·.id = update.id) fun row =>
    { row with
      alignmentStatus := update.report.alignmentStatus.toString
      transferScope := update.report.transferScope.toString
      agreementJson := .encoded update.report
      active := decide (update.report.alignmentStatus ≠ .conflict)
      updatedAt := now }

/-- Store one update and announce it to the presence stream and the event log. -/
def applyUpdate (now : String) (serverId : Nat) (update : FederationUpdate) :
    Handler Unit := do
  execute (fun error => .internalServerError ("update failed: " ++ error.text))
    fun database => .ok
      { database with
        federationAgreements := updateAgreement now update database.federationAgreements }
  if update.report.alignmentStatus = .conflict then
    send (.presence (.federationSevered update.baseUrl))
    emitAndBroadcast now serverId update.baseUrl
      (.federationSevered update.baseUrl "policy_conflict")
  else
    send (.presence (.federationRealigned update.baseUrl
      (presenceAlignment update.report.alignmentStatus)))
    emitAndBroadcast now serverId update.baseUrl
      (.federationRealigned update.baseUrl update.report.alignmentStatus.toString
        update.previousStatus)

/-- The loop over the updates, collecting the affected peers. -/
def applyUpdates (now : String) (serverId : Nat) :
    List FederationUpdate → Handler (List (String × Nat))
  | [] => pure []
  | update :: rest => do
      applyUpdate now serverId update
      let affectedPeers ← applyUpdates now serverId rest
      pure ((update.baseUrl, update.remoteInstanceId) :: affectedPeers)

/-- The handler, answering with the peers a new handshake is sent to afterwards. -/
def recalculateFederationAgreements (environment : Environment) (clock : Option Nat)
    (now : String) (serverId : Nat) (policy : ServerPolicy) :
    Handler (List (String × Nat)) := do
  let localAnchor ← orElse
    (VrpAnchorSnapshot.new environment clock policy.principles policy.prohibitedActions)
    fun error => .internalServerError ("failed to create anchor snapshot: " ++ error.text)
  connect dbConnectionFailed
  transaction beginFailed commitFailed do
    let rows ← query
      (fun error => .internalServerError ("row error: " ++ error.text))
      fun database => .ok (activeAgreements database)
    let updates ← ofExcept (federationUpdates environment localAnchor policy rows)
    applyUpdates now serverId updates

end Annex.Server
