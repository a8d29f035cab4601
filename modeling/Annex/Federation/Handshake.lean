import Annex.Db.Schema
import Annex.Foundation.Sql
import Annex.Vrp.Alignment

namespace Annex.Federation

open Db Sql Vrp

/-! Writing federation agreements. -/

/-- `UPDATE federation_agreements SET active = 0 ...` for the selected rows. -/
def deactivate (selected : FederationAgreement → Bool) (now : String)
    (database : Database) : Database :=
  { database with
    federationAgreements := database.federationAgreements.updateWhere selected fun row =>
      { row with active := false, updatedAt := now } }

/-- The first statement of `create_agreement`: no agreement of the server with the
instance stays active. -/
def deactivateBetween (localServerId remoteInstanceId : Nat) (now : String)
    (database : Database) : Database :=
  deactivate (fun row => row.localServerId = localServerId &&
    row.remoteInstanceId = remoteInstanceId && row.active) now database

/-- The row of a new agreement, active by the column's default. -/
def newAgreement (localServerId remoteInstanceId : Nat) (report : VrpValidationReport)
    (handshake : Option VrpFederationHandshake) (now : String) (id : Nat) :
    FederationAgreement where
  id := id
  localServerId := localServerId
  remoteInstanceId := remoteInstanceId
  alignmentStatus := report.alignmentStatus.toString
  transferScope := report.transferScope.toString
  agreementJson := .encoded report
  remoteHandshakeJson := handshake.map .encoded
  active := true
  createdAt := now
  updatedAt := now

theorem key_newAgreement (localServerId remoteInstanceId : Nat) (report : VrpValidationReport)
    (handshake : Option VrpFederationHandshake) (now : String) (id : Nat) :
    key (newAgreement localServerId remoteInstanceId report handshake now id) = id :=
  rfl

/-- `INSERT INTO federation_agreements`, which requires the instance to exist. -/
def insertAgreement (localServerId remoteInstanceId : Nat) (report : VrpValidationReport)
    (handshake : Option VrpFederationHandshake) (now : String) (database : Database) :
    Except DbError (Nat × Database) :=
  if database.instances.rows.any fun row => row.id = remoteInstanceId then
    let federationAgreements := database.federationAgreements.insert
      (newAgreement localServerId remoteInstanceId report handshake now)
      (key_newAgreement localServerId remoteInstanceId report handshake now)
    .ok (federationAgreements.lastId, { database with federationAgreements })
  else
    .error (.constraint .foreignKey "FOREIGN KEY constraint failed")

/-- Replace the active agreement with an instance by a new one, inside a savepoint. -/
def createAgreement {Memory : Type} (now : String) (localServerId remoteInstanceId : Nat)
    (report : VrpValidationReport) (handshake : Option VrpFederationHandshake) :
    Sql Database Memory DbError Nat :=
  transaction id id do
    execute id fun database =>
      .ok (deactivateBetween localServerId remoteInstanceId now database)
    statement id (insertAgreement localServerId remoteInstanceId report handshake now)

/-- Whether a row was revoked. -/
def revokeAgreement {Memory : Type} (now : String) (agreementId localServerId : Nat) :
    Sql Database Memory DbError Bool :=
  statement id fun database =>
    let selected := fun row : FederationAgreement =>
      row.id = agreementId && row.localServerId = localServerId && row.active
    .ok (database.federationAgreements.rows.any selected, deactivate selected now database)

/-- The number of expired rows. `stale` says of a row's `updated_at` whether it lies
more than the given number of days back. -/
def expireStaleAgreements {Memory : Type} (now : String) (localServerId : Nat)
    (stale : String → Bool) : Sql Database Memory DbError Nat :=
  statement id fun database =>
    let selected := fun row : FederationAgreement =>
      row.localServerId = localServerId && row.active && stale row.updatedAt
    .ok ((database.federationAgreements.rows.filter selected).length,
      deactivate selected now database)

/-- Errors that can occur during a federation handshake. -/
inductive HandshakeError where
  | dbError (error : DbError)
  | unknownRemoteInstance
  | vrp (error : VrpError)
deriving DecidableEq, Repr

def HandshakeError.text : HandshakeError → String
  | .dbError error => "Database error: " ++ error.text
  | .unknownRemoteInstance => "Unknown remote instance"
  | .vrp error => "VRP error: " ++ error.text

/-- What this server offers and requires when a peer shakes hands. -/
def handshakeContract (policy : ServerPolicy) : VrpCapabilitySharingContract where
  requiredCapabilities := policy.agentRequiredCapabilities
  offeredCapabilities :=
    (if policy.voiceEnabled then ["voice"] else []) ++
      if policy.federationEnabled then ["federation"] else []
  redactedTopics := []

def federationAlignmentConfig (policy : ServerPolicy) : VrpAlignmentConfig where
  semanticAlignmentRequired := true
  minAlignmentScore := policy.agentMinAlignmentScore

/-- Reflection summaries pass where federation is enabled, full knowledge never. -/
def federationTransferConfig (policy : ServerPolicy) : VrpTransferAcceptanceConfig where
  allowReflectionSummaries := policy.federationEnabled
  allowFullKnowledge := false

/-- Validate a peer's handshake and store the agreement, whatever its status. -/
def processIncomingHandshake {Memory : Type} (environment : Environment)
    (clock : Option Nat) (now : String) (localServerId : Nat) (localPolicy : ServerPolicy)
    (remoteInstanceId : Nat) (handshake : VrpFederationHandshake) :
    Sql Database Memory HandshakeError VrpValidationReport := do
  let localAnchor ← orElse (VrpAnchorSnapshot.new environment clock localPolicy.principles
    localPolicy.prohibitedActions) .vrp
  let report := validateFederationHandshake environment localAnchor
    (handshakeContract localPolicy) handshake (federationAlignmentConfig localPolicy)
    (federationTransferConfig localPolicy)
  let _ ← mapErr .dbError
    (createAgreement now localServerId remoteInstanceId report (some handshake))
  pure report

section Sample

/-! A server without principles and prohibited actions, and a peer with the contract
and the anchor of its choice. -/

def emptyListHash : String :=
  "e3b0c44298fc1c149afbf4c8996fb92427ae41e4649b934ca495991b7852b855"

/-- The hash of the list with the one action `surveillance`. -/
def surveillanceHash : String :=
  "31876e93d06250d3dd22ce3554925a434dfcaf4c1761a601bb996d25b4233f52"

def sampleEnvironment : Environment :=
  Environment.sample fun bytes =>
    if bytes = [] then (Hex.decode emptyListHash).getD []
    else (Hex.decode surveillanceHash).getD []

def samplePolicy : ServerPolicy := ServerPolicy.default

def sampleDatabase : Database :=
  { migrated with
    instances := Table.empty.insert fun id =>
      ⟨id, "https://peer.example", "00", "ACTIVE"⟩ }

/-- A peer with this server's anchor that requires the given capabilities. -/
def alignedHandshake (requiredCapabilities : List String) : VrpFederationHandshake :=
  ⟨⟨emptyListHash, emptyListHash, 0, [], []⟩, ⟨requiredCapabilities, [], []⟩⟩

def conflictingHandshake : VrpFederationHandshake :=
  ⟨⟨emptyListHash, surveillanceHash, 0, [], ["surveillance"]⟩, ⟨[], [], []⟩⟩

end Sample

end Annex.Federation
