import Annex.Server.FederationCorrectness

namespace Annex.Server

open Db Federation Identity Rtx Sql Vrp

/-! Which requests of remote instances may change the database. -/

/-- A request of a remote instance to an endpoint that changes state. -/
inductive RemoteRequest where
  | message (envelope : FederatedMessageEnvelope)
  | attest (payload : AttestationRequest)
  | join (channelId : String) (payload : JoinFederatedChannelRequest)
  | rtx (envelope : FederatedRtxEnvelope)

/-- The base URL of the instance the request comes from. -/
def RemoteRequest.origin : RemoteRequest → String
  | message envelope => envelope.originatingServer
  | attest payload => payload.originatingServer
  | join _ payload => payload.originatingServer
  | rtx envelope => envelope.relayingServer

variable {Fq Key : Type}

/-- The endpoint of a request, its answer left out. -/
def handleRemote (server : FederationServer Fq Key) :
    RemoteRequest → FederationHandler Unit
  | .message envelope => receiveFederatedMessageHandler server envelope
  | .attest payload => do
      let _ ← attestMembershipHandler server payload
      pure ()
  | .join channelId payload => joinFederatedChannelHandler server channelId payload
  | .rtx envelope => do
      let _ ← receiveFederatedRtxHandler server envelope
      pure ()

/-- The instance is active and has an active agreement of this server that is not in
conflict. -/
def FederationGate (serverId : Nat) (origin : String) (database : Database) : Prop :=
  ∃ remote, findInstance origin database = some remote ∧ remote.status = "ACTIVE" ∧
    ∃ row ∈ database.federationAgreements.rows,
      row.localServerId = serverId ∧ row.remoteInstanceId = remote.id ∧
        row.active = true ∧ row.alignmentStatus ≠ VrpAlignmentStatus.conflict.toString

/-- The request passes the checks its own handler makes, and brings something that can
be written and is not there yet. -/
def RemoteRequest.Admissible (server : FederationServer Fq Key) (database : Database) :
    RemoteRequest → Prop
  | message envelope => MessageAdmissible server envelope database
  | attest payload => AttestationAdmissible server payload database
  | join channelId payload => JoinAdmissible server channelId payload database
  | rtx envelope => RtxAdmissible server envelope database

section Gate

variable {server : FederationServer Fq Key} {database : Database} {sent : List Outbound}

/-- Leaving the answer out leaves the database as it was. -/
theorem mayChange_bind_pure {α : Type} {program : FederationHandler α} :
    MayChange (program >>= fun _ => pure ()) database sent ↔
      MayChange program database sent := by
  have same : ∀ session, ((program >>= fun _ => pure () : FederationHandler Unit)
      session).2.database = (program session).2.database := by
    intro session
    rw [bind_apply]
    rcases program session with ⟨_ | _, after⟩ <;> rfl
  simp only [MayChange, same]

theorem handleRemote_mayChange (request : RemoteRequest) :
    MayChange (handleRemote server request) database sent ↔
      request.Admissible server database := by
  cases request with
  | message envelope => exact receiveFederatedMessageHandler_mayChange envelope
  | attest payload =>
      exact mayChange_bind_pure.trans (attestMembershipHandler_mayChange payload)
  | join channelId payload => exact joinFederatedChannelHandler_mayChange channelId payload
  | rtx envelope =>
      exact mayChange_bind_pure.trans (receiveFederatedRtxHandler_mayChange envelope)

theorem anyActiveAgreement_of_agreementScope {remoteInstanceId : Nat} {scope : String}
    (agreed : agreementScope remoteInstanceId database = some scope) :
    anyActiveAgreement remoteInstanceId database = true := by
  rcases Option.map_eq_some_iff.mp agreed with ⟨row, found, -⟩
  have selected := List.find?_some found
  exact List.any_eq_true.mpr ⟨row, List.mem_of_find?_eq_some found, selected⟩

/-- Every request but an attestation changes the database only for an active instance
with some active agreement. -/
theorem active_of_mayChange {request : RemoteRequest}
    (otherRequest : ∀ payload, request ≠ .attest payload)
    (changes : MayChange (handleRemote server request) database sent) :
    ∃ remote, findInstance request.origin database = some remote ∧
      remote.status = "ACTIVE" ∧ anyActiveAgreement remote.id database = true := by
  have admissible := (handleRemote_mayChange request).mp changes
  cases request with
  | message envelope =>
      rcases admissible with ⟨remote, identity, row, admitted, -⟩
      exact ⟨remote, admitted.known, admitted.active, admitted.agreed⟩
  | attest payload => exact absurd rfl (otherRequest payload)
  | join channelId payload =>
      rcases admissible with ⟨⟨remote, admitted⟩, -⟩
      exact ⟨remote, admitted.known, admitted.active, admitted.agreed⟩
  | rtx envelope =>
      rcases admissible with ⟨⟨remote, scope, admitted⟩, -⟩
      exact ⟨remote, admitted.known, admitted.active,
        anyActiveAgreement_of_agreementScope admitted.agreed⟩

/-- A request changes the database only behind the gate exactly when it is behind the
gate, fails a check of its handler, or brings nothing to write. -/
theorem changes_only_behind_gate_iff (server : FederationServer Fq Key)
    (request : RemoteRequest) (database : Database) (sent : List Outbound) :
    (∀ faults,
        (handleRemote server request ⟨database, sent, faults⟩).2.database ≠ database →
          FederationGate server.serverId request.origin database) ↔
      (request.Admissible server database →
        FederationGate server.serverId request.origin database) := by
  rw [← @handleRemote_mayChange _ _ server database sent request]
  exact ⟨fun holds ⟨faults, changes⟩ => holds faults changes,
    fun holds faults changes => holds ⟨faults, changes⟩⟩

end Gate

section Sample

/-! An attestation of an instance that was never federated and is not active. -/

def attestingRoot : String :=
  "0000000000000000000000000000000000000000000000000000000000000001"

/-- A server whose peers sign and prove correctly. -/
def attestedServer : FederationServer Unit Unit where
  environment := Environment.sample fun _ => List.replicate 32 0
  ed25519 := ⟨fun _ => none, fun _ _ _ => .ok (), fun _ => []⟩
  get := fun _ => .ok ⟨200, "200 OK",
    some (.object [("rootHex", .string attestingRoot), ("leafCount", .natural 1)]), ""⟩
  curve := ⟨fun _ => some (), fun _ => some 0, fun _ => true, fun _ => true,
    fun _ _ _ => .ok true⟩
  membershipVkey := ()
  serverId := 1
  publicUrl := "https://here.example"
  clock := ⟨"2026-01-01 00:00:00", fun _ => none, 0⟩

def suspendedInstance : Instance :=
  ⟨1, "https://peer.example", attestingRoot, "SUSPENDED"⟩

def suspendedDatabase : Database :=
  { migrated with
    servers := singleServer
    instances := Table.empty.insert fun id => { suspendedInstance with id } }

def attestingPayload : AttestationRequest where
  originatingServer := "https://peer.example"
  topic := "annex:server:v1"
  commitment := attestingRoot
  proof := .encoded ⟨["1", "2"], [["1", "2"], ["3", "4"]], ["1", "2"]⟩
  participantType := "HUMAN"
  signature := attestingRoot ++ attestingRoot

/-- The attestation is stored all the same. -/
theorem attestation_of_suspended_instance :
    ¬ ∀ (server : FederationServer Unit Unit) (request : RemoteRequest)
      (database : Database) (faults : List (Option String)),
        (handleRemote server request ⟨database, [], faults⟩).2.database ≠ database →
          FederationGate server.serverId request.origin database := by
  intro gated
  have stored : (handleRemote attestedServer (.attest attestingPayload)
      ⟨suspendedDatabase, [], []⟩).2.database ≠ suspendedDatabase := by
    decide +kernel
  rcases gated attestedServer (.attest attestingPayload) suspendedDatabase [] stored with
    ⟨remote, known, active, -⟩
  have suspended : findInstance (RemoteRequest.attest attestingPayload).origin
      suspendedDatabase = some suspendedInstance := by
    decide +kernel
  cases Option.some.inj (suspended.symm.trans known)
  exact absurd active (by decide)

end Sample

end Annex.Server
