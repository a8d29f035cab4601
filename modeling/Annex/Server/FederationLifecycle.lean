import Annex.Foundation.Execution
import Annex.Server.Policy

namespace Annex.Server

open Db Federation Sql Vrp

/-! Federation agreements over whole runs of handshakes, policy changes,
re-evaluations, revocations and expiries. -/

/-- No agreement is active in conflict. -/
def NoActiveConflict (database : Database) : Prop :=
  ∀ row ∈ database.federationAgreements.rows,
    row.active = true → row.alignmentStatus ≠ VrpAlignmentStatus.conflict.toString

/-- The database and the policy in memory. -/
structure FederationState where
  database : Database
  policy : ServerPolicy

inductive FederationRequest where
  | handshake (remoteInstanceId : Nat) (handshake : VrpFederationHandshake)
      (clock : Option Nat)
  | changePolicy (policy : ServerPolicy)
  | recalculate (clock : Option Nat)
  | revoke (agreementId : Nat)
  | expire (stale : String → Bool)

/-- A request, the clock of the database while it runs, and which of its statements
fail. -/
structure FederationCall where
  request : FederationRequest
  now : String
  faults : List (Option String)

section Operations

variable {Memory : Type} {environment : Environment}

theorem noActiveConflict_of_eq {database changed : Database}
    (unchanged : changed.federationAgreements = database.federationAgreements)
    (holds : NoActiveConflict database) : NoActiveConflict changed := by
  rw [NoActiveConflict, unchanged]
  exact holds

theorem deactivate_noActiveConflict {database : Database}
    (selected : FederationAgreement → Bool) (now : String)
    (holds : NoActiveConflict database) :
    NoActiveConflict (deactivate selected now database) := by
  dsimp only [NoActiveConflict, deactivate]
  apply Table.forall_updateWhere _ holds
  intro row _ _ active
  cases active

theorem insertAgreement_noActiveConflict {localServerId remoteInstanceId agreementId : Nat}
    {report : VrpValidationReport} {handshake : Option VrpFederationHandshake}
    {now : String} {database changed : Database}
    (agreed : report.alignmentStatus ≠ .conflict)
    (inserted : insertAgreement localServerId remoteInstanceId report handshake now
      database = .ok (agreementId, changed))
    (holds : NoActiveConflict database) : NoActiveConflict changed := by
  unfold insertAgreement at inserted
  split at inserted
  · cases inserted
    intro row member active
    dsimp only at member
    rcases Table.mem_insert.mp member with member | rfl
    · exact holds row member active
    · exact fun equal => agreed (VrpAlignmentStatus.toString_injective equal)
  · cases inserted

theorem createAgreement_preserves {now : String} {localServerId remoteInstanceId : Nat}
    {report : VrpValidationReport} {handshake : Option VrpFederationHandshake}
    (agreed : report.alignmentStatus ≠ .conflict) :
    Preserves NoActiveConflict
      (createAgreement now localServerId remoteInstanceId report handshake :
        Sql Database Memory DbError Nat) := by
  refine preserves_transaction (preserves_bind (preserves_execute ?_) fun _ =>
    preserves_statement ?_)
  · rintro database _ ⟨⟩ holds
    exact deactivate_noActiveConflict _ _ holds
  · intro database agreementId changed inserted holds
    exact insertAgreement_noActiveConflict agreed inserted holds

/-- An agreement with an unknown instance is not stored. -/
theorem createAgreement_unknown {now : String} {localServerId remoteInstanceId : Nat}
    {report : VrpValidationReport} {handshake : Option VrpFederationHandshake}
    {database : Database} {memory : Memory}
    (unknown : ¬ ∃ row ∈ database.instances.rows, row.id = remoteInstanceId) :
    Ensures (createAgreement now localServerId remoteInstanceId report handshake)
      database memory fun _ changed _ => changed = database := by
  refine ensures_transaction (fun _ => rfl) ?_
  refine ensures_bind (ensures_execute (fun _ => rfl) ?_ fun _ _ => rfl)
  rintro _ ⟨⟩
  rw [andThen_ok]
  refine ensures_statement (fun _ => rfl) ?_ fun _ _ => rfl
  intro agreementId changed inserted
  unfold insertAgreement at inserted
  split at inserted
  · next known => exact absurd (by simpa [deactivateBetween, deactivate] using known) unknown
  · cases inserted

theorem revokeAgreement_preserves (now : String) (agreementId localServerId : Nat) :
    Preserves NoActiveConflict
      (revokeAgreement now agreementId localServerId : Sql Database Memory DbError Bool) := by
  apply preserves_statement
  rintro database _ _ ⟨⟩ holds
  exact deactivate_noActiveConflict _ _ holds

theorem expireStaleAgreements_preserves (now : String) (localServerId : Nat)
    (stale : String → Bool) :
    Preserves NoActiveConflict
      (expireStaleAgreements now localServerId stale : Sql Database Memory DbError Nat) := by
  apply preserves_statement
  rintro database _ _ ⟨⟩ holds
  exact deactivate_noActiveConflict _ _ holds

/-- An update deactivates exactly the rows it puts in conflict. -/
theorem updateAgreement_noActiveConflict {database : Database} (now : String)
    (update : FederationUpdate) (holds : NoActiveConflict database) :
    NoActiveConflict
      { database with
        federationAgreements := updateAgreement now update database.federationAgreements } := by
  dsimp only [NoActiveConflict, updateAgreement]
  apply Table.forall_updateWhere _ holds
  intro row _ _ active equal
  have agreed : update.report.alignmentStatus ≠ .conflict := by simpa using active
  exact agreed (VrpAlignmentStatus.toString_injective equal)

theorem applyUpdate_preserves (now : String) (serverId : Nat) (update : FederationUpdate) :
    Preserves NoActiveConflict (applyUpdate now serverId update) := by
  have emission : ∀ (database : Database) publicEventLog, NoActiveConflict database →
      NoActiveConflict { database with publicEventLog } :=
    fun database publicEventLog => noActiveConflict_of_eq rfl
  unfold applyUpdate
  refine preserves_bind (preserves_execute ?_) fun _ => ?_
  · rintro database _ ⟨⟩ holds
    exact updateAgreement_noActiveConflict now update holds
  · split <;>
      exact preserves_bind (preserves_send _) fun _ => emitAndBroadcast_preserves emission

theorem applyUpdates_preserves (now : String) (serverId : Nat)
    (updates : List FederationUpdate) :
    Preserves NoActiveConflict (applyUpdates now serverId updates) := by
  induction updates with
  | nil => exact (reads_pure _).preserves
  | cons update rest induction =>
      exact preserves_bind (applyUpdate_preserves now serverId update) fun _ =>
        preserves_bind induction fun _ => (reads_pure _).preserves

theorem recalculateFederationAgreements_preserves (clock : Option Nat) (now : String)
    (serverId : Nat) (policy : ServerPolicy) :
    Preserves NoActiveConflict
      (recalculateFederationAgreements environment clock now serverId policy) := by
  unfold recalculateFederationAgreements
  refine preserves_bind (reads_orElse _ _).preserves fun localAnchor => ?_
  refine preserves_bind (reads_connect _).preserves fun _ => preserves_transaction ?_
  refine preserves_bind (reads_query _ _).preserves fun rows => ?_
  exact preserves_bind (reads_ofExcept _).preserves fun updates =>
    applyUpdates_preserves now serverId updates

end Operations

namespace FederationState

variable (environment : Environment) (serverId : Nat)

def step (state : FederationState) (call : FederationCall) : FederationState :=
  match call.request with
  | .handshake remoteInstanceId handshake clock =>
      { state with
        database := (processIncomingHandshake environment clock call.now serverId
          state.policy remoteInstanceId handshake ⟨state.database, (), call.faults⟩).2.database }
  | .changePolicy policy => { state with policy }
  | .recalculate clock =>
      { state with
        database := (recalculateFederationAgreements environment clock call.now serverId
          state.policy ⟨state.database, [], call.faults⟩).2.database }
  | .revoke agreementId =>
      { state with
        database := (revokeAgreement call.now agreementId serverId
          ⟨state.database, (), call.faults⟩).2.database }
  | .expire stale =>
      { state with
        database := (expireStaleAgreements call.now serverId stale
          ⟨state.database, (), call.faults⟩).2.database }

/-- A handshake that reaches the table brings an anchor that is not in conflict with
the local one, and a contract each side of which offers what the other requires. -/
def Acceptable (state : FederationState) (call : FederationCall) : Prop :=
  match call.request with
  | .handshake remoteInstanceId handshake clock =>
      (∃ row ∈ state.database.instances.rows, row.id = remoteInstanceId) →
      ∀ localAnchor, VrpAnchorSnapshot.new environment clock state.policy.principles
          state.policy.prohibitedActions = .ok localAnchor →
        comparePeerAnchor environment localAnchor handshake.anchorSnapshot
            (federationAlignmentConfig state.policy) ≠ .conflict ∧
          contractsMutuallyAccepted (handshakeContract state.policy)
            handshake.capabilityContract = true
  | _ => True

variable {environment serverId}

theorem handshake_noActiveConflict {state : FederationState} {now : String}
    {faults : List (Option String)} {remoteInstanceId : Nat}
    {handshake : VrpFederationHandshake} {clock : Option Nat}
    (acceptable : Acceptable environment state
      ⟨.handshake remoteInstanceId handshake clock, now, faults⟩)
    (holds : NoActiveConflict state.database) :
    Ensures (processIncomingHandshake environment clock now serverId state.policy
        remoteInstanceId handshake) state.database ()
      fun _ changed _ => NoActiveConflict changed := by
  unfold processIncomingHandshake
  refine ensures_bind (ensures_orElse ?_ fun _ _ => holds)
  intro localAnchor anchored
  rw [andThen_ok]
  refine ensures_bind (ensures_mapErr ?_)
  have stored : Ensures (createAgreement now serverId remoteInstanceId
      (validateFederationHandshake environment localAnchor (handshakeContract state.policy)
        handshake (federationAlignmentConfig state.policy)
        (federationTransferConfig state.policy)) (some handshake))
      state.database () fun _ changed _ => NoActiveConflict changed := by
    by_cases known : ∃ row ∈ state.database.instances.rows, row.id = remoteInstanceId
    · rcases acceptable known localAnchor anchored with ⟨aligned, accepted⟩
      refine fun faults => createAgreement_preserves ?_ _ holds
      simp [validateFederationHandshake_conflict_iff, aligned, accepted]
    · refine ensures_mono ?_ (createAgreement_unknown known)
      rintro _ _ _ rfl
      exact holds
  refine ensures_mono ?_ stored
  rintro (error | agreementId) changed _ held
  · exact held
  · exact fun _ => held

theorem step_noActiveConflict {state : FederationState} {call : FederationCall}
    (holds : NoActiveConflict state.database)
    (acceptable : Acceptable environment state call) :
    NoActiveConflict (step environment serverId state call).database := by
  rcases call with ⟨request, now, faults⟩
  cases request with
  | handshake remoteInstanceId handshake clock =>
      exact handshake_noActiveConflict acceptable holds faults
  | changePolicy policy => exact holds
  | recalculate clock =>
      exact recalculateFederationAgreements_preserves clock now serverId state.policy
        ⟨state.database, [], faults⟩ holds
  | revoke agreementId =>
      exact revokeAgreement_preserves now agreementId serverId
        ⟨state.database, (), faults⟩ holds
  | expire stale =>
      exact expireStaleAgreements_preserves now serverId stale
        ⟨state.database, (), faults⟩ holds

/-- As long as every handshake that reaches the table is acceptable, no agreement is
ever active in conflict, whatever else happens in whatever order. -/
theorem no_active_conflict (environment : Environment) (serverId : Nat)
    (database : Database) (fresh : database.federationAgreements = Table.empty)
    (policy : ServerPolicy) (calls : List FederationCall)
    (guarded : Execution.Guarded (step environment serverId) (Acceptable environment)
      ⟨database, policy⟩ calls) :
    ∀ row ∈ (Execution.run (step environment serverId) ⟨database, policy⟩
        calls).database.federationAgreements.rows,
      row.active = true → row.alignmentStatus ≠ "CONFLICT" := by
  refine Execution.run_invariant_of_guarded
    (fun state : FederationState => NoActiveConflict state.database)
    (fun _ _ => step_noActiveConflict) ?_ guarded
  intro row member
  rw [fresh] at member
  cases member

section Sample

def sampleCall (request : FederationRequest) : FederationCall :=
  ⟨request, "2026-01-01 00:00:00", []⟩

def alignedRun : FederationState :=
  Execution.run (step sampleEnvironment 1) ⟨sampleDatabase, samplePolicy⟩
    [sampleCall (.handshake 1 (alignedHandshake []) (some 0)),
      sampleCall (.recalculate (some 1))]

theorem no_active_conflict_aligned :
    alignedRun.database.federationAgreements.rows ≠ [] ∧
      ∀ row ∈ alignedRun.database.federationAgreements.rows,
        row.active = true → row.alignmentStatus ≠ "CONFLICT" := by
  refine ⟨by decide +kernel,
    no_active_conflict sampleEnvironment 1 sampleDatabase rfl samplePolicy _ ?_⟩
  rw [Execution.guarded_cons, Execution.guarded_cons]
  refine ⟨?_, trivial, trivial⟩
  rintro _ _ ⟨⟩
  exact ⟨by decide +kernel, by decide +kernel⟩

/-- A peer that prohibits what this server does not gets an active agreement in
conflict. -/
theorem handshake_active_in_conflict :
    ∃ row ∈ (Execution.run (step sampleEnvironment 1) ⟨sampleDatabase, samplePolicy⟩
        [sampleCall (.handshake 1 conflictingHandshake
          (some 0))]).database.federationAgreements.rows,
      row.active = true ∧ row.alignmentStatus = "CONFLICT" := by
  decide +kernel

end Sample

end FederationState

end Annex.Server
