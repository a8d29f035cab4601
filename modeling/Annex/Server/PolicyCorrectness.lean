import Annex.Foundation.Collect
import Annex.Server.Policy

namespace Annex.Server

open Db Federation Observe Sql Vrp

/-! What a re-evaluation does, and when it agrees with the handshake that stored an
agreement. -/

section Apply

variable (now : String) (serverId : Nat)

/-- The events one update is announced with, and the log after it. -/
def announcement (update : FederationUpdate) (log : Table PublicEvent) :
    List Outbound × Table PublicEvent :=
  if update.report.alignmentStatus = .conflict then
    let event := logged now serverId update.baseUrl
      (.federationSevered update.baseUrl "policy_conflict") log
    ([.presence (.federationSevered update.baseUrl), .observe event.1], event.2)
  else
    let event := logged now serverId update.baseUrl
      (.federationRealigned update.baseUrl update.report.alignmentStatus.toString
        update.previousStatus) log
    ([.presence (.federationRealigned update.baseUrl
        (presenceAlignment update.report.alignmentStatus)), .observe event.1], event.2)

def announcements : List FederationUpdate → Table PublicEvent →
    List Outbound × Table PublicEvent
  | [], log => ([], log)
  | update :: rest, log =>
      let first := announcement now serverId update log
      let later := announcements rest first.2
      (first.1 ++ later.1, later.2)

/-- The agreements after all updates. -/
def updatedAgreements (updates : List FederationUpdate)
    (agreements : Table FederationAgreement) : Table FederationAgreement :=
  updates.foldl (fun agreements update => updateAgreement now update agreements) agreements

theorem applyUpdate_apply (update : FederationUpdate) (database : Database)
    (sent : List Outbound) :
    applyUpdate now serverId update ⟨database, sent, []⟩ =
      (.ok (),
        ⟨{ database with
            federationAgreements := updateAgreement now update database.federationAgreements
            publicEventLog :=
              (announcement now serverId update database.publicEventLog).2 },
          sent ++ (announcement now serverId update database.publicEventLog).1, []⟩) := by
  unfold applyUpdate announcement
  split <;> simp [bind_apply, execute_apply, send, remember, emitAndBroadcast_apply]

theorem applyUpdates_apply (updates : List FederationUpdate) (database : Database)
    (sent : List Outbound) :
    applyUpdates now serverId updates ⟨database, sent, []⟩ =
      (.ok (updates.map fun update => (update.baseUrl, update.remoteInstanceId)),
        ⟨{ database with
            federationAgreements :=
              updatedAgreements now updates database.federationAgreements
            publicEventLog :=
              (announcements now serverId updates database.publicEventLog).2 },
          sent ++ (announcements now serverId updates database.publicEventLog).1, []⟩) := by
  induction updates generalizing database sent with
  | nil => simp [applyUpdates, updatedAgreements, announcements, pure_apply]
  | cons update rest induction =>
      rw [applyUpdates, bind_ok (applyUpdate_apply now serverId update database sent),
        bind_ok (induction _ _)]
      simp [pure_apply, updatedAgreements, announcements]

/-- An update of one agreement changes the row with its id only. -/
theorem mem_updateAgreement_of_ne {update : FederationUpdate}
    {agreements : Table FederationAgreement} {row : FederationAgreement}
    (other : update.id ≠ row.id) (member : row ∈ agreements.rows) :
    row ∈ (updateAgreement now update agreements).rows :=
  Table.mem_updateWhere.mpr ⟨row, member, by simp [other.symm]⟩

theorem mem_updatedAgreements_of_ne {updates : List FederationUpdate}
    {agreements : Table FederationAgreement} {row : FederationAgreement}
    (others : ∀ update ∈ updates, update.id ≠ row.id) (member : row ∈ agreements.rows) :
    row ∈ (updatedAgreements now updates agreements).rows := by
  induction updates generalizing agreements with
  | nil => exact member
  | cons update rest induction =>
      rw [List.forall_mem_cons] at others
      exact induction others.2 (mem_updateAgreement_of_ne now others.1 member)

end Apply

section Recalculate

variable {environment : Environment} {localAnchor : VrpAnchorSnapshot}
  {policy : ServerPolicy}

/-- A re-evaluation that nothing makes fail. -/
theorem recalculateFederationAgreements_apply {clock : Nat} (now : String)
    (serverId : Nat) (database : Database)
    (anchored : VrpAnchorSnapshot.new environment (some clock) policy.principles
      policy.prohibitedActions = .ok localAnchor) :
    recalculateFederationAgreements environment (some clock) now serverId policy
        ⟨database, [], []⟩ =
      match federationUpdates environment localAnchor policy (activeAgreements database) with
      | .error error => (.error error, ⟨database, [], []⟩)
      | .ok updates =>
          (.ok (updates.map fun update => (update.baseUrl, update.remoteInstanceId)),
            ⟨{ database with
                federationAgreements :=
                  updatedAgreements now updates database.federationAgreements
                publicEventLog :=
                  (announcements now serverId updates database.publicEventLog).2 },
              (announcements now serverId updates database.publicEventLog).1, []⟩) := by
  unfold recalculateFederationAgreements
  have unwrapped : (orElse
      (VrpAnchorSnapshot.new environment (some clock) policy.principles
        policy.prohibitedActions)
      fun error => .internalServerError ("failed to create anchor snapshot: " ++ error.text) :
        Handler VrpAnchorSnapshot) ⟨database, [], []⟩ = (.ok localAnchor, ⟨database, [], []⟩) := by
    rw [orElse_apply, anchored]
    rfl
  rw [bind_ok unwrapped, bind_ok (connect_apply _)]
  cases collected : federationUpdates environment localAnchor policy
      (activeAgreements database) with
  | error error =>
      apply @transaction_apply _ _ _ _ database [] _ _ _ (.error error) database []
      rw [bind_ok (query_apply _ _), bind_apply, ofExcept_apply, collected]
  | ok updates =>
      apply @transaction_apply _ _ _ _ database [] _ _ _ (.ok _) _ _
      rw [bind_ok (query_apply _ _), bind_apply, ofExcept_apply, collected]
      exact applyUpdates_apply now serverId updates database []

theorem federationUpdates_concat (rows : List (FederationAgreement × Instance))
    (row : FederationAgreement) (found : Instance) :
    federationUpdates environment localAnchor policy (rows ++ [(row, found)]) =
      match federationUpdates environment localAnchor policy rows with
      | .error error => .error error
      | .ok updates =>
          match reevaluate environment localAnchor policy row found with
          | .error error => .error error
          | .ok update => .ok (updates ++ update.toList) := by
  induction rows with
  | nil =>
      simp only [List.nil_append, federationUpdates]
      cases reevaluate environment localAnchor policy row found <;> simp
  | cons pair rest induction =>
      rcases pair with ⟨first, instance_⟩
      simp only [List.cons_append, federationUpdates, induction]
      cases reevaluate environment localAnchor policy first instance_ with
      | error error => rfl
      | ok update =>
          dsimp only
          cases federationUpdates environment localAnchor policy rest with
          | error error => rfl
          | ok updates =>
              cases reevaluate environment localAnchor policy row found <;> simp

theorem federationUpdates_eq_collect (rows : List (FederationAgreement × Instance)) :
    federationUpdates environment localAnchor policy rows =
      collect (fun pair => reevaluate environment localAnchor policy pair.1 pair.2) rows := by
  induction rows with
  | nil => rfl
  | cons pair rest induction =>
      rw [federationUpdates, collect, induction]
      cases reevaluate environment localAnchor policy pair.1 pair.2 with
      | error error => rfl
      | ok outcome =>
          cases collect
            (fun pair => reevaluate environment localAnchor policy pair.1 pair.2) rest <;> rfl

/-- An update bears the number of its agreement, whose status or scope it changes. -/
theorem reevaluate_some {row : FederationAgreement} {found : Instance}
    {update : FederationUpdate}
    (evaluated : reevaluate environment localAnchor policy row found = .ok (some update)) :
    update.id = row.id ∧
      (update.report.alignmentStatus.toString ≠ row.alignmentStatus ∨
        update.report.transferScope.toString ≠ row.transferScope) := by
  unfold reevaluate at evaluated
  split at evaluated
  · cases evaluated
  · split at evaluated
    · cases evaluated
    · dsimp only at evaluated
      split at evaluated
      · next differs =>
        cases evaluated
        exact ⟨rfl, differs⟩
      · cases evaluated

/-- An update is that of one of the agreements. -/
theorem id_of_mem_federationUpdates {rows : List (FederationAgreement × Instance)}
    {updates : List FederationUpdate}
    (collected : federationUpdates environment localAnchor policy rows = .ok updates)
    {update : FederationUpdate} (member : update ∈ updates) :
    ∃ pair ∈ rows, pair.1.id = update.id := by
  rw [federationUpdates_eq_collect] at collected
  rcases (collect_ok collected).2 update member with ⟨pair, pairMember, evaluated⟩
  exact ⟨pair, pairMember, (reevaluate_some evaluated).1.symm⟩

end Recalculate

section Agreement

variable {environment : Environment} {policy : ServerPolicy}
  {handshake : VrpFederationHandshake}

theorem createAgreement_apply {Memory : Type} {memory : Memory} {database : Database}
    {remoteInstanceId : Nat} (now : String) (localServerId : Nat)
    (report : VrpValidationReport) (stated : Option VrpFederationHandshake) :
    createAgreement now localServerId remoteInstanceId report stated
        ⟨database, memory, []⟩ =
      match insertAgreement localServerId remoteInstanceId report stated now
          (deactivateBetween localServerId remoteInstanceId now database) with
      | .ok (agreementId, changed) => (.ok agreementId, ⟨changed, memory, []⟩)
      | .error error => (.error error, ⟨database, memory, []⟩) := by
  unfold createAgreement
  cases inserted : insertAgreement localServerId remoteInstanceId report stated now
      (deactivateBetween localServerId remoteInstanceId now database) with
  | error error =>
      refine @transaction_apply _ _ _ _ database memory _ _ _ (.error error)
        (deactivateBetween localServerId remoteInstanceId now database) memory ?_
      rw [bind_ok (execute_apply _ _), statement_apply, inserted]
      rfl
  | ok pair =>
      apply @transaction_apply _ _ _ _ database memory _ _ _ (.ok pair.1) pair.2 memory
      rw [bind_ok (execute_apply _ _), statement_apply, inserted]

theorem createAgreement_stored {Memory : Type} {memory after : Memory}
    {database stored : Database} {now : String}
    {localServerId remoteInstanceId agreementId : Nat} {report : VrpValidationReport}
    {stated : Option VrpFederationHandshake}
    (created : createAgreement now localServerId remoteInstanceId report stated
      ⟨database, memory, []⟩ = (.ok agreementId, ⟨stored, after, []⟩)) :
    (∃ row ∈ stored.instances.rows, row.id = remoteInstanceId) ∧
      ∃ old, stored.federationAgreements.rows = old ++ [newAgreement localServerId
        remoteInstanceId report stated now stored.federationAgreements.lastId] := by
  rw [createAgreement_apply] at created
  split at created
  · next inserted =>
    cases created
    unfold insertAgreement at inserted
    split at inserted
    · next known =>
      cases inserted
      exact ⟨by simpa using known, _, rfl⟩
    · cases inserted
  · cases created

/-- What an accepted handshake leaves behind: its report is the validation against the
local anchor and contract, the instance is known, and the new row stands last. -/
theorem handshake_stored {Memory : Type} {memory after : Memory} {clock : Option Nat}
    {now : String} {serverId remoteInstanceId : Nat} {database stored : Database}
    {report : VrpValidationReport}
    (accepted : processIncomingHandshake environment clock now serverId policy
      remoteInstanceId handshake ⟨database, memory, []⟩ =
        (.ok report, ⟨stored, after, []⟩)) :
    (∃ timestamp, report = validateFederationHandshake environment
        (.taken environment timestamp policy.principles policy.prohibitedActions)
        (handshakeContract policy) handshake (federationAlignmentConfig policy)
        (federationTransferConfig policy)) ∧
      (∃ row ∈ stored.instances.rows, row.id = remoteInstanceId) ∧
      ∃ old, stored.federationAgreements.rows = old ++ [newAgreement serverId
        remoteInstanceId report (some handshake) now stored.federationAgreements.lastId] := by
  unfold processIncomingHandshake at accepted
  cases clock with
  | none => cases accepted
  | some timestamp =>
      rw [bind_ok (orElse_apply _ _ _)] at accepted
      revert accepted
      rcases created : createAgreement now serverId remoteInstanceId
        (validateFederationHandshake environment
          (.taken environment timestamp policy.principles policy.prohibitedActions)
          (handshakeContract policy) handshake (federationAlignmentConfig policy)
          (federationTransferConfig policy)) (some handshake)
        (⟨database, memory, []⟩ : Session Database Memory) with ⟨error | agreementId, session⟩
      · intro accepted
        rw [bind_apply, mapErr_apply created] at accepted
        cases accepted
      · intro accepted
        rw [bind_apply, mapErr_apply created] at accepted
        cases accepted
        exact ⟨⟨timestamp, rfl⟩, createAgreement_stored created⟩

/-- A re-evaluation in which no statement fails. -/
def reevaluation (environment : Environment) (serverId : Nat) (policy : ServerPolicy)
    (clock : Option Nat) (now : String) (database : Database) :
    Except ApiError (List (String × Nat)) × Session Database (List Outbound) :=
  recalculateFederationAgreements environment clock now serverId policy ⟨database, [], []⟩

/-- The re-evaluation computes the status and the scope of a report again. -/
def Recomputes (environment : Environment) (policy : ServerPolicy) (clock : Option Nat)
    (handshake : VrpFederationHandshake) (report : VrpValidationReport) : Prop :=
  ∃ localAnchor, VrpAnchorSnapshot.new environment clock policy.principles
      policy.prohibitedActions = .ok localAnchor ∧
    (reevaluatedReport environment localAnchor policy handshake).alignmentStatus =
      report.alignmentStatus ∧
    (reevaluatedReport environment localAnchor policy handshake).transferScope =
      report.transferScope

/-- The re-evaluation leaves the agreement as it is, and sends and schedules what it
would without the agreement. -/
def Unaffected (environment : Environment) (serverId : Nat) (policy : ServerPolicy)
    (clock : Option Nat) (now : String) (agreement : FederationAgreement)
    (database : Database) : Prop :=
  agreement ∈ (reevaluation environment serverId policy clock now
    database).2.database.federationAgreements.rows ∧
  (reevaluation environment serverId policy clock now database).2.memory =
    (reevaluation environment serverId policy clock now
      (deactivate (·.id = agreement.id) now database)).2.memory ∧
  (reevaluation environment serverId policy clock now database).1 =
    (reevaluation environment serverId policy clock now
      (deactivate (·.id = agreement.id) now database)).1

/-- Both contracts this server presents to a peer are accepted, or neither is, unless
the anchors are in conflict anyway. -/
def ContractsAgree (environment : Environment) (policy : ServerPolicy)
    (handshake : VrpFederationHandshake) : Prop :=
  comparePeerAnchor environment
      (.taken environment 0 policy.principles policy.prohibitedActions)
      handshake.anchorSnapshot (federationAlignmentConfig policy) = .conflict ∨
    contractsMutuallyAccepted (handshakeContract policy) handshake.capabilityContract =
      contractsMutuallyAccepted (reevaluationContract policy) handshake.capabilityContract

/-- The last row, when active, is the last agreement evaluated. -/
theorem activeAgreements_last {database : Database} {old : List FederationAgreement}
    {agreement : FederationAgreement} {found : Instance} (now : String)
    (rows : database.federationAgreements.rows = old ++ [agreement])
    (active : agreement.active = true)
    (joined : database.instances.rows.find? (·.id = agreement.remoteInstanceId) =
      some found) :
    activeAgreements database =
      activeAgreements (deactivate (·.id = agreement.id) now database) ++
        [(agreement, found)] := by
  have ascending := database.federationAgreements.ascending
  rw [rows, List.pairwise_append] at ascending
  have others : ∀ row ∈ old, row.id ≠ agreement.id := fun row member =>
    Nat.ne_of_lt (ascending.2.2 row member agreement (List.mem_singleton.mpr rfl))
  have kept : old.map (fun row => if row.id = agreement.id then
      { row with active := false, updatedAt := now } else row) = old := by
    rw [List.map_congr_left fun row member => if_neg (others row member), List.map_id']
  unfold activeAgreements deactivate
  simp [rows, kept, active, joined]

theorem id_ne_of_mem_activeAgreements {database : Database} {agreementId : Nat}
    {now : String} {pair : FederationAgreement × Instance}
    (member : pair ∈ activeAgreements (deactivate (·.id = agreementId) now database)) :
    pair.1.id ≠ agreementId := by
  simp only [activeAgreements, List.mem_filterMap, List.mem_filter] at member
  rcases member with ⟨row, ⟨rowMember, active⟩, joined⟩
  simp only [Option.map_eq_some_iff] at joined
  rcases joined with ⟨found, _, rfl⟩
  dsimp only [deactivate] at rowMember
  rcases Table.mem_updateWhere.mp rowMember with ⟨before, _, changed⟩
  by_cases same : before.id = agreementId
  · simp [same] at changed
    simp [← changed] at active
  · simp [same] at changed
    simpa [← changed] using same

theorem recomputes_iff {report : VrpValidationReport} {timestamp time : Nat}
    (reported : report = validateFederationHandshake environment
      (.taken environment timestamp policy.principles policy.prohibitedActions)
      (handshakeContract policy) handshake (federationAlignmentConfig policy)
      (federationTransferConfig policy)) :
    Recomputes environment policy (some time) handshake report ↔
      ContractsAgree environment policy handshake := by
  have status := @alignmentStatus_validateFederationHandshake_eq_iff environment
    (.taken environment 0 policy.principles policy.prohibitedActions)
    (handshakeContract policy) (reevaluationContract policy) handshake
    (federationAlignmentConfig policy) (federationTransferConfig policy)
  rw [ContractsAgree, ← status]
  constructor
  · rintro ⟨localAnchor, anchored, same, _⟩
    cases anchored
    rw [reported] at same
    exact same.symm
  · intro same
    have recomputed : (reevaluatedReport environment
        (.taken environment time policy.principles policy.prohibitedActions) policy
        handshake).alignmentStatus = report.alignmentStatus := by
      rw [reported]
      exact same.symm
    refine ⟨_, rfl, recomputed, ?_⟩
    rw [reevaluatedReport, transferScope_validateFederationHandshake]
    rw [reevaluatedReport] at recomputed
    rw [recomputed, reported, transferScope_validateFederationHandshake]

/-- An agreement whose status and scope are computed again is not updated. -/
theorem unaffected_of_recomputes {serverId : Nat} {clock : Option Nat} {now : String}
    {report : VrpValidationReport} {database : Database} {old : List FederationAgreement}
    {agreement : FederationAgreement}
    (recomputes : Recomputes environment policy clock handshake report)
    (rows : database.federationAgreements.rows = old ++ [agreement])
    (known : ∃ row ∈ database.instances.rows, row.id = agreement.remoteInstanceId)
    (active : agreement.active = true)
    (stated : agreement.remoteHandshakeJson = some (.encoded handshake))
    (status : agreement.alignmentStatus = report.alignmentStatus.toString)
    (scope : agreement.transferScope = report.transferScope.toString) :
    Unaffected environment serverId policy clock now agreement database := by
  rcases recomputes with ⟨localAnchor, anchored, sameStatus, sameScope⟩
  cases clock with
  | none => cases anchored
  | some time =>
  have joins : (database.instances.rows.find? (·.id = agreement.remoteInstanceId)).isSome := by
    simpa using known
  rcases Option.isSome_iff_exists.mp joins with ⟨found, joined⟩
  have evaluated : reevaluate environment localAnchor policy agreement found = .ok none := by
    simp [reevaluate, stated, status, scope, sameStatus, sameScope]
  have collected : federationUpdates environment localAnchor policy
      (activeAgreements database) =
      federationUpdates environment localAnchor policy
        (activeAgreements (deactivate (·.id = agreement.id) now database)) := by
    rw [activeAgreements_last now rows active joined, federationUpdates_concat, evaluated]
    cases federationUpdates environment localAnchor policy
      (activeAgreements (deactivate (·.id = agreement.id) now database)) <;> simp
  have member : agreement ∈ database.federationAgreements.rows := by
    simp [rows]
  unfold Unaffected reevaluation
  rw [recalculateFederationAgreements_apply now serverId database anchored,
    recalculateFederationAgreements_apply now serverId _ anchored, collected]
  cases others : federationUpdates environment localAnchor policy
      (activeAgreements (deactivate (·.id = agreement.id) now database)) with
  | error error => exact ⟨member, rfl, rfl⟩
  | ok updates =>
      have apart : ∀ update ∈ updates, update.id ≠ agreement.id := by
        intro update updateMember
        rcases id_of_mem_federationUpdates others updateMember with ⟨pair, pairMember, equal⟩
        rw [← equal]
        exact id_ne_of_mem_activeAgreements pairMember
      exact ⟨mem_updatedAgreements_of_ne now apart member, rfl, rfl⟩

/-- A stored agreement is evaluated as it was stored, and left alone, exactly when both
contracts of this server treat the peer alike and the clock can be read. -/
theorem reevaluation_agrees_iff (environment : Environment) (policy : ServerPolicy)
    (serverId remoteInstanceId : Nat) (handshake : VrpFederationHandshake)
    (handshakeClock clock : Option Nat) (handshakeNow now : String)
    (database stored : Database) (report : VrpValidationReport)
    (accepted : processIncomingHandshake environment handshakeClock handshakeNow serverId
      policy remoteInstanceId handshake ⟨database, (), []⟩ =
        (.ok report, ⟨stored, (), []⟩)) :
    Recomputes environment policy clock handshake report ∧
      Unaffected environment serverId policy clock now (newAgreement serverId
        remoteInstanceId report (some handshake) handshakeNow
        stored.federationAgreements.lastId) stored ↔
    clock ≠ none ∧ ContractsAgree environment policy handshake := by
  rcases handshake_stored accepted with ⟨⟨timestamp, reported⟩, known, old, rows⟩
  cases clock with
  | none =>
      constructor
      · rintro ⟨⟨_, anchored, _⟩, _⟩
        cases anchored
      · rintro ⟨read, _⟩
        exact absurd rfl read
  | some time =>
      rw [recomputes_iff reported]
      constructor
      · rintro ⟨agree, _⟩
        exact ⟨by simp, agree⟩
      · rintro ⟨_, agree⟩
        refine ⟨agree, ?_⟩
        exact unaffected_of_recomputes ((recomputes_iff reported).mpr agree) rows known rfl
          rfl rfl rfl

/-- A peer that requires `voice` is accepted and re-evaluated to a conflict, because the
re-evaluation offers `VOICE`. -/
theorem voice_peer_severed :
    (processIncomingHandshake sampleEnvironment (some 0) "2026-01-01 00:00:00" 1
        samplePolicy 1 (alignedHandshake ["voice"]) ⟨sampleDatabase, (), []⟩).1 =
      .ok ⟨.aligned, .reflectionSummariesOnly, F32.one, []⟩ ∧
    ¬ Unaffected sampleEnvironment 1 samplePolicy (some 1) "2026-01-01 00:00:01"
      (newAgreement 1 1 ⟨.aligned, .reflectionSummariesOnly, F32.one, []⟩
        (some (alignedHandshake ["voice"])) "2026-01-01 00:00:00" 1)
      (processIncomingHandshake sampleEnvironment (some 0) "2026-01-01 00:00:00" 1
        samplePolicy 1 (alignedHandshake ["voice"])
        ⟨sampleDatabase, (), []⟩).2.database := by
  refine ⟨by decide +kernel, ?_⟩
  rintro ⟨_, _, peers⟩
  revert peers
  decide +kernel

theorem reevaluation_agrees_without_requirements :
    Recomputes sampleEnvironment samplePolicy (some 1) (alignedHandshake [])
        ⟨.aligned, .reflectionSummariesOnly, F32.one, []⟩ ∧
      Unaffected sampleEnvironment 1 samplePolicy (some 1) "2026-01-01 00:00:01"
        (newAgreement 1 1 ⟨.aligned, .reflectionSummariesOnly, F32.one, []⟩
          (some (alignedHandshake [])) "2026-01-01 00:00:00" 1)
        (processIncomingHandshake sampleEnvironment (some 0) "2026-01-01 00:00:00" 1
          samplePolicy 1 (alignedHandshake []) ⟨sampleDatabase, (), []⟩).2.database := by
  refine (reevaluation_agrees_iff sampleEnvironment samplePolicy 1 1 (alignedHandshake [])
    (some 0) (some 1) "2026-01-01 00:00:00" "2026-01-01 00:00:01" sampleDatabase _ _
    rfl).mpr ⟨by simp, Or.inr (by decide)⟩

end Agreement

end Annex.Server
