import Annex.Server.AgentHandshake
import Annex.Server.AgentReevaluation

namespace Annex.Server

open Db Graph Observe Rtx Sql Vrp PolicyTables

/-! What the handshakes of the agents leave in their registrations, and what the evaluations
leave of that. -/

namespace PolicyTables

/-- The tables after an accepted handshake. -/
def withAgent (serverId : Nat) (request : AgentHandshakeRequest) (report : VrpValidationReport)
    (reputationScore : String) (tables : PolicyTables) : PolicyTables :=
  { tables with
    agentRegistrations :=
      upsertRegistration serverId request report reputationScore tables.agentRegistrations
    anchorSnapshotJson := fun id =>
      if (upsertRegistration serverId request report reputationScore
          tables.agentRegistrations).rows.any fun row =>
            row.id = id && isAgent serverId request.pseudonymId row then
        some (.encoded request.handshake.anchorSnapshot)
      else
        tables.anchorSnapshotJson id }

/-- The tables after a handshake in conflict. -/
def withConflict (serverId : Nat) (pseudonymId : String) (tables : PolicyTables) : PolicyTables :=
  { tables with
    agentRegistrations :=
      tables.agentRegistrations.updateWhere (isAgent serverId pseudonymId) conflicted
        key_conflicted }

/-- The agent is registered, or deactivated if its handshake is in conflict. -/
def AgentStored (serverId : Nat) (request : AgentHandshakeRequest) (report : VrpValidationReport)
    (before after : PolicyTables) : Prop :=
  report.alignmentStatus ≠ .conflict ∧
      (∃ reputationScore, after = before.withAgent serverId request report reputationScore) ∨
    report.alignmentStatus = .conflict ∧ after = before.withConflict serverId request.pseudonymId

/-- No agent is registered twice at a server, and none is active in conflict. -/
structure AgentsSound (tables : PolicyTables) : Prop where
  unique : tables.UniqueAgents
  agreed : ∀ row ∈ tables.agentRegistrations.rows, row.active = true →
    row.alignmentStatus ≠ VrpAlignmentStatus.conflict.toString

end PolicyTables

def ServerDatabase.tables (database : ServerDatabase) : PolicyTables :=
  database.toPolicyDatabase.tables

theorem isAgent_iff {serverId : Nat} {pseudonymId : String} {row : AgentRegistration} :
    isAgent serverId pseudonymId row = true ↔
      row.serverId = serverId ∧ row.pseudonymId = pseudonymId := by
  simp [isAgent]

section Handshake

variable {arithmetic : Scalar F32} {realText : F32 → String} {ties : TieOrder} {now : String}
  {serverId : Nat} {request : AgentHandshakeRequest} {report : VrpValidationReport}
  {database : ServerDatabase} {sent : List Outbound}

/-- What the modules that know the common tables keep of the servers and the agents. -/
theorem onTables_keeps {Error α : Type} {program : Sql Database (List Outbound) Error α}
    (kept : Keeps (fun database : Database => (database.servers, database.agentRegistrations))
      program) : Keeps ServerDatabase.tables (onTables program) := by
  refine keeps_onPart (fun _ => rfl) fun database value session held => ?_
  have same := kept _ session rfl
  simp only [Prod.mk.injEq] at same
  rw [← held]
  simp only [ServerDatabase.tables, PolicyDatabase.tables, same.1, same.2]

theorem recordVrpOutcome_keeps {peerPseudonym peerType : String} :
    Keeps ServerDatabase.tables (recordVrpOutcome now serverId peerPseudonym peerType report :
      Sql ServerDatabase (List Outbound) ReputationError Unit) := by
  apply keeps_execute
  intro database changed written
  split at written
  · cases written
    rfl
  · cases written

theorem upsertAgent_tables {reputationScore : String} {changed : ServerDatabase}
    (written : upsertAgent serverId request report reputationScore database = .ok changed) :
    changed.tables = database.tables.withAgent serverId request report reputationScore := by
  unfold upsertAgent at written
  split at written
  · cases written
    rfl
  · cases written

theorem registerAgent_ensures {reputationScore : F32} :
    Ensures (registerAgent realText now serverId request report reputationScore) database sent
      fun result changed _ => result = .ok () → changed.tables =
        database.tables.withAgent serverId request report (realText reputationScore) := by
  have upserts {before : ServerDatabase} (after : List Outbound)
      (same : before.tables = database.tables) :
      Ensures (execute (fun error => ApiError.internalServerError
            ("failed to upsert registration: " ++ error.text))
          (upsertAgent serverId request report (realText reputationScore))) before after
        fun result changed _ => result = .ok () → changed.tables =
          database.tables.withAgent serverId request report (realText reputationScore) := by
    apply ensures_execute
    · exact fun _ failed => nomatch failed
    · intro changed written _
      rw [upsertAgent_tables written, same]
    · exact fun _ _ failed => nomatch failed
  have noted : Keeps ServerDatabase.tables
      (onTables (updateNodeActivity now serverId request.pseudonymId)) :=
    onTables_keeps (updateNodeActivity_keeps fun _ _ => rfl)
  unfold registerAgent
  refine (keeps_attempt noted).ensures_bind ?_ ?_
  · exact fun _ _ _ _ failed => nomatch failed
  · intro activity changed after same
    split
    · apply ensures_bind
      rw [ensures_send, andThen_ok]
      have emitted : Keeps ServerDatabase.tables (onTables (emitAndBroadcast now serverId
          request.pseudonymId (.nodeReactivated request.pseudonymId)) :
            ServerSql ApiError Unit) :=
        onTables_keeps (emitAndBroadcast_keeps fun _ _ => rfl)
      refine emitted.ensures_bind ?_ ?_
      · exact fun _ _ _ _ failed => nomatch failed
      · exact fun _ _ after logged => upserts after (logged.trans same)
    · exact upserts after same
    · exact upserts after same

theorem deactivateConflictAgent_ensures :
    Ensures (deactivateConflictAgent serverId request.pseudonymId) database sent
      fun result changed _ => ∀ updated, result = .ok updated →
        changed.tables = database.tables.withConflict serverId request.pseudonymId := by
  apply ensures_statement
  · exact fun _ _ failed => nomatch failed
  · intro updated changed done _ _
    cases done
    rfl
  · exact fun _ _ _ failed => nomatch failed

theorem storeAgentOutcome_ensures :
    Ensures (storeAgentOutcome arithmetic realText ties now serverId request report) database
      sent fun result changed _ => ∀ event, result = .ok event →
        AgentStored serverId request report database.tables changed.tables := by
  have records : Keeps ServerDatabase.tables (mapErr
      (fun error : ReputationError =>
        ApiError.internalServerError ("failed to log vrp outcome: " ++ error.text))
      (recordVrpOutcome now serverId request.pseudonymId "AI_AGENT" report :
        Sql ServerDatabase (List Outbound) ReputationError Unit)) :=
    keeps_mapErr recordVrpOutcome_keeps
  have checks : Keeps ServerDatabase.tables (mapErr
      (fun error : ReputationError =>
        ApiError.internalServerError ("failed to check reputation: " ++ error.text))
      (checkReputationScore arithmetic ties serverId request.pseudonymId :
        Sql ServerDatabase (List Outbound) ReputationError F32)) :=
    keeps_mapErr (reads_query _ _).keeps
  refine records.ensures_bind ?_ ?_
  · exact fun _ _ _ _ _ failed => nomatch failed
  · intro _ recorded after same
    refine checks.ensures_bind ?_ ?_
    · exact fun _ _ _ _ _ failed => nomatch failed
    · intro reputationScore checked after unchanged
      rw [← same, ← unchanged]
      have registers (payload : EventPayload) (agreed : report.alignmentStatus ≠ .conflict) :
          Ensures (registerAgent realText now serverId request report reputationScore >>=
              fun _ => pure (some payload)) checked after fun result changed _ =>
            ∀ event, result = .ok event →
              AgentStored serverId request report checked.tables changed.tables := by
        apply ensures_bind
        refine ensures_mono ?_ registerAgent_ensures
        intro result changed _ registered
        cases result with
        | error error => exact fun _ failed => nomatch failed
        | ok _ =>
            rw [andThen_ok, ensures_pure]
            exact fun _ _ => Or.inl ⟨agreed, _, registered rfl⟩
      split
      · next status => exact registers _ (by rw [status]; decide)
      · next status => exact registers _ (by rw [status]; decide)
      · next status =>
        apply ensures_bind
        refine ensures_mono ?_ deactivateConflictAgent_ensures
        intro result changed _ deactivated
        cases result with
        | error error => exact fun _ failed => nomatch failed
        | ok updated =>
            rw [andThen_ok, ensures_pure]
            exact fun _ _ => Or.inr ⟨status, deactivated updated rfl⟩

/-- The transaction of a handshake stores its agent, or does nothing. -/
theorem storeAgentHandshake_ensures :
    Ensures (storeAgentHandshake arithmetic realText ties now serverId request report) database
      sent fun result changed _ =>
        match result with
        | .ok _ => AgentStored serverId request report database.tables changed.tables
        | .error _ => changed = database := by
  apply ensures_transaction
  · exact fun _ => rfl
  · refine ensures_mono ?_ storeAgentOutcome_ensures
    intro result changed _ stored
    cases result with
    | error error => rfl
    | ok event => exact ⟨stored event rfl, fun _ => rfl⟩

end Handshake

/-! The registrations stay sound. -/

namespace PolicyTables

variable {serverId : Nat} {request : AgentHandshakeRequest} {report : VrpValidationReport}
  {reputationScore pseudonymId : String} {tables : PolicyTables}

theorem rows_withAgent_of_known
    (known : tables.agentRegistrations.rows.any (isAgent serverId request.pseudonymId) = true) :
    (tables.withAgent serverId request report reputationScore).agentRegistrations.rows =
      tables.agentRegistrations.rows.map fun row =>
        if isAgent serverId request.pseudonymId row then
          registered request report reputationScore row
        else row := by
  unfold withAgent upsertRegistration Table.upsert
  dsimp only
  rw [if_pos known]
  rfl

theorem rows_withAgent_of_new
    (new : tables.agentRegistrations.rows.any (isAgent serverId request.pseudonymId) = false) :
    (tables.withAgent serverId request report reputationScore).agentRegistrations.rows =
      tables.agentRegistrations.rows ++ [⟨tables.agentRegistrations.lastId + 1, serverId,
        request.pseudonymId, report.alignmentStatus.toString, report.transferScope.toString,
        .encoded request.handshake.capabilityContract, reputationScore, true⟩] := by
  unfold withAgent upsertRegistration Table.upsert
  dsimp only
  rw [if_neg (by rw [new]; decide)]
  rfl

/-- An agent shows the report of its accepted handshake, and has its contract. -/
structure Registered (request : AgentHandshakeRequest) (report : VrpValidationReport)
    (row : AgentRegistration) : Prop where
  shown : Shows report row
  contract : row.capabilityContractJson = .encoded request.handshake.capabilityContract

/-- After an accepted handshake each registration is the agent's, or was there before. -/
theorem mem_withAgent {row : AgentRegistration}
    (member : row ∈
      (tables.withAgent serverId request report reputationScore).agentRegistrations.rows) :
    isAgent serverId request.pseudonymId row = true ∧ Registered request report row ∨
      isAgent serverId request.pseudonymId row = false ∧
        row ∈ tables.agentRegistrations.rows := by
  cases known : tables.agentRegistrations.rows.any (isAgent serverId request.pseudonymId) with
  | true =>
      rw [rows_withAgent_of_known known] at member
      rcases List.mem_map.mp member with ⟨old, oldMember, isRow⟩
      rw [← isRow]
      split
      · next own => exact Or.inl ⟨own, ⟨rfl, rfl⟩, rfl⟩
      · next other => exact Or.inr ⟨Bool.eq_false_iff.mpr other, oldMember⟩
  | false =>
      rw [rows_withAgent_of_new known] at member
      rcases List.mem_append.mp member with old | new
      · right
        rw [List.any_eq_false] at known
        exact ⟨Bool.eq_false_iff.mpr (known row old), old⟩
      · rw [List.mem_singleton.mp new]
        exact Or.inl ⟨isAgent_iff.mpr ⟨rfl, rfl⟩, ⟨rfl, rfl⟩, rfl⟩

theorem exists_withAgent :
    ∃ row ∈ (tables.withAgent serverId request report reputationScore).agentRegistrations.rows,
      isAgent serverId request.pseudonymId row = true := by
  cases known : tables.agentRegistrations.rows.any (isAgent serverId request.pseudonymId) with
  | true =>
      rw [rows_withAgent_of_known known]
      rcases List.any_eq_true.mp known with ⟨row, member, own⟩
      refine ⟨registered request report reputationScore row, ?_, own⟩
      exact List.mem_map.mpr ⟨row, member, if_pos own⟩
  | false =>
      rw [rows_withAgent_of_new known]
      exact ⟨_, List.mem_append_right _ (List.mem_singleton_self _),
        isAgent_iff.mpr ⟨rfl, rfl⟩⟩

/-- The agent's anchor is the one it has presented. -/
theorem anchor_withAgent {row : AgentRegistration}
    (member : row ∈
      (tables.withAgent serverId request report reputationScore).agentRegistrations.rows)
    (own : isAgent serverId request.pseudonymId row = true) :
    (tables.withAgent serverId request report reputationScore).anchorSnapshotJson row.id =
      some (.encoded request.handshake.anchorSnapshot) := by
  apply if_pos
  apply List.any_eq_true.mpr
  refine ⟨row, member, ?_⟩
  rw [own, Bool.and_true, decide_eq_true_eq]

theorem AgentsSound.withAgent (sound : tables.AgentsSound)
    (agreed : report.alignmentStatus ≠ .conflict) :
    (tables.withAgent serverId request report reputationScore).AgentsSound := by
  constructor
  · cases known : tables.agentRegistrations.rows.any
        (isAgent serverId request.pseudonymId) with
    | true =>
        apply sound.unique.map (rows_withAgent_of_known known)
        intro row
        split <;> exact ⟨rfl, rfl⟩
    | false =>
        intro left leftMember right rightMember server pseudonym
        rw [rows_withAgent_of_new known] at leftMember rightMember
        rw [List.any_eq_false] at known
        rcases List.mem_append.mp leftMember with leftOld | leftNew
        · rcases List.mem_append.mp rightMember with rightOld | rightNew
          · exact sound.unique left leftOld right rightOld server pseudonym
          · rw [List.mem_singleton.mp rightNew] at server pseudonym
            exact absurd (isAgent_iff.mpr ⟨server, pseudonym⟩) (known left leftOld)
        · rcases List.mem_append.mp rightMember with rightOld | rightNew
          · rw [List.mem_singleton.mp leftNew] at server pseudonym
            exact absurd (isAgent_iff.mpr ⟨server.symm, pseudonym.symm⟩) (known right rightOld)
          · rw [List.mem_singleton.mp leftNew, List.mem_singleton.mp rightNew]
  · intro row member active
    rcases mem_withAgent member with own | other
    · rw [own.2.shown.1]
      exact fun equal => agreed (VrpAlignmentStatus.toString_injective equal)
    · exact sound.agreed row other.2 active

theorem AgentsSound.withConflict (sound : tables.AgentsSound) :
    (tables.withConflict serverId pseudonymId).AgentsSound := by
  constructor
  · apply sound.unique.map rfl
    intro row
    split <;> exact ⟨rfl, rfl⟩
  · have keyed (row : AgentRegistration) : key (conflicted row) = key row := rfl
    apply Table.forall_updateWhere keyed sound.agreed
    intro row _ _ active
    cases active

theorem AgentsSound.stored {after : PolicyTables} (sound : tables.AgentsSound)
    (stored : AgentStored serverId request report tables after) : after.AgentsSound := by
  rcases stored with ⟨agreed, reputationScore, registers⟩ | ⟨-, deactivates⟩
  · rw [registers]
    exact sound.withAgent agreed
  · rw [deactivates]
    exact sound.withConflict

/-- Updates that end every agent they put in conflict. -/
theorem AgentsSound.withUpdates {updates : List AgentUpdate} (sound : tables.AgentsSound)
    (ending : ∀ update ∈ updates,
      update.active = decide (update.report.alignmentStatus ≠ .conflict)) :
    (tables.withUpdates serverId updates).AgentsSound := by
  have kept (row : AgentRegistration) (agreed : row.active = true →
      row.alignmentStatus ≠ VrpAlignmentStatus.conflict.toString) :
      (updates.foldl (agentAfter serverId) row).active = true →
        (updates.foldl (agentAfter serverId) row).alignmentStatus ≠
          VrpAlignmentStatus.conflict.toString := by
    induction updates generalizing row with
    | nil => exact agreed
    | cons update rest induction =>
        rw [List.forall_mem_cons] at ending
        rw [List.foldl_cons]
        apply induction ending.2
        unfold agentAfter
        split
        · intro active equal
          have agrees : update.active = true := active
          rw [ending.1, decide_eq_true_eq] at agrees
          exact agrees (VrpAlignmentStatus.toString_injective equal)
        · exact agreed
  constructor
  · exact sound.unique.withUpdates updates
  · intro row member
    dsimp only [PolicyTables.withUpdates] at member
    rw [rows_updatedAgents] at member
    rcases List.mem_map.mp member with ⟨old, oldMember, isRow⟩
    rw [← isRow]
    exact kept old (sound.agreed old oldMember)

end PolicyTables

end Annex.Server
