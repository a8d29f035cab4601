import Annex.Foundation.SqlCount
import Annex.Server.AgentStanding
import Annex.Server.Join

namespace Annex.Server

open Db Federation Rtx Sql Vrp PolicyTables

/-! The readers of the agents' registrations, and the runs of handshakes and re-evaluations in
which none of them stumbles over a text it does not know. -/

/-- The body `GET /api/agents/:pseudonymId` answers with. -/
structure AgentProfileResponse where
  pseudonymId : String
  alignmentStatus : VrpAlignmentStatus
  transferScope : VrpTransferScope
  capabilityContract : VrpCapabilitySharingContract
  reputationScore : String
deriving DecidableEq, Repr

/-- The status of a profile, by a match of the handler's own. -/
def profileAlignmentStatus (text : String) : Except ApiError VrpAlignmentStatus :=
  if text = "ALIGNED" then .ok .aligned
  else if text = "PARTIAL" then .ok .partial_
  else if text = "CONFLICT" then .ok .conflict
  else .error (.internalServerError ("unknown alignment status: " ++ text))

/-- The scope of a profile, likewise. -/
def profileTransferScope (text : String) : Except ApiError VrpTransferScope :=
  if text = "NO_TRANSFER" then .ok .noTransfer
  else if text = "REFLECTION_SUMMARIES_ONLY" then .ok .reflectionSummariesOnly
  else if text = "FULL_KNOWLEDGE_BUNDLE" then .ok .fullKnowledgeBundle
  else .error (.internalServerError ("unknown transfer scope: " ++ text))

/-- The columns of a registration as a profile. -/
def profileOf (environment : Environment) (row : AgentRegistration) :
    Handler AgentProfileResponse := do
  let alignmentStatus ← ofExcept (profileAlignmentStatus row.alignmentStatus)
  let transferScope ← ofExcept (profileTransferScope row.transferScope)
  let capabilityContract ← orElse (row.capabilityContractJson.parse environment.jsonErrorText)
    fun error => .internalServerError ("contract json parse error: " ++ error)
  pure
    { pseudonymId := row.pseudonymId
      alignmentStatus
      transferScope
      capabilityContract
      reputationScore := row.reputationScore }

/-- `GET /api/agents/:pseudonymId`. -/
def getAgentProfileHandler (environment : Environment) (serverId : Nat)
    (pseudonymId : String) : Handler AgentProfileResponse := do
  connect dbConnectionFailed
  connect fun error => .internalServerError ("prepare failed: " ++ error.text)
  connect fun error => .internalServerError ("query failed: " ++ error.text)
  let found ← query
    (fun error => .internalServerError ("row failed: " ++ error.text))
    fun database =>
      .ok (database.agentRegistrations.rows.find? (isAgent serverId pseudonymId))
  match found with
  | none => fail (.notFound ("agent not found: " ++ pseudonymId))
  | some row => profileOf environment row

/-- The texts of the statuses are names `serde_json` knows. -/
structure SerdeJson.KnowsStatuses (json : SerdeJson) : Prop where
  known : ∀ status : VrpAlignmentStatus,
    (json.alignmentStatus ("\"" ++ status.toString ++ "\"")).isSome

/-- Everybody who reads the registration can. -/
structure AgentReadable (environment : Environment) (database : Database)
    (row : AgentRegistration) : Prop where
  status : ∃ status, VrpAlignmentStatus.fromStr row.alignmentStatus = .ok status
  scope : ∃ scope, VrpTransferScope.fromStr row.transferScope = .ok scope
  profile : ∃ profile, ∀ sent, Answers
    (getAgentProfileHandler environment row.serverId row.pseudonymId) database sent profile
  joins : ∀ json : SerdeJson, json.KnowsStatuses → ∀ channel,
    checkAgentStatus json channel row.alignmentStatus ≠ .error .internalServerError
  transfers : ∃ scope, VrpTransferScope.parse row.transferScope = some scope

/-- The registration stands as a report and a contract were written. -/
def Written (row : AgentRegistration) : Prop :=
  ∃ status : VrpAlignmentStatus, ∃ scope : VrpTransferScope, ∃ contract,
    row.alignmentStatus = status.toString ∧ row.transferScope = scope.toString ∧
      row.capabilityContractJson = .encoded contract

section Readers

variable {environment : Environment} {database : Database} {row : AgentRegistration}

@[simp] theorem profileAlignmentStatus_toString (status : VrpAlignmentStatus) :
    profileAlignmentStatus status.toString = .ok status := by
  cases status <;> rfl

@[simp] theorem profileTransferScope_toString (scope : VrpTransferScope) :
    profileTransferScope scope.toString = .ok scope := by
  cases scope <;> rfl

/-- What was written can be read. -/
theorem Written.answers_profileOf (written : Written row) :
    ∃ profile, ∀ sent, Answers (profileOf environment row) database sent profile := by
  rcases written with ⟨status, scope, contract, isStatus, isScope, isContract⟩
  refine ⟨⟨row.pseudonymId, status, scope, contract, row.reputationScore⟩, ?_⟩
  intro sent
  unfold profileOf
  rw [isStatus, isScope, isContract]
  simp [answers_bind, JsonText.parse]

theorem Written.joins (written : Written row) {json : SerdeJson} (knows : json.KnowsStatuses)
    (channel : Channels.Channel) :
    checkAgentStatus json channel row.alignmentStatus ≠ .error .internalServerError := by
  rcases written with ⟨status, -, -, isStatus, -, -⟩
  have known := knows.known status
  rw [isStatus]
  unfold checkAgentStatus
  split
  · next unread =>
    rw [Option.or_eq_none_iff] at unread
    rw [unread.2] at known
    cases known
  · intro failed
    split at failed
    · cases failed
    · split at failed
      · cases failed
      · split at failed <;> cases failed

theorem Written.readable (written : ∀ row ∈ database.agentRegistrations.rows, Written row)
    (member : row ∈ database.agentRegistrations.rows) :
    AgentReadable environment database row := by
  have own := written row member
  rcases own with ⟨status, scope, contract, isStatus, isScope, isContract⟩
  constructor
  · exact ⟨status, by rw [isStatus, VrpAlignmentStatus.fromStr_toString]⟩
  · exact ⟨scope, by rw [isScope, VrpTransferScope.fromStr_toString]⟩
  · have stored : (database.agentRegistrations.rows.find?
        (isAgent row.serverId row.pseudonymId)).isSome := by
      rw [List.find?_isSome]
      exact ⟨row, member, isAgent_iff.mpr ⟨rfl, rfl⟩⟩
    rcases Option.isSome_iff_exists.mp stored with ⟨found, isFound⟩
    rcases (written found (List.mem_of_find?_eq_some isFound)).answers_profileOf with
      ⟨profile, answers⟩
    refine ⟨profile, fun sent => ?_⟩
    unfold getAgentProfileHandler
    simp only [answers_bind, looks_connect, looks_query, answers_connect, answers_query,
      exists_const, true_and, Except.ok.injEq]
    exact ⟨found, isFound, answers sent⟩
  · exact fun json knows channel => (written row member).joins knows channel
  · exact ⟨scope, VrpTransferScope.parse_eq_some_iff.mpr isScope⟩

end Readers

/-! The step that leaves a text of its own. -/

/-- An agent that is registered already shakes hands in conflict with the policy, and none of
the handshake's statements is made to fail. -/
def Refuses (environment : Environment) (database : ServerDatabase) (call : AgentCall) : Prop :=
  ∃ request ties timestamp, call.request = .handshake request ties ∧
    call.clock = some timestamp ∧
    (agentReport environment (.taken environment timestamp call.policy.principles
      call.policy.prohibitedActions) call.policy request.handshake).alignmentStatus =
        .conflict ∧
    database.agentRegistrations.rows.any (isAgent call.serverId request.pseudonymId) = true ∧
    database.servers.rows.any (·.id = call.serverId) = true ∧ Spared call.faults 5

section Refused

variable {arithmetic : Scalar F32} {realText : F32 → String} {ties : TieOrder} {now : String}
  {serverId : Nat} {request : AgentHandshakeRequest} {report : VrpValidationReport}
  {database : ServerDatabase} {sent : List Outbound} {faults : List (Option String)}

/-- What a handshake in conflict does inside its transaction. -/
theorem storeAgentOutcome_of_conflict (conflict : report.alignmentStatus = .conflict) :
    storeAgentOutcome arithmetic realText ties now serverId request report = (do
      mapErr
        (fun error : ReputationError =>
          ApiError.internalServerError ("failed to log vrp outcome: " ++ error.text))
        (recordVrpOutcome now serverId request.pseudonymId "AI_AGENT" report)
      let _ ← mapErr
        (fun error : ReputationError =>
          ApiError.internalServerError ("failed to check reputation: " ++ error.text))
        (checkReputationScore arithmetic ties serverId request.pseudonymId)
      let updated ← deactivateConflictAgent serverId request.pseudonymId
      pure (if 0 < updated then
        some (.agentDisconnected request.pseudonymId
          "VRP handshake resulted in Conflict alignment")
      else none)) := by
  unfold storeAgentOutcome
  simp only [conflict]

theorem takes_storeAgentHandshake (conflict : report.alignmentStatus = .conflict) :
    Takes 5 (storeAgentHandshake arithmetic realText ties now serverId request report) := by
  unfold storeAgentHandshake
  rw [storeAgentOutcome_of_conflict conflict]
  have records : Takes 1 (mapErr
      (fun error : ReputationError =>
        ApiError.internalServerError ("failed to log vrp outcome: " ++ error.text))
      (recordVrpOutcome now serverId request.pseudonymId "AI_AGENT" report) :
        ServerSql ApiError Unit) :=
    takes_mapErr (takes_execute _ _)
  have checks : Takes 1 (mapErr
      (fun error : ReputationError =>
        ApiError.internalServerError ("failed to check reputation: " ++ error.text))
      (checkReputationScore arithmetic ties serverId request.pseudonymId) :
        ServerSql ApiError F32) :=
    takes_mapErr (takes_query _ _)
  have deactivates : Takes 1 (deactivateConflictAgent serverId request.pseudonymId) :=
    takes_statement _ _
  have body := takes_bind records fun _ => takes_bind checks fun _ =>
    takes_bind deactivates fun updated =>
      (takes_pure (if 0 < updated then
        some (Observe.EventPayload.agentDisconnected request.pseudonymId
          "VRP handshake resulted in Conflict alignment")
      else none) : Takes 0 (pure _ : ServerSql ApiError _))
  exact takes_transaction body

theorem recordVrpOutcome_achieves {peerPseudonym peerType : String}
    (known : database.servers.rows.any (·.id = serverId) = true) :
    Achieves (recordVrpOutcome now serverId peerPseudonym peerType report :
      Sql ServerDatabase (List Outbound) ReputationError Unit) database sent
        fun _ _ _ => True := by
  unfold Achieves recordVrpOutcome
  rw [execute_apply, if_pos known]
  exact ⟨(), _, sent, rfl, trivial⟩

/-- Without faults it goes through at every server there is. -/
theorem storeAgentHandshake_achieves (conflict : report.alignmentStatus = .conflict)
    (known : database.servers.rows.any (·.id = serverId) = true) :
    Achieves (storeAgentHandshake arithmetic realText ties now serverId request report) database
      sent fun _ _ _ => True := by
  unfold storeAgentHandshake
  rw [storeAgentOutcome_of_conflict conflict]
  apply achieves_transaction
  apply achieves_bind
  refine achieves_mono ?_ (achieves_mapErr (recordVrpOutcome_achieves known))
  intro _ recorded after _
  have scored : Answers (checkReputationScore arithmetic ties serverId request.pseudonymId :
      Sql ServerDatabase (List Outbound) ReputationError F32) recorded after _ :=
    answers_query.mpr rfl
  apply achieves_bind
  apply achieves_mapErr
  apply scored.achieves
  apply achieves_bind
  apply achieves_statement rfl
  exact achieves_pure trivial

/-- It goes through at no other. -/
theorem storeAgentHandshake_known :
    Ensures (storeAgentHandshake arithmetic realText ties now serverId request report) database
      sent fun result _ _ => ∀ event, result = .ok event →
        database.servers.rows.any (·.id = serverId) = true := by
  apply ensures_transaction
  · intro _ _ failed
    cases failed
  · unfold storeAgentOutcome
    apply ensures_bind
    apply ensures_mapErr
    apply ensures_execute
    · intro _ _ failed
      cases failed
    · intro changed written
      split at written
      · next known =>
        dsimp only [Except.mapError]
        rw [andThen_ok]
        intro faults
        split
        · exact ⟨fun _ _ => known, fun _ _ failed => by cases failed⟩
        · intro _ failed
          cases failed
      · cases written
    · intro _ _ _ failed
      cases failed

variable {environment : Environment} {clock : Option Nat} {policy : ServerPolicy}

/-- A handshake in conflict is answered just when its server exists and it is spared. -/
theorem agentHandshake_conflict_iff {timestamp : Nat} (conflict :
    (agentReport environment (.taken environment timestamp policy.principles
      policy.prohibitedActions) policy request.handshake).alignmentStatus = .conflict) :
    (∃ report after, agentHandshake environment realText ties (some timestamp) now serverId
        policy request ⟨database, sent, faults⟩ = (.ok report, after)) ↔
      database.servers.rows.any (·.id = serverId) = true ∧ Spared faults 5 := by
  rw [← agentHandshakeReport_eq] at conflict
  have takes := @takes_storeAgentHandshake environment.arithmetic realText ties now serverId
    request _ conflict
  unfold agentHandshake
  dsimp only [VrpAnchorSnapshot.new]
  rw [bind_apply, orElse_apply]
  dsimp only [Except.mapError]
  rw [bind_apply]
  constructor
  · intro answered
    rcases answered with ⟨report, after, answered⟩
    cases ran : storeAgentHandshake environment.arithmetic realText ties now serverId request
        (agentHandshakeReport environment (.taken environment timestamp policy.principles
          policy.prohibitedActions) policy request.handshake) ⟨database, sent, faults⟩ with
    | mk result stored =>
        rw [ran] at answered
        cases result with
        | error error => cases answered
        | ok event =>
            have known := @storeAgentHandshake_known environment.arithmetic realText ties now
              serverId request _ database sent faults event (congrArg Prod.fst ran)
            exact ⟨known, ((takes ..).mp ran).1⟩
  · intro goes
    rcases goes with ⟨known, spared⟩
    rcases @storeAgentHandshake_achieves environment.arithmetic realText ties now serverId
      request _ database sent conflict known with ⟨event, changed, after, ran, -⟩
    rw [(takes ..).mpr ⟨spared, rfl, ran⟩]
    exact ⟨_, _, rfl⟩

end Refused

/-! The runs. -/

section Runs

variable {environment : Environment} {realText : F32 → String} {database : ServerDatabase}
  {call : AgentCall}

def AllWritten (database : ServerDatabase) : Prop :=
  ∀ row ∈ database.agentRegistrations.rows, Written row

/-- An update is written as its report is. -/
theorem Written.foldl_agentAfter {serverId : Nat} (updates : List AgentUpdate)
    {row : AgentRegistration} (written : Written row) :
    Written (updates.foldl (agentAfter serverId) row) := by
  induction updates generalizing row with
  | nil => exact written
  | cons update rest induction =>
      apply induction
      unfold agentAfter
      split
      · rcases written with ⟨-, -, contract, -, -, isContract⟩
        exact ⟨update.report.alignmentStatus, update.report.transferScope, contract, rfl, rfl,
          isContract⟩
      · exact written

/-- The other steps keep what was written. -/
theorem AllWritten.step (written : AllWritten database)
    (unrefused : ¬ Refuses environment database call) :
    AllWritten (agentStep environment realText database call) := by
  rcases call with ⟨serverId, policy, request, clock, now, faults⟩
  cases request with
  | handshake request ties =>
      rcases @agentStep_handshake environment realText database serverId policy request ties clock
        now faults with unchanged | ⟨report, session, timestamp, ran, isReport, stored⟩
      · rw [unchanged]
        exact written
      · intro row member
        rcases stored with ⟨-, reputationScore, registers⟩ | ⟨conflict, deactivates⟩
        · have rows := congrArg PolicyTables.agentRegistrations registers
          change (agentStep ..).agentRegistrations = _ at rows
          rw [rows] at member
          rcases mem_withAgent member with own | other
          · exact ⟨_, _, _, own.2.shown.1, own.2.shown.2, own.2.contract⟩
          · exact written row other.2
        · have rows := congrArg PolicyTables.agentRegistrations deactivates
          change (agentStep ..).agentRegistrations = _ at rows
          rw [rows] at member
          rcases List.mem_map.mp member with ⟨old, oldMember, isRow⟩
          have other : isAgent serverId request.pseudonymId old = false := by
            by_contra own
            rw [Bool.not_eq_false] at own
            cases clock with
            | none => cases ran
            | some taken =>
                have conflicts : (agentReport environment (.taken environment taken
                    policy.principles policy.prohibitedActions) policy
                      request.handshake).alignmentStatus = .conflict := by
                  rw [isReport] at conflict
                  exact conflict
                have goes := (agentHandshake_conflict_iff conflicts).mp ⟨report, session, ran⟩
                exact unrefused ⟨request, ties, taken, rfl, rfl, conflicts,
                  List.any_eq_true.mpr ⟨old, oldMember, own⟩, goes⟩
          rw [if_neg (Bool.eq_false_iff.mp other)] at isRow
          rw [← isRow]
          exact written old oldMember
  | recalculate =>
      intro row member
      rcases @agentStep_recalculate environment realText database serverId policy clock now
        faults with unchanged | ⟨_, updates, -, tables⟩
      · have rows := congrArg PolicyTables.agentRegistrations unchanged
        change (agentStep ..).agentRegistrations = _ at rows
        rw [rows] at member
        exact written row member
      · have rows := congrArg PolicyTables.agentRegistrations tables
        change (agentStep ..).agentRegistrations =
          updatedAgents serverId updates database.agentRegistrations at rows
        rw [rows, rows_updatedAgents] at member
        rcases List.mem_map.mp member with ⟨old, oldMember, isRow⟩
        rw [← isRow]
        exact (written old oldMember).foldl_agentAfter updates
  | elsewhere changed => exact written

/-- The step that is refused leaves a status that nothing parses. -/
theorem Refuses.breaks (refuses : Refuses environment database call) :
    ∃ row ∈ (agentStep environment realText database call).agentRegistrations.rows,
      row.alignmentStatus = "Conflict" := by
  rcases call with ⟨serverId, policy, request, clock, now, faults⟩
  rcases refuses with ⟨request, ties, timestamp, isRequest, isClock, conflict, registered, goes⟩
  dsimp only at isRequest isClock conflict registered goes
  rw [isRequest, isClock]
  have ensured := @agentHandshake_ensures environment realText ties (some timestamp) now serverId
    policy request database [] faults
  rcases (@agentHandshake_conflict_iff realText ties now serverId request database [] faults
    environment policy timestamp conflict).mpr goes with ⟨report, after, ran⟩
  unfold agentStep
  dsimp only
  rw [ran] at ensured ⊢
  rcases ensured with ⟨other, isReport, stored⟩
  have conflicts : report.alignmentStatus = .conflict := by
    rw [isReport]
    exact conflict
  rcases stored with ⟨agreed, -⟩ | ⟨-, deactivates⟩
  · exact absurd conflicts agreed
  · rcases List.any_eq_true.mp registered with ⟨row, member, own⟩
    refine ⟨conflicted row, ?_, rfl⟩
    rw [show after.database.agentRegistrations =
      (database.tables.withConflict serverId request.pseudonymId).agentRegistrations
      from congrArg PolicyTables.agentRegistrations deactivates]
    exact List.mem_map.mpr ⟨row, member, if_pos own⟩

/-- Everybody can read every registration all along a run just when no step of it refuses an
agent that is registered. -/
theorem agents_readable_iff (environment : Environment) (realText : F32 → String)
    (start : ServerDatabase) (fresh : start.agentRegistrations = Table.empty)
    (calls : List AgentCall) :
    (∀ database : ServerDatabase,
      Execution.Visits (agentStep environment realText) start calls database →
        ∀ row ∈ database.agentRegistrations.rows,
          AgentReadable environment database.toDatabase row) ↔
      Execution.Guarded (agentStep environment realText)
        (fun database call => ¬ Refuses environment database call) start calls := by
  apply Execution.visits_iff_guarded
  · exact fun database written row member => Written.readable written member
  · exact fun database call written unrefused => AllWritten.step written unrefused
  · intro database call _ refused readable
    rcases (not_not.mp refused).breaks with ⟨row, member, broken⟩
    rcases (readable row member).status with ⟨status, parsed⟩
    rw [broken] at parsed
    cases parsed
  · intro row member
    rw [fresh] at member
    cases member

end Runs

section Sample

/-! An agent is accepted, the policy becomes stricter, and the agent shakes hands again. -/

def refusedAgain : List AgentCall :=
  acceptedBefore ++
    [⟨1, stricterPolicy, .handshake ⟨"agent-b", alignedHandshake []⟩ ⟨id, id⟩, some 1, "", []⟩]

/-- Before that it is registered, and everybody can read its registration. -/
theorem agents_readable_before :
    (Execution.run (agentStep sampleEnvironment fun _ => "0") agentsDatabase
        acceptedBefore).agentRegistrations.rows.length = 1 ∧
      ∀ database : ServerDatabase,
        Execution.Visits (agentStep sampleEnvironment fun _ => "0") agentsDatabase acceptedBefore
          database → ∀ row ∈ database.agentRegistrations.rows,
            AgentReadable sampleEnvironment database.toDatabase row := by
  refine ⟨by rfl, ?_⟩
  apply (agents_readable_iff sampleEnvironment (fun _ => "0") agentsDatabase rfl
    acceptedBefore).mpr
  refine ⟨?_, trivial⟩
  intro refuses
  rcases refuses with ⟨request, ties, timestamp, -, -, -, registered, -⟩
  cases registered

/-- Then its status does not parse. -/
theorem not_agents_readable :
    ¬ ∀ (start : ServerDatabase), start.agentRegistrations = Table.empty →
      ∀ calls, ∀ row ∈ (Execution.run (agentStep sampleEnvironment fun _ => "0") start
        calls).agentRegistrations.rows,
          ∃ status, VrpAlignmentStatus.fromStr row.alignmentStatus = .ok status := by
  intro readable
  have statuses : (Execution.run (agentStep sampleEnvironment fun _ => "0") agentsDatabase
      refusedAgain).agentRegistrations.rows.map (·.alignmentStatus) = ["Conflict"] := by rfl
  have stored := readable agentsDatabase rfl refusedAgain
  rcases List.map_eq_singleton_iff.mp statuses with ⟨row, rows, isStatus⟩
  rw [rows] at stored
  rcases stored row (List.mem_singleton_self row) with ⟨status, parsed⟩
  rw [isStatus] at parsed
  cases parsed

end Sample

end Annex.Server
