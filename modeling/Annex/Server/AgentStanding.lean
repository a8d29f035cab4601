import Annex.Foundation.Execution
import Annex.Server.AgentRegistrations

namespace Annex.Server

open Db Federation Rtx Sql Vrp PolicyTables

/-! The handshakes of the agents against their re-evaluations, in the runs of all the servers
that share the database. -/

/-- The transaction of a handshake, the re-evaluation of a server's agents, or what any other
handler does to the rest of the database. -/
inductive AgentRequest where
  | handshake (request : AgentHandshakeRequest) (ties : TieOrder)
  | recalculate
  | elsewhere (changed : ServerDatabase)

/-- A request to one of the servers, under the policy it has then. -/
structure AgentCall where
  serverId : Nat
  policy : ServerPolicy
  request : AgentRequest
  clock : Option Nat
  now : String
  faults : List (Option String)

/-- The handshake of an agent, up to its commit. -/
def agentHandshake (environment : Environment) (realText : F32 → String) (ties : TieOrder)
    (clock : Option Nat) (now : String) (serverId : Nat) (policy : ServerPolicy)
    (request : AgentHandshakeRequest) : ServerSql ApiError VrpValidationReport := do
  let localAnchor ← orElse
    (VrpAnchorSnapshot.new environment clock policy.principles policy.prohibitedActions)
    fun error => .internalServerError ("failed to create anchor snapshot: " ++ error.text)
  let _ ← storeAgentHandshake environment.arithmetic realText ties now serverId request
    (agentHandshakeReport environment localAnchor policy request.handshake)
  pure (agentHandshakeReport environment localAnchor policy request.handshake)

/-- What a request leaves in the database. -/
def agentStep (environment : Environment) (realText : F32 → String) (database : ServerDatabase)
    (call : AgentCall) : ServerDatabase :=
  match call.request with
  | .handshake request ties =>
      (agentHandshake environment realText ties call.clock call.now call.serverId call.policy
        request ⟨database, [], call.faults⟩).2.database
  | .recalculate =>
      (onPolicies (recalculateAgentAlignments environment call.clock call.now call.serverId
        call.policy) ⟨database, [], call.faults⟩).2.database
  | .elsewhere changed =>
      { changed with
        agentRegistrations := database.agentRegistrations
        anchorSnapshotJson := database.anchorSnapshotJson }

section Handshake

variable {environment : Environment} {realText : F32 → String} {ties : TieOrder}
  {clock : Option Nat} {now : String} {serverId : Nat} {policy : ServerPolicy}
  {request : AgentHandshakeRequest} {database : ServerDatabase} {sent : List Outbound}

/-- The two ways to write down what the server offers an agent come to the same. -/
theorem agentHandshakeReport_eq (localAnchor : VrpAnchorSnapshot)
    (handshake : VrpFederationHandshake) :
    agentHandshakeReport environment localAnchor policy handshake =
      agentReport environment localAnchor policy handshake := by
  have contract : agentContract policy = reevaluationContract policy := by
    unfold agentContract reevaluationContract
    rw [List.append_assoc _ ["TEXT"]]
    rfl
  unfold agentHandshakeReport agentReport
  rw [contract]
  rfl

/-- A handshake stores its agent under the report it is answered with, or does nothing. -/
theorem agentHandshake_ensures :
    Ensures (agentHandshake environment realText ties clock now serverId policy request)
      database sent fun result changed _ =>
        match result with
        | .ok report => ∃ timestamp, report = agentReport environment (.taken environment
              timestamp policy.principles policy.prohibitedActions) policy request.handshake ∧
            AgentStored serverId request report database.tables changed.tables
        | .error _ => changed = database := by
  apply ensures_bind
  apply ensures_orElse
  · intro localAnchor taken
    rw [andThen_ok]
    apply ensures_bind
    refine ensures_mono ?_ storeAgentHandshake_ensures
    intro result changed _ stored
    cases result with
    | error error => exact stored
    | ok event =>
        rw [andThen_ok, ensures_pure]
        cases clock with
        | none => cases taken
        | some timestamp =>
            cases taken
            exact ⟨timestamp, agentHandshakeReport_eq _ _, stored⟩
  · exact fun _ _ => rfl

end Handshake

section Recalculate

variable {environment : Environment} {serverId : Nat} {policy : ServerPolicy}
  {database : PolicyDatabase} {sent : List Outbound}

/-- The registered agent is left as it is by every re-evaluation of the server under the
policy, and not disconnected. -/
def Undisturbed (environment : Environment) (serverId : Nat) (policy : ServerPolicy)
    (pseudonymId : String) (database : PolicyDatabase) : Prop :=
  (∃ row ∈ database.agentRegistrations.rows, isAgent serverId pseudonymId row = true) ∧
    ∀ row ∈ database.agentRegistrations.rows, isAgent serverId pseudonymId row = true →
      ∀ clock now sent faults,
        row ∈ (recalculateAgentAlignments environment clock now serverId policy
          ⟨database, sent, faults⟩).2.database.agentRegistrations.rows ∧
        ∀ pseudonyms, (recalculateAgentAlignments environment clock now serverId policy
            ⟨database, sent, faults⟩).1 = .ok pseudonyms → pseudonymId ∉ pseudonyms

/-- Who is disconnected has its update. -/
theorem mem_agentsToDisconnect {updates : List AgentUpdate} {pseudonymId : String} :
    pseudonymId ∈ agentsToDisconnect updates ↔
      ∃ update ∈ updates, update.active = false ∧ update.pseudonymId = pseudonymId := by
  simp [agentsToDisconnect, and_assoc]

/-- An agent whose evaluation brings nothing new is left alone. -/
theorem kept_of_settled (unique : database.tables.UniqueAgents) {row : AgentRegistration}
    (member : row ∈ database.agentRegistrations.rows) (server : row.serverId = serverId)
    (settled : ∀ timestamp, reevaluateAgent environment (.taken environment timestamp
      policy.principles policy.prohibitedActions) policy row
        (database.anchorSnapshotJson row.id) = .ok none) (clock : Option Nat) (now : String)
    (faults : List (Option String)) :
    row ∈ (recalculateAgentAlignments environment clock now serverId policy
        ⟨database, sent, faults⟩).2.database.agentRegistrations.rows ∧
      ∀ pseudonyms, (recalculateAgentAlignments environment clock now serverId policy
          ⟨database, sent, faults⟩).1 = .ok pseudonyms → row.pseudonymId ∉ pseudonyms := by
  have updated := @recalculateAgentAlignments_updates environment serverId policy clock now
    database sent faults
  cases ran : recalculateAgentAlignments environment clock now serverId policy
      ⟨database, sent, faults⟩ with
  | mk result after =>
  rw [ran] at updated
  cases result with
  | error error =>
      rw [show after.database = database from updated]
      exact ⟨member, fun _ failed => nomatch failed⟩
  | ok found =>
      rcases updated with ⟨timestamp, updates, collected, tables, isFound⟩
      have others : ∀ update ∈ updates, row.pseudonymId ≠ update.pseudonymId := by
        intro update updateMember same
        have own := (own_agentUpdate unique collected member server updateMember same).2
        rw [settled timestamp] at own
        cases own
      constructor
      · have rows : after.database.agentRegistrations =
            updatedAgents serverId updates database.agentRegistrations :=
          congrArg PolicyTables.agentRegistrations tables
        rw [rows, rows_updatedAgents]
        refine List.mem_map.mpr ⟨row, member, ?_⟩
        exact foldl_agentAfter_other serverId fun update updateMember _ =>
          others update updateMember
      · intro pseudonyms same
        rw [← Except.ok.inj same, isFound]
        intro disconnected
        rcases mem_agentsToDisconnect.mp disconnected with ⟨update, updateMember, -, named⟩
        exact others update updateMember named.symm

/-- An agent that shows the outcome of its stored handshake has nothing new to come. -/
theorem settled_of_shows {row : AgentRegistration} {handshake : VrpFederationHandshake}
    {localAnchor : VrpAnchorSnapshot}
    (anchored : database.anchorSnapshotJson row.id = some (.encoded handshake.anchorSnapshot))
    (contract : row.capabilityContractJson = .encoded handshake.capabilityContract)
    (shown : Shows (agentReport environment localAnchor policy handshake) row) :
    reevaluateAgent environment localAnchor policy row (database.anchorSnapshotJson row.id) =
      .ok none := by
  rw [anchored]
  unfold reevaluateAgent
  dsimp only [JsonText.decode]
  rw [contract]
  dsimp only
  rw [if_neg]
  rw [not_or, not_not, not_not]
  exact ⟨shown.1.symm, shown.2.symm⟩

/-- The agent's stored handshake is in conflict with the policy. -/
def InConflict (environment : Environment) (policy : ServerPolicy)
    (anchorJson : Option (JsonText VrpAnchorSnapshot)) (row : AgentRegistration) : Prop :=
  ∃ text anchor contract, anchorJson = some text ∧ text.decode = some anchor ∧
    row.capabilityContractJson.decode = some contract ∧
      ∀ timestamp, (agentReport environment (.taken environment timestamp policy.principles
        policy.prohibitedActions) policy ⟨anchor, contract⟩).alignmentStatus = .conflict

/-- What a re-evaluation that succeeds leaves, and whom it disconnects. -/
structure Evaluates (environment : Environment) (serverId : Nat) (policy : ServerPolicy)
    (before after : PolicyDatabase) (disconnected : List String) : Prop where
  agreed : ∀ row ∈ after.agentRegistrations.rows, row.serverId = serverId →
    row.active = true → ∀ anchorJson, after.anchorSnapshotJson row.id = some anchorJson →
      row.alignmentStatus ≠ "CONFLICT" ∧ Evaluated environment policy anchorJson row
  conflicting : ∀ pseudonymId ∈ disconnected, ∃ row ∈ before.agentRegistrations.rows,
    isAgent serverId pseudonymId row = true ∧
      InConflict environment policy (before.anchorSnapshotJson row.id) row

theorem inConflict_of_update {localAnchor : Nat} {row : AgentRegistration}
    {anchorJson : Option (JsonText VrpAnchorSnapshot)} {update : AgentUpdate}
    (evaluated : reevaluateAgent environment (.taken environment localAnchor policy.principles
      policy.prohibitedActions) policy row anchorJson = .ok (some update))
    (ended : update.active = false) : InConflict environment policy anchorJson row := by
  cases anchorJson with
  | none => cases evaluated
  | some text =>
      rcases reevaluateAgent_anchored evaluated with
        ⟨anchor, contract, anchorRead, contractRead, -, ofUpdate⟩
      rcases ofUpdate update rfl with ⟨-, isReport, ending⟩
      refine ⟨text, anchor, contract, rfl, anchorRead, contractRead, ?_⟩
      intro timestamp
      rw [ended, isReport] at ending
      exact not_not.mp (of_decide_eq_false ending.symm)

theorem evaluates_of_recalculated {clock : Option Nat} {now : String}
    {faults : List (Option String)} {after : Session PolicyDatabase (List Outbound)}
    {disconnected : List String} (sound : database.tables.AgentsSound)
    (ran : recalculateAgentAlignments environment clock now serverId policy
      ⟨database, sent, faults⟩ = (.ok disconnected, after)) :
    Evaluates environment serverId policy database after.database disconnected := by
  have updated := @recalculateAgentAlignments_updates environment serverId policy clock now
    database sent faults
  rw [ran] at updated
  rcases updated with ⟨timestamp, updates, collected, tables, isDisconnected⟩
  constructor
  · intro row member server active anchorJson anchored
    have ending : ∀ update ∈ updates,
        update.active = decide (update.report.alignmentStatus ≠ .conflict) := by
      intro update updateMember
      rcases source_of_agentUpdate collected updateMember with ⟨_, _, _, _, _, ending, _⟩
      exact ending
    have kept := @AgentsSound.withUpdates serverId _ updates sound ending
    have evaluated := agentsEvaluated_withUpdates sound.unique collected
    rw [← tables] at kept evaluated
    exact ⟨kept.agreed row member active, evaluated row member server active anchorJson anchored⟩
  · intro pseudonymId member
    rw [isDisconnected] at member
    rcases mem_agentsToDisconnect.mp member with ⟨update, updateMember, ended, named⟩
    rcases source_of_agentUpdate collected updateMember with
      ⟨row, stored, -, server, same, -, evaluated⟩
    exact ⟨row, stored, isAgent_iff.mpr ⟨server, same.symm.trans named⟩,
      inConflict_of_update evaluated ended⟩

end Recalculate

section Runs

variable {environment : Environment} {realText : F32 → String}

/-- A handshake stores its agent under the report it is answered with, or does nothing. -/
theorem agentStep_handshake (database : ServerDatabase) (serverId : Nat) (policy : ServerPolicy)
    (request : AgentHandshakeRequest) (ties : TieOrder) (clock : Option Nat) (now : String)
    (faults : List (Option String)) :
    let after := agentStep environment realText database
      ⟨serverId, policy, .handshake request ties, clock, now, faults⟩
    after = database ∨
      ∃ report session timestamp,
        agentHandshake environment realText ties clock now serverId policy request
          ⟨database, [], faults⟩ = (.ok report, session) ∧
        report = agentReport environment (.taken environment timestamp policy.principles
          policy.prohibitedActions) policy request.handshake ∧
        AgentStored serverId request report database.tables after.tables := by
  have ensured := @agentHandshake_ensures environment realText ties clock now serverId
    policy request database [] faults
  unfold agentStep
  dsimp only
  cases ran : agentHandshake environment realText ties clock now serverId policy request
      ⟨database, [], faults⟩ with
  | mk result session =>
      rw [ran] at ensured
      cases result with
      | error error => exact Or.inl ensured
      | ok report =>
          rcases ensured with ⟨timestamp, isReport, stored⟩
          exact Or.inr ⟨report, session, timestamp, rfl, isReport, stored⟩

/-- A re-evaluation stores what it makes of the active agents, or does nothing. -/
theorem agentStep_recalculate (database : ServerDatabase) (serverId : Nat)
    (policy : ServerPolicy) (clock : Option Nat) (now : String) (faults : List (Option String)) :
    let after := agentStep environment realText database
      ⟨serverId, policy, .recalculate, clock, now, faults⟩
    after.tables = database.tables ∨
      ∃ timestamp updates,
        agentUpdates environment (.taken environment timestamp policy.principles
          policy.prohibitedActions) policy (activeAgents serverId database.toPolicyDatabase) =
            .ok updates ∧
        after.tables = database.tables.withUpdates serverId updates := by
  have updated := @recalculateAgentAlignments_updates environment serverId policy clock now
    database.toPolicyDatabase [] faults
  change (recalculateAgentAlignments environment clock now serverId policy
      ⟨database.toPolicyDatabase, [], faults⟩).2.database.tables = _ ∨ ∃ timestamp updates, _ ∧
    (recalculateAgentAlignments environment clock now serverId policy
      ⟨database.toPolicyDatabase, [], faults⟩).2.database.tables = _
  cases ran : recalculateAgentAlignments environment clock now serverId policy
      ⟨database.toPolicyDatabase, [], faults⟩ with
  | mk result session =>
      rw [ran] at updated
      cases result with
      | error error => exact Or.inl (congrArg PolicyDatabase.tables updated)
      | ok disconnected =>
          rcases updated with ⟨timestamp, updates, collected, tables, -⟩
          exact Or.inr ⟨timestamp, updates, collected, tables⟩

/-- A run keeps the registrations sound. -/
theorem agentStep_sound {database : ServerDatabase} {call : AgentCall}
    (sound : database.tables.AgentsSound) :
    (agentStep environment realText database call).tables.AgentsSound := by
  rcases call with ⟨serverId, policy, request, clock, now, faults⟩
  cases request with
  | handshake request ties =>
      rcases @agentStep_handshake environment realText database serverId policy request ties clock
        now faults with unchanged | ⟨_, _, _, -, -, stored⟩
      · rw [unchanged]
        exact sound
      · exact sound.stored stored
  | recalculate =>
      rcases @agentStep_recalculate environment realText database serverId policy clock now
        faults with unchanged | ⟨_, updates, collected, tables⟩
      · rw [unchanged]
        exact sound
      · rw [tables]
        apply AgentsSound.withUpdates sound
        intro update updateMember
        rcases source_of_agentUpdate collected updateMember with ⟨_, _, _, _, _, ending, _⟩
        exact ending
  | elsewhere changed => exact ⟨sound.unique, sound.agreed⟩

theorem sound_of_run {start : ServerDatabase} (fresh : start.agentRegistrations = Table.empty)
    (calls : List AgentCall) :
    (Execution.run (agentStep environment realText) start calls).tables.AgentsSound := by
  have none : start.tables.agentRegistrations.rows = [] := by
    rw [show start.tables.agentRegistrations = Table.empty from fresh]
    rfl
  have sound : start.tables.AgentsSound := by
    constructor
    · intro left member
      rw [none] at member
      cases member
    · intro row member
      rw [none] at member
      cases member
  exact Execution.run_invariant (fun database : ServerDatabase => database.tables.AgentsSound)
    (fun _ _ => agentStep_sound) sound calls

/-- In every run, an agent whose handshake was accepted is left alone by the re-evaluations
under the same policy, and a re-evaluation leaves every active agent of its server with the
outcome of its stored handshake, and disconnects only agents whose own is in conflict. -/
theorem agent_evaluations_agree (environment : Environment) (realText : F32 → String)
    (start : ServerDatabase) (fresh : start.agentRegistrations = Table.empty)
    (calls : List AgentCall) :
    (∀ ties clock now serverId policy request sent faults report
      (after : Session ServerDatabase (List Outbound)),
      agentHandshake environment realText ties clock now serverId policy request
          ⟨Execution.run (agentStep environment realText) start calls, sent, faults⟩ =
            (.ok report, after) →
        report.alignmentStatus ≠ .conflict →
          ∀ later : PolicyDatabase,
            later.agentRegistrations = after.database.agentRegistrations →
              later.anchorSnapshotJson = after.database.anchorSnapshotJson →
                Undisturbed environment serverId policy request.pseudonymId later) ∧
      ∀ clock now serverId policy sent faults disconnected
        (after : Session PolicyDatabase (List Outbound)),
        recalculateAgentAlignments environment clock now serverId policy
            ⟨(Execution.run (agentStep environment realText) start calls).toPolicyDatabase,
              sent, faults⟩ = (.ok disconnected, after) →
          Evaluates environment serverId policy
            (Execution.run (agentStep environment realText) start calls).toPolicyDatabase
            after.database disconnected := by
  have sound := @sound_of_run environment realText start fresh calls
  constructor
  · intro ties clock now serverId policy request sent faults report after accepted agreed later
      sameRows sameAnchors
    have ensured := @agentHandshake_ensures environment realText ties clock now serverId policy
      request (Execution.run (agentStep environment realText) start calls) sent faults
    rw [accepted] at ensured
    rcases ensured with ⟨timestamp, isReport, stored⟩
    have kept := sound.stored stored
    rcases stored with ⟨-, reputationScore, tables⟩ | ⟨conflict, -⟩
    · rw [tables] at kept
      have rows : later.agentRegistrations =
          ((Execution.run (agentStep environment realText) start calls).tables.withAgent serverId
            request report reputationScore).agentRegistrations := by
        rw [sameRows, ← tables]
        rfl
      have anchors : later.anchorSnapshotJson =
          ((Execution.run (agentStep environment realText) start calls).tables.withAgent serverId
            request report reputationScore).anchorSnapshotJson := by
        rw [sameAnchors, ← tables]
        rfl
      have unique : later.tables.UniqueAgents := by
        have unique := kept.unique
        unfold UniqueAgents at unique ⊢
        rw [show later.tables.agentRegistrations = later.agentRegistrations from rfl, rows]
        exact unique
      constructor
      · rw [rows]
        exact exists_withAgent
      · intro row member own clock now sent faults
        have parts := isAgent_iff.mp own
        have presented := member
        rw [rows] at presented
        rcases mem_withAgent presented with registered | other
        · have left := @kept_of_settled environment serverId policy later sent unique row member
            parts.1 ?_ clock now faults
          · rw [← parts.2]
            exact left
          · intro later
            apply settled_of_shows _ registered.2.contract
            · have shown := registered.2.shown
              rw [isReport] at shown
              exact shown
            · rw [anchors]
              exact anchor_withAgent presented own
        · rw [own] at other
          cases other.1
    · exact absurd conflict agreed
  · intro clock now serverId policy sent faults disconnected after ran
    exact evaluates_of_recalculated sound ran

end Runs

section Sample

/-! An agent is accepted, the policy becomes stricter, and another agent is accepted. -/

def agentsDatabase : ServerDatabase where
  servers := singleServer

def stricterPolicy : ServerPolicy :=
  { samplePolicy with prohibitedActions := ["surveillance"] }

def acceptedBefore : List AgentCall :=
  [⟨1, samplePolicy, .handshake ⟨"agent-b", alignedHandshake []⟩ ⟨id, id⟩, some 0, "", []⟩]

def stricterHandshake :
    Except ApiError VrpValidationReport × Session ServerDatabase (List Outbound) :=
  agentHandshake sampleEnvironment (fun _ => "0") ⟨id, id⟩ (some 1) "" 1 stricterPolicy
    ⟨"agent-a", conflictingHandshake⟩
    ⟨Execution.run (agentStep sampleEnvironment fun _ => "0") agentsDatabase acceptedBefore, [],
      []⟩

theorem stricterHandshake_eq :
    stricterHandshake =
      (.ok ⟨.aligned, .reflectionSummariesOnly, F32.one, []⟩, stricterHandshake.2) :=
  Prod.ext (by rfl) rfl

/-- The second agent is left alone. -/
theorem agent_evaluations_agree_stricter :
    Undisturbed sampleEnvironment 1 stricterPolicy "agent-a"
      stricterHandshake.2.database.toPolicyDatabase :=
  (agent_evaluations_agree sampleEnvironment (fun _ => "0") agentsDatabase rfl
    acceptedBefore).1 _ _ _ _ _ _ _ _ _ _ stricterHandshake_eq (by decide) _ rfl rfl

/-- The re-evaluation disconnects the first agent. -/
theorem not_disconnects_nobody :
    ¬ ∀ (start : ServerDatabase), start.agentRegistrations = Table.empty →
      ∀ (calls : List AgentCall) ties clock now serverId policy request report
        (after : Session ServerDatabase (List Outbound)),
        agentHandshake sampleEnvironment (fun _ => "0") ties clock now serverId policy request
            ⟨Execution.run (agentStep sampleEnvironment fun _ => "0") start calls, [], []⟩ =
              (.ok report, after) →
          report.alignmentStatus ≠ .conflict →
            ∀ disconnected, (recalculateAgentAlignments sampleEnvironment clock now serverId
                policy ⟨after.database.toPolicyDatabase, [], []⟩).1 = .ok disconnected →
              disconnected = [] := by
  intro nobody
  have disconnects : (recalculateAgentAlignments sampleEnvironment (some 1) "" 1 stricterPolicy
      ⟨stricterHandshake.2.database.toPolicyDatabase, [], []⟩).1 = .ok ["agent-b"] := by rfl
  have none := nobody agentsDatabase rfl acceptedBefore _ _ _ _ _ _ _ _ stricterHandshake_eq
    (by decide) _ disconnects
  cases none

end Sample

end Annex.Server
