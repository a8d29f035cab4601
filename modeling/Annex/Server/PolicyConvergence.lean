import Annex.Server.AgentReevaluation

namespace Annex.Server

open Db Interleaving Observe Rtx Sql Vrp PolicyTables

/-! Policy updates at the same time. No lock is held from the transaction of an update to its
write to memory and to the evaluations, so that of two updates the one that was stored first
can be written, or evaluated, last. -/

namespace PolicyTables

/-- The policy is that of the server's row and of the server's last row in the history. -/
structure Stores (serverId : Nat) (policy : ServerPolicy) (tables : PolicyTables) : Prop where
  current : ∃ row ∈ tables.servers.rows, row.id = serverId ∧ row.policyJson = .encoded policy
  recorded : ∃ row, (tables.serverPolicyVersions.rows.filter
    (·.serverId = serverId)).getLast? = some row ∧ row.policyJson = .encoded policy

/-- The agents show their evaluations under the stored policy. -/
def EvaluatedAsStored (server : PolicyServer) (tables : PolicyTables) : Prop :=
  ∃ policy, tables.Stores server.serverId policy ∧
    tables.AgentsEvaluated server.environment server.serverId policy

theorem Stores.unique {serverId : Nat} {left right : ServerPolicy} {tables : PolicyTables}
    (leftStored : tables.Stores serverId left) (rightStored : tables.Stores serverId right) :
    left = right := by
  rcases leftStored.recorded with ⟨row, last, ofLeft⟩
  rcases rightStored.recorded with ⟨other, otherLast, ofRight⟩
  rw [last, Option.some.injEq] at otherLast
  rw [← otherLast, ofLeft, JsonText.encoded.injEq] at ofRight
  exact ofRight

/-- The updates of agents are no matter of the stored policy. -/
theorem stores_withUpdates {serverId : Nat} {policy : ServerPolicy} {tables : PolicyTables}
    {updates : List AgentUpdate} :
    (tables.withUpdates serverId updates).Stores serverId policy ↔
      tables.Stores serverId policy :=
  ⟨fun stored => ⟨stored.current, stored.recorded⟩, fun stored =>
    ⟨stored.current, stored.recorded⟩⟩

end PolicyTables

/-- Memory, the server's row and the history have one policy, and the agents show their
evaluations under it. -/
structure Converged (server : PolicyServer) (state : PolicyState) : Prop where
  stored : state.database.tables.Stores server.serverId state.policy
  evaluated : state.database.tables.AgentsEvaluated server.environment server.serverId
    state.policy

namespace Policies

/-- No request replaces the stored policy in memory by another, evaluates the agents under
another once they show their evaluations under the stored one, or fails to evaluate them
under the stored one. -/
def InOrder (server : PolicyServer) (state : Policies) : PolicyLabel → Prop
  | .start _ _ => True
  | .advance id input =>
      match state.calls id with
      | some (.publish request) =>
          state.shared.database.tables.Stores server.serverId state.shared.policy →
            state.shared.database.tables.Stores server.serverId request.newPolicy
      | some (.evaluateAgents _ policy) =>
          (state.shared.database.tables.EvaluatedAsStored server →
              state.shared.database.tables.Stores server.serverId policy) ∧
            (state.shared.database.tables.Stores server.serverId policy →
              ¬ state.shared.database.tables.EvaluatedAsStored server →
                Evaluable server.serverId input state.shared.database.tables)
      | _ => True

/-- The call will write the stored policy to memory. -/
def WillPublish (serverId : Nat) (tables : PolicyTables) : PolicyCall → Prop
  | .publish request => tables.Stores serverId request.newPolicy
  | _ => False

/-- The call will evaluate the agents under the policy in memory, or does so under the
stored one. -/
def WillEvaluate (serverId : Nat) (tables : PolicyTables) : PolicyCall → Prop
  | .publish request => tables.Stores serverId request.newPolicy
  | .readForAgents _ => True
  | .evaluateAgents _ policy => tables.Stores serverId policy
  | _ => False

/-- What memory and the agents lack, a call in progress will bring. -/
structure Settling (server : PolicyServer) (state : Policies) : Prop where
  memory : state.shared.database.tables.Stores server.serverId state.shared.policy ∨
    state.Pending (WillPublish server.serverId state.shared.database.tables)
  agents : state.shared.database.tables.EvaluatedAsStored server ∨
    state.Pending (WillEvaluate server.serverId state.shared.database.tables)

theorem willEvaluate_of_willPublish {serverId : Nat} {tables : PolicyTables}
    {call : PolicyCall} (publishes : WillPublish serverId tables call) :
    WillEvaluate serverId tables call := by
  cases call with
  | publish request => exact publishes
  | store request => exact publishes
  | readForAgents request => trivial
  | evaluateAgents request policy => cases publishes
  | disconnect request pseudonyms => exact publishes
  | readForAgreements request => exact publishes
  | evaluateAgreements request policy => exact publishes

/-- Where all calls have come to their end, nothing is lacking. -/
theorem Settling.converged {server : PolicyServer} {state : Policies}
    (settling : Settling server state) (isIdle : state.Idle) :
    Converged server state.shared := by
  have stored := settling.memory.resolve_right (isIdle.not_pending _)
  rcases settling.agents.resolve_right (isIdle.not_pending _) with
    ⟨policy, policyStored, evaluated⟩
  rw [policyStored.unique stored] at evaluated
  exact ⟨stored, evaluated⟩

section Store

variable {serverId : Nat}

/-- The row of the server and the new row of the history hold the policy. -/
theorem stores_insertPolicyVersion {versionId : String} {policy : ServerPolicy}
    {database changed : PolicyDatabase}
    (inserted : insertPolicyVersion serverId versionId policy
      (updateServerPolicy serverId policy database) = .ok changed) :
    changed.tables.Stores serverId policy ∧
      changed.tables.agentRegistrations = database.tables.agentRegistrations := by
  unfold insertPolicyVersion at inserted
  split at inserted
  · cases inserted
  · split at inserted
    · cases inserted
    · next known =>
      cases inserted
      refine ⟨⟨?_, ?_⟩, rfl⟩
      · rcases List.any_eq_true.mp (Bool.of_not_eq_false known) with ⟨row, member, same⟩
        refine ⟨row, member, by simpa using same, ?_⟩
        rcases List.mem_map.mp member with ⟨old, _, changed⟩
        rw [← changed] at same ⊢
        split
        · rfl
        · next other =>
          rw [if_neg other] at same
          exact absurd same other
      · refine ⟨⟨database.serverPolicyVersions.lastId + 1, serverId, versionId,
          .encoded policy⟩, ?_, rfl⟩
        simp [PolicyDatabase.tables, updateServerPolicy]

/-- An update stores its policy and leaves the agents alone, or does nothing. -/
theorem storePolicy_ensures (now : String) (request : PolicyRequest)
    {database : PolicyDatabase} {sent : List Outbound} :
    Ensures (storePolicy now serverId request) database sent fun result changed _ =>
      match result with
      | .ok _ => changed.tables.Stores serverId request.newPolicy ∧
          changed.tables.agentRegistrations = database.tables.agentRegistrations
      | .error _ => changed = database := by
  unfold storePolicy
  refine (looks_check _ _).ensures_bind (fun _ => rfl) fun _ _ => ?_
  refine (looks_connect _).ensures_bind (fun _ => rfl) fun _ _ => ?_
  refine ensures_transaction (fun _ => rfl) ?_
  refine ensures_bind (ensures_execute (fun _ => rfl) ?_ fun _ _ => rfl)
  intro updated written
  cases written
  rw [andThen_ok]
  refine ensures_bind (ensures_execute (fun _ => rfl) ?_ fun _ _ => rfl)
  intro inserted done
  rw [andThen_ok]
  have stored := stores_insertPolicyVersion done
  refine ensures_mono ?_ onDatabase_emitAndBroadcast_keeps.ensures
  intro result changed _ same
  cases result with
  | error error => rfl
  | ok _ =>
      dsimp only
      rw [same]
      exact ⟨stored, fun _ => rfl⟩

end Store

section Step

variable {server : PolicyServer} {state : Policies} {shared : PolicyState} {id : Nat}
  {next : Option PolicyCall}

/-- A step that leaves the policies and the agents alone, of a call that brings nothing. -/
theorem Settling.quiet (settling : Settling server state)
    (tables : shared.database.tables = state.shared.database.tables)
    (policy : shared.policy = state.shared.policy)
    (without : ∀ call, state.calls id = some call →
      ¬ WillEvaluate server.serverId state.shared.database.tables call) :
    Settling server ⟨shared, Function.update state.calls id next⟩ := by
  constructor
  · dsimp only
    rw [tables, policy]
    exact settling.memory.imp_right fun pending => pending.update
      (fun call found publishes => without call found (willEvaluate_of_willPublish publishes))
      fun _ publishes => publishes
  · dsimp only
    rw [tables]
    exact settling.agents.imp_right fun pending => pending.update without fun _ holds => holds

theorem settling_store {request : PolicyRequest}
    (stored : shared.database.tables.Stores server.serverId request.newPolicy)
    (continues : next = some (.publish request)) :
    Settling server ⟨shared, Function.update state.calls id next⟩ :=
  ⟨Or.inr (pending_next continues stored), Or.inr (pending_next continues stored)⟩

/-- A write to memory that replaces no stored policy, or by itself. -/
theorem Settling.publish {request : PolicyRequest} (settling : Settling server state)
    (found : state.calls id = some (.publish request))
    (keeps : state.shared.database.tables.Stores server.serverId state.shared.policy →
      state.shared.database.tables.Stores server.serverId request.newPolicy) :
    Settling server ⟨{ state.shared with policy := request.newPolicy },
      Function.update state.calls id (some (.readForAgents request))⟩ := by
  refine ⟨?_, Or.inr (pending_next rfl trivial)⟩
  by_cases own : state.shared.database.tables.Stores server.serverId request.newPolicy
  · exact Or.inl own
  · right
    exact (settling.memory.resolve_left (mt keeps own)).update (of_found found own)
      fun _ publishes => publishes

/-- The policy that is read is the stored one, or the stored one is still to be written. -/
theorem Settling.readForAgents {request : PolicyRequest} (settling : Settling server state)
    (found : state.calls id = some (.readForAgents request)) :
    Settling server ⟨state.shared, Function.update state.calls id
      (some (.evaluateAgents request state.shared.policy))⟩ := by
  have without : ∀ call, state.calls id = some call →
      ¬ WillPublish server.serverId state.shared.database.tables call :=
    of_found found not_false
  constructor
  · exact settling.memory.imp_right fun pending =>
      pending.update without fun _ publishes => publishes
  · right
    cases settling.memory with
    | inl stored => exact pending_next rfl stored
    | inr pending =>
        exact pending.update without fun _ publishes => willEvaluate_of_willPublish publishes

/-- An evaluation that undoes none under the stored policy, and succeeds where it is needed. -/
theorem Settling.evaluateAgents {request : PolicyRequest} {policy : ServerPolicy}
    {updates : List AgentUpdate} (settling : Settling server state)
    (found : state.calls id = some (.evaluateAgents request policy))
    (keeps : state.shared.database.tables.EvaluatedAsStored server →
      state.shared.database.tables.Stores server.serverId policy)
    (tables : shared.database.tables =
      state.shared.database.tables.withUpdates server.serverId updates)
    (samePolicy : shared.policy = state.shared.policy)
    (evaluated : shared.database.tables.AgentsEvaluated server.environment server.serverId
      policy) :
    Settling server ⟨shared, Function.update state.calls id next⟩ := by
  have stores : ∀ other, shared.database.tables.Stores server.serverId other ↔
      state.shared.database.tables.Stores server.serverId other := by
    intro other
    rw [tables]
    exact stores_withUpdates
  constructor
  · dsimp only
    rw [stores, samePolicy]
    refine settling.memory.imp_right fun pending =>
      pending.update (of_found found not_false) fun call publishes => ?_
    cases call with
    | publish request => exact (stores _).mpr publishes
    | _ => exact publishes
  · by_cases own : state.shared.database.tables.Stores server.serverId policy
    · exact Or.inl ⟨policy, (stores policy).mpr own, evaluated⟩
    · right
      refine (settling.agents.resolve_left (mt keeps own)).update (of_found found own)
        fun call evaluates => ?_
      cases call with
      | publish request => exact (stores _).mpr evaluates
      | evaluateAgents request policy => exact (stores _).mpr evaluates
      | _ => exact evaluates

/-- An evaluation that fails where it is not needed. -/
theorem Settling.failAgents {request : PolicyRequest} {policy : ServerPolicy}
    (settling : Settling server state)
    (found : state.calls id = some (.evaluateAgents request policy))
    (unneeded : state.shared.database.tables.Stores server.serverId policy →
      state.shared.database.tables.EvaluatedAsStored server)
    (database : shared.database = state.shared.database)
    (samePolicy : shared.policy = state.shared.policy) :
    Settling server ⟨shared, Function.update state.calls id next⟩ := by
  by_cases own : state.shared.database.tables.Stores server.serverId policy
  · constructor
    · dsimp only
      rw [database, samePolicy]
      exact settling.memory.imp_right fun pending =>
        pending.update (of_found found not_false) fun _ publishes => publishes
    · left
      dsimp only
      rw [database]
      exact unneeded own
  · exact settling.quiet (congrArg _ database) samePolicy (of_found found own)

end Step

/-- The agents are unique, and either everything settles or no update has been stored yet,
where it did not agree from the beginning. -/
structure Tracked (server : PolicyServer) (agreed : Prop) (versions : Nat)
    (state : Policies) : Prop where
  unique : state.shared.database.tables.UniqueAgents
  settling : Settling server state ∨
    ¬ agreed ∧ state.shared.database.serverPolicyVersions.lastId = versions

section Run

variable {server : PolicyServer} {agreed : Prop} {versions : Nat} {state : Policies}
  {shared : PolicyState} {id : Nat} {next : Option PolicyCall}

theorem Tracked.quiet (tracked : Tracked server agreed versions state)
    (tables : shared.database.tables = state.shared.database.tables)
    (policy : shared.policy = state.shared.policy)
    (without : ∀ call, state.calls id = some call →
      ¬ WillEvaluate server.serverId state.shared.database.tables call) :
    Tracked server agreed versions ⟨shared, Function.update state.calls id next⟩ := by
  constructor
  · dsimp only
    rw [tables]
    exact tracked.unique
  · refine tracked.settling.imp (fun settling => settling.quiet tables policy without)
      (And.imp_right fun same => ?_)
    exact (congrArg (fun tables => tables.serverPolicyVersions.lastId) tables).trans same

theorem Tracked.store {input : PolicyInput} {request : PolicyRequest}
    (tracked : Tracked server agreed versions state)
    (found : state.calls id = some (.store request))
    (acts : PolicyCall.act server id input state.shared (.store request) = (shared, next)) :
    Tracked server agreed versions ⟨shared, Function.update state.calls id next⟩ := by
  have stored := @storePolicy_ensures server.serverId input.now request
    state.shared.database state.shared.sent input.faults
  simp only [PolicyCall.act, PolicyState.session] at acts
  rcases ran : storePolicy input.now server.serverId request
    ⟨state.shared.database, state.shared.sent, input.faults⟩ with ⟨error | done, after⟩
  · rw [ran] at stored acts
    cases acts
    exact tracked.quiet (congrArg _ stored) rfl (of_found found not_false)
  · rw [ran] at stored acts
    cases acts
    refine ⟨?_, Or.inl (settling_store stored.1 rfl)⟩
    unfold UniqueAgents
    dsimp only [PolicyState.after]
    rw [stored.2]
    exact tracked.unique

theorem Tracked.evaluateAgents {input : PolicyInput} {request : PolicyRequest}
    {policy : ServerPolicy} (tracked : Tracked server agreed versions state)
    (found : state.calls id = some (.evaluateAgents request policy))
    (keeps : state.shared.database.tables.EvaluatedAsStored server →
      state.shared.database.tables.Stores server.serverId policy)
    (succeeds : state.shared.database.tables.Stores server.serverId policy →
      ¬ state.shared.database.tables.EvaluatedAsStored server →
        Evaluable server.serverId input state.shared.database.tables)
    (acts : PolicyCall.act server id input state.shared (.evaluateAgents request policy) =
      (shared, next)) :
    Tracked server agreed versions ⟨shared, Function.update state.calls id next⟩ := by
  have evaluated := @recalculateAgentAlignments_ensures server.environment server.serverId
    policy input.clock input.now state.shared.database state.shared.sent tracked.unique
    input.faults
  simp only [PolicyCall.act, PolicyState.session] at acts
  rcases ran : recalculateAgentAlignments server.environment input.clock input.now
    server.serverId policy ⟨state.shared.database, state.shared.sent, input.faults⟩ with
    ⟨error | pseudonyms, after⟩
  · rw [ran] at evaluated acts
    cases acts
    have unneeded (own : state.shared.database.tables.Stores server.serverId policy) :
        state.shared.database.tables.EvaluatedAsStored server := by
      by_contra needed
      rcases recalculateAgentAlignments_succeeds (succeeds own needed) with ⟨_, success⟩
      rw [ran] at success
      cases success
    refine ⟨?_, tracked.settling.imp (fun settling =>
      settling.failAgents found unneeded evaluated rfl) (And.imp_right fun same => ?_)⟩
    · dsimp only [PolicyState.after, PolicyState.answer]
      rw [evaluated]
      exact tracked.unique
    · exact (congrArg (fun database => database.serverPolicyVersions.lastId) evaluated).trans
        same
  · rw [ran] at evaluated acts
    cases acts
    rcases evaluated with ⟨updates, tables, shown⟩
    refine ⟨?_, tracked.settling.imp (fun settling =>
      settling.evaluateAgents found keeps tables rfl shown) (And.imp_right fun same => ?_)⟩
    · dsimp only [PolicyState.after]
      rw [tables]
      exact tracked.unique.withUpdates updates
    · exact (congrArg (fun tables => tables.serverPolicyVersions.lastId) tables).trans same

theorem Tracked.evaluateAgreements {input : PolicyInput} {request : PolicyRequest}
    {policy : ServerPolicy} (tracked : Tracked server agreed versions state)
    (found : state.calls id = some (.evaluateAgreements request policy))
    (acts : PolicyCall.act server id input state.shared (.evaluateAgreements request policy) =
      (shared, next)) :
    Tracked server agreed versions ⟨shared, Function.update state.calls id next⟩ := by
  have kept := @recalculateFederationAgreements_keeps server.environment input.clock input.now
    server.serverId policy _ (state.shared.session input) rfl
  simp only [PolicyCall.act] at acts
  split at acts <;>
  · cases acts
    exact tracked.quiet kept rfl (of_found found not_false)

/-- Every step in order keeps what is tracked. -/
theorem tracked_step (state : Policies) (label : PolicyLabel)
    (tracked : Tracked server agreed versions state) (ordered : InOrder server state label) :
    Tracked server agreed versions (step (policyProgram server) state label) := by
  refine step_invariant ?_ ?_ state label tracked ordered
  · intro state id request tracked free _
    apply tracked.quiet rfl rfl
    intro call found
    rw [free] at found
    cases found
  · intro state id call input shared next tracked found acts ordered
    simp only [InOrder, found] at ordered
    simp only [policyProgram, Option.some.injEq] at acts
    cases call with
    | store request => exact tracked.store found acts
    | publish request =>
        cases acts
        exact ⟨tracked.unique,
          tracked.settling.imp_left fun settling => settling.publish found ordered⟩
    | readForAgents request =>
        cases acts
        exact ⟨tracked.unique,
          tracked.settling.imp_left fun settling => settling.readForAgents found⟩
    | evaluateAgents request policy =>
        exact tracked.evaluateAgents found ordered.1 ordered.2 acts
    | disconnect request pseudonyms =>
        cases pseudonyms <;>
        · cases acts
          exact tracked.quiet rfl rfl (of_found found not_false)
    | readForAgreements request =>
        cases acts
        exact tracked.quiet rfl rfl (of_found found not_false)
    | evaluateAgreements request policy => exact tracked.evaluateAgreements found acts

end Run

/-- Updates at the same time converge where no step of theirs is out of order: whenever all
have completed, memory, the server's row and the history have one policy and the agents show
their evaluations under it, if this was so at the beginning or an update has been stored. -/
theorem converged_of_inOrder (server : PolicyServer) (database : PolicyDatabase)
    (policy : ServerPolicy) (labels : List PolicyLabel)
    (unique : database.tables.UniqueAgents)
    (ordered : Execution.Guarded (step (policyProgram server)) (InOrder server)
      (idle (.start database policy)) labels) :
    ∀ state, Execution.Visits (step (policyProgram server)) (idle (.start database policy))
      labels state → state.Idle →
        Converged server (.start database policy) ∨
          state.shared.database.serverPolicyVersions.lastId ≠
            database.serverPolicyVersions.lastId →
              Converged server state.shared := by
  intro state visited isIdle updated
  have begins : Tracked server (Converged server (.start database policy))
      database.serverPolicyVersions.lastId (idle (.start database policy)) := by
    refine ⟨unique, ?_⟩
    by_cases agreed : Converged server (.start database policy)
    · exact Or.inl ⟨Or.inl agreed.stored, Or.inl ⟨policy, agreed.stored, agreed.evaluated⟩⟩
    · exact Or.inr ⟨agreed, rfl⟩
  have tracked := Execution.visits_invariant_of_guarded _ tracked_step begins ordered state
    visited
  rcases tracked.settling with settling | ⟨apart, same⟩
  · exact settling.converged isIdle
  · rcases updated with agreed | stored
    · exact absurd agreed apart
    · exact absurd same stored

section Sample

open Federation

def policyServer : PolicyServer := ⟨sampleEnvironment, 1⟩

/-- A policy is stored, and an agent is aligned under it. -/
def agreedDatabase : PolicyDatabase where
  servers := singleServer
  agentRegistrations := Table.empty.insert fun id =>
    ⟨id, 1, "agent", "ALIGNED", "REFLECTION_SUMMARIES_ONLY", .encoded ⟨[], [], []⟩, "0", true⟩
  serverPolicyVersions := Table.empty.insert fun id => ⟨id, 1, "first", .encoded .default⟩
  anchorSnapshotJson := fun _ => some (.encoded ⟨emptyListHash, emptyListHash, 0, [], []⟩)

/-- A moderator's request for the default policy with or without voice. -/
def voiceRequest (voiceEnabled : Bool) (versionId : String) : PolicyRequest :=
  ⟨⟨1, 1, "moderator", "HUMAN", true, true, false, false, false, true⟩,
    { ServerPolicy.default with voiceEnabled }, versionId⟩

def advance (id : Nat) : PolicyLabel := .advance id ⟨"", some 0, []⟩

/-- One request alone. -/
def updateAlone : List PolicyLabel :=
  .start 0 (voiceRequest false "second") :: List.replicate 7 (advance 0)

/-- The request that is stored second is the first to write to memory. -/
def overtakingUpdates : List PolicyLabel :=
  [.start 0 (voiceRequest false "second"), .start 1 (voiceRequest true "third"),
    advance 0, advance 1, advance 1, advance 0] ++
    List.replicate 5 (advance 0) ++ List.replicate 5 (advance 1)

def policyRun (labels : List PolicyLabel) : Policies :=
  Execution.run (step (policyProgram policyServer)) (idle (.start agreedDatabase .default))
    labels

theorem agreedDatabase_uniqueAgents : agreedDatabase.tables.UniqueAgents := by
  intro left leftMember right rightMember _ _
  exact (List.mem_singleton.mp leftMember).trans (List.mem_singleton.mp rightMember).symm

/-- The second policy is stored, and nothing is in the way of the evaluation. -/
theorem inOrder_updateAlone : Execution.Guarded (step (policyProgram policyServer))
    (InOrder policyServer) (idle (.start agreedDatabase .default)) updateAlone := by
  have stored : (policyRun (updateAlone.take 2)).shared.database.tables.Stores 1
      (voiceRequest false "second").newPolicy :=
    ⟨⟨_, List.mem_singleton_self _, rfl, rfl⟩, ⟨_, rfl, rfl⟩⟩
  refine ⟨trivial, trivial, fun _ => stored, trivial, ⟨fun _ => stored, fun _ _ => ?_⟩,
    trivial, trivial, trivial, trivial⟩
  refine ⟨(fun absent => nomatch absent), ?_, ?_⟩
  · intro row member _ _ anchorJson anchored
    have same : row = ⟨1, 1, "agent", "ALIGNED", "REFLECTION_SUMMARIES_ONLY",
      .encoded ⟨[], [], []⟩, "0", true⟩ := List.mem_singleton.mp member
    rw [← Option.some.inj anchored, same]
    exact ⟨(fun absent => nomatch absent), fun absent => nomatch absent⟩
  · intro count faulty
    exact absurd (by simp [faultAt]) faulty

theorem converged_of_inOrder_alone : Converged policyServer (policyRun updateAlone).shared :=
  converged_of_inOrder policyServer agreedDatabase .default updateAlone
    agreedDatabase_uniqueAgents inOrder_updateAlone _ ⟨_, List.prefix_rfl, rfl⟩
    (@idle_run _ _ _ _ _ _ _ 1 (by decide) (by decide +kernel)) (Or.inr (by decide +kernel))

/-- Two moderators' updates, all of whose steps succeed, leave the policy of one in memory and
the policy of the other in the database. -/
theorem not_converged_overtaking :
    ¬ ∀ (server : PolicyServer) (database : PolicyDatabase) (policy : ServerPolicy)
      (labels : List PolicyLabel), database.tables.UniqueAgents →
        ∀ state, Execution.Visits (step (policyProgram server))
          (idle (.start database policy)) labels state → state.Idle →
            Converged server (.start database policy) ∨
              state.shared.database.serverPolicyVersions.lastId ≠
                database.serverPolicyVersions.lastId →
                  Converged server state.shared := by
  intro converges
  have ended : (policyRun overtakingUpdates).Idle :=
    @idle_run _ _ _ _ _ _ _ 2 (by decide) (by decide +kernel)
  have converged := converges policyServer agreedDatabase .default overtakingUpdates
    agreedDatabase_uniqueAgents _ ⟨_, List.prefix_rfl, rfl⟩ ended (Or.inr (by decide +kernel))
  have memory : (policyRun overtakingUpdates).shared.policy =
      (voiceRequest false "second").newPolicy := by decide +kernel
  have rows : (policyRun overtakingUpdates).shared.database.servers.rows =
      [⟨1, .encoded (voiceRequest true "third").newPolicy⟩] := by decide +kernel
  rcases converged.stored.current with ⟨row, member, _, same⟩
  have only : row ∈ (policyRun overtakingUpdates).shared.database.servers.rows := member
  rw [rows] at only
  rw [List.mem_singleton.mp only] at same
  have policies := (JsonText.encoded.inj same).trans memory
  exact absurd policies (by decide)

end Sample

end Policies

end Annex.Server
