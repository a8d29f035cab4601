import Annex.Foundation.Collect
import Annex.Server.PolicyUpdate

namespace Annex.Server

open Db Observe Rtx Sql Vrp

/-! What the evaluation of the agents leaves behind: every active agent with an anchor shows
the status and the scope its handshake has under the policy. -/

/-- The tables the policy requests work on. -/
structure PolicyTables where
  servers : Table Db.Server
  agentRegistrations : Table AgentRegistration
  serverPolicyVersions : Table ServerPolicyVersion
  anchorSnapshotJson : Nat → Option (JsonText VrpAnchorSnapshot)

def PolicyDatabase.tables (database : PolicyDatabase) : PolicyTables :=
  ⟨database.servers, database.agentRegistrations, database.serverPolicyVersions,
    database.anchorSnapshotJson⟩

/-- The agent shows the outcome of the report. -/
def Shows (report : VrpValidationReport) (row : AgentRegistration) : Prop :=
  row.alignmentStatus = report.alignmentStatus.toString ∧
    row.transferScope = report.transferScope.toString

/-- The agent's stored handshake parses, and the agent shows its evaluation under the policy,
whenever the policy's own anchor is taken. -/
def Evaluated (environment : Environment) (policy : ServerPolicy)
    (anchorJson : JsonText VrpAnchorSnapshot) (row : AgentRegistration) : Prop :=
  ∃ anchor contract, anchorJson.decode = some anchor ∧
    row.capabilityContractJson.decode = some contract ∧
      ∀ timestamp, Shows (agentReport environment (.taken environment timestamp
        policy.principles policy.prohibitedActions) policy ⟨anchor, contract⟩) row

namespace PolicyTables

/-- Every active agent of the server with an anchor shows its evaluation. -/
def AgentsEvaluated (environment : Environment) (serverId : Nat) (policy : ServerPolicy)
    (tables : PolicyTables) : Prop :=
  ∀ row ∈ tables.agentRegistrations.rows, row.serverId = serverId → row.active = true →
    ∀ anchorJson, tables.anchorSnapshotJson row.id = some anchorJson →
      Evaluated environment policy anchorJson row

/-- `UNIQUE (server_id, pseudonym_id)`. -/
def UniqueAgents (tables : PolicyTables) : Prop :=
  ∀ left ∈ tables.agentRegistrations.rows, ∀ right ∈ tables.agentRegistrations.rows,
    left.serverId = right.serverId → left.pseudonymId = right.pseudonymId → left = right

/-- The stored handshakes of the server's active agents parse. -/
def Readable (serverId : Nat) (tables : PolicyTables) : Prop :=
  ∀ row ∈ tables.agentRegistrations.rows, row.serverId = serverId → row.active = true →
    ∀ anchorJson, tables.anchorSnapshotJson row.id = some anchorJson →
      anchorJson.decode ≠ none ∧ row.capabilityContractJson.decode ≠ none

end PolicyTables

open PolicyTables

section Collect

variable {environment : Environment} {localAnchor : VrpAnchorSnapshot}
  {policy : ServerPolicy}

/-- An agent with an anchor is evaluated as its handshake is. -/
theorem reevaluateAgent_anchored {row : AgentRegistration}
    {anchorJson : JsonText VrpAnchorSnapshot} {outcome : Option AgentUpdate}
    (evaluated : reevaluateAgent environment localAnchor policy row (some anchorJson) =
      .ok outcome) :
    ∃ anchor contract, anchorJson.decode = some anchor ∧
      row.capabilityContractJson.decode = some contract ∧
        (outcome = none →
          Shows (agentReport environment localAnchor policy ⟨anchor, contract⟩) row) ∧
        ∀ update, outcome = some update → update.pseudonymId = row.pseudonymId ∧
          update.report = agentReport environment localAnchor policy ⟨anchor, contract⟩ ∧
            update.active = decide (update.report.alignmentStatus ≠ .conflict) := by
  unfold reevaluateAgent at evaluated
  dsimp only at evaluated
  split at evaluated
  · cases evaluated
  · next anchor anchorRead =>
    split at evaluated
    · cases evaluated
    · next contract contractRead =>
      refine ⟨anchor, contract, anchorRead, contractRead, ?_⟩
      split at evaluated
      · cases evaluated
        refine ⟨(fun absent => nomatch absent), ?_⟩
        intro update same
        cases same
        exact ⟨rfl, rfl, rfl⟩
      · next unchanged =>
        cases evaluated
        rw [not_or, not_not, not_not] at unchanged
        exact ⟨(fun _ => ⟨unchanged.1.symm, unchanged.2.symm⟩), fun _ same => nomatch same⟩

theorem agentUpdates_eq_collect
    (rows : List (AgentRegistration × Option (JsonText VrpAnchorSnapshot))) :
    agentUpdates environment localAnchor policy rows =
      collect (fun pair => reevaluateAgent environment localAnchor policy pair.1 pair.2)
        rows := by
  induction rows with
  | nil => rfl
  | cons pair rest induction =>
      rw [agentUpdates, collect, induction]
      cases reevaluateAgent environment localAnchor policy pair.1 pair.2 with
      | error error => rfl
      | ok outcome =>
          cases collect
            (fun pair => reevaluateAgent environment localAnchor policy pair.1 pair.2) rest <;> rfl

theorem reevaluateAgent_of_readable {row : AgentRegistration}
    {anchorJson : Option (JsonText VrpAnchorSnapshot)}
    (readable : ∀ text, anchorJson = some text →
      text.decode ≠ none ∧ row.capabilityContractJson.decode ≠ none) :
    ∃ outcome, reevaluateAgent environment localAnchor policy row anchorJson = .ok outcome := by
  cases anchorJson with
  | none => exact ⟨none, rfl⟩
  | some text =>
      rcases readable text rfl with ⟨anchorReads, contractReads⟩
      rcases Option.ne_none_iff_exists'.mp anchorReads with ⟨anchor, anchorRead⟩
      rcases Option.ne_none_iff_exists'.mp contractReads with ⟨contract, contractRead⟩
      simp only [reevaluateAgent, anchorRead, contractRead]
      split
      · exact ⟨_, rfl⟩
      · exact ⟨_, rfl⟩

end Collect

section Apply

variable (serverId : Nat)

/-- An agent after an update, which is its own or not. -/
def agentAfter (row : AgentRegistration) (update : AgentUpdate) : AgentRegistration :=
  if row.serverId = serverId && row.pseudonymId = update.pseudonymId then update.change row
  else row

/-- The agents after all updates. -/
def updatedAgents (updates : List AgentUpdate) (registrations : Table AgentRegistration) :
    Table AgentRegistration :=
  updates.foldl (fun registrations update => updateAgent serverId update registrations)
    registrations

theorem rows_updatedAgents (updates : List AgentUpdate)
    (registrations : Table AgentRegistration) :
    (updatedAgents serverId updates registrations).rows =
      registrations.rows.map fun row => updates.foldl (agentAfter serverId) row := by
  induction updates generalizing registrations with
  | nil => simp [updatedAgents]
  | cons update rest induction =>
      refine (induction (updateAgent serverId update registrations)).trans ?_
      rw [updateAgent, Table.rows_updateWhere, List.map_map]
      rfl

/-- No update touches who an agent is and what it has presented. -/
theorem foldl_agentAfter_keeps (updates : List AgentUpdate) (row : AgentRegistration) :
    (updates.foldl (agentAfter serverId) row).id = row.id ∧
      (updates.foldl (agentAfter serverId) row).serverId = row.serverId ∧
      (updates.foldl (agentAfter serverId) row).pseudonymId = row.pseudonymId ∧
      (updates.foldl (agentAfter serverId) row).capabilityContractJson =
        row.capabilityContractJson := by
  induction updates generalizing row with
  | nil => exact ⟨rfl, rfl, rfl, rfl⟩
  | cons update rest induction =>
      have first : (agentAfter serverId row update).id = row.id ∧
          (agentAfter serverId row update).serverId = row.serverId ∧
          (agentAfter serverId row update).pseudonymId = row.pseudonymId ∧
          (agentAfter serverId row update).capabilityContractJson =
            row.capabilityContractJson := by
        unfold agentAfter
        split <;> exact ⟨rfl, rfl, rfl, rfl⟩
      rw [List.foldl_cons]
      rcases induction (agentAfter serverId row update) with ⟨id, server, pseudonym, contract⟩
      exact ⟨id.trans first.1, server.trans first.2.1, pseudonym.trans first.2.2.1,
        contract.trans first.2.2.2⟩

/-- Updates of other agents leave an agent alone. -/
theorem foldl_agentAfter_other {updates : List AgentUpdate} {row : AgentRegistration}
    (others : ∀ update ∈ updates, row.serverId = serverId →
      row.pseudonymId ≠ update.pseudonymId) :
    updates.foldl (agentAfter serverId) row = row := by
  induction updates with
  | nil => rfl
  | cons update rest induction =>
      rw [List.forall_mem_cons] at others
      have unchanged : agentAfter serverId row update = row := by
        unfold agentAfter
        rw [if_neg (by simpa using others.1)]
      rw [List.foldl_cons, unchanged]
      exact induction others.2

/-- Where all updates of an agent are of one report, the agent shows it if it did before or
if there is one. -/
theorem shows_foldl_agentAfter {updates : List AgentUpdate} {row : AgentRegistration}
    {report : VrpValidationReport} (ofServer : row.serverId = serverId)
    (agree : ∀ update ∈ updates, row.pseudonymId = update.pseudonymId → update.report = report)
    (reached : Shows report row ∨ ∃ update ∈ updates, row.pseudonymId = update.pseudonymId) :
    Shows report (updates.foldl (agentAfter serverId) row) := by
  induction updates generalizing row with
  | nil =>
      rcases reached with shown | ⟨update, member, _⟩
      · exact shown
      · cases member
  | cons update rest induction =>
      rw [List.forall_mem_cons] at agree
      rw [List.foldl_cons]
      by_cases own : row.pseudonymId = update.pseudonymId
      · have changed : agentAfter serverId row update = update.change row := by
          unfold agentAfter
          rw [if_pos (by simp [ofServer, own])]
        rw [changed]
        apply @induction (update.change row) ofServer agree.2
        left
        rw [← agree.1 own]
        exact ⟨rfl, rfl⟩
      · have unchanged : agentAfter serverId row update = row := by
          unfold agentAfter
          rw [if_neg (by simp [own])]
        rw [unchanged]
        apply induction ofServer agree.2
        rcases reached with shown | ⟨found, member, same⟩
        · exact Or.inl shown
        · rcases List.mem_cons.mp member with rfl | member
          · exact absurd same own
          · exact Or.inr ⟨found, member, same⟩

end Apply

namespace PolicyTables

variable {environment : Environment} {serverId : Nat} {policy : ServerPolicy}

/-- The tables after the updates of some agents. -/
def withUpdates (serverId : Nat) (updates : List AgentUpdate) (tables : PolicyTables) :
    PolicyTables :=
  { tables with
    agentRegistrations := updatedAgents serverId updates tables.agentRegistrations }

/-- Changes that touch nobody's name leave the agents unique. -/
theorem UniqueAgents.map {tables changed : PolicyTables} (unique : tables.UniqueAgents)
    {change : AgentRegistration → AgentRegistration}
    (rows : changed.agentRegistrations.rows = tables.agentRegistrations.rows.map change)
    (keeps : ∀ row, (change row).serverId = row.serverId ∧
      (change row).pseudonymId = row.pseudonymId) : changed.UniqueAgents := by
  intro left leftMember right rightMember server pseudonym
  rw [rows] at leftMember rightMember
  rcases List.mem_map.mp leftMember with ⟨leftOld, leftOldMember, isLeft⟩
  rcases List.mem_map.mp rightMember with ⟨rightOld, rightOldMember, isRight⟩
  rw [← isLeft, ← isRight] at server pseudonym ⊢
  rw [(keeps leftOld).1, (keeps rightOld).1] at server
  rw [(keeps leftOld).2, (keeps rightOld).2] at pseudonym
  rw [unique leftOld leftOldMember rightOld rightOldMember server pseudonym]

theorem UniqueAgents.withUpdates {tables : PolicyTables} (unique : tables.UniqueAgents)
    (updates : List AgentUpdate) : (tables.withUpdates serverId updates).UniqueAgents := by
  apply unique.map (rows_updatedAgents serverId updates tables.agentRegistrations)
  intro row
  have kept := foldl_agentAfter_keeps serverId updates row
  exact ⟨kept.2.1, kept.2.2.1⟩

theorem mem_activeAgents {database : PolicyDatabase} {row : AgentRegistration}
    {anchorJson : Option (JsonText VrpAnchorSnapshot)} :
    (row, anchorJson) ∈ activeAgents serverId database ↔
      (row ∈ database.agentRegistrations.rows ∧ row.active = true ∧ row.serverId = serverId) ∧
        database.anchorSnapshotJson row.id = anchorJson := by
  simp only [activeAgents, List.mem_map, List.mem_filter, Bool.and_eq_true, decide_eq_true_eq,
    Prod.mk.injEq]
  grind

/-- An update is that of an active agent of the server with an anchor, under the evaluation of
its handshake. -/
theorem source_of_agentUpdate {database : PolicyDatabase} {localAnchor : VrpAnchorSnapshot}
    {updates : List AgentUpdate}
    (collected : agentUpdates environment localAnchor policy (activeAgents serverId database) =
      .ok updates) {update : AgentUpdate} (member : update ∈ updates) :
    ∃ row ∈ database.agentRegistrations.rows, row.active = true ∧ row.serverId = serverId ∧
      update.pseudonymId = row.pseudonymId ∧
      update.active = decide (update.report.alignmentStatus ≠ .conflict) ∧
      reevaluateAgent environment localAnchor policy row (database.anchorSnapshotJson row.id) =
        .ok (some update) := by
  rw [agentUpdates_eq_collect] at collected
  rcases (collect_ok collected).2 update member with ⟨⟨row, anchorJson⟩, rowMember, evaluated⟩
  rcases mem_activeAgents.mp rowMember with ⟨⟨stored, active, server⟩, anchored⟩
  rw [← anchored] at evaluated
  cases anchorJson with
  | none =>
      rw [anchored] at evaluated
      cases evaluated
  | some text =>
      have read := evaluated
      rw [anchored] at read
      rcases reevaluateAgent_anchored read with ⟨_, _, _, _, _, ofUpdate⟩
      have ofUpdate := ofUpdate update rfl
      exact ⟨row, stored, active, server, ofUpdate.1, ofUpdate.2.2, evaluated⟩

/-- An update of an agent is the one its own evaluation gave: no other row has its name. -/
theorem own_agentUpdate {database : PolicyDatabase} {localAnchor : VrpAnchorSnapshot}
    {updates : List AgentUpdate} (unique : database.tables.UniqueAgents)
    (collected : agentUpdates environment localAnchor policy (activeAgents serverId database) =
      .ok updates) {row : AgentRegistration} (member : row ∈ database.agentRegistrations.rows)
    (server : row.serverId = serverId) {update : AgentUpdate} (updateMember : update ∈ updates)
    (same : row.pseudonymId = update.pseudonymId) :
    row.active = true ∧
      reevaluateAgent environment localAnchor policy row (database.anchorSnapshotJson row.id) =
        .ok (some update) := by
  rcases source_of_agentUpdate collected updateMember with
    ⟨source, stored, active, sourceServer, named, -, evaluated⟩
  have identical : source = row :=
    unique source stored row member (sourceServer.trans server.symm) (named.symm.trans same.symm)
  rw [← identical]
  exact ⟨active, evaluated⟩

/-- The updates that the loop collects leave every active agent evaluated. -/
theorem agentsEvaluated_withUpdates {database : PolicyDatabase} {timestamp : Nat}
    {updates : List AgentUpdate} (unique : database.tables.UniqueAgents)
    (collected : agentUpdates environment (.taken environment timestamp policy.principles
      policy.prohibitedActions) policy (activeAgents serverId database) = .ok updates) :
    (database.tables.withUpdates serverId updates).AgentsEvaluated environment serverId
      policy := by
  intro row member server active anchorJson anchored
  dsimp only [PolicyTables.withUpdates] at member anchored
  rw [rows_updatedAgents] at member
  rcases List.mem_map.mp member with ⟨old, oldMember, isRow⟩
  rw [← isRow] at server active anchored ⊢
  rcases foldl_agentAfter_keeps serverId updates old with ⟨sameId, sameServer, _, sameContract⟩
  rw [sameServer] at server
  rw [sameId] at anchored
  have own (update : AgentUpdate) (updateMember : update ∈ updates)
      (same : old.pseudonymId = update.pseudonymId) :
      old.active = true ∧ reevaluateAgent environment (.taken environment timestamp
        policy.principles policy.prohibitedActions) policy old (some anchorJson) =
          .ok (some update) := by
    rw [← anchored]
    exact own_agentUpdate unique collected oldMember server updateMember same
  have wasActive : old.active = true := by
    by_contra inactive
    have untouched : updates.foldl (agentAfter serverId) old = old :=
      foldl_agentAfter_other serverId fun update updateMember _ same =>
        inactive (own update updateMember same).1
    rw [untouched] at active
    exact inactive active
  rw [agentUpdates_eq_collect] at collected
  rcases (collect_ok collected).1 (old, some anchorJson)
    (mem_activeAgents.mpr ⟨⟨oldMember, wasActive, server⟩, anchored⟩) with
    ⟨outcome, evaluated, stored⟩
  rcases reevaluateAgent_anchored evaluated with
    ⟨anchor, contract, anchorRead, contractRead, unchanged, changed⟩
  refine ⟨anchor, contract, anchorRead, sameContract ▸ contractRead, fun _ => ?_⟩
  apply shows_foldl_agentAfter serverId server
  · intro update updateMember same
    have ofUpdate := (own update updateMember same).2.symm.trans evaluated
    exact (changed update (Except.ok.inj ofUpdate).symm).2.1
  · cases outcome with
    | none => exact Or.inl (unchanged rfl)
    | some update => exact Or.inr ⟨update, stored update rfl, (changed update rfl).1.symm⟩

end PolicyTables

section Handlers

/-- What the other modules' handlers keep of the servers and the agents, they keep here. -/
theorem onDatabase_keeps {α : Type} {program : Handler α}
    (kept : Keeps (fun database : Database => (database.servers, database.agentRegistrations))
      program) : Keeps PolicyDatabase.tables (onDatabase program) := by
  refine keeps_onPart (fun _ => rfl) fun database value session held => ?_
  have same := kept _ session rfl
  simp only [Prod.mk.injEq] at same
  rw [← held]
  simp only [PolicyDatabase.tables, same.1, same.2]

theorem onDatabase_emitAndBroadcast_keeps {now : String} {serverId : Nat} {entityId : String}
    {payload : EventPayload} :
    Keeps PolicyDatabase.tables (onDatabase (emitAndBroadcast now serverId entityId payload)) :=
  onDatabase_keeps (emitAndBroadcast_keeps fun _ _ => rfl)

theorem applyUpdate_keeps (now : String) (serverId : Nat) (update : FederationUpdate) :
    Keeps (fun database : Database => (database.servers, database.agentRegistrations))
      (applyUpdate now serverId update) := by
  unfold applyUpdate
  refine keeps_bind (keeps_execute ?_) fun _ => ?_
  · intro database changed written
    cases written
    rfl
  · split <;>
      exact keeps_bind (keeps_send _) fun _ => emitAndBroadcast_keeps fun _ _ => rfl

theorem applyUpdates_keeps (now : String) (serverId : Nat) (updates : List FederationUpdate) :
    Keeps (fun database : Database => (database.servers, database.agentRegistrations))
      (applyUpdates now serverId updates) := by
  induction updates with
  | nil => exact (reads_pure _).keeps
  | cons update rest induction =>
      exact keeps_bind (applyUpdate_keeps now serverId update) fun _ =>
        keeps_bind induction fun _ => (reads_pure _).keeps

/-- The evaluation of the agreements is no matter of the servers and the agents. -/
theorem recalculateFederationAgreements_keeps {environment : Environment} {clock : Option Nat}
    {now : String} {serverId : Nat} {policy : ServerPolicy} :
    Keeps PolicyDatabase.tables (onDatabase
      (recalculateFederationAgreements environment clock now serverId policy)) := by
  apply onDatabase_keeps
  unfold recalculateFederationAgreements
  refine keeps_bind (reads_orElse _ _).keeps fun localAnchor => ?_
  refine keeps_bind (reads_connect _).keeps fun _ => keeps_transaction ?_
  refine keeps_bind (reads_query _ _).keeps fun rows => ?_
  exact keeps_bind (reads_ofExcept _).keeps fun updates => applyUpdates_keeps now serverId updates

variable {environment : Environment} {serverId : Nat} {policy : ServerPolicy}

theorem applyAgentUpdate_ensures (now : String) (update : AgentUpdate)
    (database : PolicyDatabase) (sent : List Outbound) :
    Ensures (applyAgentUpdate now serverId update) database sent fun result changed _ =>
      result = .ok () → changed.tables = database.tables.withUpdates serverId [update] := by
  unfold applyAgentUpdate
  refine ensures_bind (ensures_execute (fun _ failed => nomatch failed) ?_
    fun _ _ failed => nomatch failed)
  intro changed written
  cases written
  rw [andThen_ok]
  refine ensures_bind ((ensures_send _).mpr ?_)
  rw [andThen_ok]
  exact ensures_mono (fun _ _ _ same _ => same) onDatabase_emitAndBroadcast_keeps.ensures

theorem applyAgentUpdates_ensures (now : String) (updates : List AgentUpdate)
    (database : PolicyDatabase) (sent : List Outbound) :
    Ensures (applyAgentUpdates now serverId updates) database sent fun result changed _ =>
      result = .ok () → changed.tables = database.tables.withUpdates serverId updates := by
  induction updates generalizing database sent with
  | nil => exact (ensures_pure _).mpr fun _ => rfl
  | cons update rest induction =>
      refine ensures_bind (ensures_mono ?_
        (applyAgentUpdate_ensures now update database sent))
      intro result changed after first
      cases result with
      | error error => exact fun failed => nomatch failed
      | ok _ =>
          rw [andThen_ok]
          refine ensures_mono ?_ (induction changed after)
          intro _ _ _ others succeeded
          rw [others succeeded, first rfl]
          rfl

/-- The evaluation of the agents makes all the updates it has collected, and answers whom it
disconnects, or does nothing. -/
theorem recalculateAgentAlignments_updates (clock : Option Nat) (now : String)
    {database : PolicyDatabase} {sent : List Outbound} :
    Ensures (recalculateAgentAlignments environment clock now serverId policy) database sent
      fun result changed _ =>
        match result with
        | .ok pseudonyms => ∃ timestamp updates,
            agentUpdates environment (.taken environment timestamp policy.principles
              policy.prohibitedActions) policy (activeAgents serverId database) = .ok updates ∧
            changed.tables = database.tables.withUpdates serverId updates ∧
            pseudonyms = agentsToDisconnect updates
        | .error _ => changed = database := by
  unfold recalculateAgentAlignments
  refine (looks_orElse _ _).ensures_bind (fun _ => rfl) fun localAnchor taken => ?_
  refine (looks_connect _).ensures_bind (fun _ => rfl) fun _ _ => ?_
  refine ensures_transaction (fun _ => rfl) ?_
  refine (looks_query _ _).ensures_bind (fun _ => rfl) fun rows read => ?_
  refine (looks_ofExcept _).ensures_bind (fun _ => rfl) fun updates collected => ?_
  refine ensures_bind (ensures_mono ?_ (applyAgentUpdates_ensures now updates database sent))
  intro result changed after applied
  cases result with
  | error error => rfl
  | ok _ =>
      rw [andThen_ok, ensures_pure]
      refine ⟨?_, fun _ => rfl⟩
      rw [answers_orElse] at taken
      rw [answers_query, Except.ok.injEq] at read
      rw [answers_ofExcept, ← read] at collected
      cases clock with
      | none => cases taken
      | some timestamp =>
          cases taken
          exact ⟨timestamp, updates, collected, applied rfl, rfl⟩

/-- What the evaluation of the agents does: all of it, or nothing. -/
theorem recalculateAgentAlignments_ensures (clock : Option Nat) (now : String)
    {database : PolicyDatabase} {sent : List Outbound}
    (unique : database.tables.UniqueAgents) :
    Ensures (recalculateAgentAlignments environment clock now serverId policy) database sent
      fun result changed _ =>
        match result with
        | .ok _ => ∃ updates, changed.tables = database.tables.withUpdates serverId updates ∧
            changed.tables.AgentsEvaluated environment serverId policy
        | .error _ => changed = database := by
  refine ensures_mono ?_ (recalculateAgentAlignments_updates clock now)
  intro result changed _ held
  cases result with
  | error error => exact held
  | ok pseudonyms =>
      rcases held with ⟨timestamp, updates, collected, updated, -⟩
      refine ⟨updates, updated, ?_⟩
      rw [updated]
      exact agentsEvaluated_withUpdates unique collected

end Handlers

/-! When the evaluation succeeds. -/

/-- The only statements that may fail are the emissions: the connection, the begin and the
read come first, then an update and an emission for each agent, and the commit. -/
def OnlyEmissionsFail (faults : List (Option String)) : Prop :=
  ∀ count, faultAt faults count ≠ none → 4 ≤ count ∧ count % 2 = 0

/-- Nothing makes the evaluation of the agents fail. -/
structure Evaluable (serverId : Nat) (input : PolicyInput) (tables : PolicyTables) : Prop where
  clocked : input.clock ≠ none
  readable : tables.Readable serverId
  faults : OnlyEmissionsFail input.faults

section Succeed

variable {serverId : Nat}

theorem emitAndBroadcast_returns {Error : Type} (now : String) (entityId : String)
    (payload : EventPayload) (session : Session Database (List Outbound)) :
    Returns (emitAndBroadcast now serverId entityId payload :
      Sql Database (List Outbound) Error Unit) session 1 := by
  unfold Returns
  rw [List.drop_one]
  cases faulty : faultAt session.faults 0 with
  | none => exact ⟨(), _, _, emitAndBroadcast_done faulty⟩
  | some text => exact ⟨(), _, _, emitAndBroadcast_faulty faulty⟩

theorem applyAgentUpdate_returns (now : String) (update : AgentUpdate)
    {session : Session PolicyDatabase (List Outbound)}
    (unfaulted : faultAt session.faults 0 = none) :
    Returns (applyAgentUpdate now serverId update) session 2 := by
  refine @returns_bind _ _ _ _ _ _ _ _ 1 1 (returns_execute unfaulted rfl) fun _ _ _ => ?_
  refine @returns_bind _ _ _ _ _ _ _ _ 0 1 (returns_send _) fun _ _ _ => ?_
  exact returns_onPart (emitAndBroadcast_returns now _ _ _)

theorem applyAgentUpdates_returns (now : String) (updates : List AgentUpdate)
    {session : Session PolicyDatabase (List Outbound)}
    (unfaulted : ∀ count, faultAt session.faults (2 * count) = none) :
    Returns (applyAgentUpdates now serverId updates) session (2 * updates.length) := by
  induction updates generalizing session with
  | nil => exact returns_pure ()
  | cons update rest induction =>
      rw [List.length_cons, Nat.mul_succ, Nat.add_comm]
      refine returns_bind (applyAgentUpdate_returns now update (unfaulted 0)) fun _ _ _ => ?_
      apply induction
      intro count
      have later := unfaulted (1 + count)
      rwa [faultAt, Nat.mul_add, ← List.drop_drop] at later

/-- An evaluation that nothing makes fail succeeds. -/
theorem recalculateAgentAlignments_succeeds {environment : Environment}
    {policy : ServerPolicy} {input : PolicyInput} {database : PolicyDatabase}
    {sent : List Outbound} (evaluable : Evaluable serverId input database.tables) :
    ∃ pseudonyms, (recalculateAgentAlignments environment input.clock input.now serverId policy
      ⟨database, sent, input.faults⟩).1 = .ok pseudonyms := by
  rcases Option.ne_none_iff_exists'.mp evaluable.clocked with ⟨timestamp, clocked⟩
  have unfaulted (count : Nat) (stops : count < 4 ∨ count % 2 = 1) :
      faultAt input.faults count = none := by
    by_contra faulty
    have emission := evaluable.faults count faulty
    omega
  have readable : ∀ pair ∈ activeAgents serverId database, ∃ outcome,
      reevaluateAgent environment (.taken environment timestamp policy.principles
        policy.prohibitedActions) policy pair.1 pair.2 = .ok outcome := by
    intro pair member
    rcases List.mem_map.mp member with ⟨row, rowMember, same⟩
    rw [List.mem_filter, Bool.and_eq_true, decide_eq_true_eq] at rowMember
    rw [← same]
    apply reevaluateAgent_of_readable
    intro anchorJson anchored
    exact evaluable.readable row rowMember.1 rowMember.2.2 rowMember.2.1 anchorJson anchored
  have begun : faultAt input.faults.tail 0 = none := by
    rw [faultAt_tail]
    exact unfaulted 1 (by decide)
  have read : faultAt input.faults.tail.tail 0 = none := by
    rw [faultAt_tail, faultAt_tail]
    exact unfaulted 2 (by decide)
  have updating (count : Nat) : faultAt input.faults.tail.tail.tail (2 * count) = none := by
    rw [faultAt_tail, faultAt_tail, faultAt_tail]
    exact unfaulted _ (Or.inr (by omega))
  rcases collect_of_forall readable with ⟨updates, collected⟩
  rw [← agentUpdates_eq_collect] at collected
  rcases @applyAgentUpdates_returns serverId input.now updates
    ⟨database, sent, input.faults.tail.tail.tail⟩ updating with ⟨_, changed, after, applied⟩
  have commits : faultAt (input.faults.tail.tail.tail.drop (2 * updates.length)) 0 = none := by
    rw [faultAt, List.drop_drop, Nat.add_zero]
    exact updating updates.length
  refine ⟨agentsToDisconnect updates, ?_⟩
  unfold recalculateAgentAlignments
  rw [bind_apply, orElse_apply, clocked]
  dsimp only [VrpAnchorSnapshot.new, Except.mapError]
  rw [bind_ok (connect_done (unfaulted 0 (by decide))),
    @transaction_done _ _ _ _ _ _ _ _ ⟨changed, after, _⟩ _ begun ?_ commits]
  rw [bind_ok (query_done read (by rfl)), bind_apply, ofExcept_apply, collected]
  dsimp only
  rw [bind_ok applied]
  rfl

end Succeed

end Annex.Server
