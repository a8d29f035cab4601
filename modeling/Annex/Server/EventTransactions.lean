import Annex.Server.EventStream

namespace Annex.Server

open Db Graph Identity Observe Sql Vrp

/-! What recording a pseudonym and storing an agent's handshake come to. -/

/-- What recording a pseudonym comes to. -/
def pseudonymSlots (now : String) (serverId : Nat) (topic nullifierHex pseudonymId : String)
    (nodeType : NodeType) (metadataJson : Option AgentMetadata) (database : Database) :
    List Slot :=
  .statement ::
    Slot.ofTaken (database.zkNullifiers.rows.any fun row =>
      row.topic = topic && row.nullifierHex = nullifierHex) ::
    .emission ::
    Slot.ofTaken (database.platformIdentities.rows.any fun row =>
      row.serverId = serverId && row.pseudonymId = pseudonymId) ::
    .statement :: .statement ::
    (Slot.ofResult (strToNodeType
      (ensuredNode now serverId pseudonymId nodeType metadataJson database).nodeType) ++
    [.emission])

section Pseudonym

variable {Error : Type} {now : String} {serverId : Nat}
  {topic nullifierHex pseudonymId : String} {database : Database} {sent : List Outbound}

theorem follows_insertNullifier {owner commitmentHex : Option String} :
    Follows eventJournal
      [Slot.ofTaken (database.zkNullifiers.rows.any fun row =>
        row.topic = topic && row.nullifierHex = nullifierHex)]
      (insertNullifier topic nullifierHex owner commitmentHex) database sent
      fun _ changed => ∃ zkNullifiers, changed = { database with zkNullifiers } := by
  unfold insertNullifier execute
  cases taken : database.zkNullifiers.rows.any fun row =>
      row.topic = topic && row.nullifierHex = nullifierHex with
  | true =>
      apply follows_statement
      · intro value changed done
        simp [taken] at done
      · intro error refused
        rfl
  | false =>
      apply follows_statement
      · intro value changed done
        simp only [taken, Bool.false_eq_true, if_false, Except.ok.injEq, Prod.mk.injEq,
          true_and] at done
        rw [← done]
        exact ⟨rfl, rfl, _, rfl⟩
      · intro error refused
        simp [taken] at refused

/-- A new identity is found again under its pseudonym. -/
theorem getPlatformIdentity_inserted {roleCode : RoleCode} {changed : Database}
    (written : insertPlatformIdentity serverId pseudonymId roleCode database = .ok changed) :
    (∃ row, changed.platformIdentities.rows.find? (fun row =>
      row.serverId = serverId && row.pseudonymId = pseudonymId) = some row ∧
        roleFromStr row.participantType = .ok roleCode) ∧
      (database.platformIdentities.rows.any fun row =>
        row.serverId = serverId && row.pseudonymId = pseudonymId) = false ∧
      ∃ platformIdentities, changed = { database with platformIdentities } := by
  unfold insertPlatformIdentity at written
  split at written
  · cases written
  · next free =>
      rw [Bool.not_eq_true] at free
      cases written
      refine ⟨⟨_, Table.find?_insert free ?_, roleFromStr_label roleCode⟩, free, _, rfl⟩
      simp

theorem follows_createPlatformIdentity {roleCode : RoleCode} {taken : Bool}
    (isTaken : (database.platformIdentities.rows.any fun row =>
      row.serverId = serverId && row.pseudonymId = pseudonymId) = taken) :
    Follows eventJournal [Slot.ofTaken taken, .statement]
      (createPlatformIdentity serverId pseudonymId roleCode) database sent
      fun _ changed => ∃ platformIdentities,
        changed = { database with platformIdentities } := by
  have inserted : Slot.ofStatement (insertPlatformIdentity serverId pseudonymId roleCode
      database) = Slot.ofTaken taken := by
    unfold insertPlatformIdentity Slot.ofTaken
    rw [isTaken]
    cases taken <;> rfl
  rw [← inserted]
  refine follows_bind (follows_execute ?_) ?_
  · intro changed written
    rcases getPlatformIdentity_inserted written with ⟨-, -, _, same⟩
    rw [same]
    rfl
  · intro _ changed _ written
    rcases getPlatformIdentity_inserted written with ⟨⟨row, found, role⟩, -, table, same⟩
    unfold getPlatformIdentity query
    apply follows_statement
    · intro value final done
      simp only [found, role, Except.ok.injEq, Prod.mk.injEq] at done
      exact ⟨rfl, done.2 ▸ rfl, table, done.2 ▸ same⟩
    · intro error refused
      simp [found, role] at refused

theorem follows_ensureGraphNode {nodeType : NodeType} {metadataJson : Option AgentMetadata}
    {result : Except GraphError NodeType}
    (typed : strToNodeType
      (ensuredNode now serverId pseudonymId nodeType metadataJson database).nodeType = result) :
    Follows eventJournal (.statement :: Slot.ofResult result)
      (ensureGraphNode now serverId pseudonymId nodeType metadataJson) database sent
      fun _ _ => True := by
  rw [← List.append_nil (Slot.ofResult _)]
  refine @follows_bind _ _ _ _ _ _ _ _ _ _ [.statement] _ _ _ (fun row changed =>
    row = ensuredNode now serverId pseudonymId nodeType metadataJson database) _ ?_ ?_
  · apply follows_statement
    · intro row changed done
      simp only [find?_upsertGraphNode, Except.ok.injEq, Prod.mk.injEq] at done
      rw [← done.2]
      exact ⟨rfl, rfl, done.1.symm⟩
    · intro error refused
      simp only [find?_upsertGraphNode] at refused
      cases refused
  · intro row changed _ same
    rw [same, typed]
    exact follows_bind (follows_ofExcept _) fun _ _ _ _ => (follows_pure _).anyhow

theorem settles_recordingPseudonym {stateServerId : Nat} {payload : VerifyMembershipRequest}
    {roleCode : RoleCode} {metadataJson : Option AgentMetadata}
    {wrapBegin wrapCommit : DbError → ApiError} :
    Settles eventJournal
      (pseudonymSlots now serverId payload.topic nullifierHex pseudonymId
        (roleCodeToNodeType roleCode) metadataJson database)
      (transaction wrapBegin wrapCommit
        (recordPseudonym now stateServerId serverId payload nullifierHex pseudonymId roleCode
          metadataJson)) database sent := by
  apply settles_transaction
  apply commits_of_follows
  refine follows_bind (follows_mapErr follows_insertNullifier) ?_
  intro _ changed _ held
  rcases held with ⟨nullifiers, same⟩
  rw [same]
  refine follows_bind follows_emitAndBroadcast ?_
  intro _ changed _ held
  rcases held with ⟨log, same⟩
  rw [same]
  refine follows_bind (follows_mapErr (follows_createPlatformIdentity ?_)) ?_
  · rfl
  · intro _ changed _ held
    rcases held with ⟨identities, same⟩
    rw [same]
    refine follows_bind (follows_mapErr (follows_ensureGraphNode ?_)) ?_
    · rfl
    · exact fun _ _ _ _ => follows_emitAndBroadcast.anyhow

end Pseudonym

/-- The pseudonym has a node that is inactive, and none that is active. -/
def reactivates (serverId : Nat) (pseudonymId : String) (database : Database) : Bool :=
  database.graphNodes.rows.countP (hasActivity serverId pseudonymId true) = 0 &&
    0 < database.graphNodes.rows.countP (hasActivity serverId pseudonymId false)

/-- What noting that a node was seen comes to. -/
def activitySlots (serverId : Nat) (pseudonymId : String) (database : Database) : List Slot :=
  if 0 < database.graphNodes.rows.countP (hasActivity serverId pseudonymId true) then
    [.statement]
  else
    [.statement, .statement]

/-- What registering an agent comes to, once it writes an entry. -/
def registrationSlots (serverId : Nat) (pseudonymId : String) (database : Database) :
    List Slot :=
  activitySlots serverId pseudonymId database ++
    if reactivates serverId pseudonymId database then [.emission, .statement] else []

/-- A conflict writes no entry. -/
def alignmentSlots (serverId : Nat) (pseudonymId : String) (database : Database) :
    VrpAlignmentStatus → List Slot
  | .aligned => registrationSlots serverId pseudonymId database
  | .partial_ => registrationSlots serverId pseudonymId database
  | .conflict => []

/-- What storing an agent's handshake comes to, once it writes an entry. -/
def agentSlots (serverId : Nat) (request : AgentHandshakeRequest) (report : VrpValidationReport)
    (database : ServerDatabase) : List Slot :=
  .statement :: Slot.ofTaken (!database.servers.rows.any (·.id = serverId)) :: .statement ::
    alignmentSlots serverId request.pseudonymId database.toDatabase report.alignmentStatus

section AgentHandshake

variable {now : String} {serverId : Nat} {pseudonymId : String} {database : Database}
  {sent : List Outbound}

theorem silent_activitySlots : Slot.emission ∉ activitySlots serverId pseudonymId database := by
  unfold activitySlots
  split <;> decide

theorem follows_updateNode {active : Bool} {change : GraphNode → GraphNode}
    {keyed : ∀ row, key (change row) = key row} :
    Follows eventJournal [.statement] (updateNode serverId pseudonymId active change keyed)
      database sent fun count changed =>
        count = database.graphNodes.rows.countP (hasActivity serverId pseudonymId active) ∧
          changed =
            { database with
              graphNodes := database.graphNodes.updateWhere
                (hasActivity serverId pseudonymId active) change keyed } := by
  apply follows_statement
  · intro count changed done
    cases done
    exact ⟨rfl, rfl, rfl, rfl⟩
  · intro error refused
    cases refused

theorem follows_updateNodeActivity :
    Follows eventJournal (activitySlots serverId pseudonymId database)
      (updateNodeActivity now serverId pseudonymId) database sent
      fun result changed => result = reactivates serverId pseudonymId database ∧
        ∃ graphNodes, changed = { database with graphNodes } := by
  have split : activitySlots serverId pseudonymId database = [.statement] ++
      if 0 < database.graphNodes.rows.countP (hasActivity serverId pseudonymId true) then []
      else [.statement] := by
    unfold activitySlots
    split <;> rfl
  rw [split]
  refine follows_bind follows_updateNode ?_
  intro count changed _ held
  rw [held.1, held.2]
  unfold reactivates
  split
  · next some =>
      apply follows_mono _ (follows_pure false)
      intro result final held
      refine ⟨?_, _, held.2⟩
      rw [held.1, decide_eq_false (Nat.ne_of_gt some), Bool.false_and]
  · next none =>
      have none := Nat.eq_zero_of_not_pos none
      rw [← List.append_nil [_]]
      refine follows_bind follows_updateNode ?_
      intro count changed _ held
      apply follows_mono _ (follows_pure _)
      intro result final same
      refine ⟨?_, _, same.2.trans held.2⟩
      rw [same.1, held.1, decide_eq_true none, Bool.true_and]
      have unchanged : database.graphNodes.updateWhere (hasActivity serverId pseudonymId true)
          (seen now) (fun _ => rfl) = database.graphNodes := Table.updateWhere_of_none none
      exact congrArg (fun table : Table GraphNode => decide (0 < table.rows.countP _)) unchanged

theorem follows_recordVrpOutcome {peerType : String} {report : VrpValidationReport}
    {database : ServerDatabase} :
    Follows serverJournal [Slot.ofTaken (!database.servers.rows.any (·.id = serverId))]
      (recordVrpOutcome now serverId pseudonymId peerType report) database sent
      fun _ changed => database.servers.rows.any (·.id = serverId) = true ∧
        ∃ vrpHandshakeLog, changed = { database with vrpHandshakeLog } := by
  unfold recordVrpOutcome execute
  apply follows_statement
  · intro _ changed done
    cases known : database.servers.rows.any (·.id = serverId) with
    | true =>
        simp only [known, if_true, Except.ok.injEq, Prod.mk.injEq, true_and] at done
        rw [← done]
        exact ⟨rfl, rfl, rfl, _, rfl⟩
    | false => simp [known] at done
  · intro error refused
    cases known : database.servers.rows.any (·.id = serverId) with
    | true => simp [known] at refused
    | false => rfl

/-- Without a fault, `upsertAgent` fails only for a server that is not there. -/
theorem follows_upsertAgent {request : AgentHandshakeRequest} {report : VrpValidationReport}
    {reputationScore : String} {wrap : DbError → ApiError} {database : ServerDatabase}
    (known : database.servers.rows.any (·.id = serverId) = true) :
    Follows serverJournal [.statement]
      (execute wrap (upsertAgent serverId request report reputationScore)) database sent
      fun _ _ => True := by
  unfold execute upsertAgent
  apply follows_statement
  · intro _ changed done
    simp only [known, if_true, Except.ok.injEq, Prod.mk.injEq, true_and] at done
    rw [← done]
    exact ⟨rfl, rfl, trivial⟩
  · intro error refused
    simp [known] at refused

theorem upsertAgent_keeps {request : AgentHandshakeRequest} {report : VrpValidationReport}
    {reputationScore : String} {wrap : DbError → ApiError} :
    Keeps serverJournal.logged (execute wrap (upsertAgent serverId request report
      reputationScore) : ServerSql ApiError Unit) := by
  apply keeps_execute
  intro database changed written
  unfold upsertAgent at written
  split at written
  · cases written
    rfl
  · cases written

theorem commits_registerAgent {realText : F32 → String} {request : AgentHandshakeRequest}
    {report : VrpValidationReport} {reputationScore : F32} {database : ServerDatabase}
    (known : database.servers.rows.any (·.id = serverId) = true) :
    FillsSlots serverJournal
      (registrationSlots serverId request.pseudonymId database.toDatabase)
      (registerAgent realText now serverId request report reputationScore) database sent := by
  unfold registerAgent
  refine commits_attempt (follows_onPart (fun _ _ => rfl) follows_updateNodeActivity)
    silent_activitySlots ?_ ?_
  · exact fun error => ⟨upsertAgent_keeps, keepsMemory_execute _ _⟩
  · intro reactivated changed _ held
    rcases held with ⟨part, isChanged, isReactivated, graphNodes, isPart⟩
    rw [← isReactivated]
    have known : changed.servers.rows.any (·.id = serverId) = true := by
      rw [isChanged, isPart]
      exact known
    cases reactivated with
    | false => exact commits_of_keeps upsertAgent_keeps (keepsMemory_execute _ _)
    | true =>
        apply commits_of_follows
        refine follows_bind (follows_send_presence _) ?_
        intro _ final _ same
        rw [same]
        refine follows_bind (follows_onPart (fun _ _ => rfl) follows_emitAndBroadcast) ?_
        intro _ final _ held
        rcases held with ⟨part, isFinal, log, isPart⟩
        apply follows_upsertAgent
        rw [isFinal, isPart]
        exact known

theorem settles_storeAgentHandshake {arithmetic : Scalar F32} {realText : F32 → String}
    {ties : TieOrder} {request : AgentHandshakeRequest} {report : VrpValidationReport}
    {database : ServerDatabase} :
    Settles serverJournal (agentSlots serverId request report database)
      (storeAgentHandshake arithmetic realText ties now serverId request report) database
      sent := by
  apply settles_transaction
  refine commits_bind (follows_mapErr follows_recordVrpOutcome) (Slot.silent_ofTaken _) ?_
  intro _ changed _ held
  rcases held with ⟨known, vrpHandshakeLog, same⟩
  rw [same]
  refine commits_bind (follows_mapErr follows_select) (by decide) ?_
  intro score changed _ held
  rw [held.2]
  have registers {sent : List Outbound} {reputationScore : F32} :=
    @commits_registerAgent now serverId sent realText request report reputationScore
      { database with vrpHandshakeLog } known
  cases status : report.alignmentStatus with
  | aligned => exact commits_bind_pure registers _
  | partial_ => exact commits_bind_pure registers _
  | conflict =>
      apply commits_of_keeps
      · refine keeps_bind (keeps_statement ?_) fun updated => (reads_pure _).keeps
        intro database updated changed written
        cases written
        rfl
      · refine keepsMemory_bind (keepsMemory_statement _ _) fun updated => ?_
        exact (reads_pure _).keepsMemory

end AgentHandshake

end Annex.Server
