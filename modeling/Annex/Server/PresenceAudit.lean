import Annex.Foundation.SqlCount
import Annex.Server.PresenceLog

namespace Annex.Server

open Db Graph Identity Observe Sql Vrp

/-! Which requests keep the log and the presence graph in step. -/

section Verification

variable {Fq Key : Type} (environment : Environment) (curve : Curve Fq Key)
  (membershipVkey : Key) (now : String) (stateServerId : Nat)

/-- What the transaction of a verification writes down. -/
structure Recording where
  nullifierHex : String
  pseudonymId : String
  roleCode : RoleCode
  serverId : Nat
  metadataJson : Option AgentMetadata

/-- What a verification does before its transaction. -/
def prepareRecording (payload : VerifyMembershipRequest) : Handler Recording := do
  connect dbConnectionFailed
  checkMembershipProof environment curve membershipVkey payload
  emitAndBroadcast now stateServerId payload.commitment
    (.identityVerified payload.commitment payload.topic)
  let nullifierHex ← orElse
    (deriveNullifierHex environment payload.commitment payload.topic) fun error =>
      .badRequest ("failed to derive nullifier: " ++ error.text)
  let pseudonymId ← orElse (derivePseudonymId environment payload.topic nullifierHex)
    fun error => .internalServerError ("failed to derive pseudonym: " ++ error.text)
  let roleCode ← lookupRole payload.commitment
  let serverId ← lookupServerId
  let metadataJson ← agentMetadata serverId pseudonymId roleCode
  pure { nullifierHex, pseudonymId, roleCode, serverId, metadataJson }

/-- The rows a verification writes in its transaction, before the event about the node. -/
def recordRows (payload : VerifyMembershipRequest) (recording : Recording) :
    Handler GraphNode := do
  mapErr nullifierFailed (insertNullifier payload.topic recording.nullifierHex
    (some recording.pseudonymId) (some payload.commitment))
  emitAndBroadcast now stateServerId recording.pseudonymId
    (.pseudonymDerived recording.pseudonymId payload.topic)
  let _ ← mapErr
    (fun error : IdentityError =>
      .internalServerError ("failed to create platform identity: " ++ error.text))
    (createPlatformIdentity recording.serverId recording.pseudonymId recording.roleCode)
  mapErr
    (fun error : Graph.GraphError =>
      .internalServerError ("failed to ensure graph node: " ++ error.text))
    (Graph.ensureGraphNode now recording.serverId recording.pseudonymId
      (roleCodeToNodeType recording.roleCode) recording.metadataJson)

/-- The transaction of a verification. -/
def storeRecording (payload : VerifyMembershipRequest) (recording : Recording) : Handler Unit :=
  transaction startFailed commitFailed do
    let _ ← recordRows now stateServerId payload recording
    emitAndBroadcast now recording.serverId recording.pseudonymId
      (.nodeAdded recording.pseudonymId (roleCodeToNodeType recording.roleCode).debug)

variable {environment curve membershipVkey now stateServerId}
  {payload : VerifyMembershipRequest} {recording : Recording} {database : Database}
  {sent : List Outbound}

theorem verifyMembershipHandler_eq_prepare :
    verifyMembershipHandler environment curve membershipVkey now stateServerId payload =
      (do
        let recording ← prepareRecording environment curve membershipVkey now stateServerId
          payload
        storeRecording now stateServerId payload recording
        send (.presence (.nodeUpdated recording.pseudonymId true))
        pure recording.pseudonymId) := by
  unfold verifyMembershipHandler prepareRecording storeRecording recordRows recordPseudonym
  simp only [bind_bind]
  rfl

theorem prepareRecording_presenceView :
    Keeps presenceView
      (prepareRecording environment curve membershipVkey now stateServerId payload) := by
  refine keeps_bind (reads_connect _).keeps fun _ => ?_
  refine keeps_bind looks_checkMembershipProof.reads.keeps fun _ => ?_
  refine keeps_bind (emitAndBroadcast_presenceView rfl) fun _ => ?_
  refine keeps_bind (reads_orElse _ _).keeps fun nullifierHex => ?_
  refine keeps_bind (reads_orElse _ _).keeps fun pseudonymId => ?_
  refine keeps_bind (looks_lookupRole _).reads.keeps fun roleCode => ?_
  refine keeps_bind looks_lookupServerId.reads.keeps fun serverId => ?_
  refine keeps_bind (looks_agentMetadata _ _ _).reads.keeps fun metadataJson => ?_
  exact (reads_pure _).keeps

/-- What writing the rows comes to. -/
def rowSlots (now topic : String) (recording : Recording) (database : Database) : List Slot :=
  Slot.ofTaken (database.zkNullifiers.rows.any fun row =>
      row.topic = topic && row.nullifierHex = recording.nullifierHex) ::
    .emission ::
    Slot.ofTaken (database.platformIdentities.rows.any fun row =>
      row.serverId = recording.serverId && row.pseudonymId = recording.pseudonymId) ::
    .statement :: .statement ::
    Slot.ofResult (strToNodeType (ensuredNode now recording.serverId recording.pseudonymId
      (roleCodeToNodeType recording.roleCode) recording.metadataJson database).nodeType)

/-- The transaction of a verification comes to these rows and the event about the node. -/
theorem pseudonymSlots_eq {topic : String} :
    pseudonymSlots now recording.serverId topic recording.nullifierHex recording.pseudonymId
        (roleCodeToNodeType recording.roleCode) recording.metadataJson database =
      .statement :: (rowSlots now topic recording database ++ [.emission]) := rfl

theorem follows_recordRows :
    Follows eventJournal (rowSlots now payload.topic recording database)
      (recordRows now stateServerId payload recording) database sent fun _ _ => True := by
  refine follows_bind (follows_mapErr follows_insertNullifier) ?_
  intro _ changed _ held
  rcases held with ⟨nullifiers, same⟩
  rw [same]
  refine follows_bind follows_emitAndBroadcast ?_
  intro _ changed _ held
  rcases held with ⟨log, same⟩
  rw [same]
  refine follows_bind (follows_mapErr (follows_createPlatformIdentity ?_)) ?_
  · rfl
  · intro _ changed _ held
    rcases held with ⟨identities, same⟩
    rw [same]
    exact follows_mapErr (follows_ensureGraphNode rfl)

/-- The node is written, and what the log says of the nodes is left. -/
theorem recordRows_ensures :
    Ensures (recordRows now stateServerId payload recording) database sent
      fun result changed _ => ∀ row, result = .ok row →
        Switched recording.serverId recording.pseudonymId true database changed := by
  have nullifier : Keeps presenceView (mapErr nullifierFailed (insertNullifier payload.topic
      recording.nullifierHex (some recording.pseudonymId) (some payload.commitment)) :
        Handler Unit) :=
    keeps_mapErr (insertNullifier_keeps fun _ _ => rfl)
  refine nullifier.ensures_bind (fun _ _ _ _ _ failed => nomatch failed) fun _ first _ same => ?_
  refine (emitAndBroadcast_presenceView rfl).ensures_bind
    (fun _ _ _ _ _ failed => nomatch failed) fun _ second _ sameSecond => ?_
  have identity (wrap : IdentityError → ApiError) : Keeps presenceView (mapErr wrap
      (createPlatformIdentity recording.serverId recording.pseudonymId recording.roleCode) :
        Handler PlatformIdentity) :=
    keeps_mapErr (createPlatformIdentity_keeps fun _ _ => rfl)
  refine (identity _).ensures_bind (fun _ _ _ _ _ failed => nomatch failed)
    fun _ third _ sameThird => ?_
  apply ensures_mapErr
  refine ensures_mono ?_ ensureGraphNode_ensures
  intro result changed after held row ran
  cases result with
  | error error => cases ran
  | ok node =>
      have upserted := (held.2 node rfl).2
      have switched : Switched recording.serverId recording.pseudonymId true third changed := by
        rw [upserted]
        exact switched_upsertGraphNode (fun _ _ => rfl) rfl
      exact switched.of_view ((sameThird.trans sameSecond).trans same)

/-- The event about a node is logged when the rest of the transaction is. -/
def AddsNoted (now topic : String) (recording : Recording) (database : Database)
    (faults : List (Option String)) : Prop :=
  Committed (pseudonymSlots now recording.serverId topic recording.nullifierHex
    recording.pseudonymId (roleCodeToNodeType recording.roleCode) recording.metadataJson
    database) faults → faultAt faults 6 = none

theorem length_rowSlots {topic : String} {faults : List (Option String)}
    (completes : Completes (rowSlots now topic recording database) faults) :
    (rowSlots now topic recording database).length = 5 := by
  unfold rowSlots at completes ⊢
  cases typed : strToNodeType (ensuredNode now recording.serverId recording.pseudonymId
      (roleCodeToNodeType recording.roleCode) recording.metadataJson database).nodeType with
  | ok nodeType => rfl
  | error error =>
      -- a type that is not known refuses the node
      rw [typed] at completes
      have split := (@completes_append [_, _, _, _, _] [.refusal] faults).mp completes
      exact split.2.elim

theorem storeRecording_accounted {faults : List (Option String)}
    (noted : AddsNoted now payload.topic recording database faults) :
    Accounted database
      (storeRecording now stateServerId payload recording ⟨database, sent, faults⟩).2.database := by
  unfold storeRecording
  rcases transaction_cases (do
      let _ ← recordRows now stateServerId payload recording
      emitAndBroadcast now recording.serverId recording.pseudonymId
        (.nodeAdded recording.pseudonymId (roleCodeToNodeType recording.roleCode).debug))
      ⟨database, sent, faults⟩ with failed | ⟨_, finished, begins, ran, commits, done⟩
  · rw [failed.2]
    exact accounted_refl database
  · rw [done]
    have ends := (@follows_recordRows now stateServerId payload recording database sent
      faults.tail).1
    have wrote := @recordRows_ensures now stateServerId payload recording database sent
      faults.tail
    rcases rows : recordRows now stateServerId payload recording ⟨database, sent, faults.tail⟩
      with ⟨error | row, written, told, rest⟩
    · rw [bind_error rows] at ran
      cases ran
    · rw [rows] at ends wrote
      rw [bind_ok rows] at ran
      rcases ends with ⟨completes, isRest, -⟩
      dsimp only at isRest wrote
      have switched := wrote row rfl
      cases emission : faultAt rest 0 with
      | none =>
          rw [emitAndBroadcast_done emission] at ran
          cases ran
          exact switched.accounted rfl
      | some text =>
          rw [emitAndBroadcast_faulty emission] at ran
          cases ran
          have length := length_rowSlots completes
          rw [length] at isRest
          have position (count : Nat) : faultAt rest count = faultAt faults (6 + count) := by
            rw [isRest, faultAt_drop, faultAt_tail]
            congr 1
            omega
          have last : (Slot.statement ::
              (rowSlots now payload.topic recording database ++ [.emission])).length = 7 := by
            rw [List.length_cons, List.length_append, length, List.length_singleton]
          have committed : Committed (pseudonymSlots now recording.serverId payload.topic
              recording.nullifierHex recording.pseudonymId
              (roleCodeToNodeType recording.roleCode) recording.metadataJson database)
              faults := by
            rw [pseudonymSlots_eq]
            constructor
            · exact ⟨begins, completes_append.mpr ⟨completes, trivial⟩⟩
            · rw [last, ← commits]
              dsimp only
              rw [faultAt_tail, position]
          rw [position, noted committed] at emission
          cases emission

theorem verifyMembershipHandler_accounted {faults : List (Option String)}
    (noted : ∀ recording prepared,
      prepareRecording environment curve membershipVkey now stateServerId payload
        ⟨database, sent, faults⟩ = (.ok recording, prepared) →
      AddsNoted now payload.topic recording prepared.database prepared.faults) :
    Accounted database (verifyMembershipHandler environment curve membershipVkey now
      stateServerId payload ⟨database, sent, faults⟩).2.database := by
  rw [verifyMembershipHandler_eq_prepare]
  have kept : Keeps presenceView
      (prepareRecording environment curve membershipVkey now stateServerId payload) :=
    prepareRecording_presenceView
  have view := kept _ ⟨database, sent, faults⟩ rfl
  rcases prepares : prepareRecording environment curve membershipVkey now stateServerId payload
    ⟨database, sent, faults⟩ with ⟨error | recording, prepared⟩
  · rw [bind_error prepares]
    rw [prepares] at view
    exact accounted_of_view view
  · rw [bind_ok prepares]
    rw [prepares] at view
    have stored := @storeRecording_accounted now stateServerId payload recording
      prepared.database prepared.memory prepared.faults (noted recording prepared prepares)
    rcases stores : storeRecording now stateServerId payload recording prepared with
      ⟨error | _, finished⟩
    · rw [bind_error stores]
      rw [stores] at stored
      exact (accounted_of_view view).trans stored
    · rw [bind_ok stores]
      rw [stores] at stored
      exact (accounted_of_view view).trans stored

end Verification

/-! Events among the tables of the server. -/

section Emissions

variable {Error : Type} {now entityId : String} {serverId : Nat} {payload : EventPayload}
  {database : ServerDatabase} {sent : List Outbound} {faults : List (Option String)}

theorem onTables_emit_done (emission : faultAt faults 0 = none) :
    ∃ told, (onTables (emitAndBroadcast now serverId entityId payload) :
        ServerSql Error Unit) ⟨database, sent, faults⟩ =
      (.ok (), ⟨{ database with
          toDatabase := withEvent now serverId entityId payload database.toDatabase },
        told, faults.tail⟩) := by
  unfold onTables onPart
  dsimp only
  rw [emitAndBroadcast_done emission]
  exact ⟨_, rfl⟩

theorem onTables_emit_faulty {text : String} (emission : faultAt faults 0 = some text) :
    (onTables (emitAndBroadcast now serverId entityId payload) :
        ServerSql Error Unit) ⟨database, sent, faults⟩ =
      (.ok (), ⟨database, sent, faults.tail⟩) := by
  unfold onTables onPart
  dsimp only
  rw [emitAndBroadcast_faulty emission]

end Emissions

section AgentHandshake

variable {arithmetic : Scalar F32} {realText : F32 → String} {ties : TieOrder} {now : String}
  {serverId : Nat} {request : AgentHandshakeRequest} {report : VrpValidationReport}
  {reputationScore : F32} {database changed : ServerDatabase} {sent told : List Outbound}
  {faults rest : List (Option String)}

/-- The registration is written, and the nodes and what the log says of them are left. -/
theorem upsertAgent_presenceView {reputationScore : String} {wrap : DbError → ApiError}
    (upserts : (execute wrap (upsertAgent serverId request report reputationScore) :
      ServerSql ApiError Unit) ⟨database, sent, faults⟩ = (.ok (), ⟨changed, told, rest⟩)) :
    presenceView changed.toDatabase = presenceView database.toDatabase ∧
      faultAt faults 0 = none ∧ rest = faults.tail := by
  have kept : Keeps (fun database : ServerDatabase => presenceView database.toDatabase)
      (execute wrap (upsertAgent serverId request report reputationScore) :
        ServerSql ApiError Unit) := by
    apply keeps_execute
    intro database changed written
    unfold upsertAgent at written
    split at written
    · cases written
      rfl
    · cases written
  have view := kept _ ⟨database, sent, faults⟩ rfl
  rw [upserts] at view
  rcases (takes_execute _ _ ..).mp upserts with ⟨spared, isRest, -⟩
  rw [List.drop_one] at isRest
  exact ⟨view, spared_one.mp spared, isRest⟩

theorem activitySlots_of_reactivates {pseudonymId : String} {database : Database}
    (back : reactivates serverId pseudonymId database = true) :
    activitySlots serverId pseudonymId database = [.statement, .statement] := by
  unfold reactivates at back
  rw [Bool.and_eq_true, decide_eq_true_eq, decide_eq_true_eq] at back
  rw [activitySlots, if_neg (by omega)]

/-- An agent that is registered leaves the nodes as the log says, unless it reactivates a node
and the event about it is lost. -/
theorem registerAgent_cases
    (ran : registerAgent realText now serverId request report reputationScore
      ⟨database, sent, faults⟩ = (.ok (), ⟨changed, told, rest⟩)) :
    Accounted database.toDatabase changed.toDatabase ∨
      reactivates serverId request.pseudonymId database.toDatabase = true ∧
        Completes [.statement, .statement, .emission, .statement] faults ∧
        rest = faults.drop 4 ∧ faultAt faults 2 ≠ none := by
  have outcome := @updateNodeActivity_ensures now request.pseudonymId serverId
    database.toDatabase _ sent faults
  have ends := (@follows_updateNodeActivity now serverId request.pseudonymId database.toDatabase
    sent faults).1
  rcases active : updateNodeActivity now serverId request.pseudonymId
    ⟨database.toDatabase, sent, faults⟩ with ⟨result, seenDatabase, kept, left⟩
  have attempted : attempt (onTables (updateNodeActivity now serverId request.pseudonymId))
      ⟨database, sent, faults⟩ =
        ((.ok result, ⟨{ database with toDatabase := seenDatabase }, kept, left⟩) :
          Except ApiError _ × _) := by
    unfold attempt onTables onPart
    dsimp only
    rw [active]
  unfold registerAgent at ran
  rw [bind_ok attempted] at ran
  rw [active] at outcome ends
  rcases outcome with ⟨isKept, reactivated, idle⟩
  dsimp only at isKept reactivated idle
  rcases result with error | back
  · left
    apply accounted_of_view
    exact (upsertAgent_presenceView ran).1.trans (idle fun same => nomatch same)
  · rcases ends with ⟨completes, isLeft, isBack, -⟩
    cases back with
    | false =>
        left
        apply accounted_of_view
        exact (upsertAgent_presenceView ran).1.trans (idle fun same => nomatch same)
    | true =>
        rw [activitySlots_of_reactivates isBack.symm] at completes isLeft
        have switched := reactivated rfl
        change (onTables (emitAndBroadcast now serverId request.pseudonymId
            (.nodeReactivated request.pseudonymId)) >>= fun _ => execute _ _)
          (⟨{ database with toDatabase := seenDatabase },
            kept ++ [.presence (.nodeUpdated request.pseudonymId true)], left⟩ :
              Session ServerDatabase (List Outbound)) = _ at ran
        dsimp only at isLeft
        cases emission : faultAt left 0 with
        | none =>
            left
            rcases onTables_emit_done emission with ⟨_, emitted⟩
            rw [bind_ok emitted] at ran
            exact (switched.accounted rfl).trans
              (accounted_of_view (upsertAgent_presenceView ran).1)
        | some text =>
            right
            rw [bind_ok (onTables_emit_faulty emission)] at ran
            rcases upsertAgent_presenceView ran with ⟨-, upserted, isRest⟩
            rw [faultAt_tail, isLeft, faultAt_drop] at upserted
            rw [isLeft, faultAt_drop] at emission
            refine ⟨isBack.symm, ?_, ?_, fun spared => ?_⟩
            · refine ⟨completes.1, completes.2.1, ?_, trivial⟩
              rw [faultAt_tail, faultAt_tail, faultAt_tail]
              exact upserted
            · rw [isRest, isLeft, List.tail_drop, List.tail_drop]
              rfl
            · exact absurd (emission.symm.trans spared) (Option.some_ne_none text)

/-- What storing an agent's handshake does before it registers the agent. -/
def logOutcome (arithmetic : Scalar F32) (ties : TieOrder) (now : String) (serverId : Nat)
    (request : AgentHandshakeRequest) (report : VrpValidationReport) :
    ServerSql ApiError F32 := do
  mapErr
    (fun error : ReputationError =>
      .internalServerError ("failed to log vrp outcome: " ++ error.text))
    (recordVrpOutcome now serverId request.pseudonymId "AI_AGENT" report)
  mapErr
    (fun error : ReputationError =>
      .internalServerError ("failed to check reputation: " ++ error.text))
    (checkReputationScore arithmetic ties serverId request.pseudonymId)

theorem follows_logOutcome :
    Follows serverJournal
      [Slot.ofTaken (!database.servers.rows.any (·.id = serverId)), .statement]
      (logOutcome arithmetic ties now serverId request report) database sent
      fun _ changed => changed.toDatabase = database.toDatabase := by
  refine @follows_bind _ _ _ _ _ _ _ _ _ _ [_] [.statement] _ _ _ _
    (follows_mapErr follows_recordVrpOutcome) ?_
  intro _ changed _ held
  rcases held with ⟨known, vrpHandshakeLog, same⟩
  rw [same]
  apply follows_mono _ (follows_mapErr follows_select)
  intro score final held
  rw [held.2]

theorem storeAgentOutcome_eq :
    storeAgentOutcome arithmetic realText ties now serverId request report = (do
      let reputationScore ← logOutcome arithmetic ties now serverId request report
      match report.alignmentStatus with
      | .aligned | .partial_ => do
          registerAgent realText now serverId request report reputationScore
          pure (some (.agentConnected request.pseudonymId report.alignmentStatus.toString))
      | .conflict => do
          let updated ← deactivateConflictAgent serverId request.pseudonymId
          pure (if 0 < updated then
            some (.agentDisconnected request.pseudonymId
              "VRP handshake resulted in Conflict alignment")
          else none)) := by
  unfold storeAgentOutcome logOutcome
  exact bind_bind.symm

/-- An agent's handshake brings a node back and reports no conflict. -/
def BringsBack (serverId : Nat) (request : AgentHandshakeRequest) (report : VrpValidationReport)
    (database : ServerDatabase) : Prop :=
  report.alignmentStatus ≠ .conflict ∧
    reactivates serverId request.pseudonymId database.toDatabase = true

theorem storeAgentOutcome_cases {event : Option EventPayload}
    (ran : storeAgentOutcome arithmetic realText ties now serverId request report
      ⟨database, sent, faults⟩ = (.ok event, ⟨changed, told, rest⟩)) :
    (∀ payload, event = some payload → presenceOf payload = none) ∧
      (Accounted database.toDatabase changed.toDatabase ∨
        BringsBack serverId request report database ∧
          Completes [Slot.ofTaken (!database.servers.rows.any (·.id = serverId)), .statement,
            .statement, .statement, .emission, .statement] faults ∧
          rest = faults.drop 6 ∧ faultAt faults 4 ≠ none) := by
  rw [storeAgentOutcome_eq] at ran
  have ends := (@follows_logOutcome arithmetic ties now serverId request report database sent
    faults).1
  rcases logs : logOutcome arithmetic ties now serverId request report ⟨database, sent, faults⟩
    with ⟨error | score, noted, passed, left⟩
  · rw [bind_error logs] at ran
    cases ran
  rw [bind_ok logs] at ran
  rw [logs] at ends
  rcases ends with ⟨completes, isLeft, sameTables⟩
  dsimp only at isLeft sameTables
  have registers (payload : EventPayload) (silent : presenceOf payload = none)
      (noConflict : report.alignmentStatus ≠ .conflict)
      (ran : (registerAgent realText now serverId request report score >>= fun _ =>
        pure (some payload)) ⟨noted, passed, left⟩ = (.ok event, ⟨changed, told, rest⟩)) :
      (∀ payload, event = some payload → presenceOf payload = none) ∧
        (Accounted database.toDatabase changed.toDatabase ∨
          BringsBack serverId request report database ∧
            Completes [Slot.ofTaken (!database.servers.rows.any (·.id = serverId)), .statement,
              .statement, .statement, .emission, .statement] faults ∧
            rest = faults.drop 6 ∧ faultAt faults 4 ≠ none) := by
    rcases registered : registerAgent realText now serverId request report score
      ⟨noted, passed, left⟩ with ⟨error | _, after, kept, last⟩
    · rw [bind_error registered] at ran
      cases ran
    rw [bind_ok registered] at ran
    cases ran
    refine ⟨fun other same => Option.some.inj same ▸ silent, ?_⟩
    rcases registerAgent_cases registered with accounted | ⟨back, later, isRest, lost⟩
    · left
      rw [← sameTables]
      exact accounted
    · right
      rw [sameTables] at back
      rw [isLeft] at later isRest lost
      rw [List.drop_drop] at isRest
      rw [faultAt_drop] at lost
      exact ⟨⟨noConflict, back⟩, completes_append.mpr ⟨completes, later⟩, isRest, lost⟩
  cases status : report.alignmentStatus with
  | aligned =>
      rw [status] at ran
      exact registers _ rfl (fun same => nomatch status.symm.trans same) ran
  | partial_ =>
      rw [status] at ran
      exact registers _ rfl (fun same => nomatch status.symm.trans same) ran
  | conflict =>
      rw [status] at ran
      have kept : Keeps (fun database : ServerDatabase => presenceView database.toDatabase)
          (deactivateConflictAgent serverId request.pseudonymId) := by
        apply keeps_statement
        intro database count changed done
        cases done
        rfl
      have view := kept _ ⟨noted, passed, left⟩ rfl
      rcases deactivated : deactivateConflictAgent serverId request.pseudonymId
        ⟨noted, passed, left⟩ with ⟨error | updated, after, told, last⟩
      · dsimp only at ran
        rw [bind_error deactivated] at ran
        cases ran
      dsimp only at ran
      rw [bind_ok deactivated] at ran
      rw [deactivated] at view
      cases ran
      constructor
      · intro payload isPayload
        split at isPayload
        · cases isPayload
          rfl
        · cases isPayload
      · left
        apply accounted_of_view
        rw [← sameTables]
        exact view

/-- The event about a node that comes back is logged when the rest of the transaction is. -/
def ReturnNoted (serverId : Nat) (request : AgentHandshakeRequest) (report : VrpValidationReport)
    (database : ServerDatabase) (faults : List (Option String)) : Prop :=
  BringsBack serverId request report database →
    Committed [.statement, Slot.ofTaken (!database.servers.rows.any (·.id = serverId)),
      .statement, .statement, .statement, .emission, .statement] faults →
    faultAt faults 5 = none

theorem storeAgentHandshake_accounted
    (noted : ReturnNoted serverId request report database faults) :
    Accounted database.toDatabase (storeAgentHandshake arithmetic realText ties now serverId
        request report ⟨database, sent, faults⟩).2.database.toDatabase ∧
      ∀ payload, (storeAgentHandshake arithmetic realText ties now serverId request report
        ⟨database, sent, faults⟩).1 = .ok (some payload) → presenceOf payload = none := by
  unfold storeAgentHandshake
  rcases transaction_cases
      (storeAgentOutcome arithmetic realText ties now serverId request report)
      ⟨database, sent, faults⟩ with failed | ⟨event, finished, begins, ran, commits, done⟩
  · rcases failed with ⟨⟨error, failed⟩, same⟩
    rw [same, failed]
    exact ⟨accounted_refl _, fun _ answered => nomatch answered⟩
  · rw [done]
    rcases storeAgentOutcome_cases ran with ⟨silent, accounted | ⟨back, completes, isRest, lost⟩⟩
    · exact ⟨accounted, fun payload same => silent payload (Except.ok.inj same)⟩
    · rw [faultAt_tail] at lost
      rw [isRest, faultAt_drop, faultAt_tail] at commits
      exact absurd (noted back ⟨⟨begins, completes⟩, commits⟩) lost

end AgentHandshake

/-! The operations one after another, each alone. -/

/-- The task that notes the activity of a connection. -/
def touchActivity {Fq Key : Type} (server : EventServer Fq Key) (pseudonymId : String) :
    EventTask Unit Unit := do
  command fun _ => connect fun _ => ()
  let activity ← Task.tolerate (.program fun context =>
    sending (onTables (updateNodeActivity context.now server.serverId pseudonymId)))
  match activity with
  | .ok true => announcePresence [.nodeUpdated pseudonymId true]
  | .ok false => pure ()
  | .error _ => pure ()

/-- What makes, brings back and prunes nodes, and all else that leaves the nodes and what the
log says of them as they are. -/
inductive PresenceRequest where
  | verifyMembership (payload : VerifyMembershipRequest)
  | agentHandshake (request : AgentHandshakeRequest)
  | touch (pseudonymId : String)
  | prune (thresholdSeconds : Nat)
  | elsewhere (change : Task.World ServerDatabase Live → Task.World ServerDatabase Live)
      (unnoted : ∀ world, presenceView (change world).database.toDatabase =
        presenceView world.database.toDatabase)

/-- A request, with what it takes from outside. -/
structure PresenceCall where
  request : PresenceRequest
  context : EventContext
  faults : List (Option String)

section Runs

variable {Fq Key : Type} (server : EventServer Fq Key)

/-- The world after a handler that nothing comes between. -/
def handled {Error α : Type} (task : EventTask Error α) (context : EventContext)
    (faults : List (Option String)) (world : Task.World ServerDatabase Live) :
    Task.World ServerDatabase Live :=
  let ran := task.alone (EventCommand.run server) context ⟨world.database, world.memory, faults⟩
  ⟨ran.2.database, ran.2.memory⟩

def presenceStep (world : Task.World ServerDatabase Live) (call : PresenceCall) :
    Task.World ServerDatabase Live :=
  match call.request with
  | .verifyMembership payload =>
      handled server (verifyMembership server payload) call.context call.faults world
  | .agentHandshake request =>
      handled server (agentHandshakeHandler server request) call.context call.faults world
  | .touch pseudonymId =>
      handled server (touchActivity server pseudonymId) call.context call.faults world
  | .prune thresholdSeconds =>
      handled server (pruneNodes server thresholdSeconds) call.context call.faults world
  | .elsewhere change _ => change world

/-- Activity brings no node back, and the statement that logs an event about a node does not
fail alone. -/
def PresenceNoted (world : Task.World ServerDatabase Live) (call : PresenceCall) : Prop :=
  match call.request with
  | .verifyMembership payload =>
      ∀ recording prepared,
        prepareRecording server.environment server.curve server.membershipVkey call.context.now
            server.serverId payload ⟨world.database.toDatabase, world.memory.sent, call.faults⟩ =
          (.ok recording, prepared) →
        AddsNoted call.context.now payload.topic recording prepared.database prepared.faults
  | .agentHandshake request =>
      faultAt call.faults 0 = none → ∀ localAnchor,
        VrpAnchorSnapshot.new server.environment call.context.clock
            world.memory.policy.principles world.memory.policy.prohibitedActions =
          .ok localAnchor →
        ReturnNoted server.serverId request
          (agentHandshakeReport server.environment localAnchor world.memory.policy
            request.handshake) world.database call.faults.tail
  | .touch pseudonymId =>
      Spared call.faults 3 →
        reactivates server.serverId pseudonymId world.database.toDatabase = false
  | .prune thresholdSeconds =>
      Spared call.faults 2 → thresholdSeconds < 2 ^ 63 →
        ∀ number < world.database.graphNodes.rows.countP
            (isInactive server.serverId (call.context.secondsAgo thresholdSeconds)),
          faultAt call.faults (2 + number) = none
  | .elsewhere _ _ => True

variable {server} {context : EventContext} {faults : List (Option String)}
  {world : Task.World ServerDatabase Live}

theorem verifyMembership_accounted {payload : VerifyMembershipRequest}
    (noted : PresenceNoted server world ⟨.verifyMembership payload, context, faults⟩) :
    Accounted world.database.toDatabase (presenceStep server world
      ⟨.verifyMembership payload, context, faults⟩).database.toDatabase := by
  unfold presenceStep handled
  dsimp only
  rw [alone_verifyMembership]
  exact verifyMembershipHandler_accounted noted

section Emit

variable {Error : Type} {entityId : String} {payload : EventPayload} {database : ServerDatabase}
  {live : Live}

theorem alone_emit_done (emission : faultAt faults 0 = none) :
    ∃ told, (emit server entityId payload : EventTask Error Unit).alone (EventCommand.run server)
        context ⟨database, live, faults⟩ =
      (.ok (), ⟨{ database with
          toDatabase := withEvent context.now server.serverId entityId payload
            database.toDatabase }, told, faults.tail⟩) := by
  rcases @onTables_emit_done Error context.now entityId server.serverId payload database live.sent
    faults emission with ⟨sent, emitted⟩
  refine ⟨{ live with sent }, ?_⟩
  change sending _ _ = _
  unfold sending inMemory
  dsimp only
  rw [emitted]

theorem alone_emit_faulty {text : String} (emission : faultAt faults 0 = some text) :
    (emit server entityId payload : EventTask Error Unit).alone (EventCommand.run server)
      context ⟨database, live, faults⟩ = (.ok (), ⟨database, live, faults.tail⟩) := by
  change sending _ _ = _
  unfold sending inMemory
  dsimp only
  rw [onTables_emit_faulty emission]

/-- An event about something else, as the last that a handler does. -/
theorem emit_presenceView {α : Type} {next : Unit → EventTask Error α}
    (silent : presenceOf payload = none)
    (kept : ∀ session, (((next ()).alone (EventCommand.run server) context) session).2.database =
      session.database) :
    presenceView ((emit server entityId payload >>= next).alone (EventCommand.run server)
      context ⟨database, live, faults⟩).2.database.toDatabase =
        presenceView database.toDatabase := by
  rw [Task.alone_bind]
  cases emission : faultAt faults 0 with
  | some text =>
      rw [bind_ok (alone_emit_faulty emission), kept]
  | none =>
      rcases @alone_emit_done _ _ server _ _ _ _ _ _ _ emission with ⟨told, emitted⟩
      rw [bind_ok emitted, kept]
      exact presenceView_withEvent silent

end Emit

theorem agentHandshakeHandler_accounted {request : AgentHandshakeRequest}
    (noted : PresenceNoted server world ⟨.agentHandshake request, context, faults⟩) :
    Accounted world.database.toDatabase (presenceStep server world
      ⟨.agentHandshake request, context, faults⟩).database.toDatabase := by
  unfold presenceStep handled agentHandshakeHandler
  dsimp only
  rw [Task.alone_bind, alone_command]
  cases connects : faultAt faults 0 with
  | some text =>
      rw [bind_error (connect_faulty connects)]
      exact accounted_refl _
  | none =>
      rw [bind_ok (connect_done connects), Task.alone_bind]
      have policy : ((readPolicy : EventTask ApiError ServerPolicy).alone
          (EventCommand.run server) context) ⟨world.database, world.memory, faults.tail⟩ =
            (.ok world.memory.policy, ⟨world.database, world.memory, faults.tail⟩) := rfl
      rw [bind_ok policy, Task.alone_bind, alone_command]
      rw [bind_orElse]
      split
      · next localAnchor anchored =>
        rw [Task.alone_bind, Task.alone_perform]
        have stored := @storeAgentHandshake_accounted server.environment.arithmetic
          server.realText context.ties context.now server.serverId request
          (agentHandshakeReport server.environment localAnchor world.memory.policy
            request.handshake) world.database world.memory.sent faults.tail
          (noted connects localAnchor anchored)
        rcases stores : storeAgentHandshake server.environment.arithmetic
          server.realText context.ties context.now server.serverId request
          (agentHandshakeReport server.environment localAnchor world.memory.policy
            request.handshake) ⟨world.database, world.memory.sent, faults.tail⟩
          with ⟨result, after⟩
        have ran : EventCommand.run server _ context (.storeAgentHandshake request
            (agentHandshakeReport server.environment localAnchor world.memory.policy
              request.handshake)) ⟨world.database, world.memory, faults.tail⟩ =
            (result, ⟨after.database, { world.memory with sent := after.memory },
              after.faults⟩) := by
          change sending _ _ = _
          unfold sending inMemory
          dsimp only
          rw [stores]
        rw [stores] at stored
        rcases stored with ⟨accounted, silent⟩
        rcases result with error | event
        · rw [bind_error ran]
          exact accounted
        · rw [bind_ok ran]
          cases event with
          | none => exact accounted
          | some payload =>
              exact accounted.trans (accounted_of_view (emit_presenceView (silent payload rfl)
                fun _ => rfl))
      · exact accounted_refl _

theorem touchActivity_accounted {pseudonymId : String}
    (noted : PresenceNoted server world ⟨.touch pseudonymId, context, faults⟩) :
    Accounted world.database.toDatabase (presenceStep server world
      ⟨.touch pseudonymId, context, faults⟩).database.toDatabase := by
  unfold presenceStep handled touchActivity
  dsimp only
  rw [Task.alone_bind, alone_command]
  cases connects : faultAt faults 0 with
  | some text =>
      rw [bind_error (connect_faulty connects)]
      exact accounted_refl _
  | none =>
      rw [bind_ok (connect_done connects), Task.alone_bind, Task.alone_tolerate]
      have outcome := @updateNodeActivity_ensures context.now pseudonymId server.serverId
        world.database.toDatabase _ world.memory.sent faults.tail
      have ends := (@follows_updateNodeActivity context.now server.serverId pseudonymId
        world.database.toDatabase world.memory.sent faults.tail).1
      rcases active : updateNodeActivity context.now server.serverId pseudonymId
        ⟨world.database.toDatabase, world.memory.sent, faults.tail⟩ with
          ⟨result, changed, kept, left⟩
      have ran : attempt (EventCommand.run server _ context (.program fun context =>
          sending (onTables (updateNodeActivity context.now server.serverId pseudonymId))))
            ⟨world.database, world.memory, faults.tail⟩ =
          ((.ok result, ⟨{ world.database with toDatabase := changed },
            { world.memory with sent := kept }, left⟩) : Except Unit _ × _) := by
        change attempt (sending (onTables _)) _ = _
        unfold attempt sending inMemory onTables onPart
        dsimp only
        rw [active]
      rw [active] at outcome ends
      rcases outcome with ⟨-, -, idle⟩
      dsimp only at idle
      rw [bind_ok ran]
      rcases result with error | back
      · exact accounted_of_view (idle fun same => nomatch same)
      · cases back with
        | false => exact accounted_of_view (idle fun same => nomatch same)
        | true =>
            rcases ends with ⟨completes, -, isBack, -⟩
            rw [activitySlots_of_reactivates isBack.symm] at completes
            rcases completes with ⟨first, second, -⟩
            rw [faultAt_tail] at first
            rw [faultAt_tail, faultAt_tail] at second
            have spared : Spared faults 3 := by
              intro number below
              have cases : number = 0 ∨ number = 1 ∨ number = 2 := by omega
              rcases cases with isNumber | isNumber | isNumber
              · rw [isNumber, connects]
              · rw [isNumber, first]
              · rw [isNumber, second]
            exact absurd (noted spared) (by rw [← isBack]; exact Bool.noConfusion)

theorem alone_emitPruned {Error : Type} {database : ServerDatabase} {live : Live}
    (pruned : List String) (emissions : ∀ number < pruned.length, faultAt faults number = none) :
    ∃ told rest, (emitPruned server pruned : EventTask Error Unit).alone (EventCommand.run server)
        context ⟨database, live, faults⟩ =
      (.ok (), ⟨{ database with
          toDatabase := withPruned context.now server.serverId pruned database.toDatabase },
        told, rest⟩) := by
  induction pruned generalizing database live faults with
  | nil => exact ⟨live, faults, rfl⟩
  | cons pseudonymId rest induction =>
      have first := emissions 0 (Nat.zero_lt_succ _)
      rcases @alone_emit_done _ _ server _ _ Error _ _ _ _ first with ⟨told, emitted⟩
      have later : ∀ number < rest.length, faultAt faults.tail number = none := by
        intro number below
        rw [faultAt_tail]
        exact emissions (number + 1) (Nat.succ_lt_succ below)
      rcases induction later with ⟨last, left, finished⟩
      refine ⟨last, left, ?_⟩
      unfold emitPruned
      rw [Task.alone_bind, bind_ok emitted]
      exact finished

theorem pruneNodes_accounted {thresholdSeconds : Nat}
    (distinct : (nodeKeys world.database.toDatabase).Nodup)
    (noted : PresenceNoted server world ⟨.prune thresholdSeconds, context, faults⟩) :
    Accounted world.database.toDatabase (presenceStep server world
      ⟨.prune thresholdSeconds, context, faults⟩).database.toDatabase := by
  unfold presenceStep handled pruneNodes
  dsimp only
  rw [Task.alone_bind, alone_command]
  cases connects : faultAt faults 0 with
  | some text =>
      rw [bind_error (connect_faulty connects)]
      exact accounted_refl _
  | none =>
      rw [bind_ok (connect_done connects), Task.alone_bind, alone_command]
      have outcome := @pruneInactiveNodes_ensures server.serverId
        world.database.toDatabase _ world.memory.sent context.secondsAgo thresholdSeconds
        faults.tail
      rcases prunes : pruneInactiveNodes context.secondsAgo server.serverId thresholdSeconds
        ⟨world.database.toDatabase, world.memory.sent, faults.tail⟩ with
          ⟨result, changed, kept, left⟩
      have ran (wrap : GraphError → String) : mapErr wrap (sending (onTables
          (pruneInactiveNodes context.secondsAgo server.serverId thresholdSeconds)))
            ⟨world.database, world.memory, faults.tail⟩ =
          (result.mapError wrap, ⟨{ world.database with toDatabase := changed },
            { world.memory with sent := kept }, left⟩) := by
        apply mapErr_apply
        unfold sending inMemory onTables onPart
        dsimp only
        rw [prunes]
      rw [prunes] at outcome
      rcases outcome with ⟨-, outcome⟩
      rcases result with error | pruned
      · rw [bind_error (ran _)]
        dsimp only at outcome ⊢
        rw [outcome]
        exact accounted_refl _
      · rw [bind_ok (ran _)]
        rcases outcome with ⟨bounded, isPruned, rows, silent⟩
        dsimp only at isPruned rows silent
        have spared : Spared faults 2 ∧ left = faults.drop 2 := by
          have took := (takes_statement _ _ ..).mp prunes
          rw [← List.drop_one, List.drop_drop] at took
          have later : Spared (faults.drop 1) 1 := List.drop_one ▸ took.1
          exact ⟨(@spared_add 1 1 faults).mpr ⟨spared_one.mpr connects, later⟩, took.2.1⟩
        have emissions : ∀ number < pruned.length, faultAt left number = none := by
          intro number below
          rw [isPruned, List.length_map, ← List.countP_eq_length_filter] at below
          rw [spared.2, faultAt_drop]
          exact noted spared.1 bounded number below
        rcases @alone_emitPruned _ _ server context _ String
            { world.database with toDatabase := changed } { world.memory with sent := kept } pruned
            emissions with ⟨told, rest, emitted⟩
        rw [Task.alone_bind, bind_ok emitted, isPruned]
        have own (row : GraphNode) (selected : isInactive server.serverId
            (context.secondsAgo thresholdSeconds) row = true) : row.serverId = server.serverId := by
          unfold isInactive at selected
          rw [Bool.and_eq_true, Bool.and_eq_true, decide_eq_true_eq] at selected
          exact selected.1.1
        exact accounted_pruned own distinct rows silent

/-- Where every node is as the log says, and none is there twice. -/
def Presented (world : Task.World ServerDatabase Live) : Prop :=
  Audited world.database.toDatabase ∧ (nodeKeys world.database.toDatabase).Nodup

theorem presenceStep_presented {call : PresenceCall} (presented : Presented world)
    (noted : PresenceNoted server world call) : Presented (presenceStep server world call) := by
  have accounted : Accounted world.database.toDatabase
      (presenceStep server world call).database.toDatabase := by
    rcases call with ⟨request, context, faults⟩
    cases request with
    | verifyMembership payload => exact verifyMembership_accounted noted
    | agentHandshake request => exact agentHandshakeHandler_accounted noted
    | touch pseudonymId => exact touchActivity_accounted noted
    | prune thresholdSeconds => exact pruneNodes_accounted presented.2 noted
    | elsewhere change unnoted => exact accounted_of_view (unnoted world)
  exact ⟨accounted.audited presented.1, accounted.distinct presented.2⟩

end Runs

/-- From a server without nodes, every run whose requests note what they do has each node active
exactly when the last event about its presence says so. -/
theorem presence_audited {Fq Key : Type} (server : EventServer Fq Key)
    (world : Task.World ServerDatabase Live) (noNodes : world.database.graphNodes.rows = [])
    (calls : List PresenceCall)
    (noted : Execution.Guarded (presenceStep server) (PresenceNoted server) world calls)
    (state : Task.World ServerDatabase Live)
    (visited : Execution.Visits (presenceStep server) world calls state) :
    Audited state.database.toDatabase := by
  have presented : Presented world := by
    constructor
    · intro node member
      rw [noNodes] at member
      exact absurd member List.not_mem_nil
    · rw [nodeKeys, noNodes]
      exact List.nodup_nil
  have preserved := fun world call held guard =>
    @presenceStep_presented _ _ server world call held guard
  exact (Execution.visits_invariant_of_guarded Presented preserved presented noted state
    visited).1

section Sample

/-! A member is verified, its node is pruned, and the member is active again. -/

def presenceServer : EventServer Unit Unit where
  environment := proofEnvironment
  curve := proofCurve
  membershipVkey := ()
  hash := fun left _ => left
  serverId := 1
  realText := fun _ => "0"
  isWhitespace := Char.isWhitespace

def presenceWorld : Task.World ServerDatabase Live where
  database :=
    { provenRootDatabase with
      servers := singleServer
      vrpIdentities := Table.empty.insert fun rowId =>
        ⟨rowId, unregisteredRequest.payload.commitment, 1, 0⟩ }
  memory := ⟨MerkleTree.new (fun left _ => left) 1, .default, [], [], []⟩

def presenceCall (request : PresenceRequest) : PresenceCall :=
  ⟨request, ⟨"1", some 0, ⟨id, id⟩, fun _ => some "2"⟩, []⟩

def afterPresence (requests : List PresenceRequest) : Task.World ServerDatabase Live :=
  Execution.run (presenceStep presenceServer) presenceWorld (requests.map presenceCall)

/-- The nodes are active or not, after the requests. -/
def activeAfter (requests : List PresenceRequest) : List Bool :=
  (afterPresence requests).database.graphNodes.rows.map GraphNode.active

/-- The node of a member is pruned. -/
theorem presence_audited_pruned :
    activeAfter [.verifyMembership unregisteredRequest.payload, .prune 0] = [false] ∧
      Audited (afterPresence [.verifyMembership unregisteredRequest.payload,
        .prune 0]).database.toDatabase := by
  refine ⟨by decide +kernel, ?_⟩
  apply presence_audited presenceServer presenceWorld rfl
    ([.verifyMembership unregisteredRequest.payload, .prune 0].map presenceCall)
  · refine ⟨?_, ?_, trivial⟩
    · intro recording prepared ran _
      have isRest : prepared.faults = [] :=
        (congrArg (fun ran => ran.2.faults) ran).symm.trans (by decide +kernel)
      rw [isRest]
      rfl
    · intro _ _ number _
      exact spared_nil (2 + number + 1) _ (Nat.lt_succ_self _)
  · exact ⟨_, List.prefix_rfl, rfl⟩

/-- The node of a member that was pruned comes back without an event. -/
theorem not_presence_audited :
    ¬ ∀ (world : Task.World ServerDatabase Live), world.database.graphNodes.rows = [] →
      ∀ (calls : List PresenceCall) (state : Task.World ServerDatabase Live),
        Execution.Visits (presenceStep presenceServer) world calls state →
          Audited state.database.toDatabase := by
  intro audited
  have unnoted := audited presenceWorld rfl ([.verifyMembership unregisteredRequest.payload,
    .prune 0, .touch (String.ofList (List.replicate 64 '0'))].map presenceCall) _
      ⟨_, List.prefix_rfl, rfl⟩
  revert unnoted
  decide +kernel

end Sample

end Annex.Server
