import Annex.Foundation.SqlAnswer
import Annex.Graph.Node
import Annex.Identity.Proof
import Annex.Identity.Pseudonym
import Annex.Server.State

namespace Annex.Server

open Db Identity Observe Sql

/-! `POST /api/zk/verify-membership`: check a proof against a known root and the
claimed commitment, then hand out the pseudonym of the commitment in the topic. -/

structure VerifyMembershipRequest where
  root : String
  commitment : String
  topic : String
  proof : JsonText SnarkJsProof
  publicSignals : List String
deriving DecidableEq, Repr

section Handler

variable {Fq Key : Type} (environment : Environment) (curve : Curve Fq Key)
  (membershipVkey : Key) (now : String)

/-- Steps 1 to 4: the root is known, the proof verifies, and its public signals
are the claimed root and commitment as field elements. -/
def checkMembershipProof (payload : VerifyMembershipRequest) : Handler Unit := do
  let count ← query dbQueryFailed fun database =>
    .ok (database.vrpRoots.rows.filter (·.rootHex = payload.root)).length
  check (0 < count) (.conflict ("stale or invalid root: " ++ payload.root))
  let proof ← orElse (parseProof curve environment payload.proof) fun error =>
    .badRequest ("invalid proof format: " ++ error.text)
  let publicSignals ← orElse (parsePublicSignals curve payload.publicSignals) fun error =>
    .badRequest ("invalid public signals format: " ++ error.text)
  let valid ← orElse (verifyProof curve membershipVkey proof publicSignals) fun error =>
    .unauthorized ("proof verification failed: " ++ error.text)
  check (valid = true) (.unauthorized "invalid proof")
  check (publicSignals.length = 2) (.badRequest "invalid number of public signals")
  let claimedRoot ← orElse (parseFrFromHex payload.root) fun error =>
    .badRequest ("invalid root hex: " ++ error.text)
  let claimedCommitment ← orElse (parseFrFromHex payload.commitment) fun error =>
    .badRequest ("invalid commitment hex: " ++ error.text)
  check (publicSignals.getD 0 0 = claimedRoot)
    (.badRequest "proof root does not match claimed root")
  check (publicSignals.getD 1 0 = claimedCommitment)
    (.badRequest "proof commitment does not match claimed commitment")

/-- Step 7: the role registered for exactly this commitment text. -/
def lookupRole (commitment : String) : Handler RoleCode := do
  let found ← query dbQueryFailed fun database =>
    match database.vrpIdentities.rows.find? (·.commitmentHex = commitment) with
    | none => .ok none
    | some row =>
        if row.roleCode < 256 then .ok (some row.roleCode)
        else .error (.conversion
          ("Integer " ++ toString row.roleCode ++ " out of range at index 0"))
  let roleCodeInt ← require found (.notFound "identity not found in registry")
  require (RoleCode.fromU8 roleCodeInt)
    (.internalServerError ("invalid role code in db: " ++ toString roleCodeInt))

/-- Step 8: the id of the first server row. -/
def lookupServerId : Handler Nat := do
  let found ← query dbQueryFailed fun database =>
    .ok (database.servers.rows.head?.map Server.id)
  require found (.internalServerError "no server configured")

/-- Step 9: the metadata of an agent that is already registered. -/
def agentMetadata (serverId : Nat) (pseudonymId : String) (roleCode : RoleCode) :
    Handler (Option AgentMetadata) := do
  if roleCode = .aiAgent then
    let agentData ← query dbQueryFailed fun database =>
      .ok (database.agentRegistrations.rows.find? fun row =>
        row.serverId = serverId && row.pseudonymId = pseudonymId)
    match agentData with
    | none => pure none
    | some row =>
        check (row.capabilityContractJson.isJson = true)
          (.internalServerError "corrupted agent capability contract in database")
        pure (some
          { alignmentStatus := row.alignmentStatus
            transferScope := row.transferScope
            capabilityContract := row.capabilityContractJson
            reputationScore := row.reputationScore })
  else
    pure none

def nullifierFailed : IdentityError → ApiError
  | .duplicateNullifier topic => .conflict (IdentityError.duplicateNullifier topic).text
  | error => .internalServerError ("failed to insert nullifier: " ++ error.text)

/-- Step 10, inside its transaction: nullifier, identity, node and events. -/
def recordPseudonym (stateServerId serverId : Nat) (payload : VerifyMembershipRequest)
    (nullifierHex pseudonymId : String) (roleCode : RoleCode)
    (metadataJson : Option AgentMetadata) : Handler Unit := do
  mapErr nullifierFailed (insertNullifier payload.topic nullifierHex (some pseudonymId)
    (some payload.commitment))
  emitAndBroadcast now stateServerId pseudonymId
    (.pseudonymDerived pseudonymId payload.topic)
  let _ ← mapErr
    (fun error : IdentityError =>
      .internalServerError ("failed to create platform identity: " ++ error.text))
    (createPlatformIdentity serverId pseudonymId roleCode)
  let _ ← mapErr
    (fun error : Graph.GraphError =>
      .internalServerError ("failed to ensure graph node: " ++ error.text))
    (Graph.ensureGraphNode now serverId pseudonymId (roleCodeToNodeType roleCode)
      metadataJson)
  emitAndBroadcast now serverId pseudonymId
    (.nodeAdded pseudonymId (roleCodeToNodeType roleCode).debug)

/-- The handler, answering with the pseudonym. `stateServerId` is the id the
server was started with. -/
def verifyMembershipHandler (stateServerId : Nat) (payload : VerifyMembershipRequest) :
    Handler String := do
  connect dbConnectionFailed
  checkMembershipProof environment curve membershipVkey payload
  emitAndBroadcast now stateServerId payload.commitment
    (.identityVerified payload.commitment payload.topic)
  let nullifierHex ← orElse
    (deriveNullifierHex environment payload.commitment payload.topic) fun error =>
      .badRequest ("failed to derive nullifier: " ++ error.text)
  let pseudonymId ← orElse (derivePseudonymId environment payload.topic nullifierHex)
    fun error => .internalServerError ("failed to derive pseudonym: " ++ error.text)
  let roleCode ← lookupRole payload.commitment
  let serverId ← lookupServerId
  let metadataJson ← agentMetadata serverId pseudonymId roleCode
  transaction startFailed commitFailed
    (recordPseudonym now stateServerId serverId payload nullifierHex pseudonymId roleCode
      metadataJson)
  send (.presence (.nodeUpdated pseudonymId true))
  pure pseudonymId

end Handler

open Db Identity Sql

/-! What a membership verification asks for, leaves alone, and hands out. -/

variable {Fq Key : Type} {environment : Environment} {curve : Curve Fq Key}
  {membershipVkey : Key} {now : String} {stateServerId : Nat}
  {payload : VerifyMembershipRequest} {database : Database} {sent : List Outbound}

/-- Whether there is a platform identity of the pseudonym on the server. -/
def hasIdentity (serverId : Nat) (pseudonymId : String) (database : Database) : Bool :=
  database.platformIdentities.rows.any fun row =>
    row.serverId = serverId && row.pseudonymId = pseudonymId

/-- The role a commitment is registered with. -/
def registeredRole (commitment : String) (database : Database) : Option RoleCode :=
  (database.vrpIdentities.rows.find? (·.commitmentHex = commitment)).bind fun row =>
    RoleCode.fromU8 row.roleCode

/-- The server local verifications belong to. -/
def firstServer (database : Database) : Option Nat :=
  database.servers.rows.head?.map Server.id

theorem mem_of_registeredRole {commitment : String} {role : RoleCode}
    (registered : registeredRole commitment database = some role) :
    ∃ row ∈ database.vrpIdentities.rows, row.commitmentHex = commitment := by
  unfold registeredRole at registered
  cases found : database.vrpIdentities.rows.find? (·.commitmentHex = commitment) with
  | none => simp [found] at registered
  | some row =>
      exact ⟨row, List.mem_of_find?_eq_some found, by simpa using List.find?_some found⟩

section Checks

/-- What the checks on a proof ask for. -/
structure MembershipProven (environment : Environment) (curve : Curve Fq Key)
    (membershipVkey : Key) (payload : VerifyMembershipRequest) (database : Database) :
    Prop where
  root : ∃ row ∈ database.vrpRoots.rows, row.rootHex = payload.root
  proved : ∃ proof publicSignals root commitment,
    parseProof curve environment payload.proof = .ok proof ∧
      parsePublicSignals curve payload.publicSignals = .ok publicSignals ∧
      verifyProof curve membershipVkey proof publicSignals = .ok true ∧
      publicSignals.length = 2 ∧
      parseFrFromHex payload.root = .ok root ∧
      parseFrFromHex payload.commitment = .ok commitment ∧
      publicSignals.getD 0 0 = root ∧ publicSignals.getD 1 0 = commitment

theorem looks_checkMembershipProof :
    Looks (checkMembershipProof environment curve membershipVkey payload) := by
  unfold checkMembershipProof
  refine looks_bind (looks_query _ _) fun count => ?_
  refine looks_bind (looks_check _ _) fun _ => ?_
  refine looks_bind (looks_orElse _ _) fun proof => ?_
  refine looks_bind (looks_orElse _ _) fun publicSignals => ?_
  refine looks_bind (looks_orElse _ _) fun valid => ?_
  refine looks_bind (looks_check _ _) fun _ => ?_
  refine looks_bind (looks_check _ _) fun _ => ?_
  refine looks_bind (looks_orElse _ _) fun claimedRoot => ?_
  refine looks_bind (looks_orElse _ _) fun claimedCommitment => ?_
  exact looks_bind (looks_check _ _) fun _ => looks_check _ _

theorem answers_checkMembershipProof :
    Answers (checkMembershipProof environment curve membershipVkey payload) database sent
        () ↔
      MembershipProven environment curve membershipVkey payload database := by
  simp only [checkMembershipProof, answers_bind, answers_query, answers_check,
    answers_orElse, looks_query, looks_check, looks_orElse, exists_const, Except.ok.injEq,
    exists_eq_left', List.length_pos_iff_exists_mem, List.mem_filter, decide_eq_true_eq]
  constructor
  · rintro ⟨root, proof, parsed, publicSignals, signals, valid, verified, isTrue, length,
      claimedRoot, parsedRoot, claimedCommitment, parsedCommitment, sameRoot,
      sameCommitment⟩
    exact ⟨root, proof, publicSignals, claimedRoot, claimedCommitment, parsed, signals,
      isTrue ▸ verified, length, parsedRoot, parsedCommitment, sameRoot, sameCommitment⟩
  · rintro ⟨root, proof, publicSignals, claimedRoot, claimedCommitment, parsed, signals,
      verified, length, parsedRoot, parsedCommitment, sameRoot, sameCommitment⟩
    exact ⟨root, proof, parsed, publicSignals, signals, true, verified, rfl, length,
      claimedRoot, parsedRoot, claimedCommitment, parsedCommitment, sameRoot,
      sameCommitment⟩

theorem looks_lookupRole (commitment : String) : Looks (lookupRole commitment) :=
  looks_bind (looks_query _ _) fun _ => looks_bind (looks_require _ _) fun _ =>
    looks_require _ _

/-- A role that is found is the registered one. -/
theorem registeredRole_of_answers {commitment : String} {role : RoleCode}
    (answers : Answers (lookupRole commitment) database sent role) :
    registeredRole commitment database = some role := by
  simp only [lookupRole, answers_bind, answers_query, answers_require, looks_query,
    looks_require] at answers
  rcases answers with ⟨found, readable, code, rfl, known⟩
  unfold registeredRole
  cases looked : database.vrpIdentities.rows.find? (·.commitmentHex = commitment) with
  | none => simp [looked] at readable
  | some row =>
      simp only [looked] at readable
      split at readable
      · cases readable
        exact known
      · cases readable

theorem looks_lookupServerId : Looks lookupServerId :=
  looks_bind (looks_query _ _) fun _ => looks_require _ _

theorem answers_lookupServerId {serverId : Nat} :
    Answers lookupServerId database sent serverId ↔ firstServer database = some serverId := by
  simp [lookupServerId, answers_bind, firstServer]

theorem looks_agentMetadata (serverId : Nat) (pseudonymId : String) (role : RoleCode) :
    Looks (agentMetadata serverId pseudonymId role) := by
  unfold agentMetadata
  split
  · refine looks_bind (looks_query _ _) fun agentData => ?_
    cases agentData with
    | none => exact looks_pure _
    | some row => exact looks_bind (looks_check _ _) fun _ => looks_pure _
  · exact looks_pure _

end Checks

section Record

theorem insertNullifier_keeps {γ Memory : Type} {view : Database → γ}
    {topic nullifierHex : String} {owner commitmentHex : Option String}
    (nullifiers : ∀ (database : Database) zkNullifiers,
      view { database with zkNullifiers } = view database) :
    Keeps view (insertNullifier topic nullifierHex owner commitmentHex :
      Sql Database Memory IdentityError Unit) := by
  apply keeps_execute
  intro database changed inserted
  split at inserted
  · cases inserted
  · cases inserted
    exact nullifiers _ _

theorem createPlatformIdentity_keeps {γ Memory : Type} {view : Database → γ} {serverId : Nat}
    {pseudonymId : String} {roleCode : RoleCode}
    (identities : ∀ (database : Database) platformIdentities,
      view { database with platformIdentities } = view database) :
    Keeps view (createPlatformIdentity serverId pseudonymId roleCode :
      Sql Database Memory IdentityError _) := by
  refine keeps_bind (keeps_execute ?_) fun _ => (reads_query _ _).keeps
  intro database changed inserted
  unfold insertPlatformIdentity at inserted
  split at inserted
  · cases inserted
  · cases inserted
    exact identities _ _

variable {serverId : Nat} {nullifierHex pseudonymId : String} {role : RoleCode}
  {metadata : Option AgentMetadata}

/-- Recording a pseudonym logs two events and does not touch the other tables. -/
theorem recordPseudonym_keeps {γ : Type} {view : Database → γ}
    (nullifiers : ∀ (database : Database) zkNullifiers,
      view { database with zkNullifiers } = view database)
    (derived : Keeps view (emitAndBroadcast now stateServerId pseudonymId
      (.pseudonymDerived pseudonymId payload.topic) : Handler Unit))
    (added : Keeps view (emitAndBroadcast now serverId pseudonymId
      (.nodeAdded pseudonymId (roleCodeToNodeType role).debug) : Handler Unit))
    (identities : ∀ (database : Database) platformIdentities,
      view { database with platformIdentities } = view database)
    (nodes : ∀ (database : Database) graphNodes,
      view { database with graphNodes } = view database) :
    Keeps view (recordPseudonym now stateServerId serverId payload nullifierHex pseudonymId
      role metadata) := by
  unfold recordPseudonym
  refine keeps_bind (keeps_mapErr (insertNullifier_keeps nullifiers)) fun _ => ?_
  refine keeps_bind derived fun _ => ?_
  refine keeps_bind (keeps_mapErr (createPlatformIdentity_keeps identities)) fun _ => ?_
  exact keeps_bind (keeps_mapErr (Graph.ensureGraphNode_keeps nodes)) fun _ => added

/-- A new platform identity, behind those there are. -/
structure IdentityCreated (serverId : Nat) (pseudonymId : String) (role : RoleCode)
    (database changed : Database) : Prop where
  new : hasIdentity serverId pseudonymId database = false
  created : ∃ row, changed.platformIdentities.rows = database.platformIdentities.rows ++ [row] ∧
    row.serverId = serverId ∧ row.pseudonymId = pseudonymId ∧
      row.participantType = role.label

/-- An identity that is created joins those there are. -/
theorem IdentityCreated.hasIdentity_eq {changed : Database}
    (created : IdentityCreated serverId pseudonymId role database changed)
    (otherServer : Nat) (otherPseudonym : String) :
    hasIdentity otherServer otherPseudonym changed =
      (hasIdentity otherServer otherPseudonym database ||
        (serverId = otherServer && pseudonymId = otherPseudonym)) := by
  rcases created.created with ⟨row, rows, rfl, rfl, -⟩
  simp [hasIdentity, rows]

theorem IdentityCreated.of_eq {old new database changed : Database}
    (created : IdentityCreated serverId pseudonymId role old new)
    (before : old.platformIdentities = database.platformIdentities)
    (after : changed.platformIdentities = new.platformIdentities) :
    IdentityCreated serverId pseudonymId role database changed where
  new := by
    rw [hasIdentity, ← before]
    exact created.new
  created := by
    rw [after, ← before]
    exact created.created

theorem insertPlatformIdentity_eq_ok {changed : Database}
    (inserted : insertPlatformIdentity serverId pseudonymId role database = .ok changed) :
    IdentityCreated serverId pseudonymId role database changed := by
  unfold insertPlatformIdentity at inserted
  split at inserted
  · cases inserted
  · next new =>
    cases inserted
    exact ⟨Bool.eq_false_iff.mpr new, _, rfl, rfl, rfl, rfl⟩

/-- What is recorded without an error holds the new identity. -/
theorem recordPseudonym_ensures :
    Ensures (recordPseudonym now stateServerId serverId payload nullifierHex pseudonymId role
        metadata) database sent fun result changed _ =>
      ∀ done, result = .ok done → IdentityCreated serverId pseudonymId role database changed := by
  have identities : ∀ (database : Database) publicEventLog,
      { database with publicEventLog }.platformIdentities = database.platformIdentities :=
    fun _ _ => rfl
  refine ensures_bind (ensures_mapErr (ensures_execute ?_ ?_ ?_))
  · intro _ _ failed
    cases failed
  swap
  · intro _ _ _ failed
    cases failed
  intro first inserted
  have same : first.platformIdentities = database.platformIdentities := by
    split at inserted
    · cases inserted
    · cases inserted
      rfl
  rw [Except.mapError, andThen_ok]
  refine ensures_bind (emitAndBroadcast_ensures _ _ _ _ fun publicEventLog _ => ?_)
  rw [andThen_ok]
  refine ensures_bind (ensures_mapErr (ensures_bind (ensures_execute ?_ ?_ ?_)))
  · intro _ _ failed
    cases failed
  swap
  · intro _ _ _ failed
    cases failed
  intro second written
  have created : ∀ changed, changed.platformIdentities = second.platformIdentities →
      IdentityCreated serverId pseudonymId role database changed :=
    fun changed after => (insertPlatformIdentity_eq_ok written).of_eq same after
  rw [andThen_ok]
  refine ensures_query (fun _ _ failed => by cases failed) ?_ fun _ _ _ failed => by cases failed
  intro identity _
  rw [Except.mapError, andThen_ok]
  have kept : Keeps Database.platformIdentities (do
      let _ ← mapErr
        (fun error : Graph.GraphError =>
          .internalServerError ("failed to ensure graph node: " ++ error.text))
        (Graph.ensureGraphNode now serverId pseudonymId (roleCodeToNodeType role) metadata)
      emitAndBroadcast now serverId pseudonymId
        (.nodeAdded pseudonymId (roleCodeToNodeType role).debug) : Handler Unit) :=
    keeps_bind (keeps_mapErr (Graph.ensureGraphNode_keeps fun _ _ => rfl)) fun _ =>
      emitAndBroadcast_keeps identities
  exact ensures_mono (fun _ changed _ held _ _ => created changed held) kept.ensures

end Record

section Handler

/-- A verification touches the event log, the nullifiers, the identities and the nodes. -/
theorem verifyMembershipHandler_keeps {γ : Type} {view : Database → γ}
    (nullifiers : ∀ (database : Database) zkNullifiers,
      view { database with zkNullifiers } = view database)
    (unlogged : ∀ (database : Database) publicEventLog,
      view { database with publicEventLog } = view database)
    (identities : ∀ (database : Database) platformIdentities,
      view { database with platformIdentities } = view database)
    (nodes : ∀ (database : Database) graphNodes,
      view { database with graphNodes } = view database) :
    Keeps view (verifyMembershipHandler environment curve membershipVkey now stateServerId
      payload) :=
  keeps_bind (reads_connect _).keeps fun _ =>
    keeps_bind looks_checkMembershipProof.reads.keeps fun _ =>
    keeps_bind (emitAndBroadcast_keeps unlogged) fun _ =>
    keeps_bind (reads_orElse _ _).keeps fun _ => keeps_bind (reads_orElse _ _).keeps fun _ =>
    keeps_bind (looks_lookupRole _).reads.keeps fun _ =>
    keeps_bind looks_lookupServerId.reads.keeps fun _ =>
    keeps_bind (looks_agentMetadata _ _ _).reads.keeps fun _ =>
    keeps_bind (keeps_transaction (recordPseudonym_keeps nullifiers
      (emitAndBroadcast_keeps unlogged) (emitAndBroadcast_keeps unlogged) identities nodes))
      fun _ => keeps_bind (keeps_send _) fun _ => (reads_pure _).keeps

theorem verifyMembershipHandler_servers (session : Session Database (List Outbound)) :
    (verifyMembershipHandler environment curve membershipVkey now stateServerId payload
      session).2.database.servers = session.database.servers :=
  (verifyMembershipHandler_keeps (fun _ _ => rfl) (fun _ _ => rfl) (fun _ _ => rfl)
    fun _ _ => rfl : Keeps Database.servers _) _ session rfl

theorem verifyMembershipHandler_vrpIdentities (session : Session Database (List Outbound)) :
    (verifyMembershipHandler environment curve membershipVkey now stateServerId payload
      session).2.database.vrpIdentities = session.database.vrpIdentities :=
  (verifyMembershipHandler_keeps (fun _ _ => rfl) (fun _ _ => rfl) (fun _ _ => rfl)
    fun _ _ => rfl : Keeps Database.vrpIdentities _) _ session rfl

/-- What an accepted verification means for the database. -/
structure Verified (environment : Environment) (payload : VerifyMembershipRequest)
    (pseudonymId : String) (database changed : Database) : Prop where
  derived : deriveTopicScopedPseudonym environment payload.commitment payload.topic =
    .ok pseudonymId
  created : ∃ serverId role, firstServer database = some serverId ∧
    registeredRole payload.commitment database = some role ∧
    IdentityCreated serverId pseudonymId role database changed

theorem verifyMembershipHandler_ensures :
    Ensures (verifyMembershipHandler environment curve membershipVkey now stateServerId
        payload) database sent fun result changed _ =>
      (∀ error, result = .error error →
        changed.platformIdentities = database.platformIdentities) ∧
      ∀ pseudonymId, result = .ok pseudonymId →
        Verified environment payload pseudonymId database changed := by
  have refused : ∀ (error : ApiError) (changed : Database),
      changed.platformIdentities = database.platformIdentities →
      (∀ other, (Except.error error : Except ApiError String) = .error other →
        changed.platformIdentities = database.platformIdentities) ∧
      ∀ pseudonymId, (Except.error error : Except ApiError String) = .ok pseudonymId →
        Verified environment payload pseudonymId database changed :=
    fun _ _ same => ⟨fun _ _ => same, fun _ failed => nomatch failed⟩
  refine (looks_connect _).ensures_bind (fun error => refused error _ rfl) fun _ _ => ?_
  refine looks_checkMembershipProof.ensures_bind (fun error => refused error _ rfl)
    fun _ _ => ?_
  refine ensures_bind (emitAndBroadcast_ensures _ _ _ _ fun publicEventLog extra => ?_)
  rw [andThen_ok]
  refine (looks_orElse _ _).ensures_bind (fun error => refused error _ rfl)
    fun nullifierHex nullifier => ?_
  refine (looks_orElse _ _).ensures_bind (fun error => refused error _ rfl)
    fun pseudonymId pseudonym => ?_
  have derived : deriveTopicScopedPseudonym environment payload.commitment payload.topic =
      .ok pseudonymId := by
    rw [deriveTopicScopedPseudonym, answers_orElse.mp nullifier]
    exact answers_orElse.mp pseudonym
  refine (looks_lookupRole _).ensures_bind (fun error => refused error _ rfl)
    fun role answersRole => ?_
  have registered := registeredRole_of_answers answersRole
  refine looks_lookupServerId.ensures_bind (fun error => refused error _ rfl)
    fun serverId answersServer => ?_
  have server := answers_lookupServerId.mp answersServer
  refine (looks_agentMetadata _ _ _).ensures_bind (fun error => refused error _ rfl)
    fun metadata _ => ?_
  refine ensures_bind (ensures_transaction (fun _ => refused _ _ rfl)
    (ensures_mono ?_ recordPseudonym_ensures))
  rintro (error | done) changed after held
  · exact refused error _ rfl
  · have created : IdentityCreated serverId pseudonymId role database changed :=
      (held done rfl).of_eq rfl rfl
    refine ⟨?_, fun _ => refused _ _ rfl⟩
    rw [andThen_ok]
    refine ensures_bind ((ensures_send _).mpr ?_)
    rw [andThen_ok, ensures_pure]
    refine ⟨fun _ failed => (nomatch failed), ?_⟩
    rintro _ ⟨⟩
    exact ⟨derived, serverId, role, server, registered, created⟩

end Handler

end Annex.Server
