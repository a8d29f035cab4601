import Annex.Identity.NewCommitment
import Annex.Server.EventRecords
import Annex.Server.EventTransactions

namespace Annex.Server

open Db Identity Observe Sql Vrp

/-! What the registration of an identity and the verification of its membership are answered
with when nothing fails, and what they leave alone. -/

section Parts

variable {Error α : Type} {database : ServerDatabase} {live : Live}

theorem ensures_onTree {program : Sql Database (MerkleTree Fr) Error α}
    {post : Except Error α → ServerDatabase → Live → Prop}
    (holds : Ensures program database.toDatabase live.tree fun result changed tree =>
      post result { database with toDatabase := changed } { live with tree }) :
    Ensures (onTree program) database live post :=
  fun faults => holds faults

theorem achieves_onTree {program : Sql Database (MerkleTree Fr) Error α}
    {post : α → ServerDatabase → Live → Prop}
    (holds : Achieves program database.toDatabase live.tree fun value changed tree =>
      post value { database with toDatabase := changed } { live with tree }) :
    Achieves (onTree program) database live post := by
  rcases holds with ⟨value, changed, tree, ran, held⟩
  refine ⟨value, _, _, ?_, held⟩
  simp only [onTree, inMemory, onPart, ran]

theorem ensures_onTables {program : Sql Database (List Outbound) Error α}
    {post : Except Error α → ServerDatabase → Live → Prop}
    (holds : Ensures program database.toDatabase live.sent fun result changed sent =>
      post result { database with toDatabase := changed } { live with sent }) :
    Ensures (sending (onTables program)) database live post :=
  fun faults => holds faults

theorem achieves_onTables {program : Sql Database (List Outbound) Error α}
    {post : α → ServerDatabase → Live → Prop}
    (holds : Achieves program database.toDatabase live.sent fun value changed sent =>
      post value { database with toDatabase := changed } { live with sent }) :
    Achieves (sending (onTables program)) database live post := by
  rcases holds with ⟨value, changed, sent, ran, held⟩
  refine ⟨value, _, _, ?_, held⟩
  simp only [sending, inMemory, onTables, onPart, ran]

end Parts

section Register

variable {Fq Key : Type} {server : EventServer Fq Key} {context : EventContext}
  {payload : RegisterRequest} {database : ServerDatabase} {live : Live}

/-- The role a registration asks for. -/
def requestedRole (payload : RegisterRequest) : Except ApiError RoleCode :=
  match RoleCode.fromU8 payload.roleCode with
  | some role => .ok role
  | none => .error (.badRequest ("invalid role code: " ++ toString payload.roleCode))

/-- `register_handler` as a whole. -/
theorem alone_registerHandler :
    (registerHandler server payload).alone (EventCommand.run server) context = (do
      let role ← ofExcept (requestedRole payload)
      connect dbConnectionFailed
      let result ← mapErr registrationFailed
        (onTree (registerIdentity server.hash context.now payload.commitmentHex role
          payload.nodeId))
      sending (onTables (emitAndBroadcast context.now server.serverId payload.commitmentHex
        (.identityRegistered payload.commitmentHex role.asU8)))
      pure result) := by
  unfold registerHandler
  simp only [Task.alone_bind, alone_command]
  rfl

/-- A registration that is answered with an error has not touched the tree or its database,
and after one that is answered the commitment is registered. -/
theorem registerHandler_ensures {depth : Nat} {leaves : List Fr}
    (synced : (Registry.mk live.tree database.toDatabase).Synced server.hash depth leaves) :
    Ensures ((registerHandler server payload).alone (EventCommand.run server) context) database
      live fun result changed after =>
        (∃ error, result = .error error) ∧ changed.toDatabase = database.toDatabase ∧
            after.tree = live.tree ∨
          IsRegistered (toAsciiLowercase payload.commitmentHex) changed.toDatabase := by
  rw [alone_registerHandler]
  refine ensures_bind ((ensures_ofExcept _).mpr ?_)
  cases requestedRole payload with
  | error error => exact Or.inl ⟨⟨error, rfl⟩, rfl, rfl⟩
  | ok role =>
      rw [andThen_ok]
      refine (looks_connect _).ensures_bind (fun error => Or.inl ⟨⟨error, rfl⟩, rfl, rfl⟩)
        fun _ _ => ?_
      refine ensures_bind (ensures_mapErr (ensures_onTree ?_))
      intro faults
      have registers :=
        Registry.registerIdentity_registers synced context.now payload.commitmentHex role
          payload.nodeId faults
      have answered := @registerIdentity_answered server.hash context.now payload.commitmentHex
        role payload.nodeId database.toDatabase live.tree faults
      cases ran : (registerIdentity server.hash context.now payload.commitmentHex role
          payload.nodeId ⟨database.toDatabase, live.tree, faults⟩).1 with
      | error error =>
          rw [ran] at registers
          exact Or.inl ⟨⟨_, rfl⟩, registers.1, registers.2⟩
      | ok result =>
          rw [Except.mapError, andThen_ok]
          refine ensures_bind (ensures_onTables
            (emitAndBroadcast_ensures _ _ _ _ fun publicEventLog extra => ?_))
          rw [andThen_ok, ensures_pure]
          exact Or.inr (answered result ran)

/-- A commitment that is registered is not registered again. -/
theorem registerHandler_refused
    (registered : IsRegistered (toAsciiLowercase payload.commitmentHex) database.toDatabase) :
    Ensures ((registerHandler server payload).alone (EventCommand.run server) context) database
      live fun result _ _ => ∃ error, result = .error error := by
  rw [alone_registerHandler]
  refine ensures_bind ((ensures_ofExcept _).mpr ?_)
  cases requestedRole payload with
  | error error => exact ⟨error, rfl⟩
  | ok role =>
      rw [andThen_ok]
      refine (looks_connect _).ensures_bind (fun error => ⟨error, rfl⟩) fun _ _ => ?_
      refine ensures_bind (ensures_mapErr (ensures_onTree ?_))
      refine ensures_mono ?_ (registerIdentity_refused registered)
      intro result changed tree failed
      rcases failed with ⟨error, failed⟩
      rw [failed]
      exact ⟨_, rfl⟩

theorem registerHandler_keepsRegistered {text : String}
    (registered : IsRegistered text database.toDatabase) :
    Ensures ((registerHandler server payload).alone (EventCommand.run server) context) database
      live fun _ changed _ => IsRegistered text changed.toDatabase := by
  rw [alone_registerHandler]
  refine ensures_bind ((ensures_ofExcept _).mpr ?_)
  cases requestedRole payload with
  | error error => exact registered
  | ok role =>
      rw [andThen_ok]
      refine (looks_connect _).ensures_bind (fun error => registered) fun _ _ => ?_
      refine ensures_bind (ensures_mapErr (ensures_onTree ?_))
      refine ensures_mono ?_ (registerIdentity_keepsRegistered registered)
      intro result changed tree still
      cases result with
      | error error => exact still
      | ok result =>
          rw [Except.mapError, andThen_ok]
          refine ensures_bind (ensures_onTables
            (emitAndBroadcast_ensures _ _ _ _ fun publicEventLog extra => ?_))
          rw [andThen_ok, ensures_pure]
          exact still

/-- What a verification reads besides the registry. -/
def verifiedTables (database : Database) :
    Table ZkNullifier × Table Db.Server × Table PlatformIdentity × Table GraphNode ×
      Table AgentRegistration :=
  (database.zkNullifiers, database.servers, database.platformIdentities, database.graphNodes,
    database.agentRegistrations)

/-- A new commitment is registered, and what a verification reads stays. -/
theorem registerHandler_achieves {depth : Nat} {leaves : List Fr} {role : RoleCode}
    {commitment : Fr}
    (synced : (Registry.mk live.tree database.toDatabase).Synced server.hash depth leaves)
    (room : leaves.length < capacity depth) (representable : leaves.length < 2 ^ 63)
    (new : ¬ IsRegistered (frToHex commitment) database.toDatabase)
    (known : RoleCode.fromU8 payload.roleCode = some role)
    (text : payload.commitmentHex = frToHex commitment) :
    Achieves ((registerHandler server payload).alone (EventCommand.run server) context) database
      live fun result changed after =>
        Added server.hash depth ⟨live.tree, database.toDatabase⟩ leaves commitment role
            result changed.toDatabase after.tree ∧
          verifiedTables changed.toDatabase = verifiedTables database.toDatabase := by
  have requested : requestedRole payload = .ok role := by
    rw [requestedRole, known]
  rw [alone_registerHandler, requested, text]
  apply (answers_ofExcept.mpr rfl).achieves_bind
  apply (connect_answers _).achieves_bind
  apply achieves_bind
  apply achieves_mapErr
  apply achieves_onTree
  have registers : Achieves (registerIdentity server.hash context.now (frToHex commitment) role
      payload.nodeId) database.toDatabase live.tree
      (Added server.hash depth ⟨live.tree, database.toDatabase⟩ leaves commitment role) :=
    @registerIdentity_achieves server.hash depth ⟨live.tree, database.toDatabase⟩ leaves
      context.now role payload.nodeId commitment synced room representable new
  rcases registers with ⟨result, changed, tree, ran, added⟩
  have keeps : Keeps verifiedTables (registerIdentity server.hash context.now (frToHex commitment)
      role payload.nodeId) :=
    registerIdentity_keeps (fun _ _ => rfl) (fun _ _ => rfl) fun _ _ => rfl
  have kept : verifiedTables changed = verifiedTables database.toDatabase := by
    have held := @Keeps.ensures _ _ _ _ _ _ _ keeps database.toDatabase live.tree []
    rw [ran] at held
    exact held
  refine ⟨result, changed, tree, ran, ?_⟩
  apply achieves_bind
  apply achieves_onTables
  refine ⟨_, _, _, emitAndBroadcast_apply _ _ _ _ _ _, ?_⟩
  apply achieves_pure
  exact ⟨added.logged, kept⟩

end Register

section Verify

variable {Fq Key : Type} {environment : Environment} {curve : Curve Fq Key}
  {membershipVkey : Key} {now : String} {stateServerId serverId : Nat}
  {payload : VerifyMembershipRequest} {nullifierHex pseudonymId : String} {role : RoleCode}
  {database : Database} {sent : List Outbound}

theorem lt_of_fromU8 {code : Nat} (known : RoleCode.fromU8 code = some role) : code < 256 := by
  unfold RoleCode.fromU8 at known
  split at known
  all_goals first | omega | cases known

theorem answers_lookupRole {commitment : String}
    (registered : registeredRole commitment database = some role) :
    Answers (lookupRole commitment) database sent role := by
  unfold registeredRole at registered
  cases found : database.vrpIdentities.rows.find? (·.commitmentHex = commitment) with
  | none => simp [found] at registered
  | some row =>
      rw [found] at registered
      have known : RoleCode.fromU8 row.roleCode = some role := registered
      simp only [lookupRole, answers_bind, answers_query, answers_require, looks_query,
        looks_require]
      refine ⟨some row.roleCode, ?_, row.roleCode, rfl, known⟩
      simp only [found, if_pos (lt_of_fromU8 known)]

/-- What the server keeps of an agent's contract can be read. -/
def ReadableContracts (serverId : Nat) (pseudonymId : String) (database : Database) : Prop :=
  ∀ row ∈ database.agentRegistrations.rows, row.serverId = serverId →
    row.pseudonymId = pseudonymId → row.capabilityContractJson.isJson = true

theorem answers_agentMetadata (readable : ReadableContracts serverId pseudonymId database) :
    ∃ metadata, Answers (agentMetadata serverId pseudonymId role) database sent metadata := by
  unfold agentMetadata
  split
  · cases found : database.agentRegistrations.rows.find? fun row =>
        row.serverId = serverId && row.pseudonymId = pseudonymId with
    | none => exact ⟨none, by simp [answers_bind, found]⟩
    | some row =>
        have named := List.find?_some found
        simp only [Bool.and_eq_true, decide_eq_true_eq] at named
        have json := readable row (List.mem_of_find?_eq_some found) named.1 named.2
        exact ⟨_, by simp [answers_bind, found, json]; rfl⟩
  · exact ⟨none, answers_pure.mpr rfl⟩

/-- The server has nothing of the pseudonym yet that a verification stumbles over. -/
structure Claimable (serverId : Nat) (topic nullifierHex pseudonymId : String)
    (database : Database) : Prop where
  nullifier : (database.zkNullifiers.rows.any fun row =>
    row.topic = topic && row.nullifierHex = nullifierHex) = false
  identity : hasIdentity serverId pseudonymId database = false
  node : Graph.KnownNode serverId pseudonymId database
  contracts : ReadableContracts serverId pseudonymId database

theorem Claimable.of_tables {topic : String} {changed : Database}
    (claimable : Claimable serverId topic nullifierHex pseudonymId database)
    (same : verifiedTables changed = verifiedTables database) :
    Claimable serverId topic nullifierHex pseudonymId changed := by
  unfold verifiedTables at same
  simp only [Prod.mk.injEq] at same
  rcases same with ⟨nullifiers, -, identities, nodes, agents⟩
  constructor
  · rw [nullifiers]
    exact claimable.nullifier
  · unfold hasIdentity
    rw [identities]
    exact claimable.identity
  · unfold Graph.KnownNode
    rw [nodes]
    exact claimable.node
  · unfold ReadableContracts
    rw [agents]
    exact claimable.contracts

/-- The role of a commitment that was just registered. -/
theorem registeredRole_of_added {H : Fr → Fr → Fr} {depth : Nat} {registry : Registry}
    {leaves : List Fr} {commitment : Fr} {result : RegistrationResult} {changed : Database}
    {tree : MerkleTree Fr}
    (added : Added H depth registry leaves commitment role result changed tree)
    (new : ¬ IsRegistered (frToHex commitment) registry.database) :
    registeredRole (frToHex commitment) changed = some role := by
  rcases added.identity with ⟨row, rows, text, code⟩
  have absent : registry.database.vrpIdentities.rows.find?
      (·.commitmentHex = frToHex commitment) = none := by
    rw [List.find?_eq_none]
    intro old member named
    exact new ⟨old, member, of_decide_eq_true named⟩
  unfold registeredRole
  rw [rows, List.find?_append, absent, Option.none_or, List.find?_cons_of_pos (by simpa using text),
    Option.bind_some, code, RoleCode.fromU8_asU8]

theorem insertNullifier_achieves {Memory : Type} {memory : Memory} {topic : String}
    {owner commitmentHex : Option String}
    (free : (database.zkNullifiers.rows.any fun row =>
      row.topic = topic && row.nullifierHex = nullifierHex) = false) :
    Achieves (insertNullifier topic nullifierHex owner commitmentHex) database memory
      fun _ changed after => after = memory ∧
        ∃ zkNullifiers, changed = { database with zkNullifiers } := by
  unfold insertNullifier
  refine achieves_execute (if_neg ?_) ⟨rfl, _, rfl⟩
  rw [free]
  exact Bool.false_ne_true

theorem createPlatformIdentity_achieves {Memory : Type} {memory : Memory}
    (free : hasIdentity serverId pseudonymId database = false) :
    Achieves (createPlatformIdentity serverId pseudonymId role) database memory
      fun _ changed after => after = memory ∧
        ∃ platformIdentities, changed = { database with platformIdentities } := by
  have inserted : ∃ changed,
      insertPlatformIdentity serverId pseudonymId role database = .ok changed := by
    unfold insertPlatformIdentity
    unfold hasIdentity at free
    rw [free]
    exact ⟨_, rfl⟩
  rcases inserted with ⟨changed, inserted⟩
  rcases getPlatformIdentity_inserted inserted with ⟨⟨row, found, typed⟩, -, identities⟩
  apply achieves_bind
  apply achieves_execute inserted
  have read : Answers (getPlatformIdentity serverId pseudonymId :
      Sql Database Memory IdentityError PlatformIdentity) changed memory row := by
    unfold getPlatformIdentity
    rw [answers_query, found]
    dsimp only
    rw [typed]
  exact read.achieves ⟨rfl, identities⟩

theorem emitAndBroadcast_achieves {Error : Type} {entityId : String} {event : EventPayload} :
    Achieves (emitAndBroadcast now serverId entityId event :
      Sql Database (List Outbound) Error Unit) database sent fun _ changed _ =>
        ∃ publicEventLog, changed = { database with publicEventLog } :=
  ⟨_, _, _, emitAndBroadcast_apply _ _ _ _ _ _, _, rfl⟩

theorem recordPseudonym_achieves {metadata : Option AgentMetadata}
    (claimable : Claimable serverId payload.topic nullifierHex pseudonymId database) :
    Achieves (recordPseudonym now stateServerId serverId payload nullifierHex pseudonymId role
      metadata) database sent fun _ _ _ => True := by
  unfold recordPseudonym
  apply achieves_bind
  apply achieves_mapErr
  refine achieves_mono ?_ (insertNullifier_achieves claimable.nullifier)
  intro _ first after held
  rcases held with ⟨-, zkNullifiers, same⟩
  rw [same]
  apply achieves_bind
  refine achieves_mono ?_ emitAndBroadcast_achieves
  intro _ second after held
  rcases held with ⟨publicEventLog, same⟩
  rw [same]
  apply achieves_bind
  apply achieves_mapErr
  refine achieves_mono ?_ (createPlatformIdentity_achieves (by exact claimable.identity))
  intro _ third after held
  rcases held with ⟨-, platformIdentities, same⟩
  rw [same]
  apply achieves_bind
  apply achieves_mapErr
  refine achieves_mono ?_ (Graph.ensureGraphNode_achieves (by exact claimable.node))
  intro _ fourth after _
  refine achieves_mono ?_ emitAndBroadcast_achieves
  exact fun _ _ _ _ => trivial

/-- A proof that holds, for a commitment that is registered, is answered with its pseudonym. -/
theorem verifyMembershipHandler_achieves
    (proven : MembershipProven environment curve membershipVkey payload database)
    (nullifier : deriveNullifierHex environment payload.commitment payload.topic =
      .ok nullifierHex)
    (pseudonym : derivePseudonymId environment payload.topic nullifierHex = .ok pseudonymId)
    (registered : registeredRole payload.commitment database = some role)
    (first : firstServer database = some serverId)
    (claimable : Claimable serverId payload.topic nullifierHex pseudonymId database) :
    Achieves (verifyMembershipHandler environment curve membershipVkey now stateServerId payload)
      database sent fun value _ _ => value = pseudonymId := by
  unfold verifyMembershipHandler
  apply (connect_answers _).achieves_bind
  apply (answers_checkMembershipProof.mpr proven).achieves_bind
  apply achieves_bind
  refine achieves_mono ?_ emitAndBroadcast_achieves
  intro _ logged told held
  rcases held with ⟨publicEventLog, same⟩
  rw [same]
  apply (answers_orElse.mpr nullifier).achieves_bind
  apply (answers_orElse.mpr pseudonym).achieves_bind
  have found : Answers (lookupRole payload.commitment) { database with publicEventLog } told role :=
    answers_lookupRole registered
  apply found.achieves_bind
  have local_ : Answers lookupServerId { database with publicEventLog } told serverId :=
    answers_lookupServerId.mpr first
  apply local_.achieves_bind
  have readable : ReadableContracts serverId pseudonymId { database with publicEventLog } :=
    claimable.contracts
  rcases @answers_agentMetadata serverId pseudonymId role _ told readable with ⟨metadata, answered⟩
  apply answered.achieves_bind
  have still : Claimable serverId payload.topic nullifierHex pseudonymId
      { database with publicEventLog } :=
    ⟨claimable.nullifier, claimable.identity, claimable.node, claimable.contracts⟩
  apply achieves_bind
  apply achieves_transaction
  refine achieves_mono ?_ (recordPseudonym_achieves still)
  intro _ recorded after _
  apply achieves_bind
  apply achieves_send
  exact achieves_pure rfl

/-- The handler of the whole server. -/
theorem verifyMembership_achieves {server : EventServer Fq Key} {context : EventContext}
    {database : ServerDatabase} {live : Live}
    (proven : MembershipProven server.environment server.curve server.membershipVkey payload
      database.toDatabase)
    (nullifier : deriveNullifierHex server.environment payload.commitment payload.topic =
      .ok nullifierHex)
    (pseudonym : derivePseudonymId server.environment payload.topic nullifierHex =
      .ok pseudonymId)
    (registered : registeredRole payload.commitment database.toDatabase = some role)
    (first : firstServer database.toDatabase = some serverId)
    (claimable : Claimable serverId payload.topic nullifierHex pseudonymId
      database.toDatabase) :
    Achieves ((verifyMembership server payload).alone (EventCommand.run server) context) database
      live fun value _ _ => value = pseudonymId := by
  rw [alone_verifyMembership]
  exact achieves_onTables
    (verifyMembershipHandler_achieves proven nullifier pseudonym registered first claimable)

theorem verifyMembership_keepsRegistered {server : EventServer Fq Key} {context : EventContext}
    {database : ServerDatabase} {live : Live} {text : String}
    (registered : IsRegistered text database.toDatabase) :
    Ensures ((verifyMembership server payload).alone (EventCommand.run server) context) database
      live fun _ changed _ => IsRegistered text changed.toDatabase := by
  rw [alone_verifyMembership]
  refine ensures_onTables fun faults => ?_
  have same := @verifyMembershipHandler_vrpIdentities _ _ server.environment server.curve
    server.membershipVkey context.now server.serverId payload
    ⟨database.toDatabase, live.sent, faults⟩
  rcases registered with ⟨row, member, named⟩
  refine ⟨row, ?_, named⟩
  dsimp only
  rw [same]
  exact member

end Verify

end Annex.Server
