import Annex.Foundation.SqlCoupled
import Annex.Server.AntiSybil
import Annex.Server.FederationCorrectness

namespace Annex.Server

open Db Federation Identity Sql Vrp

/-! Local verifications and attestations of peers. Both derive a pseudonym from a
commitment and a topic, and both write its platform identity. -/

variable {Fq Key : Type}

/-- A call of a participant of this server, or an attestation of a peer, with the answers
other servers give meanwhile. -/
inductive CoexistenceCall where
  | participant (call : IssuanceCall)
  | attest (payload : AttestationRequest) (clock : Clock)
      (get : String → Except String HttpResponse) (faults : List (Option String))

def CoexistenceCall.isParticipant : CoexistenceCall → Bool
  | participant _ => true
  | attest .. => false

/-- The database with other tables in place of those that attestations write. -/
def graft (federatedIdentities : Table FederatedIdentity)
    (platformIdentities : Table PlatformIdentity) (graphNodes : Table GraphNode)
    (database : Database) : Database :=
  { database with federatedIdentities, platformIdentities, graphNodes }

/-- Every node of the graph has a known type. -/
def KnownNodes (database : Database) : Prop :=
  ∀ row ∈ database.graphNodes.rows, ∃ nodeType, Graph.strToNodeType row.nodeType = .ok nodeType

/-- The left database is the right one with what attestations wrote besides. -/
structure Coexist (left right : Database) : Prop where
  tables : ∃ federatedIdentities platformIdentities graphNodes,
    left = graft federatedIdentities platformIdentities graphNodes right
  kept : ∀ serverId pseudonymId, hasIdentity serverId pseudonymId right = true →
    hasIdentity serverId pseudonymId left = true
  leftNodes : KnownNodes left
  rightNodes : KnownNodes right

/-- Changes of other tables, made on both sides, keep the two together. -/
theorem Coexist.map {left right : Database} (coexist : Coexist left right)
    (change : Database → Database)
    (apart : ∀ federatedIdentities platformIdentities graphNodes database,
      change (graft federatedIdentities platformIdentities graphNodes database) =
        graft federatedIdentities platformIdentities graphNodes (change database))
    (identities : ∀ database, (change database).platformIdentities =
      database.platformIdentities)
    (nodes : ∀ database, (change database).graphNodes = database.graphNodes) :
    Coexist (change left) (change right) where
  tables := by
    rcases coexist.tables with ⟨federatedIdentities, platformIdentities, graphNodes, rfl⟩
    exact ⟨_, _, _, apart _ _ _ right⟩
  kept := by
    intro serverId pseudonymId
    unfold hasIdentity
    rw [identities, identities]
    exact coexist.kept serverId pseudonymId
  leftNodes := by
    unfold KnownNodes
    rw [nodes]
    exact coexist.leftNodes
  rightNodes := by
    unfold KnownNodes
    rw [nodes]
    exact coexist.rightNodes

theorem Coexist.firstServer {left right : Database} (coexist : Coexist left right) :
    firstServer left = firstServer right := by
  rcases coexist.tables with ⟨_, _, _, rfl⟩
  rfl

section Nodes

variable {serverId : Nat} {pseudonymId now : String} {nodeType : NodeType}
  {metadataJson : Option AgentMetadata} {database : Database}

theorem KnownNodes.knownNode (known : KnownNodes database) :
    Graph.KnownNode serverId pseudonymId database :=
  fun row found => known row (List.mem_of_find?_eq_some found)

/-- An upsert keeps the type of a node, and a new node gets a known one. -/
theorem KnownNodes.upsert (known : KnownNodes database) :
    KnownNodes (Graph.upsertGraphNode serverId pseudonymId nodeType metadataJson now
      database) := by
  intro row member
  unfold Graph.upsertGraphNode Table.upsert at member
  dsimp only at member
  split at member
  · rcases Table.mem_updateWhere.mp member with ⟨old, oldMember, rfl⟩
    split
    · exact known old oldMember
    · exact known old oldMember
  · rcases Table.mem_insert.mp member with member | rfl
    · exact known row member
    · exact ⟨nodeType, Graph.strToNodeType_column nodeType⟩

end Nodes

/-! Registrations. -/

section Register

variable {H : Fr → Fr → Fr}

/-- A registration leaves the servers and the identities alone. -/
theorem registerIdentity_untouched (now commitmentHex : String) (role : RoleCode)
    (nodeId : Int) (session : Session Database (MerkleTree Fr)) :
    (registerIdentity H now commitmentHex role nodeId session).2.database.servers =
        session.database.servers ∧
      (registerIdentity H now commitmentHex role nodeId session).2.database.platformIdentities =
        session.database.platformIdentities := by
  have servers : Keeps Database.servers (registerIdentity H now commitmentHex role nodeId) :=
    registerIdentity_keeps (fun _ _ => rfl) (fun _ _ => rfl) fun _ _ => rfl
  have identities : Keeps Database.platformIdentities
      (registerIdentity H now commitmentHex role nodeId) :=
    registerIdentity_keeps (fun _ _ => rfl) (fun _ _ => rfl) fun _ _ => rfl
  exact ⟨servers _ session rfl, identities _ session rfl⟩

/-- A registered role stays. -/
theorem registerIdentity_registeredRole {now : String} {commitmentHex commitment : String}
    {role registered : RoleCode} {nodeId : Int} :
    Preserves (fun database => registeredRole commitment database = some registered)
      (registerIdentity H now commitmentHex role nodeId) := by
  refine registerIdentity_preserves ?_ (fun _ _ held => held) fun _ _ held => held
  intro database _ changed inserted held
  rcases insertIdentity_rows inserted with ⟨vrpIdentities, rfl, row, -, rows⟩
  unfold registeredRole at held ⊢
  dsimp only
  rw [rows, List.find?_append]
  cases found : database.vrpIdentities.rows.find? (·.commitmentHex = commitment) with
  | none => simp [found] at held
  | some old => simpa [found] using held

/-- Next to what attestations wrote, a registration does the same. -/
theorem registerIdentity_lockstep {now : String} {commitmentHex : String} {role : RoleCode}
    {nodeId : Int} : Lockstep Coexist (registerIdentity H now commitmentHex role nodeId) := by
  refine lockstep_bind (lockstep_check _ _) fun _ =>
    lockstep_bind (lockstep_ofExcept _) fun leafBytes =>
    lockstep_bind lockstep_readMemory fun tree =>
    lockstep_bind (lockstep_ofExcept _) fun preview =>
    lockstep_bind (lockstep_transaction ?_) fun _ =>
    lockstep_bind (lockstep_remember _) fun _ =>
    lockstep_bind lockstep_readMemory fun _ =>
    lockstep_bind (lockstep_ofExcept _) fun _ => lockstep_pure _
  refine lockstep_bind (lockstep_statement ?_) fun _ =>
    lockstep_bind (lockstep_bind (lockstep_execute ?_) fun _ =>
      lockstep_bind (lockstep_execute ?_) fun _ => lockstep_execute ?_) fun _ =>
    lockstep_pure _
  · intro left right coexist
    rcases coexist.tables with ⟨federatedIdentities, platformIdentities, graphNodes, rfl⟩
    by_cases taken : right.vrpIdentities.rows.any fun row =>
        row.commitmentHex = toAsciiLowercase commitmentHex
    · exact Or.inr ⟨_, if_pos taken, if_pos taken⟩
    · exact Or.inl ⟨_, _, _, if_neg taken, if_neg taken,
        coexist.map (fun database => { database with vrpIdentities := _ })
          (fun _ _ _ _ => rfl) (fun _ => rfl) fun _ => rfl⟩
  · intro left right coexist
    rcases coexist.tables with ⟨federatedIdentities, platformIdentities, graphNodes, rfl⟩
    unfold MerkleTree.insertLeaf
    dsimp only [graft]
    split
    · exact Or.inr ⟨_, rfl, rfl⟩
    · cases right.vrpLeaves.place _ with
      | none => exact Or.inr ⟨_, rfl, rfl⟩
      | some vrpLeaves =>
          exact Or.inl ⟨_, _, rfl, rfl,
            coexist.map (fun database => { database with vrpLeaves })
              (fun _ _ _ _ => rfl) (fun _ => rfl) fun _ => rfl⟩
  · intro left right coexist
    exact Or.inl ⟨_, _, rfl, rfl, coexist.map MerkleTree.deactivateRoots
      (fun _ _ _ _ => rfl) (fun _ => rfl) fun _ => rfl⟩
  · intro left right coexist
    exact Or.inl ⟨_, _, rfl, rfl, coexist.map (MerkleTree.insertRoot _ _)
      (fun _ _ _ _ => rfl) (fun _ => rfl) fun _ => rfl⟩

end Register

/-! Verifications. -/

section Verify

variable {environment : Environment} {curve : Curve Fq Key} {membershipVkey : Key}
  {now : String} {stateServerId serverId : Nat} {payload : VerifyMembershipRequest}
  {pseudonymId : String} {left right : Database}

/-- Besides, the pseudonym is taken on the left only if it is on the right. -/
structure Beside (serverId : Nat) (pseudonymId : String) (left right : Database) :
    Prop where
  coexist : Coexist left right
  taken : hasIdentity serverId pseudonymId left = true →
    hasIdentity serverId pseudonymId right = true

theorem Beside.map (beside : Beside serverId pseudonymId left right)
    (change : Database → Database)
    (apart : ∀ federatedIdentities platformIdentities graphNodes database,
      change (graft federatedIdentities platformIdentities graphNodes database) =
        graft federatedIdentities platformIdentities graphNodes (change database))
    (identities : ∀ database, (change database).platformIdentities =
      database.platformIdentities)
    (nodes : ∀ database, (change database).graphNodes = database.graphNodes) :
    Beside serverId pseudonymId (change left) (change right) where
  coexist := beside.coexist.map change apart identities nodes
  taken := by
    rw [hasIdentity, hasIdentity, identities, identities]
    exact beside.taken

theorem Beside.hasIdentity_eq (beside : Beside serverId pseudonymId left right) :
    hasIdentity serverId pseudonymId left = hasIdentity serverId pseudonymId right :=
  Bool.eq_iff_iff.mpr ⟨beside.taken, beside.coexist.kept _ _⟩

theorem emitAndBroadcast_lockstep {Error : Type} {related : Database → Database → Prop}
    {entityId : String} {payload : Observe.EventPayload}
    (logs : ∀ left right, related left right → left.publicEventLog = right.publicEventLog)
    (unlogged : ∀ (left right : Database) publicEventLog, related left right →
      related { left with publicEventLog } { right with publicEventLog }) :
    Lockstep related (emitAndBroadcast now serverId entityId payload :
      Sql Database (List Outbound) Error Unit) := by
  refine lockstep_bind (lockstep_attempt (lockstep_statement ?_)) fun outcome => ?_
  · intro left right holds
    unfold Observe.emitEvent
    rw [logs left right holds]
    exact Or.inl ⟨_, _, _, rfl, rfl, unlogged _ _ _ holds⟩
  · cases outcome with
    | ok event => exact lockstep_remember _
    | error error => exact lockstep_pure ()

theorem insertNullifier_lockstep {Memory : Type} {topic nullifierHex : String}
    {pseudonym commitment : Option String} :
    Lockstep (Beside serverId pseudonymId)
      (insertNullifier topic nullifierHex pseudonym commitment :
        Sql Database Memory IdentityError Unit) := by
  refine lockstep_execute fun left right beside => ?_
  rcases beside.coexist.tables with ⟨federatedIdentities, platformIdentities, graphNodes, rfl⟩
  by_cases taken : right.zkNullifiers.rows.any fun row =>
      row.topic = topic && row.nullifierHex = nullifierHex
  · exact Or.inr ⟨_, if_pos taken, if_pos taken⟩
  · exact Or.inl ⟨_, _, if_neg taken, if_neg taken,
      beside.map (fun database => { database with zkNullifiers := _ })
        (fun _ _ _ _ => rfl) (fun _ => rfl) fun _ => rfl⟩

/-- The row that was just inserted is found, with the role it was given. -/
theorem find?_insertPlatformIdentity {role : RoleCode} {database changed : Database}
    (inserted : insertPlatformIdentity serverId pseudonymId role database = .ok changed) :
    ∃ identity, (changed.platformIdentities.rows.find? fun row =>
        row.serverId = serverId && row.pseudonymId = pseudonymId) = some identity ∧
      roleFromStr identity.participantType = .ok role := by
  rcases insertPlatformIdentity_eq_ok inserted with ⟨new, row, rows, rfl, rfl, label⟩
  have absent : (database.platformIdentities.rows.find? fun other =>
      other.serverId = row.serverId && other.pseudonymId = row.pseudonymId) = none := by
    rw [List.find?_eq_none]
    exact List.any_eq_false.mp new
  refine ⟨row, ?_, by rw [label, roleFromStr_label]⟩
  rw [rows, List.find?_append, absent]
  simp

theorem insertPlatformIdentity_new {database : Database}
    (new : hasIdentity serverId pseudonymId database = false) (role : RoleCode) :
    ∃ platformIdentities, insertPlatformIdentity serverId pseudonymId role database =
      .ok { database with platformIdentities } :=
  ⟨_, if_neg (Bool.eq_false_iff.mp new)⟩

theorem insertPlatformIdentity_beside {role : RoleCode} {leftAfter rightAfter : Database}
    (beside : Beside serverId pseudonymId left right)
    (onLeft : insertPlatformIdentity serverId pseudonymId role left = .ok leftAfter)
    (onRight : insertPlatformIdentity serverId pseudonymId role right = .ok rightAfter) :
    Beside serverId pseudonymId leftAfter rightAfter := by
  have leftIdentity := (insertPlatformIdentity_eq_ok onLeft).hasIdentity_eq
  have rightIdentity := (insertPlatformIdentity_eq_ok onRight).hasIdentity_eq
  rcases insertPlatformIdentity_new (insertPlatformIdentity_eq_ok onLeft).new role with
    ⟨leftIdentities, leftDone⟩
  rcases insertPlatformIdentity_new (insertPlatformIdentity_eq_ok onRight).new role with
    ⟨rightIdentities, rightDone⟩
  cases onLeft.symm.trans leftDone
  cases onRight.symm.trans rightDone
  rcases beside.coexist.tables with ⟨federatedIdentities, platformIdentities, graphNodes, rfl⟩
  refine ⟨⟨⟨_, _, _, rfl⟩, ?_, beside.coexist.leftNodes, beside.coexist.rightNodes⟩, ?_⟩
  · intro otherServer otherPseudonym
    rw [leftIdentity, rightIdentity, Bool.or_eq_true, Bool.or_eq_true]
    exact Or.imp_left (beside.coexist.kept _ _)
  · intro _
    rw [rightIdentity]
    simp

/-- An identity is created next to the attested ones where its pseudonym is not among
them. -/
theorem createPlatformIdentity_parallel {Memory : Type} {role : RoleCode} :
    Parallel (Beside serverId pseudonymId)
      (createPlatformIdentity serverId pseudonymId role :
        Sql Database Memory IdentityError PlatformIdentity) := by
  intro left right memory beside
  refine coupled_bind (coupled_execute (fun _ => ⟨rfl, beside⟩) ?_)
  cases taken : hasIdentity serverId pseudonymId right with
  | true =>
      exact Or.inr ⟨_, _, if_pos (beside.hasIdentity_eq.trans taken), if_pos taken, rfl,
        beside⟩
  | false =>
      rcases insertPlatformIdentity_new taken role with ⟨rightIdentities, onRight⟩
      rcases insertPlatformIdentity_new (beside.hasIdentity_eq.trans taken) role with
        ⟨leftIdentities, onLeft⟩
      have after := insertPlatformIdentity_beside beside onLeft onRight
      rcases find?_insertPlatformIdentity onLeft with ⟨leftRow, leftFound, leftRole⟩
      rcases find?_insertPlatformIdentity onRight with ⟨rightRow, rightFound, rightRole⟩
      exact Or.inl ⟨_, _, onLeft, onRight, coupled_query (fun _ => ⟨rfl, after⟩)
        ⟨leftRow, rightRow, by simp only [leftFound, leftRole],
          by simp only [rightFound, rightRole], rfl, after⟩⟩

theorem ensureGraphNode_parallel {Memory : Type} {nodeType : NodeType}
    {metadata : Option AgentMetadata} :
    Parallel (Beside serverId pseudonymId)
      (Graph.ensureGraphNode now serverId pseudonymId nodeType metadata :
        Sql Database Memory Graph.GraphError GraphNode) := by
  intro left right memory beside
  have after : Beside serverId pseudonymId
      (Graph.upsertGraphNode serverId pseudonymId nodeType metadata now left)
      (Graph.upsertGraphNode serverId pseudonymId nodeType metadata now right) := by
    rcases beside.coexist.tables with ⟨federatedIdentities, platformIdentities, graphNodes,
      rfl⟩
    exact ⟨⟨⟨_, _, _, rfl⟩, beside.coexist.kept, beside.coexist.leftNodes.upsert,
      beside.coexist.rightNodes.upsert⟩, beside.taken⟩
  have known : ∀ database, KnownNodes database → ∃ knownType, Graph.strToNodeType
      (Graph.ensuredNode now serverId pseudonymId nodeType metadata database).nodeType =
        .ok knownType :=
    fun database nodes => (@KnownNodes.knownNode serverId pseudonymId _ nodes).ensuredNode
  rcases known left beside.coexist.leftNodes with ⟨leftType, leftKnown⟩
  rcases known right beside.coexist.rightNodes with ⟨rightType, rightKnown⟩
  refine coupled_bind (coupled_statement (fun _ => ⟨rfl, beside⟩) (Or.inl ⟨_, _, _, _,
    by simp only [Graph.find?_upsertGraphNode]; rfl,
    by simp only [Graph.find?_upsertGraphNode]; rfl, ?_⟩))
  refine coupled_bind (coupled_ofExcept ?_)
  rw [leftKnown, rightKnown]
  exact coupled_pure ⟨rfl, after⟩

/-- Where the pseudonym is free or taken on both sides, recording it does the same. -/
theorem recordPseudonym_lockstep {nullifierHex : String} {role : RoleCode}
    {metadata : Option AgentMetadata} :
    Lockstep (Beside serverId pseudonymId)
      (recordPseudonym now stateServerId serverId payload nullifierHex pseudonymId role
        metadata) := by
  have logs : ∀ left right, Beside serverId pseudonymId left right →
      left.publicEventLog = right.publicEventLog := by
    intro left right beside
    rcases beside.coexist.tables with ⟨_, _, _, rfl⟩
    rfl
  have unlogged : ∀ (left right : Database) publicEventLog,
      Beside serverId pseudonymId left right →
      Beside serverId pseudonymId { left with publicEventLog } { right with publicEventLog } :=
    fun left right publicEventLog beside =>
      beside.map (fun database => { database with publicEventLog }) (fun _ _ _ _ => rfl)
        (fun _ => rfl) fun _ => rfl
  exact lockstep_bind (lockstep_mapErr insertNullifier_lockstep) fun _ =>
    lockstep_bind (emitAndBroadcast_lockstep logs unlogged) fun _ =>
    lockstep_bind_discard (parallel_mapErr createPlatformIdentity_parallel)
      (lockstep_bind_discard (parallel_mapErr ensureGraphNode_parallel)
        (emitAndBroadcast_lockstep logs unlogged))

/-- No read of a verification sees what attestations wrote. -/
theorem Coexist.sameAnswer {α : Type} {wrap : DbError → ApiError}
    {read : Database → Except DbError α} (coexist : Coexist left right)
    (unseen : ∀ federatedIdentities platformIdentities graphNodes database,
      read (graft federatedIdentities platformIdentities graphNodes database) = read database) :
    SameAnswer (query wrap read : Handler α) left right := by
  rcases coexist.tables with ⟨federatedIdentities, platformIdentities, graphNodes, rfl⟩
  exact sameAnswer_query (unseen _ _ _ right)

theorem Coexist.checkMembershipProof (coexist : Coexist left right) :
    SameAnswer (checkMembershipProof environment curve membershipVkey payload) left right :=
  sameAnswer_bind (coexist.sameAnswer fun _ _ _ _ => rfl) fun _ =>
    sameAnswer_bind (sameAnswer_check _ _) fun _ =>
    sameAnswer_bind (sameAnswer_ofExcept _) fun _ =>
    sameAnswer_bind (sameAnswer_ofExcept _) fun _ =>
    sameAnswer_bind (sameAnswer_ofExcept _) fun _ =>
    sameAnswer_bind (sameAnswer_check _ _) fun _ =>
    sameAnswer_bind (sameAnswer_check _ _) fun _ =>
    sameAnswer_bind (sameAnswer_ofExcept _) fun _ =>
    sameAnswer_bind (sameAnswer_ofExcept _) fun _ =>
    sameAnswer_bind (sameAnswer_check _ _) fun _ => sameAnswer_check _ _

theorem Coexist.lookupRole (coexist : Coexist left right) (commitment : String) :
    SameAnswer (lookupRole commitment) left right :=
  sameAnswer_bind (coexist.sameAnswer fun _ _ _ _ => rfl) fun _ =>
    sameAnswer_bind (sameAnswer_ofExcept _) fun _ => sameAnswer_ofExcept _

theorem Coexist.lookupServerId (coexist : Coexist left right) :
    SameAnswer lookupServerId left right :=
  sameAnswer_bind (coexist.sameAnswer fun _ _ _ _ => rfl) fun _ => sameAnswer_ofExcept _

theorem Coexist.agentMetadata (coexist : Coexist left right) (role : RoleCode) :
    SameAnswer (agentMetadata serverId pseudonymId role) left right := by
  unfold Server.agentMetadata
  split
  · refine sameAnswer_bind (coexist.sameAnswer fun _ _ _ _ => rfl) fun agentData => ?_
    cases agentData with
    | none => exact sameAnswer_pure _
    | some row => exact sameAnswer_bind (sameAnswer_check _ _) fun _ => sameAnswer_pure _
  · exact sameAnswer_pure _

/-- The pseudonym of the request is taken on the left only if it is on the right. -/
def Unclaimed (environment : Environment) (payload : VerifyMembershipRequest)
    (left right : Database) : Prop :=
  ∀ serverId pseudonymId role, firstServer left = some serverId →
    registeredRole payload.commitment left = some role →
    deriveTopicScopedPseudonym environment payload.commitment payload.topic =
      .ok pseudonymId →
    hasIdentity serverId pseudonymId left = true →
      hasIdentity serverId pseudonymId right = true

/-- Next to what attestations wrote, a verification does the same, unless its pseudonym is
one that only attestations claimed. -/
theorem verifyMembershipHandler_coupled {sent : List Outbound} (coexist : Coexist left right)
    (unclaimed : MembershipProven environment curve membershipVkey payload left →
      Unclaimed environment payload left right) :
    Coupled (verifyMembershipHandler environment curve membershipVkey now stateServerId payload)
      (verifyMembershipHandler environment curve membershipVkey now stateServerId payload)
      left right sent fun result other leftAfter rightAfter _ =>
        result = other ∧ Coexist leftAfter rightAfter := by
  refine coupled_bind_same (looks_connect _) (sameAnswer_connect _)
    (fun _ => ⟨rfl, coexist⟩) fun _ _ => ?_
  refine coupled_bind_same looks_checkMembershipProof coexist.checkMembershipProof
    (fun _ => ⟨rfl, coexist⟩) fun _ proven => ?_
  have emission : Lockstep (fun left right => Coexist left right ∧
      Unclaimed environment payload left right)
      (emitAndBroadcast now stateServerId payload.commitment
        (.identityVerified payload.commitment payload.topic) : Handler Unit) := by
    refine emitAndBroadcast_lockstep ?_ ?_
    · rintro left right ⟨coexist, -⟩
      rcases coexist.tables with ⟨_, _, _, rfl⟩
      rfl
    · rintro left right publicEventLog ⟨coexist, unclaimed⟩
      exact ⟨coexist.map (fun database => { database with publicEventLog })
        (fun _ _ _ _ => rfl) (fun _ => rfl) fun _ => rfl, unclaimed⟩
  refine coupled_bind (coupled_mono ?_
    (emission left right sent ⟨coexist, unclaimed (answers_checkMembershipProof.mp proven)⟩))
  rintro (error | _) _ left right sent ⟨rfl, coexist, unclaimed⟩
  · exact ⟨rfl, coexist⟩
  refine coupled_bind_same (looks_orElse _ _) (sameAnswer_ofExcept _)
    (fun _ => ⟨rfl, coexist⟩) fun nullifierHex nullifier => ?_
  refine coupled_bind_same (looks_orElse _ _) (sameAnswer_ofExcept _)
    (fun _ => ⟨rfl, coexist⟩) fun pseudonymId pseudonym => ?_
  have derived : deriveTopicScopedPseudonym environment payload.commitment payload.topic =
      .ok pseudonymId := by
    rw [deriveTopicScopedPseudonym, answers_orElse.mp nullifier]
    exact answers_orElse.mp pseudonym
  refine coupled_bind_same (looks_lookupRole _) (coexist.lookupRole _)
    (fun _ => ⟨rfl, coexist⟩) fun role registered => ?_
  refine coupled_bind_same looks_lookupServerId coexist.lookupServerId
    (fun _ => ⟨rfl, coexist⟩) fun serverId server => ?_
  refine coupled_bind_same (looks_agentMetadata _ _ _) (coexist.agentMetadata _)
    (fun _ => ⟨rfl, coexist⟩) fun metadata _ => ?_
  have beside : Beside serverId pseudonymId left right :=
    ⟨coexist, unclaimed serverId pseudonymId role (answers_lookupServerId.mp server)
      (registeredRole_of_answers registered) derived⟩
  refine coupled_bind (coupled_mono ?_
    (lockstep_transaction recordPseudonym_lockstep left right sent beside))
  rintro (error | _) _ left right sent ⟨rfl, beside⟩
  · exact ⟨rfl, beside.coexist⟩
  · exact coupled_bind (coupled_remember (coupled_pure ⟨rfl, beside.coexist⟩))

end Verify

/-! Attestations. -/

section Attest

variable {server : FederationServer Fq Key} {payload : AttestationRequest}
  {remoteInstanceId : Nat} {remoteRootHex pseudonymId : String} {nodeType : NodeType}
  {database left right : Database}

/-- An attestation leaves the identities there are, and its own has the attested type. -/
theorem recorded_identities :
    (∀ serverId other, hasIdentity serverId other database = true →
      hasIdentity serverId other (recorded server payload remoteInstanceId remoteRootHex
        pseudonymId nodeType database) = true) ∧
    ∀ row ∈ (recorded server payload remoteInstanceId remoteRootHex pseudonymId nodeType
        database).platformIdentities.rows,
      row ∈ database.platformIdentities.rows ∨
        row.serverId = server.serverId ∧ row.pseudonymId = pseudonymId ∧
          row.participantType = payload.participantType := by
  have rows : (recorded server payload remoteInstanceId remoteRootHex pseudonymId nodeType
      database).platformIdentities =
    (upsertAttestedPlatformIdentity server pseudonymId payload.participantType
      database).platformIdentities := rfl
  simp only [hasIdentity, rows, upsertAttestedPlatformIdentity, Table.upsert]
  split
  · constructor
    · intro serverId other taken
      rcases List.any_eq_true.mp taken with ⟨row, member, same⟩
      refine List.any_eq_true.mpr ⟨_, Table.mem_updateWhere.mpr ⟨row, member, rfl⟩, ?_⟩
      split <;> exact same
    · intro row member
      rcases Table.mem_updateWhere.mp member with ⟨old, oldMember, rfl⟩
      split
      · next selected =>
        simp only [Bool.and_eq_true, decide_eq_true_eq] at selected
        exact Or.inr ⟨selected.1, selected.2, rfl⟩
      · exact Or.inl oldMember
  · constructor
    · intro serverId other taken
      rcases List.any_eq_true.mp taken with ⟨row, member, same⟩
      exact List.any_eq_true.mpr ⟨row, Table.mem_insert.mpr (Or.inl member), same⟩
    · intro row member
      rcases Table.mem_insert.mp member with member | rfl
      · exact Or.inl member
      · exact Or.inr ⟨rfl, rfl, rfl⟩

/-- What an attestation writes only makes the left database differ more. -/
theorem Coexist.recorded (coexist : Coexist left right) :
    Coexist (recorded server payload remoteInstanceId remoteRootHex pseudonymId nodeType left)
      right where
  tables := by
    rcases coexist.tables with ⟨federatedIdentities, platformIdentities, graphNodes, rfl⟩
    exact ⟨_, _, _, rfl⟩
  kept serverId other taken :=
    recorded_identities.1 serverId other (coexist.kept serverId other taken)
  leftNodes := KnownNodes.upsert coexist.leftNodes
  rightNodes := coexist.rightNodes

end Attest

namespace Coexistence

section Run

variable (server : FederationServer Fq Key) (H : Fr → Fr → Fr)

/-- Run a call; the pseudonyms of attestations are not handed out. -/
def step (state : Issuance) : CoexistenceCall → Issuance
  | .participant call =>
      Issuance.step server.environment H server.curve server.membershipVkey server.serverId
        state call
  | .attest payload clock get faults =>
      { state with
        database := (attestMembershipHandler { server with clock, get } payload
          ⟨state.database, [], faults⟩).2.database }

/-- A verification whose proof holds does not meet an identity that attestations made since
the first database, and an admitted attestation of a pseudonym that was handed out names the
role that is registered. -/
def Separate (database : Database) (state : Issuance) : CoexistenceCall → Prop
  | .participant (.register ..) => True
  | .participant (.verify payload _ _) =>
      MembershipProven server.environment server.curve server.membershipVkey payload
          state.database →
      ∀ serverId pseudonymId role, firstServer state.database = some serverId →
        registeredRole payload.commitment state.database = some role →
        deriveTopicScopedPseudonym server.environment payload.commitment payload.topic =
          .ok pseudonymId →
        hasIdentity serverId pseudonymId state.database = true →
          hasIdentity serverId pseudonymId database = true ∨
            ∃ entry ∈ state.issued, entry.pseudonymId = pseudonymId
  | .attest payload clock get _ =>
      ∀ remote remoteRootHex pseudonymId nodeType,
        AttestationAdmitted { server with clock, get } payload state.database remote
          remoteRootHex →
        AttestationNamed { server with clock, get } payload pseudonymId nodeType →
        firstServer state.database = some server.serverId →
        ∀ entry ∈ state.issued, entry.pseudonymId = pseudonymId →
          ∀ role, registeredRole entry.commitment state.database = some role →
            payload.participantType = role.label

/-- Every identity that was handed out has the type of the registered role. -/
def RolesKept (state : Issuance) : Prop :=
  ∀ serverId, firstServer state.database = some serverId → ∀ entry ∈ state.issued,
    ∃ role, registeredRole entry.commitment state.database = some role ∧
      hasIdentity serverId entry.pseudonymId state.database = true ∧
      ∀ row ∈ state.database.platformIdentities.rows, row.serverId = serverId →
        row.pseudonymId = entry.pseudonymId → row.participantType = role.label

/-- The verification is accepted in the state. -/
def Accepts (state : Issuance) (payload : VerifyMembershipRequest) (now : String)
    (faults : List (Option String)) : Prop :=
  ∃ pseudonymId, (verifyMembershipHandler server.environment server.curve
    server.membershipVkey now server.serverId payload ⟨state.database, [], faults⟩).1 =
      .ok pseudonymId

/-- The left state is the right one with what attestations wrote besides. -/
structure Together (database : Database) (left right : Issuance) : Prop where
  tree : left.tree = right.tree
  issued : left.issued = right.issued
  coexist : Coexist left.database right.database
  earlier : ∀ serverId pseudonymId, hasIdentity serverId pseudonymId database = true →
    hasIdentity serverId pseudonymId right.database = true
  identified : ∀ serverId, firstServer right.database = some serverId →
    ∀ entry ∈ right.issued, hasIdentity serverId entry.pseudonymId right.database = true

variable {server H} {database : Database} {left right state : Issuance}

/-! Registered roles, step by step. -/

theorem RolesKept.keep (kept : RolesKept state) {tree : MerkleTree Fr}
    {changed : Database} (servers : changed.servers = state.database.servers)
    (identities : changed.platformIdentities = state.database.platformIdentities)
    (registered : ∀ commitment role, registeredRole commitment state.database = some role →
      registeredRole commitment changed = some role) :
    RolesKept ⟨tree, changed, state.issued⟩ := by
  intro serverId first entry member
  rw [Server.firstServer, servers] at first
  rcases kept serverId first entry member with ⟨role, role_eq, taken, types⟩
  refine ⟨role, registered _ _ role_eq, ?_, ?_⟩
  · rw [hasIdentity, identities]
    exact taken
  · rw [identities]
    exact types

theorem RolesKept.verify (kept : RolesKept state) {payload : VerifyMembershipRequest}
    {pseudonymId : String} {changed : Database}
    (servers : changed.servers = state.database.servers)
    (registry : changed.vrpIdentities = state.database.vrpIdentities)
    (verified : Verified server.environment payload pseudonymId state.database changed) :
    RolesKept ⟨state.tree, changed,
      state.issued ++ [⟨payload.topic, payload.commitment, pseudonymId⟩]⟩ := by
  rcases verified.created with ⟨serverId, role, first, registered, new, row, rows, rfl, rfl,
    label⟩
  intro otherServer otherFirst entry member
  dsimp only at otherFirst member ⊢
  rw [Server.firstServer, servers] at otherFirst
  cases Option.some.inj (first.symm.trans otherFirst)
  rw [registeredRole, registry, hasIdentity, rows]
  simp only [List.any_append, List.mem_append, List.mem_singleton, Bool.or_eq_true]
  rcases List.mem_append.mp member with member | member
  · rcases kept row.serverId first entry member with ⟨oldRole, oldRegistered, taken, types⟩
    refine ⟨oldRole, oldRegistered, Or.inl taken, ?_⟩
    rintro other (otherMember | rfl) sameServer samePseudonym
    · exact types other otherMember sameServer samePseudonym
    · rw [samePseudonym, taken] at new
      cases new
  · cases List.mem_singleton.mp member
    refine ⟨role, registered, Or.inr (by simp), ?_⟩
    rintro other (otherMember | rfl) sameServer samePseudonym
    · have free := List.any_eq_false.mp new other otherMember
      simp [sameServer, samePseudonym] at free
    · exact label

/-- Only the type of an admitted attestation for a pseudonym that was handed out matters. -/
theorem RolesKept.attest (kept : RolesKept state) {payload : AttestationRequest}
    {attesting : FederationServer Fq Key} {remoteInstanceId : Nat}
    {remoteRootHex pseudonymId : String} {nodeType : NodeType}
    (agrees : firstServer state.database = some attesting.serverId →
      ∀ entry ∈ state.issued, entry.pseudonymId = pseudonymId →
        ∀ role, registeredRole entry.commitment state.database = some role →
          payload.participantType = role.label) :
    RolesKept { state with
      database := recorded attesting payload remoteInstanceId remoteRootHex pseudonymId
        nodeType state.database } := by
  intro serverId first entry member
  have first : firstServer state.database = some serverId := first
  rcases kept serverId first entry member with ⟨role, registered, taken, types⟩
  refine ⟨role, registered, recorded_identities.1 _ _ taken, ?_⟩
  rintro row rowMember rfl samePseudonym
  rcases recorded_identities.2 row rowMember with old | ⟨sameServer, attested, type⟩
  · exact types row old rfl samePseudonym
  · rw [type]
    exact agrees (sameServer ▸ first) entry member (samePseudonym.symm.trans attested) role
      registered

theorem step_rolesKept (state : Issuance) (call : CoexistenceCall) (kept : RolesKept state)
    (separate : Separate server database state call) : RolesKept (step server H state call) := by
  rcases call with ⟨⟨commitmentHex, role, nodeId, now, faults⟩ | ⟨payload, now, faults⟩⟩ |
    ⟨payload, clock, get, faults⟩
  · rcases @registerIdentity_untouched H now commitmentHex role nodeId
      ⟨state.database, state.tree, faults⟩ with ⟨servers, identities⟩
    exact kept.keep servers identities fun _ _ registered =>
      registerIdentity_registeredRole ⟨state.database, state.tree, faults⟩ registered
  · have outcome := @verifyMembershipHandler_ensures _ _ server.environment server.curve
      server.membershipVkey now server.serverId payload state.database [] faults
    have servers := @verifyMembershipHandler_servers _ _ server.environment server.curve
      server.membershipVkey now server.serverId payload ⟨state.database, [], faults⟩
    have registry := @verifyMembershipHandler_vrpIdentities _ _ server.environment server.curve
      server.membershipVkey now server.serverId payload ⟨state.database, [], faults⟩
    unfold step Issuance.step
    dsimp only
    revert outcome servers registry
    rcases verifyMembershipHandler server.environment server.curve server.membershipVkey now
      server.serverId payload ⟨state.database, [], faults⟩ with ⟨error | pseudonymId, after⟩
    · intro outcome servers registry
      exact kept.keep servers (outcome.1 error rfl) fun _ _ registered => by
        rwa [registeredRole, registry]
    · intro outcome servers registry
      exact kept.verify servers registry (outcome.2 pseudonymId rfl)
  · have outcome := @attestMembershipHandler_ensures _ _ { server with clock, get }
      state.database [] payload faults
    unfold step
    dsimp only
    rcases outcome with same | ⟨remote, remoteRootHex, pseudonymId, nodeType, admitted, named,
      -, same⟩
    · rw [same]
      exact kept
    · rw [same]
      exact kept.attest (separate remote remoteRootHex pseudonymId nodeType admitted named)

/-! Verifications with and without the attestations. -/

/-- A separate verification ends alike on both sides. -/
theorem Together.verify (together : Together database left right)
    {payload : VerifyMembershipRequest} {now : String} {faults : List (Option String)}
    (separate : Separate server database left (.participant (.verify payload now faults))) :
    ∃ result leftAfter rightAfter after rest,
      verifyMembershipHandler server.environment server.curve server.membershipVkey now
          server.serverId payload ⟨left.database, [], faults⟩ =
        (result, ⟨leftAfter, after, rest⟩) ∧
      verifyMembershipHandler server.environment server.curve server.membershipVkey now
          server.serverId payload ⟨right.database, [], faults⟩ =
        (result, ⟨rightAfter, after, rest⟩) ∧ Coexist leftAfter rightAfter := by
  have unclaimed : MembershipProven server.environment server.curve server.membershipVkey
      payload left.database →
      Unclaimed server.environment payload left.database right.database := by
    intro proven serverId pseudonymId role first registered derived taken
    rcases separate proven serverId pseudonymId role first registered derived taken with
      earlier | ⟨entry, member, rfl⟩
    · exact together.earlier serverId pseudonymId earlier
    · exact together.identified serverId (together.coexist.firstServer ▸ first) entry
        (together.issued ▸ member)
  rcases @verifyMembershipHandler_coupled _ _ server.environment server.curve
    server.membershipVkey now server.serverId payload left.database right.database []
    together.coexist unclaimed faults with
    ⟨result, _, leftAfter, rightAfter, after, rest, onLeft, onRight, rfl, coexist⟩
  exact ⟨result, leftAfter, rightAfter, after, rest, onLeft, onRight, coexist⟩

theorem Together.accepts (together : Together database left right)
    {payload : VerifyMembershipRequest} {now : String} {faults : List (Option String)}
    (separate : Separate server database left (.participant (.verify payload now faults)))
    (accepted : Accepts server right payload now faults) :
    Accepts server left payload now faults := by
  rcases together.verify separate with ⟨result, _, _, _, _, onLeft, onRight, -⟩
  rcases accepted with ⟨pseudonymId, ran⟩
  rw [onRight] at ran
  exact ⟨pseudonymId, by rw [onLeft, ran]⟩

/-- What leaves the identities alone on the right keeps the two together. -/
theorem Together.keep (together : Together database left right)
    {leftAfter rightAfter : Issuance} (tree : leftAfter.tree = rightAfter.tree)
    (coexist : Coexist leftAfter.database rightAfter.database)
    (leftIssued : leftAfter.issued = left.issued)
    (rightIssued : rightAfter.issued = right.issued)
    (servers : rightAfter.database.servers = right.database.servers)
    (identities : rightAfter.database.platformIdentities = right.database.platformIdentities) :
    Together database leftAfter rightAfter where
  tree := tree
  issued := by rw [leftIssued, rightIssued, together.issued]
  coexist := coexist
  earlier := by
    intro serverId pseudonymId earlier
    rw [hasIdentity, identities]
    exact together.earlier serverId pseudonymId earlier
  identified := by
    intro serverId first entry member
    rw [Server.firstServer, servers] at first
    rw [rightIssued] at member
    rw [hasIdentity, identities]
    exact together.identified serverId first entry member

/-- A pseudonym that both hand out has its identity on the right. -/
theorem Together.handOut (together : Together database left right)
    {payload : VerifyMembershipRequest} {pseudonymId : String}
    {leftAfter rightAfter : Database} (coexist : Coexist leftAfter rightAfter)
    (servers : rightAfter.servers = right.database.servers)
    (verified : Verified server.environment payload pseudonymId right.database rightAfter) :
    Together database
      ⟨left.tree, leftAfter,
        left.issued ++ [⟨payload.topic, payload.commitment, pseudonymId⟩]⟩
      ⟨right.tree, rightAfter,
        right.issued ++ [⟨payload.topic, payload.commitment, pseudonymId⟩]⟩ := by
  rcases verified.created with ⟨verifiedServer, role, verifiedFirst, -, created⟩
  refine ⟨together.tree, by rw [together.issued], coexist, ?_, ?_⟩
  · intro serverId otherPseudonym earlier
    rw [created.hasIdentity_eq, together.earlier serverId otherPseudonym earlier]
    rfl
  · intro serverId first entry member
    have first : firstServer right.database = some serverId := by
      rwa [Server.firstServer, servers] at first
    cases Option.some.inj (verifiedFirst.symm.trans first)
    rw [created.hasIdentity_eq, Bool.or_eq_true]
    rcases List.mem_append.mp member with member | member
    · exact Or.inl (together.identified _ first entry member)
    · cases List.mem_singleton.mp member
      exact Or.inr (by simp)

/-- A call of a participant is the same step on both sides. -/
theorem Together.participant (together : Together database left right) (call : IssuanceCall)
    (separate : Separate server database left (.participant call)) :
    Together database (step server H left (.participant call))
      (step server H right (.participant call)) := by
  cases call with
  | register commitmentHex role nodeId now faults =>
      rcases @registerIdentity_untouched H now commitmentHex role nodeId
        ⟨right.database, right.tree, faults⟩ with ⟨servers, identities⟩
      rcases @registerIdentity_lockstep H now commitmentHex role nodeId _ _ right.tree
        together.coexist faults with
        ⟨_, _, leftAfter, rightAfter, after, rest, onLeft, onRight, -, coexist⟩
      unfold step Issuance.step
      dsimp only
      rw [onRight] at servers identities
      rw [together.tree, onLeft, onRight]
      exact together.keep rfl coexist rfl rfl servers identities
  | verify payload now faults =>
      have servers := @verifyMembershipHandler_servers _ _ server.environment server.curve
        server.membershipVkey now server.serverId payload ⟨right.database, [], faults⟩
      have outcome := @verifyMembershipHandler_ensures _ _ server.environment server.curve
        server.membershipVkey now server.serverId payload right.database [] faults
      rcases together.verify separate with ⟨result, leftAfter, rightAfter, after, rest, onLeft,
        onRight, coexist⟩
      unfold step Issuance.step
      dsimp only
      rw [onRight] at servers outcome
      rw [onLeft, onRight]
      cases result with
      | error error =>
          exact together.keep together.tree coexist rfl rfl servers (outcome.1 error rfl)
      | ok pseudonymId =>
          exact together.handOut coexist servers (outcome.2 pseudonymId rfl)

/-- An attestation is a step on the left alone. -/
theorem Together.attest (together : Together database left right) (payload : AttestationRequest)
    (clock : Clock) (get : String → Except String HttpResponse)
    (faults : List (Option String)) :
    Together database (step server H left (.attest payload clock get faults)) right := by
  have outcome := @attestMembershipHandler_ensures _ _ { server with clock, get }
    left.database [] payload faults
  refine ⟨together.tree, together.issued, ?_, together.earlier, together.identified⟩
  unfold step
  dsimp only
  rcases outcome with same | ⟨remote, remoteRootHex, pseudonymId, nodeType, -, -, -, same⟩
  · rw [same]
    exact together.coexist
  · rw [same]
    exact together.coexist.recorded

theorem issued_step_attest (payload : AttestationRequest) (clock : Clock)
    (get : String → Except String HttpResponse) (faults : List (Option String)) :
    (step server H state (.attest payload clock get faults)).issued = state.issued := rfl

/-- A verification that hands out a pseudonym is accepted. -/
theorem accepts_of_issued {payload : VerifyMembershipRequest} {now : String}
    {faults : List (Option String)}
    (issued : (step server H state (.participant (.verify payload now faults))).issued ≠
      state.issued) : Accepts server state payload now faults := by
  simp only [step, Issuance.step] at issued
  split at issued
  · next pseudonymId _ ran => exact ⟨pseudonymId, congrArg Prod.fst ran⟩
  · exact absurd rfl issued

theorem run_together (together : Together database left right) (calls : List CoexistenceCall)
    (separate : Execution.Guarded (step server H) (Separate server database) left calls) :
    Together database (Execution.run (step server H) left calls)
      (Execution.run (step server H) right
        (calls.filter CoexistenceCall.isParticipant)) := by
  induction calls generalizing left right with
  | nil => exact together
  | cons call calls induction =>
      cases call with
      | participant call =>
          exact induction (together.participant call separate.1) separate.2
      | attest payload clock get faults =>
          exact induction (together.attest payload clock get faults) separate.2

theorem together_initial (depth : Nat) {database : Database} (known : KnownNodes database) :
    Together database (Issuance.initial H depth database) (Issuance.initial H depth database) where
  tree := rfl
  issued := rfl
  coexist := ⟨⟨_, _, _, rfl⟩, fun _ _ taken => taken, known, known⟩
  earlier _ _ taken := taken
  identified _ _ _ member := nomatch member

/-- In runs whose verifications and attestations are separate, the identities that were
handed out keep the type of the registered role, and a verification that is accepted without
the attestations is accepted with them. -/
theorem attestations_do_not_interfere (server : FederationServer Fq Key) (H : Fr → Fr → Fr)
    (depth : Nat) (database : Database) (known : KnownNodes database)
    (calls : List CoexistenceCall)
    (separate : Execution.Guarded (step server H) (Separate server database)
      (Issuance.initial H depth database) calls) :
    (∀ state, Execution.Visits (step server H) (Issuance.initial H depth database) calls
      state → RolesKept state) ∧
    ∀ front payload now faults back,
      calls = front ++ .participant (.verify payload now faults) :: back →
      Accepts server (Execution.run (step server H) (Issuance.initial H depth database)
        (front.filter CoexistenceCall.isParticipant)) payload now faults →
      Accepts server (Execution.run (step server H) (Issuance.initial H depth database)
        front) payload now faults := by
  constructor
  · refine Execution.visits_invariant_of_guarded RolesKept step_rolesKept ?_ separate
    exact fun _ _ _ member => nomatch member
  · rintro front payload now faults back rfl accepted
    rcases Execution.guarded_append.mp separate with ⟨separateFront, separateVerify, -⟩
    exact (run_together (together_initial depth known) front separateFront).accepts
      separateVerify accepted

end Run

section Sample

/-! A participant of this server whose commitment is in the tree of a peer too. -/

open Issuance (aliasEnvironment aliasCurve aliasHash aliasDatabase aliasTopic aliasRegister
  canonicalText canonicalPseudonym canonicalRequest)

def peerRoot : GetRootResponse :=
  ⟨"1c422bf1d3d6fcb94952604824d627ba7b64a2f307be27722a8dc59cae35ae0d", 1, none⟩

def askPeer : String → Except String HttpResponse :=
  fun _ => .ok (HttpResponse.json peerRoot.toJson)

def sharedClock : Clock := ⟨"2026-01-01 00:00:00", fun _ => none, 0⟩

def sharedServer : FederationServer Fr Unit where
  environment := aliasEnvironment
  ed25519 := ⟨fun _ => none, fun _ _ _ => .ok (), fun _ => []⟩
  get := askPeer
  curve := aliasCurve
  membershipVkey := ()
  serverId := 1
  publicUrl := "https://here.example"
  clock := sharedClock

def sharedDatabase : Database :=
  { aliasDatabase with
    instances := Table.empty.insert fun id =>
      ⟨id, "https://peer.example",
        "0000000000000000000000000000000000000000000000000000000000000001", "ACTIVE"⟩ }

def sharedRegister : CoexistenceCall := .participant (aliasRegister canonicalText)

def sharedVerify : CoexistenceCall :=
  .participant (.verify canonicalRequest "2026-01-01 00:00:00" [])

def sharedAttestation (participantType : String) : AttestationRequest where
  originatingServer := "https://peer.example"
  topic := aliasTopic
  commitment := canonicalText
  proof := canonicalRequest.proof
  participantType
  signature := "00000000000000000000000000000000000000000000000000000000000000000000000000000000000000000000000000000000000000000000000000000000"

def sharedAttest (participantType : String) : CoexistenceCall :=
  .attest (sharedAttestation participantType) sharedClock askPeer []

def sharedRun (calls : List CoexistenceCall) : Issuance :=
  Execution.run (step sharedServer aliasHash)
    (Issuance.initial aliasHash 1 sharedDatabase) calls

/-- The participant is verified here. -/
def verified : Issuance :=
  step sharedServer aliasHash
    (step sharedServer aliasHash (Issuance.initial aliasHash 1 sharedDatabase) sharedRegister)
    sharedVerify

theorem verified_state :
    verified.issued = [⟨aliasTopic, canonicalText, canonicalPseudonym⟩] ∧
      registeredRole canonicalText verified.database = some .human := by
  decide +kernel

/-- The verification meets an empty table, and the attestation names the registered role. -/
theorem separate_sample :
    Execution.Guarded (step sharedServer aliasHash) (Separate sharedServer sharedDatabase)
      (Issuance.initial aliasHash 1 sharedDatabase)
      [sharedRegister, sharedVerify, sharedAttest "HUMAN"] := by
  rw [Execution.guarded_cons, Execution.guarded_cons, Execution.guarded_cons]
  refine ⟨trivial, ?_, ?_, Execution.guarded_nil _ _ _⟩
  · intro _ serverId pseudonymId role _ _ _ taken
    have identities : (step sharedServer aliasHash
        (Issuance.initial aliasHash 1 sharedDatabase) sharedRegister).database.platformIdentities =
          sharedDatabase.platformIdentities :=
      (registerIdentity_untouched _ _ _ _ _).2
    rw [hasIdentity, identities] at taken
    exact Or.inl taken
  · intro remote remoteRootHex pseudonymId nodeType _ _ _ entry member _ role registered
    have issued : entry ∈ verified.issued := member
    have registered : registeredRole entry.commitment verified.database = some role := registered
    rw [verified_state.1, List.mem_singleton] at issued
    cases issued
    cases Option.some.inj (verified_state.2.symm.trans registered)
    rfl

theorem attestations_do_not_interfere_sample :
    verified.issued ≠ [] ∧
      (∀ state, Execution.Visits (step sharedServer aliasHash)
        (Issuance.initial aliasHash 1 sharedDatabase)
        [sharedRegister, sharedVerify, sharedAttest "HUMAN"] state → RolesKept state) ∧
      ∀ front payload now faults back,
        [sharedRegister, sharedVerify, sharedAttest "HUMAN"] =
          front ++ .participant (.verify payload now faults) :: back →
        Accepts sharedServer (sharedRun (front.filter CoexistenceCall.isParticipant)) payload
          now faults →
        Accepts sharedServer (sharedRun front) payload now faults := by
  refine ⟨by rw [verified_state.1]; exact List.cons_ne_nil _ _, ?_⟩
  exact attestations_do_not_interfere sharedServer aliasHash 1 sharedDatabase
    (fun _ member => nomatch member) _ separate_sample

/-- The participant is verified, and then attested as an agent. -/
def overwritten : Issuance := step sharedServer aliasHash verified (sharedAttest "AI_AGENT")

theorem overwritten_state :
    firstServer overwritten.database = some 1 ∧
      registeredRole canonicalText overwritten.database = some .human ∧
      overwritten.database.platformIdentities.rows =
        [⟨1, 1, canonicalPseudonym, "AI_AGENT", true, true, true, true, false, true⟩] := by
  decide +kernel

theorem not_rolesKept_overwritten : ¬ RolesKept overwritten := by
  intro kept
  have same : overwritten.issued = verified.issued := by
    unfold overwritten sharedAttest
    exact issued_step_attest _ _ _ _
  have issued : ⟨aliasTopic, canonicalText, canonicalPseudonym⟩ ∈ overwritten.issued := by
    rw [same, verified_state.1]
    exact List.mem_singleton_self _
  rcases kept 1 overwritten_state.1 _ issued with ⟨role, registered, -, types⟩
  cases Option.some.inj (overwritten_state.2.1.symm.trans registered)
  rw [overwritten_state.2.2] at types
  have human := types _ (List.mem_singleton_self _) rfl rfl
  revert human
  decide

/-- The participant is attested, as what it is, and then to be verified. -/
def claimed : Issuance := sharedRun [sharedRegister, sharedAttest "HUMAN"]

theorem not_accepts_claimed :
    ¬ Accepts sharedServer claimed canonicalRequest "2026-01-01 00:00:00" [] := by
  rintro ⟨pseudonymId, ran⟩
  have refused : (verifyMembershipHandler sharedServer.environment sharedServer.curve
      sharedServer.membershipVkey "2026-01-01 00:00:00" sharedServer.serverId canonicalRequest
      ⟨claimed.database, [], []⟩).1 =
        .error (.internalServerError ("failed to create platform identity: database error: " ++
          "UNIQUE constraint failed: platform_identities.server_id, " ++
          "platform_identities.pseudonym_id")) := by decide +kernel
  rw [refused] at ran
  cases ran

/-- An attestation after a verification overwrites the type, and one before it takes the
pseudonym. -/
theorem attestations_interfere :
    (¬ ∀ calls state, Execution.Visits (step sharedServer aliasHash)
      (Issuance.initial aliasHash 1 sharedDatabase) calls state → RolesKept state) ∧
    ¬ ∀ front payload now faults,
      Accepts sharedServer (sharedRun (front.filter CoexistenceCall.isParticipant)) payload now
        faults →
      Accepts sharedServer (sharedRun front) payload now faults := by
  constructor
  · intro kept
    have reached : Execution.run (step sharedServer aliasHash)
        (Issuance.initial aliasHash 1 sharedDatabase)
        [sharedRegister, sharedVerify, sharedAttest "AI_AGENT"] = overwritten := by
      simp only [Execution.run_cons, Execution.run_nil, overwritten, verified]
    exact not_rolesKept_overwritten (kept _ _ ⟨_, List.prefix_rfl, reached⟩)
  · intro accepts
    refine not_accepts_claimed (accepts [sharedRegister, sharedAttest "HUMAN"] canonicalRequest
      "2026-01-01 00:00:00" [] ?_)
    have issued : verified.issued ≠ (step sharedServer aliasHash
        (Issuance.initial aliasHash 1 sharedDatabase) sharedRegister).issued := by
      rw [verified_state.1]
      exact List.cons_ne_nil _ _
    exact accepts_of_issued issued

end Sample

end Coexistence

end Annex.Server
