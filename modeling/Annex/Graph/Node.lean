import Mathlib.Algebra.Group.Nat.Defs
import Annex.Db.Schema
import Annex.Foundation.SqlAnswer

namespace Annex.Graph

open Db Sql

/-- Errors of the graph operations that can occur here. -/
inductive GraphError where
  | databaseError (error : DbError)
deriving DecidableEq, Repr

def GraphError.text : GraphError → String
  | .databaseError error => "database error: " ++ error.text

def strToNodeType (text : String) : Except GraphError NodeType :=
  if text = "HUMAN" then .ok .human
  else if text = "AI_AGENT" then .ok .aiAgent
  else if text = "COLLECTIVE" then .ok .collective
  else if text = "BRIDGE" then .ok .bridge
  else if text = "SERVICE" then .ok .service
  else .error (.databaseError (.conversion
    ("Conversion error from type Text at index: 0, unknown node type: " ++ text)))

@[simp] theorem strToNodeType_column (nodeType : NodeType) :
    strToNodeType nodeType.column = .ok nodeType := by
  cases nodeType <;> rfl

/-- The upsert of `ensure_graph_node`: a node that exists becomes active again and
keeps its type, and its metadata when none is given. -/
def upsertGraphNode (serverId : Nat) (pseudonymId : String) (nodeType : NodeType)
    (metadataJson : Option AgentMetadata) (now : String) (database : Database) :
    Database :=
  { database with
    graphNodes := database.graphNodes.upsert
      (fun row => row.serverId = serverId && row.pseudonymId = pseudonymId)
      (fun row =>
        { row with
          active := true
          lastSeenAt := some now
          metadataJson := metadataJson.or row.metadataJson })
      fun id =>
        { id
          serverId
          pseudonymId
          nodeType := nodeType.column
          active := true
          lastSeenAt := some now
          metadataJson } }

/-- Insert a node or reactivate it, and return its row. -/
def ensureGraphNode {Memory : Type} (now : String) (serverId : Nat)
    (pseudonymId : String) (nodeType : NodeType) (metadataJson : Option AgentMetadata) :
    Sql Database Memory GraphError GraphNode := do
  let row ← statement .databaseError fun database =>
    let changed := upsertGraphNode serverId pseudonymId nodeType metadataJson now database
    match changed.graphNodes.rows.find? fun row =>
        row.serverId = serverId && row.pseudonymId = pseudonymId with
    | some row => .ok (row, changed)
    | none => .error .noRows
  let _ ← ofExcept (strToNodeType row.nodeType)
  pure row

section EnsureGraphNode

variable {Memory : Type} {now : String} {serverId : Nat} {pseudonymId : String}
  {nodeType : NodeType} {metadataJson : Option AgentMetadata} {database : Database}
  {memory : Memory}

/-- The node of the pseudonym, if there is one, has a known type. -/
def KnownNode (serverId : Nat) (pseudonymId : String) (database : Database) : Prop :=
  ∀ row, (database.graphNodes.rows.find? fun row =>
      row.serverId = serverId && row.pseudonymId = pseudonymId) = some row →
    ∃ nodeType, strToNodeType row.nodeType = .ok nodeType

/-- The row `ensure_graph_node` returns. -/
def ensuredNode (now : String) (serverId : Nat) (pseudonymId : String) (nodeType : NodeType)
    (metadataJson : Option AgentMetadata) (database : Database) : GraphNode :=
  match database.graphNodes.rows.find? fun row =>
      row.serverId = serverId && row.pseudonymId = pseudonymId with
  | some row =>
      { row with
        active := true
        lastSeenAt := some now
        metadataJson := metadataJson.or row.metadataJson }
  | none =>
      { id := database.graphNodes.lastId + 1
        serverId
        pseudonymId
        nodeType := nodeType.column
        active := true
        lastSeenAt := some now
        metadataJson }

theorem find?_upsertGraphNode :
    ((upsertGraphNode serverId pseudonymId nodeType metadataJson now
      database).graphNodes.rows.find? fun row =>
        row.serverId = serverId && row.pseudonymId = pseudonymId) =
      some (ensuredNode now serverId pseudonymId nodeType metadataJson database) := by
  unfold upsertGraphNode ensuredNode
  dsimp only
  rw [Table.find?_upsert]
  · cases database.graphNodes.rows.find? _ <;> rfl
  · exact fun _ conflict => conflict
  · simp

theorem KnownNode.ensuredNode (known : KnownNode serverId pseudonymId database) :
    ∃ knownType, strToNodeType
      (ensuredNode now serverId pseudonymId nodeType metadataJson database).nodeType =
        .ok knownType := by
  unfold Graph.ensuredNode
  split
  · next row found => exact known row found
  · exact ⟨nodeType, strToNodeType_column nodeType⟩

theorem ensureGraphNode_keeps {γ : Type} {view : Database → γ}
    (nodes : ∀ (database : Database) graphNodes,
      view { database with graphNodes } = view database) :
    Keeps view (ensureGraphNode now serverId pseudonymId nodeType metadataJson :
      Sql Database Memory GraphError GraphNode) := by
  refine keeps_bind (keeps_statement ?_) fun _ =>
    keeps_bind (reads_ofExcept _).keeps fun _ => (reads_pure _).keeps
  intro database row changed written
  simp only [find?_upsertGraphNode, Except.ok.injEq, Prod.mk.injEq] at written
  rcases written with ⟨-, rfl⟩
  exact nodes _ _

/-- A node that is returned was upserted, and had a known type if it was there before. -/
theorem ensureGraphNode_ensures :
    Ensures (ensureGraphNode now serverId pseudonymId nodeType metadataJson) database memory
      fun result changed after => after = memory ∧ ∀ row, result = .ok row →
        KnownNode serverId pseudonymId database ∧
          changed = upsertGraphNode serverId pseudonymId nodeType metadataJson now
            database := by
  refine ensures_bind (ensures_statement ?_ ?_ ?_)
  · exact fun _ => ⟨rfl, fun _ failed => by cases failed⟩
  · intro row changed written
    simp only [find?_upsertGraphNode, Except.ok.injEq, Prod.mk.injEq] at written
    rcases written with ⟨found, rfl⟩
    rw [andThen_ok]
    refine ensures_bind ((ensures_ofExcept _).mpr ?_)
    cases known : strToNodeType row.nodeType with
    | error error => exact ⟨rfl, fun _ failed => by cases failed⟩
    | ok knownType =>
        rw [andThen_ok, ensures_pure]
        refine ⟨rfl, fun _ _ => ⟨?_, rfl⟩⟩
        intro old foundOld
        rw [ensuredNode, foundOld] at found
        exact ⟨knownType, by rw [← known, ← found]⟩
  · exact fun _ _ => ⟨rfl, fun _ failed => by cases failed⟩

theorem ensureGraphNode_achieves (known : KnownNode serverId pseudonymId database) :
    Achieves (ensureGraphNode now serverId pseudonymId nodeType metadataJson) database memory
      fun _ changed after => after = memory ∧
        changed = upsertGraphNode serverId pseudonymId nodeType metadataJson now
          database := by
  rcases @KnownNode.ensuredNode now serverId pseudonymId nodeType metadataJson database known
    with ⟨knownType, typed⟩
  refine achieves_bind (achieves_statement (by simp only [find?_upsertGraphNode]; rfl) ?_)
  exact (answers_ofExcept.mpr typed).achieves_bind (achieves_pure ⟨rfl, rfl⟩)

end EnsureGraphNode

/-- Kinds of edges of the presence graph. -/
inductive EdgeKind where
  | memberOf
  | connected
  | agentServing
  | federatedWith
  | moderates
deriving DecidableEq, Repr

def edgeKindToStr : EdgeKind → String
  | .memberOf => "MEMBER_OF"
  | .connected => "CONNECTED"
  | .agentServing => "AGENT_SERVING"
  | .federatedWith => "FEDERATED_WITH"
  | .moderates => "MODERATES"

/-- `INSERT INTO graph_edges`. There is one edge of a kind between two nodes. -/
def insertEdge (now : String) (serverId : Nat) (fromNode toNode : String) (kind : EdgeKind)
    (weight : String) (database : Database) : Except DbError Database :=
  if database.graphEdges.rows.any fun row =>
      row.serverId = serverId && row.fromNode = fromNode && row.toNode = toNode &&
        row.kind = edgeKindToStr kind then
    .error (.constraint .unique ("UNIQUE constraint failed: graph_edges.server_id, " ++
      "graph_edges.from_node, graph_edges.to_node, graph_edges.kind"))
  else
    .ok
      { database with
        graphEdges := database.graphEdges.insert fun id =>
          { id
            serverId
            fromNode
            toNode
            kind := edgeKindToStr kind
            weight
            createdAt := now } }

/-- Create an edge of the presence graph. -/
def createEdge {Memory : Type} (now : String) (serverId : Nat) (fromNode toNode : String)
    (kind : EdgeKind) (weight : String) : Sql Database Memory GraphError Unit :=
  execute .databaseError (insertEdge now serverId fromNode toNode kind weight)

/-- Delete the edges of a kind between two nodes, answering how many. -/
def deleteEdge {Memory : Type} (serverId : Nat) (fromNode toNode : String)
    (kind : EdgeKind) : Sql Database Memory GraphError Nat :=
  statement .databaseError fun database =>
    let selected (row : GraphEdge) : Bool :=
      row.serverId = serverId && row.fromNode = fromNode && row.toNode = toNode &&
        row.kind = edgeKindToStr kind
    .ok (database.graphEdges.rows.countP selected,
      { database with graphEdges := database.graphEdges.deleteWhere selected })

/-! Whether a node of the presence graph counts as active. -/

/-- `WHERE server_id = ? AND pseudonym_id = ? AND active = ?`. -/
def hasActivity (serverId : Nat) (pseudonymId : String) (active : Bool) (row : GraphNode) :
    Bool :=
  row.serverId = serverId && row.pseudonymId = pseudonymId && row.active = active

/-- An `UPDATE` of the nodes of a pseudonym that are active, or that are not, answering how
many it changed. -/
def updateNode {Memory : Type} (serverId : Nat) (pseudonymId : String) (active : Bool)
    (change : GraphNode → GraphNode) (keyed : ∀ row, key (change row) = key row) :
    Sql Database Memory GraphError Nat :=
  statement .databaseError fun database =>
    .ok (database.graphNodes.rows.countP (hasActivity serverId pseudonymId active),
      { database with
        graphNodes := database.graphNodes.updateWhere
          (hasActivity serverId pseudonymId active) change keyed })

def seen (now : String) (row : GraphNode) : GraphNode :=
  { row with lastSeenAt := some now }

def reactivated (now : String) (row : GraphNode) : GraphNode :=
  { row with active := true, lastSeenAt := some now }

/-- Note that a node was seen, answering whether it was inactive until then. -/
def updateNodeActivity {Memory : Type} (now : String) (serverId : Nat) (pseudonymId : String) :
    Sql Database Memory GraphError Bool := do
  let count ← updateNode serverId pseudonymId true (seen now) fun _ => rfl
  if 0 < count then
    pure false
  else do
    let count ← updateNode serverId pseudonymId false (reactivated now) fun _ => rfl
    pure (decide (0 < count))

/-- Active and last seen before the given time. A node that was never seen, or a time that
cannot be computed, compares as unknown. -/
def isInactive (serverId : Nat) (cutoff : Option String) (row : GraphNode) : Bool :=
  row.serverId = serverId && row.active &&
    match row.lastSeenAt, cutoff with
    | some lastSeenAt, some cutoff => lastSeenAt < cutoff
    | _, _ => false

/-- Deactivate the nodes that were last seen more than `thresholdSeconds` ago, answering whose
they are. `secondsAgo` gives the time so many seconds back, if the database can tell. -/
def pruneInactiveNodes {Memory : Type} (secondsAgo : Nat → Option String) (serverId : Nat)
    (thresholdSeconds : Nat) : Sql Database Memory GraphError (List String) :=
  statement .databaseError fun database =>
    if thresholdSeconds < 2 ^ 63 then
      let selected := isInactive serverId (secondsAgo thresholdSeconds)
      .ok ((database.graphNodes.rows.filter selected).map GraphNode.pseudonymId,
        { database with
          graphNodes := database.graphNodes.updateWhere selected fun row =>
            { row with active := false } })
    else
      .error (.conversion "out of range integral type conversion attempted")

section Keeps

variable {γ Memory : Type} {view : Database → γ}

theorem updateNode_keeps {serverId : Nat} {pseudonymId : String} {active : Bool}
    {change : GraphNode → GraphNode} {keyed : ∀ row, key (change row) = key row}
    (nodes : ∀ (database : Database) graphNodes,
      view { database with graphNodes } = view database) :
    Keeps view (updateNode serverId pseudonymId active change keyed :
      Sql Database Memory GraphError Nat) := by
  apply keeps_statement
  intro database count changed written
  cases written
  exact nodes database _

theorem updateNodeActivity_keeps {now : String} {serverId : Nat} {pseudonymId : String}
    (nodes : ∀ (database : Database) graphNodes,
      view { database with graphNodes } = view database) :
    Keeps view (updateNodeActivity now serverId pseudonymId :
      Sql Database Memory GraphError Bool) := by
  refine keeps_bind (updateNode_keeps nodes) fun count => ?_
  split
  · exact (reads_pure _).keeps
  · exact keeps_bind (updateNode_keeps nodes) fun count => (reads_pure _).keeps

theorem pruneInactiveNodes_keeps {secondsAgo : Nat → Option String}
    {serverId thresholdSeconds : Nat}
    (nodes : ∀ (database : Database) graphNodes,
      view { database with graphNodes } = view database) :
    Keeps view (pruneInactiveNodes secondsAgo serverId thresholdSeconds :
      Sql Database Memory GraphError (List String)) := by
  apply keeps_statement
  intro database pruned changed written
  split at written
  · cases written
    exact nodes database _
  · cases written

end Keeps

end Annex.Graph
