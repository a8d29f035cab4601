import Annex.Foundation.BreadthFirst
import Annex.Graph.Node

namespace Annex.Graph

open Db Sql BreadthFirst

/-! The search for a path between two nodes of the presence graph. -/

/-- Maximum number of nodes the BFS traversal will visit before stopping. -/
def maxBfsVisitedNodes : Nat := 10000

/-- The result of a BFS path query. -/
structure BfsPath where
  found : Bool
  path : List String
  length : Nat
deriving DecidableEq, Repr

/-- The order in which a query without `ORDER BY` hands out its rows. -/
structure RowOrder where
  arrange : List GraphEdge → List GraphEdge
  perm : ∀ rows, (arrange rows).Perm rows

/-- `SELECT to_node FROM graph_edges WHERE server_id = ?1 AND from_node = ?2`. -/
def outgoing (order : RowOrder) (serverId : Nat) (node : String) (database : Database) :
    List String :=
  (order.arrange (database.graphEdges.rows.filter fun row =>
    row.serverId = serverId && row.fromNode = node)).map GraphEdge.toNode

/-- `SELECT from_node FROM graph_edges WHERE server_id = ?1 AND to_node = ?2`. -/
def incoming (order : RowOrder) (serverId : Nat) (node : String) (database : Database) :
    List String :=
  (order.arrange (database.graphEdges.rows.filter fun row =>
    row.serverId = serverId && row.toNode = node)).map GraphEdge.fromNode

section Loop

variable {Memory : Type} (order : RowOrder) (serverId : Nat) (toNode : String)
  (maxDepth : Nat)

/-- One turn of the loop. -/
def bfsTurn (frontier : Frontier String) :
    Sql Database Memory GraphError (Progress String) :=
  match frontier.queue with
  | [] => pure (.ended .exhausted)
  | (currentNode, currentPath) :: queue =>
      if maxDepth < currentPath.length then
        pure (.goesOn { frontier with queue })
      else if maxBfsVisitedNodes ≤ frontier.visited.length then
        pure (.ended .capped)
      else do
        let rowsOut ← query .databaseError fun database =>
          .ok (outgoing order serverId currentNode database)
        let rowsIn ← query .databaseError fun database =>
          .ok (incoming order serverId currentNode database)
        pure (scan toNode currentPath (rowsOut ++ rowsIn) { frontier with queue })

/-- The loop, as far as the fuel goes. -/
def bfsLoop : Nat → Frontier String →
    Sql Database Memory GraphError (Option (Ending String))
  | 0, _ => pure none
  | fuel + 1, frontier => do
      match ← bfsTurn order serverId toNode maxDepth frontier with
      | .ended ending => pure (some ending)
      | .goesOn next => bfsLoop fuel next

end Loop

/-- The result with which a search ends. -/
def endingPath : Ending String → BfsPath
  | .found path => { found := true, path, length := path.length - 1 }
  | .exhausted => { found := false, path := [], length := 0 }
  | .capped => { found := false, path := [], length := 0 }

/-- Finds the shortest path between two nodes using BFS. Nothing is returned when the fuel runs
out. -/
def findPathBfs {Memory : Type} (order : RowOrder) (fuel : Nat) (serverId : Nat)
    (fromNode toNode : String) (maxDepth : Nat) :
    Sql Database Memory GraphError (Option BfsPath) :=
  if fromNode = toNode then
    pure (some { found := true, path := [fromNode], length := 0 })
  else do
    -- The two statements are prepared before the loop.
    connect .databaseError
    connect .databaseError
    let ending ← bfsLoop order serverId toNode maxDepth fuel (start fromNode)
    pure (ending.map endingPath)

/-! The graph the edges of a server make. -/

/-- The presence graph of a server, its edges taken without direction. -/
def presenceGraph (serverId : Nat) (database : Database) : SimpleGraph String :=
  SimpleGraph.fromRel fun left right => ∃ row ∈ database.graphEdges.rows,
    row.serverId = serverId ∧ row.fromNode = left ∧ row.toNode = right

/-- The nodes the edges of a server mention. -/
def mentionedNodes (serverId : Nat) (database : Database) : Finset String :=
  ((database.graphEdges.rows.filter fun row => row.serverId = serverId).flatMap fun row =>
    [row.fromNode, row.toNode]).toFinset

section Edges

variable {order : RowOrder} {serverId : Nat} {database : Database} {node next : String}

/-- What the two edge queries find for a node. -/
def neighbors (order : RowOrder) (serverId : Nat) (database : Database) (node : String) :
    List String :=
  outgoing order serverId node database ++ incoming order serverId node database

theorem mem_outgoing :
    next ∈ outgoing order serverId node database ↔ ∃ row ∈ database.graphEdges.rows,
      row.serverId = serverId ∧ row.fromNode = node ∧ row.toNode = next := by
  simp [outgoing, (order.perm _).mem_iff, and_assoc]

theorem mem_incoming :
    next ∈ incoming order serverId node database ↔ ∃ row ∈ database.graphEdges.rows,
      row.serverId = serverId ∧ row.fromNode = next ∧ row.toNode = node := by
  simp [incoming, (order.perm _).mem_iff, and_assoc, and_left_comm, and_comm]

/-- The queries list the adjacent nodes, apart from loops. -/
theorem mem_neighbors (different : node ≠ next) :
    next ∈ neighbors order serverId database node ↔
      (presenceGraph serverId database).Adj node next := by
  rw [neighbors, List.mem_append, mem_outgoing, mem_incoming, presenceGraph,
    SimpleGraph.fromRel_adj]
  exact ⟨fun linked => ⟨different, linked⟩, fun adjacent => adjacent.2⟩

theorem neighbors_mentioned (listed : next ∈ neighbors order serverId database node) :
    next ∈ mentionedNodes serverId database := by
  rw [mentionedNodes, List.mem_toFinset, List.mem_flatMap]
  rcases List.mem_append.mp listed with out | into
  · rcases mem_outgoing.mp out with ⟨row, stored, server, -, target⟩
    exact ⟨row, by simp [stored, server], by simp [target]⟩
  · rcases mem_incoming.mp into with ⟨row, stored, server, source, -⟩
    exact ⟨row, by simp [stored, server], by simp [source]⟩

end Edges

section Runs

variable {Memory : Type} {order : RowOrder} {serverId : Nat} {fromNode toNode : String}
  {maxDepth fuel : Nat} {database : Database} {memory : Memory} {frontier : Frontier String}

/-- Without failing statements a turn of the loop is a step of the search. -/
theorem bfsTurn_answers :
    Answers (bfsTurn order serverId toNode maxDepth frontier) database memory
      (step (neighbors order serverId database) toNode maxDepth maxBfsVisitedNodes
        frontier) := by
  rcases frontier with ⟨_ | ⟨⟨node, path⟩, queue⟩, visited⟩
  · rfl
  · unfold bfsTurn step
    dsimp only
    split
    · rfl
    · split <;> rfl

theorem bfsLoop_answers :
    Answers (bfsLoop order serverId toNode maxDepth fuel frontier) database memory
      (search (neighbors order serverId database) toNode maxDepth maxBfsVisitedNodes fuel
        frontier) := by
  induction fuel generalizing frontier with
  | zero => rfl
  | succ fuel induction =>
      refine (bind_ok bfsTurn_answers).trans ?_
      rw [search]
      cases step (neighbors order serverId database) toNode maxDepth maxBfsVisitedNodes
        frontier with
      | ended ending => rfl
      | goesOn next => exact induction

theorem findPathBfs_answers (different : fromNode ≠ toNode) :
    Answers (findPathBfs order fuel serverId fromNode toNode maxDepth) database memory
      ((search (neighbors order serverId database) toNode maxDepth maxBfsVisitedNodes fuel
        (start fromNode)).map endingPath) := by
  rw [findPathBfs, if_neg different]
  exact bind_ok bfsLoop_answers

/-- The result reports a path exactly when the distance is within the depth, and then it holds
a shortest one. -/
structure BfsPath.Correct (graph : SimpleGraph String) (fromNode toNode : String)
    (maxDepth : Nat) (result : BfsPath) : Prop where
  found_iff : result.found = true ↔ graph.edist fromNode toNode ≤ maxDepth
  shortest : result.found = true → ShortestPath graph fromNode toNode result.path
  length_eq : result.found = true → graph.edist fromNode toNode = result.length

theorem endingPath_correct {graph : SimpleGraph String} {ending : Ending String}
    (settles : ending.Settles graph fromNode toNode maxDepth) (uncapped : ending ≠ .capped) :
    (endingPath ending).Correct graph fromNode toNode maxDepth := by
  cases ending with
  | found path =>
      exact ⟨⟨fun _ => settles.2, fun _ => rfl⟩, fun _ => settles.1, fun _ => settles.1.length_eq⟩
  | exhausted =>
      refine ⟨⟨fun found => ?_, fun near => ?_⟩, fun found => ?_, fun found => ?_⟩
      · cases found
      · exact absurd near (not_le.mpr settles)
      · cases found
      · cases found
  | capped => exact absurd rfl uncapped

/-- A node is at no distance of itself. -/
theorem correct_self (graph : SimpleGraph String) :
    BfsPath.Correct graph fromNode fromNode maxDepth
      { found := true, path := [fromNode], length := 0 } where
  found_iff := by simp
  shortest := fun _ => shortestPath_singleton
  length_eq := fun _ => graph.edist_self

/-- However a search of the presence graph ends, its ending is right. -/
theorem search_settles (different : fromNode ≠ toNode) {ending : Ending String}
    (ended : search (neighbors order serverId database) toNode maxDepth maxBfsVisitedNodes fuel
      (start fromNode) = some ending) :
    ending.Settles (presenceGraph serverId database) fromNode toNode maxDepth :=
  (explores_start different).search (fun _ _ => mem_neighbors) ended

/-- With enough fuel for the nodes mentioned the search ends. -/
theorem search_ends (order : RowOrder)
    (enough : (mentionedNodes serverId database).card + 1 < fuel) :
    ∃ ending, search (neighbors order serverId database) toNode maxDepth maxBfsVisitedNodes
      fuel (start fromNode) = some ending := by
  let nodes := insert fromNode (mentionedNodes serverId database)
  have within : Within nodes (start fromNode) := within_start (Finset.mem_insert_self _ _)
  refine within.search_ends (fun _ _ listed => ?_) ?_
  · exact Finset.mem_insert_of_mem (neighbors_mentioned listed)
  · have card := Finset.card_insert_le fromNode (mentionedNodes serverId database)
    have positive := Finset.card_pos.mpr ⟨fromNode, Finset.mem_insert_self fromNode
      (mentionedNodes serverId database)⟩
    simp only [potential, start, List.length_singleton, nodes]
    omega

theorem search_uncapped
    (few : (mentionedNodes serverId database).card < maxBfsVisitedNodes - 1) :
    search (neighbors order serverId database) toNode maxDepth maxBfsVisitedNodes fuel
      (start fromNode) ≠ some .capped := by
  let nodes := insert fromNode (mentionedNodes serverId database)
  have within : Within nodes (start fromNode) := within_start (Finset.mem_insert_self _ _)
  refine within.search_uncapped (fun _ _ listed => ?_) ?_
  · exact Finset.mem_insert_of_mem (neighbors_mentioned listed)
  · have card := Finset.card_insert_le fromNode (mentionedNodes serverId database)
    dsimp only [nodes]
    omega

/-- Among few enough nodes the search returns, and its result is right. -/
theorem findPathBfs_correct (order : RowOrder) (serverId : Nat) (fromNode toNode : String)
    (maxDepth : Nat) (database : Database) (memory : Memory)
    (few : (mentionedNodes serverId database).card < maxBfsVisitedNodes - 1) (fuel : Nat)
    (enough : (mentionedNodes serverId database).card + 1 < fuel) :
    ∃ result,
      Answers (findPathBfs order fuel serverId fromNode toNode maxDepth) database memory
        (some result) ∧
      result.Correct (presenceGraph serverId database) fromNode toNode maxDepth := by
  by_cases same : fromNode = toNode
  · refine ⟨{ found := true, path := [fromNode], length := 0 }, ?_, ?_⟩
    · rw [findPathBfs, if_pos same]
      rfl
    · rw [← same]
      exact correct_self _
  · rcases search_ends order enough with ⟨ending, ended⟩
    refine ⟨endingPath ending, ?_, ?_⟩
    · have answers : Answers (findPathBfs order fuel serverId fromNode toNode maxDepth)
          database memory _ := findPathBfs_answers same
      rw [ended] at answers
      exact answers
    · refine endingPath_correct (search_settles same ended) fun capped => ?_
      rw [capped] at ended
      exact search_uncapped few ended

end Runs

namespace Sample

/-- The order of insertion. -/
def inserted : RowOrder := ⟨fun rows => rows, fun _ => .refl _⟩

/-- The edges of server 1 between the given nodes. -/
def edges : List (String × String) → Table GraphEdge → Table GraphEdge
  | [], table => table
  | (fromNode, toNode) :: rest, table =>
      edges rest (table.insert fun id =>
        { id
          serverId := 1
          fromNode
          toNode
          kind := "CONNECTED"
          weight := "1.0"
          createdAt := "2024-01-01 00:00:00" })

/-- A database with these edges only. -/
def linked (pairs : List (String × String)) : Database :=
  { migrated with graphEdges := edges pairs Table.empty }

/-- Two edges that meet at a node, and a loop there. -/
def corner : Database :=
  linked [("ana", "bo"), ("cy", "bo"), ("bo", "bo")]

theorem findPathBfs_correct_corner :
    ∃ result,
      Answers (findPathBfs inserted 5 1 "ana" "cy" 2) corner () (some result) ∧
      result.Correct (presenceGraph 1 corner) "ana" "cy" 2 :=
  findPathBfs_correct inserted 1 "ana" "cy" 2 corner () (by decide) 5 (by decide)

/-- The path found there. -/
example : (findPathBfs inserted 5 1 "ana" "cy" 2 ⟨corner, (), []⟩).1 =
    .ok (some { found := true, path := ["ana", "bo", "cy"], length := 2 }) := by
  decide

end Sample

end Annex.Graph
