import Annex.Foundation.SqlAnswer
import Annex.Graph.Visibility
import Annex.Server.State

namespace Annex.Graph

open Db Sql BreadthFirst

/-! The profile of a node of the presence graph, as another node sees it. -/

/-- A filtered view of a graph node, respecting visibility rules. -/
structure GraphProfile where
  pseudonymId : String
  nodeType : NodeType
  active : Bool
  createdAt : String
  lastSeenAt : Option String
  metadataJson : Option AgentMetadata
  visibility : VisibilityLevel
deriving DecidableEq, Repr

inductive ProfileError where
  | nodeNotFound (pseudonymId : String)
  | graph (error : GraphError)
deriving DecidableEq, Repr

def ProfileError.text : ProfileError → String
  | .nodeNotFound pseudonymId => "node not found: " ++ pseudonymId
  | .graph error => error.text

/-- `SELECT ... FROM graph_nodes WHERE server_id = ?1 AND pseudonym_id = ?2`. -/
def storedNode (serverId : Nat) (pseudonymId : String) (database : Database) : Option GraphNode :=
  database.graphNodes.rows.find? fun row =>
    row.serverId = serverId && row.pseudonymId = pseudonymId

/-- The profile at a level of visibility. -/
def GraphProfile.of (createdAt : Nat → String) (node : GraphNode) (nodeType : NodeType)
    (visibility : VisibilityLevel) : GraphProfile where
  pseudonymId := node.pseudonymId
  nodeType
  active := node.active
  createdAt := createdAt node.id
  lastSeenAt :=
    match visibility with
    | .self | .degree1 => node.lastSeenAt
    | .degree2 | .degree3 | .aggregateOnly | .none => none
  metadataJson :=
    match visibility with
    | .self => node.metadataJson
    | .degree1 | .degree2 | .degree3 | .aggregateOnly | .none => none
  visibility

section Profile

variable {Memory : Type}

/-- The node, with its type read. -/
def getGraphNode (serverId : Nat) (pseudonymId : String) :
    Sql Database Memory GraphError (Option (GraphNode × NodeType)) := do
  let raw ← query .databaseError fun database => .ok (storedNode serverId pseudonymId database)
  match raw with
  | none => pure none
  | some node => do
      let nodeType ← ofExcept (strToNodeType node.nodeType)
      pure (some (node, nodeType))

/-- Retrieves the profile of a target node visible to the viewer. The creation times are those
of the nodes by their ids. Nothing is returned when the fuel runs out. -/
def getVisibleProfile (createdAt : Nat → String) (order : RowOrder) (fuel : Nat) (serverId : Nat)
    (viewer target : String) : Sql Database Memory ProfileError (Option GraphProfile) := do
  let found ← mapErr .graph (getGraphNode serverId target)
  let (node, nodeType) ← require found (.nodeNotFound target)
  let visibility ← mapErr .graph (getNodeVisibility order fuel serverId viewer target)
  pure (visibility.map (GraphProfile.of createdAt node nodeType))

end Profile

section Levels

variable {Memory : Type} {order : RowOrder} {serverId fuel : Nat} {viewer target : String}
  {database first second : Database} {memory : Memory}

/-- The two levels that show more than everyone may see, by the distance. -/
theorem edist_of_level {graph : SimpleGraph String} {ending : Ending String}
    (settles : ending.Settles graph viewer target 3) :
    (pathVisibility (endingPath ending) = .self → graph.edist viewer target = 0) ∧
      (pathVisibility (endingPath ending) = .degree1 → graph.edist viewer target = 1) := by
  cases ending with
  | found path =>
      rw [settles.1.length_eq]
      unfold pathVisibility endingPath
      dsimp only
      rw [if_pos rfl]
      split <;> simp_all
  | exhausted | capped => constructor <;> (intro level_eq; cases level_eq)

theorem level_edist (different : viewer ≠ target) {level : VisibilityLevel}
    (answers : Answers (getNodeVisibility order fuel serverId viewer target) database memory
      (some level)) :
    (level = .self → (presenceGraph serverId database).edist viewer target = 0) ∧
      (level = .degree1 → (presenceGraph serverId database).edist viewer target = 1) := by
  cases ended : search (neighbors order serverId database) target 3 maxBfsVisitedNodes fuel
      (start viewer) with
  | none =>
      have stuck : Answers (findPathBfs order fuel serverId viewer target 3) database memory _ :=
        findPathBfs_answers different
      rw [ended] at stuck
      rw [getNodeVisibility, if_neg different] at answers
      cases (bind_ok stuck).symm.trans answers
  | some ending =>
      cases (getNodeVisibility_answers different ended).symm.trans answers
      exact edist_of_level (search_settles different ended)

theorem level_ne_self (different : viewer ≠ target) {level : VisibilityLevel}
    (answers : Answers (getNodeVisibility order fuel serverId viewer target) database memory
      (some level)) : level ≠ .self :=
  fun level_eq => different (SimpleGraph.edist_eq_zero_iff.mp
    ((level_edist different answers).1 level_eq))

/-- A node that is not linked to another does not see it as a neighbor does. -/
theorem level_of_apart (different : viewer ≠ target)
    (apart : ¬ (presenceGraph serverId database).Adj viewer target) {level : VisibilityLevel}
    (answers : Answers (getNodeVisibility order fuel serverId viewer target) database memory
      (some level)) : level ≠ .degree1 :=
  fun level_eq => apart (SimpleGraph.edist_eq_one_iff_adj.mp
    ((level_edist different answers).2 level_eq))

/-- A linked node is seen as a neighbor, however many other nodes there are. -/
theorem level_of_linked (linked : (presenceGraph serverId database).Adj viewer target) :
    Answers (getNodeVisibility order (fuel + 1) serverId viewer target) database memory
      (some .degree1) := by
  have different : viewer ≠ target := linked.ne
  have listed : target ∈ neighbors order serverId database viewer :=
    (mem_neighbors different).mpr linked
  have ended : search (neighbors order serverId database) target 3 maxBfsVisitedNodes (fuel + 1)
      (start viewer) = some (.found [viewer, target]) := by
    rw [search, start, step_open (show 1 ≤ 3 by decide)
      (show 1 < maxBfsVisitedNodes by decide), scan_of_mem listed]
    rfl
  exact getNodeVisibility_answers different ended

theorem looks_bfsLoop {toNode : String} {maxDepth : Nat} {frontier : Frontier String} :
    Looks (bfsLoop order serverId toNode maxDepth fuel frontier :
      Sql Database Memory GraphError (Option (Ending String))) := by
  induction fuel generalizing frontier with
  | zero => exact looks_pure _
  | succ fuel induction =>
      refine looks_bind ?_ fun progress => ?_
      · unfold bfsTurn
        split
        · exact looks_pure _
        · split
          · exact looks_pure _
          · split
            · exact looks_pure _
            · exact looks_bind (looks_query _ _) fun _ => looks_bind (looks_query _ _) fun _ =>
                looks_pure _
      · split
        · exact looks_pure _
        · exact induction

theorem looks_getNodeVisibility :
    Looks (getNodeVisibility order fuel serverId viewer target :
      Sql Database Memory GraphError (Option VisibilityLevel)) := by
  unfold getNodeVisibility findPathBfs
  split
  · exact looks_pure _
  · refine looks_bind ?_ fun _ => looks_pure _
    exact looks_bind (looks_connect _) fun _ => looks_bind (looks_connect _) fun _ =>
      looks_bind looks_bfsLoop fun _ => looks_pure _

theorem looks_getGraphNode {pseudonymId : String} :
    Looks (getGraphNode serverId pseudonymId :
      Sql Database Memory GraphError (Option (GraphNode × NodeType))) := by
  refine looks_bind (looks_query _ _) fun raw => ?_
  cases raw with
  | none => exact looks_pure _
  | some node => exact looks_bind (looks_ofExcept _) fun _ => looks_pure _

theorem looks_getVisibleProfile {createdAt : Nat → String} :
    Looks (getVisibleProfile createdAt order fuel serverId viewer target :
      Sql Database Memory ProfileError (Option GraphProfile)) :=
  looks_bind (looks_mapErr looks_getGraphNode) fun _ => looks_bind (looks_require _ _) fun _ =>
    looks_bind (looks_mapErr looks_getNodeVisibility) fun _ => looks_pure _

section Matched

variable (edges : first.graphEdges = second.graphEdges)

include edges

theorem matched_bfsLoop {toNode : String} {maxDepth : Nat} {frontier : Frontier String} :
    Matched Eq first second
      (bfsLoop order serverId toNode maxDepth fuel frontier :
        Sql Database Memory GraphError (Option (Ending String)))
      (bfsLoop order serverId toNode maxDepth fuel frontier) := by
  have out : ∀ node, outgoing order serverId node first = outgoing order serverId node second := by
    intro node
    rw [outgoing, outgoing, edges]
  have into : ∀ node, incoming order serverId node first = incoming order serverId node second := by
    intro node
    rw [incoming, incoming, edges]
  induction fuel generalizing frontier with
  | zero => exact matched_pure rfl
  | succ fuel induction =>
      refine matched_bind (?_ : Matched Eq first second _ _) ?_
      · unfold bfsTurn
        split
        · exact matched_pure rfl
        · split
          · exact matched_pure rfl
          · split
            · exact matched_pure rfl
            · refine matched_bind (matched_query (out _)) ?_
              rintro rowsOut _ rfl
              refine matched_bind (matched_query (into _)) ?_
              rintro rowsIn _ rfl
              exact matched_pure rfl
      · rintro progress _ rfl
        split
        · exact matched_pure rfl
        · exact induction

theorem matched_findPathBfs {toNode : String} {maxDepth : Nat} {fromNode : String} :
    Matched Eq first second
      (findPathBfs order fuel serverId fromNode toNode maxDepth :
        Sql Database Memory GraphError (Option BfsPath))
      (findPathBfs order fuel serverId fromNode toNode maxDepth) := by
  unfold findPathBfs
  split
  · exact matched_pure rfl
  · refine matched_bind (matched_connect _) fun _ _ _ => ?_
    refine matched_bind (matched_connect _) fun _ _ _ => ?_
    refine matched_bind (matched_bfsLoop edges) ?_
    rintro ending _ rfl
    exact matched_pure rfl

/-- How much is seen depends on the edges only. -/
theorem matched_getNodeVisibility :
    Matched Eq first second
      (getNodeVisibility order fuel serverId viewer target :
        Sql Database Memory GraphError (Option VisibilityLevel))
      (getNodeVisibility order fuel serverId viewer target) := by
  unfold getNodeVisibility
  split
  · exact matched_pure rfl
  · refine matched_bind (matched_findPathBfs edges) ?_
    rintro path _ rfl
    exact matched_pure rfl

end Matched

end Levels

end Annex.Graph

namespace Annex.Server

open Db Graph Sql

inductive GraphApiError where
  | badRequest (text : String)
  | notFound (text : String)
  | internalServerError (text : String)
deriving DecidableEq, Repr

def graphApiError (error : ProfileError) : GraphApiError :=
  match error with
  | .nodeNotFound _ => .notFound error.text
  | .graph _ => .internalServerError error.text

/-- `GET /api/graph/profile/{targetPseudonym}` for an identity that is authenticated. -/
def getProfileHandler {Memory : Type} (createdAt : Nat → String) (order : RowOrder) (fuel : Nat)
    (serverId : Nat) (identity : PlatformIdentity) (targetPseudonym : String) :
    Sql Database Memory GraphApiError (Option GraphProfile) := do
  connect fun error => .internalServerError ("db connection failed: " ++ error.text)
  mapErr graphApiError
    (getVisibleProfile createdAt order fuel serverId identity.pseudonymId targetPseudonym)

def maxBfsDepth : Nat := 10

/-- `GET /api/graph/degrees`. -/
def getDegreesHandler {Memory : Type} (order : RowOrder) (fuel : Nat) (serverId : Nat)
    (fromNode toNode : String) (maxDepth : Nat) :
    Sql Database Memory GraphApiError (Option BfsPath) := do
  check (maxDepth ≤ maxBfsDepth) (.badRequest
    ("max_depth must be <= " ++ toString maxBfsDepth ++ ", got " ++ toString maxDepth))
  connect fun error => .internalServerError ("db connection failed: " ++ error.text)
  mapErr (fun error => .internalServerError (GraphError.text error))
    (findPathBfs order fuel serverId fromNode toNode maxDepth)

section Disclosure

variable {Memory : Type} {createdAt : Nat → String} {order : RowOrder} {fuel serverId : Nat}
  {identity : PlatformIdentity} {target : String} {first second : Database}

/-- What everyone may see of a node. -/
def publicNode (createdAt : Nat → String) (serverId : Nat) (pseudonymId : String)
    (database : Database) : Option (String × String × Bool × String) :=
  (storedNode serverId pseudonymId database).map fun node =>
    (node.pseudonymId, node.nodeType, node.active, createdAt node.id)

/-- Nodes that are read on two databases, with their one type. -/
def BothFound (serverId : Nat) (target : String) (first second : Database)
    (found other : Option (GraphNode × NodeType)) : Prop :=
  found = none ∧ other = none ∨
    ∃ node otherNode nodeType, found = some (node, nodeType) ∧
      other = some (otherNode, nodeType) ∧ storedNode serverId target first = some node ∧
        storedNode serverId target second = some otherNode

theorem matched_getGraphNode
    (shown : publicNode createdAt serverId target first =
      publicNode createdAt serverId target second) :
    Matched (BothFound serverId target first second) first second
      (getGraphNode serverId target : Sql Database Memory GraphError _)
      (getGraphNode serverId target) := by
  unfold publicNode at shown
  refine matched_bind (?_ : Matched (fun raw other =>
    raw = storedNode serverId target first ∧ other = storedNode serverId target second)
    first second _ _) ?_
  · exact matched_query ⟨rfl, rfl⟩
  rintro raw other ⟨rfl, rfl⟩
  cases found : storedNode serverId target first with
  | none =>
      rw [found, Option.map_none] at shown
      rw [Option.map_eq_none_iff.mp shown.symm]
      exact matched_pure (Or.inl ⟨rfl, rfl⟩)
  | some node =>
      rw [found, Option.map_some] at shown
      rcases Option.map_eq_some_iff.mp shown.symm with ⟨otherNode, known, same⟩
      rw [known]
      simp only [Prod.mk.injEq] at same
      dsimp only
      rw [same.2.1]
      refine matched_bind (matched_ofExcept _) ?_
      rintro nodeType _ rfl
      exact matched_pure (Or.inr ⟨node, otherNode, nodeType, rfl, rfl, found, known⟩)

/-- Where the viewer's level shows nothing of what differs, the answers do not differ. -/
theorem matched_getProfileHandler (edges : first.graphEdges = second.graphEdges)
    (shown : publicNode createdAt serverId target first =
      publicNode createdAt serverId target second)
    (levels : ∀ (memory : Memory) level node other nodeType,
      Answers (getNodeVisibility order fuel serverId identity.pseudonymId target) first memory
        (some level) →
      storedNode serverId target first = some node →
      storedNode serverId target second = some other →
      GraphProfile.of createdAt other nodeType level =
        GraphProfile.of createdAt node nodeType level) :
    Matched Eq first second
      (getProfileHandler createdAt order fuel serverId identity target :
        Sql Database Memory GraphApiError (Option GraphProfile))
      (getProfileHandler createdAt order fuel serverId identity target) := by
  refine matched_bind (matched_connect _) fun _ _ _ => matched_mapErr ?_
  refine matched_bind (matched_mapErr (matched_getGraphNode shown)) ?_
  rintro found other (⟨rfl, rfl⟩ | ⟨node, otherNode, nodeType, rfl, rfl, known, knownOther⟩)
  · exact matched_bind (matched_fail _) fun _ _ agrees => absurd agrees id
  · refine matched_bind (?_ : Matched (fun pair other =>
      pair = (node, nodeType) ∧ other = (otherNode, nodeType)) first second _ _) ?_
    · exact matched_pure ⟨rfl, rfl⟩
    rintro _ _ ⟨rfl, rfl⟩
    refine matched_bind (matched_mapErr
      (looks_getNodeVisibility.matched (matched_getNodeVisibility edges))) ?_
    rintro _ visibility ⟨rfl, memory, answers⟩
    refine matched_pure ?_
    cases visibility with
    | none => rfl
    | some level =>
        exact congrArg some (levels memory level node otherNode nodeType answers known
          knownOther).symm

/-- The degrees of separation show nothing but the edges. -/
theorem matched_getDegreesHandler {fromNode toNode : String} {maxDepth : Nat}
    (edges : first.graphEdges = second.graphEdges) :
    Matched Eq first second
      (getDegreesHandler order fuel serverId fromNode toNode maxDepth :
        Sql Database Memory GraphApiError (Option BfsPath))
      (getDegreesHandler order fuel serverId fromNode toNode maxDepth) := by
  unfold getDegreesHandler check
  split
  · exact matched_bind (matched_pure rfl) fun _ _ _ =>
      matched_bind (matched_connect _) fun _ _ _ => matched_mapErr (matched_findPathBfs edges)
  · exact matched_bind (matched_fail _) fun _ _ agrees => absurd agrees id

/-- When a node was seen last. -/
def lastSeen (serverId : Nat) (pseudonymId : String) (database : Database) : Option String :=
  (storedNode serverId pseudonymId database).bind GraphNode.lastSeenAt

/-- Two databases with the same edges and the same public facts of a node answer a viewer alike,
whatever the node's metadata are, and for a viewer that is not linked to the node, whenever
the node was seen. -/
theorem profile_hides (createdAt : Nat → String) (order : RowOrder) (fuel serverId : Nat)
    (identity : PlatformIdentity) (target : String) (first second : Database) (memory : Memory)
    (faults : List (Option String)) (other : identity.pseudonymId ≠ target)
    (edges : first.graphEdges = second.graphEdges)
    (shown : publicNode createdAt serverId target first =
      publicNode createdAt serverId target second)
    (seen : lastSeen serverId target first = lastSeen serverId target second ∨
      ¬ (presenceGraph serverId first).Adj identity.pseudonymId target) :
    (getProfileHandler createdAt order fuel serverId identity target ⟨first, memory, faults⟩).1 =
      (getProfileHandler createdAt order fuel serverId identity target
        ⟨second, memory, faults⟩).1 := by
  refine (matched_getProfileHandler edges shown ?_).result_eq memory faults
  intro memory level node another nodeType answers known knownOther
  have notSelf : level ≠ .self := level_ne_self other answers
  have near : level = .degree1 → another.lastSeenAt = node.lastSeenAt := by
    intro level_eq
    rcases seen with same | apart
    · simpa [lastSeen, known, knownOther] using same.symm
    · exact absurd level_eq (level_of_apart other apart answers)
  simp only [publicNode, known, knownOther, Option.map_some, Option.some.injEq,
    Prod.mk.injEq] at shown
  rcases shown with ⟨pseudonymId, -, active, created⟩
  unfold GraphProfile.of
  cases level with
  | self => exact absurd rfl notSelf
  | degree1 => rw [pseudonymId, active, created, near rfl]
  | degree2 | degree3 | aggregateOnly | none => rw [pseudonymId, active, created]

theorem pseudonymId_of_storedNode {database : Database} {node : GraphNode}
    (stored : storedNode serverId target database = some node) : node.pseudonymId = target := by
  have matched := List.find?_some stored
  rw [Bool.and_eq_true, decide_eq_true_eq, decide_eq_true_eq] at matched
  exact matched.2

/-- The profile of a stored node at the level found. -/
theorem getProfileHandler_answers {database : Database} {memory : Memory} {node : GraphNode}
    {nodeType : NodeType} {level : VisibilityLevel}
    (stored : storedNode serverId target database = some node)
    (typed : strToNodeType node.nodeType = .ok nodeType)
    (answers : Answers (getNodeVisibility order fuel serverId identity.pseudonymId target)
      database memory (some level)) :
    Answers (getProfileHandler createdAt order fuel serverId identity target) database memory
      (some (GraphProfile.of createdAt node nodeType level)) := by
  have found : Answers (getGraphNode serverId target : Sql Database Memory GraphError _)
      database memory (some (node, nodeType)) := by
    refine (answers_bind (looks_query _ _)).mpr ⟨some node, ?_, ?_⟩
    · rw [answers_query, stored]
    · dsimp only
      rw [typed]
      rfl
  refine (answers_bind (looks_connect _)).mpr ⟨(), connect_answers _, ?_⟩
  refine (answers_mapErr looks_getVisibleProfile).mpr ?_
  refine (answers_bind (looks_mapErr looks_getGraphNode)).mpr
    ⟨some (node, nodeType), (answers_mapErr looks_getGraphNode).mpr found, ?_⟩
  refine (answers_bind (looks_require _ _)).mpr ⟨(node, nodeType), rfl, ?_⟩
  exact (answers_bind (looks_mapErr looks_getNodeVisibility)).mpr
    ⟨some level, (answers_mapErr looks_getNodeVisibility).mpr answers, rfl⟩

theorem exists_level (order : RowOrder) (database : Database) (memory : Memory)
    (viewer target : String)
    (enough : (mentionedNodes serverId database).card + 1 < fuel) :
    ∃ level, Answers (getNodeVisibility order fuel serverId viewer target) database memory
      (some level) ∧ (viewer = target → level = .self) ∧
        ((presenceGraph serverId database).Adj viewer target → level = .degree1) := by
  by_cases same : viewer = target
  · refine ⟨.self, ?_, fun _ => rfl, fun linked => absurd same linked.ne⟩
    rw [getNodeVisibility, if_pos same]
    rfl
  · rcases search_ends order enough with ⟨ending, ended⟩
    have answers : Answers (getNodeVisibility order fuel serverId viewer target) database memory
        (some (pathVisibility (endingPath ending))) := getNodeVisibility_answers same ended
    refine ⟨_, answers, fun equal => absurd equal same, fun linked => ?_⟩
    cases fuel with
    | zero => cases enough
    | succ fuel =>
        have same := answers.symm.trans (level_of_linked linked)
        simpa using same

/-- A node's profile is shown to every viewer. When it was seen is shown to the node and to the
nodes linked to it, and its metadata to the node only. -/
theorem profile_discloses (createdAt : Nat → String) (order : RowOrder) (fuel serverId : Nat)
    (identity : PlatformIdentity) (target : String) (database : Database) (memory : Memory)
    (node : GraphNode) (nodeType : NodeType)
    (stored : storedNode serverId target database = some node)
    (typed : strToNodeType node.nodeType = .ok nodeType)
    (enough : (mentionedNodes serverId database).card + 1 < fuel) :
    ∃ profile,
      Answers (getProfileHandler createdAt order fuel serverId identity target) database memory
        (some profile) ∧
      profile.pseudonymId = target ∧
      (identity.pseudonymId = target ∨
          (presenceGraph serverId database).Adj identity.pseudonymId target →
        profile.lastSeenAt = node.lastSeenAt) ∧
      (¬ (identity.pseudonymId = target ∨
          (presenceGraph serverId database).Adj identity.pseudonymId target) →
        profile.lastSeenAt = none) ∧
      (identity.pseudonymId = target → profile.metadataJson = node.metadataJson) ∧
      (identity.pseudonymId ≠ target → profile.metadataJson = none) := by
  rcases exists_level order database memory identity.pseudonymId target enough with
    ⟨level, answers, own, near⟩
  refine ⟨_, getProfileHandler_answers stored typed answers, pseudonymId_of_storedNode stored,
    ?_, ?_, ?_, ?_⟩
  · rintro (same | linked)
    · rw [own same]
      rfl
    · rw [near linked]
      rfl
  · intro apart
    have different : identity.pseudonymId ≠ target := fun same => apart (Or.inl same)
    have notSelf := level_ne_self different answers
    have notNear := level_of_apart different (fun linked => apart (Or.inr linked)) answers
    cases level <;> first | rfl | contradiction
  · intro same
    rw [own same]
    rfl
  · intro different
    have notSelf := level_ne_self different answers
    cases level <;> first | rfl | contradiction

end Disclosure

namespace Sample

def ana : PlatformIdentity where
  id := 1
  serverId := 1
  pseudonymId := "ana"
  participantType := "HUMAN"
  canVoice := false
  canModerate := false
  canInvite := false
  canFederate := false
  canBridge := false
  active := true

def metadata : AgentMetadata where
  alignmentStatus := "ALIGNED"
  transferScope := "REFLECTION_SUMMARIES_ONLY"
  capabilityContract := .foreign "\x7b\x7d"
  reputationScore := "0.5"

def agent (lastSeenAt : Option String) (metadataJson : Option AgentMetadata) : GraphNode where
  id := 1
  serverId := 1
  pseudonymId := "cy"
  nodeType := "AI_AGENT"
  active := true
  lastSeenAt
  metadataJson

/-- The agent "cy" two steps from "ana", with or without what only some may see. -/
def apart (lastSeenAt : Option String) (metadataJson : Option AgentMetadata) : Database :=
  { Graph.Sample.corner with
    graphNodes := (Table.empty : Table GraphNode).insert fun id =>
      { agent lastSeenAt metadataJson with id } }

theorem not_linked (lastSeenAt : Option String) (metadataJson : Option AgentMetadata) :
    ¬ (presenceGraph 1 (apart lastSeenAt metadataJson)).Adj "ana" "cy" := by
  change ¬ (presenceGraph 1 Graph.Sample.corner).Adj "ana" "cy"
  rw [presenceGraph, SimpleGraph.fromRel_adj]
  decide

def createdAt (_ : Nat) : String := "2024-01-01 00:00:00"

/-- The agent with what only some may see. -/
def seenAgent : Database := apart (some "2024-01-02 00:00:00") (some metadata)

end Sample

open Graph.Sample (inserted)

/-- It is not seen from two steps away whether the agent has been there. -/
theorem profile_hides_apart :
    (getProfileHandler Sample.createdAt inserted 5 1 Sample.ana "cy"
        ⟨Sample.seenAgent, (), []⟩).1 =
      (getProfileHandler Sample.createdAt inserted 5 1 Sample.ana "cy"
        ⟨Sample.apart none none, (), []⟩).1 :=
  profile_hides Sample.createdAt inserted 5 1 Sample.ana "cy" _ _ () [] (by decide) rfl rfl
    (Or.inr (Sample.not_linked _ _))

/-- Its profile is still found. -/
theorem profile_discloses_apart :
    ∃ profile,
      Answers (getProfileHandler Sample.createdAt inserted 5 1 Sample.ana "cy") Sample.seenAgent ()
        (some profile) ∧
      profile.pseudonymId = "cy" ∧ profile.lastSeenAt = none ∧ profile.metadataJson = none := by
  rcases profile_discloses Sample.createdAt inserted 5 1 Sample.ana "cy" Sample.seenAgent ()
      (Sample.agent (some "2024-01-02 00:00:00") (some Sample.metadata)) .aiAgent rfl rfl
      (by decide) with ⟨profile, answers, named, -, unseen, -, hidden⟩
  refine ⟨profile, answers, named, unseen ?_, hidden (by decide)⟩
  rintro (same | linked)
  · exact absurd same (by decide)
  · exact Sample.not_linked _ _ linked

end Annex.Server
