import Mathlib.Combinatorics.SimpleGraph.Metric

namespace Annex.BreadthFirst

/-! Breadth-first search for a path to a node, with a bound on the depth and a cap on the
nodes visited. -/

variable {Node : Type}

/-- Where a search stands: the nodes to be expanded, each with the path to it, and the nodes
met so far. -/
structure Frontier (Node : Type) where
  queue : List (Node × List Node)
  visited : List Node

/-- How a search ends. -/
inductive Ending (Node : Type) where
  | found (path : List Node)
  | exhausted
  | capped

/-- What one step of a search comes to. -/
inductive Progress (Node : Type) where
  | ended (ending : Ending Node)
  | goesOn (frontier : Frontier Node)

/-- The search knows its source only. -/
def start (source : Node) : Frontier Node :=
  ⟨[(source, [source])], [source]⟩

section Search

variable [DecidableEq Node]

/-- Look at the neighbors of the node the path leads to: the path to the goal, or the frontier
with the neighbors not met before. -/
def scan (goal : Node) (path : List Node) :
    List Node → Frontier Node → Progress Node
  | [], frontier => .goesOn frontier
  | neighbor :: rest, frontier =>
      if neighbor = goal then
        .ended (.found (path ++ [neighbor]))
      else if neighbor ∈ frontier.visited then
        scan goal path rest frontier
      else
        scan goal path rest
          { queue := frontier.queue ++ [(neighbor, path ++ [neighbor])]
            visited := neighbor :: frontier.visited }

/-- Take the first node of the queue. -/
def step (neighbors : Node → List Node) (goal : Node) (maxDepth cap : Nat)
    (frontier : Frontier Node) : Progress Node :=
  match frontier.queue with
  | [] => .ended .exhausted
  | (node, path) :: queue =>
      if maxDepth < path.length then .goesOn { frontier with queue }
      else if cap ≤ frontier.visited.length then .ended .capped
      else scan goal path (neighbors node) { frontier with queue }

/-- Take as many steps as the search needs, unless the fuel runs out first. -/
def search (neighbors : Node → List Node) (goal : Node) (maxDepth cap : Nat) :
    Nat → Frontier Node → Option (Ending Node)
  | 0, _ => none
  | fuel + 1, frontier =>
      match step neighbors goal maxDepth cap frontier with
      | .ended ending => some ending
      | .goesOn next => search neighbors goal maxDepth cap fuel next

/-- The nodes of a list that were not met before, each once. -/
def fresh : List Node → List Node → List Node
  | _, [] => []
  | visited, node :: rest =>
      if node ∈ visited then fresh visited rest else node :: fresh (node :: visited) rest

/-- The frontier after the neighbors of the node the path leads to were looked at. -/
def expand (path nodes : List Node) (frontier : Frontier Node) : Frontier Node where
  queue := frontier.queue ++
    (fresh frontier.visited nodes).map fun node => (node, path ++ [node])
  visited := (fresh frontier.visited nodes).reverse ++ frontier.visited

variable {goal : Node} {path nodes visited : List Node} {frontier : Frontier Node}

theorem mem_fresh {node : Node} :
    node ∈ fresh visited nodes ↔ node ∈ nodes ∧ node ∉ visited := by
  induction nodes generalizing visited with
  | nil => simp [fresh]
  | cons first rest induction =>
      rw [fresh]
      split
      · next met =>
        rw [induction, List.mem_cons]
        constructor
        · intro member
          exact ⟨.inr member.1, member.2⟩
        · intro member
          rcases member with ⟨same | later, unmet⟩
          · exact absurd (same ▸ met) unmet
          · exact ⟨later, unmet⟩
      · next unmet =>
        rw [List.mem_cons, induction, List.mem_cons, List.mem_cons]
        by_cases same : node = first
        · simp [same, unmet]
        · simp [same]

theorem nodup_fresh : (fresh visited nodes).Nodup := by
  induction nodes generalizing visited with
  | nil => exact List.nodup_nil
  | cons first rest induction =>
      rw [fresh]
      split
      · exact induction
      · refine List.nodup_cons.mpr ⟨?_, induction⟩
        intro member
        exact (mem_fresh.mp member).2 List.mem_cons_self

theorem fresh_of_new (distinct : nodes.Nodup) (new : ∀ node ∈ nodes, node ∉ visited) :
    fresh visited nodes = nodes := by
  induction nodes generalizing visited with
  | nil => rfl
  | cons first rest induction =>
      rw [List.nodup_cons] at distinct
      rw [fresh, if_neg (new first List.mem_cons_self), induction distinct.2]
      intro node member met
      rcases List.mem_cons.mp met with same | met
      · exact distinct.1 (same ▸ member)
      · exact new node (List.mem_cons_of_mem _ member) met

theorem scan_of_mem (member : goal ∈ nodes) :
    scan goal path nodes frontier = .ended (.found (path ++ [goal])) := by
  induction nodes generalizing frontier with
  | nil => cases member
  | cons first rest induction =>
      rw [scan]
      split
      · next same => rw [same]
      · next different =>
        have later : goal ∈ rest := by
          rcases List.mem_cons.mp member with same | later
          · exact absurd same.symm different
          · exact later
        split
        · exact induction later
        · exact induction later

theorem scan_of_notMem (missing : goal ∉ nodes) :
    scan goal path nodes frontier = .goesOn (expand path nodes frontier) := by
  induction nodes generalizing frontier with
  | nil => simp [scan, expand, fresh]
  | cons first rest induction =>
      have different : first ≠ goal := fun same => missing (same ▸ List.mem_cons_self)
      have later : goal ∉ rest := fun member => missing (List.mem_cons_of_mem _ member)
      rw [scan, if_neg different]
      split
      · next met =>
        rw [induction later]
        simp [expand, fresh, met]
      · next unmet =>
        rw [induction later]
        simp [expand, fresh, unmet]

theorem step_full {neighbors : Node → List Node} {maxDepth cap : Nat}
    {entry : Node × List Node} {queue : List (Node × List Node)}
    (shallow : entry.2.length ≤ maxDepth) (full : cap ≤ visited.length) :
    step neighbors goal maxDepth cap ⟨entry :: queue, visited⟩ = .ended .capped := by
  unfold step
  dsimp only
  rw [if_neg (not_lt.mpr shallow), if_pos full]

theorem step_open {neighbors : Node → List Node} {maxDepth cap : Nat}
    {entry : Node × List Node} {queue : List (Node × List Node)}
    (shallow : entry.2.length ≤ maxDepth) (room : visited.length < cap) :
    step neighbors goal maxDepth cap ⟨entry :: queue, visited⟩ =
      scan goal entry.2 (neighbors entry.1) ⟨queue, visited⟩ := by
  unfold step
  dsimp only
  rw [if_neg (not_lt.mpr shallow), if_neg (not_le.mpr room)]

/-- What one step does: all the nodes are expanded, the first of the queue is too deep, too many
nodes were met, the goal is a neighbor, or the other neighbors are met. -/
inductive Steps (neighbors : Node → List Node) (goal : Node) (maxDepth cap : Nat) :
    Frontier Node → Progress Node → Prop where
  | exhausts (visited : List Node) :
      Steps neighbors goal maxDepth cap ⟨[], visited⟩ (.ended .exhausted)
  | skips (node : Node) (path : List Node) (queue : List (Node × List Node))
      (visited : List Node) (deep : maxDepth < path.length) :
      Steps neighbors goal maxDepth cap ⟨(node, path) :: queue, visited⟩
        (.goesOn ⟨queue, visited⟩)
  | stops (node : Node) (path : List Node) (queue : List (Node × List Node))
      (visited : List Node) (shallow : path.length ≤ maxDepth) (full : cap ≤ visited.length) :
      Steps neighbors goal maxDepth cap ⟨(node, path) :: queue, visited⟩ (.ended .capped)
  | finds (node : Node) (path : List Node) (queue : List (Node × List Node))
      (visited : List Node) (shallow : path.length ≤ maxDepth) (room : visited.length < cap)
      (listed : goal ∈ neighbors node) :
      Steps neighbors goal maxDepth cap ⟨(node, path) :: queue, visited⟩
        (.ended (.found (path ++ [goal])))
  | expands (node : Node) (path : List Node) (queue : List (Node × List Node))
      (visited : List Node) (shallow : path.length ≤ maxDepth) (room : visited.length < cap)
      (missing : goal ∉ neighbors node) :
      Steps neighbors goal maxDepth cap ⟨(node, path) :: queue, visited⟩
        (.goesOn (expand path (neighbors node) ⟨queue, visited⟩))

theorem steps_step (neighbors : Node → List Node) (goal : Node) (maxDepth cap : Nat)
    (frontier : Frontier Node) :
    Steps neighbors goal maxDepth cap frontier
      (step neighbors goal maxDepth cap frontier) := by
  rcases frontier with ⟨_ | ⟨⟨node, path⟩, queue⟩, visited⟩
  · exact .exhausts visited
  · unfold step
    dsimp only
    split
    · next deep => exact .skips node path queue visited deep
    · next shallow =>
      split
      · next full => exact .stops node path queue visited (not_lt.mp shallow) full
      · next room =>
        by_cases listed : goal ∈ neighbors node
        · rw [scan_of_mem listed]
          exact .finds node path queue visited (not_lt.mp shallow) (not_le.mp room) listed
        · rw [scan_of_notMem listed]
          exact .expands node path queue visited (not_lt.mp shallow) (not_le.mp room) listed

/-- A search ends in one way, whatever its fuel. -/
theorem search_unique {neighbors : Node → List Node} {maxDepth cap fuel more : Nat}
    {ending other : Ending Node}
    (ended : search neighbors goal maxDepth cap fuel frontier = some ending)
    (endedToo : search neighbors goal maxDepth cap more frontier = some other) :
    ending = other := by
  induction fuel generalizing more frontier with
  | zero => cases ended
  | succ fuel induction =>
      cases more with
      | zero => cases endedToo
      | succ more =>
          rw [search] at ended endedToo
          cases stepped : step neighbors goal maxDepth cap frontier with
          | ended last =>
              rw [stepped] at ended endedToo
              exact Option.some.inj (ended.symm.trans endedToo)
          | goesOn next =>
              rw [stepped] at ended endedToo
              exact induction ended endedToo

/-- A search that starts at a hub sees no farther than its neighbors. -/
theorem search_hub {neighbors : Node → List Node} {source : Node} {maxDepth cap : Nat}
    (missing : goal ∉ neighbors source) (apart : source ∉ neighbors source)
    (distinct : (neighbors source).Nodup) (deep : 2 ≤ maxDepth) (room : 1 < cap)
    (full : cap ≤ (neighbors source).length + 1) (fuel : Nat) :
    search neighbors goal maxDepth cap (fuel + 2) (start source) = some .capped := by
  have new : fresh [source] (neighbors source) = neighbors source := by
    refine fresh_of_new distinct fun node member met => ?_
    rw [List.mem_singleton.mp met] at member
    exact apart member
  have near : ([source] : List Node).length ≤ maxDepth := by
    rw [List.length_singleton]
    omega
  have first : step neighbors goal maxDepth cap (start source) =
      .goesOn (expand [source] (neighbors source) ⟨[], [source]⟩) := by
    rw [start, step_open near (by rwa [List.length_singleton]), scan_of_notMem missing]
  rw [search, first]
  cases listed : neighbors source with
  | nil =>
      rw [listed, List.length_nil] at full
      omega
  | cons hub rest =>
      rw [listed] at new full
      dsimp only
      rw [search, expand, new, List.nil_append, List.map_cons, step_full]
      · rw [List.length_append, List.length_singleton, List.length_singleton]
        exact deep
      · rw [List.length_append, List.length_reverse, List.length_singleton]
        exact full

end Search

/-! What the paths of a search are. -/

/-- The nodes of a shortest path, in their order. -/
structure ShortestPath (graph : SimpleGraph Node) (source target : Node)
    (path : List Node) : Prop where
  starts : path.head? = some source
  ends : path.getLast? = some target
  steps : path.IsChain graph.Adj
  length_eq : graph.edist source target = (path.length - 1 : Nat)

section ShortestPath

variable {graph : SimpleGraph Node} {source node next : Node} {path : List Node}

theorem ShortestPath.length_pos (shortest : ShortestPath graph source node path) :
    0 < path.length :=
  List.length_pos_of_mem (List.mem_of_mem_head? shortest.starts)

theorem shortestPath_singleton : ShortestPath graph source source [source] where
  starts := rfl
  ends := rfl
  steps := List.isChain_singleton source
  length_eq := graph.edist_self

/-- One step on, unless a shorter path leads there. -/
theorem ShortestPath.extend (shortest : ShortestPath graph source node path)
    (adjacent : graph.Adj node next)
    (far : (path.length - 1 : Nat) < graph.edist source next) :
    ShortestPath graph source next (path ++ [next]) where
  starts := by
    rw [List.head?_append, shortest.starts]
    rfl
  ends := List.getLast?_concat
  steps := by
    refine shortest.steps.append (List.isChain_singleton next) ?_
    intro last ends first starts
    rw [shortest.ends, Option.mem_some_iff] at ends
    rw [List.head?_singleton, Option.mem_some_iff] at starts
    rw [← ends, ← starts]
    exact adjacent
  length_eq := by
    have positive := shortest.length_pos
    apply le_antisymm
    · calc graph.edist source next
          ≤ graph.edist source node + graph.edist node next := graph.edist_triangle
        _ = ((path.length - 1 : Nat) : ℕ∞) + 1 := by
            rw [shortest.length_eq, SimpleGraph.edist_eq_one_iff_adj.mpr adjacent]
        _ = (((path ++ [next]).length - 1 : Nat) : ℕ∞) := by
            rw [List.length_append, List.length_singleton]
            norm_cast
            omega
    · have above := Order.add_one_le_of_lt far
      rw [List.length_append, List.length_singleton]
      refine le_trans (le_of_eq ?_) above
      norm_cast
      omega

end ShortestPath

/-- How the ending of a search answers whether the goal is within the depth. -/
def Ending.Settles (graph : SimpleGraph Node) (source goal : Node) (maxDepth : Nat) :
    Ending Node → Prop
  | .found path =>
      ShortestPath graph source goal path ∧ graph.edist source goal ≤ maxDepth
  | .exhausted => maxDepth < graph.edist source goal
  | .capped => True

/-- The queue holds shortest paths, the shorter ones first and none longer by more than a step,
and the neighbors of every other node within the depth were met. -/
structure Explores (graph : SimpleGraph Node) (source goal : Node) (maxDepth : Nat)
    (frontier : Frontier Node) : Prop where
  source_met : source ∈ frontier.visited
  goal_unmet : goal ∉ frontier.visited
  entry_met : ∀ entry ∈ frontier.queue, entry.1 ∈ frontier.visited
  shortest : ∀ entry ∈ frontier.queue, ShortestPath graph source entry.1 entry.2
  ordered : frontier.queue.Pairwise fun left right => left.2.length ≤ right.2.length
  level : ∀ left ∈ frontier.queue, ∀ right ∈ frontier.queue,
    right.2.length ≤ left.2.length + 1
  closed : ∀ node ∈ frontier.visited, (∃ path, (node, path) ∈ frontier.queue) ∨
    maxDepth ≤ graph.edist source node ∨
      ∀ next, graph.Adj node next → next ∈ frontier.visited

section Explores

variable {graph : SimpleGraph Node} {source goal node : Node} {maxDepth : Nat}
  {path : List Node} {frontier : Frontier Node} {queue : List (Node × List Node)}
  {visited : List Node}

theorem explores_start (different : source ≠ goal) :
    Explores graph source goal maxDepth (start source) where
  source_met := List.mem_singleton_self source
  goal_unmet := fun member => different (List.mem_singleton.mp member).symm
  entry_met := by simp [start]
  shortest := by
    intro entry member
    rw [List.mem_singleton.mp member]
    exact shortestPath_singleton
  ordered := List.pairwise_singleton _ _
  level := by simp [start]
  closed := by
    intro node member
    rw [List.mem_singleton.mp member]
    exact .inl ⟨[source], List.mem_singleton_self _⟩

/-- A node no farther than the queue and the depth was met. -/
theorem Explores.met_of_walk (explores : Explores graph source goal maxDepth frontier)
    {bound : Nat} (far : ∀ entry ∈ frontier.queue, bound < entry.2.length)
    (within : bound ≤ maxDepth) (walk : graph.Walk node source)
    (short : walk.length ≤ bound) : node ∈ frontier.visited := by
  induction walk with
  | nil => exact explores.source_met
  | @cons _ next root adjacent rest induction =>
      rw [SimpleGraph.Walk.length_cons] at short
      have met := induction explores (by omega)
      have near : graph.edist root next ≤ (rest.length : ℕ∞) := by
        rw [SimpleGraph.edist_comm]
        exact SimpleGraph.edist_le rest
      rcases explores.closed _ met with ⟨path, queued⟩ | deep | opened
      · have queuedFar := far _ queued
        rw [(explores.shortest _ queued).length_eq, Nat.cast_le] at near
        dsimp only at near queuedFar
        omega
      · have nearer := Nat.cast_le.mp (deep.trans near)
        omega
      · exact opened _ adjacent.symm

theorem Explores.met_of_edist (explores : Explores graph source goal maxDepth frontier)
    (bound : Nat) (far : ∀ entry ∈ frontier.queue, bound < entry.2.length)
    (within : bound ≤ maxDepth) (near : graph.edist source node ≤ bound) :
    node ∈ frontier.visited := by
  have reachable : graph.edist node source ≠ ⊤ := by
    rw [SimpleGraph.edist_comm]
    exact ne_top_of_le_ne_top (ENat.natCast_ne_top bound) near
  rcases SimpleGraph.exists_walk_of_edist_ne_top reachable with ⟨walk, length⟩
  refine explores.met_of_walk far within walk ?_
  rw [SimpleGraph.edist_comm, ← length] at near
  exact Nat.cast_le.mp near

/-- With nothing left to expand, the goal is out of reach. -/
theorem Explores.goal_far (explores : Explores graph source goal maxDepth frontier)
    (nothing : frontier.queue = []) : maxDepth < graph.edist source goal := by
  by_contra near
  refine explores.goal_unmet (explores.met_of_edist maxDepth ?_ le_rfl (not_lt.mp near))
  rw [nothing]
  exact fun _ member => nomatch member

/-- A node of the full depth can be left out. -/
theorem Explores.skip
    (explores : Explores graph source goal maxDepth ⟨(node, path) :: queue, visited⟩)
    (deep : maxDepth < path.length) :
    Explores graph source goal maxDepth ⟨queue, visited⟩ where
  source_met := explores.source_met
  goal_unmet := explores.goal_unmet
  entry_met := fun entry member => explores.entry_met entry (List.mem_cons_of_mem _ member)
  shortest := fun entry member => explores.shortest entry (List.mem_cons_of_mem _ member)
  ordered := (List.pairwise_cons.mp explores.ordered).2
  level := fun left leftMember right rightMember =>
    explores.level left (List.mem_cons_of_mem _ leftMember) right
      (List.mem_cons_of_mem _ rightMember)
  closed := by
    intro other member
    rcases explores.closed other member with ⟨otherPath, queued⟩ | settled
    · rcases List.mem_cons.mp queued with same | queued
      · have length := (explores.shortest _ List.mem_cons_self).length_eq
        cases same
        refine .inr (.inl ?_)
        rw [length, Nat.cast_le]
        dsimp only
        omega
      · exact .inl ⟨otherPath, queued⟩
    · exact .inr settled

/-- The path to a neighbor not met before is a shortest one. -/
theorem Explores.shortest_extend
    (explores : Explores graph source goal maxDepth ⟨(node, path) :: queue, visited⟩)
    (shallow : path.length ≤ maxDepth) {next : Node} (adjacent : graph.Adj node next)
    (unmet : next ∉ visited) : ShortestPath graph source next (path ++ [next]) := by
  have here := explores.shortest _ List.mem_cons_self
  have positive := here.length_pos
  refine here.extend adjacent ?_
  by_contra near
  refine unmet (explores.met_of_edist (path.length - 1) ?_ ?_ (not_lt.mp near))
  · intro entry member
    have longer : path.length ≤ entry.2.length := by
      rcases List.mem_cons.mp member with same | later
      · rw [same]
      · exact (List.pairwise_cons.mp explores.ordered).1 entry later
    dsimp only at positive
    omega
  · omega

section Lists

variable [DecidableEq Node] {neighbors : Node → List Node} {cap : Nat}

/-- The neighbors of the first node of the queue are met. -/
theorem Explores.expand
    (explores : Explores graph source goal maxDepth ⟨(node, path) :: queue, visited⟩)
    (lists : ∀ node next, node ≠ next → (next ∈ neighbors node ↔ graph.Adj node next))
    (shallow : path.length ≤ maxDepth) (missing : goal ∉ neighbors node) :
    Explores graph source goal maxDepth
      (BreadthFirst.expand path (neighbors node) ⟨queue, visited⟩) := by
  have met : node ∈ visited := explores.entry_met _ List.mem_cons_self
  have first := (List.pairwise_cons.mp explores.ordered).1
  have near : ∀ entry ∈ queue, entry.2.length ≤ path.length + 1 := fun entry member =>
    explores.level _ List.mem_cons_self entry (List.mem_cons_of_mem _ member)
  have split : ∀ entry,
      entry ∈ (BreadthFirst.expand path (neighbors node) ⟨queue, visited⟩).queue →
        entry ∈ queue ∨ ∃ next ∈ neighbors node, next ∉ visited ∧
          entry = (next, path ++ [next]) := by
    intro entry member
    rcases List.mem_append.mp member with old | new
    · exact .inl old
    · rcases List.mem_map.mp new with ⟨next, unmet, rfl⟩
      exact .inr ⟨next, (mem_fresh.mp unmet).1, (mem_fresh.mp unmet).2, rfl⟩
  have visits : ∀ other,
      other ∈ (BreadthFirst.expand path (neighbors node) ⟨queue, visited⟩).visited ↔
        other ∈ neighbors node ∨ other ∈ visited := by
    intro other
    rw [BreadthFirst.expand, List.mem_append, List.mem_reverse, mem_fresh]
    by_cases known : other ∈ visited <;> simp [known]
  constructor
  case source_met => exact (visits source).mpr (.inr explores.source_met)
  case goal_unmet =>
    intro member
    rcases (visits goal).mp member with listed | known
    · exact missing listed
    · exact explores.goal_unmet known
  case entry_met =>
    intro entry member
    rcases split entry member with old | ⟨next, listed, unmet, rfl⟩
    · exact (visits _).mpr (.inr (explores.entry_met _ (List.mem_cons_of_mem _ old)))
    · exact (visits _).mpr (.inl listed)
  case shortest =>
    intro entry member
    rcases split entry member with old | ⟨next, listed, unmet, rfl⟩
    · exact explores.shortest _ (List.mem_cons_of_mem _ old)
    · have other : node ≠ next := fun same => unmet (same ▸ met)
      exact explores.shortest_extend shallow ((lists node next other).mp listed) unmet
  case ordered =>
    refine List.pairwise_append.mpr ⟨(List.pairwise_cons.mp explores.ordered).2, ?_, ?_⟩
    · refine List.pairwise_map.mpr (List.pairwise_of_forall fun left right => ?_)
      simp
    · intro left leftMember right rightMember
      rcases List.mem_map.mp rightMember with ⟨next, _, rfl⟩
      simpa using near left leftMember
  case level =>
    intro left leftMember right rightMember
    rcases split left leftMember with old | ⟨next, _, _, rfl⟩
    · have above := first left old
      rcases split right rightMember with other | ⟨next, _, _, rfl⟩
      · exact explores.level _ (List.mem_cons_of_mem _ old) _ (List.mem_cons_of_mem _ other)
      · simpa using above
    · rcases split right rightMember with other | ⟨last, _, _, rfl⟩
      · have below := near right other
        rw [List.length_append, List.length_singleton]
        omega
      · simp
  case closed =>
    intro other member
    by_cases same : other = node
    · refine .inr (.inr fun next adjacent => (visits next).mpr (.inl ?_))
      rw [same] at adjacent
      exact (lists node next adjacent.ne).mpr adjacent
    · rcases List.mem_append.mp member with new | known
      · refine .inl ⟨path ++ [other], List.mem_append_right _ (List.mem_map.mpr ?_)⟩
        exact ⟨other, List.mem_reverse.mp new, rfl⟩
      · rcases explores.closed other known with ⟨otherPath, queued⟩ | deep | opened
        · rcases List.mem_cons.mp queued with here | later
          · exact absurd (congrArg Prod.fst here) same
          · exact .inl ⟨otherPath, List.mem_append_left _ later⟩
        · exact .inr (.inl deep)
        · exact .inr (.inr fun next adjacent => (visits next).mpr (.inr (opened next adjacent)))

/-- What a step of the search comes to. -/
def Progress.Sound (graph : SimpleGraph Node) (source goal : Node) (maxDepth : Nat) :
    Progress Node → Prop
  | .ended ending => ending.Settles graph source goal maxDepth
  | .goesOn frontier => Explores graph source goal maxDepth frontier

theorem Explores.step {progress : Progress Node}
    (explores : Explores graph source goal maxDepth frontier)
    (lists : ∀ node next, node ≠ next → (next ∈ neighbors node ↔ graph.Adj node next))
    (steps : Steps neighbors goal maxDepth cap frontier progress) :
    progress.Sound graph source goal maxDepth := by
  cases steps with
  | exhausts => exact explores.goal_far rfl
  | skips _ _ _ _ deep => exact explores.skip deep
  | stops => exact True.intro
  | finds node path _ visited shallow _ listed =>
      have met : node ∈ visited := explores.entry_met _ List.mem_cons_self
      have other : node ≠ goal := fun same => explores.goal_unmet (same ▸ met)
      have shortest := explores.shortest_extend shallow ((lists node goal other).mp listed)
        explores.goal_unmet
      refine ⟨shortest, ?_⟩
      rw [shortest.length_eq, List.length_append, List.length_singleton, Nat.cast_le]
      omega
  | expands _ _ _ _ shallow _ missing => exact explores.expand lists shallow missing

/-- However a search ends, its ending is right. -/
theorem Explores.search (explores : Explores graph source goal maxDepth frontier)
    (lists : ∀ node next, node ≠ next → (next ∈ neighbors node ↔ graph.Adj node next))
    {fuel : Nat} {ending : Ending Node}
    (ended : BreadthFirst.search neighbors goal maxDepth cap fuel frontier = some ending) :
    ending.Settles graph source goal maxDepth := by
  induction fuel generalizing frontier with
  | zero => cases ended
  | succ fuel induction =>
      have sound := explores.step lists (steps_step neighbors goal maxDepth cap frontier)
      rw [BreadthFirst.search] at ended
      split at ended
      · next last stopped =>
        cases ended
        rw [stopped] at sound
        exact sound
      · next frontier' went =>
        rw [went] at sound
        exact induction sound ended

end Lists

end Explores

/-- The nodes met are distinct ones of the given set. -/
structure Within (nodes : Finset Node) (frontier : Frontier Node) : Prop where
  distinct : frontier.visited.Nodup
  inside : ∀ node ∈ frontier.visited, node ∈ nodes

theorem within_start {nodes : Finset Node} {source : Node} (member : source ∈ nodes) :
    Within nodes (start source) where
  distinct := List.nodup_singleton source
  inside := by
    intro node here
    rw [List.mem_singleton.mp here]
    exact member

section Termination

variable [DecidableEq Node] {neighbors : Node → List Node} {goal : Node} {maxDepth cap : Nat}
  {frontier next : Frontier Node} {nodes : Finset Node}

/-- How many steps a search can still take. -/
def potential (nodes : Finset Node) (frontier : Frontier Node) : Nat :=
  frontier.queue.length + (nodes.card - frontier.visited.length)

theorem Within.length_le (within : Within nodes frontier) :
    frontier.visited.length ≤ nodes.card := by
  rw [← List.toFinset_card_of_nodup within.distinct]
  refine Finset.card_le_card fun node member => ?_
  exact within.inside node (List.mem_toFinset.mp member)

theorem Within.expand (within : Within nodes frontier) {path : List Node} {node : Node}
    (listed : ∀ next ∈ neighbors node, next ∈ nodes) :
    Within nodes (BreadthFirst.expand path (neighbors node) frontier) where
  distinct := by
    refine List.nodup_append.mpr ⟨List.nodup_reverse.mpr nodup_fresh, within.distinct, ?_⟩
    intro left leftMember right rightMember same
    rw [same, List.mem_reverse] at leftMember
    exact (mem_fresh.mp leftMember).2 rightMember
  inside := by
    intro other member
    rcases List.mem_append.mp member with new | known
    · exact listed other (mem_fresh.mp (List.mem_reverse.mp new)).1
    · exact within.inside other known

/-- Every node is expanded at most once. -/
theorem Within.step (within : Within nodes frontier)
    (listed : ∀ node, ∀ next ∈ neighbors node, next ∈ nodes)
    (steps : Steps neighbors goal maxDepth cap frontier (.goesOn next)) :
    Within nodes next ∧ potential nodes next < potential nodes frontier := by
  cases steps with
  | skips => exact ⟨⟨within.distinct, within.inside⟩, by simp [potential]⟩
  | expands node path queue visited =>
      have left : Within nodes ⟨queue, visited⟩ := ⟨within.distinct, within.inside⟩
      have after : Within nodes (BreadthFirst.expand path (neighbors node) ⟨queue, visited⟩) :=
        left.expand (listed node)
      have room := after.length_le
      refine ⟨after, ?_⟩
      simp only [BreadthFirst.expand, List.length_append, List.length_reverse] at room
      simp only [potential, BreadthFirst.expand, List.length_append, List.length_map,
        List.length_reverse, List.length_cons]
      omega

/-- With enough fuel the search ends. -/
theorem Within.search_ends (within : Within nodes frontier)
    (listed : ∀ node, ∀ next ∈ neighbors node, next ∈ nodes) {fuel : Nat}
    (enough : potential nodes frontier < fuel) :
    ∃ ending, search neighbors goal maxDepth cap fuel frontier = some ending := by
  induction fuel generalizing frontier with
  | zero => exact absurd enough (Nat.not_lt_zero _)
  | succ fuel induction =>
      have steps := steps_step neighbors goal maxDepth cap frontier
      rw [search]
      split
      · next ending _ => exact ⟨ending, rfl⟩
      · next after went =>
        rw [went] at steps
        have stepped := within.step listed steps
        exact induction stepped.1 (by omega)

/-- A search among fewer nodes than the cap is not stopped by it. -/
theorem Within.search_uncapped (within : Within nodes frontier)
    (listed : ∀ node, ∀ next ∈ neighbors node, next ∈ nodes) (few : nodes.card < cap)
    {fuel : Nat} : search neighbors goal maxDepth cap fuel frontier ≠ some .capped := by
  induction fuel generalizing frontier with
  | zero => exact fun ended => nomatch ended
  | succ fuel induction =>
      have steps := steps_step neighbors goal maxDepth cap frontier
      have room := within.length_le
      rw [search]
      split
      · next ending stopped =>
        intro same
        rw [stopped, Option.some.inj same] at steps
        cases steps with
        | stops _ _ _ visited _ full =>
            dsimp only at room
            omega
      · next after went =>
        rw [went] at steps
        exact induction (within.step listed steps).1

end Termination

end Annex.BreadthFirst
