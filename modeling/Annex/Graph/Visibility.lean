import Annex.Graph.PathSearch

namespace Annex.Graph

open Db Sql BreadthFirst

/-! How much of a node of the presence graph another node sees. -/

/-- Visibility levels for the presence graph. -/
inductive VisibilityLevel where
  | self
  | degree1
  | degree2
  | degree3
  | aggregateOnly
  | none
deriving DecidableEq, Repr

/-- The level a path of at most three steps gives. -/
def pathVisibility (path : BfsPath) : VisibilityLevel :=
  if path.found then
    match path.length with
    | 0 => .self
    | 1 => .degree1
    | 2 => .degree2
    | 3 => .degree3
    | _ => .none
  else
    .none

/-- Calculates the visibility level of a target node from the perspective of a viewer. Nothing
is returned when the fuel runs out. -/
def getNodeVisibility {Memory : Type} (order : RowOrder) (fuel : Nat) (serverId : Nat)
    (viewer target : String) :
    Sql Database Memory GraphError (Option VisibilityLevel) :=
  if viewer = target then
    pure (some .self)
  else do
    let path ← findPathBfs order fuel serverId viewer target 3
    pure (path.map pathVisibility)

/-- The search from the viewer for the target is stopped by the cap on the nodes visited. -/
def StoppedByCap (order : RowOrder) (serverId : Nat) (viewer target : String)
    (database : Database) : Prop :=
  viewer ≠ target ∧ ∃ fuel, search (neighbors order serverId database) target 3
    maxBfsVisitedNodes fuel (start viewer) = some .capped

section Symmetry

variable {Memory : Type} {order other : RowOrder} {serverId fuel : Nat}
  {viewer target : String} {database : Database} {memory : Memory} {ending back : Ending String}

theorem getNodeVisibility_answers (different : viewer ≠ target)
    (ended : search (neighbors order serverId database) target 3 maxBfsVisitedNodes fuel
      (start viewer) = some ending) :
    Answers (getNodeVisibility order fuel serverId viewer target) database memory
      (some (pathVisibility (endingPath ending))) := by
  rw [getNodeVisibility, if_neg different]
  have answers : Answers (findPathBfs order fuel serverId viewer target 3) database memory _ :=
    findPathBfs_answers different
  rw [ended] at answers
  exact bind_ok answers

theorem stoppedByCap_iff (different : viewer ≠ target)
    (ended : search (neighbors order serverId database) target 3 maxBfsVisitedNodes fuel
      (start viewer) = some ending) :
    StoppedByCap order serverId viewer target database ↔ ending = .capped := by
  constructor
  · intro stopped
    rcases stopped.2 with ⟨enough, capped⟩
    exact search_unique ended capped
  · intro capped
    rw [capped] at ended
    exact ⟨different, fuel, ended⟩

/-- Two searches that come to their ends in the two directions see the same. -/
theorem pathVisibility_symm {graph : SimpleGraph String}
    (there : ending.Settles graph viewer target 3) (here : back.Settles graph target viewer 3)
    (thereUncapped : ending ≠ .capped) (hereUncapped : back ≠ .capped) :
    pathVisibility (endingPath ending) = pathVisibility (endingPath back) := by
  have out := endingPath_correct there thereUncapped
  have into := endingPath_correct here hereUncapped
  have found : (endingPath ending).found = (endingPath back).found := by
    rw [Bool.eq_iff_iff, out.found_iff, into.found_iff, SimpleGraph.edist_comm]
  unfold pathVisibility
  rw [found]
  split
  · next reached =>
    have length := out.length_eq (found.trans reached)
    rw [SimpleGraph.edist_comm, into.length_eq reached, Nat.cast_inj] at length
    rw [length]
  · rfl

/-- The two levels are the same, unless the cap stops just one of the two searches. That one
then sees nothing. -/
theorem visibility_symmetric (order other : RowOrder) (serverId : Nat) (viewer target : String)
    (database : Database) (memory : Memory) (fuel : Nat)
    (enough : (mentionedNodes serverId database).card + 1 < fuel) :
    ∃ level opposite,
      Answers (getNodeVisibility order fuel serverId viewer target) database memory
        (some level) ∧
      Answers (getNodeVisibility other fuel serverId target viewer) database memory
        (some opposite) ∧
      (level = opposite ∨
        level = .none ∧ StoppedByCap order serverId viewer target database ∧
          ¬ StoppedByCap other serverId target viewer database ∨
        opposite = .none ∧ StoppedByCap other serverId target viewer database ∧
          ¬ StoppedByCap order serverId viewer target database) := by
  by_cases same : viewer = target
  · refine ⟨.self, .self, ?_, ?_, .inl rfl⟩
    · rw [getNodeVisibility, if_pos same]
      rfl
    · rw [getNodeVisibility, if_pos same.symm]
      rfl
  · rcases search_ends order enough with ⟨ending, ended⟩
    rcases search_ends other enough with ⟨back, endedBack⟩
    refine ⟨_, _, getNodeVisibility_answers same ended,
      getNodeVisibility_answers (Ne.symm same) endedBack, ?_⟩
    have there := search_settles same ended
    have here := search_settles (Ne.symm same) endedBack
    rw [stoppedByCap_iff same ended, stoppedByCap_iff (Ne.symm same) endedBack]
    by_cases capped : ending = .capped
    · by_cases cappedBack : back = .capped
      · rw [capped, cappedBack]
        exact .inl rfl
      · rw [capped]
        exact .inr (.inl ⟨rfl, rfl, cappedBack⟩)
    · by_cases cappedBack : back = .capped
      · rw [cappedBack]
        exact .inr (.inr ⟨rfl, rfl, capped⟩)
      · exact .inl (pathVisibility_symm there here capped cappedBack)

end Symmetry

namespace Sample

theorem visibility_symmetric_corner :
    ∃ level opposite,
      Answers (getNodeVisibility inserted 5 1 "ana" "cy") corner () (some level) ∧
      Answers (getNodeVisibility inserted 5 1 "cy" "ana") corner () (some opposite) ∧
      (level = opposite ∨
        level = .none ∧ StoppedByCap inserted 1 "ana" "cy" corner ∧
          ¬ StoppedByCap inserted 1 "cy" "ana" corner ∨
        opposite = .none ∧ StoppedByCap inserted 1 "cy" "ana" corner ∧
          ¬ StoppedByCap inserted 1 "ana" "cy" corner) :=
  visibility_symmetric inserted inserted 1 "ana" "cy" corner () 5 (by decide)

theorem rows_edges (pairs : List (String × String)) (table : Table GraphEdge)
    (selected : String × String → Bool) :
    ((edges pairs table).rows.filter fun row =>
        row.serverId = 1 && selected (row.fromNode, row.toNode)).map
          (fun row => (row.fromNode, row.toNode)) =
      ((table.rows.filter fun row =>
        row.serverId = 1 && selected (row.fromNode, row.toNode)).map
          fun row => (row.fromNode, row.toNode)) ++ pairs.filter selected := by
  induction pairs generalizing table with
  | nil => simp [edges]
  | cons pair rest induction =>
      rw [edges, induction]
      cases leaves : selected pair <;> simp [Table.insert, leaves]

/-- The neighbors of a node, those its edges lead to first. -/
theorem neighbors_linked (pairs : List (String × String)) (node : String) :
    neighbors inserted 1 (linked pairs) node =
      (pairs.filter fun pair => pair.1 = node).map Prod.snd ++
        (pairs.filter fun pair => pair.2 = node).map Prod.fst := by
  have out := rows_edges pairs Table.empty fun pair => pair.1 = node
  have into := rows_edges pairs Table.empty fun pair => pair.2 = node
  have outNodes := congrArg (List.map Prod.snd) out
  have intoNodes := congrArg (List.map Prod.fst) into
  simp only [List.map_map, Table.empty, List.filter_nil, List.map_nil, List.nil_append]
    at outNodes intoNodes
  exact congrArg₂ (· ++ ·) outNodes intoNodes

/-- A node at the rim of the star. -/
def rim (index : Nat) : String := String.ofList (List.replicate (index + 1) 'l')

theorem rim_injective : Function.Injective rim := by
  intro left right same
  have lengths := congrArg List.length (String.ofList_injective same)
  rw [List.length_replicate, List.length_replicate] at lengths
  exact Nat.succ.inj lengths

/-- A hub with as many neighbors as a search can meet, and a node behind one of them. -/
def star : Database :=
  linked (("outer", rim 0) :: (List.range 9999).map fun index => ("hub", rim index))

theorem rim_ne (index : Nat) {word : String} (different : word.toList.head? ≠ some 'l') :
    rim index ≠ word := by
  intro same
  apply different
  rw [← same, rim, String.toList_ofList, List.replicate_succ, List.head?_cons]

@[simp] theorem rim_ne_hub (index : Nat) : rim index ≠ "hub" :=
  rim_ne index (by decide)

@[simp] theorem rim_ne_outer (index : Nat) : rim index ≠ "outer" :=
  rim_ne index (by decide)

theorem neighbors_hub : neighbors inserted 1 star "hub" = (List.range 9999).map rim := by
  rw [star, neighbors_linked]
  simp [List.filter_map, Function.comp_def]

theorem neighbors_outer : neighbors inserted 1 star "outer" = [rim 0] := by
  rw [star, neighbors_linked]
  simp [List.filter_map, Function.comp_def]

theorem hub_mem_neighbors : "hub" ∈ neighbors inserted 1 star (rim 0) := by
  rw [star, neighbors_linked]
  refine List.mem_append_right _ (List.mem_map.mpr ⟨("hub", rim 0), ?_, rfl⟩)
  refine List.mem_filter.mpr ⟨List.mem_cons_of_mem _ ?_, decide_eq_true rfl⟩
  exact List.mem_map.mpr ⟨0, List.mem_range.mpr (by decide), rfl⟩

/-- From the hub the search is stopped before it comes to the rim. -/
theorem search_from_hub :
    search (neighbors inserted 1 star) "outer" 3 maxBfsVisitedNodes 3 (start "hub") =
      some .capped := by
  have missing : "outer" ∉ neighbors inserted 1 star "hub" := by
    rw [neighbors_hub]
    simp
  have apart : "hub" ∉ neighbors inserted 1 star "hub" := by
    rw [neighbors_hub]
    simp
  have distinct : (neighbors inserted 1 star "hub").Nodup := by
    rw [neighbors_hub]
    exact List.nodup_range.map rim_injective
  have full : maxBfsVisitedNodes ≤ (neighbors inserted 1 star "hub").length + 1 := by
    rw [neighbors_hub, List.length_map, List.length_range]
    decide
  exact search_hub missing apart distinct (by decide) (by decide) full 1

theorem search_from_outer :
    search (neighbors inserted 1 star) "hub" 3 maxBfsVisitedNodes 3 (start "outer") =
      some (.found ["outer", rim 0, "hub"]) := by
  have first : step (neighbors inserted 1 star) "hub" 3 maxBfsVisitedNodes (start "outer") =
      .goesOn ⟨[(rim 0, ["outer", rim 0])], [rim 0, "outer"]⟩ := by
    rw [start, step_open (by decide) (by decide), neighbors_outer,
      scan_of_notMem (by simp [(rim_ne_hub 0).symm])]
    simp [expand, fresh]
  have second : step (neighbors inserted 1 star) "hub" 3 maxBfsVisitedNodes
      ⟨[(rim 0, ["outer", rim 0])], [rim 0, "outer"]⟩ =
        .ended (.found ["outer", rim 0, "hub"]) := by
    rw [step_open (by decide) (by decide), scan_of_mem hub_mem_neighbors]
    rfl
  rw [search, first]
  dsimp only
  rw [search, second]

/-- The node behind the rim sees the hub, which does not see it. -/
theorem star_not_symmetric :
    Answers (getNodeVisibility inserted 3 1 "hub" "outer") star () (some .none) ∧
      Answers (getNodeVisibility inserted 3 1 "outer" "hub") star () (some .degree2) :=
  ⟨getNodeVisibility_answers (by decide) search_from_hub,
    getNodeVisibility_answers (by decide) search_from_outer⟩

end Sample

end Annex.Graph
