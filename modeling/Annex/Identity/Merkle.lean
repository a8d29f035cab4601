import Mathlib.Data.List.Induction
import Mathlib.Logic.Function.Basic
import Annex.Foundation.CompleteTree
import Annex.Foundation.Execution
import Annex.Identity.Types

namespace Annex.Identity

/-! The append-only Poseidon tree. The two-input hash is a parameter: Poseidon
accepts every pair of field elements, so hashing itself never fails. -/

/-- The largest `usize`. -/
def usizeMax : Nat := 2 ^ 64 - 1

/-- `1usize.checked_shl(depth as u32).unwrap_or(usize::MAX)`. -/
def capacity (depth : Nat) : Nat :=
  if depth % 2 ^ 32 < 64 then 2 ^ (depth % 2 ^ 32) else usizeMax

/-- The nodes are sparse and keyed by level and index; `zeros` holds the value
of an absent node at each level. -/
structure MerkleTree (F : Type) where
  depth : Nat
  nextIndex : Nat
  nodes : Nat × Nat → Option F
  zeros : List F

/-- The key and the new value of a node. -/
abbrev NodeUpdate (F : Type) := (Nat × Nat) × F

namespace MerkleTree

variable {F : Type} [Zero F] (H : F → F → F)

/-- The zero hashes of the levels up to the given one. -/
def zeroHashes : Nat → List F
  | 0 => [0]
  | level + 1 =>
      let zeros := zeroHashes level
      let zero := zeros.getD level 0
      zeros ++ [H zero zero]

def new (depth : Nat) : MerkleTree F where
  depth := depth
  nextIndex := 0
  nodes := fun _ => none
  zeros := zeroHashes H depth

/-- `*self.nodes.get(&(level, index)).unwrap_or(&self.zeros[level])`. -/
def nodeAt (tree : MerkleTree F) (level index : Nat) : F :=
  (tree.nodes (level, index)).getD (tree.zeros.getD level 0)

/-- The loop of `preview_insert` over the levels that are left. -/
def previewLevels (tree : MerkleTree F) :
    (levels level currentIdx : Nat) → F → F × List (NodeUpdate F)
  | 0, _, _, currentVal => (currentVal, [])
  | levels + 1, level, currentIdx, currentVal =>
      let siblingVal := tree.nodeAt level (currentIdx ^^^ 1)
      let parentVal :=
        if currentIdx &&& 1 = 0 then H currentVal siblingVal
        else H siblingVal currentVal
      let rest := previewLevels tree levels (level + 1) (currentIdx / 2) parentVal
      (rest.1, ((level + 1, currentIdx / 2), parentVal) :: rest.2)

/-- The index, the new root and the node updates of an insertion. -/
def previewInsert (tree : MerkleTree F) (leaf : F) :
    Except IdentityError (Nat × F × List (NodeUpdate F)) :=
  if capacity tree.depth ≤ tree.nextIndex then
    .error .treeFull
  else
    let index := tree.nextIndex
    let preview := previewLevels H tree tree.depth 0 index leaf
    .ok (index, preview.1, ((0, index), leaf) :: preview.2)

def applyUpdates (tree : MerkleTree F) (nextIndex : Nat)
    (updates : List (NodeUpdate F)) : MerkleTree F where
  depth := tree.depth
  nextIndex := nextIndex
  nodes := updates.foldl
    (fun nodes update => Function.update nodes update.1 (some update.2)) tree.nodes
  zeros := tree.zeros

def insert (tree : MerkleTree F) (leaf : F) :
    Except IdentityError Nat × MerkleTree F :=
  match previewInsert H tree leaf with
  | .error error => (.error error, tree)
  | .ok (index, _, updates) => (.ok index, tree.applyUpdates (index + 1) updates)

def root (tree : MerkleTree F) : F :=
  tree.nodeAt tree.depth 0

/-- The loop of `get_proof` over the levels that are left. -/
def proofLevels (tree : MerkleTree F) :
    (levels level currentIdx : Nat) → List F × List Nat
  | 0, _, _ => ([], [])
  | levels + 1, level, currentIdx =>
      let siblingVal := tree.nodeAt level (currentIdx ^^^ 1)
      let rest := proofLevels tree levels (level + 1) (currentIdx / 2)
      (siblingVal :: rest.1, currentIdx % 2 :: rest.2)

/-- The siblings on the path of a leaf and the side of each node on it. -/
def getProof (tree : MerkleTree F) (index : Nat) :
    Except IdentityError (List F × List Nat) :=
  if tree.nextIndex ≤ index then
    .error (.invalidIndex index)
  else
    .ok (proofLevels tree tree.depth 0 index)

/-- A tree together with the leaves that were inserted into it. -/
structure History (F : Type) where
  tree : MerkleTree F
  leaves : List F

/-- Insert a leaf, and record it when it was accepted. -/
def History.insert (history : History F) (leaf : F) : History F :=
  match MerkleTree.insert H history.tree leaf with
  | (.ok _, tree) => ⟨tree, history.leaves ++ [leaf]⟩
  | (.error _, tree) => ⟨tree, history.leaves⟩

/-- Insert leaves one after the other into a new tree. -/
def insertAll (depth : Nat) (leaves : List F) : History F :=
  Execution.run (History.insert H) ⟨new H depth, []⟩ leaves

end MerkleTree

end Annex.Identity

namespace Annex.Identity.MerkleTree

open CompleteTree

/-! The sparse tree stores exactly what the complete zero-padded tree would:
every lookup, stored or defaulted, gives the value of the complete tree's node. -/

variable {F : Type} [Zero F] {H : F → F → F}

/-- The tree answers every lookup as the complete tree over the leaves does. -/
structure Represents (H : F → F → F) (tree : MerkleTree F) (leaves : List F) :
    Prop where
  nextIndex : tree.nextIndex = leaves.length
  nodeAt : ∀ level ≤ tree.depth, ∀ index,
    tree.nodeAt level index = node H (padded leaves) level index

section New

theorem length_zeroHashes (level : Nat) :
    (zeroHashes H level).length = level + 1 := by
  induction level with
  | zero => rfl
  | succ level induction => simp [zeroHashes, induction]

theorem zeroHashes_getD {depth level : Nat} (bound : level ≤ depth) :
    (zeroHashes H depth).getD level 0 = zeroNode H level := by
  induction depth generalizing level with
  | zero =>
      obtain rfl : level = 0 := by omega
      rfl
  | succ depth induction =>
      rw [zeroHashes]
      rcases Nat.lt_or_eq_of_le bound with less | rfl
      · rw [List.getD_append _ _ _ _ (by rw [length_zeroHashes]; exact less)]
        exact induction (by omega)
      · rw [List.getD_append_right _ _ _ _ (by rw [length_zeroHashes]),
          length_zeroHashes, induction (Nat.le_refl _)]
        simp [zeroNode]

theorem new_represents (depth : Nat) : Represents H (new H depth) [] where
  nextIndex := rfl
  nodeAt := by
    intro level bound index
    rw [node_eq_zeroNode (by simp)]
    exact zeroHashes_getD bound

end New

section Preview

/-- The update of the node above a position at one level. -/
def pathUpdate (H : F → F → F) (leaf : Nat → F) (position level : Nat) :
    NodeUpdate F :=
  ((level, position / 2 ^ level), node H leaf level (position / 2 ^ level))

/-- When the siblings on the way up are those of the complete tree, the loop
computes the complete tree's nodes above the position. -/
theorem previewLevels_eq {tree : MerkleTree F} {leaf : Nat → F} {position : Nat}
    {levels level : Nat}
    (siblings : ∀ stage, level ≤ stage → stage < level + levels →
      tree.nodeAt stage (sibling (position / 2 ^ stage)) =
        node H leaf stage (sibling (position / 2 ^ stage))) :
    previewLevels H tree levels level (position / 2 ^ level)
        (node H leaf level (position / 2 ^ level)) =
      (node H leaf (level + levels) (position / 2 ^ (level + levels)),
        (List.range' (level + 1) levels).map (pathUpdate H leaf position)) := by
  induction levels generalizing level with
  | zero => rfl
  | succ levels induction =>
      have parentIndex : position / 2 ^ level / 2 = position / 2 ^ (level + 1) := by
        rw [Nat.div_div_eq_div_mul, pow_succ]
      have rest := @induction (level + 1) fun stage low high =>
        siblings stage (by omega) (by omega)
      rw [previewLevels, xor_one, siblings level (Nat.le_refl _) (by omega),
        hash_sibling, parentIndex]
      simp only [rest, List.range'_succ, List.map_cons, pathUpdate]
      rw [show level + 1 + levels = level + (levels + 1) by omega]

end Preview

section Apply

theorem foldl_update {Key Value : Type} [DecidableEq Key] (value : Key → Value)
    {updates : List (Key × Value)}
    (agree : ∀ update ∈ updates, update.2 = value update.1)
    (nodes : Key → Option Value) (key : Key) :
    (updates.foldl (fun (found : Key → Option Value) (update : Key × Value) =>
        Function.update found update.1 (some update.2)) nodes) key =
      if key ∈ updates.map Prod.fst then some (value key) else nodes key := by
  induction updates generalizing nodes with
  | nil => simp
  | cons update rest induction =>
      rw [List.forall_mem_cons] at agree
      rw [List.foldl_cons, induction agree.2]
      by_cases later : key ∈ rest.map Prod.fst
      · simp [later]
      · by_cases same : key = update.1
        · subst same
          simp [later, agree.1]
        · simp [later, same]

omit [Zero F] in
theorem nodes_applyUpdates_path (tree : MerkleTree F) (nextIndex : Nat)
    (leaf : Nat → F) (position level index : Nat) :
    (tree.applyUpdates nextIndex ((List.range' 0 (tree.depth + 1)).map
        (pathUpdate H leaf position))).nodes (level, index) =
      if level ≤ tree.depth ∧ index = position / 2 ^ level then
        some (node H leaf level index)
      else tree.nodes (level, index) := by
  have agree : ∀ update ∈ (List.range' 0 (tree.depth + 1)).map
      (pathUpdate H leaf position),
      update.2 = node H leaf update.1.1 update.1.2 := by
    simp [pathUpdate]
  have onPath : (level, index) ∈ ((List.range' 0 (tree.depth + 1)).map
      (pathUpdate H leaf position)).map Prod.fst ↔
        level ≤ tree.depth ∧ index = position / 2 ^ level := by
    constructor
    · intro member
      simp only [List.map_map, List.mem_map, List.mem_range'_1] at member
      rcases member with ⟨stage, ⟨_, bound⟩, equal⟩
      simp only [Function.comp_apply, pathUpdate, Prod.mk.injEq] at equal
      rcases equal with ⟨rfl, rfl⟩
      exact ⟨by omega, rfl⟩
    · rintro ⟨bound, rfl⟩
      simp only [List.map_map, List.mem_map, List.mem_range'_1]
      exact ⟨level, by omega, rfl⟩
  refine (foldl_update (fun key => node H leaf key.1 key.2) agree tree.nodes
    (level, index)).trans ?_
  simp only [onPath]

end Apply

section Insert

variable {tree : MerkleTree F} {leaves : List F}

theorem capacity_le (depth : Nat) : capacity depth ≤ 2 ^ depth := by
  have truncated : depth % 2 ^ 32 ≤ depth := Nat.mod_le _ _
  unfold capacity
  split
  · exact Nat.pow_le_pow_right (by decide) truncated
  · calc usizeMax ≤ 2 ^ 64 := by decide
      _ ≤ 2 ^ depth := Nat.pow_le_pow_right (by decide) (by omega)

theorem capacity_of_lt {depth : Nat} (small : depth < 64) :
    capacity depth = 2 ^ depth := by
  have truncated : depth % 2 ^ 32 = depth := Nat.mod_eq_of_lt (by omega)
  rw [capacity, truncated, if_pos small]

/-- Previewing an insertion yields the next free index, the root of the complete
tree with the leaf appended, and the updates of the nodes above the new leaf. -/
theorem previewInsert_eq (represents : Represents H tree leaves) (leaf : F) :
    previewInsert H tree leaf =
      if capacity tree.depth ≤ leaves.length then .error .treeFull
      else .ok (leaves.length, CompleteTree.root H tree.depth (leaves ++ [leaf]),
        (List.range' 0 (tree.depth + 1)).map
          (pathUpdate H (padded (leaves ++ [leaf])) leaves.length)) := by
  rw [previewInsert, represents.nextIndex]
  split
  · rfl
  · next free =>
    have bound : leaves.length < 2 ^ tree.depth :=
      Nat.lt_of_lt_of_le (Nat.lt_of_not_le free) (capacity_le tree.depth)
    have leafValue : node H (padded (leaves ++ [leaf])) 0 (leaves.length / 2 ^ 0) =
        leaf := by
      simp [node_zero]
    have siblings : ∀ level, 0 ≤ level → level < 0 + tree.depth →
        tree.nodeAt level (sibling (leaves.length / 2 ^ level)) =
          node H (padded (leaves ++ [leaf])) level
            (sibling (leaves.length / 2 ^ level)) := by
      intro level _ below
      rw [represents.nodeAt level (by omega), padded_concat,
        node_update_of_ne (sibling_ne _)]
    have preview := previewLevels_eq siblings
    rw [leafValue, Nat.zero_add, Nat.div_eq_of_lt bound, pow_zero, Nat.div_one]
      at preview
    simp only [preview, List.range'_succ, List.map_cons]
    simp only [pathUpdate, pow_zero, Nat.div_one, CompleteTree.root]
    rw [node_zero, padded_concat, Function.update_self]

/-- Applying a preview represents the leaves with the new one appended. -/
theorem applyUpdates_represents (represents : Represents H tree leaves) (leaf : F) :
    Represents H (tree.applyUpdates (leaves.length + 1)
      ((List.range' 0 (tree.depth + 1)).map
        (pathUpdate H (padded (leaves ++ [leaf])) leaves.length)))
      (leaves ++ [leaf]) where
  nextIndex := by simp [applyUpdates]
  nodeAt := by
    intro level bound index
    have old := represents.nodeAt level bound index
    rw [MerkleTree.nodeAt, nodes_applyUpdates_path]
    split
    · rfl
    · next offPath =>
      have apart : index ≠ leaves.length / 2 ^ level := fun equal =>
        offPath ⟨bound, equal⟩
      rw [padded_concat, node_update_of_ne apart]
      exact old

theorem insert_eq (represents : Represents H tree leaves) (leaf : F) :
    (capacity tree.depth ≤ leaves.length ∧
      insert H tree leaf = (.error .treeFull, tree)) ∨
    (leaves.length < capacity tree.depth ∧
      (insert H tree leaf).1 = .ok leaves.length ∧
      (insert H tree leaf).2.depth = tree.depth ∧
      Represents H (insert H tree leaf).2 (leaves ++ [leaf])) := by
  rcases Nat.lt_or_ge leaves.length (capacity tree.depth) with free | full
  · right
    rw [insert, previewInsert_eq represents, if_neg (Nat.not_le_of_lt free)]
    exact ⟨free, rfl, rfl, applyUpdates_represents represents leaf⟩
  · left
    rw [insert, previewInsert_eq represents, if_pos full]
    exact ⟨full, rfl⟩

end Insert

section Proof

variable {tree : MerkleTree F} {leaves : List F}

theorem proofLevels_eq (tree : MerkleTree F) (index levels level : Nat) :
    proofLevels tree levels level (index / 2 ^ level) =
      ((List.range' level levels).map fun stage =>
          tree.nodeAt stage (sibling (index / 2 ^ stage)),
        (List.range' level levels).map fun stage => index / 2 ^ stage % 2) := by
  induction levels generalizing level with
  | zero => rfl
  | succ levels induction =>
      rw [proofLevels, xor_one, Nat.div_div_eq_div_mul, ← pow_succ, induction]
      simp only [List.range'_succ, List.map_cons]

/-- A proof lists the siblings and the sides of the complete tree's path. -/
theorem getProof_eq (represents : Represents H tree leaves) {index : Nat}
    (inserted : index < leaves.length) :
    getProof tree index =
      .ok ((path H (padded leaves) index tree.depth).map Prod.snd,
        (path H (padded leaves) index tree.depth).map fun step => step.1.toNat) := by
  have notFull : ¬ tree.nextIndex ≤ index := by
    rw [represents.nextIndex]
    omega
  have levels := proofLevels_eq tree index tree.depth 0
  rw [pow_zero, Nat.div_one] at levels
  rw [getProof, if_neg notFull, levels, path, List.map_map, List.map_map]
  congr 2
  · refine List.map_congr_left fun level member => ?_
    have bound : level < 0 + tree.depth := (List.mem_range'_1.mp member).2
    exact represents.nodeAt level (by omega) _
  · refine List.map_congr_left fun level _ => ?_
    exact (Bits.toNat_bit index level).symm

end Proof

section History

/-- What holds of a tree and its recorded leaves after any insertions. -/
structure History.Valid (H : F → F → F) (depth : Nat) (history : History F) :
    Prop where
  depth_eq : history.tree.depth = depth
  represents : Represents H history.tree history.leaves
  fits : history.leaves.length ≤ capacity depth

theorem History.new_valid (depth : Nat) :
    History.Valid H depth ⟨new H depth, []⟩ where
  depth_eq := rfl
  represents := new_represents depth
  fits := Nat.zero_le _

theorem History.insert_valid {depth : Nat} {history : History F} (leaf : F)
    (valid : history.Valid H depth) : (history.insert H leaf).Valid H depth := by
  rcases insert_eq valid.represents leaf with
    ⟨_, unchanged⟩ | ⟨free, accepted, sameDepth, represents⟩
  · rw [History.insert, unchanged]
    exact valid
  · rw [valid.depth_eq] at free sameDepth
    rcases outcome : MerkleTree.insert H history.tree leaf with ⟨result, tree⟩
    rw [outcome] at accepted represents sameDepth
    rw [History.insert, outcome]
    cases accepted
    refine ⟨sameDepth, represents, ?_⟩
    rw [List.length_append, List.length_singleton]
    exact free

theorem insertAll_valid (depth : Nat) (leaves : List F) :
    (insertAll H depth leaves).Valid H depth :=
  Execution.run_invariant _ (fun _ leaf valid => History.insert_valid leaf valid)
    (History.new_valid depth) leaves

theorem Represents.root_eq {tree : MerkleTree F} {leaves : List F}
    (represents : Represents H tree leaves) :
    tree.root = CompleteTree.root H tree.depth leaves :=
  represents.nodeAt tree.depth (Nat.le_refl _) 0

/-- The recorded leaves are the inserted ones, up to the capacity. -/
theorem leaves_insertAll (depth : Nat) (leaves : List F) :
    (insertAll H depth leaves).leaves = leaves.take (capacity depth) := by
  induction leaves using List.reverseRecOn with
  | nil => simp [insertAll]
  | append_singleton leaves leaf induction =>
      have valid := insertAll_valid (H := H) depth leaves
      have step : insertAll H depth (leaves ++ [leaf]) =
          (insertAll H depth leaves).insert H leaf :=
        Execution.run_concat _ _ _ _
      have recorded := congrArg List.length induction
      rw [List.length_take] at recorded
      rw [step, History.insert]
      rcases insert_eq valid.represents leaf with
        ⟨full, unchanged⟩ | ⟨free, accepted, _, _⟩
      · rw [valid.depth_eq] at full
        rw [unchanged]
        show (insertAll H depth leaves).leaves = _
        rw [induction, List.take_append_of_le_length (by omega)]
      · rw [valid.depth_eq] at free
        rcases outcome : MerkleTree.insert H (insertAll H depth leaves).tree leaf
          with ⟨result, tree⟩
        rw [outcome] at accepted
        cases accepted
        show (insertAll H depth leaves).leaves ++ [leaf] = _
        rw [induction, List.take_of_length_le (by omega),
          List.take_of_length_le (by simp; omega)]

/-- The root of the sparse tree is the root of the complete zero-padded tree.
Insertions return consecutive indices until the tree is full, and then fail and
leave the tree alone. -/
theorem insertAll_complete (H : F → F → F) (depth : Nat) (leaves : List F) :
    (insertAll H depth leaves).leaves = leaves.take (capacity depth) ∧
    (insertAll H depth leaves).tree.root =
      CompleteTree.root H depth (insertAll H depth leaves).leaves ∧
    (∀ leaf,
      (insert H (insertAll H depth leaves).tree leaf).1 =
        .ok (insertAll H depth leaves).leaves.length ∨
      insert H (insertAll H depth leaves).tree leaf =
        (.error .treeFull, (insertAll H depth leaves).tree)) ∧
    (depth < 64 → ∀ leaf,
      ((insert H (insertAll H depth leaves).tree leaf).1 = .error .treeFull ↔
        (insertAll H depth leaves).leaves.length = 2 ^ depth)) := by
  have valid := insertAll_valid (H := H) depth leaves
  refine ⟨leaves_insertAll depth leaves, ?_, ?_, ?_⟩
  · rw [valid.represents.root_eq, valid.depth_eq]
  · intro leaf
    rcases insert_eq valid.represents leaf with ⟨_, refused⟩ | ⟨_, accepted, _⟩
    · exact Or.inr refused
    · exact Or.inl accepted
  · intro small leaf
    have fits := valid.fits
    rw [capacity_of_lt small] at fits
    rcases insert_eq valid.represents leaf with ⟨full, refused⟩ | ⟨free, accepted, _⟩
    · rw [valid.depth_eq, capacity_of_lt small] at full
      simp [refused, Nat.le_antisymm fits full]
    · rw [valid.depth_eq, capacity_of_lt small] at free
      simp [accepted, free.ne]

end History

/-! Proofs of the leaves of a growing tree. -/

section Folding

omit [Zero F] in
/-- Hash a leaf with the elements of its proof, each on the side its bit says. -/
def foldProof (H : F → F → F) (leaf : F) (pathElements : List F) (pathIndices : List Nat) :
    F :=
  (pathElements.zip pathIndices).foldl
    (fun current step => if step.2 = 0 then H current step.1 else H step.1 current) leaf

omit [Zero F] in
/-- Folding the two lists of a path is climbing it. -/
theorem foldProof_eq_climb (value : F) (steps : List (Bool × F)) :
    foldProof H value (steps.map Prod.snd) (steps.map fun step => step.1.toNat) =
      climb H value steps := by
  induction steps generalizing value with
  | nil => rfl
  | cons step steps induction =>
      rw [climb, ← induction]
      rcases step with ⟨_ | _, element⟩
      · rfl
      · rfl

/-- In a tree that represents the leaves, the proof of each of them folds to the root. -/
theorem getProof_of_represents {tree : MerkleTree F} {leaves : List F}
    (represents : Represents H tree leaves) (fits : leaves.length ≤ 2 ^ tree.depth)
    {index : Nat} (inserted : index < leaves.length) :
    ∃ pathElements pathIndices,
      getProof tree index = .ok (pathElements, pathIndices) ∧
      pathElements.length = tree.depth ∧
      pathIndices = (List.range tree.depth).map (fun level => index / 2 ^ level % 2) ∧
      foldProof H leaves[index] pathElements pathIndices = tree.root := by
  refine ⟨_, _, getProof_eq represents inserted, ?_, ?_, ?_⟩
  · simp [path]
  · rw [path, List.map_map, List.range_eq_range']
    exact List.map_congr_left fun level _ => Bits.toNat_bit index level
  · rw [foldProof_eq_climb, ← padded_getElem inserted, climb_path,
      Nat.div_eq_of_lt (Nat.lt_of_lt_of_le inserted fits), represents.root_eq]
    rfl

theorem getProof_invalidIndex {tree : MerkleTree F} {index : Nat}
    (absent : tree.nextIndex ≤ index) :
    getProof tree index = .error (.invalidIndex index) :=
  if_pos absent

theorem nextIndex_insertAll (depth : Nat) (leaves : List F) :
    (insertAll H depth leaves).tree.nextIndex = min (capacity depth) leaves.length := by
  rw [(insertAll_valid depth leaves).represents.nextIndex, leaves_insertAll, List.length_take]

/-- A leaf that was accepted stays where it is, whatever is inserted later. -/
theorem getElem_leaves_append (depth : Nat) (leaves more : List F) {index : Nat}
    (inserted : index < (insertAll H depth leaves).tree.nextIndex) :
    (insertAll H depth (leaves ++ more)).leaves[index]? = leaves[index]? := by
  rw [nextIndex_insertAll] at inserted
  rw [leaves_insertAll, List.getElem?_take_of_lt (by omega),
    List.getElem?_append_left (by omega)]

/-- In every tree grown by insertions each accepted leaf has a proof of the tree's depth,
with the digits of its index, that folds to the root, also after any more insertions, and
no other index has one. -/
theorem getProof_complete (H : F → F → F) (depth : Nat) (leaves more : List F)
    (index : Nat) :
    (index < (insertAll H depth leaves).tree.nextIndex →
      ∃ leaf pathElements pathIndices, leaves[index]? = some leaf ∧
        getProof (insertAll H depth (leaves ++ more)).tree index =
          .ok (pathElements, pathIndices) ∧
        pathElements.length = depth ∧
        pathIndices = (List.range depth).map (fun level => index / 2 ^ level % 2) ∧
        foldProof H leaf pathElements pathIndices =
          (insertAll H depth (leaves ++ more)).tree.root) ∧
    ((insertAll H depth leaves).tree.nextIndex ≤ index →
      getProof (insertAll H depth leaves).tree index = .error (.invalidIndex index)) := by
  refine ⟨fun inserted => ?_, getProof_invalidIndex⟩
  have valid := insertAll_valid (H := H) depth (leaves ++ more)
  have within : index < leaves.length := by
    rw [nextIndex_insertAll] at inserted
    omega
  have found := (getElem_leaves_append depth leaves more inserted).trans
    (List.getElem?_eq_getElem within)
  rcases List.getElem?_eq_some_iff.mp found with ⟨bound, same⟩
  have fits : (insertAll H depth (leaves ++ more)).leaves.length ≤
      2 ^ (insertAll H depth (leaves ++ more)).tree.depth := by
    rw [valid.depth_eq]
    exact Nat.le_trans valid.fits (capacity_le depth)
  rcases getProof_of_represents valid.represents fits bound with
    ⟨pathElements, pathIndices, proof, length, digits, folds⟩
  rw [valid.depth_eq] at length digits
  rw [same] at folds
  exact ⟨leaves[index], pathElements, pathIndices, List.getElem?_eq_getElem within, proof,
    length, digits, folds⟩

end Folding

end Annex.Identity.MerkleTree
