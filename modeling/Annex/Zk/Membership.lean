import Mathlib.Algebra.BigOperators.Group.Finset.Basic
import Annex.Foundation.CompleteTree
import Annex.Identity.Merkle
import Annex.Identity.Types

namespace Annex.Zk

open Identity

/-! The signals of the membership circuit and the constraints between them. An
array of signals is a function of its index and is read below the depth only.
`poseidon2` and `poseidon3` are circomlib's `Poseidon(2)` and `Poseidon(3)`. -/

variable (poseidon2 : Fr → Fr → Fr) (poseidon3 : Fr → Fr → Fr → Fr)

/-- What circomlib's `Num2Bits(n)` specifies: the outputs are bits, and the
input is the number they write, least significant bit first. -/
def Num2Bits (n : Nat) (input : Fr) (out : Nat → Fr) : Prop :=
  (∀ i < n, out i = 0 ∨ out i = 1) ∧
    input = ∑ i ∈ Finset.range n, out i * 2 ^ i

/-- The signals of `MerkleTreeInclusionProof(depth)`. -/
structure MerkleTreeInclusionProof where
  leaf : Fr
  pathElements : Nat → Fr
  pathIndexBits : Nat → Fr
  root : Fr
  currentHash : Nat → Fr
  poseidonInputs : Nat → Fr × Fr
  poseidonOut : Nat → Fr

namespace MerkleTreeInclusionProof

variable (signals : MerkleTreeInclusionProof)

/-- `pathIndexBits[i] * (pathElements[i] - currentHash[i]) + currentHash[i]`. -/
def left (i : Nat) : Fr :=
  signals.pathIndexBits i * (signals.pathElements i - signals.currentHash i) +
    signals.currentHash i

/-- `pathIndexBits[i] * (currentHash[i] - pathElements[i]) + pathElements[i]`. -/
def right (i : Nat) : Fr :=
  signals.pathIndexBits i * (signals.currentHash i - signals.pathElements i) +
    signals.pathElements i

/-- The constraints of `MerkleTreeInclusionProof(depth)`. -/
structure Satisfies (depth : Nat) : Prop where
  start : signals.currentHash 0 = signals.leaf
  leftInput : ∀ i < depth, (signals.poseidonInputs i).1 = signals.left i
  rightInput : ∀ i < depth, (signals.poseidonInputs i).2 = signals.right i
  poseidon : ∀ i < depth, signals.poseidonOut i =
    poseidon2 (signals.poseidonInputs i).1 (signals.poseidonInputs i).2
  next : ∀ i < depth, signals.currentHash (i + 1) = signals.poseidonOut i
  output : signals.root = signals.currentHash depth

/-- The pairs the circuit hashes. -/
def hashed (depth : Nat) : Set (Fr × Fr) :=
  fun pair => ∃ i < depth, pair = signals.poseidonInputs i

end MerkleTreeInclusionProof

/-- The signals of `Membership(depth)`. -/
structure Membership where
  sk : Fr
  roleCode : Fr
  nodeId : Fr
  leafIndex : Fr
  pathElements : Nat → Fr
  pathIndexBits : Nat → Fr
  root : Fr
  commitment : Fr
  identityInputs : Fr × Fr × Fr
  identityOut : Fr
  merkleProof : MerkleTreeInclusionProof
  num2BitsIn : Fr
  num2BitsOut : Nat → Fr

namespace Membership

variable (signals : Membership)

/-- The constraints of `Membership(depth)`. -/
structure Satisfies (depth : Nat) : Prop where
  identityInputs :
    signals.identityInputs = (signals.sk, signals.roleCode, signals.nodeId)
  identity : signals.identityOut = poseidon3 signals.identityInputs.1
    signals.identityInputs.2.1 signals.identityInputs.2.2
  commitment : signals.commitment = signals.identityOut
  leaf : signals.merkleProof.leaf = signals.commitment
  pathElements : ∀ i < depth,
    signals.merkleProof.pathElements i = signals.pathElements i
  pathIndexBits : ∀ i < depth,
    signals.merkleProof.pathIndexBits i = signals.pathIndexBits i
  merkleProof : signals.merkleProof.Satisfies poseidon2 depth
  root : signals.root = signals.merkleProof.root
  num2BitsIn : signals.num2BitsIn = signals.leafIndex
  num2Bits : Num2Bits depth signals.num2BitsIn signals.num2BitsOut
  bitsMatch : ∀ i < depth, signals.num2BitsOut i = signals.pathIndexBits i

end Membership

open Identity CompleteTree

/-! The membership circuit and the server's tree compute the same paths: the
proof of an inserted leaf satisfies the circuit, and a satisfying assignment for
the tree's root opens the leaf its index names. -/

variable {poseidon2 : Fr → Fr → Fr} {poseidon3 : Fr → Fr → Fr → Fr}

/-- The step of a path that a signal for the side and a sibling stand for. -/
def signalStep (bits elements : Nat → Fr) (i : Nat) : Bool × Fr :=
  (decide (bits i = 1), elements i)

namespace MerkleTreeInclusionProof

variable {signals : MerkleTreeInclusionProof} {depth : Nat}

/-- On a bit the two polynomials put the current hash on the side it names. -/
theorem left_right_eq_orient {i : Nat}
    (binary : signals.pathIndexBits i = 0 ∨ signals.pathIndexBits i = 1) :
    (signals.left i, signals.right i) = orient (signals.currentHash i)
      (signalStep signals.pathIndexBits signals.pathElements i) := by
  rcases binary with zero | one
  · simp [left, right, orient, signalStep, zero]
  · simp [left, right, orient, signalStep, one]

theorem poseidonInputs_eq (satisfies : signals.Satisfies poseidon2 depth)
    {i : Nat} (below : i < depth)
    (binary : signals.pathIndexBits i = 0 ∨ signals.pathIndexBits i = 1) :
    signals.poseidonInputs i = orient (signals.currentHash i)
      (signalStep signals.pathIndexBits signals.pathElements i) := by
  rw [← left_right_eq_orient binary, ← satisfies.leftInput i below,
    ← satisfies.rightInput i below]

theorem currentHash_succ (satisfies : signals.Satisfies poseidon2 depth)
    {i : Nat} (below : i < depth)
    (binary : signals.pathIndexBits i = 0 ∨ signals.pathIndexBits i = 1) :
    signals.currentHash (i + 1) =
      poseidon2
        (orient (signals.currentHash i)
          (signalStep signals.pathIndexBits signals.pathElements i)).1
        (orient (signals.currentHash i)
          (signalStep signals.pathIndexBits signals.pathElements i)).2 := by
  rw [satisfies.next i below, satisfies.poseidon i below,
    poseidonInputs_eq satisfies below binary]

/-- With bits for sides, the circuit climbs from its leaf to its root. -/
theorem root_eq_climb (satisfies : signals.Satisfies poseidon2 depth)
    (binary : ∀ i < depth,
      signals.pathIndexBits i = 0 ∨ signals.pathIndexBits i = 1) :
    climb poseidon2 signals.leaf ((List.range' 0 depth).map
      (signalStep signals.pathIndexBits signals.pathElements)) = signals.root := by
  have reached := climb_chain signals.currentHash
    (signalStep signals.pathIndexBits signals.pathElements)
    fun i (_ : 0 ≤ i) (below : i < 0 + depth) =>
      currentHash_succ satisfies (by omega) (binary i (by omega))
  rw [satisfies.start, Nat.zero_add] at reached
  rw [reached, satisfies.output]

theorem hashedPairs_subset (satisfies : signals.Satisfies poseidon2 depth)
    (binary : ∀ i < depth,
      signals.pathIndexBits i = 0 ∨ signals.pathIndexBits i = 1) :
    ∀ pair ∈ hashedPairs poseidon2 signals.leaf ((List.range' 0 depth).map
      (signalStep signals.pathIndexBits signals.pathElements)),
      pair ∈ signals.hashed depth := by
  have pairs := hashedPairs_chain signals.currentHash
    (signalStep signals.pathIndexBits signals.pathElements)
    fun i (_ : 0 ≤ i) (below : i < 0 + depth) =>
      currentHash_succ satisfies (by omega) (binary i (by omega))
  rw [satisfies.start] at pairs
  intro pair member
  rw [pairs] at member
  rcases List.mem_map.mp member with ⟨i, inRange, rfl⟩
  have below : i < depth := by
    have bound := (List.mem_range'_1.mp inRange).2
    omega
  exact ⟨i, below, (poseidonInputs_eq satisfies below (binary i below)).symm⟩

end MerkleTreeInclusionProof

/-- The assignment of an honest prover for a leaf of the tree. -/
def honestSignals (poseidon2 : Fr → Fr → Fr) (leaf : Nat → Fr) (depth : Nat)
    (index : Nat) (sk roleCode nodeId : Fr) (pathElements pathIndexBits : Nat → Fr) :
    Membership where
  sk := sk
  roleCode := roleCode
  nodeId := nodeId
  leafIndex := index
  pathElements := pathElements
  pathIndexBits := pathIndexBits
  root := node poseidon2 leaf depth 0
  commitment := leaf index
  identityInputs := (sk, roleCode, nodeId)
  identityOut := leaf index
  merkleProof :=
    { leaf := leaf index
      pathElements := pathElements
      pathIndexBits := pathIndexBits
      root := node poseidon2 leaf depth 0
      currentHash := fun i => node poseidon2 leaf i (index / 2 ^ i)
      poseidonInputs := fun i =>
        orient (node poseidon2 leaf i (index / 2 ^ i)) (pathStep poseidon2 leaf index i)
      poseidonOut := fun i => node poseidon2 leaf (i + 1) (index / 2 ^ (i + 1)) }
  num2BitsIn := index
  num2BitsOut := pathIndexBits

section Completeness

variable {leaf : Nat → Fr} {depth index : Nat} {pathElements pathIndexBits : Nat → Fr}

theorem bit_binary (value : Bool) : ((value.toNat : Nat) : Fr) = 0 ∨
    ((value.toNat : Nat) : Fr) = 1 := by
  cases value <;> simp

/-- The bits of an index below `2 ^ depth` decompose it. -/
theorem num2Bits_of_bits (below : index < 2 ^ depth)
    (bits : ∀ i < depth, pathIndexBits i = ((Bits.bit index i).toNat : Nat)) :
    Num2Bits depth (index : Fr) pathIndexBits := by
  constructor
  · intro i bound
    rw [bits i bound]
    exact bit_binary _
  · have value : Bits.number (Bits.bit index) depth = index := by
      rw [Bits.number_bit, Nat.mod_eq_of_lt below]
    calc (index : Fr) = ((Bits.number (Bits.bit index) depth : Nat) : Fr) := by rw [value]
      _ = ∑ i ∈ Finset.range depth, ((Bits.bit index i).toNat : Fr) * 2 ^ i :=
          Bits.cast_number _ _
      _ = ∑ i ∈ Finset.range depth, pathIndexBits i * 2 ^ i :=
          Finset.sum_congr rfl fun i member => by
            rw [bits i (Finset.mem_range.mp member)]

/-- The siblings and sides of a path satisfy `Membership`. -/
theorem honestSignals_satisfies (below : index < 2 ^ depth)
    {sk roleCode nodeId : Fr} (identity : leaf index = poseidon3 sk roleCode nodeId)
    (elements : ∀ i < depth,
      pathElements i = node poseidon2 leaf i (sibling (index / 2 ^ i)))
    (bits : ∀ i < depth, pathIndexBits i = ((Bits.bit index i).toNat : Nat)) :
    (honestSignals poseidon2 leaf depth index sk roleCode nodeId pathElements
      pathIndexBits).Satisfies poseidon2 poseidon3 depth := by
  let proof := (honestSignals poseidon2 leaf depth index sk roleCode nodeId
    pathElements pathIndexBits).merkleProof
  have oriented : ∀ i < depth, proof.poseidonInputs i = (proof.left i, proof.right i) := by
    intro i bound
    have binary : proof.pathIndexBits i = 0 ∨ proof.pathIndexBits i = 1 := by
      show pathIndexBits i = 0 ∨ pathIndexBits i = 1
      rw [bits i bound]
      exact bit_binary _
    have step : signalStep pathIndexBits pathElements i =
        pathStep poseidon2 leaf index i := by
      rw [signalStep, pathStep, elements i bound, bits i bound]
      cases Bits.bit index i <;> simp
    rw [MerkleTreeInclusionProof.left_right_eq_orient binary]
    exact (congrArg (orient _) step).symm
  have topIndex : index / 2 ^ depth = 0 := Nat.div_eq_of_lt below
  have path : proof.Satisfies poseidon2 depth :=
    { start := by simp [proof, honestSignals, node_zero]
      leftInput := fun i bound => by rw [oriented i bound]
      rightInput := fun i bound => by rw [oriented i bound]
      poseidon := fun i _ => node_pathStep leaf index i
      next := fun _ _ => rfl
      output := by simp [proof, honestSignals, topIndex] }
  exact
    { identityInputs := rfl
      identity := identity
      commitment := rfl
      leaf := rfl
      pathElements := fun _ _ => rfl
      pathIndexBits := fun _ _ => rfl
      merkleProof := path
      root := rfl
      num2BitsIn := rfl
      num2Bits := num2Bits_of_bits below bits
      bitsMatch := fun _ _ => rfl }

end Completeness

section Soundness

variable {signals : Membership} {depth : Nat}

/-- The index a satisfying assignment names, as the number its side bits write. -/
theorem leafIndex_eq_number (satisfies : signals.Satisfies poseidon2 poseidon3 depth)
    (small : 2 ^ depth < scalarModulus) :
    signals.leafIndex.val =
      Bits.number (fun i => decide (signals.pathIndexBits i = 1)) depth := by
  have decomposition : signals.leafIndex =
      ((Bits.number (fun i => decide (signals.pathIndexBits i = 1)) depth : Nat) : Fr) := by
    rw [Bits.cast_number, ← satisfies.num2BitsIn, satisfies.num2Bits.2]
    refine Finset.sum_congr rfl fun i member => ?_
    have bound := Finset.mem_range.mp member
    rw [← satisfies.bitsMatch i bound]
    rcases satisfies.num2Bits.1 i bound with zero | one
    · simp [zero]
    · simp [one]
  rw [decomposition, ZMod.val_natCast_of_lt]
  exact Nat.lt_trans (Bits.number_lt _ _) small

/-- A satisfying assignment whose root is the tree's opens the leaf at its index. -/
theorem commitment_eq_leaf {leaf : Nat → Fr}
    (satisfies : signals.Satisfies poseidon2 poseidon3 depth)
    (small : 2 ^ depth < scalarModulus)
    (free : CollisionFree poseidon2
      (treePairs poseidon2 leaf depth ∪ signals.merkleProof.hashed depth))
    (root : signals.root = node poseidon2 leaf depth 0) :
    signals.commitment = leaf signals.leafIndex.val := by
  have index := leafIndex_eq_number satisfies small
  have below : signals.leafIndex.val < 2 ^ depth := by
    rw [index]
    exact Bits.number_lt _ _
  have binary : ∀ i < depth, signals.merkleProof.pathIndexBits i = 0 ∨
      signals.merkleProof.pathIndexBits i = 1 := by
    intro i bound
    rw [satisfies.pathIndexBits i bound, ← satisfies.bitsMatch i bound]
    exact satisfies.num2Bits.1 i bound
  have sides : ((List.range' 0 depth).map (signalStep signals.merkleProof.pathIndexBits
        signals.merkleProof.pathElements)).map Prod.fst =
      (path poseidon2 leaf signals.leafIndex.val depth).map Prod.fst := by
    rw [path, List.map_map, List.map_map]
    refine List.map_congr_left fun i member => ?_
    have bound : i < depth := by
      have inRange := (List.mem_range'_1.mp member).2
      omega
    show decide (signals.merkleProof.pathIndexBits i = 1) =
      Bits.bit signals.leafIndex.val i
    rw [index, Bits.bit_number _ bound, satisfies.pathIndexBits i bound]
  rw [← satisfies.leaf]
  refine climb_inj free sides ?_ ?_ ?_
  · exact fun pair member => Or.inr
      (MerkleTreeInclusionProof.hashedPairs_subset satisfies.merkleProof binary pair member)
  · exact fun pair member => Or.inl (hashedPairs_path below pair member)
  · rw [MerkleTreeInclusionProof.root_eq_climb satisfies.merkleProof binary,
      ← satisfies.root, root, climb_path, Nat.div_eq_of_lt below]

end Soundness

/-- The circuit and the server's tree agree. The proof of every inserted
identity satisfies `Membership` with the tree's root and that leaf as outputs,
and, without a collision among the pairs hashed on either side, every satisfying
assignment for the tree's root opens the leaf at its index. -/
theorem membership_agrees_with_tree (poseidon2 : Fr → Fr → Fr)
    (poseidon3 : Fr → Fr → Fr → Fr) (depth : Nat)
    (small : 2 ^ depth < scalarModulus) (leaves : List Fr) :
    let history := MerkleTree.insertAll poseidon2 depth leaves
    (∀ index < history.tree.nextIndex, ∀ sk roleCode nodeId : Fr,
      padded history.leaves index = poseidon3 sk roleCode nodeId →
      ∃ pathElements pathIndices,
        history.tree.getProof index = .ok (pathElements, pathIndices) ∧
        ∃ signals : Membership,
          signals.Satisfies poseidon2 poseidon3 depth ∧
          signals.sk = sk ∧ signals.roleCode = roleCode ∧ signals.nodeId = nodeId ∧
          signals.leafIndex = index ∧
          (∀ i, signals.pathElements i = pathElements.getD i 0) ∧
          (∀ i, signals.pathIndexBits i = (pathIndices.getD i 0 : Nat)) ∧
          signals.root = history.tree.root ∧
          signals.commitment = padded history.leaves index) ∧
    (∀ signals : Membership, signals.Satisfies poseidon2 poseidon3 depth →
      CollisionFree poseidon2 (treePairs poseidon2 (padded history.leaves) depth ∪
        signals.merkleProof.hashed depth) →
      signals.root = history.tree.root →
      (∀ i < depth, signals.pathIndexBits i = 0 ∨ signals.pathIndexBits i = 1) ∧
      signals.leafIndex.val < 2 ^ depth ∧
      signals.commitment = padded history.leaves signals.leafIndex.val) := by
  intro history
  have valid : history.Valid poseidon2 depth := MerkleTree.insertAll_valid depth leaves
  have root : history.tree.root = node poseidon2 (padded history.leaves) depth 0 := by
    rw [valid.represents.root_eq, valid.depth_eq]
    rfl
  constructor
  · intro index inserted sk roleCode nodeId identity
    rw [valid.represents.nextIndex] at inserted
    have below : index < 2 ^ depth :=
      Nat.lt_of_lt_of_le inserted (Nat.le_trans valid.fits (MerkleTree.capacity_le depth))
    have proof := MerkleTree.getProof_eq valid.represents inserted
    rw [valid.depth_eq] at proof
    refine ⟨_, _, proof, honestSignals poseidon2 (padded history.leaves) depth index sk
      roleCode nodeId _ _, honestSignals_satisfies below identity ?_ ?_, rfl, rfl, rfl,
      rfl, fun _ => rfl, fun _ => rfl, root.symm, rfl⟩
    · intro i bound
      simp [path, pathStep, bound]
    · intro i bound
      simp [path, pathStep, bound]
  · intro signals satisfies free rootsEqual
    rw [root] at rootsEqual
    refine ⟨?_, ?_, commitment_eq_leaf satisfies small free rootsEqual⟩
    · intro i bound
      rw [← satisfies.bitsMatch i bound]
      exact satisfies.num2Bits.1 i bound
    · rw [leafIndex_eq_number satisfies small]
      exact Bits.number_lt _ _

/-- One identity in a tree of two leaves: the honest assignment satisfies the
circuit, no two of the hashed pairs differ, and the opened leaf is the identity. -/
theorem membership_agrees_with_tree_two_leaves :
    let poseidon2 := fun left right : Fr => left + 2 * right
    let poseidon3 := fun sk roleCode nodeId : Fr => sk + roleCode + nodeId
    let history := MerkleTree.insertAll poseidon2 1 [6]
    let signals := honestSignals poseidon2 (padded [6]) 1 0 1 2 3 (fun _ => 0) fun _ => 0
    (∃ pathElements pathIndices,
      history.tree.getProof 0 = .ok (pathElements, pathIndices)) ∧
    signals.Satisfies poseidon2 poseidon3 1 ∧
    signals.root = history.tree.root ∧
    signals.leafIndex.val < 2 ^ 1 ∧
    signals.commitment = padded history.leaves signals.leafIndex.val := by
  intro poseidon2 poseidon3 history signals
  have agrees := membership_agrees_with_tree poseidon2 poseidon3 1 (by decide) [6]
  have root : signals.root = history.tree.root := by
    decide
  have satisfies : signals.Satisfies poseidon2 poseidon3 1 :=
    honestSignals_satisfies (by decide) (by decide) (by decide) (by decide)
  have free : CollisionFree poseidon2
      (treePairs poseidon2 (padded history.leaves) 1 ∪ signals.merkleProof.hashed 1) := by
    have single : ∀ pair ∈ treePairs poseidon2 (padded history.leaves) 1 ∪
        signals.merkleProof.hashed 1, pair = (6, 0) := by
      rintro pair (⟨level, index, belowDepth, belowWidth, rfl⟩ | ⟨i, below, rfl⟩)
      · obtain rfl : level = 0 := by omega
        obtain rfl : index = 0 := by simpa using belowWidth
        rfl
      · obtain rfl : i = 0 := by omega
        rfl
    intro left leftMember right rightMember _
    rw [single left leftMember, single right rightMember]
  have opened := agrees.2 signals satisfies free root
  have honest := agrees.1 0 (by decide) 1 2 3 (by decide)
  rcases honest with ⟨pathElements, pathIndices, proof, _⟩
  exact ⟨⟨pathElements, pathIndices, proof⟩, satisfies, root, opened.2.1, opened.2.2⟩

end Annex.Zk
