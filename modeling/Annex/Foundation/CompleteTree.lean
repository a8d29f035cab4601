import Mathlib.Algebra.BigOperators.Group.Finset.Basic
import Mathlib.Algebra.Group.Nat.Even
import Mathlib.Algebra.Order.Group.Nat
import Mathlib.Algebra.Ring.Defs
import Mathlib.Data.Nat.Bitwise
import Mathlib.Data.Nat.Cast.Commute
import Mathlib.Logic.Function.Basic
import Mathlib.Tactic.Ring

namespace Annex

/-! Numbers and their little-endian bits. -/

namespace Bits

/-- Bit `position` of a number. -/
def bit (number position : Nat) : Bool :=
  decide (number / 2 ^ position % 2 = 1)

/-- The number whose first bits are given, the others being zero. -/
def number (bits : Nat → Bool) : Nat → Nat
  | 0 => 0
  | length + 1 => number bits length + (bits length).toNat * 2 ^ length

theorem number_lt (bits : Nat → Bool) (length : Nat) :
    number bits length < 2 ^ length := by
  induction length with
  | zero => simp [number]
  | succ length induction =>
      rw [number, pow_succ]
      cases bits length <;> simp <;> omega

theorem toNat_bit (number position : Nat) :
    (bit number position).toNat = number / 2 ^ position % 2 := by
  unfold bit
  rcases Nat.mod_two_eq_zero_or_one (number / 2 ^ position) with zero | one
  · simp [zero]
  · simp [one]

/-- Reading back the bits a number was made of. -/
theorem bit_number (bits : Nat → Bool) {length position : Nat}
    (below : position < length) : bit (number bits length) position = bits position := by
  induction length with
  | zero => omega
  | succ length induction =>
      rcases Nat.lt_or_eq_of_le (Nat.le_of_lt_succ below) with less | rfl
      · rw [← induction less, bit, bit, number]
        have split : (bits length).toNat * 2 ^ length =
            2 ^ position * (2 * ((bits length).toNat * 2 ^ (length - position - 1))) := by
          have power : 2 ^ length = 2 ^ position * (2 * 2 ^ (length - position - 1)) := by
            rw [← pow_succ', ← pow_add]
            congr 1
            omega
          rw [power]
          ring
        rw [split, Nat.add_mul_div_left _ _ (Nat.two_pow_pos _), Nat.add_mul_mod_self_left]
      · rw [bit, number, Nat.add_mul_div_right _ _ (Nat.two_pow_pos _),
          Nat.div_eq_of_lt (number_lt bits position)]
        cases bits position <;> simp

/-- The first bits of a number make up its remainder. -/
theorem number_bit (value length : Nat) :
    number (bit value) length = value % 2 ^ length := by
  induction length with
  | zero => simp [number, Nat.mod_one]
  | succ length induction =>
      rw [number, induction, toNat_bit, Nat.mod_pow_succ, Nat.mul_comm (2 ^ length)]

theorem cast_number {R : Type u} [CommSemiring R] (bits : Nat → Bool) (length : Nat) :
    ((number bits length : Nat) : R) =
      ∑ position ∈ Finset.range length,
        ((bits position).toNat : R) * 2 ^ position := by
  induction length with
  | zero => simp [number]
  | succ length induction =>
      rw [number, Nat.cast_add, induction, Finset.sum_range_succ]
      push_cast
      rfl

end Bits

/-! Complete binary hash trees over an arbitrary two-input hash. A tree is given
by the value of each leaf position; its node at a level and an index hashes the
leaves from `index * 2 ^ level` to the next multiple. -/

namespace CompleteTree

variable {F : Type u} (H : F → F → F)

/-- The value of a node, level 0 being the leaves. -/
def node (leaf : Nat → F) : Nat → Nat → F
  | 0, index => leaf index
  | level + 1, index =>
      H (node leaf level (2 * index)) (node leaf level (2 * index + 1))

/-- The value of a node all of whose leaves are zero. -/
def zeroNode [Zero F] : Nat → F
  | 0 => 0
  | level + 1 => H (zeroNode level) (zeroNode level)

/-- The leaves in order, followed by zeros. -/
def padded [Zero F] (leaves : List F) (index : Nat) : F :=
  leaves.getD index 0

/-- The root of the complete tree of `2 ^ depth` leaves. -/
def root [Zero F] (depth : Nat) (leaves : List F) : F :=
  node H (padded leaves) depth 0

variable {H}

theorem node_zero (leaf : Nat → F) (index : Nat) :
    node H leaf 0 index = leaf index := rfl

theorem node_succ (leaf : Nat → F) (level index : Nat) :
    node H leaf (level + 1) index =
      H (node H leaf level (2 * index)) (node H leaf level (2 * index + 1)) := rfl

/-- A node depends on the leaves below it only. -/
theorem node_congr {first second : Nat → F} {level index : Nat}
    (agree : ∀ position, position / 2 ^ level = index →
      first position = second position) :
    node H first level index = node H second level index := by
  induction level generalizing index with
  | zero => exact agree index (by simp)
  | succ level induction =>
      have below : ∀ child, child / 2 = index → ∀ position,
          position / 2 ^ level = child → first position = second position := by
        intro child parent position under
        apply agree position
        rw [pow_succ, ← Nat.div_div_eq_div_mul, under, parent]
      rw [node_succ, node_succ, induction (below (2 * index) (by omega)),
        induction (below (2 * index + 1) (by omega))]

theorem node_update_of_ne {leaf : Nat → F} {position : Nat} {value : F}
    {level index : Nat} (apart : index ≠ position / 2 ^ level) :
    node H (Function.update leaf position value) level index =
      node H leaf level index := by
  refine node_congr fun other under => ?_
  rw [Function.update_of_ne]
  rintro rfl
  exact apart under.symm

section Padding

variable [Zero F]

theorem node_eq_zeroNode {leaf : Nat → F} {level index : Nat}
    (zero : ∀ position, position / 2 ^ level = index → leaf position = 0) :
    node H leaf level index = zeroNode H level := by
  have constant : ∀ level index,
      node H (fun _ => (0 : F)) level index = zeroNode H level := by
    intro level
    induction level with
    | zero => exact fun _ => rfl
    | succ level induction =>
        intro index
        rw [node_succ, induction, induction, zeroNode]
  rw [node_congr zero, constant]

@[simp] theorem padded_nil : (padded [] : Nat → F) = fun _ => 0 := by
  funext index
  simp [padded]

theorem padded_concat (leaves : List F) (leaf : F) :
    padded (leaves ++ [leaf]) =
      Function.update (padded leaves) leaves.length leaf := by
  funext index
  rcases Nat.lt_trichotomy index leaves.length with less | rfl | more
  · rw [Function.update_of_ne less.ne, padded, padded, List.getD_append _ _ _ _ less]
  · simp [padded]
  · have beyond : (leaves ++ [leaf]).length ≤ index := by
      rw [List.length_append, List.length_singleton]
      exact more
    rw [Function.update_of_ne more.ne', padded, padded,
      List.getD_eq_default _ _ beyond, List.getD_eq_default _ _ more.le]

@[simp] theorem padded_getElem {leaves : List F} {index : Nat}
    (bound : index < leaves.length) : padded leaves index = leaves[index] := by
  simp [padded, bound]

end Padding

section Path

/-! An authentication path: at each level whether the current node is a right
child, and the value of its sibling. -/

variable (H) in
/-- The pair hashed at one level of a path. -/
def orient (value : F) (step : Bool × F) : F × F :=
  if step.1 then (step.2, value) else (value, step.2)

variable (H) in
/-- The value reached from a node by hashing along a path. -/
def climb (value : F) : List (Bool × F) → F
  | [] => value
  | step :: rest =>
      climb (H (orient value step).1 (orient value step).2) rest

variable (H) in
/-- The pairs hashed while climbing. -/
def hashedPairs (value : F) : List (Bool × F) → List (F × F)
  | [] => []
  | step :: rest =>
      orient value step ::
        hashedPairs (H (orient value step).1 (orient value step).2) rest

/-- The sibling of a node: the other child of its parent. -/
def sibling (index : Nat) : Nat :=
  if index % 2 = 0 then index + 1 else index - 1

theorem sibling_ne (index : Nat) : sibling index ≠ index := by
  unfold sibling
  split <;> omega

theorem xor_one (index : Nat) : index ^^^ 1 = sibling index := by
  unfold sibling
  split
  · next even =>
      exact Nat.xor_one_of_even (Nat.even_iff.mpr even)
  · next odd =>
      exact Nat.xor_one_of_odd (Nat.odd_iff.mpr (by omega))

variable (H) in
/-- The step from the node above a position at one level. -/
def pathStep (leaf : Nat → F) (position level : Nat) : Bool × F :=
  (Bits.bit position level, node H leaf level (sibling (position / 2 ^ level)))

variable (H) in
/-- The path of a complete tree from a position up to the given depth. -/
def path (leaf : Nat → F) (position depth : Nat) : List (Bool × F) :=
  (List.range' 0 depth).map (pathStep H leaf position)

theorem orient_node (leaf : Nat → F) (level index : Nat) :
    orient (node H leaf level index)
        (decide (index % 2 = 1), node H leaf level (sibling index)) =
      (node H leaf level (2 * (index / 2)),
        node H leaf level (2 * (index / 2) + 1)) := by
  rcases Nat.mod_two_eq_zero_or_one index with even | odd
  · have left : 2 * (index / 2) = index := by omega
    simp [orient, sibling, even, left]
  · have left : 2 * (index / 2) = index - 1 := by omega
    have right : index - 1 + 1 = index := by omega
    simp [orient, sibling, odd, left, right]

/-- Hashing a node with its sibling, on the side its index says, gives the parent. -/
theorem hash_sibling (leaf : Nat → F) (level index : Nat) :
    (if index &&& 1 = 0 then
        H (node H leaf level index) (node H leaf level (sibling index))
      else H (node H leaf level (sibling index)) (node H leaf level index)) =
      node H leaf (level + 1) (index / 2) := by
  have pair := orient_node (H := H) leaf level index
  rw [node_succ, Nat.and_one_is_mod]
  rcases Nat.mod_two_eq_zero_or_one index with even | odd
  · simp only [orient, even] at pair
    simp_all
  · simp only [orient, odd] at pair
    simp_all

/-- Climbing through values each of which hashes the one before it. -/
theorem climb_chain (current : Nat → F) (step : Nat → Bool × F)
    {level height : Nat}
    (chained : ∀ stage, level ≤ stage → stage < level + height →
      current (stage + 1) =
        H (orient (current stage) (step stage)).1 (orient (current stage) (step stage)).2) :
    climb H (current level) ((List.range' level height).map step) =
      current (level + height) := by
  induction height generalizing level with
  | zero => rfl
  | succ height induction =>
      rw [List.range'_succ, List.map_cons, climb,
        ← chained level (Nat.le_refl _) (by omega),
        induction fun stage low high => chained stage (by omega) (by omega)]
      congr 1
      omega

theorem hashedPairs_chain (current : Nat → F) (step : Nat → Bool × F)
    {level height : Nat}
    (chained : ∀ stage, level ≤ stage → stage < level + height →
      current (stage + 1) =
        H (orient (current stage) (step stage)).1 (orient (current stage) (step stage)).2) :
    hashedPairs H (current level) ((List.range' level height).map step) =
      (List.range' level height).map fun stage => orient (current stage) (step stage) := by
  induction height generalizing level with
  | zero => rfl
  | succ height induction =>
      rw [List.range'_succ, List.map_cons, hashedPairs,
        ← chained level (Nat.le_refl _) (by omega),
        induction fun stage low high => chained stage (by omega) (by omega),
        List.map_cons]

theorem orient_pathStep (leaf : Nat → F) (position level : Nat) :
    orient (node H leaf level (position / 2 ^ level)) (pathStep H leaf position level) =
      (node H leaf level (2 * (position / 2 ^ (level + 1))),
        node H leaf level (2 * (position / 2 ^ (level + 1)) + 1)) := by
  rw [pathStep, Bits.bit, orient_node, Nat.div_div_eq_div_mul, pow_succ]

theorem node_pathStep (leaf : Nat → F) (position level : Nat) :
    node H leaf (level + 1) (position / 2 ^ (level + 1)) =
      H (orient (node H leaf level (position / 2 ^ level))
          (pathStep H leaf position level)).1
        (orient (node H leaf level (position / 2 ^ level))
          (pathStep H leaf position level)).2 := by
  rw [orient_pathStep, node_succ]

/-- Climbing the path of a position from its leaf gives the node above it. -/
theorem climb_path (leaf : Nat → F) (position depth : Nat) :
    climb H (leaf position) (path H leaf position depth) =
      node H leaf depth (position / 2 ^ depth) := by
  have reached := climb_chain (fun level => node H leaf level (position / 2 ^ level))
    (pathStep H leaf position) fun level (_ : 0 ≤ level) (_ : level < 0 + depth) =>
      node_pathStep leaf position level
  simpa [path, node_zero] using reached

/-- A set of pairs on which the hash has no collision. -/
def CollisionFree (H : F → F → F) (pairs : Set (F × F)) : Prop :=
  Set.InjOn (fun pair => H pair.1 pair.2) pairs

theorem orient_inj {left right : F} {leftStep rightStep : Bool × F}
    (sameSide : leftStep.1 = rightStep.1)
    (equal : orient left leftStep = orient right rightStep) : left = right := by
  unfold orient at equal
  rw [sameSide] at equal
  cases side : rightStep.1 <;> simp [side] at equal
  · exact equal.1
  · exact equal.2

/-- Without a collision, two climbs through the same sides to one root started
from the same value. -/
theorem climb_inj {pairs : Set (F × F)} (free : CollisionFree H pairs)
    {left right : F} {leftSteps rightSteps : List (Bool × F)}
    (sameSides : leftSteps.map Prod.fst = rightSteps.map Prod.fst)
    (leftHashed : ∀ pair ∈ hashedPairs H left leftSteps, pair ∈ pairs)
    (rightHashed : ∀ pair ∈ hashedPairs H right rightSteps, pair ∈ pairs)
    (equal : climb H left leftSteps = climb H right rightSteps) :
    left = right := by
  induction leftSteps generalizing left right rightSteps with
  | nil =>
      cases rightSteps with
      | nil => exact equal
      | cons step rest => simp at sameSides
  | cons leftStep leftRest induction =>
      cases rightSteps with
      | nil => simp at sameSides
      | cons rightStep rightRest =>
          simp only [List.map_cons, List.cons.injEq] at sameSides
          simp only [hashedPairs, List.forall_mem_cons] at leftHashed rightHashed
          have parents := induction sameSides.2 leftHashed.2 rightHashed.2 equal
          exact orient_inj sameSides.1
            (free leftHashed.1 rightHashed.1 parents)

/-- The pairs a complete tree hashes. -/
def treePairs (H : F → F → F) (leaf : Nat → F) (depth : Nat) : Set (F × F) :=
  fun pair => ∃ level index, level < depth ∧ index < 2 ^ (depth - (level + 1)) ∧
    pair = (node H leaf level (2 * index), node H leaf level (2 * index + 1))

theorem hashedPairs_path {leaf : Nat → F} {position depth : Nat}
    (below : position < 2 ^ depth) :
    ∀ pair ∈ hashedPairs H (leaf position) (path H leaf position depth),
      pair ∈ treePairs H leaf depth := by
  have hashed := hashedPairs_chain (fun level => node H leaf level (position / 2 ^ level))
    (pathStep H leaf position) fun level (_ : 0 ≤ level) (_ : level < 0 + depth) =>
      node_pathStep leaf position level
  simp only [pow_zero, Nat.div_one, node_zero] at hashed
  rw [path, hashed]
  simp only [List.mem_map, List.mem_range'_1]
  rintro pair ⟨level, ⟨_, bound⟩, rfl⟩
  refine ⟨level, position / 2 ^ (level + 1), by omega, ?_, orient_pathStep leaf position level⟩
  rw [Nat.div_lt_iff_lt_mul (Nat.two_pow_pos _), ← pow_add]
  rwa [show depth - (level + 1) + (level + 1) = depth by omega]

end Path

end CompleteTree

end Annex
