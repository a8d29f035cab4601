import Annex.Identity.Merkle
import Annex.Identity.RegistryCorrectness

namespace Annex.Identity

open Db Sql

/-! Which registered commitments find their own path again. -/

namespace Registry

variable {H : Fr → Fr → Fr} {depth : Nat} {registry : Registry} {leaves : List Fr}

/-- The commitment finds the index it was registered under, and a path from its leaf to
the root of the tree. -/
def FindsPath (H : Fr → Fr → Fr) (registry : Registry) (commitmentHex : String)
    (leafIndex : Nat) : Prop :=
  ∃ leaf pathElements pathIndices, commitmentLeaf commitmentHex = some leaf ∧
    (getPathForCommitment commitmentHex ⟨registry.database, registry.tree, []⟩).1 =
      .ok (leafIndex, registry.tree.rootHex, pathElements.map frToHex, pathIndices) ∧
    MerkleTree.foldProof H leaf pathElements pathIndices = registry.tree.root

/-- The text is the one its leaf is stored as, and no leaf is stored as it yet. -/
def FreshCanonical (registry : Registry) (commitmentHex : String) : Prop :=
  (commitmentLeaf commitmentHex).map frToHex = some commitmentHex ∧
    ∀ row ∈ registry.database.vrpLeaves.rows, row.commitmentHex ≠ commitmentHex

/-- Later calls add leaves behind the ones that are there. -/
theorem Synced.run (synced : registry.Synced H depth leaves) (calls : List RegistryCall) :
    ∃ more, (Execution.run (step H) registry calls).Synced H depth (leaves ++ more) := by
  refine Execution.run_invariant
    (fun after : Registry => ∃ more, after.Synced H depth (leaves ++ more)) ?_
    ⟨[], by rwa [List.append_nil]⟩ calls
  rintro before call ⟨more, grown⟩
  rcases step_outcome grown call with ⟨_, _, unchanged⟩ | ⟨_, leaf, _, larger⟩
  · rw [unchanged]
    exact ⟨more, grown⟩
  · exact ⟨more ++ [leaf], by rwa [← List.append_assoc]⟩

theorem answer_register (now commitmentHex : String) (role : RoleCode) (nodeId : Int)
    (faults : List (Option String)) :
    answer H registry ⟨.register commitmentHex role nodeId, now, faults⟩ =
      (do
        let result ← registerIdentity H now commitmentHex role nodeId
        pure result.leafIndex) ⟨registry.database, registry.tree, faults⟩ := rfl

/-- A registration that is answered appended the leaf of its text under the index it was
answered with. -/
theorem Synced.registered (synced : registry.Synced H depth leaves)
    {now commitmentHex : String} {role : RoleCode} {nodeId : Int}
    {faults : List (Option String)} {leafIndex : Nat}
    (answered : (answer H registry
      ⟨.register commitmentHex role nodeId, now, faults⟩).1 = .ok leafIndex) :
    leafIndex = leaves.length ∧ ∃ leaf, commitmentLeaf commitmentHex = some leaf ∧
      (step H registry ⟨.register commitmentHex role nodeId, now, faults⟩).Synced H depth
        (leaves ++ [leaf]) := by
  have ensured := registerIdentity_registers synced now commitmentHex role nodeId faults
  rw [answer_register, bind_apply] at answered
  rw [step, answer_register, bind_apply]
  rcases ran : registerIdentity H now commitmentHex role nodeId
      ⟨registry.database, registry.tree, faults⟩ with ⟨error | result, after⟩
  · rw [ran] at answered
    cases answered
  · rw [ran] at answered ensured
    cases answered
    exact ensured

section Lookup

/-- Leaf rows from a position on. -/
def rowsFrom (start : Nat) (leaves : List Fr) : List VrpLeaf :=
  leaves.mapIdx fun index leaf => ⟨start + index, frToHex leaf⟩

theorem leafRows_append (front back : List Fr) :
    leafRows (front ++ back) = leafRows front ++ rowsFrom front.length back := by
  simp [leafRows, rowsFrom, List.mapIdx_append, Nat.add_comm]

/-- The first row with a text is the one at a position exactly when that row has it and
no row before it does. -/
theorem findLeafIndex_eq_iff {database : Database} {front back : List Fr} {leaf : Fr}
    {commitmentHex : String}
    (rows : database.vrpLeaves.rows = leafRows (front ++ leaf :: back)) :
    findLeafIndex commitmentHex database = some front.length ↔
      frToHex leaf = commitmentHex ∧ ∀ row ∈ leafRows front,
        row.commitmentHex ≠ commitmentHex := by
  have tail : rowsFrom front.length (leaf :: back) =
      ⟨front.length, frToHex leaf⟩ :: rowsFrom (front.length + 1) back := by
    simp [rowsFrom, List.mapIdx_cons, Nat.add_comm, Nat.add_left_comm]
  rw [findLeafIndex, rows, leafRows_append, tail, List.find?_append]
  cases early : (leafRows front).find? (·.commitmentHex = commitmentHex) with
  | some row =>
      have member := List.mem_of_find?_eq_some early
      have before := leafIndex_lt_of_mem_leafRows member
      have named : row.commitmentHex = commitmentHex := by
        simpa using List.find?_some early
      refine iff_of_false ?_ fun fresh => fresh.2 row member named
      simp only [Option.some_or, Option.map_some, Option.some.injEq]
      omega
  | none =>
      rw [List.find?_eq_none] at early
      have fresh : ∀ row ∈ leafRows front, row.commitmentHex ≠ commitmentHex :=
        fun row member named => early row member (decide_eq_true named)
      rw [Option.none_or, List.find?_cons]
      by_cases named : frToHex leaf = commitmentHex
      · simp only [named, decide_true, Option.map_some]
        exact iff_of_true trivial ⟨trivial, fresh⟩
      · simp only [named, decide_false]
        refine iff_of_false ?_ fun canonical => canonical.1
        intro late
        rcases Option.map_eq_some_iff.mp late with ⟨row, found, position⟩
        rcases List.mem_mapIdx.mp (List.mem_of_find?_eq_some found) with ⟨index, _, rfl⟩
        dsimp only at position
        omega

end Lookup

theorem getPathForCommitment_run (registry : Registry) (commitmentHex : String) :
    (getPathForCommitment commitmentHex ⟨registry.database, registry.tree, []⟩).1 =
      match findLeafIndex commitmentHex registry.database with
      | none => .error (.commitmentNotFound commitmentHex)
      | some leafIndex =>
          match registry.tree.getProof leafIndex with
          | .error error => .error error
          | .ok (pathElements, pathIndices) =>
              .ok (leafIndex, registry.tree.rootHex, pathElements.map frToHex,
                pathIndices) := by
  rw [getPathForCommitment, bind_ok (query_apply _ _)]
  cases findLeafIndex commitmentHex registry.database with
  | none => rfl
  | some leafIndex =>
      rw [bind_apply]
      dsimp only [require, ofExcept_apply]
      rw [bind_apply]
      dsimp only [readMemory]
      rw [bind_apply, ofExcept_apply]
      cases registry.tree.getProof leafIndex with
      | error error => rfl
      | ok proof => rfl

/-- After a registration was answered and whatever calls followed, its text finds its
path exactly when it was canonical and new at the time. -/
theorem findsPath_iff (H : Fr → Fr → Fr) (depth : Nat) (front back : List RegistryCall)
    (now commitmentHex : String) (role : RoleCode) (nodeId : Int)
    (faults : List (Option String)) (leafIndex : Nat)
    (answered : (answer H (reached H depth front)
      ⟨.register commitmentHex role nodeId, now, faults⟩).1 = .ok leafIndex) :
    FindsPath H (reached H depth
        (front ++ ⟨.register commitmentHex role nodeId, now, faults⟩ :: back))
        commitmentHex leafIndex ↔
      FreshCanonical (reached H depth front) commitmentHex := by
  rcases run_synced H depth front with ⟨leaves, synced⟩
  change (reached H depth front).Synced H depth leaves at synced
  rcases synced.registered answered with ⟨rfl, leaf, decoded, grown⟩
  rcases grown.run back with ⟨more, last⟩
  rw [List.append_assoc, List.singleton_append] at last
  have final : reached H depth
      (front ++ ⟨.register commitmentHex role nodeId, now, faults⟩ :: back) =
      Execution.run (step H) (step H (reached H depth front)
        ⟨.register commitmentHex role nodeId, now, faults⟩) back := by
    rw [reached, Execution.run_append, Execution.run_cons]
    rfl
  rw [final]
  have condition : FreshCanonical (reached H depth front) commitmentHex ↔
      findLeafIndex commitmentHex (Execution.run (step H) (step H (reached H depth front)
        ⟨.register commitmentHex role nodeId, now, faults⟩) back).database =
        some leaves.length := by
    rw [findLeafIndex_eq_iff last.leafRows, FreshCanonical, synced.leafRows, decoded,
      Option.map_some, Option.some_inj]
  rw [condition]
  constructor
  · rintro ⟨_, pathElements, pathIndices, _, found, _⟩
    rw [getPathForCommitment_run] at found
    split at found
    · cases found
    · next index lookup =>
      split at found
      · cases found
      · rw [lookup, (Prod.mk.inj (Except.ok.inj found)).1]
  · intro lookup
    have bound : leaves.length < (leaves ++ leaf :: more).length := by simp
    have fits : (leaves ++ leaf :: more).length ≤ 2 ^ (Execution.run (step H)
        (step H (reached H depth front)
          ⟨.register commitmentHex role nodeId, now, faults⟩) back).tree.depth := by
      rw [last.valid.depth_eq]
      exact Nat.le_trans last.valid.fits (MerkleTree.capacity_le depth)
    rcases MerkleTree.getProof_of_represents last.valid.represents fits bound with
      ⟨pathElements, pathIndices, proof, -, -, folds⟩
    refine ⟨leaf, pathElements, pathIndices, decoded, ?_, ?_⟩
    · rw [getPathForCommitment_run, lookup]
      simp only [proof]
    · simpa using folds

section Sample

def zeros (count : Nat) (last : Char) : String :=
  String.ofList (List.replicate count '0' ++ [last])

/-- One registration on a fresh server with room for two leaves. -/
def registration (commitmentHex : String) : RegistryCall :=
  ⟨.register commitmentHex .human 1, "", []⟩

/-- The commitment ten in lower case finds its path. -/
theorem findsPath_lowercase :
    FindsPath (fun _ _ => 0) (reached (fun _ _ => 0) 1 ([] ++ [registration (zeros 63 'a')]))
        (zeros 63 'a') 0 ↔
      FreshCanonical (reached (fun _ _ => 0) 1 []) (zeros 63 'a') :=
  findsPath_iff (fun _ _ => 0) 1 [] [] "" (zeros 63 'a') .human 1 [] 0 (by decide +kernel)

/-- The same commitment in upper case is accepted and does not. -/
theorem uppercase_not_found :
    ¬ ∀ (H : Fr → Fr → Fr) (depth : Nat) (front back : List RegistryCall)
      (now commitmentHex : String) (role : RoleCode) (nodeId : Int)
      (faults : List (Option String)) (leafIndex : Nat),
      (answer H (reached H depth front)
        ⟨.register commitmentHex role nodeId, now, faults⟩).1 = .ok leafIndex →
      FindsPath H (reached H depth
        (front ++ ⟨.register commitmentHex role nodeId, now, faults⟩ :: back))
        commitmentHex leafIndex := by
  intro finds
  rcases finds (fun _ _ => 0) 1 [] [] "" (zeros 63 'A') .human 1 [] 0 (by decide +kernel) with
    ⟨_, pathElements, pathIndices, _, found, _⟩
  have refused : (getPathForCommitment (zeros 63 'A')
      ⟨(reached (fun _ _ => 0) 1 [registration (zeros 63 'A')]).database,
        (reached (fun _ _ => 0) 1 [registration (zeros 63 'A')]).tree, []⟩).1 =
      .error (.commitmentNotFound (zeros 63 'A')) := by
    decide +kernel
  cases refused.symm.trans found

end Sample

end Registry

end Annex.Identity
