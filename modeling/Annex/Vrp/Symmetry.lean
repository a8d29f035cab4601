import Annex.Vrp.Alignment
import Mathlib.Data.String.Basic

namespace Annex.Vrp

/-! Two parties that shake hands come to the same alignment, whichever of them asks. -/

section Score

variable {R : Type} [Scalar R] {environment : Environment}

/-- The vocabulary does not depend on whose texts come first. -/
theorem buildVocab_of_perm {left right : List String} (perm : left.Perm right) :
    buildVocab environment left = buildVocab environment right := by
  have words := (perm.flatMap_right (tokenize environment)).dedup
  apply List.Perm.eq_of_sortedLE
  · exact List.sortedLE_insertionSort
  · exact List.sortedLE_insertionSort
  · have leftSorted := List.perm_insertionSort (· ≤ ·) (left.flatMap (tokenize environment)).dedup
    have rightSorted :=
      List.perm_insertionSort (· ≤ ·) (right.flatMap (tokenize environment)).dedup
    exact leftSorted.trans (words.trans rightSorted.symm)

variable (commutes : ∀ left right : R, Scalar.mul left right = Scalar.mul right left)
include commutes

theorem zipWith_mul_comm (left right : List R) :
    List.zipWith Scalar.mul left right = List.zipWith Scalar.mul right left := by
  rw [List.zipWith_comm]
  congr
  funext first second
  exact commutes second first

theorem cosineSimilarity_comm (left right : List R) :
    cosineSimilarity left right = cosineSimilarity right left := by
  by_cases lengths : left.length = right.length
  · have empty : left.isEmpty = right.isEmpty := by
      cases left with
      | nil => rw [List.eq_nil_of_length_eq_zero lengths.symm]
      | cons _ _ =>
          cases right with
          | nil => cases lengths
          | cons _ _ => rfl
    unfold cosineSimilarity
    dsimp only
    rw [zipWith_mul_comm commutes, empty, lengths, Bool.or_comm,
      commutes (Scalar.sqrt (sum (left.map _)))]
  · unfold cosineSimilarity
    rw [if_pos (Or.inl lengths), if_pos (Or.inl (Ne.symm lengths))]

/-- A score is the same both ways; which of two failures is reported is not. -/
theorem calculateSemanticAlignment_comm (embedText : String → Except String (List R))
    (left right : List String) (score : R) :
    calculateSemanticAlignment embedText left right = .ok score ↔
      calculateSemanticAlignment embedText right left = .ok score := by
  unfold calculateSemanticAlignment
  rw [Bool.and_comm, Bool.or_comm]
  split
  · exact Iff.rfl
  · split
    · exact Iff.rfl
    · cases computeCentroid embedText left with
      | error error =>
          cases computeCentroid embedText right <;> exact iff_of_false nofun nofun
      | ok leftCentroid =>
          cases computeCentroid embedText right with
          | error error => exact iff_of_false nofun nofun
          | ok rightCentroid =>
              dsimp only
              rw [Bool.or_comm, cosineSimilarity_comm commutes]

theorem semanticScore_comm (left right : List String) (score : R) :
    semanticScore environment left right = .ok score ↔
      semanticScore environment right left = .ok score := by
  unfold semanticScore
  dsimp only
  rw [buildVocab_of_perm (List.perm_append_comm : (left ++ right).Perm (right ++ left))]
  exact calculateSemanticAlignment_comm commutes _ left right score

end Score

section Alignment

variable {environment : Environment}

theorem semanticallyAligned_comm
    (commutes : ∀ left right : F32,
      environment.arithmetic.mul left right = environment.arithmetic.mul right left)
    (left right : List String) (config : VrpAlignmentConfig) :
    semanticallyAligned environment left right config =
      semanticallyAligned environment right left config := by
  let _ := environment.arithmetic
  have scores := @semanticScore_comm F32 environment.arithmetic environment commutes left right
  unfold semanticallyAligned
  dsimp only
  cases forward : @semanticScore F32 environment.arithmetic environment left right with
  | ok score => rw [(scores score).mp forward]
  | error error =>
      cases backward : @semanticScore F32 environment.arithmetic environment right left with
      | ok score =>
          rw [(scores score).mpr backward] at forward
          cases forward
      | error other => rfl

theorem comparePeerAnchor_comm
    (commutes : ∀ left right : F32,
      environment.arithmetic.mul left right = environment.arithmetic.mul right left)
    (left right : VrpAnchorSnapshot) (config : VrpAlignmentConfig) :
    comparePeerAnchor environment left right config =
      comparePeerAnchor environment right left config := by
  unfold comparePeerAnchor
  simp only [semanticallyAligned_comm commutes left.principles,
    @eq_comm _ left.principlesHash, @eq_comm _ left.prohibitedActionsHash,
    @ne_comm _ left.prohibitedActionsHash,
    Bool.and_right_comm config.semanticAlignmentRequired (!left.principles.isEmpty)]

theorem contractsMutuallyAccepted_comm (left right : VrpCapabilitySharingContract) :
    contractsMutuallyAccepted left right = contractsMutuallyAccepted right left :=
  Bool.and_comm _ _

end Alignment

/-- Under one alignment configuration, two parties' reports on one another's handshakes have
the same status and the same score. Their transfer configurations may differ. -/
theorem alignment_symmetric (environment : Environment)
    (commutes : ∀ left right : F32,
      environment.arithmetic.mul left right = environment.arithmetic.mul right left)
    (leftAnchor rightAnchor : VrpAnchorSnapshot)
    (leftContract rightContract : VrpCapabilitySharingContract) (config : VrpAlignmentConfig)
    (leftTransfer rightTransfer : VrpTransferAcceptanceConfig) :
    (validateFederationHandshake environment leftAnchor leftContract
        ⟨rightAnchor, rightContract⟩ config leftTransfer).alignmentStatus =
      (validateFederationHandshake environment rightAnchor rightContract
        ⟨leftAnchor, leftContract⟩ config rightTransfer).alignmentStatus ∧
    (validateFederationHandshake environment leftAnchor leftContract
        ⟨rightAnchor, rightContract⟩ config leftTransfer).alignmentScore =
      (validateFederationHandshake environment rightAnchor rightContract
        ⟨leftAnchor, leftContract⟩ config rightTransfer).alignmentScore := by
  unfold validateFederationHandshake
  dsimp only
  rw [comparePeerAnchor_comm commutes, contractsMutuallyAccepted_comm]
  exact ⟨rfl, rfl⟩

section Sample

/-- An environment whose arithmetic is exact where every number is zero or one. -/
def unitEnvironment : Environment :=
  { Environment.sample id with
    arithmetic :=
      { zero := F32.zero
        one := F32.one
        add := fun left right => if left = F32.zero then right else left
        mul := fun left right =>
          if left = F32.one then right else if right = F32.one then left else F32.zero
        div := fun left _ => left
        sqrt := id
        ofNat := fun number => if number = 0 then F32.zero else F32.one
        eq := fun left right => left = right
        lt := fun left right => left = F32.zero ∧ right = F32.one
        le := fun left right => left = right ∨ right = F32.one } }

/-- Two servers that write one word differently. -/
theorem alignment_symmetric_partial :
    (validateFederationHandshake unitEnvironment (.taken unitEnvironment 0 ["privacy"] [])
        ⟨[], ["TEXT"], []⟩ ⟨.taken unitEnvironment 1 ["Privacy"] [], ⟨["TEXT"], [], []⟩⟩
        ⟨true, F32.fourFifths⟩ ⟨true, false⟩).alignmentStatus = .partial_ ∧
    (validateFederationHandshake unitEnvironment (.taken unitEnvironment 1 ["Privacy"] [])
        ⟨["TEXT"], [], []⟩ ⟨.taken unitEnvironment 0 ["privacy"] [], ⟨[], ["TEXT"], []⟩⟩
        ⟨true, F32.fourFifths⟩ ⟨false, false⟩).alignmentStatus = .partial_ := by
  have commutes (left right : F32) : unitEnvironment.arithmetic.mul left right =
      unitEnvironment.arithmetic.mul right left := by
    show (if left = F32.one then right else if right = F32.one then left else F32.zero) =
      if right = F32.one then left else if left = F32.one then right else F32.zero
    split
    · next isOne =>
      rw [isOne]
      split
      · next other => exact other
      · rfl
    · rfl
  have same := alignment_symmetric unitEnvironment commutes
    (.taken unitEnvironment 0 ["privacy"] []) (.taken unitEnvironment 1 ["Privacy"] [])
    ⟨[], ["TEXT"], []⟩ ⟨["TEXT"], [], []⟩ ⟨true, F32.fourFifths⟩ ⟨true, false⟩ ⟨false, false⟩
  have status : (validateFederationHandshake unitEnvironment
      (.taken unitEnvironment 0 ["privacy"] []) ⟨[], ["TEXT"], []⟩
      ⟨.taken unitEnvironment 1 ["Privacy"] [], ⟨["TEXT"], [], []⟩⟩ ⟨true, F32.fourFifths⟩
      ⟨true, false⟩).alignmentStatus = .partial_ := by
    decide +kernel
  exact ⟨status, same.1.symm.trans status⟩

end Sample

end Annex.Vrp
