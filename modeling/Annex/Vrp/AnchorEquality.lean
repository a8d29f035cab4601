import Annex.Foundation.SelfDelimiting
import Annex.Vrp.Alignment
import Mathlib.Data.String.Basic

namespace Annex.Vrp

/-! What the hashes of an anchor say of its lists, and what the comparison makes of them. -/

/-- No text is longer than `isize::MAX` bytes. -/
def Representable (items : List String) : Prop :=
  ∀ item ∈ items, item.utf8ByteSize < 2 ^ 63

/-- The order in which a list is hashed does not depend on its own. -/
theorem insertionSort_eq_iff_perm {left right : List String} :
    left.insertionSort (· ≤ ·) = right.insertionSort (· ≤ ·) ↔ left.Perm right := by
  have leftSorted := List.perm_insertionSort (· ≤ ·) left
  have rightSorted := List.perm_insertionSort (· ≤ ·) right
  constructor
  · intro same
    rw [same] at leftSorted
    exact leftSorted.symm.trans rightSorted
  · intro perm
    apply List.Perm.eq_of_sortedLE
    · exact List.sortedLE_insertionSort
    · exact List.sortedLE_insertionSort
    · exact leftSorted.trans (perm.trans rightSorted.symm)

theorem lengthPrefixed_eq :
    lengthPrefixed = fun item => Hex.bytes 8 (utf8 item).length ++ utf8 item := by
  funext item
  rw [lengthPrefixed, length_utf8]

theorem selfDelimiting_lengthPrefixed :
    SelfDelimiting (fun item : String => item.utf8ByteSize < 2 ^ 63) lengthPrefixed := by
  rw [lengthPrefixed_eq]
  apply SelfDelimiting.of_header
  · exact Hex.length_bytes 8
  · intro left right leftBound rightBound same
    rw [← length_utf8] at leftBound rightBound
    have numbers := congrArg Hex.number same
    rw [Hex.number_bytes, Hex.number_bytes] at numbers
    · exact numbers
    · exact Nat.lt_trans rightBound (by decide)
    · exact Nat.lt_trans leftBound (by decide)
  · exact fun _ _ same => utf8_injective same

theorem lengthPrefixed_ne_nil (item : String) : lengthPrefixed item ≠ [] := by
  intro empty
  have length := congrArg List.length empty
  rw [lengthPrefixed, List.length_append, Hex.length_bytes, List.length_nil] at length
  omega

section Hash

variable {environment : Environment} (injective : Function.Injective environment.sha256)
include injective

/-- Lists have one hash just when they are one another's permutations. -/
theorem hashList_eq_iff {left right : List String} (leftBound : Representable left)
    (rightBound : Representable right) :
    hashList environment left = hashList environment right ↔ left.Perm right := by
  rw [hashList, hashList, Hex.encode_injective.eq_iff, injective.eq_iff,
    selfDelimiting_lengthPrefixed.flatMap_inj lengthPrefixed_ne_nil,
    insertionSort_eq_iff_perm]
  · intro item member
    exact leftBound item ((List.mem_insertionSort _).mp member)
  · intro item member
    exact rightBound item ((List.mem_insertionSort _).mp member)

end Hash

section Compare

variable {environment : Environment} {localAnchor remoteAnchor : VrpAnchorSnapshot}
  {config : VrpAlignmentConfig}

theorem comparePeerAnchor_eq_aligned_iff :
    comparePeerAnchor environment localAnchor remoteAnchor config = .aligned ↔
      localAnchor.principlesHash = remoteAnchor.principlesHash ∧
        localAnchor.prohibitedActionsHash = remoteAnchor.prohibitedActionsHash := by
  unfold comparePeerAnchor
  split
  · next equal => exact iff_of_true rfl equal
  · next different =>
    apply iff_of_false _ different
    split
    · decide
    · split <;> decide

theorem comparePeerAnchor_of_prohibited
    (different : localAnchor.prohibitedActionsHash ≠ remoteAnchor.prohibitedActionsHash) :
    comparePeerAnchor environment localAnchor remoteAnchor config = .conflict := by
  unfold comparePeerAnchor
  rw [if_neg fun equal => different equal.2, if_pos different]

end Compare

theorem taken_of_new {environment : Environment} {clock : Option Nat}
    {principles prohibitedActions : List String} {anchor : VrpAnchorSnapshot}
    (taken : VrpAnchorSnapshot.new environment clock principles prohibitedActions = .ok anchor) :
    ∃ timestamp, anchor = .taken environment timestamp principles prohibitedActions := by
  cases clock with
  | none => cases taken
  | some timestamp => exact ⟨timestamp, (Except.ok.inj taken).symm⟩

/-- Anchors are aligned just when their lists are one another's permutations, and in conflict
when their prohibited actions are not. -/
theorem anchors_aligned_iff (environment : Environment)
    (injective : Function.Injective environment.sha256) (localClock remoteClock : Option Nat)
    (localPrinciples localProhibited remotePrinciples remoteProhibited : List String)
    (localAnchor remoteAnchor : VrpAnchorSnapshot) (config : VrpAlignmentConfig)
    (localBound : Representable (localPrinciples ++ localProhibited))
    (remoteBound : Representable (remotePrinciples ++ remoteProhibited))
    (localTaken : VrpAnchorSnapshot.new environment localClock localPrinciples
      localProhibited = .ok localAnchor)
    (remoteTaken : VrpAnchorSnapshot.new environment remoteClock remotePrinciples
      remoteProhibited = .ok remoteAnchor) :
    (comparePeerAnchor environment localAnchor remoteAnchor config = .aligned ↔
      localPrinciples.Perm remotePrinciples ∧ localProhibited.Perm remoteProhibited) ∧
    (¬ localProhibited.Perm remoteProhibited →
      comparePeerAnchor environment localAnchor remoteAnchor config = .conflict) := by
  rcases taken_of_new localTaken with ⟨localTime, isLocal⟩
  rcases taken_of_new remoteTaken with ⟨remoteTime, isRemote⟩
  rcases List.forall_mem_append.mp localBound with ⟨localFirst, localSecond⟩
  rcases List.forall_mem_append.mp remoteBound with ⟨remoteFirst, remoteSecond⟩
  have principles := hashList_eq_iff injective localFirst remoteFirst
  have prohibited := hashList_eq_iff injective localSecond remoteSecond
  rw [isLocal, isRemote, comparePeerAnchor_eq_aligned_iff, ← principles, ← prohibited]
  exact ⟨Iff.rfl, fun different => comparePeerAnchor_of_prohibited different⟩

section Sample

def plainEnvironment : Environment := Environment.sample id

/-- Two anchors of one policy, written down in two orders. -/
theorem anchors_aligned_reordered :
    comparePeerAnchor plainEnvironment (.taken plainEnvironment 0 ["a", "", "a"] ["b"])
      (.taken plainEnvironment 1 ["", "a", "a"] ["b"]) ⟨false, F32.one⟩ = .aligned := by
  have bound : Representable ["a", "", "a", "b"] := by
    unfold Representable
    decide
  have reordered : Representable ["", "a", "a", "b"] := by
    unfold Representable
    decide
  exact (anchors_aligned_iff plainEnvironment (fun _ _ same => same) (some 0) (some 1)
    ["a", "", "a"] ["b"] ["", "a", "a"] ["b"] _ _ ⟨false, F32.one⟩ bound reordered rfl rfl).1.mpr
      ⟨by decide, by decide⟩

end Sample

/-! A peer sends the hashes of its lists and the lists beside them. -/

section Handshake

variable {environment : Environment} {localAnchor : VrpAnchorSnapshot}
  {localContract : VrpCapabilitySharingContract} {handshake : VrpFederationHandshake}
  {alignmentConfig : VrpAlignmentConfig} {transferConfig : VrpTransferAcceptanceConfig}

theorem validateFederationHandshake_aligned_iff :
    (validateFederationHandshake environment localAnchor localContract handshake
        alignmentConfig transferConfig).alignmentStatus = .aligned ↔
      contractsMutuallyAccepted localContract handshake.capabilityContract = true ∧
        localAnchor.principlesHash = handshake.anchorSnapshot.principlesHash ∧
        localAnchor.prohibitedActionsHash =
          handshake.anchorSnapshot.prohibitedActionsHash := by
  rw [← @comparePeerAnchor_eq_aligned_iff environment _ _ alignmentConfig]
  unfold validateFederationHandshake
  cases contractsMutuallyAccepted localContract handshake.capabilityContract <;> simp

end Handshake

/-- The anchor's hashes are those of the lists it is sent with. -/
def Honest (environment : Environment) (anchor : VrpAnchorSnapshot) : Prop :=
  anchor.principlesHash = hashList environment anchor.principles ∧
    anchor.prohibitedActionsHash = hashList environment anchor.prohibitedActions

/-- A peer is aligned just when its contract is accepted and it brings the hashes of the
local lists. If they are the hashes of its own lists too, these are permutations of the local
ones. -/
theorem aligned_iff_hashes (environment : Environment)
    (injective : Function.Injective environment.sha256) (clock : Option Nat)
    (principles prohibitedActions : List String) (localAnchor : VrpAnchorSnapshot)
    (localContract : VrpCapabilitySharingContract) (handshake : VrpFederationHandshake)
    (alignmentConfig : VrpAlignmentConfig) (transferConfig : VrpTransferAcceptanceConfig)
    (localBound : Representable (principles ++ prohibitedActions))
    (remoteBound : Representable (handshake.anchorSnapshot.principles ++
      handshake.anchorSnapshot.prohibitedActions))
    (taken : VrpAnchorSnapshot.new environment clock principles prohibitedActions =
      .ok localAnchor) :
    ((validateFederationHandshake environment localAnchor localContract handshake
        alignmentConfig transferConfig).alignmentStatus = .aligned ↔
      contractsMutuallyAccepted localContract handshake.capabilityContract = true ∧
        handshake.anchorSnapshot.principlesHash = hashList environment principles ∧
        handshake.anchorSnapshot.prohibitedActionsHash =
          hashList environment prohibitedActions) ∧
    (Honest environment handshake.anchorSnapshot →
      ((validateFederationHandshake environment localAnchor localContract handshake
          alignmentConfig transferConfig).alignmentStatus = .aligned ↔
        contractsMutuallyAccepted localContract handshake.capabilityContract = true ∧
          handshake.anchorSnapshot.principles.Perm principles ∧
          handshake.anchorSnapshot.prohibitedActions.Perm prohibitedActions)) := by
  rcases taken_of_new taken with ⟨timestamp, isLocal⟩
  rcases List.forall_mem_append.mp localBound with ⟨localFirst, localSecond⟩
  rcases List.forall_mem_append.mp remoteBound with ⟨remoteFirst, remoteSecond⟩
  have hashes := @validateFederationHandshake_aligned_iff environment localAnchor localContract
    handshake alignmentConfig transferConfig
  rw [isLocal] at hashes ⊢
  rw [@eq_comm _ _ handshake.anchorSnapshot.principlesHash,
    @eq_comm _ _ handshake.anchorSnapshot.prohibitedActionsHash] at hashes
  refine ⟨hashes, ?_⟩
  intro honest
  rw [hashes, honest.1, honest.2]
  dsimp only [VrpAnchorSnapshot.taken]
  rw [hashList_eq_iff injective remoteFirst localFirst,
    hashList_eq_iff injective remoteSecond localSecond]

section Sample

def plainContract : VrpCapabilitySharingContract := ⟨[], [], []⟩

/-- The hashes of one policy with the text of another. -/
def borrowedHandshake : VrpFederationHandshake where
  anchorSnapshot :=
    { VrpAnchorSnapshot.taken plainEnvironment 1 ["Keep data private"] [] with
      principles := ["Sell all data"] }
  capabilityContract := plainContract

/-- A peer that brings the local hashes is aligned. -/
theorem aligned_borrowed :
    (validateFederationHandshake plainEnvironment
      (.taken plainEnvironment 0 ["Keep data private"] []) plainContract borrowedHandshake
        ⟨true, F32.one⟩ ⟨true, false⟩).alignmentStatus = .aligned := by
  have bound : Representable ["Keep data private"] := by
    unfold Representable
    decide
  have borrowed : Representable ["Sell all data"] := by
    unfold Representable
    decide
  exact (aligned_iff_hashes plainEnvironment (fun _ _ same => same) (some 0)
    ["Keep data private"] [] _ plainContract borrowedHandshake ⟨true, F32.one⟩ ⟨true, false⟩
    bound borrowed rfl).1.mpr ⟨rfl, rfl, rfl⟩

/-- Its text says otherwise. -/
theorem not_aligned_text :
    ¬ ∀ (environment : Environment), Function.Injective environment.sha256 →
      ∀ clock principles prohibitedActions localAnchor localContract
        (handshake : VrpFederationHandshake) alignmentConfig transferConfig,
        VrpAnchorSnapshot.new environment clock principles prohibitedActions =
            .ok localAnchor →
          (validateFederationHandshake environment localAnchor localContract handshake
            alignmentConfig transferConfig).alignmentStatus = .aligned →
          handshake.anchorSnapshot.principles.Perm principles ∧
            handshake.anchorSnapshot.prohibitedActions.Perm prohibitedActions := by
  intro permuted
  have texts := permuted plainEnvironment (fun _ _ same => same) (some 0)
    ["Keep data private"] [] _ plainContract borrowedHandshake ⟨true, F32.one⟩ ⟨true, false⟩
    rfl (if_pos ⟨rfl, rfl⟩)
  exact absurd texts.1 (by decide)

end Sample

end Annex.Vrp
