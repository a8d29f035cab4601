import Mathlib.Data.List.Dedup
import Mathlib.Data.List.Sort
import Annex.Environment
import Annex.Vrp.Types

namespace Annex.Vrp

/-! Bag-of-words comparison of principle texts, over any number type. -/

variable {R : Type} [Scalar R] (environment : Environment)

def sum (values : List R) : R :=
  values.foldl Scalar.add Scalar.zero

/-- `text.split(...)`: the pieces between characters that separate. -/
def splitChars (separates : Char → Bool) : List Char → List (List Char)
  | [] => [[]]
  | character :: rest =>
      if separates character then
        [] :: splitChars separates rest
      else
        match splitChars separates rest with
        | [] => [[character]]
        | piece :: pieces => (character :: piece) :: pieces

/-- Lowercase words of at least two bytes, without punctuation. -/
def tokenize (text : String) : List String :=
  ((splitChars (fun character => !environment.isAlphanumeric character)
      (environment.toLowercase text).toList).map String.ofList).filter
    fun word => 2 ≤ word.utf8ByteSize

/-- The sorted words of all texts; a word's dimension is its position. -/
def buildVocab (texts : List String) : List String :=
  (texts.flatMap (tokenize environment)).dedup.insertionSort (· ≤ ·)

/-- `BagOfWordsEmbedder::embed`. -/
def embed (vocab : List String) (text : String) : Except String (List R) :=
  if vocab.isEmpty then
    .error "Vocabulary not built — call build_vocab first"
  else
    let words := tokenize environment text
    let counts := vocab.map fun word =>
      (words.filter (· = word)).foldl (fun count _ => Scalar.add count Scalar.one)
        (Scalar.zero : R)
    let norm := Scalar.sqrt (sum (counts.map fun value => Scalar.mul value value))
    if Scalar.lt Scalar.zero norm then
      .ok (counts.map fun value => Scalar.div value norm)
    else
      .ok counts

def cosineSimilarity (left right : List R) : R :=
  if left.length ≠ right.length ∨ left.isEmpty then
    Scalar.zero
  else
    let dotProduct := sum (List.zipWith Scalar.mul left right)
    let leftNorm := Scalar.sqrt (sum (left.map fun value => Scalar.mul value value))
    let rightNorm := Scalar.sqrt (sum (right.map fun value => Scalar.mul value value))
    if Scalar.eq leftNorm Scalar.zero || Scalar.eq rightNorm Scalar.zero then
      Scalar.zero
    else
      Scalar.div dotProduct (Scalar.mul leftNorm rightNorm)

/-- The loop of `compute_centroid`: the sum of the embeddings and their number. -/
def sumEmbeddings (embedText : String → Except String (List R)) :
    List String → List R → Nat → Except String (List R × Nat)
  | [], sumVec, count => .ok (sumVec, count)
  | principle :: rest, sumVec, count =>
      match embedText principle with
      | .error error => .error error
      | .ok embedding =>
          if sumVec.isEmpty then
            sumEmbeddings embedText rest embedding (count + 1)
          else if sumVec.length ≠ embedding.length then
            .error "Embedding dimension mismatch"
          else
            sumEmbeddings embedText rest (List.zipWith Scalar.add sumVec embedding)
              (count + 1)

/-- The mean of the embeddings of a list of principles. -/
def computeCentroid (embedText : String → Except String (List R))
    (principles : List String) : Except String (List R) :=
  match sumEmbeddings embedText principles [] 0 with
  | .error error => .error error
  | .ok (sumVec, count) =>
      if count = 0 then .ok []
      else .ok (sumVec.map fun value => Scalar.div value (Scalar.ofNat count))

def calculateSemanticAlignment (embedText : String → Except String (List R))
    (localPrinciples remotePrinciples : List String) : Except String R :=
  if localPrinciples.isEmpty && remotePrinciples.isEmpty then
    .ok Scalar.one
  else if localPrinciples.isEmpty || remotePrinciples.isEmpty then
    .ok Scalar.zero
  else
    match computeCentroid embedText localPrinciples,
        computeCentroid embedText remotePrinciples with
    | .error error, _ => .error error
    | _, .error error => .error error
    | .ok localCentroid, .ok remoteCentroid =>
        if localCentroid.isEmpty || remoteCentroid.isEmpty then .ok Scalar.zero
        else .ok (cosineSimilarity localCentroid remoteCentroid)

/-- The score `compare_peer_anchor` computes for two lists of principles. -/
def semanticScore (localPrinciples remotePrinciples : List String) : Except String R :=
  let vocab := buildVocab environment (localPrinciples ++ remotePrinciples)
  calculateSemanticAlignment (embed environment vocab) localPrinciples remotePrinciples

/-! Anchor comparison, capability contracts and transfer scopes. -/

variable (environment : Environment)

/-- The length of a text as eight big-endian bytes, and the text. -/
def lengthPrefixed (item : String) : List Byte :=
  Hex.bytes 8 item.utf8ByteSize ++ utf8 item

/-- A SHA-256 over the sorted items, each behind its length. -/
def hashList (items : List String) : String :=
  Hex.encode (environment.sha256
    ((items.insertionSort (· ≤ ·)).flatMap lengthPrefixed))

/-- The snapshot of a policy at a time. -/
def VrpAnchorSnapshot.taken (timestamp : Nat)
    (principles prohibitedActions : List String) : VrpAnchorSnapshot where
  principlesHash := hashList environment principles
  prohibitedActionsHash := hashList environment prohibitedActions
  timestamp := timestamp
  principles := principles
  prohibitedActions := prohibitedActions

/-- `VrpAnchorSnapshot::new`. The clock gives no time before the epoch. -/
def VrpAnchorSnapshot.new (clock : Option Nat)
    (principles prohibitedActions : List String) : Except VrpError VrpAnchorSnapshot :=
  match clock with
  | none => .error .systemClockInvalid
  | some timestamp =>
      .ok (VrpAnchorSnapshot.taken environment timestamp principles prohibitedActions)

/-- The principles are close enough for the configured score. -/
def semanticallyAligned (localPrinciples remotePrinciples : List String)
    (config : VrpAlignmentConfig) : Bool :=
  let _ := environment.arithmetic
  match semanticScore environment localPrinciples remotePrinciples with
  | .ok score => Scalar.le config.minAlignmentScore score
  | .error _ => false

/-- Compare two anchor snapshots. -/
def comparePeerAnchor (localAnchor remoteAnchor : VrpAnchorSnapshot)
    (config : VrpAlignmentConfig) : VrpAlignmentStatus :=
  if localAnchor.principlesHash = remoteAnchor.principlesHash ∧
      localAnchor.prohibitedActionsHash = remoteAnchor.prohibitedActionsHash then
    .aligned
  else if localAnchor.prohibitedActionsHash ≠ remoteAnchor.prohibitedActionsHash then
    .conflict
  else if config.semanticAlignmentRequired && !localAnchor.principles.isEmpty &&
      !remoteAnchor.principles.isEmpty &&
      semanticallyAligned environment localAnchor.principles remoteAnchor.principles
        config then
    .partial_
  else
    .conflict

/-- Each side offers what the other requires. -/
def contractsMutuallyAccepted
    (localContract remoteContract : VrpCapabilitySharingContract) : Bool :=
  (remoteContract.requiredCapabilities.all fun required =>
      localContract.offeredCapabilities.contains required) &&
    localContract.requiredCapabilities.all fun required =>
      remoteContract.offeredCapabilities.contains required

def resolveTransferScope (status : VrpAlignmentStatus)
    (config : VrpTransferAcceptanceConfig) : VrpTransferScope :=
  match status with
  | .aligned =>
      if config.allowFullKnowledge then .fullKnowledgeBundle
      else if config.allowReflectionSummaries then .reflectionSummariesOnly
      else .noTransfer
  | .partial_ =>
      if config.allowReflectionSummaries then .reflectionSummariesOnly else .noTransfer
  | .conflict => .noTransfer

def alignmentScore : VrpAlignmentStatus → F32
  | .aligned => F32.one
  | .partial_ => F32.half
  | .conflict => F32.zero

/-- Validate a handshake against the local anchor and contract. -/
def validateFederationHandshake (localAnchor : VrpAnchorSnapshot)
    (localContract : VrpCapabilitySharingContract) (handshake : VrpFederationHandshake)
    (alignmentConfig : VrpAlignmentConfig)
    (transferConfig : VrpTransferAcceptanceConfig) : VrpValidationReport :=
  let alignmentStatus :=
    comparePeerAnchor environment localAnchor handshake.anchorSnapshot alignmentConfig
  let contractsOk := contractsMutuallyAccepted localContract handshake.capabilityContract
  let finalStatus := if contractsOk then alignmentStatus else .conflict
  { alignmentStatus := finalStatus
    transferScope := resolveTransferScope finalStatus transferConfig
    alignmentScore := alignmentScore finalStatus
    negotiationNotes :=
      if contractsOk then [] else ["Capability contracts incompatible"] }

theorem transferScope_validateFederationHandshake (localAnchor : VrpAnchorSnapshot)
    (localContract : VrpCapabilitySharingContract) (handshake : VrpFederationHandshake)
    (alignmentConfig : VrpAlignmentConfig)
    (transferConfig : VrpTransferAcceptanceConfig) :
    (validateFederationHandshake environment localAnchor localContract handshake
        alignmentConfig transferConfig).transferScope =
      resolveTransferScope (validateFederationHandshake environment localAnchor
        localContract handshake alignmentConfig transferConfig).alignmentStatus
        transferConfig := rfl

/-- Under two local contracts a handshake gets the same status exactly when the anchors
are in conflict or both contracts are accepted or neither is. -/
theorem alignmentStatus_validateFederationHandshake_eq_iff
    {localAnchor : VrpAnchorSnapshot} {left right : VrpCapabilitySharingContract}
    {handshake : VrpFederationHandshake} {alignmentConfig : VrpAlignmentConfig}
    {transferConfig : VrpTransferAcceptanceConfig} :
    (validateFederationHandshake environment localAnchor left handshake
        alignmentConfig transferConfig).alignmentStatus =
      (validateFederationHandshake environment localAnchor right handshake
        alignmentConfig transferConfig).alignmentStatus ↔
      comparePeerAnchor environment localAnchor handshake.anchorSnapshot
          alignmentConfig = .conflict ∨
        contractsMutuallyAccepted left handshake.capabilityContract =
          contractsMutuallyAccepted right handshake.capabilityContract := by
  unfold validateFederationHandshake
  cases contractsMutuallyAccepted left handshake.capabilityContract <;>
    cases contractsMutuallyAccepted right handshake.capabilityContract <;>
    simp [eq_comm]

/-- A handshake is in conflict exactly when the anchors are or a contract fails. -/
theorem validateFederationHandshake_conflict_iff {localAnchor : VrpAnchorSnapshot}
    {localContract : VrpCapabilitySharingContract} {handshake : VrpFederationHandshake}
    {alignmentConfig : VrpAlignmentConfig}
    {transferConfig : VrpTransferAcceptanceConfig} :
    (validateFederationHandshake environment localAnchor localContract handshake
        alignmentConfig transferConfig).alignmentStatus = .conflict ↔
      comparePeerAnchor environment localAnchor handshake.anchorSnapshot
          alignmentConfig = .conflict ∨
        contractsMutuallyAccepted localContract handshake.capabilityContract = false := by
  unfold validateFederationHandshake
  cases contractsMutuallyAccepted localContract handshake.capabilityContract <;> simp

end Annex.Vrp
