import Annex.Vrp.Types

namespace Annex.Rtx

/-- A unit of agent-to-agent knowledge exchange. -/
structure ReflectionSummaryBundle where
  bundleId : String
  sourcePseudonym : String
  sourceServer : String
  domainTags : List String
  summary : String
  reasoningChain : Option String
  caveats : List String
  createdAt : Nat
  signature : String
  vrpHandshakeRef : String
deriving DecidableEq, Repr

/-- The provenance chain of a relayed bundle. -/
structure BundleProvenance where
  originServer : String
  relayPath : List String
  bundleId : String
deriving DecidableEq, Repr

/-- A bundle relayed from a federation peer. -/
structure FederatedRtxEnvelope where
  bundle : ReflectionSummaryBundle
  provenance : BundleProvenance
  relayingServer : String
  signature : String
deriving DecidableEq, Repr

inductive RtxError where
  | transferDenied (text : String)
  | redactedTopic (topic : String)
  | invalidBundle (text : String)
deriving DecidableEq, Repr

def RtxError.text : RtxError → String
  | .transferDenied text => "RTX transfer denied: " ++ text
  | .redactedTopic topic => "RTX redacted topic: " ++ topic
  | .invalidBundle text => "RTX invalid bundle: " ++ text

open Vrp

/-! What a bundle must satisfy, and what a transfer scope leaves of it. -/

/-- Strip what the scope restricts from a bundle. -/
def enforceTransferScope (bundle : ReflectionSummaryBundle) :
    VrpTransferScope → Except RtxError ReflectionSummaryBundle
  | .noTransfer => .error (.transferDenied "transfer scope is NoTransfer")
  | .reflectionSummariesOnly => .ok { bundle with reasoningChain := none }
  | .fullKnowledgeBundle => .ok bundle

/-- No tag of the bundle may be one of the redacted topics. -/
def checkRedactedTopics (bundle : ReflectionSummaryBundle) (redactedTopics : List String) :
    Except RtxError Unit :=
  match bundle.domainTags.find? (redactedTopics.contains ·) with
  | some tag => .error (.redactedTopic tag)
  | none => .ok ()

def requireField (field value : String) : Except RtxError Unit :=
  if value = "" then .error (.invalidBundle (field ++ " is empty")) else .ok ()

/-- The required fields are populated. -/
def validateBundleStructure (bundle : ReflectionSummaryBundle) : Except RtxError Unit := do
  requireField "bundle_id" bundle.bundleId
  requireField "source_pseudonym" bundle.sourcePseudonym
  requireField "source_server" bundle.sourceServer
  requireField "summary" bundle.summary
  requireField "signature" bundle.signature
  requireField "vrp_handshake_ref" bundle.vrpHandshakeRef
  if bundle.createdAt = 0 then
    .error (.invalidBundle "created_at must be non-zero")
  else
    .ok ()

/-- The signed text of a bundle; the timestamp is in decimal digits. -/
def bundleSigningPayload (bundle : ReflectionSummaryBundle) : String :=
  String.intercalate "\n"
    [bundle.bundleId, bundle.sourcePseudonym, bundle.sourceServer, bundle.summary,
      toString bundle.createdAt]

/-- The fields `validateBundleStructure` asks for. -/
structure WellFormed (bundle : ReflectionSummaryBundle) : Prop where
  bundleId : bundle.bundleId ≠ ""
  sourcePseudonym : bundle.sourcePseudonym ≠ ""
  sourceServer : bundle.sourceServer ≠ ""
  summary : bundle.summary ≠ ""
  signature : bundle.signature ≠ ""
  vrpHandshakeRef : bundle.vrpHandshakeRef ≠ ""
  createdAt : bundle.createdAt ≠ 0

theorem requireField_bind {field value : String} {next : Unit → Except RtxError Unit} :
    (requireField field value >>= next) = .ok () ↔ value ≠ "" ∧ next () = .ok () := by
  unfold requireField
  split
  · next empty => exact iff_of_false (fun done => by cases done) fun both => both.1 empty
  · next nonempty => exact (and_iff_right nonempty).symm

theorem validateBundleStructure_ok_iff {bundle : ReflectionSummaryBundle} :
    validateBundleStructure bundle = .ok () ↔ WellFormed bundle := by
  simp only [validateBundleStructure, requireField_bind]
  constructor
  · rintro ⟨bundleId, sourcePseudonym, sourceServer, summary, signature, reference, last⟩
    refine ⟨bundleId, sourcePseudonym, sourceServer, summary, signature, reference, ?_⟩
    intro zero
    rw [if_pos zero] at last
    cases last
  · rintro ⟨bundleId, sourcePseudonym, sourceServer, summary, signature, reference, created⟩
    exact ⟨bundleId, sourcePseudonym, sourceServer, summary, signature, reference,
      if_neg created⟩

/-- A scope that permits a transfer leaves some bundle. -/
theorem enforceTransferScope_eq_ok {scope : VrpTransferScope}
    (permitted : scope ≠ .noTransfer) (bundle : ReflectionSummaryBundle) :
    ∃ scopedBundle, enforceTransferScope bundle scope = .ok scopedBundle := by
  cases scope with
  | noTransfer => exact absurd rfl permitted
  | reflectionSummariesOnly => exact ⟨_, rfl⟩
  | fullKnowledgeBundle => exact ⟨_, rfl⟩

/-- A reasoning chain passes a scope only if the bundle had it and the scope is the
full one. -/
theorem reasoningChain_enforceTransferScope {bundle scopedBundle : ReflectionSummaryBundle}
    {scope : VrpTransferScope}
    (enforced : enforceTransferScope bundle scope = .ok scopedBundle) :
    scopedBundle.reasoningChain ≠ none ↔
      bundle.reasoningChain ≠ none ∧ scope = .fullKnowledgeBundle := by
  cases scope with
  | noTransfer => cases enforced
  | reflectionSummariesOnly =>
      cases enforced
      simp
  | fullKnowledgeBundle =>
      cases enforced
      simp

theorem bundleId_enforceTransferScope {bundle scopedBundle : ReflectionSummaryBundle}
    {scope : VrpTransferScope}
    (enforced : enforceTransferScope bundle scope = .ok scopedBundle) :
    scopedBundle.bundleId = bundle.bundleId := by
  cases scope with
  | noTransfer => cases enforced
  | reflectionSummariesOnly =>
      cases enforced
      rfl
  | fullKnowledgeBundle =>
      cases enforced
      rfl

theorem wellFormed_enforceTransferScope {bundle scopedBundle : ReflectionSummaryBundle}
    {scope : VrpTransferScope}
    (enforced : enforceTransferScope bundle scope = .ok scopedBundle)
    (wellFormed : WellFormed bundle) : WellFormed scopedBundle := by
  cases scope with
  | noTransfer => cases enforced
  | reflectionSummariesOnly =>
      cases enforced
      exact { wellFormed with }
  | fullKnowledgeBundle =>
      cases enforced
      exact wellFormed

end Annex.Rtx
