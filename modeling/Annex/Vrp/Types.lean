import Annex.Foundation.Scalar

namespace Annex.Vrp

/-- Alignment status of a VRP handshake. -/
inductive VrpAlignmentStatus where
  | aligned
  | partial_
  | conflict
deriving DecidableEq, Repr

namespace VrpAlignmentStatus

def toString : VrpAlignmentStatus → String
  | aligned => "ALIGNED"
  | partial_ => "PARTIAL"
  | conflict => "CONFLICT"

def fromStr (text : String) : Except String VrpAlignmentStatus :=
  if text = "ALIGNED" then .ok aligned
  else if text = "PARTIAL" then .ok partial_
  else if text = "CONFLICT" then .ok conflict
  else .error ("unknown alignment status: " ++ text)

@[simp] theorem fromStr_toString (status : VrpAlignmentStatus) :
    fromStr status.toString = .ok status := by
  cases status <;> rfl

theorem toString_injective {left right : VrpAlignmentStatus}
    (equal : left.toString = right.toString) : left = right := by
  have parsed := congrArg fromStr equal
  rw [fromStr_toString, fromStr_toString] at parsed
  exact Except.ok.inj parsed

end VrpAlignmentStatus

/-- Scope of data transfer permitted based on alignment. -/
inductive VrpTransferScope where
  | noTransfer
  | reflectionSummariesOnly
  | fullKnowledgeBundle
deriving DecidableEq, Repr

namespace VrpTransferScope

def toString : VrpTransferScope → String
  | noTransfer => "NO_TRANSFER"
  | reflectionSummariesOnly => "REFLECTION_SUMMARIES_ONLY"
  | fullKnowledgeBundle => "FULL_KNOWLEDGE_BUNDLE"

/-- The place of a scope in the derived order. -/
def rank : VrpTransferScope → Nat
  | noTransfer => 0
  | reflectionSummariesOnly => 1
  | fullKnowledgeBundle => 2

def fromStr (text : String) : Except String VrpTransferScope :=
  if text = "NO_TRANSFER" then .ok noTransfer
  else if text = "REFLECTION_SUMMARIES_ONLY" then .ok reflectionSummariesOnly
  else if text = "FULL_KNOWLEDGE_BUNDLE" then .ok fullKnowledgeBundle
  else .error ("unknown transfer scope: " ++ text)

@[simp] theorem fromStr_toString (scope : VrpTransferScope) :
    fromStr scope.toString = .ok scope := by
  cases scope <;> rfl

/-- `parse_transfer_scope`. -/
def parse (text : String) : Option VrpTransferScope :=
  (fromStr text).toOption

theorem parse_eq_some_iff {text : String} {scope : VrpTransferScope} :
    parse text = some scope ↔ text = scope.toString := by
  constructor
  · intro parsed
    unfold parse fromStr at parsed
    split at parsed
    · cases parsed
      assumption
    · split at parsed
      · cases parsed
        assumption
      · split at parsed
        · cases parsed
          assumption
        · cases parsed
  · rintro rfl
    rw [parse, fromStr_toString]
    rfl

theorem toString_injective {left right : VrpTransferScope}
    (equal : left.toString = right.toString) : left = right := by
  have parsed := congrArg fromStr equal
  rw [fromStr_toString, fromStr_toString] at parsed
  exact Except.ok.inj parsed

end VrpTransferScope

/-- A snapshot of an entity's ethical or policy root for comparison. -/
structure VrpAnchorSnapshot where
  principlesHash : String
  prohibitedActionsHash : String
  timestamp : Nat
  principles : List String
  prohibitedActions : List String
deriving DecidableEq, Repr

/-- Required and offered capabilities for an interaction. -/
structure VrpCapabilitySharingContract where
  requiredCapabilities : List String
  offeredCapabilities : List String
  redactedTopics : List String
deriving DecidableEq, Repr

/-- The payload exchanged during a VRP handshake. -/
structure VrpFederationHandshake where
  anchorSnapshot : VrpAnchorSnapshot
  capabilityContract : VrpCapabilitySharingContract
deriving DecidableEq, Repr

/-- Configuration for alignment evaluation. -/
structure VrpAlignmentConfig where
  semanticAlignmentRequired : Bool
  minAlignmentScore : F32
deriving DecidableEq, Repr

/-- Configuration for transfer acceptance. -/
structure VrpTransferAcceptanceConfig where
  allowReflectionSummaries : Bool
  allowFullKnowledge : Bool
deriving DecidableEq, Repr

/-- The result of a VRP validation. -/
structure VrpValidationReport where
  alignmentStatus : VrpAlignmentStatus
  transferScope : VrpTransferScope
  alignmentScore : F32
  negotiationNotes : List String
deriving DecidableEq, Repr

/-- Errors that can occur during VRP operations. -/
inductive VrpError where
  | systemClockInvalid
deriving DecidableEq, Repr

def VrpError.text : VrpError → String
  | .systemClockInvalid => "system clock returned a time before the UNIX epoch"

end Annex.Vrp
