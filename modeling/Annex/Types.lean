import Annex.Foundation.Scalar

namespace Annex

/-! Types shared by all parts of the platform. -/

/-- Participant role codes of the identity model. -/
inductive RoleCode where
  | human
  | aiAgent
  | collective
  | bridge
  | service
deriving DecidableEq, Repr

namespace RoleCode

def asU8 : RoleCode → Nat
  | human => 1
  | aiAgent => 2
  | collective => 3
  | bridge => 4
  | service => 5

def fromU8 : Nat → Option RoleCode
  | 1 => some human
  | 2 => some aiAgent
  | 3 => some collective
  | 4 => some bridge
  | 5 => some service
  | _ => none

def label : RoleCode → String
  | human => "HUMAN"
  | aiAgent => "AI_AGENT"
  | collective => "COLLECTIVE"
  | bridge => "BRIDGE"
  | service => "SERVICE"

@[simp] theorem fromU8_asU8 (role : RoleCode) : fromU8 role.asU8 = some role := by
  cases role <;> rfl

end RoleCode

/-- Alignment status as the presence stream shows it. -/
inductive AlignmentStatus where
  | aligned
  | partial_
  | conflict
deriving DecidableEq, Repr

/-- Node types of the presence graph. -/
inductive NodeType where
  | human
  | aiAgent
  | collective
  | bridge
  | service
deriving DecidableEq, Repr

/-- `{:?}` of a node type. -/
def NodeType.debug : NodeType → String
  | human => "Human"
  | aiAgent => "AiAgent"
  | collective => "Collective"
  | bridge => "Bridge"
  | service => "Service"

/-- The text of a node type in `graph_nodes`. -/
def NodeType.column : NodeType → String
  | human => "HUMAN"
  | aiAgent => "AI_AGENT"
  | collective => "COLLECTIVE"
  | bridge => "BRIDGE"
  | service => "SERVICE"

/-- `role_code_to_node_type`. -/
def roleCodeToNodeType : RoleCode → NodeType
  | .human => .human
  | .aiAgent => .aiAgent
  | .collective => .collective
  | .bridge => .bridge
  | .service => .service

/-- The part of a server's policy the modelled code reads. -/
structure ServerPolicy where
  agentMinAlignmentScore : F32
  agentRequiredCapabilities : List String
  federationEnabled : Bool
  defaultRetentionDays : Nat
  voiceEnabled : Bool
  principles : List String
  prohibitedActions : List String
deriving DecidableEq, Repr

/-- `ServerPolicy::default`. -/
def ServerPolicy.default : ServerPolicy where
  agentMinAlignmentScore := F32.fourFifths
  agentRequiredCapabilities := []
  federationEnabled := true
  defaultRetentionDays := 30
  voiceEnabled := true
  principles := []
  prohibitedActions := []

/-- Events of the presence stream. -/
inductive PresenceEvent where
  | nodeUpdated (pseudonymId : String) (active : Bool)
  | nodePruned (pseudonymId : String)
  | federationRealigned (remoteBaseUrl : String) (alignmentStatus : AlignmentStatus)
  | federationSevered (remoteBaseUrl : String)
deriving DecidableEq, Repr

end Annex
