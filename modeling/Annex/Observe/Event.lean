namespace Annex.Observe

/-- Observability event domains. -/
inductive EventDomain where
  | identity
  | presence
  | federation
  | agent
  | moderation
deriving DecidableEq, Repr

def EventDomain.asStr : EventDomain → String
  | identity => "IDENTITY"
  | presence => "PRESENCE"
  | federation => "FEDERATION"
  | agent => "AGENT"
  | moderation => "MODERATION"

def EventDomain.fromStr : String → Option EventDomain
  | "IDENTITY" => some identity
  | "PRESENCE" => some presence
  | "FEDERATION" => some federation
  | "AGENT" => some agent
  | "MODERATION" => some moderation
  | _ => none

theorem EventDomain.fromStr_asStr (domain : EventDomain) :
    fromStr domain.asStr = some domain := by
  cases domain <;> rfl

/-- Structured payloads of the public event log. -/
inductive EventPayload where
  | identityRegistered (commitmentHex : String) (roleCode : Nat)
  | identityVerified (commitmentHex topic : String)
  | pseudonymDerived (pseudonymId topic : String)
  | nodeAdded (pseudonymId nodeType : String)
  | nodePruned (pseudonymId : String)
  | nodeReactivated (pseudonymId : String)
  | federationEstablished (remoteUrl alignmentStatus : String)
  | federationRealigned (remoteUrl alignmentStatus previousStatus : String)
  | federationSevered (remoteUrl reason : String)
  | agentConnected (pseudonymId alignmentStatus : String)
  | agentRealigned (pseudonymId alignmentStatus previousStatus : String)
  | agentDisconnected (pseudonymId reason : String)
  | moderationAction (moderatorPseudonym actionType : String)
      (targetPseudonym : Option String) (description : String)
deriving DecidableEq, Repr

namespace EventPayload

def eventType : EventPayload → String
  | identityRegistered .. => "IDENTITY_REGISTERED"
  | identityVerified .. => "IDENTITY_VERIFIED"
  | pseudonymDerived .. => "PSEUDONYM_DERIVED"
  | nodeAdded .. => "NODE_ADDED"
  | nodePruned .. => "NODE_PRUNED"
  | nodeReactivated .. => "NODE_REACTIVATED"
  | federationEstablished .. => "FEDERATION_ESTABLISHED"
  | federationRealigned .. => "FEDERATION_REALIGNED"
  | federationSevered .. => "FEDERATION_SEVERED"
  | agentConnected .. => "AGENT_CONNECTED"
  | agentRealigned .. => "AGENT_REALIGNED"
  | agentDisconnected .. => "AGENT_DISCONNECTED"
  | moderationAction .. => "MODERATION_ACTION"

def domain : EventPayload → EventDomain
  | identityRegistered .. | identityVerified .. | pseudonymDerived .. => .identity
  | nodeAdded .. | nodePruned .. | nodeReactivated .. => .presence
  | federationEstablished .. | federationRealigned .. | federationSevered .. =>
      .federation
  | agentConnected .. | agentRealigned .. | agentDisconnected .. => .agent
  | moderationAction .. => .moderation

def entityType : EventPayload → String
  | identityRegistered .. | identityVerified .. | pseudonymDerived .. => "identity"
  | nodeAdded .. | nodePruned .. | nodeReactivated .. => "node"
  | federationEstablished .. | federationRealigned .. | federationSevered .. =>
      "federation"
  | agentConnected .. | agentRealigned .. | agentDisconnected .. => "agent"
  | moderationAction .. => "moderation"

end EventPayload

/-- A row of the public event log; the payload column holds its JSON. -/
structure PublicEvent where
  id : Nat
  serverId : Nat
  domain : String
  eventType : String
  entityType : String
  entityId : String
  seq : Nat
  payloadJson : EventPayload
  occurredAt : String
deriving DecidableEq, Repr

end Annex.Observe
