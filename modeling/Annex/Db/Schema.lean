import Annex.Channels.Types
import Annex.Foundation.JsonText
import Annex.Foundation.Table
import Annex.Observe.Event
import Annex.Rtx.Validation
import Annex.Types
import Annex.Vrp.Types

namespace Annex.Db

open Channels Observe Rtx Vrp

/-! The tables the migrations create, with the columns the modelled code reads
or writes. A row carries its integer primary key, or SQLite's row id where the
table declares none. Columns of JSON keep what they encode. -/

/-- `vrp_leaves`. -/
structure VrpLeaf where
  leafIndex : Nat
  commitmentHex : String
deriving DecidableEq, Repr

instance : Keyed VrpLeaf := ⟨VrpLeaf.leafIndex⟩

/-- `vrp_roots`. -/
structure VrpRoot where
  rowId : Nat
  rootHex : String
  active : Bool
  createdAt : String
deriving DecidableEq, Repr

instance : Keyed VrpRoot := ⟨VrpRoot.rowId⟩

/-- `vrp_identities`. -/
structure VrpIdentity where
  rowId : Nat
  commitmentHex : String
  roleCode : Nat
  nodeId : Int
deriving DecidableEq, Repr

instance : Keyed VrpIdentity := ⟨VrpIdentity.rowId⟩

/-- `zk_nullifiers`. -/
structure ZkNullifier where
  rowId : Nat
  topic : String
  nullifierHex : String
  pseudonymId : Option String
  commitmentHex : Option String
deriving DecidableEq, Repr

instance : Keyed ZkNullifier := ⟨ZkNullifier.rowId⟩

/-- `servers`. -/
structure Server where
  id : Nat
  policyJson : JsonText ServerPolicy
deriving DecidableEq, Repr

instance : Keyed Server := ⟨Server.id⟩

/-- `platform_identities`. -/
structure PlatformIdentity where
  id : Nat
  serverId : Nat
  pseudonymId : String
  participantType : String
  canVoice : Bool
  canModerate : Bool
  canInvite : Bool
  canFederate : Bool
  canBridge : Bool
  active : Bool
deriving DecidableEq, Repr

instance : Keyed PlatformIdentity := ⟨PlatformIdentity.id⟩

/-- The metadata of an agent's node. -/
structure AgentMetadata where
  alignmentStatus : String
  transferScope : String
  capabilityContract : JsonText VrpCapabilitySharingContract
  reputationScore : String
deriving DecidableEq, Repr

/-- `graph_nodes`. -/
structure GraphNode where
  id : Nat
  serverId : Nat
  pseudonymId : String
  nodeType : String
  active : Bool
  lastSeenAt : Option String
  metadataJson : Option AgentMetadata
deriving DecidableEq, Repr

instance : Keyed GraphNode := ⟨GraphNode.id⟩

/-- `graph_edges`; the weight is the decimal text of its `REAL`. -/
structure GraphEdge where
  id : Nat
  serverId : Nat
  fromNode : String
  toNode : String
  kind : String
  weight : String
  createdAt : String
deriving DecidableEq, Repr

instance : Keyed GraphEdge := ⟨GraphEdge.id⟩

/-- `agent_registrations`; the score is the decimal text of its `REAL`. -/
structure AgentRegistration where
  id : Nat
  serverId : Nat
  pseudonymId : String
  alignmentStatus : String
  transferScope : String
  capabilityContractJson : JsonText VrpCapabilitySharingContract
  reputationScore : String
  active : Bool
deriving DecidableEq, Repr

instance : Keyed AgentRegistration := ⟨AgentRegistration.id⟩

instance : Keyed PublicEvent := ⟨PublicEvent.id⟩

/-- `instances`. -/
structure Instance where
  id : Nat
  baseUrl : String
  publicKey : String
  status : String
deriving DecidableEq, Repr

instance : Keyed Instance := ⟨Instance.id⟩

/-- `federation_agreements`. -/
structure FederationAgreement where
  id : Nat
  localServerId : Nat
  remoteInstanceId : Nat
  alignmentStatus : String
  transferScope : String
  agreementJson : JsonText VrpValidationReport
  remoteHandshakeJson : Option (JsonText VrpFederationHandshake)
  active : Bool
  createdAt : String
  updatedAt : String
deriving DecidableEq, Repr

instance : Keyed FederationAgreement := ⟨FederationAgreement.id⟩

/-- `federated_identities`. -/
structure FederatedIdentity where
  id : Nat
  serverId : Nat
  remoteInstanceId : Nat
  commitmentHex : String
  pseudonymId : String
  vrpTopic : String
  attestedAt : String
  rootHexAtVerification : Option String
  lastVerifiedAt : Option String
deriving DecidableEq, Repr

instance : Keyed FederatedIdentity := ⟨FederatedIdentity.id⟩

/-- `channels`. -/
structure ChannelRow where
  id : Nat
  serverId : Nat
  channelId : String
  name : String
  channelType : JsonText ChannelType
  topic : Option String
  vrpTopicBinding : Option String
  requiredCapabilitiesJson : Option String
  agentMinAlignment : Option (JsonText AlignmentStatus)
  retentionDays : Option Nat
  federationScope : JsonText FederationScope
  createdAt : String
deriving DecidableEq, Repr

instance : Keyed ChannelRow := ⟨ChannelRow.id⟩

instance : Keyed ChannelMember := ⟨ChannelMember.id⟩

instance : Keyed Message := ⟨Message.id⟩

instance : Keyed MessageEdit := ⟨MessageEdit.id⟩

/-- `rtx_bundles`. -/
structure RtxBundle where
  id : Nat
  serverId : Nat
  bundleId : String
  sourcePseudonym : String
  sourceServer : String
  domainTagsJson : JsonText (List String)
  summary : String
  reasoningChain : Option String
  caveatsJson : JsonText (List String)
  createdAtMs : Int
  signature : String
  vrpHandshakeRef : String
  provenanceJson : Option (JsonText BundleProvenance)
deriving DecidableEq, Repr

instance : Keyed RtxBundle := ⟨RtxBundle.id⟩

/-- `rtx_subscriptions`. -/
structure RtxSubscription where
  id : Nat
  serverId : Nat
  subscriberPseudonym : String
  domainFiltersJson : JsonText (List String)
  acceptFederated : Bool
deriving DecidableEq, Repr

instance : Keyed RtxSubscription := ⟨RtxSubscription.id⟩

/-- `rtx_transfer_log`. -/
structure RtxTransfer where
  id : Nat
  serverId : Nat
  bundleId : String
  sourcePseudonym : String
  destinationPseudonym : Option String
  transferScopeApplied : String
  redactionsApplied : Option String
  transferredAt : String
deriving DecidableEq, Repr

instance : Keyed RtxTransfer := ⟨RtxTransfer.id⟩

structure Database where
  vrpLeaves : Table VrpLeaf := Table.empty
  vrpRoots : Table VrpRoot := Table.empty
  vrpIdentities : Table VrpIdentity := Table.empty
  zkNullifiers : Table ZkNullifier := Table.empty
  servers : Table Server := Table.empty
  platformIdentities : Table PlatformIdentity := Table.empty
  graphNodes : Table GraphNode := Table.empty
  graphEdges : Table GraphEdge := Table.empty
  agentRegistrations : Table AgentRegistration := Table.empty
  publicEventLog : Table PublicEvent := Table.empty
  instances : Table Instance := Table.empty
  federationAgreements : Table FederationAgreement := Table.empty
  federatedIdentities : Table FederatedIdentity := Table.empty
  channels : Table ChannelRow := Table.empty
  channelMembers : Table ChannelMember := Table.empty
  messages : Table Message := Table.empty
  messageEdits : Table MessageEdit := Table.empty
  rtxBundles : Table RtxBundle := Table.empty
  rtxSubscriptions : Table RtxSubscription := Table.empty
  rtxTransferLog : Table RtxTransfer := Table.empty
deriving DecidableEq

/-- The database after the migrations, before any request. -/
def migrated : Database := {}

/-- The `servers` of a server with the default policy. -/
def singleServer : Table Server := Table.empty.insert fun id => ⟨id, .encoded ServerPolicy.default⟩

end Annex.Db
