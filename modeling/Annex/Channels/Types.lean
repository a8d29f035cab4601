import Annex.Types

namespace Annex.Channels

/-- Channel types. -/
inductive ChannelType where
  | text
  | voice
  | hybrid
  | agent
  | broadcast
deriving DecidableEq, Repr

/-- Federation scope of a channel. -/
inductive FederationScope where
  | localOnly
  | federated
deriving DecidableEq, Repr

/-- A communication channel, its columns of JSON decoded. -/
structure Channel where
  id : Nat
  serverId : Nat
  channelId : String
  name : String
  channelType : ChannelType
  topic : Option String
  vrpTopicBinding : Option String
  requiredCapabilitiesJson : Option String
  agentMinAlignment : Option AlignmentStatus
  retentionDays : Option Nat
  federationScope : FederationScope
  createdAt : String
deriving DecidableEq, Repr

/-- A message in a channel. -/
structure Message where
  id : Nat
  serverId : Nat
  channelId : String
  messageId : String
  senderPseudonym : String
  content : String
  replyToMessageId : Option String
  createdAt : String
  expiresAt : Option String
  editedAt : Option String
  deletedAt : Option String
deriving DecidableEq, Repr

/-- A historical edit of a message. -/
structure MessageEdit where
  id : Nat
  messageId : String
  oldContent : String
  editedAt : String
deriving DecidableEq, Repr

/-- A member of a channel. -/
structure ChannelMember where
  id : Nat
  serverId : Nat
  channelId : String
  pseudonymId : String
  role : String
  joinedAt : String
deriving DecidableEq, Repr

end Annex.Channels
