import Annex.Foundation.JsonText
import Annex.Identity.Proof

namespace Annex.Federation

open Identity

/-- Request payload for cross-server identity attestation. -/
structure AttestationRequest where
  originatingServer : String
  topic : String
  commitment : String
  proof : JsonText SnarkJsProof
  participantType : String
  signature : String
deriving DecidableEq, Repr

/-- A message relayed from a federation peer. -/
structure FederatedMessageEnvelope where
  messageId : String
  channelId : String
  content : String
  senderPseudonym : String
  originatingServer : String
  attestationRef : String
  signature : String
  createdAt : String
deriving DecidableEq, Repr

end Annex.Federation
