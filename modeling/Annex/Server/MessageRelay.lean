import Annex.Federation.Types
import Annex.Server.Channels
import Annex.Server.Join
import Annex.Server.Rtx

namespace Annex.Server

open Channels Db Federation Identity Sql

/-! Relaying a message of a federated channel to every peer, in the background. -/

/-- A message on its way to a peer. -/
structure RelayedMessage where
  url : String
  envelope : FederatedMessageEnvelope
deriving DecidableEq, Repr

/-- How a relayed message names its sender's commitment and topic. -/
def relayAttestationRef (found : Except DbError (Option (String × String))) : String :=
  match found with
  | .ok (some (commitment, topic)) => topic ++ ":" ++ commitment
  | _ => "annex:server:v1:unknown"

section Relay

variable {Fq Key : Type} (server : FederationServer Fq Key)

def relaySignatureInput (channelId : String) (message : Message)
    (attestationRef : String) : String :=
  String.intercalate "\n"
    [message.messageId, channelId, message.content, message.senderPseudonym,
      server.publicUrl, attestationRef, message.createdAt]

def relayEnvelope (channelId : String) (message : Message) (attestationRef : String) :
    FederatedMessageEnvelope where
  messageId := message.messageId
  channelId
  content := message.content
  senderPseudonym := message.senderPseudonym
  originatingServer := server.publicUrl
  attestationRef
  signature := Hex.encode (server.ed25519.sign
    (utf8 (relaySignatureInput server channelId message attestationRef)))
  createdAt := message.createdAt

/-- The relay gives up when the peers cannot be read or the HTTP client cannot be built; a
commitment that cannot be looked up is none. -/
def relayMessage (channelId : String) (message : Message) :
    Sql Database (List RelayedMessage) DbError Unit := do
  connect id
  let peers ← query id fun database => .ok (relayPeers server database)
  let found ← attempt
    (findCommitmentForPseudonym server.environment message.senderPseudonym)
  if peers = [] then
    pure ()
  else do
    connect id
    let envelope := relayEnvelope server channelId message (relayAttestationRef found)
    remember fun sent =>
      sent ++ (peers.filter (·.transferScope ≠ "NO_TRANSFER")).map fun peer =>
        ⟨peer.baseUrl ++ "/api/federation/messages", envelope⟩

end Relay

/-! What the reference says: the pair a sender was verified under. -/

/-- The pseudonym was verified under the commitment and the topic, and under no other
pair: by the lookup columns of a row or, in a row of before, by its nullifier. -/
structure VerifiedUnder (environment : Environment) (pseudonymId commitment topic : String)
    (database : Database) : Prop where
  derived : deriveTopicScopedPseudonym environment commitment topic = .ok pseudonymId
  recorded : (∃ row ∈ database.zkNullifiers.rows, row.pseudonymId = some pseudonymId ∧
      row.commitmentHex ≠ none) ∨
    ∃ row ∈ database.zkNullifiers.rows, row.pseudonymId = none ∧ row.topic = topic ∧
      deriveNullifierHex environment commitment topic = .ok row.nullifierHex ∧
      ∃ identity ∈ database.vrpIdentities.rows, identity.commitmentHex = commitment
  columns : ∀ row ∈ database.zkNullifiers.rows, row.pseudonymId = some pseudonymId →
    ∀ other, row.commitmentHex = some other → other = commitment ∧ row.topic = topic
  nullifiers : ∀ row ∈ database.zkNullifiers.rows, row.pseudonymId = none →
    ∀ identity ∈ database.vrpIdentities.rows,
      deriveNullifierHex environment identity.commitmentHex row.topic =
        .ok row.nullifierHex →
      derivePseudonymId environment row.topic row.nullifierHex = .ok pseudonymId →
        identity.commitmentHex = commitment ∧ row.topic = topic

section Reference

variable {environment : Environment} {pseudonymId commitment topic : String}
  {database : Database}

theorem derivesNullifier_iff {row : ZkNullifier} {other : String} :
    derivesNullifier environment row other = true ↔
      deriveNullifierHex environment other row.topic = .ok row.nullifierHex := by
  unfold derivesNullifier
  cases deriveNullifierHex environment other row.topic <;> simp

theorem derivesPseudonym_iff {row : ZkNullifier} :
    derivesPseudonym environment pseudonymId row = true ↔
      derivePseudonymId environment row.topic row.nullifierHex = .ok pseudonymId := by
  unfold derivesPseudonym
  cases derivePseudonymId environment row.topic row.nullifierHex <;> simp

theorem VerifiedUnder.derivesPseudonym {row : ZkNullifier}
    (verified : VerifiedUnder environment pseudonymId commitment topic database)
    (sameTopic : row.topic = topic)
    (nullifier : deriveNullifierHex environment commitment topic = .ok row.nullifierHex) :
    derivesPseudonym environment pseudonymId row = true := by
  have derived := verified.derived
  rw [deriveTopicScopedPseudonym, nullifier] at derived
  rw [derivesPseudonym_iff, sameTopic]
  exact derived

/-- Of the rows of before, the candidates derive the pair and no other. -/
theorem VerifiedUnder.findSome?_candidates {row : ZkNullifier} {identity : VrpIdentity}
    (verified : VerifiedUnder environment pseudonymId commitment topic database)
    (member : row ∈ database.zkNullifiers.rows) (unset : row.pseudonymId = none)
    (sameTopic : row.topic = topic)
    (nullifier : deriveNullifierHex environment commitment topic = .ok row.nullifierHex)
    (registered : identity ∈ database.vrpIdentities.rows)
    (sameCommitment : identity.commitmentHex = commitment) :
    ((database.zkNullifiers.rows.filter fun row =>
        row.pseudonymId = none && Server.derivesPseudonym environment pseudonymId row).findSome?
      fun row => ((database.vrpIdentities.rows.map VrpIdentity.commitmentHex).find?
        (derivesNullifier environment row)).map fun commitment => (commitment, row.topic)) =
      some (commitment, topic) := by
  have candidate : row ∈ database.zkNullifiers.rows.filter fun row =>
      row.pseudonymId = none && Server.derivesPseudonym environment pseudonymId row := by
    simp [member, unset, verified.derivesPseudonym sameTopic nullifier]
  have known : commitment ∈ database.vrpIdentities.rows.map VrpIdentity.commitmentHex :=
    List.mem_map.mpr ⟨identity, registered, sameCommitment⟩
  have derives : derivesNullifier environment row commitment = true := by
    rw [derivesNullifier_iff, sameTopic]
    exact nullifier
  cases found : (database.zkNullifiers.rows.filter fun row =>
        row.pseudonymId = none && Server.derivesPseudonym environment pseudonymId row).findSome?
      fun row => ((database.vrpIdentities.rows.map VrpIdentity.commitmentHex).find?
        (derivesNullifier environment row)).map fun commitment => (commitment, row.topic) with
  | none =>
      have missing := List.findSome?_eq_none_iff.mp found row candidate
      rw [Option.map_eq_none_iff, List.find?_eq_none] at missing
      exact absurd derives (missing commitment known)
  | some pair =>
      rcases List.exists_of_findSome?_eq_some found with ⟨other, otherCandidate, named⟩
      rcases Option.map_eq_some_iff.mp named with ⟨otherCommitment, looked, rfl⟩
      simp only [List.mem_filter, Bool.and_eq_true, decide_eq_true_eq,
        derivesPseudonym_iff] at otherCandidate
      rcases List.mem_map.mp (List.mem_of_find?_eq_some looked) with
        ⟨otherIdentity, otherRegistered, rfl⟩
      have same := verified.nullifiers other otherCandidate.1 otherCandidate.2.1 otherIdentity
        otherRegistered (derivesNullifier_iff.mp (List.find?_some looked)) otherCandidate.2.2
      rw [same.1, same.2]

/-- The lookup finds the pair. -/
theorem VerifiedUnder.answers {Memory : Type} {memory : Memory}
    (verified : VerifiedUnder environment pseudonymId commitment topic database) :
    Answers (findCommitmentForPseudonym environment pseudonymId) database memory
      (some (commitment, topic)) := by
  unfold findCommitmentForPseudonym
  refine (answers_bind (looks_query _ _)).mpr ⟨_, answers_query.mpr rfl, ?_⟩
  cases fast : database.zkNullifiers.rows.findSome? fun row =>
      if row.pseudonymId = some pseudonymId then
        row.commitmentHex.map fun commitment => (commitment, row.topic)
      else none with
  | some found =>
      rcases List.exists_of_findSome?_eq_some fast with ⟨row, member, columns⟩
      split at columns
      · next named =>
        rcases Option.map_eq_some_iff.mp columns with ⟨other, stored, rfl⟩
        rcases verified.columns row member named other stored with ⟨rfl, sameTopic⟩
        rw [answers_pure, sameTopic]
      · cases columns
  | none =>
      have unnamed := List.findSome?_eq_none_iff.mp fast
      rcases verified.recorded with ⟨row, member, named, stored⟩ |
        ⟨row, member, unset, sameTopic, nullifier, identity, registered, sameCommitment⟩
      · have missing := unnamed row member
        rw [if_pos named, Option.map_eq_none_iff] at missing
        exact absurd missing stored
      · have pair := verified.findSome?_candidates member unset sameTopic nullifier registered
          sameCommitment
        refine (answers_bind (looks_query _ _)).mpr ⟨_, answers_query.mpr rfl, ?_⟩
        split
        · next empty =>
          rw [empty] at pair
          cases pair
        · refine (answers_bind (looks_query _ _)).mpr ⟨_, answers_query.mpr rfl, ?_⟩
          exact answers_pure.mpr pair

/-- What the derivation of a pseudonym asks of its commitment and its topic. -/
theorem derivable_of_derived
    (derived : deriveTopicScopedPseudonym environment commitment topic = .ok pseudonymId) :
    topic ≠ "" ∧ isLowerHex64 commitment = true := by
  unfold deriveTopicScopedPseudonym deriveNullifierHex at derived
  split at derived
  · cases derived
  · next nullifierHex nullifier =>
    split at nullifier
    · cases nullifier
    · split at nullifier
      · cases nullifier
      · next named =>
        split at nullifier
        · cases nullifier
        · next lower => exact ⟨named, Bool.of_not_eq_false lower⟩

theorem colon_notMem_of_isLowerHex64 (lower : isLowerHex64 commitment = true) :
    commitment.toList ≠ [] ∧ ':' ∉ commitment.toList := by
  simp only [isLowerHex64, Bool.and_eq_true, decide_eq_true_eq] at lower
  constructor
  · intro empty
    simp [empty] at lower
  · intro member
    exact absurd (List.all_eq_true.mp lower.2 ':' member) (by decide)

/-- The reference is read back, whatever characters the topic has. -/
theorem parseAttestationRef_relayed (named : topic ≠ "")
    (lower : isLowerHex64 commitment = true) :
    parseAttestationRef (topic ++ ":" ++ commitment) = .ok (commitment, topic) := by
  rcases colon_notMem_of_isLowerHex64 lower with ⟨nonempty, plain⟩
  have reversed : (topic ++ ":" ++ commitment).toList.reverse =
      commitment.toList.reverse ++ ':' :: topic.toList.reverse := by
    simp
  have before : ∀ character ∈ commitment.toList.reverse,
      decide (character ≠ ':') = true := by
    intro character member
    refine decide_eq_true fun colon => plain ?_
    rw [← colon]
    exact List.mem_reverse.mp member
  have taken : (commitment.toList.reverse ++ ':' :: topic.toList.reverse).takeWhile
      (fun character => decide (character ≠ ':')) = commitment.toList.reverse := by
    rw [List.takeWhile_append_of_pos before]
    simp
  have dropped : (commitment.toList.reverse ++ ':' :: topic.toList.reverse).dropWhile
      (fun character => decide (character ≠ ':')) = ':' :: topic.toList.reverse := by
    rw [List.dropWhile_append_of_pos before]
    simp
  have topicNonempty : topic.toList.reverse ≠ [] := by
    simpa using named
  unfold parseAttestationRef
  simp only [reversed, taken, dropped, List.reverse_reverse]
  rw [if_pos ⟨topicNonempty, nonempty⟩, String.ofList_toList, String.ofList_toList]

end Reference

section Relayed

variable {Fq Key : Type} {server : FederationServer Fq Key} {database : Database}
  {channelId : String} {message : Message}

/-- With nothing failing, every peer whose agreement permits transfers is sent the same
envelope. -/
theorem relayMessage_achieves {commitment topic : String}
    (verified : VerifiedUnder server.environment message.senderPseudonym commitment topic
      database) :
    Achieves (relayMessage server channelId message) database [] fun _ _ after =>
      after = ((relayPeers server database).filter (·.transferScope ≠ "NO_TRANSFER")).map
        fun peer => ⟨peer.baseUrl ++ "/api/federation/messages",
          relayEnvelope server channelId message (topic ++ ":" ++ commitment)⟩ := by
  apply (connect_answers _).achieves_bind
  refine Answers.achieves_bind (answers_query.mpr rfl) ?_
  refine achieves_bind (achieves_attempt verified.answers ?_)
  split
  · next empty => exact achieves_pure (by rw [empty]; rfl)
  · apply (connect_answers _).achieves_bind
    exact achieves_remember (List.nil_append _)

end Relayed

end Annex.Server
