import Annex.Server.MessageReceipt

namespace Annex.Server

open Channels Db Federation Identity Sql

/-! The check for stale attestations, between two servers of this program. -/

variable {Fq Key : Type}

def staleError : FederationError := .forbidden "attestation stale, re-verification required"

/-- The sender's attestation recorded a root, and the origin, running this program, answers
with another one. -/
structure StaleSituation (server : FederationServer Fq Key)
    (envelope : FederatedMessageEnvelope) (database : Database) (tree : MerkleTree Fr)
    (response : GetRootResponse) (root : String) : Prop where
  attested : ∃ remote commitmentHex topic identity,
    findInstance envelope.originatingServer database = some remote ∧
      parseAttestationRef envelope.attestationRef = .ok (commitmentHex, topic) ∧
      findAttested remote.id commitmentHex database = some identity ∧
      identity.rootHexAtVerification = some root
  recorded : root ≠ ""
  replied : ∃ session, (getVrpRootHandler tree session).1 = .ok response
  answered : server.get (envelope.originatingServer ++ "/api/federation/vrp-root") =
    .ok (HttpResponse.json response.toJson)
  changed : response.rootHex ≠ root

/-- The message is refused as stale, and nothing is stored or broadcast. -/
def RefusesStale (server : FederationServer Fq Key) (envelope : FederatedMessageEnvelope)
    (session : Session Database (List Outbound)) : Prop :=
  (receiveFederatedMessageHandler server envelope session).1 = .error staleError ∧
    (receiveFederatedMessageHandler server envelope session).2.database =
      session.database ∧
    (receiveFederatedMessageHandler server envelope session).2.memory = session.memory

section Stale

variable {server : FederationServer Fq Key} {envelope : FederatedMessageEnvelope}
  {response : GetRootResponse}

/-- The root is looked for under a name it is not sent under. -/
theorem currentRemoteRoot_of_answered {origin : String}
    (answered : server.get (origin ++ "/api/federation/vrp-root") =
      .ok (HttpResponse.json response.toJson)) :
    currentRemoteRoot server origin = .error "missing root_hex in response" := by
  unfold currentRemoteRoot
  rw [answered]
  rfl

theorem attestationStale_of_answered {origin : String}
    (answered : server.get (origin ++ "/api/federation/vrp-root") =
      .ok (HttpResponse.json response.toJson)) (root : String) :
    attestationStale server origin root = false := by
  rw [attestationStale, currentRemoteRoot_of_answered answered]
  simp

/-- Other refusals have other texts. -/
theorem forbidden_ne_stale {text : String} (other : text.toList.head? ≠ some 'a') :
    FederationError.forbidden text ≠ staleError := by
  rintro ⟨⟩
  exact other rfl

theorem failsWith_resolveFederatedInstance (origin : String) :
    FailsWith (· ≠ staleError) (resolveFederatedInstance origin) := by
  refine failsWith_bind (failsWith_query (by simp [staleError]) ?_) fun remote =>
    failsWith_bind (failsWith_check fun _ => forbidden_ne_stale (by simp)) fun _ =>
    failsWith_bind (failsWith_query (by simp [staleError]) (by simp)) fun _ =>
    failsWith_bind (failsWith_check fun _ => forbidden_ne_stale (by simp)) fun _ =>
    failsWith_pure
  intro database error refused
  split
  · simp [staleError]
  · simp [staleError]

theorem verifySignature_error {publicKeyHex signatureHex text : String}
    {error : FederationError}
    (refused : verifySignature server publicKeyHex signatureHex text = .error error) :
    ∃ reason, error = .invalidSignature reason := by
  unfold verifySignature decodeHex at refused
  cases publicKey : Hex.decode publicKeyHex with
  | none =>
      simp only [publicKey] at refused
      cases refused
      exact ⟨_, rfl⟩
  | some publicKeyBytes =>
      cases signature : Hex.decode signatureHex with
      | none =>
          simp only [publicKey, signature] at refused
          cases refused
          exact ⟨_, rfl⟩
      | some signatureBytes =>
          simp only [publicKey, signature, bind, Except.bind] at refused
          split at refused
          · cases refused
            exact ⟨_, rfl⟩
          · split at refused
            · cases refused
              exact ⟨_, rfl⟩
            · split at refused
              · cases refused
                exact ⟨_, rfl⟩
              · cases verified : server.ed25519.verify publicKeyBytes (utf8 text)
                    signatureBytes with
                | ok done => simp [verified, Except.mapError] at refused
                | error reason =>
                    simp only [verified, Except.mapError] at refused
                    cases refused
                    exact ⟨reason, rfl⟩

theorem parseAttestationRef_error {attestationRef : String} {error : FederationError}
    (refused : parseAttestationRef attestationRef = .error error) :
    error = .forbidden "Invalid attestation ref format" := by
  unfold parseAttestationRef at refused
  dsimp only at refused
  split at refused
  · split at refused
    · cases refused
    · exact (Except.error.inj refused).symm
  · exact (Except.error.inj refused).symm

/-- With the origin's own answer no step refuses a message as stale. -/
theorem failsWith_checkFederatedMessage
    (answered : server.get (envelope.originatingServer ++ "/api/federation/vrp-root") =
      .ok (HttpResponse.json response.toJson)) :
    FailsWith (· ≠ staleError) (checkFederatedMessage server envelope) := by
  refine failsWith_bind (failsWith_connect (by simp [staleError])) fun _ =>
    failsWith_bind (failsWith_resolveFederatedInstance _) fun remote =>
    failsWith_bind (failsWith_ofExcept ?_) fun _ =>
    failsWith_bind (failsWith_ofExcept ?_) fun _ =>
    failsWith_bind (failsWith_query (by simp [staleError]) ?_) fun identity =>
    failsWith_bind (failsWith_check ?_) fun _ =>
    failsWith_bind (failsWith_mapErr fun _ _ _ => nofun) fun channel =>
    failsWith_bind (failsWith_check fun _ => forbidden_ne_stale (by simp)) fun _ =>
    failsWith_bind (failsWith_mapErr fun _ _ _ => nofun) fun isMember =>
    failsWith_bind (failsWith_check fun _ => forbidden_ne_stale (by simp)) fun _ =>
    failsWith_pure
  · intro error refused
    rcases verifySignature_error refused with ⟨reason, rfl⟩
    simp [staleError]
  · intro error refused
    rw [parseAttestationRef_error refused]
    exact forbidden_ne_stale (by decide)
  · intro database error refused
    split
    · exact forbidden_ne_stale (by simp)
    · simp [staleError]
  · intro stale
    exact absurd (attestationStale_of_answered answered _) stale

theorem failsWith_receiveFederatedMessageHandler
    (answered : server.get (envelope.originatingServer ++ "/api/federation/vrp-root") =
      .ok (HttpResponse.json response.toJson)) :
    FailsWith (· ≠ staleError) (receiveFederatedMessageHandler server envelope) := by
  refine failsWith_bind (failsWith_checkFederatedMessage answered) fun pseudonymId =>
    failsWith_bind (failsWith_bind failsWith_attempt fun outcome => ?_) fun inserted => ?_
  · split
    · exact failsWith_pure
    · exact failsWith_pure
    · exact failsWith_fail (by simp [staleError])
  · cases inserted with
    | some message => exact failsWith_send
    | none => exact failsWith_pure

end Stale

/-- No stale attestation is refused, whatever the two servers hold and whatever statements
fail. -/
theorem stale_never_refused (server : FederationServer Fq Key)
    (envelope : FederatedMessageEnvelope) (tree : MerkleTree Fr)
    (response : GetRootResponse) (root : String)
    (session : Session Database (List Outbound))
    (stale : StaleSituation server envelope session.database tree response root) :
    ¬ RefusesStale server envelope session :=
  fun refuses =>
    failsWith_receiveFederatedMessageHandler stale.answered session _ refuses.1 rfl

section Sample

/-! A peer whose tree has another root than at the attestation. -/

def emptyTree : MerkleTree Fr := MerkleTree.new (fun left _ => left) 1

def emptyTreeResponse : GetRootResponse := ⟨emptyTree.rootHex, 0, none⟩

def answeringServer : FederationServer Unit Unit :=
  { receivingServer with get := fun _ => .ok (HttpResponse.json emptyTreeResponse.toJson) }

def rootedDatabase : Database :=
  { receivingDatabase with
    federatedIdentities := Table.empty.insert fun id =>
      { attestedIdentity id "alpha" "first pseudonym" with
        rootHexAtVerification := some peerKey } }

theorem staleSituation_sample :
    StaleSituation answeringServer (relayedMessage "alpha:c0ffee") rootedDatabase emptyTree
      emptyTreeResponse peerKey where
  attested := ⟨⟨1, "https://peer.example", peerKey, "ACTIVE"⟩, "c0ffee", "alpha",
    { attestedIdentity 1 "alpha" "first pseudonym" with
      rootHexAtVerification := some peerKey }, by decide +kernel⟩
  recorded := by decide
  replied := ⟨⟨migrated, [], []⟩, rfl⟩
  answered := rfl
  changed := by decide +kernel

theorem stale_never_refused_sample :
    ¬ RefusesStale answeringServer (relayedMessage "alpha:c0ffee")
      ⟨rootedDatabase, [], []⟩ :=
  stale_never_refused answeringServer (relayedMessage "alpha:c0ffee") emptyTree
    emptyTreeResponse peerKey ⟨rootedDatabase, [], []⟩ staleSituation_sample

/-- The message of the stale attestation is stored and broadcast. -/
theorem stale_message_stored :
    ¬ ∀ (server : FederationServer Unit Unit) (envelope : FederatedMessageEnvelope)
      (tree : MerkleTree Fr) (response : GetRootResponse) (root : String)
      (session : Session Database (List Outbound)),
        StaleSituation server envelope session.database tree response root →
          RefusesStale server envelope session := by
  intro refuses
  have unchanged := (refuses answeringServer (relayedMessage "alpha:c0ffee") emptyTree
    emptyTreeResponse peerKey ⟨rootedDatabase, [], []⟩ staleSituation_sample).2
  have stored : (receiveFederatedMessageHandler answeringServer
      (relayedMessage "alpha:c0ffee") ⟨rootedDatabase, [], []⟩).2.database ≠
        rootedDatabase := by decide +kernel
  exact stored unchanged.1

end Sample

end Annex.Server
