import Annex.Server.FederationCorrectness

namespace Annex.Server

open Db Federation Rtx Sql Vrp

/-! What the signature of a relay envelope says of the bundle inside. -/

variable {Fq Key : Type}

/-- A signature verifies for at most one message under a key. -/
def VerifiesOnce (ed25519 : Ed25519) : Prop :=
  ∀ publicKey signature message other, ed25519.verify publicKey message signature = .ok () →
    ed25519.verify publicKey other signature = .ok () → message = other

/-- The handler answers the envelope and stores its bundle. -/
def Accepts (server : FederationServer Fq Key) (envelope : FederatedRtxEnvelope)
    (database : Database) : Prop :=
  ∃ faults delivered after,
    receiveFederatedRtxHandler server envelope ⟨database, [], faults⟩ = (.ok delivered, after) ∧
      after.database ≠ database

/-- The key the signature of the envelope is checked with. -/
def relayingKey (envelope : FederatedRtxEnvelope) (database : Database) : Option String :=
  (findInstance envelope.relayingServer database).map Instance.publicKey

/-- The bundles agree on what is stored and delivered of their contents. -/
structure SameContent (left right : ReflectionSummaryBundle) : Prop where
  sourcePseudonym : left.sourcePseudonym = right.sourcePseudonym
  sourceServer : left.sourceServer = right.sourceServer
  domainTags : left.domainTags = right.domainTags
  summary : left.summary = right.summary
  reasoningChain : left.reasoningChain = right.reasoningChain
  caveats : left.caveats = right.caveats
  createdAt : left.createdAt = right.createdAt

/-- The bundle with one more letter in its summary. -/
def extended (bundle : ReflectionSummaryBundle) : ReflectionSummaryBundle :=
  { bundle with summary := bundle.summary ++ "x" }

variable {server : FederationServer Fq Key} {envelope : FederatedRtxEnvelope}
  {database : Database}

theorem accepts_iff : Accepts server envelope database ↔
    RtxAdmissible server envelope database := by
  constructor
  · intro accepted
    rcases accepted with ⟨faults, delivered, after, ran, different⟩
    apply (@receiveFederatedRtxHandler_mayChange _ _ server database [] envelope).mp
    exact ⟨faults, by rw [ran]; exact different⟩
  · intro admissible
    rcases @receiveFederatedRtxHandler_achieves _ _ server database [] envelope admissible with
      ⟨delivered, changed, after, ran, different⟩
    exact ⟨[], delivered, _, ran, different⟩

/-- Any other bundle of the same id that can be delivered is accepted in the place of one that
is. -/
theorem accepts_replaced (accepted : Accepts server envelope database)
    {bundle : ReflectionSummaryBundle} (wellFormed : WellFormed bundle)
    (deliverable : Deliverable bundle (federatedSubscribers server database))
    (same : bundle.bundleId = envelope.bundle.bundleId) :
    Accepts server { envelope with bundle } database := by
  rw [accepts_iff] at accepted ⊢
  rcases accepted with ⟨⟨remote, scope, admitted⟩, fresh, known, -⟩
  constructor
  · refine ⟨remote, scope, { admitted with signed := ?_, wellFormed := wellFormed }⟩
    rw [same]
    exact admitted.signed
  · refine ⟨?_, known, deliverable⟩
    rw [same]
    exact fresh

/-- The signature of an accepted envelope binds none of the contents: every well-formed
bundle of the same id whose timestamp fits is accepted under it. -/
theorem signature_never_binds (server : FederationServer Fq Key)
    (envelope : FederatedRtxEnvelope) (database : Database)
    (accepted : Accepts server envelope database) :
    (∀ bundle, WellFormed bundle → fitsJson bundle = true →
      bundle.bundleId = envelope.bundle.bundleId →
        Accepts server { envelope with bundle } database) ∧
    ¬ ∀ other, Accepts server other database → other.signature = envelope.signature →
      relayingKey other database = relayingKey envelope database →
        SameContent envelope.bundle other.bundle := by
  constructor
  · exact fun bundle wellFormed fits same =>
      accepts_replaced accepted wellFormed (Or.inl fits) same
  · intro binds
    rcases accepts_iff.mp accepted with ⟨⟨remote, scope, admitted⟩, -, -, deliverable⟩
    have wellFormed : WellFormed (extended envelope.bundle) :=
      { admitted.wellFormed with
        summary := by simp [extended] }
    have tags : (extended envelope.bundle).domainTags = envelope.bundle.domainTags := rfl
    have other := accepts_replaced accepted wellFormed
      ((deliverable_congr tags rfl).mpr deliverable) rfl
    have same := binds _ other rfl rfl
    have lengths := congrArg String.length same.summary
    rw [extended, String.length_append] at lengths
    exact absurd lengths (by simp)

section Sample

/-- The public key the peer is known under. -/
def paddingKey : String := String.ofList (List.replicate 64 '0')

/-- A scheme in which a signature is the message, filled up with zeros to 64 bytes. -/
def paddingScheme : Ed25519 where
  keyError _ := none
  verify _ message signature :=
    if signature.filter (· ≠ 0) = message then .ok () else .error "invalid signature"
  sign message := message ++ List.replicate (64 - message.length) 0

def boundServer : FederationServer Unit Unit where
  environment := Environment.sample fun _ => []
  ed25519 := paddingScheme
  get := fun _ => .error "offline"
  curve := ⟨fun _ => none, fun _ => none, fun _ => false, fun _ => false,
    fun _ _ _ => .ok false⟩
  membershipVkey := ()
  serverId := 1
  publicUrl := "https://here"
  clock := ⟨"2026-01-01 00:00:00", fun _ => none, 0⟩

def relayDatabase : Database :=
  { migrated with
    servers := singleServer
    instances := Table.empty.insert fun id => ⟨id, "https://peer", paddingKey, "ACTIVE"⟩
    federationAgreements := Table.empty.insert fun id =>
      ⟨id, 1, 1, "ALIGNED", "FULL_KNOWLEDGE_BUNDLE", .malformed "", none, true, "", ""⟩ }

/-- The peer relays the summary under the signature of its bundle id. -/
def relayOf (summary : String) : FederatedRtxEnvelope where
  bundle := ⟨"b-1", "agent", "https://peer", [], summary, none, [], 1, "sig", "ref"⟩
  provenance := ⟨"https://peer", ["https://peer"], "b-1"⟩
  relayingServer := "https://peer"
  signature := Hex.encode (paddingScheme.sign (utf8
    (rtxRelaySigningPayload "b-1" "https://peer" "https://peer" ["https://peer"])))

theorem verifiesOnce_paddingScheme : VerifiesOnce paddingScheme := by
  intro publicKey signature message other verified otherVerified
  have once {text : List Byte} (holds : paddingScheme.verify publicKey text signature = .ok ()) :
      signature.filter (· ≠ 0) = text := by
    by_contra different
    have refused : paddingScheme.verify publicKey text signature =
        .error "invalid signature" := if_neg different
    rw [refused] at holds
    cases holds
  rw [← once verified, once otherVerified]

theorem admitted_relayOf_first : RtxAdmitted boundServer (relayOf "first") relayDatabase
    ⟨1, "https://peer", paddingKey, "ACTIVE"⟩ .fullKnowledgeBundle where
  known := by decide +kernel
  active := by decide
  acyclic := by decide
  originKnown := by decide +kernel
  agreed := by decide +kernel
  permitted := by decide
  signed := by decide +kernel
  wellFormed := validateBundleStructure_ok_iff.mp (by decide)

theorem accepts_relayOf_first : Accepts boundServer (relayOf "first") relayDatabase := by
  rw [accepts_iff]
  exact ⟨⟨_, _, admitted_relayOf_first⟩, by decide +kernel, by decide +kernel,
    Or.inl (by decide)⟩

theorem signature_never_binds_relayOf :
    (∀ bundle, WellFormed bundle → fitsJson bundle = true →
      bundle.bundleId = (relayOf "first").bundle.bundleId →
        Accepts boundServer { relayOf "first" with bundle } relayDatabase) ∧
    ¬ ∀ other, Accepts boundServer other relayDatabase →
      other.signature = (relayOf "first").signature →
      relayingKey other relayDatabase = relayingKey (relayOf "first") relayDatabase →
        SameContent (relayOf "first").bundle other.bundle :=
  signature_never_binds boundServer (relayOf "first") relayDatabase accepts_relayOf_first

/-- Two summaries are accepted under one signature. -/
theorem not_signature_binds :
    ¬ ∀ (server : FederationServer Unit Unit) (database otherDatabase : Database)
      (envelope other : FederatedRtxEnvelope), VerifiesOnce server.ed25519 →
      Accepts server envelope database → Accepts server other otherDatabase →
      other.signature = envelope.signature →
      relayingKey other otherDatabase = relayingKey envelope database →
        SameContent envelope.bundle other.bundle := by
  intro binds
  have second : Accepts boundServer (relayOf "second") relayDatabase := by
    have wellFormed : WellFormed (relayOf "second").bundle :=
      validateBundleStructure_ok_iff.mp (by decide)
    exact accepts_replaced accepts_relayOf_first wellFormed (Or.inl (by decide)) rfl
  have same := binds boundServer relayDatabase relayDatabase (relayOf "first")
    (relayOf "second") verifiesOnce_paddingScheme accepts_relayOf_first second rfl rfl
  exact absurd same.summary (by decide)

end Sample

end Annex.Server
