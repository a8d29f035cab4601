import Annex.Rtx.Delivery
import Annex.Server.RtxScope

namespace Annex.Server

open Db Rtx Sql Vrp

/-! What a publish with no statement failing does: the bundles that are accepted, what is
stored of them, and who gets a copy. -/

variable {Fq Key : Type}

/-- The lesser of two transfer scopes. -/
def lesserScope (left right : VrpTransferScope) : VrpTransferScope :=
  if left.rank ≤ right.rank then left else right

section Specification

variable (server : FederationServer Fq Key)

/-- What the rows of a server's database keep: its keys are unique, a registration refers to
a server, and the contracts can be read. -/
structure PublishTables (database : Database) : Prop where
  unique : UniqueRows database
  references : ∀ row ∈ database.agentRegistrations.rows,
    database.servers.rows.any (·.id = row.serverId) = true
  readable : ∀ row ∈ database.agentRegistrations.rows,
    row.capabilityContractJson.decode ≠ none

/-- The bundle is one to be accepted, from a sender with the given scope. -/
structure Acceptable (pseudonymId : String) (bundle : ReflectionSummaryBundle)
    (database : Database) (scope : VrpTransferScope) : Prop where
  valid : validateBundleStructure bundle = .ok ()
  own : pseudonymId = bundle.sourcePseudonym
  here : bundle.sourceServer = server.publicUrl
  registered : ∃ row ∈ database.agentRegistrations.rows, row.serverId = server.serverId ∧
    row.pseudonymId = pseudonymId ∧ row.active = true ∧
      VrpTransferScope.parse row.transferScope = some scope ∧
      ∃ contract, row.capabilityContractJson.decode = some contract ∧
        ∀ tag ∈ bundle.domainTags, tag ∉ contract.redactedTopics
  permitted : VrpTransferScope.reflectionSummariesOnly.rank ≤ scope.rank

/-- The other active agents the bundle is to reach, with their own scopes. -/
def OtherRecipient (bundle : ReflectionSummaryBundle) (database : Database) :
    String → VrpTransferScope → Prop :=
  Recipient server.serverId (fun row => row.subscriberPseudonym ≠ bundle.sourcePseudonym)
    bundle database

/-- The row holds what is stored of a bundle that was published here. -/
structure Holds (bundle : ReflectionSummaryBundle) (row : RtxBundle) : Prop where
  serverId : row.serverId = server.serverId
  bundleId : row.bundleId = bundle.bundleId
  sourcePseudonym : row.sourcePseudonym = bundle.sourcePseudonym
  sourceServer : row.sourceServer = bundle.sourceServer
  domainTags : row.domainTagsJson.decode = some bundle.domainTags
  summary : row.summary = bundle.summary
  reasoningChain : row.reasoningChain = bundle.reasoningChain
  caveats : row.caveatsJson.decode = some bundle.caveats
  createdAt : row.createdAtMs = asI64 bundle.createdAt
  signature : row.signature = bundle.signature
  vrpHandshakeRef : row.vrpHandshakeRef = bundle.vrpHandshakeRef
  provenance : row.provenanceJson = none

/-- One more row is stored: what the sender's scope leaves of the bundle. -/
def OneMore (bundle : ReflectionSummaryBundle) (scope : VrpTransferScope)
    (database changed : Database) : Prop :=
  ∃ storedBundle row, enforceTransferScope bundle scope = .ok storedBundle ∧
    Holds server storedBundle row ∧
      changed.rtxBundles.rows = database.rtxBundles.rows ++ [row]

/-- Each recipient is handed one copy, limited to the lesser scope, and nobody else is. -/
def HandedOut (bundle : ReflectionSummaryBundle) (scope : VrpTransferScope)
    (database : Database) (sent : List Outbound) : Prop :=
  ∃ copies : List (String × ReflectionSummaryBundle),
    sent = copies.map (fun copy => .rtxBundle copy.1 copy.2 none) ∧
    (copies.map Prod.fst).Nodup ∧
    ∀ pseudonym copy, (pseudonym, copy) ∈ copies ↔
      ∃ other, OtherRecipient server bundle database pseudonym other ∧
        enforceTransferScope bundle (lesserScope scope other) = .ok copy

/-- The delivery specification of a publish with no statement failing. -/
structure MeetsSpecification (pseudonymId : String) (bundle : ReflectionSummaryBundle)
    (database : Database) : Prop where
  accepted : (∃ delivered, (publishHandler server pseudonymId bundle ⟨database, [], []⟩).1 =
      .ok delivered) ↔ ∃ scope, Acceptable server pseudonymId bundle database scope
  carriedOut : ∀ delivered,
    (publishHandler server pseudonymId bundle ⟨database, [], []⟩).1 = .ok delivered →
      ∃ scope, Acceptable server pseudonymId bundle database scope ∧
        OneMore server bundle scope database
          (publishHandler server pseudonymId bundle ⟨database, [], []⟩).2.database ∧
        HandedOut server bundle scope database
          (publishHandler server pseudonymId bundle ⟨database, [], []⟩).2.memory
  refused : ∀ error,
    (publishHandler server pseudonymId bundle ⟨database, [], []⟩).1 = .error error →
      (publishHandler server pseudonymId bundle ⟨database, [], []⟩).2.database = database ∧
        (publishHandler server pseudonymId bundle ⟨database, [], []⟩).2.memory = []

end Specification

variable {server : FederationServer Fq Key} {database : Database} {pseudonymId : String}
  {bundle storedBundle : ReflectionSummaryBundle} {scope : VrpTransferScope}

theorem checkRedactedTopics_ok_iff {redactedTopics : List String} :
    checkRedactedTopics bundle redactedTopics = .ok () ↔
      ∀ tag ∈ bundle.domainTags, tag ∉ redactedTopics := by
  unfold checkRedactedTopics
  cases found : bundle.domainTags.find? (redactedTopics.contains ·) with
  | none =>
      rw [List.find?_eq_none] at found
      simpa only [List.contains_iff_mem, true_iff] using found
  | some tag =>
      apply iff_of_false
      · intro ok
        cases ok
      · intro allowed
        have redacted := List.find?_some found
        rw [List.contains_iff_mem] at redacted
        exact allowed tag (List.mem_of_find?_eq_some found) redacted

/-- An agent has one registration with a server. -/
theorem findRegistration_iff (unique : UniqueRows database) {row : AgentRegistration} :
    findRegistration server pseudonymId database = some row ↔
      row ∈ database.agentRegistrations.rows ∧ row.serverId = server.serverId ∧
        row.pseudonymId = pseudonymId ∧ row.active = true := by
  unfold findRegistration
  constructor
  · intro found
    have selected := List.find?_some found
    simp only [Bool.and_eq_true, decide_eq_true_eq] at selected
    exact ⟨List.mem_of_find?_eq_some found, selected.1.1, selected.1.2, selected.2⟩
  · intro registered
    rcases registered with ⟨member, here, named, active⟩
    cases found : database.agentRegistrations.rows.find? fun row =>
        row.serverId = server.serverId && row.pseudonymId = pseudonymId && row.active with
    | none =>
        rw [List.find?_eq_none] at found
        have unselected := found row member
        simp [here, named, active] at unselected
    | some other =>
        have selected := List.find?_some found
        simp only [Bool.and_eq_true, decide_eq_true_eq] at selected
        rw [unique.registrations other (List.mem_of_find?_eq_some found) row member
          (selected.1.1.trans here.symm) (selected.1.2.trans named.symm)]

theorem permitted_iff :
    VrpTransferScope.reflectionSummariesOnly.rank ≤ scope.rank ↔ scope ≠ .noTransfer := by
  rw [← scope_of_permitted, Nat.not_lt]

/-- The checks admit the bundles that are to be accepted. -/
theorem publishAdmitted_iff (tables : PublishTables database) :
    PublishAdmitted server pseudonymId bundle database scope ↔
      Acceptable server pseudonymId bundle database scope := by
  constructor
  · intro admitted
    rcases admitted.registered with ⟨row, found, parsed, unredacted⟩
    rcases (findRegistration_iff tables.unique).mp found with ⟨member, here, named, active⟩
    rcases Option.ne_none_iff_exists'.mp (tables.readable row member) with
      ⟨contract, decoded⟩
    rw [extractRedactedTopics, decoded] at unredacted
    exact ⟨validateBundleStructure_ok_iff.mpr admitted.wellFormed, admitted.own, admitted.here,
      ⟨row, member, here, named.trans admitted.own.symm, active,
        VrpTransferScope.parse_eq_some_iff.mpr parsed, contract, decoded,
        checkRedactedTopics_ok_iff.mp unredacted⟩, permitted_iff.mpr admitted.permitted⟩
  · intro acceptable
    rcases acceptable.registered with
      ⟨row, member, here, named, active, parsed, contract, decoded, unredacted⟩
    refine ⟨validateBundleStructure_ok_iff.mp acceptable.valid, acceptable.own,
      acceptable.here, ⟨row, ?_, VrpTransferScope.parse_eq_some_iff.mp parsed, ?_⟩,
      permitted_iff.mp acceptable.permitted⟩
    · exact (findRegistration_iff tables.unique).mpr
        ⟨member, here, named.trans acceptable.own, active⟩
    · rw [extractRedactedTopics, decoded]
      exact checkRedactedTopics_ok_iff.mpr unredacted

/-- Going through two scopes is going through the lesser one. -/
theorem enforceTransferScope_enforced {other : VrpTransferScope}
    (enforced : enforceTransferScope bundle scope = .ok storedBundle) :
    enforceTransferScope storedBundle other =
      enforceTransferScope bundle (lesserScope scope other) := by
  cases scope with
  | noTransfer => cases enforced
  | reflectionSummariesOnly =>
      cases enforced
      cases other <;> rfl
  | fullKnowledgeBundle =>
      cases enforced
      cases other <;> rfl

theorem domainTags_enforceTransferScope
    (enforced : enforceTransferScope bundle scope = .ok storedBundle) :
    storedBundle.domainTags = bundle.domainTags := by
  cases scope with
  | noTransfer => cases enforced
  | reflectionSummariesOnly =>
      cases enforced
      rfl
  | fullKnowledgeBundle =>
      cases enforced
      rfl

/-- A copy of what is stored goes to the recipients, limited to the lesser scope. -/
theorem mem_deliveries_stored {pseudonym : String} {copy : ReflectionSummaryBundle}
    (enforced : enforceTransferScope bundle scope = .ok storedBundle) :
    (pseudonym, copy) ∈ deliveries storedBundle (otherSubscribers server bundle database) ↔
      ∃ other, OtherRecipient server bundle database pseudonym other ∧
        enforceTransferScope bundle (lesserScope scope other) = .ok copy := by
  rw [otherSubscribers, mem_deliveries]
  apply exists_congr
  intro other
  rw [enforceTransferScope_enforced enforced]
  apply and_congr_left'
  have tags := domainTags_enforceTransferScope enforced
  constructor
  · intro recipient
    rcases recipient with ⟨subscribed, registered, permitted⟩
    simp only [Passes, tags] at subscribed
    exact ⟨subscribed, registered, permitted⟩
  · intro recipient
    rcases recipient with ⟨subscribed, registered, permitted⟩
    simp only [Passes, ← tags] at subscribed
    exact ⟨subscribed, registered, permitted⟩

/-- The local copies of an accepted bundle are handed out as they should be. -/
theorem handedOut_localCopies (tables : PublishTables database)
    (enforced : enforceTransferScope bundle scope = .ok storedBundle) :
    HandedOut server bundle scope database (localCopies server bundle storedBundle database) :=
  ⟨_, rfl, tables.unique.nodup_deliveries, fun _ _ => mem_deliveries_stored enforced⟩

/-- Every recipient gets a copy of what is stored. -/
theorem OtherRecipient.copied {pseudonym : String} {other : VrpTransferScope}
    (recipient : OtherRecipient server bundle database pseudonym other)
    (enforced : enforceTransferScope bundle scope = .ok storedBundle) :
    ∃ copy, Outbound.rtxBundle pseudonym copy none ∈
      localCopies server bundle storedBundle database := by
  have permitted : lesserScope scope other ≠ .noTransfer := by
    have enough := permitted_iff.mp recipient.permitted
    cases scope with
    | noTransfer => cases enforced
    | reflectionSummariesOnly => cases other <;> first | exact absurd rfl enough | decide
    | fullKnowledgeBundle => cases other <;> first | exact absurd rfl enough | decide
  rcases enforceTransferScope_eq_ok permitted bundle with ⟨copy, copied⟩
  exact ⟨copy, List.mem_map.mpr ⟨(pseudonym, copy),
    (mem_deliveries_stored enforced).mpr ⟨other, recipient, copied⟩, rfl⟩⟩

/-- What is inserted is the row of the bundle. -/
theorem StoredAs.oneMore {changed : Database}
    (storedAs : StoredAs server storedBundle database changed)
    (enforced : enforceTransferScope bundle scope = .ok storedBundle) :
    OneMore server bundle scope database changed := by
  have new := storedAs.new
  rcases storedAs with ⟨stored, log, inserted, isChanged⟩
  rw [insertBundle, new.1, new.2] at inserted
  cases inserted
  subst isChanged
  refine ⟨storedBundle, _, enforced, ?_, rfl⟩
  refine ⟨rfl, rfl, rfl, rfl, rfl, rfl, rfl, rfl, ?_, rfl, rfl, rfl⟩
  dsimp only

/-- A bundle that is to be accepted is published unless its copies cannot be made. -/
theorem Acceptable.published (acceptable : Acceptable server pseudonymId bundle database scope)
    (tables : PublishTables database)
    (fresh : database.rtxBundles.rows.any (·.bundleId = bundle.bundleId) = false)
    (deliverable : Deliverable bundle (otherSubscribers server bundle database)) :
    Published server pseudonymId bundle database scope := by
  refine ⟨(publishAdmitted_iff tables).mpr acceptable, fresh, ?_, deliverable⟩
  rcases acceptable.registered with ⟨row, member, here, -⟩
  rw [← here]
  exact tables.references row member

/-- A bundle that is to be accepted has a timestamp of 64 bits, or reaches no local agent. -/
def Representable (server : FederationServer Fq Key) (pseudonymId : String)
    (bundle : ReflectionSummaryBundle) (database : Database) : Prop :=
  (∃ scope, Acceptable server pseudonymId bundle database scope) →
    bundle.createdAt < 2 ^ 64 ∨
      ∀ pseudonym other, ¬ OtherRecipient server bundle database pseudonym other

/-- With no statement failing, a publish meets its specification exactly when the timestamp
of the bundle fits the copies there are to make. -/
theorem publish_meets_specification_iff (server : FederationServer Fq Key)
    (pseudonymId : String) (bundle : ReflectionSummaryBundle) (database : Database)
    (tables : PublishTables database)
    (fresh : database.rtxBundles.rows.any (·.bundleId = bundle.bundleId) = false) :
    MeetsSpecification server pseudonymId bundle database ↔
      Representable server pseudonymId bundle database := by
  have ensured := @publishHandler_ensures _ _ server database pseudonymId bundle []
  constructor
  · intro meets acceptable
    rcases meets.accepted.mpr acceptable with ⟨delivered, answered⟩
    rw [answered] at ensured
    rcases ensured with ⟨scope, storedBundle, published, -⟩
    exact deliverable_iff.mp published.deliverable
  · intro representable
    have answers : (∃ scope, Acceptable server pseudonymId bundle database scope) →
        ∃ delivered, (publishHandler server pseudonymId bundle ⟨database, [], []⟩).1 =
          .ok delivered := by
      intro acceptable
      have deliverable := deliverable_iff.mpr (representable acceptable)
      rcases acceptable with ⟨scope, acceptable⟩
      rcases @publishHandler_achieves _ _ server database [] pseudonymId bundle _
        (acceptable.published tables fresh deliverable) with ⟨delivered, changed, after, ran, -⟩
      exact ⟨delivered, congrArg Prod.fst ran⟩
    refine ⟨⟨?_, answers⟩, ?_, ?_⟩
    · intro answered
      rcases answered with ⟨delivered, answered⟩
      rw [answered] at ensured
      rcases ensured with ⟨scope, storedBundle, published, -⟩
      exact ⟨scope, (publishAdmitted_iff tables).mp published.admitted⟩
    · intro delivered answered
      rw [answered] at ensured
      rcases ensured with ⟨scope, storedBundle, published, enforced, stored, copies, -⟩
      refine ⟨scope, (publishAdmitted_iff tables).mp published.admitted,
        stored.oneMore enforced, ?_⟩
      rw [copies]
      exact handedOut_localCopies tables enforced
    · intro error refused
      rw [refused] at ensured
      rcases ensured with ⟨quiet, unchanged | ⟨scope, storedBundle, admitted, -⟩⟩
      · exact ⟨unchanged, quiet⟩
      · rcases answers ⟨scope, (publishAdmitted_iff tables).mp admitted⟩ with
          ⟨delivered, answered⟩
        rw [refused] at answered
        cases answered

section Sample

/-! A sender and a subscriber without filters. -/

def subscribedDatabase : Database :=
  { migrated with
    servers := singleServer
    agentRegistrations := (Table.empty.insert fun id =>
      ⟨id, 1, "agent", "ALIGNED", "FULL_KNOWLEDGE_BUNDLE", .encoded ⟨[], [], []⟩, "0.0",
        true⟩).insert fun id =>
      ⟨id, 1, "reader", "ALIGNED", "REFLECTION_SUMMARIES_ONLY", .encoded ⟨[], [], []⟩, "0.0",
        true⟩
    rtxSubscriptions := Table.empty.insert fun id =>
      ⟨id, 1, "reader", .encoded [], false⟩ }

theorem subscribedDatabase_tables : PublishTables subscribedDatabase := by
  refine ⟨⟨?_, ?_⟩, ?_, ?_⟩ <;> decide

/-- The chained bundle meets its specification. -/
theorem publish_meets_specification_chained :
    MeetsSpecification restrictedServer "agent" chainedBundle subscribedDatabase :=
  (publish_meets_specification_iff restrictedServer "agent" chainedBundle subscribedDatabase
    subscribedDatabase_tables (by decide)).mpr fun _ => Or.inl (by decide +kernel)

/-- The chained bundle with a timestamp of 65 bits. -/
def farBundle : ReflectionSummaryBundle :=
  { chainedBundle with createdAt := 2 ^ 64 }

/-- It is stored, its subscriber gets nothing, and its sender is told that it failed. -/
theorem not_publish_meets_specification :
    ¬ ∀ (server : FederationServer Unit Unit) (pseudonymId : String)
      (bundle : ReflectionSummaryBundle) (database : Database), PublishTables database →
        database.rtxBundles.rows.any (·.bundleId = bundle.bundleId) = false →
          MeetsSpecification server pseudonymId bundle database := by
  intro meets
  have far := meets restrictedServer "agent" farBundle subscribedDatabase
    subscribedDatabase_tables rfl
  have failed : (publishHandler restrictedServer "agent" farBundle
      ⟨subscribedDatabase, [], []⟩).1 =
        .error (.internalServerError "task join error: task panicked") := by
    decide +kernel
  have stored : (publishHandler restrictedServer "agent" farBundle
      ⟨subscribedDatabase, [], []⟩).2.database.rtxBundles ≠ subscribedDatabase.rtxBundles := by
    decide +kernel
  exact stored (congrArg Database.rtxBundles (far.refused _ failed).1)

end Sample

end Annex.Server
