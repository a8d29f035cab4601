import Annex.Server.Rtx

namespace Annex.Server

open Db Rtx Sql Vrp

/-! Which copies of a published bundle carry its reasoning chain. -/

variable {Fq Key : Type}

section Scopes

variable (server : FederationServer Fq Key)

/-- The sender is registered with the full scope. -/
def SenderFull (sender : String) (database : Database) : Prop :=
  ∃ row, findRegistration server sender database = some row ∧
    row.transferScope = VrpTransferScope.fullKnowledgeBundle.toString

/-- The subscriber is registered with the full scope. -/
def SubscriberFull (subscriber : String) (database : Database) : Prop :=
  ∃ row ∈ database.agentRegistrations.rows, row.serverId = server.serverId ∧
    row.pseudonymId = subscriber ∧ row.active = true ∧
    row.transferScope = VrpTransferScope.fullKnowledgeBundle.toString

/-- An active instance has an active agreement of this server with the full scope. -/
def PeerFull (baseUrl : String) (database : Database) : Prop :=
  ∃ agreement ∈ database.federationAgreements.rows, ∃ row ∈ database.instances.rows,
    agreement.localServerId = server.serverId ∧ agreement.active = true ∧
      row.id = agreement.remoteInstanceId ∧ row.status = "ACTIVE" ∧
      row.baseUrl = baseUrl ∧
      agreement.transferScope = VrpTransferScope.fullKnowledgeBundle.toString

/-- A copy carries a reasoning chain only from a full scope to a full scope. -/
def WithinScopes (sender : String) (database relayDatabase : Database) : Outbound → Prop
  | .rtxBundle subscriber copy _ => copy.reasoningChain ≠ none →
      SenderFull server sender database ∧ SubscriberFull server subscriber database
  | .rtxRelay url envelope => envelope.bundle.reasoningChain ≠ none →
      SenderFull server sender database ∧
        ∃ baseUrl, url = baseUrl ++ "/api/federation/rtx" ∧
          PeerFull server baseUrl relayDatabase
  | _ => True

/-- What the checks on a published bundle ask for, with the sender's scope. -/
structure PublishAdmitted (pseudonymId : String) (bundle : ReflectionSummaryBundle)
    (database : Database) (scope : VrpTransferScope) : Prop where
  wellFormed : WellFormed bundle
  own : pseudonymId = bundle.sourcePseudonym
  here : bundle.sourceServer = server.publicUrl
  registered : ∃ row, findRegistration server bundle.sourcePseudonym database = some row ∧
    row.transferScope = scope.toString ∧
    checkRedactedTopics bundle (extractRedactedTopics row.capabilityContractJson) = .ok ()
  permitted : scope ≠ .noTransfer

/-- The subscribers a bundle published here may go to. -/
def otherSubscribers (bundle : ReflectionSummaryBundle) (database : Database) :
    List Subscriber :=
  subscribers server.serverId (fun row => row.subscriberPseudonym ≠ bundle.sourcePseudonym)
    database

/-- What the handler hands to them. -/
def localCopies (bundle storedBundle : ReflectionSummaryBundle) (database : Database) :
    List Outbound :=
  (deliveries storedBundle (otherSubscribers server bundle database)).map fun copy =>
    .rtxBundle copy.1 copy.2 none

/-- The bundle is stored, and transfers are logged. -/
def StoredAs (storedBundle : ReflectionSummaryBundle) (database changed : Database) : Prop :=
  ∃ stored rtxTransferLog, insertBundle server.serverId storedBundle none database = .ok stored ∧
    changed = { stored with rtxTransferLog }

/-- The publish goes through: it is admitted, and its bundle can be stored and delivered. -/
structure Published (pseudonymId : String) (bundle : ReflectionSummaryBundle)
    (database : Database) (scope : VrpTransferScope) : Prop where
  admitted : PublishAdmitted server pseudonymId bundle database scope
  fresh : database.rtxBundles.rows.any (·.bundleId = bundle.bundleId) = false
  known : database.servers.rows.any (·.id = server.serverId) = true
  deliverable : Deliverable bundle (otherSubscribers server bundle database)

end Scopes

variable {server : FederationServer Fq Key} {database : Database} {sent : List Outbound}

theorem scope_of_permitted {scope : VrpTransferScope} :
    ¬ scope.rank < VrpTransferScope.reflectionSummariesOnly.rank ↔ scope ≠ .noTransfer := by
  cases scope <;> decide

/-! The local deliveries. -/

/-- A delivered copy carries a chain only if the bundle does and the subscriber's
scope is full. -/
theorem reasoningChain_delivery {bundle copy : ReflectionSummaryBundle}
    {subscriber : Subscriber} {scope : VrpTransferScope}
    (delivered : delivery bundle subscriber = some (scope, copy))
    (chain : copy.reasoningChain ≠ none) :
    bundle.reasoningChain ≠ none ∧
      subscriber.transferScope = VrpTransferScope.fullKnowledgeBundle.toString := by
  unfold delivery at delivered
  split at delivered
  · cases delivered
  · split at delivered
    · split at delivered
      · cases delivered
      · next parsed =>
        split at delivered
        · cases delivered
        · split at delivered
          · next enforced =>
            cases delivered
            rcases (reasoningChain_enforceTransferScope enforced).mp chain with
              ⟨original, rfl⟩
            exact ⟨original, VrpTransferScope.parse_eq_some_iff.mp parsed⟩
          · cases delivered
    · cases delivered

theorem subscriberFull_of_mem {wanted : RtxSubscription → Bool} {subscriber : Subscriber}
    (member : subscriber ∈ subscribers server.serverId wanted database)
    (full : subscriber.transferScope = VrpTransferScope.fullKnowledgeBundle.toString) :
    SubscriberFull server subscriber.subscriberPseudonym database := by
  rcases List.mem_flatMap.mp member with ⟨subscription, subscribed, joined⟩
  rcases List.mem_map.mp joined with ⟨agent, registered, rfl⟩
  rcases List.mem_filter.mp subscribed with ⟨-, subscribedHere⟩
  rcases List.mem_filter.mp registered with ⟨agentMember, agentHere⟩
  simp only [Bool.and_eq_true, decide_eq_true_eq] at subscribedHere agentHere
  exact ⟨agent, agentMember, agentHere.1.1.trans subscribedHere.1, agentHere.1.2,
    agentHere.2, full⟩

theorem deliveries_within {wanted : RtxSubscription → Bool} {relayDatabase : Database}
    {bundle : ReflectionSummaryBundle} {sender : String}
    (senderFull : bundle.reasoningChain ≠ none → SenderFull server sender database) :
    ∀ copy ∈ (deliveries bundle (subscribers server.serverId wanted database)).map
        (fun copy => Outbound.rtxBundle copy.1 copy.2 none),
      WithinScopes server sender database relayDatabase copy := by
  intro copy member
  rcases List.mem_map.mp member with ⟨pair, delivered, rfl⟩
  rcases List.mem_filterMap.mp delivered with ⟨subscriber, subscribed, copied⟩
  rcases Option.map_eq_some_iff.mp copied with ⟨⟨scope, scopedBundle⟩, given, rfl⟩
  intro chain
  rcases reasoningChain_delivery given chain with ⟨original, full⟩
  exact ⟨senderFull original, subscriberFull_of_mem subscribed full⟩

/-! The publish. -/

theorem looks_checkPublish (pseudonymId : String) (bundle : ReflectionSummaryBundle) :
    Looks (checkPublish server pseudonymId bundle) :=
  looks_bind (looks_orElse _ _) fun _ => looks_bind (looks_check _ _) fun _ =>
    looks_bind (looks_check _ _) fun _ => looks_bind (looks_connect _) fun _ =>
    looks_bind (looks_query _ _) fun _ => looks_bind (looks_require _ _) fun _ =>
    looks_bind (looks_check _ _) fun _ => looks_bind (looks_orElse _ _) fun _ =>
    looks_bind (looks_orElse _ _) fun _ => looks_pure _

theorem answers_checkPublish {pseudonymId : String}
    {bundle storedBundle : ReflectionSummaryBundle} {scope : VrpTransferScope} :
    Answers (checkPublish server pseudonymId bundle) database sent (scope, storedBundle) ↔
      PublishAdmitted server pseudonymId bundle database scope ∧
        enforceTransferScope bundle scope = .ok storedBundle := by
  simp only [checkPublish, answers_bind, answers_connect, answers_orElse, answers_require,
    answers_check, answers_query, answers_pure, looks_connect, looks_orElse, looks_require,
    looks_check, looks_query, VrpTransferScope.parse_eq_some_iff, scope_of_permitted,
    exists_const, true_and, Prod.mk.injEq]
  constructor
  · rintro ⟨_, wellFormed, own, here, row, found, other, parsed, permitted, _, unredacted,
      stripped, enforced, rfl, rfl⟩
    refine ⟨⟨validateBundleStructure_ok_iff.mp wellFormed, own, here, ?_, permitted⟩,
      enforced⟩
    cases registered : findRegistration server bundle.sourcePseudonym database with
    | none => simp [registered] at found
    | some stored =>
        simp only [registered, Except.ok.injEq] at found
        exact ⟨stored, rfl, found ▸ parsed, found ▸ unredacted⟩
  · rintro ⟨admitted, enforced⟩
    rcases admitted.registered with ⟨row, found, parsed, unredacted⟩
    exact ⟨(), validateBundleStructure_ok_iff.mpr admitted.wellFormed, admitted.own,
      admitted.here, row, by rw [found], scope, parsed, admitted.permitted, (), unredacted,
      storedBundle, enforced, rfl, rfl⟩

/-- What an admitted bundle leaves behind: its sender's scope is full if a chain is
stored. -/
theorem PublishAdmitted.senderFull {pseudonymId : String}
    {bundle storedBundle : ReflectionSummaryBundle} {scope : VrpTransferScope}
    (admitted : PublishAdmitted server pseudonymId bundle database scope)
    (enforced : enforceTransferScope bundle scope = .ok storedBundle)
    (chain : storedBundle.reasoningChain ≠ none) :
    SenderFull server bundle.sourcePseudonym database := by
  rcases (reasoningChain_enforceTransferScope enforced).mp chain with ⟨-, rfl⟩
  rcases admitted.registered with ⟨row, found, full, -⟩
  exact ⟨row, found, full⟩

/-- The bundle is stored together with its transfer, or nothing is. -/
theorem storePublished_ensures {bundle storedBundle : ReflectionSummaryBundle}
    {scope : VrpTransferScope} :
    Ensures (storePublished server bundle storedBundle scope) database sent
      fun result changed after => after = sent ∧
        match result with
        | .error _ => changed = database
        | .ok _ => StoredAs server storedBundle database changed := by
  apply ensures_transaction
  · exact fun _ => ⟨rfl, rfl⟩
  apply ensures_bind
  apply ensures_execute
  · exact fun _ => ⟨rfl, rfl⟩
  · intro stored inserted
    rw [andThen_ok]
    apply ensures_execute
    · exact fun _ => ⟨rfl, rfl⟩
    · intro logged transferred
      rcases insertTransfer_eq_ok transferred with ⟨rtxTransferLog, isLogged⟩
      exact ⟨⟨rfl, stored, rtxTransferLog, inserted, isLogged⟩, fun _ => ⟨rfl, rfl⟩⟩
    · exact fun _ _ => ⟨rfl, rfl⟩
  · exact fun _ _ => ⟨rfl, rfl⟩

theorem storePublished_achieves {bundle storedBundle : ReflectionSummaryBundle}
    {scope : VrpTransferScope}
    (fresh : database.rtxBundles.rows.any (·.bundleId = storedBundle.bundleId) = false)
    (known : database.servers.rows.any (·.id = server.serverId) = true) :
    Achieves (storePublished server bundle storedBundle scope) database sent
      fun _ _ _ => True := by
  rcases @insertBundle_new server.serverId storedBundle none database fresh known with
    ⟨rtxBundles, -, inserted⟩
  rcases @insertTransfer_known server.clock.datetime server.serverId storedBundle
    { database with rtxBundles } none (redactions bundle storedBundle) scope known with
    ⟨rtxTransferLog, logged⟩
  exact achieves_transaction (achieves_bind (achieves_execute inserted
    (achieves_execute logged trivial)))

theorem StoredAs.new {storedBundle : ReflectionSummaryBundle} {changed : Database}
    (storedAs : StoredAs server storedBundle database changed) :
    database.rtxBundles.rows.any (·.bundleId = storedBundle.bundleId) = false ∧
      database.servers.rows.any (·.id = server.serverId) = true := by
  rcases storedAs with ⟨stored, log, inserted, -⟩
  exact insertBundle_eq_ok inserted

/-- Stored bundles and logged transfers change nobody's subscription. -/
theorem StoredAs.otherSubscribers {storedBundle : ReflectionSummaryBundle} {changed : Database}
    (storedAs : StoredAs server storedBundle database changed)
    (bundle : ReflectionSummaryBundle) :
    otherSubscribers server bundle changed = otherSubscribers server bundle database := by
  have new := storedAs.new
  rcases storedAs with ⟨stored, log, inserted, isChanged⟩
  rcases @insertBundle_new server.serverId storedBundle none database new.1 new.2 with
    ⟨rtxBundles, -, isStored⟩
  rw [isStored, Except.ok.injEq] at inserted
  subst inserted isChanged
  rfl

/-- Whatever fails, an answer means that the bundle was published, and an error that nothing
was delivered. -/
theorem publishHandler_ensures {pseudonymId : String} {bundle : ReflectionSummaryBundle} :
    Ensures (publishHandler server pseudonymId bundle) database []
      fun result changed after =>
        match result with
        | .error _ => after = [] ∧ (changed = database ∨
            ∃ scope storedBundle, PublishAdmitted server pseudonymId bundle database scope ∧
              enforceTransferScope bundle scope = .ok storedBundle ∧
              StoredAs server storedBundle database changed)
        | .ok delivered => ∃ scope storedBundle,
            Published server pseudonymId bundle database scope ∧
              enforceTransferScope bundle scope = .ok storedBundle ∧
              StoredAs server storedBundle database changed ∧
              after = localCopies server bundle storedBundle database ∧
              delivered = after.length := by
  refine (looks_checkPublish pseudonymId bundle).ensures_bind
    (fun _ => ⟨rfl, Or.inl rfl⟩) ?_
  intro checked answers
  rcases checked with ⟨scope, storedBundle⟩
  rcases answers_checkPublish.mp answers with ⟨admitted, enforced⟩
  refine ensures_bind (ensures_mono ?_ storePublished_ensures)
  intro result changed after stored
  rcases stored with ⟨kept, stored⟩
  subst kept
  cases result with
  | error error => exact ⟨rfl, Or.inl stored⟩
  | ok _ =>
      have new := stored.new
      rw [bundleId_enforceTransferScope enforced] at new
      have failed : ([] : List Outbound) = [] ∧ (changed = database ∨
          ∃ scope storedBundle, PublishAdmitted server pseudonymId bundle database scope ∧
            enforceTransferScope bundle scope = .ok storedBundle ∧
            StoredAs server storedBundle database changed) :=
        ⟨rfl, Or.inr ⟨scope, storedBundle, admitted, enforced, stored⟩⟩
      rw [andThen_ok]
      refine (looks_connect _).ensures_bind (fun _ => failed) fun _ _ => ?_
      refine (looks_query _ _).ensures_bind (fun _ => failed) ?_
      intro found read
      have isFound := answers_query.mp read
      rw [Except.ok.injEq] at isFound
      subst isFound
      have same := stored.otherSubscribers bundle
      rw [otherSubscribers] at same
      rw [same]
      refine ensures_bind (ensures_mono ?_ deliver_ensures)
      intro result last after delivered
      rcases delivered with ⟨kept, ⟨_, panicked, unchanged⟩ | ⟨deliverable, copies, written⟩⟩
      · subst kept panicked unchanged
        exact failed
      · rcases written with ⟨log, isWritten⟩
        rcases stored with ⟨rows, _, inserted, isChanged⟩
        subst kept copies isWritten isChanged
        rw [andThen_ok]
        refine ensures_bind ((ensures_remember _).mpr ?_)
        rw [andThen_ok, ensures_pure]
        refine ⟨scope, storedBundle, ⟨admitted, new.1, new.2,
          (deliverable_enforceTransferScope enforced).mp deliverable⟩, enforced,
          ⟨rows, log, inserted, rfl⟩, rfl, ?_⟩
        rw [List.nil_append, List.length_map]

/-- With no statement failing a publish that goes through is answered. -/
theorem publishHandler_achieves {pseudonymId : String} {bundle : ReflectionSummaryBundle}
    {scope : VrpTransferScope}
    (published : Published server pseudonymId bundle database scope) :
    Achieves (publishHandler server pseudonymId bundle) database sent fun _ _ _ => True := by
  rcases enforceTransferScope_eq_ok published.admitted.permitted bundle with
    ⟨storedBundle, enforced⟩
  have checked : Answers (checkPublish server pseudonymId bundle) database sent
      (scope, storedBundle) := answers_checkPublish.mpr ⟨published.admitted, enforced⟩
  have fresh := published.fresh
  rw [← bundleId_enforceTransferScope enforced] at fresh
  have deliverable := (deliverable_enforceTransferScope enforced).mpr published.deliverable
  rcases @storePublished_achieves _ _ server database sent bundle storedBundle scope fresh
    published.known with ⟨_, changed, after, ran, -⟩
  have stored := (@storePublished_ensures _ _ server database sent bundle storedBundle scope []).2
  rw [ran] at stored
  apply checked.achieves_bind
  apply achieves_bind
  refine ⟨_, changed, after, ran, ?_⟩
  apply (connect_answers _).achieves_bind
  refine Answers.achieves_bind (answers_query.mpr rfl) ?_
  have same := StoredAs.otherSubscribers stored bundle
  rw [otherSubscribers] at same
  rw [same]
  refine achieves_bind (achieves_mono ?_ (deliver_tolerates deliverable).achieves)
  exact fun _ _ _ _ => achieves_bind (achieves_remember (achieves_pure trivial))

/-! The relay. -/

theorem mem_relayPeers {peer : RelayPeer} :
    peer ∈ relayPeers server database ↔
      ∃ agreement ∈ database.federationAgreements.rows, ∃ row ∈ database.instances.rows,
        agreement.localServerId = server.serverId ∧ agreement.active = true ∧
          row.id = agreement.remoteInstanceId ∧ row.status = "ACTIVE" ∧
          (⟨row.baseUrl, agreement.transferScope⟩ : RelayPeer) = peer := by
  simp only [relayPeers, List.mem_flatMap, List.mem_filter, List.mem_map,
    Bool.and_eq_true, decide_eq_true_eq]
  constructor
  · rintro ⟨agreement, ⟨member, here, active⟩, row, ⟨rowMember, same, status⟩, equal⟩
    exact ⟨agreement, member, row, rowMember, here, active, same, status, equal⟩
  · rintro ⟨agreement, member, row, rowMember, here, active, same, status, equal⟩
    exact ⟨agreement, ⟨member, here, active⟩, row, ⟨rowMember, same, status⟩, equal⟩

/-- A relayed copy carries a chain only if the published bundle does and the scope of
the agreement is full. The sender's scope does not come in. -/
theorem relayTo_chain {bundle : ReflectionSummaryBundle} {peer : RelayPeer}
    {copy : Outbound} (relayed : relayTo server bundle peer = some copy) :
    ∃ envelope : FederatedRtxEnvelope,
      copy = .rtxRelay (peer.baseUrl ++ "/api/federation/rtx") envelope ∧
        peer.baseUrl ≠ server.publicUrl ∧
        (envelope.bundle.reasoningChain ≠ none → bundle.reasoningChain ≠ none ∧
          peer.transferScope = VrpTransferScope.fullKnowledgeBundle.toString) := by
  unfold relayTo at relayed
  split at relayed
  · cases relayed
  · next other =>
    rw [not_or] at other
    split at relayed
    · cases relayed
    · next parsed =>
      split at relayed
      · cases relayed
      · split at relayed
        · cases relayed
        · next enforced =>
          cases relayed
          refine ⟨_, rfl, other.1, fun chain => ?_⟩
          rcases (reasoningChain_enforceTransferScope enforced).mp chain with
            ⟨original, rfl⟩
          exact ⟨original, VrpTransferScope.parse_eq_some_iff.mp parsed⟩

/-- A peer with the full scope is sent the bundle as it was published. -/
theorem relayTo_full {bundle : ReflectionSummaryBundle} {peer : RelayPeer}
    (elsewhere : peer.baseUrl ≠ server.publicUrl)
    (fromElsewhere : bundle.sourceServer ≠ peer.baseUrl)
    (full : peer.transferScope = VrpTransferScope.fullKnowledgeBundle.toString) :
    ∃ envelope : FederatedRtxEnvelope, envelope.bundle = bundle ∧
      relayTo server bundle peer =
        some (.rtxRelay (peer.baseUrl ++ "/api/federation/rtx") envelope) := by
  have parsed : VrpTransferScope.parse peer.transferScope = some .fullKnowledgeBundle :=
    VrpTransferScope.parse_eq_some_iff.mpr full
  unfold relayTo
  rw [if_neg (not_or.mpr ⟨elsewhere, fromElsewhere⟩), parsed]
  exact ⟨_, rfl, rfl⟩

theorem relayRtxBundles_ensures {bundle : ReflectionSummaryBundle} :
    Ensures (relayRtxBundles server bundle) database [] fun _ _ after =>
      ∀ copy ∈ after, ∃ peer ∈ relayPeers server database,
        relayTo server bundle peer = some copy := by
  have quiet : ∀ copy ∈ ([] : List Outbound), ∃ peer ∈ relayPeers server database,
      relayTo server bundle peer = some copy :=
    fun _ member => (List.not_mem_nil member).elim
  refine (looks_connect _).ensures_bind (fun _ => quiet) fun _ _ => ?_
  refine (looks_query _ _).ensures_bind (fun _ => quiet) ?_
  intro peers read
  cases answers_query.mp read
  split
  · exact (ensures_pure _).mpr quiet
  · refine (looks_connect _).ensures_bind (fun _ => quiet) fun _ _ => ?_
    refine (ensures_remember _).mpr fun copy member => ?_
    rw [List.nil_append] at member
    exact List.mem_filterMap.mp member

theorem relayRtxBundles_achieves {bundle : ReflectionSummaryBundle} :
    Achieves (relayRtxBundles server bundle) database [] fun _ _ after =>
      after = (relayPeers server database).filterMap (relayTo server bundle) := by
  apply (connect_answers _).achieves_bind
  refine Answers.achieves_bind (answers_query.mpr rfl) ?_
  split
  · next empty => exact achieves_pure (by rw [empty]; rfl)
  · apply (connect_answers _).achieves_bind
    exact achieves_remember (List.nil_append _)

/-- The publish goes through under the restricted scope, the bundle has a reasoning
chain, and some other instance is a peer with the full scope. -/
def LeaksToPeer (server : FederationServer Fq Key) (pseudonymId : String)
    (bundle : ReflectionSummaryBundle) (database relayDatabase : Database) : Prop :=
  Published server pseudonymId bundle database .reflectionSummariesOnly ∧
    bundle.reasoningChain ≠ none ∧
    ∃ baseUrl, baseUrl ≠ server.publicUrl ∧ PeerFull server baseUrl relayDatabase

/-- What leaves the server: the local deliveries, and the relay of an answered
publish. -/
theorem mem_publishedCopies {pseudonymId : String} {bundle : ReflectionSummaryBundle}
    {relayDatabase : Database} {faults relayFaults : List (Option String)}
    {copy : Outbound} :
    copy ∈ publishedCopies server pseudonymId bundle database relayDatabase faults
        relayFaults ↔
      copy ∈ (publishHandler server pseudonymId bundle
          ⟨database, [], faults⟩).2.memory ∨
        (∃ delivered, (publishHandler server pseudonymId bundle
            ⟨database, [], faults⟩).1 = .ok delivered) ∧
          copy ∈ (relayRtxBundles server bundle
            ⟨relayDatabase, [], relayFaults⟩).2.memory := by
  unfold publishedCopies
  dsimp only
  split
  · next refused => simp [refused]
  · next delivered answered => simp [answered]

/-- A relayed copy outside the scopes is such a leak. -/
theorem relay_within {pseudonymId : String} {bundle : ReflectionSummaryBundle}
    {relayDatabase : Database} {scope : VrpTransferScope} {peer : RelayPeer}
    {copy : Outbound} (published : Published server pseudonymId bundle database scope)
    (safe : ¬ LeaksToPeer server pseudonymId bundle database relayDatabase)
    (member : peer ∈ relayPeers server relayDatabase)
    (relayed : relayTo server bundle peer = some copy) :
    WithinScopes server bundle.sourcePseudonym database relayDatabase copy := by
  rcases relayTo_chain relayed with ⟨envelope, rfl, elsewhere, carried⟩
  intro chain
  rcases carried chain with ⟨original, full⟩
  have peerFull : PeerFull server peer.baseUrl relayDatabase := by
    rcases mem_relayPeers.mp member with
      ⟨agreement, agreed, row, known, here, active, same, status, rfl⟩
    exact ⟨agreement, agreed, row, known, here, active, same, status, rfl, full⟩
  refine ⟨?_, peer.baseUrl, rfl, peerFull⟩
  cases scope with
  | noTransfer => exact absurd rfl published.admitted.permitted
  | reflectionSummariesOnly =>
      exact absurd ⟨published, original, peer.baseUrl, elsewhere, peerFull⟩ safe
  | fullKnowledgeBundle =>
      rcases published.admitted.registered with ⟨row, found, registered, -⟩
      exact ⟨row, found, registered⟩

/-- Every copy that leaves the server keeps to the scopes exactly when the publish does
not leak to a peer. -/
theorem published_copies_within_scopes_iff (server : FederationServer Fq Key)
    (pseudonymId : String) (bundle : ReflectionSummaryBundle)
    (database relayDatabase : Database) :
    (∀ faults relayFaults, ∀ copy ∈ publishedCopies server pseudonymId bundle database
        relayDatabase faults relayFaults,
      WithinScopes server bundle.sourcePseudonym database relayDatabase copy) ↔
      ¬ LeaksToPeer server pseudonymId bundle database relayDatabase := by
  constructor
  · rintro within ⟨published, chain, baseUrl, elsewhere, agreement, agreed, row, known, here,
      active, same, status, rfl, full⟩
    rcases @publishHandler_achieves _ _ server database [] pseudonymId bundle _ published
      with ⟨delivered, changed, after, ran, -⟩
    rcases @relayRtxBundles_achieves _ _ server relayDatabase bundle with
      ⟨_, relayChanged, _, relayRan, rfl⟩
    have peer : (⟨row.baseUrl, agreement.transferScope⟩ : RelayPeer) ∈
        relayPeers server relayDatabase :=
      mem_relayPeers.mpr ⟨agreement, agreed, row, known, here, active, same, status, rfl⟩
    rcases @relayTo_full _ _ server bundle ⟨row.baseUrl, agreement.transferScope⟩ elsewhere
      (published.admitted.here ▸ elsewhere.symm) full with ⟨envelope, rfl, relayed⟩
    have leaves : Outbound.rtxRelay (row.baseUrl ++ "/api/federation/rtx") envelope ∈
        publishedCopies server pseudonymId envelope.bundle database relayDatabase [] [] := by
      refine mem_publishedCopies.mpr (Or.inr ⟨⟨delivered, by rw [ran]⟩, ?_⟩)
      rw [relayRan]
      exact List.mem_filterMap.mpr ⟨_, peer, relayed⟩
    rcases (within [] [] _ leaves chain).1 with ⟨sender, found, senderFull⟩
    rcases published.admitted.registered with ⟨other, foundOther, restricted, -⟩
    cases Option.some.inj (found.symm.trans foundOther)
    exact absurd (senderFull.symm.trans restricted) (by decide)
  · intro safe faults relayFaults copy member
    have ensured := @publishHandler_ensures _ _ server database pseudonymId bundle faults
    rcases mem_publishedCopies.mp member with delivered | ⟨⟨count, answered⟩, relayed⟩
    · cases answered : (publishHandler server pseudonymId bundle ⟨database, [], faults⟩).1 with
      | error error =>
          rw [answered] at ensured
          rw [ensured.1] at delivered
          cases delivered
      | ok count =>
          rw [answered] at ensured
          rcases ensured with ⟨scope, storedBundle, published, enforced, -, copies, -⟩
          rw [copies] at delivered
          exact deliveries_within (published.admitted.senderFull enforced) copy delivered
    · rw [answered] at ensured
      rcases ensured with ⟨scope, storedBundle, published, -⟩
      rcases @relayRtxBundles_ensures _ _ server relayDatabase bundle relayFaults copy
        relayed with ⟨peer, peerMember, sentTo⟩
      exact relay_within published safe peerMember sentTo

section Sample

/-! A sender with the restricted scope and a peer with the full one. -/

def restrictedAgent (id : Nat) : AgentRegistration :=
  ⟨id, 1, "agent", "PARTIAL", "REFLECTION_SUMMARIES_ONLY", .encoded ⟨[], [], []⟩, "0.0", true⟩

def fullPeer (id : Nat) : Instance := ⟨id, "https://peer.example", "00", "ACTIVE"⟩

def fullAgreement (id : Nat) : FederationAgreement :=
  ⟨id, 1, 1, "ALIGNED", "FULL_KNOWLEDGE_BUNDLE", .malformed "", none, true, "", ""⟩

def restrictedDatabase : Database :=
  { migrated with
    servers := singleServer
    agentRegistrations := Table.empty.insert restrictedAgent
    instances := Table.empty.insert fullPeer
    federationAgreements := Table.empty.insert fullAgreement }

def restrictedServer : FederationServer Unit Unit where
  environment := Environment.sample fun _ => []
  ed25519 := ⟨fun _ => none, fun _ _ _ => .ok (), fun _ => []⟩
  get := fun _ => .error "offline"
  curve := ⟨fun _ => none, fun _ => none, fun _ => false, fun _ => false,
    fun _ _ _ => .ok false⟩
  membershipVkey := ()
  serverId := 1
  publicUrl := "https://here.example"
  clock := ⟨"2026-01-01 00:00:00", fun _ => none, 0⟩

def chainedBundle : ReflectionSummaryBundle :=
  ⟨"b-1", "agent", "https://here.example", [], "summary", some "chain", [], 1, "sig", "ref"⟩

/-- The chain of the restricted sender reaches the peer. -/
theorem restricted_chain_relayed :
    ¬ ∀ (server : FederationServer Unit Unit) (pseudonymId : String)
      (bundle : ReflectionSummaryBundle) (database relayDatabase : Database)
      (faults relayFaults : List (Option String)),
        ∀ copy ∈ publishedCopies server pseudonymId bundle database relayDatabase faults
          relayFaults,
          WithinScopes server bundle.sourcePseudonym database relayDatabase copy := by
  intro within
  have stays := within restrictedServer "agent" chainedBundle restrictedDatabase
    restrictedDatabase [] []
  have copies : publishedCopies restrictedServer "agent" chainedBundle restrictedDatabase
      restrictedDatabase [] [] =
      [.rtxRelay "https://peer.example/api/federation/rtx"
        ⟨chainedBundle, ⟨"https://here.example", ["https://here.example"], "b-1"⟩,
          "https://here.example", ""⟩] := by
    decide +kernel
  rw [copies] at stays
  rcases (stays _ List.mem_cons_self (by decide)).1 with ⟨row, found, full⟩
  have restricted : (findRegistration restrictedServer "agent" restrictedDatabase).map
      AgentRegistration.transferScope = some "REFLECTION_SUMMARIES_ONLY" := by
    decide +kernel
  have foundHere : findRegistration restrictedServer "agent" restrictedDatabase =
      some row := found
  rw [foundHere, Option.map_some, full] at restricted
  exact absurd restricted (by decide)

end Sample

end Annex.Server
