import Annex.Rtx.TransferLog
import Annex.Server.FederationCorrectness
import Annex.Server.RtxRetry

namespace Annex.Server

open Db Rtx Sql Vrp

/-! Whether the copies of a bundle that leave the server are in the transfer log: those of a
publish, those its relay posts to federation peers, and those of a receipt. -/

variable {Fq Key : Type}

/-- The transfer that something sent makes. -/
def transferOf : Outbound → Option TransferEntry
  | .rtxBundle pseudonymId bundle _ => some (entryTo bundle (some pseudonymId))
  | .rtxRelay url envelope => some (entryTo envelope.bundle (some url))
  | _ => none

section Definitions

variable (server : FederationServer Fq Key)

/-- Every copy of a publish and of its relay has its row. -/
def PublishLogged (pseudonymId : String) (bundle : ReflectionSummaryBundle)
    (database relayDatabase : Database) (faults relayFaults : List (Option String)) : Prop :=
  EachLogged
    ((publishedCopies server pseudonymId bundle database relayDatabase faults
      relayFaults).filterMap transferOf)
    (newTransfers database
        (publishHandler server pseudonymId bundle ⟨database, [], faults⟩).2.database ++
      newTransfers relayDatabase
        (relayRtxBundles server bundle ⟨relayDatabase, [], relayFaults⟩).2.database)

/-- Every copy of a receipt has its row. -/
def ReceiptLogged (envelope : FederatedRtxEnvelope) (database : Database)
    (faults : List (Option String)) : Prop :=
  EachLogged
    ((receiveFederatedRtxHandler server envelope
      ⟨database, [], faults⟩).2.memory.filterMap transferOf)
    (newTransfers database
      (receiveFederatedRtxHandler server envelope ⟨database, [], faults⟩).2.database)

/-- The publish comes to its deliveries: eight statements go before them. -/
def PublishDelivers (pseudonymId : String) (bundle : ReflectionSummaryBundle)
    (database : Database) (faults : List (Option String)) : Prop :=
  Commits server pseudonymId bundle database faults ∧ Spared (faults.drop 6) 2 ∧
    Deliverable bundle (otherSubscribers server bundle database)

/-- The relay has something to post, and none of its statements is made to fail. -/
def RelayPosts (bundle : ReflectionSummaryBundle) (database : Database)
    (faults : List (Option String)) : Prop :=
  Spared faults 3 ∧ (relayPeers server database).filterMap (relayTo server bundle) ≠ []

/-- A publish that comes to its deliveries logs all of them, and nothing is relayed. -/
def PublishAccounts (pseudonymId : String) (bundle : ReflectionSummaryBundle)
    (database relayDatabase : Database) (faults relayFaults : List (Option String)) : Prop :=
  PublishDelivers server pseudonymId bundle database faults →
    Spared (faults.drop 8) (deliveries bundle (otherSubscribers server bundle database)).length ∧
      ¬ RelayPosts server bundle relayDatabase relayFaults

/-- The receipt comes to its deliveries, eight statements go before them, and commits. -/
def ReceiptDelivers (envelope : FederatedRtxEnvelope) (database : Database)
    (faults : List (Option String)) : Prop :=
  RtxAdmissible server envelope database ∧ Spared faults 8 ∧
    faultAt faults
      (8 + (deliveries envelope.bundle (federatedSubscribers server database)).length) = none

/-- A receipt that comes to its deliveries and commits logs all of them. -/
def ReceiptAccounts (envelope : FederatedRtxEnvelope) (database : Database)
    (faults : List (Option String)) : Prop :=
  ReceiptDelivers server envelope database faults →
    Spared (faults.drop 8)
      (deliveries envelope.bundle (federatedSubscribers server database)).length

end Definitions

variable {server : FederationServer Fq Key} {database : Database} {pseudonymId : String}
  {bundle storedBundle : ReflectionSummaryBundle} {scope : VrpTransferScope}
  {faults : List (Option String)} {sent : List Outbound}

/-- The transfers of the copies that are handed out are the deliveries. -/
theorem transferOf_deliveries {subscribers : List Subscriber}
    {provenance : Option BundleProvenance} :
    ((deliveries bundle subscribers).map fun copy =>
        Outbound.rtxBundle copy.1 copy.2 provenance).filterMap transferOf =
      deliveredEntries bundle subscribers := by
  rw [List.filterMap_map, deliveredEntries, ← List.filterMap_eq_map]
  apply List.filterMap_congr
  intro copy member
  rcases List.mem_filterMap.mp member with ⟨subscriber, -, given⟩
  rcases Option.map_eq_some_iff.mp given with ⟨⟨scope, scopedBundle⟩, delivered, same⟩
  rw [← same]
  have enforced := (delivery_eq_some_iff.mp delivered).2.2.2
  exact congrArg some (entryTo_enforceTransferScope enforced _)

theorem destination_deliveredEntries {subscribers : List Subscriber} {transfer : TransferEntry}
    (member : transfer ∈ deliveredEntries bundle subscribers) : transfer.destination ≠ none := by
  rcases List.mem_map.mp member with ⟨copy, -, same⟩
  rw [← same]
  exact Option.some_ne_none copy.1

theorem destination_transferOf {sent : List Outbound} {transfer : TransferEntry}
    (member : transfer ∈ sent.filterMap transferOf) : transfer.destination ≠ none := by
  rcases List.mem_filterMap.mp member with ⟨message, -, transfers⟩
  cases message with
  | rtxBundle pseudonym =>
      cases transfers
      exact Option.some_ne_none pseudonym
  | rtxRelay url =>
      cases transfers
      exact Option.some_ne_none url
  | observe | presence | broadcast => cases transfers

/-! The relay. -/

/-- The relay writes nothing, and posts what it has unless one of its statements fails. -/
theorem relayRtxBundles_posts :
    (relayRtxBundles server bundle ⟨database, [], faults⟩).2.database = database ∧
      (RelayPosts server bundle database faults →
        (relayRtxBundles server bundle ⟨database, [], faults⟩).2.memory =
          (relayPeers server database).filterMap (relayTo server bundle)) ∧
      (¬ RelayPosts server bundle database faults →
        (relayRtxBundles server bundle ⟨database, [], faults⟩).2.memory = []) := by
  have quiet (unspared : ¬ Spared faults 3)
      (silent : (relayRtxBundles server bundle ⟨database, [], faults⟩).2.database = database ∧
        (relayRtxBundles server bundle ⟨database, [], faults⟩).2.memory = []) :
      (relayRtxBundles server bundle ⟨database, [], faults⟩).2.database = database ∧
        (RelayPosts server bundle database faults →
          (relayRtxBundles server bundle ⟨database, [], faults⟩).2.memory =
            (relayPeers server database).filterMap (relayTo server bundle)) ∧
        (¬ RelayPosts server bundle database faults →
          (relayRtxBundles server bundle ⟨database, [], faults⟩).2.memory = []) :=
    ⟨silent.1, fun posts => absurd posts.1 unspared, fun _ => silent.2⟩
  cases first : faultAt faults 0 with
  | some text =>
      apply quiet fun spared => by simpa [first] using spared 0 (by omega)
      rw [relayRtxBundles, bind_error (connect_faulty first)]
      exact ⟨rfl, rfl⟩
  | none =>
      cases second : faultAt faults 1 with
      | some text =>
          apply quiet fun spared => by simpa [second] using spared 1 (by omega)
          have unread : query id (fun database => .ok (relayPeers server database))
              (⟨database, [], faults.tail⟩ : Session Database (List Outbound)) =
                (.error (.failure text), ⟨database, [], faults.tail.tail⟩) :=
            statement_faulty ((faultAt_tail faults 0).trans second)
          rw [relayRtxBundles, bind_ok (connect_done first), bind_error unread]
          exact ⟨rfl, rfl⟩
      | none =>
          have read : relayRtxBundles server bundle ⟨database, [], faults⟩ =
              (if relayPeers server database = [] then pure () else do
                connect id
                sendAll ((relayPeers server database).filterMap (relayTo server bundle)))
                ⟨database, [], faults.tail.tail⟩ := by
            have peers : query id (fun database => .ok (relayPeers server database))
                (⟨database, [], faults.tail⟩ : Session Database (List Outbound)) =
                  (.ok (relayPeers server database), ⟨database, [], faults.tail.tail⟩) :=
              query_done ((faultAt_tail faults 0).trans second) rfl
            rw [relayRtxBundles, bind_ok (connect_done first), bind_ok peers]
          rw [read]
          by_cases alone : relayPeers server database = []
          · rw [if_pos alone, alone]
            exact ⟨rfl, fun _ => rfl, fun _ => rfl⟩
          · rw [if_neg alone]
            cases third : faultAt faults 2 with
            | some text =>
                have faulty : faultAt faults.tail.tail 0 = some text := by
                  rw [faultAt_tail, faultAt_tail, third]
                rw [bind_error (connect_faulty faulty)]
                refine ⟨rfl, ?_, fun _ => rfl⟩
                intro posts
                have spared := posts.1 2 (by omega)
                rw [third] at spared
                cases spared
            | none =>
                have unfaulted : faultAt faults.tail.tail 0 = none := by
                  rw [faultAt_tail, faultAt_tail, third]
                rw [bind_ok (connect_done unfaulted)]
                refine ⟨rfl, fun _ => rfl, ?_⟩
                intro nothing
                by_contra posted
                apply nothing
                refine ⟨?_, posted⟩
                intro number below
                match number with
                | 0 => exact first
                | 1 => exact second
                | 2 => exact third

/-! The publish. -/

/-- The entry of the stored bundle is the only one that was added to the log. -/
def Entered (bundle : ReflectionSummaryBundle) (before after : Database) : Prop :=
  after.servers = before.servers ∧
    ∃ row, after.rtxTransferLog.rows = before.rtxTransferLog.rows ++ [row] ∧
      loggedEntry row = entryTo bundle none

theorem entered_of_inserted {serverId : Nat} {now : String} {redactionsApplied : Option String}
    {provenance : Option BundleProvenance} {stored logged : Database}
    (inserted : insertBundle serverId bundle provenance database = .ok stored)
    (transferred : insertTransfer now serverId bundle none scope redactionsApplied stored =
      .ok logged) : Entered bundle database logged := by
  have new := insertBundle_eq_ok inserted
  rcases @insertBundle_new serverId bundle provenance database new.1 new.2 with
    ⟨rtxBundles, -, isStored⟩
  rw [isStored, Except.ok.injEq] at inserted
  rw [← inserted] at transferred
  rcases @insertTransfer_logs now serverId bundle none redactionsApplied scope
    { database with rtxBundles } new.2 with ⟨log, row, isLogged, written, isEntry⟩
  rw [isLogged, Except.ok.injEq] at transferred
  rw [← transferred]
  exact ⟨rfl, row, written, isEntry⟩

/-- Neither changes who subscribes. -/
theorem subscribers_of_inserted {serverId : Nat} {now : String}
    {redactionsApplied : Option String} {provenance : Option BundleProvenance}
    {stored logged : Database} {wanted : RtxSubscription → Bool}
    (inserted : insertBundle serverId bundle provenance database = .ok stored)
    (transferred : insertTransfer now serverId bundle none scope redactionsApplied stored =
      .ok logged) :
    subscribers server.serverId wanted logged = subscribers server.serverId wanted database := by
  have new := insertBundle_eq_ok inserted
  rcases @insertBundle_new serverId bundle provenance database new.1 new.2 with
    ⟨rtxBundles, -, isStored⟩
  rcases insertTransfer_eq_ok transferred with ⟨log, isLogged⟩
  rw [isStored, Except.ok.injEq] at inserted
  rw [isLogged, ← inserted]
  rfl

theorem storePublished_enters :
    Ensures (storePublished server bundle storedBundle scope) database sent
      fun result changed _ => result = .ok () → Entered storedBundle database changed := by
  apply ensures_transaction
  · exact fun _ failed => by cases failed
  apply ensures_bind
  apply ensures_execute
  · exact fun _ failed => by cases failed
  · intro stored inserted
    rw [andThen_ok]
    apply ensures_execute
    · exact fun _ failed => by cases failed
    · intro logged transferred
      exact ⟨fun _ => entered_of_inserted inserted transferred, fun _ failed => by cases failed⟩
    · exact fun _ _ failed => by cases failed
  · exact fun _ _ failed => by cases failed

theorem storeChecked_enters :
    Ensures (storeChecked server pseudonymId bundle) database [] fun result changed _ =>
      ∀ storedBundle, result = .ok storedBundle → Entered storedBundle database changed := by
  refine (looks_checkPublish pseudonymId bundle).ensures_bind (fun _ _ failed => ?_) ?_
  · cases failed
  · intro checked _
    refine ensures_bind (ensures_mono ?_ storePublished_enters)
    intro result changed after entered
    cases result with
    | error error =>
        intro storedBundle failed
        cases failed
    | ok _ =>
        rw [andThen_ok, ensures_pure]
        intro storedBundle same
        cases same
        exact entered rfl

/-- Where the subscribers can be read and the copies be made, the handler ends with the
deliveries and logs them. -/
theorem deliverStored_logs
    (known : database.servers.rows.any (·.id = server.serverId) = true)
    (spared : Spared faults 2)
    (deliverable : Deliverable storedBundle (otherSubscribers server bundle database)) :
    ∃ log rows rest, deliverStored server bundle storedBundle ⟨database, [], faults⟩ =
        (.ok (deliveries storedBundle (otherSubscribers server bundle database)).length,
          ⟨{ database with rtxTransferLog := log },
            localCopies server bundle storedBundle database, rest⟩) ∧
      log.rows = database.rtxTransferLog.rows ++ rows ∧
        LogsDeliveries storedBundle (otherSubscribers server bundle database) (faults.drop 2)
          rows := by
  have found : ∀ wrap : DbError → ApiError,
      Answers (query wrap fun database => .ok (otherSubscribers server bundle database))
        database ([] : List Outbound) (otherSubscribers server bundle database) :=
    fun _ => answers_query.mpr rfl
  have each := spared_add.mp (show Spared faults (1 + 1) from spared)
  rcases @deliver_logs (List Outbound) ApiError server.clock.datetime server.serverId storedBundle
    (.internalServerError ("task join error: " ++ server.environment.joinErrorText)) database []
    ((faults.drop 1).drop 1) _ known deliverable with ⟨log, rows, ran, written, logs⟩
  have handled : deliverStored server bundle storedBundle ⟨database, [], faults⟩ =
      (.ok (deliveries storedBundle (otherSubscribers server bundle database)).length,
        ⟨{ database with rtxTransferLog := log },
          localCopies server bundle storedBundle database,
          ((faults.drop 1).drop 1).drop
            (deliveries storedBundle (otherSubscribers server bundle database)).length⟩) := by
    rw [deliverStored, (takes_connect _).bind_spared (connect_answers _) each.1,
      (takes_query _ _).bind_spared (found _) each.2, handOut, bind_ok ran]
    rfl
  rw [List.drop_drop] at logs
  exact ⟨log, rows, _, handled, written, logs⟩

/-- What a publish leaves when it comes to its deliveries. -/
theorem publishHandler_logs
    (delivers : PublishDelivers server pseudonymId bundle database faults) :
    ∃ copies stored rows,
      (publishHandler server pseudonymId bundle ⟨database, [], faults⟩).1 = .ok copies ∧
      (publishHandler server pseudonymId bundle ⟨database, [], faults⟩).2.memory.filterMap
          transferOf = deliveredEntries bundle (otherSubscribers server bundle database) ∧
      newTransfers database
          (publishHandler server pseudonymId bundle ⟨database, [], faults⟩).2.database =
        stored :: rows ∧
      loggedEntry stored = entryTo bundle none ∧
      LogsDeliveries bundle (otherSubscribers server bundle database) (faults.drop 8) rows := by
  rcases delivers with ⟨commits, spared, deliverable⟩
  rcases @storeChecked_achieves _ _ server database pseudonymId bundle faults [] commits with
    ⟨storedBundle, changed, kept, unfaulted, -⟩
  have ran := (takes_storeChecked ..).mpr ⟨commits.spared, rfl, unfaulted⟩
  have ensured := @storeChecked_ensures _ _ server database pseudonymId bundle faults
  have entered := @storeChecked_enters _ _ server database pseudonymId bundle faults
  rw [ran] at ensured entered
  rcases ensured with ⟨nothing, scope, admitted, enforced, storedAs⟩
  rcases entered storedBundle rfl with ⟨servers, stored, entry, isEntry⟩
  have same := storedAs.otherSubscribers bundle
  have known : changed.servers.rows.any (·.id = server.serverId) = true := by
    rw [servers]
    exact commits.known
  have copied : Deliverable storedBundle (otherSubscribers server bundle changed) := by
    rw [same]
    exact (deliverable_enforceTransferScope enforced).mpr deliverable
  rcases deliverStored_logs known spared copied with ⟨log, rows, rest, handled, written, logs⟩
  rw [same] at logs handled
  have alike := deliveredEntries_enforceTransferScope enforced
    (otherSubscribers server bundle database)
  have few := length_deliveries_enforceTransferScope enforced
    (otherSubscribers server bundle database)
  rw [publishHandler_eq, bind_ok ran, show kept = [] from nothing, handled]
  refine ⟨_, stored, rows, rfl, ?_, ?_, ?_, ?_, ?_⟩
  · rw [localCopies, same, transferOf_deliveries, alike]
  · apply newTransfers_of_append
    dsimp only
    rw [written, entry, List.append_assoc]
    rfl
  · rw [isEntry, entryTo_enforceTransferScope enforced]
  · rw [← alike]
    exact logs.entries
  · rw [← few, show faults.drop 8 = (faults.drop 6).drop 2 from by rw [List.drop_drop]]
    exact logs.all

/-- A publish that does not come to its deliveries hands out nothing. -/
theorem publishHandler_quiet
    (quiet : ¬ PublishDelivers server pseudonymId bundle database faults) :
    (∃ error, (publishHandler server pseudonymId bundle ⟨database, [], faults⟩).1 =
        .error error) ∧
      (publishHandler server pseudonymId bundle ⟨database, [], faults⟩).2.memory = [] := by
  have fails : ∃ error, (publishHandler server pseudonymId bundle ⟨database, [], faults⟩).1 =
      .error error := by
    rcases @publishHandler_cases _ _ server database pseudonymId bundle faults with
      ⟨failed, -, -⟩ | ⟨commits, scope, storedBundle, changed, enforced, stored, ran⟩
    · exact failed
    · rw [ran, deliverStored_fails_iff, stored.otherSubscribers bundle,
        deliverable_enforceTransferScope enforced, ← not_and_or]
      exact fun delivers => quiet ⟨commits, delivers⟩
  refine ⟨fails, ?_⟩
  rcases fails with ⟨error, failed⟩
  have ensured := @publishHandler_ensures _ _ server database pseudonymId bundle faults
  rw [failed] at ensured
  exact ensured.1

/-- What a relay posts are transfers. -/
theorem transferOf_relayed (server : FederationServer Fq Key) (bundle : ReflectionSummaryBundle)
    (peers : List RelayPeer) :
    (peers.filterMap (relayTo server bundle)).filterMap transferOf = [] ↔
      peers.filterMap (relayTo server bundle) = [] := by
  rw [List.filterMap_eq_nil_iff]
  constructor
  · intro none
    rw [List.eq_nil_iff_forall_not_mem]
    intro message member
    have silent := none message member
    rcases List.mem_filterMap.mp member with ⟨peer, -, relayed⟩
    unfold relayTo at relayed
    split at relayed
    · cases relayed
    · split at relayed
      · cases relayed
      · split at relayed
        · cases relayed
        · split at relayed
          · cases relayed
          · cases relayed
            cases silent
  · intro none message member
    rw [none] at member
    cases member

/-- Every copy of a publish and of its relay is logged just when all of its deliveries are and
nothing is relayed. -/
theorem publishLogged_iff {relayDatabase : Database} {relayFaults : List (Option String)} :
    PublishLogged server pseudonymId bundle database relayDatabase faults relayFaults ↔
      PublishAccounts server pseudonymId bundle database relayDatabase faults relayFaults := by
  have relay := @relayRtxBundles_posts _ _ server relayDatabase bundle relayFaults
  by_cases delivers : PublishDelivers server pseudonymId bundle database faults
  · rcases publishHandler_logs delivers with
      ⟨copies, stored, rows, answered, handed, written, isEntry, logs⟩
    have silent : newTransfers relayDatabase
        (relayRtxBundles server bundle ⟨relayDatabase, [], relayFaults⟩).2.database = [] := by
      apply newTransfers_of_append
      rw [relay.1, List.append_nil]
    have posts : (relayRtxBundles server bundle
        ⟨relayDatabase, [], relayFaults⟩).2.memory.filterMap transferOf = [] ↔
          ¬ RelayPosts server bundle relayDatabase relayFaults := by
      by_cases posts : RelayPosts server bundle relayDatabase relayFaults
      · rw [relay.2.1 posts, transferOf_relayed]
        exact iff_of_false posts.2 (not_not_intro posts)
      · rw [relay.2.2 posts]
        exact iff_of_true rfl posts
    rw [PublishLogged, publishedCopies]
    simp only [answered]
    rw [List.filterMap_append, handed, written, silent, List.append_nil,
      eachLogged_iff isEntry ?_ logs.entries, posts, PublishAccounts]
    · rw [deliveredEntries, List.length_map, logs.all]
      exact (imp_iff_right delivers).symm
    · intro transfer member
      rcases List.mem_append.mp member with delivered | relayed
      · exact destination_deliveredEntries delivered
      · exact destination_transferOf relayed
  · rcases publishHandler_quiet delivers with ⟨⟨error, failed⟩, nothing⟩
    apply iff_of_true _ fun delivered => absurd delivered delivers
    rw [PublishLogged, publishedCopies]
    simp only [failed, nothing]
    exact eachLogged_nil _

/-! The receipt. -/

/-- The transaction of a receipt up to its deliveries. -/
def openReceipt (server : FederationServer Fq Key) (envelope : FederatedRtxEnvelope)
    (scope : VrpTransferScope) (scopedBundle : ReflectionSummaryBundle) :
    Sql Database (List Outbound) (Option FederationError) (List Subscriber) := do
  connect fun error => some (.dbError error)
  execute
    (fun error =>
      match error with
      | .constraint _ _ => none
      | error => some (.dbError error))
    (insertBundle server.serverId scopedBundle (some envelope.provenance))
  execute (fun error => some (.dbError error))
    (insertTransfer server.clock.datetime server.serverId scopedBundle none scope
      (redactions envelope.bundle scopedBundle))
  query (fun error => some (.dbError error)) fun database =>
    .ok (subscribers server.serverId (·.acceptFederated) database)

/-- The rest of it. -/
def closeReceipt (server : FederationServer Fq Key) (scopedBundle : ReflectionSummaryBundle)
    (found : List Subscriber) :
    Sql Database (List Outbound) (Option FederationError)
      (List (String × ReflectionSummaryBundle)) := do
  let copies ← deliver (some (.dbError (.conversion server.environment.joinErrorText)))
    server.clock.datetime server.serverId scopedBundle found
  connect fun error => some (.dbError error)
  pure copies

section Receipt

variable {envelope : FederatedRtxEnvelope} {scopedBundle : ReflectionSummaryBundle}

theorem takes_openReceipt : Takes 4 (openReceipt server envelope scope scopedBundle) :=
  takes_bind (takes_connect _) fun _ => takes_bind (takes_execute _ _) fun _ =>
    takes_bind (takes_execute _ _) fun _ => takes_query _ _

theorem storeFederatedRtx_eq_ok_iff {session after : Session Database (List Outbound)}
    {copies : List (String × ReflectionSummaryBundle)} :
    transaction (fun error => some (.dbError error)) (fun error => some (.dbError error))
        (storeFederatedRtx server envelope scope scopedBundle) session = (.ok copies, after) ↔
      (openReceipt server envelope scope scopedBundle >>=
        closeReceipt server scopedBundle) session = (.ok copies, after) := by
  rw [transaction_eq_ok_iff, storeFederatedRtx, openReceipt]
  simp only [bind_bind]
  exact Iff.rfl

/-- A transaction that comes to its deliveries has stored a new bundle with its entry. -/
theorem openReceipt_ensures :
    Ensures (openReceipt server envelope scope scopedBundle) database sent
      fun result changed after => after = sent ∧ ∀ found, result = .ok found →
        found = federatedSubscribers server database ∧ Entered scopedBundle database changed ∧
          database.rtxBundles.rows.any (·.bundleId = scopedBundle.bundleId) = false ∧
            database.servers.rows.any (·.id = server.serverId) = true := by
  have failed (error : Option FederationError) (changed : Database) : sent = sent ∧
      ∀ found, (.error error : Except (Option FederationError) (List Subscriber)) = .ok found →
        found = federatedSubscribers server database ∧ Entered scopedBundle database changed ∧
          database.rtxBundles.rows.any (·.bundleId = scopedBundle.bundleId) = false ∧
            database.servers.rows.any (·.id = server.serverId) = true :=
    ⟨rfl, fun _ same => by cases same⟩
  refine (looks_connect _).ensures_bind (fun _ => failed _ _) fun _ _ => ?_
  apply ensures_bind
  apply ensures_execute
  · exact fun _ => failed _ _
  · intro stored inserted
    rw [andThen_ok]
    apply ensures_bind
    apply ensures_execute
    · exact fun _ => failed _ _
    · intro logged transferred
      rw [andThen_ok]
      apply ensures_query
      · exact fun _ => failed _ _
      · intro found read
        rw [Except.ok.injEq] at read
        refine ⟨rfl, ?_⟩
        intro other same
        cases same
        refine ⟨?_, entered_of_inserted inserted transferred, insertBundle_eq_ok inserted⟩
        rw [← read]
        exact subscribers_of_inserted inserted transferred
      · exact fun _ _ => failed _ _
    · exact fun _ _ => failed _ _
  · exact fun _ _ => failed _ _

theorem openReceipt_achieves
    (fresh : database.rtxBundles.rows.any (·.bundleId = scopedBundle.bundleId) = false)
    (known : database.servers.rows.any (·.id = server.serverId) = true) :
    Achieves (openReceipt server envelope scope scopedBundle) database sent
      fun _ _ _ => True := by
  rcases @insertBundle_new server.serverId scopedBundle (some envelope.provenance) database
    fresh known with ⟨rtxBundles, -, inserted⟩
  rcases @insertTransfer_known server.clock.datetime server.serverId scopedBundle
    { database with rtxBundles } none (redactions envelope.bundle scopedBundle) scope known
    with ⟨log, logged⟩
  refine (connect_answers _).achieves_bind (achieves_bind (achieves_execute inserted
    (achieves_bind (achieves_execute logged ?_))))
  exact Answers.achieves (answers_query.mpr rfl) trivial

/-- The deliveries of a receipt are made and logged before it commits. -/
theorem closeReceipt_runs {found : List Subscriber}
    (known : database.servers.rows.any (·.id = server.serverId) = true)
    (deliverable : Deliverable scopedBundle found) :
    ∃ log rows, log.rows = database.rtxTransferLog.rows ++ rows ∧
      LogsDeliveries scopedBundle found faults rows ∧
        ∀ copies after, closeReceipt server scopedBundle found ⟨database, sent, faults⟩ =
            (.ok copies, after) ↔
          faultAt faults (deliveries scopedBundle found).length = none ∧
            copies = deliveries scopedBundle found ∧
              after = ⟨{ database with rtxTransferLog := log }, sent,
                faults.drop ((deliveries scopedBundle found).length + 1)⟩ := by
  rcases @deliver_logs (List Outbound) (Option FederationError) server.clock.datetime
    server.serverId scopedBundle
    (some (.dbError (.conversion server.environment.joinErrorText))) database sent faults found
    known deliverable with ⟨log, rows, ran, written, logs⟩
  refine ⟨log, rows, written, logs, ?_⟩
  intro copies after
  rw [closeReceipt, bind_ok ran]
  cases fault : faultAt faults (deliveries scopedBundle found).length with
  | none =>
      have commits : faultAt (faults.drop (deliveries scopedBundle found).length) 0 = none := by
        rw [faultAt_drop, Nat.add_zero, fault]
      rw [bind_ok (connect_done commits), pure_apply, List.tail_drop]
      simp only [Prod.mk.injEq, Except.ok.injEq, true_and]
      exact and_congr eq_comm eq_comm
  | some text =>
      have fails : faultAt (faults.drop (deliveries scopedBundle found).length) 0 =
          some text := by
        rw [faultAt_drop, Nat.add_zero, fault]
      rw [bind_error (connect_faulty fails)]
      apply iff_of_false
      · intro committed
        cases committed
      · intro committed
        cases committed.1

theorem takes_checkFederatedRtx : Takes 4 (checkFederatedRtx server envelope) :=
  takes_bind (takes_connect _) fun _ => takes_bind (takes_query _ _) fun _ =>
    takes_bind (takes_check _ _) fun _ => takes_bind (takes_check _ _) fun _ =>
    takes_bind (takes_query _ _) fun _ => takes_bind (takes_check _ _) fun _ =>
    takes_bind (takes_query _ _) fun _ => takes_bind (takes_require _ _) fun _ =>
    takes_bind (takes_check _ _) fun _ => takes_bind (takes_ofExcept _) fun _ =>
    takes_bind (takes_orElse _ _) fun _ => takes_bind (takes_orElse _ _) fun _ => takes_pure _

/-- What the transaction of a receipt comes to, whatever fails. -/
theorem storeFederatedRtx_logs {copies : List (String × ReflectionSummaryBundle)}
    {after : Session Database (List Outbound)}
    (ran : transaction (fun error => some (.dbError error)) (fun error => some (.dbError error))
      (storeFederatedRtx server envelope scope scopedBundle) ⟨database, sent, faults⟩ =
        (.ok copies, after)) :
    (database.rtxBundles.rows.any (·.bundleId = scopedBundle.bundleId) = false ∧
        database.servers.rows.any (·.id = server.serverId) = true ∧
        Deliverable scopedBundle (federatedSubscribers server database)) ∧
      (Spared faults 4 ∧ faultAt faults
        (4 + (deliveries scopedBundle (federatedSubscribers server database)).length) = none) ∧
      copies = deliveries scopedBundle (federatedSubscribers server database) ∧
      after.memory = sent ∧ ∃ stored rows,
        newTransfers database after.database = stored :: rows ∧
          loggedEntry stored = entryTo scopedBundle none ∧
            LogsDeliveries scopedBundle (federatedSubscribers server database) (faults.drop 4)
              rows := by
  rw [storeFederatedRtx_eq_ok_iff, bind_apply] at ran
  have ensured := @openReceipt_ensures _ _ server database scope sent envelope scopedBundle faults
  cases opened : openReceipt server envelope scope scopedBundle ⟨database, sent, faults⟩ with
  | mk result middle =>
  rw [opened] at ran ensured
  cases result with
  | error error => cases ran
  | ok found =>
      rcases ensured with ⟨kept, opens⟩
      rcases opens found rfl with ⟨isFound, ⟨servers, stored, entry, isEntry⟩, fresh, known⟩
      rcases middle with ⟨changed, passed, rest⟩
      rcases (takes_openReceipt ..).mp opened with ⟨spared, isRest, -⟩
      dsimp only at ran kept servers entry
      rw [isFound, kept, isRest] at ran
      have knows : changed.servers.rows.any (·.id = server.serverId) = true := by
        rw [servers, known]
      by_cases deliverable : Deliverable scopedBundle (federatedSubscribers server database)
      · rcases @closeReceipt_runs _ _ server changed (faults.drop 4) sent scopedBundle _ knows
          deliverable with ⟨log, rows, written, logs, closes⟩
        rcases (closes copies after).mp ran with ⟨commits, isCopies, isAfter⟩
        rw [faultAt_drop] at commits
        refine ⟨⟨fresh, known, deliverable⟩, ⟨spared, commits⟩, isCopies, ?_, stored, rows, ?_,
          isEntry, logs⟩
        · rw [isAfter]
        · apply newTransfers_of_append
          rw [isAfter]
          dsimp only
          rw [written, entry, List.append_assoc]
          rfl
      · rw [closeReceipt, bind_error (deliver_panics deliverable)] at ran
        cases ran

/-- A transaction that finds what it needs comes to its deliveries and commits. -/
theorem storeFederatedRtx_runs
    (fresh : database.rtxBundles.rows.any (·.bundleId = scopedBundle.bundleId) = false)
    (known : database.servers.rows.any (·.id = server.serverId) = true)
    (deliverable : Deliverable scopedBundle (federatedSubscribers server database))
    (spared : Spared faults 4)
    (commits : faultAt faults
      (4 + (deliveries scopedBundle (federatedSubscribers server database)).length) = none) :
    ∃ copies after,
      transaction (fun error => some (.dbError error)) (fun error => some (.dbError error))
        (storeFederatedRtx server envelope scope scopedBundle) ⟨database, sent, faults⟩ =
          (.ok copies, after) := by
  rcases @openReceipt_achieves _ _ server database scope sent envelope scopedBundle fresh known
    with ⟨found, changed, kept, answers, -⟩
  have opened := (takes_openReceipt ..).mpr ⟨spared, rfl, answers⟩
  have ensured := @openReceipt_ensures _ _ server database scope sent envelope scopedBundle faults
  rw [opened] at ensured
  rcases ensured.2 found rfl with ⟨isFound, ⟨servers, -⟩, -, -⟩
  have knows : changed.servers.rows.any (·.id = server.serverId) = true := by
    rw [servers, known]
  rcases @closeReceipt_runs _ _ server changed (faults.drop 4) kept scopedBundle _ knows
    deliverable with ⟨log, rows, -, -, closes⟩
  rw [← faultAt_drop] at commits
  have closed := (closes _ _).mpr ⟨commits, rfl, rfl⟩
  rw [← isFound] at closed
  exact ⟨_, _, storeFederatedRtx_eq_ok_iff.mpr ((bind_ok opened).trans closed)⟩

/-- The handler once the scope is known. -/
theorem receiveFederatedRtxHandler_stores {middle after : Session Database (List Outbound)}
    {session : Session Database (List Outbound)}
    {outcome : Except (Option FederationError) (List (String × ReflectionSummaryBundle))}
    (checked : checkFederatedRtx server envelope session = (.ok (scope, scopedBundle), middle))
    (ran : transaction (fun error => some (.dbError error)) (fun error => some (.dbError error))
      (storeFederatedRtx server envelope scope scopedBundle) middle = (outcome, after)) :
    (receiveFederatedRtxHandler server envelope session).2 =
      match outcome with
      | .error _ => after
      | .ok copies => { after with
          memory := after.memory ++ copies.map fun copy =>
            .rtxBundle copy.1 copy.2 (some envelope.provenance) } := by
  have attempted : attempt (transaction (fun error => some (.dbError error))
      (fun error => some (.dbError error))
      (storeFederatedRtx server envelope scope scopedBundle)) middle =
        ((.ok outcome : Except FederationError _), after) := by
    simp only [attempt, ran]
  rw [receiveFederatedRtxHandler, bind_ok checked]
  dsimp only
  rw [bind_ok attempted]
  cases outcome with
  | error error => cases error <;> rfl
  | ok copies => rfl

/-- A receipt that does not come to its deliveries hands out nothing. -/
theorem receiveFederatedRtxHandler_quiet
    (quiet : ¬ ReceiptDelivers server envelope database faults) :
    (receiveFederatedRtxHandler server envelope ⟨database, [], faults⟩).2.memory = [] := by
  have looks : Looks (checkFederatedRtx server envelope) := looks_checkFederatedRtx envelope
  have kept := looks.reads ⟨database, [], faults⟩
  cases checkedRun : checkFederatedRtx server envelope ⟨database, [], faults⟩ with
  | mk checked middle =>
  rw [checkedRun] at kept
  cases checked with
  | error error =>
      rw [receiveFederatedRtxHandler, bind_error checkedRun]
      exact kept.2
  | ok checked =>
      rcases checked with ⟨scope, scopedBundle⟩
      have looked := looks.answers checkedRun
      rcases answers_checkFederatedRtx.mp looked.1 with ⟨⟨remote, admitted⟩, enforced⟩
      have spared := (takes_checkFederatedRtx _ _ _ _ _ _ _).mp
        (checkedRun.trans (congrArg _ looked.2))
      cases stored : transaction (fun error => some (.dbError error))
          (fun error => some (.dbError error))
          (storeFederatedRtx server envelope scope scopedBundle) middle with
      | mk outcome after =>
      rw [receiveFederatedRtxHandler_stores checkedRun stored]
      rw [looked.2, spared.2.1] at stored
      cases outcome with
      | error error =>
          have ensured := @storeFederatedRtx_ensures _ _ server database [] envelope scope
            scopedBundle (faults.drop 4)
          rw [stored] at ensured
          exact ensured.1
      | ok copies =>
          rcases storeFederatedRtx_logs stored with
            ⟨⟨fresh, known, deliverable⟩, ⟨sparedNext, commits⟩, -⟩
          have few := length_deliveries_enforceTransferScope enforced
            (federatedSubscribers server database)
          rw [bundleId_enforceTransferScope enforced] at fresh
          rw [faultAt_drop, few] at commits
          refine absurd ⟨⟨⟨remote, scope, admitted⟩, fresh, known,
            (deliverable_enforceTransferScope enforced).mp deliverable⟩, ?_, ?_⟩ quiet
          · exact spared_add.mpr ⟨spared.1, sparedNext⟩
          · rw [← commits]
            congr 1
            omega

/-- What a receipt leaves when it comes to its deliveries. -/
theorem receiveFederatedRtxHandler_logs
    (delivers : ReceiptDelivers server envelope database faults) :
    ∃ stored rows,
      (receiveFederatedRtxHandler server envelope
          ⟨database, [], faults⟩).2.memory.filterMap transferOf =
        deliveredEntries envelope.bundle (federatedSubscribers server database) ∧
      newTransfers database
          (receiveFederatedRtxHandler server envelope ⟨database, [], faults⟩).2.database =
        stored :: rows ∧
      loggedEntry stored = entryTo envelope.bundle none ∧
      LogsDeliveries envelope.bundle (federatedSubscribers server database) (faults.drop 8)
        rows := by
  rcases delivers with ⟨⟨⟨remote, scope, admitted⟩, fresh, known, deliverable⟩, spared, commits⟩
  rcases enforceTransferScope_eq_ok admitted.permitted envelope.bundle with
    ⟨scopedBundle, enforced⟩
  have each := spared_add.mp (show Spared faults (4 + 4) from spared)
  have answers : Answers (checkFederatedRtx server envelope) database [] (scope, scopedBundle) :=
    answers_checkFederatedRtx.mpr ⟨⟨remote, admitted⟩, enforced⟩
  have checked := (takes_checkFederatedRtx ..).mpr ⟨each.1, rfl, answers⟩
  have alike := deliveredEntries_enforceTransferScope enforced
    (federatedSubscribers server database)
  have few := length_deliveries_enforceTransferScope enforced
    (federatedSubscribers server database)
  rw [← bundleId_enforceTransferScope enforced] at fresh
  rw [← few, show ∀ count, 8 + count = 4 + (4 + count) by omega, ← faultAt_drop] at commits
  rcases @storeFederatedRtx_runs _ _ server database scope (faults.drop 4) [] envelope
    scopedBundle fresh known ((deliverable_enforceTransferScope enforced).mpr deliverable) each.2
    commits with ⟨copies, after, ran⟩
  rcases storeFederatedRtx_logs ran with
    ⟨-, -, isCopies, nothing, stored, rows, written, isEntry, logs⟩
  rw [receiveFederatedRtxHandler_stores checked ran]
  refine ⟨stored, rows, ?_, written, ?_, ?_, ?_⟩
  · dsimp only
    rw [nothing, List.nil_append, isCopies, transferOf_deliveries, alike]
  · rw [isEntry, entryTo_enforceTransferScope enforced]
  · rw [← alike]
    exact logs.entries
  · rw [← few, show faults.drop 8 = (faults.drop 4).drop 4 from by rw [List.drop_drop]]
    exact logs.all

/-- Every copy of a receipt is logged just when all of its deliveries are. -/
theorem receiptLogged_iff :
    ReceiptLogged server envelope database faults ↔
      ReceiptAccounts server envelope database faults := by
  rw [ReceiptLogged]
  by_cases delivers : ReceiptDelivers server envelope database faults
  · rcases receiveFederatedRtxHandler_logs delivers with
      ⟨stored, rows, handed, written, isEntry, logs⟩
    rw [handed, written, ← List.append_nil (deliveredEntries _ _),
      eachLogged_iff isEntry ?_ logs.entries, and_iff_left rfl, ReceiptAccounts]
    · rw [deliveredEntries, List.length_map, logs.all]
      exact (imp_iff_right delivers).symm
    · intro transfer member
      rw [List.append_nil] at member
      exact destination_deliveredEntries member
  · rw [receiveFederatedRtxHandler_quiet delivers]
    exact iff_of_true (eachLogged_nil _) fun delivered => absurd delivered delivers

end Receipt

/-- The transfer log is complete for the publishes, with their relays, that log all of their
deliveries and relay nothing, and for the receipts that log all of their deliveries. -/
theorem transferLog_complete_iff (server : FederationServer Fq Key) :
    (∀ pseudonymId bundle database relayDatabase faults relayFaults,
      PublishLogged server pseudonymId bundle database relayDatabase faults relayFaults ↔
        PublishAccounts server pseudonymId bundle database relayDatabase faults relayFaults) ∧
    ∀ envelope database faults, ReceiptLogged server envelope database faults ↔
      ReceiptAccounts server envelope database faults :=
  ⟨fun _ _ _ _ _ _ => publishLogged_iff, fun _ _ _ => receiptLogged_iff⟩

/-- The chained bundle reaches its subscriber although logging that delivery fails. -/
theorem not_transferLog_complete :
    ¬ ∀ (server : FederationServer Unit Unit) (pseudonymId : String)
      (bundle : ReflectionSummaryBundle) (database relayDatabase : Database)
      (faults relayFaults : List (Option String)),
        PublishLogged server pseudonymId bundle database relayDatabase faults relayFaults := by
  intro complete
  have logged := complete restrictedServer "agent" chainedBundle subscribedDatabase
    subscribedDatabase [none, none, none, none, none, none, none, none, some "disk I/O error"] []
  rw [PublishLogged, EachLogged] at logged
  revert logged
  decide +kernel

end Annex.Server
