import Annex.Server.RtxRequests

namespace Annex.Server

open Db Interleaving Rtx Sql Vrp

/-! What moderators are told of the transfer log, and agents of their subscriptions, while other
requests go on. -/

/-- A request about bundles, or a change that another part of the server makes. -/
inductive RtxApiRequest where
  | publish (pseudonymId : String) (bundle : ReflectionSummaryBundle)
  | receive (envelope : FederatedRtxEnvelope)
  | subscribe (pseudonym : String) (domainFilters : List String) (acceptFederated : Bool)
  | unsubscribe (pseudonym : String)
  | getSubscription (pseudonym : String)
  | transfers (identity : PlatformIdentity) (query : TransferLogQuery)
  | summary (identity : PlatformIdentity)
  | elsewhere (change : Database → Database)

inductive RtxApiReply where
  | delivered (count : Nat)
  | subscription (info : Option SubscriptionInfo)
  | transfers (response : TransferLogResponse)
  | summary (response : GovernanceSummaryResponse)
  | changed

/-- The tables of bundles, subscriptions and transfers are written by no other part. -/
def changeBeside (change : Database → Database) (database : Database) : Database :=
  { change database with
    rtxBundles := database.rtxBundles
    rtxSubscriptions := database.rtxSubscriptions
    rtxTransferLog := database.rtxTransferLog }

abbrev RtxApiError := ApiError ⊕ FederationError

abbrev RtxApiLabel := Label RtxApiRequest (Task.Turn RtxContext)

section Definitions

variable {Fq Key : Type} (server : FederationServer Fq Key)

def RtxApiRequest.handler : RtxApiRequest → RtxTask RtxApiError RtxApiReply
  | .publish pseudonymId bundle => do
      let count ← (publishing server pseudonymId bundle).mapError .inl
      pure (.delivered count)
  | .receive envelope => do
      let count ← (receiving server envelope).mapError .inr
      pure (.delivered count)
  | .subscribe pseudonym domainFilters acceptFederated => do
      let info ← (subscribeHandler server pseudonym domainFilters acceptFederated).mapError .inl
      pure (.subscription (some info))
  | .unsubscribe pseudonym => do
      (unsubscribeHandler server pseudonym).mapError .inl
      pure (.subscription none)
  | .getSubscription pseudonym => do
      let info ← (getSubscriptionHandler server pseudonym).mapError .inl
      pure (.subscription info)
  | .transfers identity query => do
      let response ← (governanceTransfersHandler server identity query).mapError .inl
      pure (.transfers response)
  | .summary identity => do
      let response ← (governanceSummaryHandler server identity).mapError .inl
      pure (.summary response)
  | .elsewhere change => do
      Task.issue fun _ => execute (fun error => .inl (dbQueryFailed error)) fun database =>
        .ok (changeBeside change database)
      pure .changed

/-- The requests, command by command. -/
def rtxApi : Routine (Task.World Database (List Outbound))
    (RtxApiRequest × RtxTask RtxApiError RtxApiReply) RtxApiRequest (Task.Turn RtxContext)
    (RtxApiRequest × Except RtxApiError RtxApiReply) :=
  Task.calls Task.Single.run (RtxApiRequest.handler server)

/-- The transfer log is only ever added to. -/
def LogGrows (before after : Database) : Prop :=
  before.rtxTransferLog.rows <+: after.rtxTransferLog.rows

/-- What a page says, between the database that its request came to and the one it read. -/
structure PageOf (query : TransferLogQuery) (before after : Database)
    (response : TransferLogResponse) : Prop where
  limit : response.limit = min (query.limit.getD 50) 500
  offset : response.offset = query.offset.getD 0
  transfers : response.transfers =
    pageAt response.limit response.offset (query.entries server.serverId after)
  atLeast : (query.entries server.serverId before).length ≤ response.total
  atMost : response.total ≤ (query.entries server.serverId after).length

/-- The figure is that of a state of the log between the two. -/
def Between (count : List RtxTransfer → Nat) (before after : Database) (figure : Nat) : Prop :=
  count (transfersOf server.serverId before) ≤ figure ∧
    figure ≤ count (transfersOf server.serverId after)

/-- What a summary says, between the database that its request came to and the one it read
last. -/
structure SummaryOf (before after : Database) (response : GovernanceSummaryResponse) : Prop where
  total : Between server List.length before after response.totalTransfers
  bundles : Between server (countDistinct RtxTransfer.bundleId) before after
    response.uniqueBundles
  sources : Between server (countDistinct RtxTransfer.sourcePseudonym) before after
    response.uniqueSources
  destinations : Between server (fun rows => countDistinct RtxTransfer.destinationPseudonym
    (rows.filter (·.destinationPseudonym.isSome))) before after response.uniqueDestinations
  redacted : Between server (List.countP (·.redactionsApplied.isSome)) before after
    response.redactedTransfers
  scopes : ∃ ties, response.byScope = countByKey RtxTransfer.transferScopeApplied ties
    (transfersOf server.serverId after)

/-- What holds of an answer about the log. -/
def LogAnswered (request : RtxApiRequest) (before : Task.World Database (List Outbound))
    (result : Except RtxApiError RtxApiReply) (after : Task.World Database (List Outbound)) :
    Prop :=
  match request, result with
  | .transfers identity query, .ok (.transfers response) =>
      identity.canModerate = true ∧ PageOf server query before.database after.database response
  | .summary identity, .ok (.summary response) =>
      identity.canModerate = true ∧ SummaryOf server before.database after.database response
  | _, _ => True

end Definitions

/-! What publishing and receiving write. -/

/-- A relation between databases that new bundles and new transfers do not touch. -/
structure AllowsBundles (relation : Database → Database → Prop) : Prop where
  bundles : ∀ origin database rtxBundles, relation origin database →
    relation origin { database with rtxBundles }
  transfers : ∀ origin database make keyed, relation origin database →
    relation origin
      { database with rtxTransferLog := database.rtxTransferLog.insert make keyed }

section Bundles

variable {Fq Key : Type} {server : FederationServer Fq Key} {Memory Error : Type}
  {relation : Database → Database → Prop} {origin : Database}

theorem preserves_insertBundle (allows : AllowsBundles relation) {wrap : DbError → Error}
    {serverId : Nat} {bundle : ReflectionSummaryBundle} {provenance : Option BundleProvenance} :
    Preserves (relation origin) (execute wrap (insertBundle serverId bundle provenance) :
      Sql Database Memory Error Unit) := by
  apply preserves_execute
  intro database changed inserted related
  unfold insertBundle at inserted
  split at inserted
  · cases inserted
  · split at inserted
    · cases inserted
    · rw [← Except.ok.inj inserted]
      exact allows.bundles origin database _ related

theorem preserves_insertTransfer (allows : AllowsBundles relation) {wrap : DbError → Error}
    {now : String} {serverId : Nat} {bundle : ReflectionSummaryBundle}
    {destination redactionsApplied : Option String} {scope : VrpTransferScope} :
    Preserves (relation origin) (execute wrap
      (insertTransfer now serverId bundle destination scope redactionsApplied) :
        Sql Database Memory Error Unit) := by
  apply preserves_execute
  intro database changed inserted related
  unfold insertTransfer at inserted
  split at inserted
  · cases inserted
  · rw [← Except.ok.inj inserted]
    exact allows.transfers origin database _ _ related

theorem preserves_deliver (allows : AllowsBundles relation) {panicked : Error} {now : String}
    {serverId : Nat} {bundle : ReflectionSummaryBundle} {subscribers : List Subscriber} :
    Preserves (relation origin) (deliver panicked now serverId bundle subscribers :
      Sql Database Memory Error (List (String × ReflectionSummaryBundle))) := by
  induction subscribers with
  | nil => exact (reads_pure _).preserves
  | cons subscriber rest induction =>
      unfold deliver
      split
      · exact induction
      · split
        · refine preserves_bind (preserves_attempt (preserves_insertTransfer allows)) fun _ => ?_
          exact preserves_bind induction fun _ => (reads_pure _).preserves
        · exact (reads_fail _).preserves

theorem preserves_storePublished (allows : AllowsBundles relation)
    {bundle storedBundle : ReflectionSummaryBundle} {scope : VrpTransferScope} :
    Preserves (relation origin) (storePublished server bundle storedBundle scope) :=
  preserves_transaction (preserves_bind (preserves_insertBundle allows) fun _ =>
    preserves_insertTransfer allows)

theorem preserves_storeFederatedRtx (allows : AllowsBundles relation)
    {envelope : FederatedRtxEnvelope} {scope : VrpTransferScope}
    {scopedBundle : ReflectionSummaryBundle} :
    Preserves (relation origin) (storeFederatedRtx server envelope scope scopedBundle) :=
  preserves_bind (preserves_insertBundle allows) fun _ =>
    preserves_bind (preserves_insertTransfer allows) fun _ =>
      preserves_bind (reads_query _ _).preserves fun _ => preserves_deliver allows

/-- Every command of the request keeps to the relation. -/
def KeepsTo (relation : Database → Database → Prop) {α : Type} (task : RtxTask Error α) : Prop :=
  task.Always fun _ command => ∀ turn world,
    Task.OnDatabase relation world (Task.performed Task.Single.run turn command world).2

variable [Std.Refl relation]

theorem keepsTo_reads {α : Type}
    {program : RtxContext → Sql Database (List Outbound) Error α}
    (reads : ∀ context, Reads (program context)) : KeepsTo relation (Task.issue program) :=
  Task.always_issue_of_preserves fun context _ => (reads context).preserves

theorem keepsTo_deliverEach (allows : AllowsBundles relation)
    {bundle : ReflectionSummaryBundle} {subscribers : List Subscriber} :
    KeepsTo relation (deliverEach server bundle subscribers) := by
  induction subscribers with
  | nil => trivial
  | cons subscriber rest induction =>
      unfold deliverEach
      split
      · exact induction
      · split
        · refine Task.always_bind (Task.always_issue_of_preserves fun _ _ =>
            preserves_attempt (preserves_insertTransfer allows)) fun _ => ?_
          exact Task.always_bind induction fun _ => trivial
        · trivial

theorem keepsTo_publishing (allows : AllowsBundles relation) {pseudonymId : String}
    {bundle : ReflectionSummaryBundle} :
    KeepsTo relation (publishing server pseudonymId bundle) := by
  refine Task.always_bind (keepsTo_reads fun _ => ?_) fun _ =>
    Task.always_bind (Task.always_issue_of_preserves fun _ _ =>
      preserves_storePublished allows) fun _ =>
    Task.always_bind (keepsTo_reads fun _ => reads_connect _) fun _ =>
    Task.always_bind (keepsTo_reads fun _ => reads_query _ _) fun _ =>
    Task.always_bind (keepsTo_deliverEach allows) fun _ =>
    Task.always_bind (Task.always_issue_of_preserves fun _ _ => preserves_remember _) fun _ =>
    trivial
  exact (looks_checkPublish _ _).reads

theorem keepsTo_receiving (allows : AllowsBundles relation) {envelope : FederatedRtxEnvelope} :
    KeepsTo relation (receiving server envelope) := by
  refine Task.always_bind (keepsTo_reads fun _ => reads_connect _) fun _ =>
    Task.always_bind (keepsTo_reads fun _ => reads_query _ _) fun _ =>
    Task.always_bind trivial fun _ => Task.always_bind trivial fun _ =>
    Task.always_bind (keepsTo_reads fun _ => reads_query _ _) fun _ =>
    Task.always_bind trivial fun _ =>
    Task.always_bind (keepsTo_reads fun _ => reads_query _ _) fun _ =>
    Task.always_bind (keepsTo_reads fun _ => ?_) fun _ =>
    Task.always_bind (Task.always_issue_of_preserves fun _ _ => preserves_attempt
      (preserves_transaction (preserves_storeFederatedRtx allows))) fun outcome =>
    Task.always_issue_of_preserves fun _ _ => ?_
  · apply Looks.reads
    exact looks_bind (looks_require _ _) fun _ => looks_bind (looks_check _ _) fun _ =>
      looks_bind (looks_ofExcept _) fun _ => looks_bind (looks_orElse _ _) fun _ =>
      looks_bind (looks_orElse _ _) fun _ => looks_pure _
  · rcases outcome with (_ | error) | delivered
    · exact (reads_pure _).preserves
    · exact (reads_fail _).preserves
    · exact preserves_bind (preserves_remember _) fun _ => (reads_pure _).preserves

end Bundles

/-! The log only grows. -/

instance : Std.Refl LogGrows where
  refl _ := List.prefix_rfl

instance : IsTrans Database LogGrows where
  trans _ _ _ := List.IsPrefix.trans

theorem allowsBundles_logGrows : AllowsBundles LogGrows where
  bundles _ _ _ grows := grows
  transfers _ _ _ _ grows := grows.trans (List.prefix_append _ _)

section Grows

variable {Fq Key : Type} {server : FederationServer Fq Key} {before after : Database}
  {query : TransferLogQuery} {serverId : Nat} {identity : PlatformIdentity}
  {origin world : Task.World Database (List Outbound)}

theorem entries_suffix (grows : LogGrows before after) :
    query.entries serverId before <:+ query.entries serverId after :=
  List.reverse_suffix.mpr ((grows.filter _).map _)

theorem transfersOf_grows (grows : LogGrows before after) :
    transfersOf serverId before <+: transfersOf serverId after :=
  grows.filter _

theorem length_entries (query : TransferLogQuery) (serverId : Nat) (database : Database) :
    (query.entries serverId database).length =
      database.rtxTransferLog.rows.countP (query.selects serverId) := by
  rw [TransferLogQuery.entries, List.length_reverse, List.length_map, List.countP_eq_length_filter]

/-- The rows of a page are read after they are counted. -/
theorem endsIn_governanceTransfers (grown : Task.OnDatabase LogGrows origin world) :
    (governanceTransfersHandler server identity query).EndsIn Task.Single.run
      (Task.OnDatabase LogGrows)
      (fun result after => ∀ response, result = .ok response → identity.canModerate = true ∧
        PageOf server query origin.database after.database response) world := by
  have refused : ∀ (error : ApiError) (after : Task.World Database (List Outbound)) response,
      (.error error : Except ApiError TransferLogResponse) = .ok response →
        identity.canModerate = true ∧
          PageOf server query origin.database after.database response :=
    fun _ _ _ failed => by cases failed
  refine Task.endsIn_demand_bind (refused _ _) fun moderates =>
    Task.endsIn_query_bind refused fun _ first firstGrown _ _ =>
    Task.endsIn_query_bind refused fun _ counted countedGrown total isTotal =>
    Task.endsIn_query_bind refused fun _ second secondGrown _ _ =>
    Task.endsIn_query_bind refused fun _ last lastGrown transfers isPage => ?_
  intro response isResponse
  rw [← Except.ok.inj isResponse, ← Except.ok.inj isPage, ← Except.ok.inj isTotal]
  rw [← length_entries]
  have counting : LogGrows origin.database counted.database :=
    grown.trans (firstGrown.trans countedGrown)
  have reading : LogGrows counted.database last.database := secondGrown.trans lastGrown
  exact ⟨moderates, rfl, rfl, rfl, (entries_suffix counting).length_le,
    (entries_suffix reading).length_le⟩

theorem between_of_grows {count : List RtxTransfer → Nat} {counted : Database}
    (monotone : ∀ rows newer, count rows ≤ count (rows ++ newer))
    (first : LogGrows before counted) (second : LogGrows counted after) :
    Between server count before after (count (transfersOf server.serverId counted)) := by
  constructor
  · rcases @transfersOf_grows _ _ server.serverId first with ⟨newer, grown⟩
    exact grown ▸ monotone _ newer
  · rcases @transfersOf_grows _ _ server.serverId second with ⟨newer, grown⟩
    exact grown ▸ monotone _ newer

/-- Each figure of a summary is read by a statement of its own. -/
theorem endsIn_governanceSummary (grown : Task.OnDatabase LogGrows origin world) :
    (governanceSummaryHandler server identity).EndsIn Task.Single.run
      (Task.OnDatabase LogGrows)
      (fun result after => ∀ response, result = .ok response → identity.canModerate = true ∧
        SummaryOf server origin.database after.database response) world := by
  have refused : ∀ (error : ApiError) (after : Task.World Database (List Outbound)) response,
      (.error error : Except ApiError GovernanceSummaryResponse) = .ok response →
        identity.canModerate = true ∧ SummaryOf server origin.database after.database response :=
    fun _ _ _ failed => by cases failed
  refine Task.endsIn_demand_bind (refused _ _) fun moderates =>
    Task.endsIn_query_bind refused fun _ connected connectedLater _ _ =>
    Task.endsIn_query_bind refused fun _ first firstLater total isTotal =>
    Task.endsIn_query_bind refused fun _ second secondLater bundles isBundles =>
    Task.endsIn_query_bind refused fun _ third thirdLater sources isSources =>
    Task.endsIn_query_bind refused fun _ fourth fourthLater destinations isDestinations =>
    Task.endsIn_query_bind refused fun _ fifth fifthLater redacted isRedacted =>
    Task.endsIn_query_bind refused fun _ prepared preparedLater _ _ =>
    Task.endsIn_query_bind refused fun context last lastLater byScope isByScope => ?_
  intro response isResponse
  rw [← Except.ok.inj isResponse, ← Except.ok.inj isTotal, ← Except.ok.inj isBundles,
    ← Except.ok.inj isSources, ← Except.ok.inj isDestinations, ← Except.ok.inj isRedacted,
    ← Except.ok.inj isByScope]
  -- each database from the request's arrival on, and up to the last one
  have untilFifth : LogGrows fifth.database last.database := preparedLater.trans lastLater
  have untilFourth : LogGrows fourth.database last.database := fifthLater.trans untilFifth
  have untilThird : LogGrows third.database last.database := fourthLater.trans untilFourth
  have untilSecond : LogGrows second.database last.database := thirdLater.trans untilThird
  have untilFirst : LogGrows first.database last.database := secondLater.trans untilSecond
  have fromFirst : LogGrows origin.database first.database :=
    grown.trans (connectedLater.trans firstLater)
  have fromSecond : LogGrows origin.database second.database := fromFirst.trans secondLater
  have fromThird : LogGrows origin.database third.database := fromSecond.trans thirdLater
  have fromFourth : LogGrows origin.database fourth.database := fromThird.trans fourthLater
  have fromFifth : LogGrows origin.database fifth.database := fromFourth.trans fifthLater
  refine ⟨moderates, ?_⟩
  constructor
  · exact between_of_grows (fun rows newer => by simp) fromFirst untilFirst
  · exact between_of_grows countDistinct_append_le fromSecond untilSecond
  · exact between_of_grows countDistinct_append_le fromThird untilThird
  · apply between_of_grows _ fromFourth untilFourth
    intro rows newer
    rw [List.filter_append]
    exact countDistinct_append_le _ _
  · exact between_of_grows (fun rows newer => by simp) fromFifth untilFifth
  · exact ⟨context.scopeTies, rfl⟩

theorem keepsTo_subscribeHandler {pseudonym : String} {domainFilters : List String}
    {acceptFederated : Bool} {relation : Database → Database → Prop} [Std.Refl relation]
    (upserts : ∀ origin database changed,
      upsertSubscription server.serverId pseudonym domainFilters acceptFederated database =
        .ok changed → relation origin database → relation origin changed) :
    KeepsTo relation (subscribeHandler server pseudonym domainFilters acceptFederated) :=
  Task.always_bind (keepsTo_reads fun _ => reads_connect _) fun _ =>
    Task.always_bind (keepsTo_reads fun _ => reads_query _ _) fun _ =>
    Task.always_bind (keepsTo_reads fun _ => reads_require _ _) fun _ =>
    Task.always_bind trivial fun _ =>
    Task.always_bind (Task.always_issue_of_preserves fun _ origin =>
      preserves_execute (upserts origin)) fun _ =>
    Task.always_bind (keepsTo_reads fun _ => reads_query _ _) fun _ => trivial

theorem keepsTo_unsubscribeHandler {pseudonym : String}
    {relation : Database → Database → Prop} [Std.Refl relation]
    (deletes : ∀ origin database, relation origin database →
      relation origin (deleteSubscription server.serverId pseudonym database).2) :
    KeepsTo relation (unsubscribeHandler server pseudonym) := by
  refine Task.always_bind (keepsTo_reads fun _ => reads_connect _) fun _ =>
    Task.always_bind (Task.always_issue_of_preserves fun _ origin => ?_) fun _ => trivial
  apply preserves_statement
  intro database deleted changed done
  rw [← (Prod.mk.inj (Except.ok.inj done)).2]
  exact deletes origin database

theorem keepsTo_getSubscriptionHandler {pseudonym : String}
    {relation : Database → Database → Prop} [Std.Refl relation] :
    KeepsTo relation (getSubscriptionHandler server pseudonym) := by
  refine Task.always_bind (keepsTo_reads fun _ => reads_connect _) fun _ =>
    Task.always_bind (keepsTo_reads fun _ => reads_query _ _) fun found => ?_
  cases found <;> trivial

/-- A request ends as its handler does, with the reply that the handler's value makes. -/
theorem endsIn_reply {Error α : Type} {task : RtxTask Error α} {wrap : Error → RtxApiError}
    {reply : α → RtxApiReply}
    {rely : Task.World Database (List Outbound) → Task.World Database (List Outbound) → Prop}
    {post : Except RtxApiError RtxApiReply → Task.World Database (List Outbound) → Prop}
    (ends : task.EndsIn Task.Single.run rely
      (fun result after => post (result.mapError wrap |>.map reply) after) world) :
    (do
      let value ← task.mapError wrap
      pure (reply value) : RtxTask RtxApiError RtxApiReply).EndsIn Task.Single.run rely post
        world := by
  refine Task.endsIn_bind (Task.endsIn_mapError (Task.endsIn_mono ends ?_))
  intro result after holds
  cases result <;> exact holds

/-- Beside requests that only add to the log, each ends as said. -/
theorem endsIn_logAnswered (request : RtxApiRequest)
    (grown : Task.OnDatabase LogGrows origin world) :
    (request.handler server).EndsIn Task.Single.run (Task.OnDatabase LogGrows)
      (LogAnswered server request origin) world := by
  cases request with
  | publish pseudonymId bundle =>
      exact endsIn_reply (Task.endsIn_of_always (keepsTo_publishing allowsBundles_logGrows)
        fun _ _ => trivial)
  | receive envelope =>
      exact endsIn_reply (Task.endsIn_of_always (keepsTo_receiving allowsBundles_logGrows)
        fun _ _ => trivial)
  | subscribe pseudonym domainFilters acceptFederated =>
      refine endsIn_reply (Task.endsIn_of_always (keepsTo_subscribeHandler ?_) fun _ _ => trivial)
      intro first database changed upserted grows
      unfold upsertSubscription at upserted
      split at upserted
      · cases upserted
      · rw [← Except.ok.inj upserted]
        exact grows
  | unsubscribe pseudonym =>
      exact endsIn_reply (Task.endsIn_of_always
        (keepsTo_unsubscribeHandler fun _ _ grows => grows) fun _ _ => trivial)
  | getSubscription pseudonym =>
      exact endsIn_reply (Task.endsIn_of_always keepsTo_getSubscriptionHandler fun _ _ => trivial)
  | transfers identity query =>
      refine endsIn_reply (Task.endsIn_mono (endsIn_governanceTransfers grown) ?_)
      intro result after pages
      cases result with
      | ok response => exact pages response rfl
      | error error => trivial
  | summary identity =>
      refine endsIn_reply (Task.endsIn_mono (endsIn_governanceSummary grown) ?_)
      intro result after summarizes
      cases result with
      | ok response => exact summarizes response rfl
      | error error => trivial
  | elsewhere change =>
      refine Task.endsIn_of_always (Task.always_bind
        (Task.always_issue_of_preserves fun _ first => ?_) fun _ => trivial) fun _ _ => trivial
      apply preserves_execute
      intro database changed isChanged grows
      rw [← Except.ok.inj isChanged]
      exact grows

end Grows

section Answers

variable {Fq Key : Type} (server : FederationServer Fq Key)
  (initial : Task.World Database (List Outbound)) (labels : List RtxApiLabel)

/-- The answers of a run, in the order in which they are given. -/
def rtxAnswers : List (RtxApiRequest × Except RtxApiError RtxApiReply) :=
  (rtxApi server).answers (idle initial) labels

variable {server initial labels}

theorem chosen_logAnswered {chosen : List (RtxApiRequest × Except RtxApiError RtxApiReply)}
    (answered : chosen.Sublist (rtxAnswers server initial labels)) :
    ∃ worlds, List.Forall₂ (Task.Concluded (Task.OnDatabase LogGrows) (LogAnswered server)
        initial) chosen worlds ∧
      worlds.Pairwise (Task.OnDatabase LogGrows) ∧
        ∀ world ∈ worlds, LogGrows initial.database world.database :=
  Task.chosen_concluded (fun request (_ : True) _ _ grown => endsIn_logAnswered request grown)
    (fun _ _ _ => trivial) answered

theorem logAnswered_of_mem {answer : RtxApiRequest × Except RtxApiError RtxApiReply}
    (member : answer ∈ rtxAnswers server initial labels) :
    ∃ before after : Task.World Database (List Outbound),
      LogGrows initial.database before.database ∧ LogGrows before.database after.database ∧
        LogAnswered server answer.1 before answer.2 after := by
  rcases chosen_logAnswered (List.singleton_sublist.mpr member) with ⟨worlds, concluded, -⟩
  rcases List.forall₂_cons_left_iff.mp concluded with ⟨after, _, ⟨before, began, since, holds⟩, -⟩
  exact ⟨before, after, began, since, holds⟩

/-- Whoever pages through the transfers of a query, each page where the one before ends and the
last not full, misses none that was there when the first was asked for, whatever is logged
meanwhile. -/
theorem transfers_walk_complete (identity : PlatformIdentity) (query : TransferLogQuery)
    (pages : List (Option Nat × TransferLogResponse))
    (answered : (pages.map fun page =>
      (RtxApiRequest.transfers identity { query with offset := page.1 },
        Except.ok (RtxApiReply.transfers page.2))).Sublist (rtxAnswers server initial labels))
    (walk : Walk (min (query.limit.getD 50) 500) 0
      (pages.map fun page => (page.2.offset, page.2.transfers)))
    (row : RtxTransfer) (member : row ∈ initial.database.rtxTransferLog.rows)
    (selected : query.selects server.serverId row = true) :
    ∃ page ∈ pages, TransferLogEntry.ofRow row ∈ page.2.transfers := by
  rcases chosen_logAnswered answered with ⟨worlds, concluded, ordered, later⟩
  have reads : List.Forall₂
      (fun page entries => page.2 = pageAt (min (query.limit.getD 50) 500) page.1 entries)
      (pages.map fun page => (page.2.offset, page.2.transfers))
      (worlds.map fun world => query.entries server.serverId world.database) := by
    rw [List.forall₂_map_left_iff] at concluded
    rw [List.forall₂_map_left_iff, List.forall₂_map_right_iff]
    apply concluded.imp
    intro page world ends
    rcases ends with ⟨before, -, -, -, isPage⟩
    rw [isPage.transfers, isPage.limit]
    rfl
  have grows : (worlds.map fun world => query.entries server.serverId world.database).Pairwise
      fun old new => old <:+ new :=
    List.pairwise_map.mpr (ordered.imp entries_suffix)
  have listed : TransferLogEntry.ofRow row ∈
      (query.entries server.serverId initial.database).drop 0 :=
    List.mem_reverse.mpr (List.mem_map_of_mem (List.mem_filter.mpr ⟨member, selected⟩))
  have found := mem_of_walk reads grows (by
    intro entries isEntries
    rcases List.mem_map.mp isEntries with ⟨world, isWorld, same⟩
    exact same ▸ entries_suffix (later world isWorld)) walk listed
  rcases found with ⟨_, isPage, there⟩
  rcases List.mem_map.mp isPage with ⟨page, isMember, same⟩
  rw [← same] at there
  exact ⟨page, isMember, there⟩

/-- The figures of a summary that a moderator is shown are of a log that grew while they were
read, the counts by scope last: together they are as many as all transfers then, and no figure
is more. -/
theorem summary_consistent (identity : PlatformIdentity) (response : GovernanceSummaryResponse)
    (answered : (.summary identity, .ok (.summary response)) ∈
      rtxAnswers server initial labels) :
    identity.canModerate = true ∧
      (∃ before after, LogGrows initial.database before ∧ LogGrows before after ∧
        SummaryOf server before after response ∧
        (response.byScope.map Prod.snd).sum = (transfersOf server.serverId after).length) ∧
      (∀ figure ∈ [response.totalTransfers, response.uniqueBundles, response.uniqueSources,
          response.uniqueDestinations, response.redactedTransfers],
        figure ≤ (response.byScope.map Prod.snd).sum) ∧
      (response.byScope.map Prod.fst).Nodup ∧
      response.byScope.Pairwise fun left right => right.2 ≤ left.2 := by
  rcases logAnswered_of_mem answered with ⟨before, after, began, since, moderates, isSummary⟩
  rcases isSummary.scopes with ⟨ties, byScope⟩
  have whole : (response.byScope.map Prod.snd).sum =
      (transfersOf server.serverId after.database).length := by
    rw [byScope]
    exact sum_countByKey
  refine ⟨moderates, ⟨before.database, after.database, began, since, isSummary, whole⟩, ?_, ?_,
    ?_⟩
  · rw [whole]
    simp only [List.forall_mem_cons]
    refine ⟨isSummary.total.2, isSummary.bundles.2.trans countDistinct_le_length,
      isSummary.sources.2.trans countDistinct_le_length,
      isSummary.destinations.2.trans (countDistinct_le_length.trans (List.length_filter_le _ _)),
      isSummary.redacted.2.trans List.countP_le_length, fun _ none => by cases none⟩
  · rw [byScope]
    exact nodup_countByKey
  · rw [byScope]
    exact sorted_countByKey

end Answers

section Sample

/-! A moderator pages through a log of one transfer, and another is logged after the first
page. -/

def auditor : PlatformIdentity :=
  ⟨1, 1, "moderator", "HUMAN", true, true, true, true, true, true⟩

def auditedTransfer : RtxTransfer :=
  ⟨1, 1, "b-0", "agent", none, "REFLECTION_SUMMARIES_ONLY", none, "2026-01-01 00:00:00"⟩

def auditedWorld : Task.World Database (List Outbound) :=
  ⟨{ restrictedDatabase with
    rtxTransferLog := Table.empty.insert fun id => { auditedTransfer with id } }, []⟩

def pageQuery (offset : Option Nat) : TransferLogQuery :=
  ⟨none, none, none, none, none, some 1, offset⟩

/-- A request with nothing beside it, in so many steps. -/
def rtxCall (id : Nat) (request : RtxApiRequest) (steps : Nat) : List RtxApiLabel :=
  .start id request ::
    List.replicate steps (.advance id ⟨⟨restrictedServer.clock, fun _ => 0⟩, []⟩)

def auditLabels : List RtxApiLabel :=
  rtxCall 0 (.transfers auditor (pageQuery none)) 4 ++
    rtxCall 1 (.publish "agent" chainedBundle) 5 ++
    rtxCall 2 (.transfers auditor (pageQuery (some 1))) 4 ++
    rtxCall 3 (.transfers auditor (pageQuery (some 2))) 4 ++ rtxCall 4 (.summary auditor) 8

/-- The transfer is on the second page again. -/
def auditedPages : List (Option Nat × TransferLogResponse) :=
  [(none, ⟨[.ofRow auditedTransfer], 1, 1, 0⟩),
    (some 1, ⟨[.ofRow auditedTransfer], 2, 1, 1⟩), (some 2, ⟨[], 2, 1, 2⟩)]

def auditedSummary : GovernanceSummaryResponse :=
  ⟨2, 2, 1, 0, 1, [("REFLECTION_SUMMARIES_ONLY", 2)]⟩

theorem auditLabels_answered : rtxAnswers restrictedServer auditedWorld auditLabels =
    [(.transfers auditor (pageQuery none),
        .ok (.transfers ⟨[.ofRow auditedTransfer], 1, 1, 0⟩)),
      (.publish "agent" chainedBundle, .ok (.delivered 0)),
      (.transfers auditor (pageQuery (some 1)),
        .ok (.transfers ⟨[.ofRow auditedTransfer], 2, 1, 1⟩)),
      (.transfers auditor (pageQuery (some 2)), .ok (.transfers ⟨[], 2, 1, 2⟩)),
      (.summary auditor, .ok (.summary auditedSummary))] := rfl

theorem transfers_walk_complete_audited :
    ∃ page ∈ auditedPages, TransferLogEntry.ofRow auditedTransfer ∈ page.2.transfers := by
  refine @transfers_walk_complete _ _ restrictedServer auditedWorld auditLabels auditor
    (pageQuery none) auditedPages ?_ ⟨rfl, rfl, rfl, by decide⟩ auditedTransfer
    (List.mem_singleton_self _) rfl
  rw [auditLabels_answered]
  exact .cons_cons _ (.cons _ (.cons_cons _ (.cons_cons _ (List.nil_sublist _))))

theorem summary_consistent_audited : auditor.canModerate = true ∧
    (auditedSummary.byScope.map Prod.fst).Nodup :=
  have summary := @summary_consistent _ _ restrictedServer auditedWorld auditLabels auditor
    auditedSummary (by rw [auditLabels_answered]; simp)
  ⟨summary.1, summary.2.2.2.1⟩

end Sample

/-! Subscriptions are their agents' own. -/

/-- Every subscription was there before, or is one that its agent asked for. -/
def SubscriptionsAsked (serverId : Nat) (asked : String → List String → Bool → Prop)
    (before after : Database) : Prop :=
  ∀ row ∈ after.rtxSubscriptions.rows, row ∈ before.rtxSubscriptions.rows ∨
    ∃ domainFilters, row.serverId = serverId ∧ row.domainFiltersJson = .encoded domainFilters ∧
      asked row.subscriberPseudonym domainFilters row.acceptFederated

/-- The database holds the subscription that is shown. -/
def HasSubscription (serverId : Nat) (info : SubscriptionInfo) (database : Database) : Prop :=
  ∃ row ∈ database.rtxSubscriptions.rows, row.serverId = serverId ∧
    row.subscriberPseudonym = info.subscriberPseudonym ∧
      row.domainFiltersJson.decode = some info.domainFilters ∧
        row.acceptFederated = info.acceptFederated

/-- The agent that a request about subscriptions comes from. -/
def RtxApiRequest.subscriber : RtxApiRequest → Option String
  | .subscribe pseudonym _ _ => some pseudonym
  | .unsubscribe pseudonym => some pseudonym
  | .getSubscription pseudonym => some pseudonym
  | _ => none

/-- An agent is shown its own subscription, as the database holds it. -/
def SubscriptionAnswered (serverId : Nat) (request : RtxApiRequest)
    (_ : Task.World Database (List Outbound)) (result : Except RtxApiError RtxApiReply)
    (after : Task.World Database (List Outbound)) : Prop :=
  ∀ info, result = .ok (.subscription (some info)) →
    request.subscriber = some info.subscriberPseudonym ∧
      HasSubscription serverId info after.database

section Asked

variable {Fq Key : Type} {server : FederationServer Fq Key} {serverId : Nat}
  {asked : String → List String → Bool → Prop}

instance : Std.Refl (SubscriptionsAsked serverId asked) where
  refl _ _ member := Or.inl member

instance : IsTrans Database (SubscriptionsAsked serverId asked) where
  trans first second third before after row member := by
    rcases after row member with old | isAsked
    · exact before row old
    · exact Or.inr isAsked

theorem allowsBundles_subscriptionsAsked :
    AllowsBundles (SubscriptionsAsked serverId asked) where
  bundles _ _ _ related := related
  transfers _ _ _ _ related := related

theorem subscriptionsAsked_upsert {pseudonym : String} {domainFilters : List String}
    {acceptFederated : Bool} (isAsked : asked pseudonym domainFilters acceptFederated)
    {origin database changed : Database}
    (upserted : upsertSubscription serverId pseudonym domainFilters acceptFederated database =
      .ok changed)
    (related : SubscriptionsAsked serverId asked origin database) :
    SubscriptionsAsked serverId asked origin changed := by
  unfold upsertSubscription at upserted
  split at upserted
  · cases upserted
  · rw [← Except.ok.inj upserted]
    intro row member
    rcases Table.mem_upsert_cases member with old | ⟨old, oldMember, conflict, same⟩ | same
    · exact related row old
    · simp only [Bool.and_eq_true, decide_eq_true_eq] at conflict
      rw [same]
      refine Or.inr ⟨domainFilters, conflict.1, rfl, ?_⟩
      exact conflict.2.symm ▸ isAsked
    · rw [same]
      exact Or.inr ⟨domainFilters, rfl, rfl, isAsked⟩

theorem subscriptionsAsked_delete {pseudonym : String} {origin database : Database}
    (related : SubscriptionsAsked serverId asked origin database) :
    SubscriptionsAsked serverId asked origin (deleteSubscription serverId pseudonym database).2 :=
  fun row member => related row (List.mem_of_mem_filter member)

theorem info_of_subscriptionInfo {pseudonym : String} {database : Database}
    {row : RtxSubscription} {info : SubscriptionInfo}
    (found : findSubscription serverId pseudonym database = some row)
    (read : subscriptionInfo pseudonym row = .ok info) :
    info.subscriberPseudonym = pseudonym ∧ HasSubscription serverId info database := by
  have member := List.mem_of_find?_eq_some found
  have isOwn := List.find?_some found
  simp only [Bool.and_eq_true, decide_eq_true_eq] at isOwn
  unfold subscriptionInfo at read
  split at read
  · next domainFilters decoded =>
    rw [← Except.ok.inj read]
    exact ⟨rfl, row, member, isOwn.1, isOwn.2, decoded, rfl⟩
  · cases read

theorem keepsTo_governanceTransfersHandler {identity : PlatformIdentity}
    {query : TransferLogQuery} {relation : Database → Database → Prop} [Std.Refl relation] :
    KeepsTo relation (governanceTransfersHandler server identity query) :=
  Task.always_bind trivial fun _ => Task.always_bind (keepsTo_reads fun _ => reads_connect _)
    fun _ => Task.always_bind (keepsTo_reads fun _ => reads_query _ _) fun _ =>
    Task.always_bind (keepsTo_reads fun _ => reads_connect _) fun _ =>
    Task.always_bind (keepsTo_reads fun _ => reads_query _ _) fun _ => trivial

theorem keepsTo_governanceSummaryHandler {identity : PlatformIdentity}
    {relation : Database → Database → Prop} [Std.Refl relation] :
    KeepsTo relation (governanceSummaryHandler server identity) := by
  have counts (failure : String) (count : List RtxTransfer → Nat) :
      KeepsTo relation (countTransfers server failure count) :=
    keepsTo_reads fun _ => reads_query _ _
  exact Task.always_bind trivial fun _ =>
    Task.always_bind (keepsTo_reads fun _ => reads_connect _) fun _ =>
    Task.always_bind (counts _ _) fun _ => Task.always_bind (counts _ _) fun _ =>
    Task.always_bind (counts _ _) fun _ => Task.always_bind (counts _ _) fun _ =>
    Task.always_bind (counts _ _) fun _ =>
    Task.always_bind (keepsTo_reads fun _ => reads_connect _) fun _ =>
    Task.always_bind (keepsTo_reads fun _ => reads_query _ _) fun _ => trivial

section Shown

variable {world : Task.World Database (List Outbound)} {pseudonym : String}
  {domainFilters : List String} {acceptFederated : Bool}

/-- What the agent is answered with is its own, and in the database. -/
def Shown (serverId : Nat) (pseudonym : String) (info : SubscriptionInfo)
    (after : Task.World Database (List Outbound)) : Prop :=
  info.subscriberPseudonym = pseudonym ∧ HasSubscription serverId info after.database

theorem endsIn_subscribeHandler (isAsked : asked pseudonym domainFilters acceptFederated) :
    (subscribeHandler server pseudonym domainFilters acceptFederated).EndsIn Task.Single.run
      (Task.OnDatabase (SubscriptionsAsked server.serverId asked))
      (fun result after => ∀ info, result = .ok info →
        Shown server.serverId pseudonym info after) world := by
  have refused : ∀ (error : ApiError) (after : Task.World Database (List Outbound)) info,
      (.error error : Except ApiError SubscriptionInfo) = .ok info →
        Shown server.serverId pseudonym info after :=
    fun _ _ _ failed => by cases failed
  refine Task.endsIn_query_bind refused fun _ connected _ _ _ =>
    Task.endsIn_query_bind refused fun _ checked _ registration _ =>
    Task.endsIn_issue_bind refused fun _ required _ => ?_
  refine ensures_require (fun scope parsed => ⟨refl_of _ required, fun _ _ => ?_⟩) fun _ =>
    ⟨refl_of _ required, fun _ failed => by cases failed⟩
  refine Task.endsIn_demand_bind (refused _ _) fun _ =>
    Task.endsIn_issue_bind refused fun _ written _ => ?_
  refine ensures_execute (fun _ => ⟨refl_of _ written, fun _ failed => by cases failed⟩)
    (fun changed upserted => ⟨?_, fun _ _ => ?_⟩)
    fun _ _ => ⟨refl_of _ written, fun _ failed => by cases failed⟩
  · exact subscriptionsAsked_upsert isAsked upserted (refl_of _ written.database)
  · refine Task.endsIn_query_bind refused fun _ last _ row isRow => ?_
    intro info isInfo
    split at isRow
    · next found =>
      cases isRow
      exact info_of_subscriptionInfo found isInfo
    · cases isRow

theorem endsIn_getSubscriptionHandler :
    (getSubscriptionHandler server pseudonym).EndsIn Task.Single.run
      (Task.OnDatabase (SubscriptionsAsked server.serverId asked))
      (fun result after => ∀ info, result = .ok (some info) →
        Shown server.serverId pseudonym info after) world := by
  have refused : ∀ (error : ApiError) (after : Task.World Database (List Outbound)) info,
      (.error error : Except ApiError (Option SubscriptionInfo)) = .ok (some info) →
        Shown server.serverId pseudonym info after :=
    fun _ _ _ failed => by cases failed
  refine Task.endsIn_query_bind refused fun _ connected _ _ _ =>
    Task.endsIn_query_bind refused fun _ last _ found isFound => ?_
  cases found with
  | none => exact fun _ isInfo => by cases isInfo
  | some row =>
      intro info isInfo
      cases read : subscriptionInfo pseudonym row with
      | error error =>
          rw [read] at isInfo
          cases isInfo
      | ok shown =>
          rw [read] at isInfo
          cases isInfo
          exact info_of_subscriptionInfo (Except.ok.inj isFound) read

end Shown

/-- Beside requests of which each only changes the subscription of its agent, each ends as
said. -/
theorem endsIn_subscriptionAnswered (request : RtxApiRequest)
    (asks : ∀ pseudonym domainFilters acceptFederated,
      request = .subscribe pseudonym domainFilters acceptFederated →
        asked pseudonym domainFilters acceptFederated)
    (origin world : Task.World Database (List Outbound)) :
    (request.handler server).EndsIn Task.Single.run
      (Task.OnDatabase (SubscriptionsAsked server.serverId asked))
      (SubscriptionAnswered server.serverId request origin) world := by
  cases request with
  | publish pseudonymId bundle =>
      refine endsIn_reply (Task.endsIn_of_always
        (keepsTo_publishing allowsBundles_subscriptionsAsked) fun result after info isInfo => ?_)
      cases result <;> cases isInfo
  | receive envelope =>
      refine endsIn_reply (Task.endsIn_of_always
        (keepsTo_receiving allowsBundles_subscriptionsAsked) fun result after info isInfo => ?_)
      cases result <;> cases isInfo
  | subscribe pseudonym domainFilters acceptFederated =>
      refine endsIn_reply (Task.endsIn_mono (endsIn_subscribeHandler (asks _ _ _ rfl)) ?_)
      intro result after shown info isInfo
      cases result with
      | error error => cases isInfo
      | ok value =>
          cases isInfo
          have isShown := shown info rfl
          exact ⟨congrArg some isShown.1.symm, isShown.2⟩
  | unsubscribe pseudonym =>
      refine endsIn_reply (Task.endsIn_of_always (keepsTo_unsubscribeHandler fun _ _ related =>
        subscriptionsAsked_delete related) fun result after info isInfo => ?_)
      cases result <;> cases isInfo
  | getSubscription pseudonym =>
      refine endsIn_reply (Task.endsIn_mono endsIn_getSubscriptionHandler ?_)
      intro result after shown info isInfo
      cases result with
      | error error => cases isInfo
      | ok value =>
          cases isInfo
          have isShown := shown info rfl
          exact ⟨congrArg some isShown.1.symm, isShown.2⟩
  | transfers identity query =>
      refine endsIn_reply (Task.endsIn_of_always keepsTo_governanceTransfersHandler
        fun result after info isInfo => ?_)
      cases result <;> cases isInfo
  | summary identity =>
      refine endsIn_reply (Task.endsIn_of_always keepsTo_governanceSummaryHandler
        fun result after info isInfo => ?_)
      cases result <;> cases isInfo
  | elsewhere change =>
      refine Task.endsIn_bind (Task.endsIn_issue fun _ before _ => ?_)
      refine ensures_execute (fun _ => ⟨refl_of _ before, fun _ isInfo => by cases isInfo⟩)
        (fun changed isChanged => ⟨?_, fun _ isInfo => by cases isInfo⟩)
        fun _ _ => ⟨refl_of _ before, fun _ isInfo => by cases isInfo⟩
      rw [← Except.ok.inj isChanged]
      exact fun _ member => Or.inl member

/-- A request of the run asks for the subscription. -/
def AskedIn (labels : List RtxApiLabel) (pseudonym : String) (domainFilters : List String)
    (acceptFederated : Bool) : Prop :=
  ∃ id, .start id (.subscribe pseudonym domainFilters acceptFederated) ∈ labels

/-- Beside everything else that goes on, an agent has and is shown only the subscription that it
had before or asked for itself. -/
theorem subscriptions_asked (server : FederationServer Fq Key)
    (initial : Task.World Database (List Outbound)) (labels : List RtxApiLabel) :
    SubscriptionsAsked server.serverId (AskedIn labels) initial.database
        (Execution.run (step (rtxApi server).program) (idle initial) labels).shared.database ∧
      ∀ request info, (request, .ok (.subscription (some info))) ∈
          rtxAnswers server initial labels →
        request.subscriber = some info.subscriberPseudonym ∧
          (HasSubscription server.serverId info initial.database ∨
            AskedIn labels info.subscriberPseudonym info.domainFilters
              info.acceptFederated) := by
  have correct : ∀ request : RtxApiRequest, (∃ id, .start id request ∈ labels) →
      ∀ origin later : Task.World Database (List Outbound),
        Task.OnDatabase (SubscriptionsAsked server.serverId (AskedIn labels)) origin later →
          (request.handler server).EndsIn Task.Single.run
            (Task.OnDatabase (SubscriptionsAsked server.serverId (AskedIn labels)))
            (SubscriptionAnswered server.serverId request origin) later := by
    intro request started origin later _
    refine endsIn_subscriptionAnswered request ?_ origin later
    intro pseudonym domainFilters acceptFederated same
    rw [same] at started
    exact started
  have admits : ∀ id (request : RtxApiRequest), .start id request ∈ labels →
      ∃ id, .start id request ∈ labels :=
    fun id _ member => ⟨id, member⟩
  refine ⟨(Task.onCourse_run correct Task.onCourse_idle admits).allowed, ?_⟩
  intro request info answered
  rcases Task.chosen_concluded correct admits (List.singleton_sublist.mpr answered) with
    ⟨worlds, concluded, -⟩
  rcases List.forall₂_cons_left_iff.mp concluded with
    ⟨after, _, ⟨before, began, since, shows⟩, -⟩
  rcases shows info rfl with ⟨own, row, member, isRow⟩
  refine ⟨own, ?_⟩
  rcases trans_of _ began since row member with old | ⟨domainFilters, -, encoded, id, started⟩
  · exact Or.inl ⟨row, old, isRow⟩
  · right
    have read := isRow.2.2.1
    rw [encoded, JsonText.decode_encoded, Option.some.injEq] at read
    rw [isRow.2.1, read, isRow.2.2.2] at started
    exact ⟨id, started⟩

end Asked

end Annex.Server
