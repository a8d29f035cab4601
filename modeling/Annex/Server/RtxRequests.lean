import Annex.Foundation.OffsetPaging
import Annex.Foundation.RelyGuarantee
import Annex.Server.RtxScope

namespace Annex.Server

open Db Rtx Sql Vrp

/-! The requests about bundles, their subscriptions and their transfers, each a sequence of
commands between which those of other requests may come: a statement is one command, and so is a
transaction. -/

/-- What a command takes from outside: the time, and in which order the database counts scopes of
which there are as many. -/
structure RtxContext where
  clock : Clock
  scopeTies : String → Nat

abbrev RtxTask (Error α : Type) :=
  Task (Task.Single RtxContext Database (List Outbound)) Error α

/-- A subscription as its agent is shown it. -/
structure SubscriptionInfo where
  subscriberPseudonym : String
  domainFilters : List String
  acceptFederated : Bool
deriving DecidableEq, Repr

/-- The parameters of `GET /api/rtx/governance/transfers`. Its `until` is `upTo`. -/
structure TransferLogQuery where
  bundleId : Option String
  source : Option String
  destination : Option String
  since : Option String
  upTo : Option String
  limit : Option Nat
  offset : Option Nat
deriving DecidableEq, Repr

structure TransferLogEntry where
  id : Nat
  bundleId : String
  sourcePseudonym : String
  destinationPseudonym : Option String
  transferScopeApplied : String
  redactionsApplied : Option String
  transferredAt : String
deriving DecidableEq, Repr

def TransferLogEntry.ofRow (row : RtxTransfer) : TransferLogEntry where
  id := row.id
  bundleId := row.bundleId
  sourcePseudonym := row.sourcePseudonym
  destinationPseudonym := row.destinationPseudonym
  transferScopeApplied := row.transferScopeApplied
  redactionsApplied := row.redactionsApplied
  transferredAt := row.transferredAt

structure TransferLogResponse where
  transfers : List TransferLogEntry
  total : Nat
  limit : Nat
  offset : Nat
deriving DecidableEq, Repr

/-- The number of transfers in each scope is listed by `byScope`. -/
structure GovernanceSummaryResponse where
  totalTransfers : Nat
  uniqueBundles : Nat
  uniqueSources : Nat
  uniqueDestinations : Nat
  redactedTransfers : Nat
  byScope : List (String × Nat)
deriving DecidableEq, Repr

section Statements

/-- The clause that a query's parameters make. A transfer without a destination is to none. -/
def TransferLogQuery.selects (query : TransferLogQuery) (serverId : Nat) (row : RtxTransfer) :
    Bool :=
  row.serverId = serverId && query.bundleId.all (row.bundleId = ·) &&
    query.source.all (row.sourcePseudonym = ·) &&
    query.destination.all (row.destinationPseudonym = some ·) &&
    query.since.all (· ≤ row.transferredAt) && query.upTo.all (row.transferredAt ≤ ·)

/-- The transfers of a query, newest first. -/
def TransferLogQuery.entries (query : TransferLogQuery) (serverId : Nat) (database : Database) :
    List TransferLogEntry :=
  ((database.rtxTransferLog.rows.filter (query.selects serverId)).map
    TransferLogEntry.ofRow).reverse

/-- The transfers of a server. -/
def transfersOf (serverId : Nat) (database : Database) : List RtxTransfer :=
  database.rtxTransferLog.rows.filter (·.serverId = serverId)

/-- The subscription of an agent; it has one on a server. -/
def findSubscription (serverId : Nat) (pseudonym : String) (database : Database) :
    Option RtxSubscription :=
  database.rtxSubscriptions.rows.find? fun row =>
    row.serverId = serverId && row.subscriberPseudonym = pseudonym

/-- `INSERT INTO rtx_subscriptions ... ON CONFLICT DO UPDATE`. -/
def upsertSubscription (serverId : Nat) (pseudonym : String) (domainFilters : List String)
    (acceptFederated : Bool) (database : Database) : Except DbError Database :=
  if database.servers.rows.any (·.id = serverId) = false then
    .error serverMissing
  else
    .ok
      { database with
        rtxSubscriptions := database.rtxSubscriptions.upsert
          (fun row => row.serverId = serverId && row.subscriberPseudonym = pseudonym)
          (fun row => { row with domainFiltersJson := .encoded domainFilters, acceptFederated })
          fun id => ⟨id, serverId, pseudonym, .encoded domainFilters, acceptFederated⟩ }

/-- `DELETE FROM rtx_subscriptions`, with the number of rows. -/
def deleteSubscription (serverId : Nat) (pseudonym : String) (database : Database) :
    Nat × Database :=
  let selected (row : RtxSubscription) : Bool :=
    row.serverId = serverId && row.subscriberPseudonym = pseudonym
  (database.rtxSubscriptions.rows.countP selected,
    { database with rtxSubscriptions := database.rtxSubscriptions.deleteWhere selected })

end Statements

section Requests

variable {Fq Key : Type} (server : FederationServer Fq Key)

/-- The server at the time of a command. -/
def timed (context : RtxContext) : FederationServer Fq Key :=
  { server with clock := context.clock }

/-! Publishing and receiving. -/

/-- The deliveries, each logged on its own. -/
def deliverEach (bundle : ReflectionSummaryBundle) :
    List Subscriber → RtxTask ApiError (List (String × ReflectionSummaryBundle))
  | [] => pure []
  | subscriber :: rest =>
      match delivery bundle subscriber with
      | none => deliverEach bundle rest
      | some (scope, scopedBundle) =>
          if fitsJson scopedBundle then do
            let _ ← Task.issue fun context => attempt (execute id
              (insertTransfer context.clock.datetime server.serverId bundle
                (some subscriber.subscriberPseudonym) scope (deliveryRedactions bundle scope)))
            let others ← deliverEach bundle rest
            pure ((subscriber.subscriberPseudonym, scopedBundle) :: others)
          else
            .ended (.error (.internalServerError
              ("task join error: " ++ server.environment.joinErrorText)))

/-- `POST /api/rtx/publish`, up to the relay. -/
def publishing (pseudonymId : String) (bundle : ReflectionSummaryBundle) :
    RtxTask ApiError Nat := do
  let (senderScope, storedBundle) ← Task.issue fun context =>
    checkPublish (timed server context) pseudonymId bundle
  Task.issue fun context => storePublished (timed server context) bundle storedBundle senderScope
  Task.issue fun _ => connect fun error =>
    .internalServerError ("db prepare failed: " ++ error.text)
  let found ← Task.issue fun _ => query
    (fun error => .internalServerError ("db row error: " ++ error.text))
    fun database => .ok (otherSubscribers server bundle database)
  let delivered ← deliverEach server storedBundle found
  Task.issue fun _ => sendAll (delivered.map fun copy => .rtxBundle copy.1 copy.2 none)
  pure delivered.length

/-- `POST /api/federation/rtx`. -/
def receiving (envelope : FederatedRtxEnvelope) : RtxTask FederationError Nat := do
  Task.issue fun _ => connect .dbError
  let remote ← Task.issue fun _ => resolveInstance envelope.relayingServer
  Task.demand (remote.status = "ACTIVE")
    (.forbidden ("Instance " ++ envelope.relayingServer ++ " is not active"))
  Task.demand (¬ (server.publicUrl ≠ "" ∧ server.publicUrl ∈ envelope.provenance.relayPath))
    (.forbidden "circular relay detected: local server already in relay path")
  let originKnown ← Task.issue fun _ => query .dbError fun database =>
    .ok (database.instances.rows.any (·.baseUrl = envelope.provenance.originServer))
  Task.demand (originKnown = true)
    (.unknownRemote ("origin server " ++ envelope.provenance.originServer ++
      " is not a known instance"))
  let transferScope ← Task.issue fun _ => query
    (fun error =>
      if error = .noRows then
        .forbidden ("No active federation agreement with " ++ envelope.relayingServer)
      else .dbError error)
    fun database =>
      match agreementScope remote.id database with
      | some scope => .ok scope
      | none => .error .noRows
  let (scope, scopedBundle) ← Task.issue fun _ => do
    let scope ← require (VrpTransferScope.parse transferScope)
      (.forbidden "Federation agreement has invalid transfer scope")
    check (¬ scope.rank < VrpTransferScope.reflectionSummariesOnly.rank)
      (.forbidden "Federation agreement does not permit RTX transfer")
    ofExcept (verifySignature server remote.publicKey envelope.signature
      (rtxRelaySigningPayload envelope.bundle.bundleId envelope.relayingServer
        envelope.provenance.originServer envelope.provenance.relayPath))
    orElse (validateBundleStructure envelope.bundle) fun error =>
      .forbidden ("Invalid bundle structure: " ++ error.text)
    let scopedBundle ← orElse (enforceTransferScope envelope.bundle scope) fun error =>
      .forbidden error.text
    pure (scope, scopedBundle)
  let outcome ← Task.issue fun context => attempt
    (transaction (fun error => some (.dbError error)) (fun error => some (.dbError error))
      (storeFederatedRtx (timed server context) envelope scope scopedBundle))
  Task.issue fun _ =>
    match outcome with
    | .error none => pure 0
    | .error (some error) => fail error
    | .ok delivered => do
        sendAll (delivered.map fun copy =>
          .rtxBundle copy.1 copy.2 (some envelope.provenance))
        pure delivered.length

/-! Subscriptions. -/

/-- The filters of a subscription, which must be readable. -/
def subscriptionInfo (pseudonym : String) (row : RtxSubscription) :
    Except ApiError SubscriptionInfo :=
  match row.domainFiltersJson.decode with
  | some domainFilters => .ok ⟨pseudonym, domainFilters, row.acceptFederated⟩
  | none => .error (.internalServerError "corrupted domain filter data in subscription")

/-- `POST /api/rtx/subscribe`. -/
def subscribeHandler (pseudonym : String) (domainFilters : List String)
    (acceptFederated : Bool) : RtxTask ApiError SubscriptionInfo := do
  Task.issue fun _ => connect dbConnectionFailed
  let registration ← Task.issue fun _ => query
    (fun error =>
      if error = .noRows then
        .forbidden ("agent '" ++ pseudonym ++ "' does not have an active registration")
      else dbQueryFailed error)
    fun database =>
      match findRegistration server pseudonym database with
      | some row => .ok row
      | none => .error .noRows
  let scope ← Task.issue fun _ => require (VrpTransferScope.parse registration.transferScope)
    (.forbidden "agent's transfer scope does not permit RTX subscriptions")
  Task.demand (¬ scope.rank < VrpTransferScope.reflectionSummariesOnly.rank)
    (.forbidden "agent's transfer scope does not permit RTX subscriptions")
  Task.issue fun _ => execute
    (fun error => .internalServerError ("failed to create subscription: " ++ error.text))
    (upsertSubscription server.serverId pseudonym domainFilters acceptFederated)
  let row ← Task.issue fun _ => query
    (fun error => .internalServerError ("failed to read subscription: " ++ error.text))
    fun database =>
      match findSubscription server.serverId pseudonym database with
      | some row => .ok row
      | none => .error .noRows
  .ended (subscriptionInfo pseudonym row)

/-- `DELETE /api/rtx/subscribe`. -/
def unsubscribeHandler (pseudonym : String) : RtxTask ApiError Unit := do
  Task.issue fun _ => connect dbConnectionFailed
  let deleted ← Task.issue fun _ => statement
    (fun error => .internalServerError ("failed to delete subscription: " ++ error.text))
    fun database => .ok (deleteSubscription server.serverId pseudonym database)
  Task.demand (deleted ≠ 0) (.notFound "no active RTX subscription")

/-- `GET /api/rtx/subscriptions`. -/
def getSubscriptionHandler (pseudonym : String) : RtxTask ApiError (Option SubscriptionInfo) := do
  Task.issue fun _ => connect dbConnectionFailed
  let found ← Task.issue fun _ => query dbQueryFailed fun database =>
    .ok (findSubscription server.serverId pseudonym database)
  match found with
  | some row => .ended ((subscriptionInfo pseudonym row).map some)
  | none => pure none

/-! The transfer log. -/

/-- `GET /api/rtx/governance/transfers`. -/
def governanceTransfersHandler (identity : PlatformIdentity) (query : TransferLogQuery) :
    RtxTask ApiError TransferLogResponse := do
  Task.demand (identity.canModerate = true)
    (.forbidden "governance endpoints require can_moderate permission")
  let limit := min (query.limit.getD 50) 500
  let offset := query.offset.getD 0
  Task.issue fun _ => connect dbConnectionFailed
  let total ← Task.issue fun _ => Sql.query
    (fun error => .internalServerError ("count query failed: " ++ error.text))
    fun database => .ok (database.rtxTransferLog.rows.countP (query.selects server.serverId))
  Task.issue fun _ => connect fun error =>
    .internalServerError ("prepare query failed: " ++ error.text)
  let transfers ← Task.issue fun _ => Sql.query
    (fun error => .internalServerError ("row read error: " ++ error.text))
    fun database => .ok (pageAt limit offset (query.entries server.serverId database))
  pure ⟨transfers, total, limit, offset⟩

/-- One figure of the summary. -/
def countTransfers (failure : String) (count : List RtxTransfer → Nat) : RtxTask ApiError Nat :=
  Task.issue fun _ => query (fun error => .internalServerError (failure ++ error.text))
    fun database => .ok (count (transfersOf server.serverId database))

/-- `GET /api/rtx/governance/summary`. -/
def governanceSummaryHandler (identity : PlatformIdentity) :
    RtxTask ApiError GovernanceSummaryResponse := do
  Task.demand (identity.canModerate = true)
    (.forbidden "governance endpoints require can_moderate permission")
  Task.issue fun _ => connect dbConnectionFailed
  let totalTransfers ← countTransfers server "total count query failed: " List.length
  let uniqueBundles ← countTransfers server "unique bundles query failed: "
    (countDistinct RtxTransfer.bundleId)
  let uniqueSources ← countTransfers server "unique sources query failed: "
    (countDistinct RtxTransfer.sourcePseudonym)
  let uniqueDestinations ← countTransfers server "unique destinations query failed: "
    fun rows => countDistinct RtxTransfer.destinationPseudonym
      (rows.filter (·.destinationPseudonym.isSome))
  let redactedTransfers ← countTransfers server "redacted count query failed: "
    (List.countP (·.redactionsApplied.isSome))
  Task.issue fun _ => connect fun error =>
    .internalServerError ("scope breakdown query failed: " ++ error.text)
  let byScope ← Task.issue fun context => query
    (fun error => .internalServerError ("scope row error: " ++ error.text))
    fun database => .ok (countByKey RtxTransfer.transferScopeApplied context.scopeTies
      (transfersOf server.serverId database))
  pure ⟨totalTransfers, uniqueBundles, uniqueSources, uniqueDestinations, redactedTransfers,
    byScope⟩

end Requests

/-! With nothing between their commands the requests are the handlers. -/

section Alone

variable {Fq Key : Type} {server : FederationServer Fq Key} {context : RtxContext}

theorem alone_demand {Error : Type} {condition : Prop} [Decidable condition] {error : Error} :
    (Task.demand condition error : RtxTask Error Unit).alone Task.Single.run context =
      check condition error := by
  unfold Task.demand check
  split <;> rfl

theorem alone_deliverEach {bundle : ReflectionSummaryBundle} {subscribers : List Subscriber} :
    (deliverEach server bundle subscribers).alone Task.Single.run context =
      deliver (.internalServerError ("task join error: " ++ server.environment.joinErrorText))
        context.clock.datetime server.serverId bundle subscribers := by
  induction subscribers with
  | nil => rfl
  | cons subscriber rest induction =>
      unfold deliverEach deliver
      cases delivery bundle subscriber with
      | none => exact induction
      | some copy =>
          dsimp only
          split
          · rw [Task.alone_bind]
            congr 1
            funext logged
            rw [Task.alone_bind, induction]
            rfl
          · rfl

theorem alone_publishing {pseudonymId : String} {bundle : ReflectionSummaryBundle} :
    (publishing server pseudonymId bundle).alone Task.Single.run context =
      publishHandler (timed server context) pseudonymId bundle := by
  rw [publishing, publishHandler, Task.alone_bind]
  congr 1
  funext checked
  simp only [Task.alone_bind, alone_deliverEach]
  rfl

theorem alone_receiving {envelope : FederatedRtxEnvelope} :
    (receiving server envelope).alone Task.Single.run context =
      receiveFederatedRtxHandler (timed server context) envelope := by
  simp only [receiving, receiveFederatedRtxHandler, checkFederatedRtx, Task.alone_bind,
    Task.alone_issue, alone_demand, bind_bind]
  rfl

end Alone

end Annex.Server
