import Annex.Server.Federation

namespace Annex.Server

open Db Rtx Sql Vrp

/-! Publishing bundles: `POST /api/rtx/publish`, and the relay to federation peers it
starts in the background. -/

/-- The redacted topics of a stored contract; one that does not parse redacts nothing. -/
def extractRedactedTopics (contract : JsonText VrpCapabilitySharingContract) :
    List String :=
  (contract.decode.map VrpCapabilitySharingContract.redactedTopics).getD []

section Publish

variable {Fq Key : Type} (server : FederationServer Fq Key)

/-- The active registration of an agent; a pseudonym has one on a server. -/
def findRegistration (pseudonymId : String) (database : Database) :
    Option AgentRegistration :=
  database.agentRegistrations.rows.find? fun row =>
    row.serverId = server.serverId && row.pseudonymId = pseudonymId && row.active

/-- Steps 1 to 7: the sender's transfer scope and what it leaves of the bundle. -/
def checkPublish (pseudonymId : String) (bundle : ReflectionSummaryBundle) :
    Handler (VrpTransferScope × ReflectionSummaryBundle) := do
  orElse (validateBundleStructure bundle) fun error => .badRequest error.text
  check (pseudonymId = bundle.sourcePseudonym)
    (.forbidden "bundle source_pseudonym does not match authenticated identity")
  check (bundle.sourceServer = server.publicUrl)
    (.badRequest ("source_server '" ++ bundle.sourceServer ++
      "' does not match this server '" ++ server.publicUrl ++ "'"))
  connect dbConnectionFailed
  let registration ← query
    (fun error =>
      if error = .noRows then
        .forbidden ("sender '" ++ bundle.sourcePseudonym ++
          "' does not have an active agent registration")
      else dbQueryFailed error)
    fun database =>
      match findRegistration server bundle.sourcePseudonym database with
      | some row => .ok row
      | none => .error .noRows
  let senderScope ← require (VrpTransferScope.parse registration.transferScope)
    (.forbidden "sender's transfer scope does not permit RTX publishing")
  check (¬ senderScope.rank < VrpTransferScope.reflectionSummariesOnly.rank)
    (.forbidden "sender's transfer scope does not permit RTX publishing")
  orElse (checkRedactedTopics bundle
      (extractRedactedTopics registration.capabilityContractJson)) fun error =>
    .forbidden error.text
  let storedBundle ← orElse (enforceTransferScope bundle senderScope) fun error =>
    .forbidden error.text
  pure (senderScope, storedBundle)

/-- Steps 8 and 9: the bundle and its transfer, in one transaction. -/
def storePublished (bundle storedBundle : ReflectionSummaryBundle)
    (senderScope : VrpTransferScope) : Handler Unit :=
  transaction beginFailed commitFailed do
    execute
      (fun error =>
        match error with
        | .constraint _ _ =>
            .conflict ("bundle '" ++ storedBundle.bundleId ++ "' already published")
        | error => .internalServerError ("failed to store bundle: " ++ error.text))
      (insertBundle server.serverId storedBundle none)
    execute
      (fun error => .internalServerError ("failed to log transfer: " ++ error.text))
      (insertTransfer server.clock.datetime server.serverId storedBundle none senderScope
        (redactions bundle storedBundle))

/-- The handler up to the relay, answering with the number of deliveries. The query of
the subscribers can fail when it is prepared and when its rows are read. -/
def publishHandler (pseudonymId : String) (bundle : ReflectionSummaryBundle) :
    Handler Nat := do
  let (senderScope, storedBundle) ← checkPublish server pseudonymId bundle
  storePublished server bundle storedBundle senderScope
  connect fun error => .internalServerError ("db prepare failed: " ++ error.text)
  let found ← query
    (fun error => .internalServerError ("db row error: " ++ error.text))
    fun database =>
      .ok (subscribers server.serverId
        (fun row => row.subscriberPseudonym ≠ bundle.sourcePseudonym) database)
  let delivered ← deliver
    (.internalServerError ("task join error: " ++ server.environment.joinErrorText))
    server.clock.datetime server.serverId storedBundle found
  sendAll (delivered.map fun copy => .rtxBundle copy.1 copy.2 none)
  pure delivered.length

/-- A federation peer and the transfer scope of its agreement. -/
structure RelayPeer where
  baseUrl : String
  transferScope : String
deriving DecidableEq, Repr

/-- The active agreements of this server joined with their active instances. -/
def relayPeers (database : Database) : List RelayPeer :=
  (database.federationAgreements.rows.filter fun row =>
    row.localServerId = server.serverId && row.active).flatMap fun agreement =>
      (database.instances.rows.filter fun row =>
        row.id = agreement.remoteInstanceId && row.status = "ACTIVE").map fun row =>
          ⟨row.baseUrl, agreement.transferScope⟩

/-- What a peer is sent of a bundle, if anything: neither this server nor the bundle's
origin gets it back, and the agreement must permit transfers. -/
def relayTo (bundle : ReflectionSummaryBundle) (peer : RelayPeer) : Option Outbound :=
  if peer.baseUrl = server.publicUrl ∨ bundle.sourceServer = peer.baseUrl then
    none
  else
    match VrpTransferScope.parse peer.transferScope with
    | none => none
    | some scope =>
        if scope.rank < VrpTransferScope.reflectionSummariesOnly.rank then
          none
        else
          match enforceTransferScope bundle scope with
          | .error _ => none
          | .ok scopedBundle =>
              let provenance : BundleProvenance :=
                ⟨bundle.sourceServer, [server.publicUrl], bundle.bundleId⟩
              let signature := server.ed25519.sign (utf8 (rtxRelaySigningPayload
                bundle.bundleId server.publicUrl bundle.sourceServer
                provenance.relayPath))
              some (.rtxRelay (peer.baseUrl ++ "/api/federation/rtx")
                ⟨scopedBundle, provenance, server.publicUrl, Hex.encode signature⟩)

/-- The background relay. It gives up when the peers cannot be read or the HTTP client
cannot be built. -/
def relayRtxBundles (bundle : ReflectionSummaryBundle) :
    Sql Database (List Outbound) DbError Unit := do
  connect id
  let peers ← query id fun database => .ok (relayPeers server database)
  if peers = [] then
    pure ()
  else do
    connect id
    sendAll (peers.filterMap (relayTo server bundle))

/-- What leaves the server because of a publish: the local deliveries and, once the
handler has answered, the relay of the bundle that was published. The relay runs later
and reads the database as it is then. -/
def publishedCopies (pseudonymId : String) (bundle : ReflectionSummaryBundle)
    (database relayDatabase : Database) (faults relayFaults : List (Option String)) :
    List Outbound :=
  let published := publishHandler server pseudonymId bundle ⟨database, [], faults⟩
  match published.1 with
  | .error _ => published.2.memory
  | .ok _ =>
      published.2.memory ++
        (relayRtxBundles server bundle ⟨relayDatabase, [], relayFaults⟩).2.memory

end Publish

end Annex.Server
