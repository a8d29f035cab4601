import Mathlib.Data.List.Sort
import Annex.Client.ChannelsStore
import Annex.Client.Registration

namespace Annex.Client

/-! The servers store: which saved server is active. Its calls change the API base URL, the
identity store and the socket of the channels store, with awaits in between. -/

structure ServerSummary where
  slug : String
  label : String
  membersByType : List (String × Nat)
  totalActiveMembers : Nat
  channelCount : Nat
  federationPeerCount : Nat
  activeAgentCount : Nat
deriving DecidableEq, Repr

/-- A saved server. The times are those of the ISO texts, in milliseconds. -/
structure SavedServer where
  id : String
  baseUrl : String
  slug : String
  label : String
  identityId : String
  personaId : Option String
  accentColor : String
  vrpTopic : String
  lastConnectedAt : Nat
  cachedSummary : Option ServerSummary
deriving DecidableEq, Repr

/-- A new entry. Its id and its colour are random. -/
def createServerEntry (randomUuid accentColor : String) (now : Nat)
    (baseUrl slug label identityId : String) : SavedServer where
  id := randomUuid
  baseUrl
  slug
  label
  identityId
  personaId := none
  accentColor
  vrpTopic := vrpTopic slug
  lastConnectedAt := now
  cachedSummary := none

/-- What the calls of the servers store read and write. Of IndexedDB these are the saved
servers. -/
structure ServersContext where
  servers : List SavedServer
  activeServerId : Option String
  switching : Bool
  apiBaseUrl : String
  identityStore : IdentityState
  sockets : SocketWorld
  saved : List SavedServer

/-- The identity that IndexedDB holds under the id. -/
def getIdentity (identities : List StoredIdentity) (id : String) : Option StoredIdentity :=
  identities.find? (·.id = id)

namespace IdentityState

/-- What `selectIdentity` does with the identity it was awaiting. -/
def select (found : Option StoredIdentity) (store : IdentityState) : IdentityState :=
  match found with
  | none => store
  | some identity =>
      let chosen (phase : IdentityPhase) : IdentityState :=
        { store with
          identity := some identity
          phase
          error := none
          errorDetails := none
          proofInFlight := false
          provingStatus := .idle }
      if (given identity.pseudonymId).isSome then chosen .ready
      else if identity.sk ≠ "" then chosen .keysReady
      else store

/-- The pseudonym of the selected identity. -/
def pseudonymId (store : IdentityState) : Option String :=
  given (store.identity.bind (·.pseudonymId))

end IdentityState

namespace ServersContext

def setApiBaseUrl (baseUrl : String) (context : ServersContext) : ServersContext :=
  { context with apiBaseUrl := withoutTrailingSlashes baseUrl }

/-- `put` into the object store, which is ordered by its keys. -/
def saveServer (server : SavedServer) (context : ServersContext) : ServersContext :=
  { context with
    saved := context.saved.filter (·.id < server.id) ++
      server :: context.saved.filter (server.id < ·.id) }

def deleteServer (serverId : String) (context : ServersContext) : ServersContext :=
  { context with saved := context.saved.filter (·.id ≠ serverId) }

/-- The saved servers, those last connected to first. -/
def listServers (context : ServersContext) : List SavedServer :=
  context.saved.insertionSort fun first second => second.lastConnectedAt ≤ first.lastConnectedAt

def find (serverId : String) (context : ServersContext) : Option SavedServer :=
  context.servers.find? (·.id = serverId)

def getActiveServer (context : ServersContext) : Option SavedServer :=
  context.activeServerId.bind context.find

/-- The socket of the channels store is replaced by one to the server. -/
def reconnect (pseudonymId baseUrl : String) (constructed : Bool) (context : ServersContext) :
    ServersContext :=
  { context with
    sockets := context.sockets.disconnectWs.connectWs pseudonymId baseUrl constructed }

end ServersContext

inductive ServersRequest where
  | switchServer (serverId : String)
  | addRemoteServer (baseUrl : String)
  | removeServer (serverId : String)
deriving DecidableEq, Repr

/-- Where a call is: it has not begun, or it awaits what the name says. -/
inductive ServersCall where
  | switchServer (serverId : String)
  | gettingIdentity (server : SavedServer)
  /-- `selectIdentity` has returned. -/
  | selected (server : SavedServer)
  | loadingChannels (server : SavedServer)
  | loadingPermissions (server : SavedServer)
  | saving (server : SavedServer)
  /-- The switch has ended; the cached summary is refreshed in the background. -/
  | gettingSummary (serverId : String)
  | gettingServer (serverId : String) (summary : ServerSummary)
  | cachingSummary (server : SavedServer)
  | addRemoteServer (baseUrl : String)
  | gettingRemoteSummary (baseUrl : String)
  | savingRemote (server : SavedServer)
  | listing
  | listed (servers : List SavedServer)
  | removeServer (serverId : String)
  | removing (activeServerId : Option String) (serverId : String)
  | listingRest (activeServerId : Option String) (serverId : String)
  | listedRest (activeServerId : Option String) (serverId : String) (servers : List SavedServer)
deriving DecidableEq, Repr

/-- The call is a switch that has changed the active server and has not ended. -/
def ServersCall.IsSwitch : ServersCall → Prop
  | .gettingIdentity _ | .selected _ | .loadingChannels _ | .loadingPermissions _ | .saving _ =>
      True
  | _ => False

def ServersRequest.enter : ServersRequest → ServersCall
  | .switchServer serverId => .switchServer serverId
  | .addRemoteServer baseUrl => .addRemoteServer baseUrl
  | .removeServer serverId => .removeServer serverId

/-- How an await ends, and what the segment after it takes from outside. -/
structure Settlement where
  succeeds : Bool
  now : Nat
  randomUuid : String
  accentColor : String
  summary : ServerSummary
  /-- The browser's socket is constructed. -/
  constructed : Bool
deriving DecidableEq, Repr

/-- `switchServer` up to its first await. -/
def ServersContext.beginSwitch (serverId : String) (context : ServersContext) :
    ServersContext × Option ServersCall :=
  if some serverId = context.activeServerId then (context, none)
  else
    match context.find serverId with
    | none => (context, none)
    | some server =>
        ({ context with activeServerId := some serverId, switching := true }.setApiBaseUrl
          server.baseUrl, some (.gettingIdentity server))

/-- The switch ends. -/
def ServersContext.endSwitch (context : ServersContext) : ServersContext :=
  { context with switching := false }

/-- `removeServer` after its last await. The call goes on as the switch that it starts. -/
def ServersContext.endRemoval (activeServerId : Option String) (serverId : String)
    (servers : List SavedServer) (context : ServersContext) :
    ServersContext × Option ServersCall :=
  if activeServerId = some serverId then
    match servers.head? with
    | some fallback =>
        { context with servers, activeServerId := some fallback.id }.beginSwitch fallback.id
    | none => ({ context with servers, activeServerId := none }.setApiBaseUrl "", none)
  else ({ context with servers }, none)

/-- A call goes on to its next await or to its end. -/
def ServersCall.act (identities : List StoredIdentity) (call : ServersCall)
    (settlement : Settlement) (context : ServersContext) : ServersContext × Option ServersCall :=
  match call with
  | .switchServer serverId => context.beginSwitch serverId
  | .gettingIdentity server =>
      if settlement.succeeds then
        let found := getIdentity identities server.identityId
        ({ context with identityStore := context.identityStore.select found },
          some (.selected server))
      else (context.endSwitch, none)
  | .selected server =>
      match context.identityStore.pseudonymId with
      | none => (context.endSwitch, none)
      | some pseudonymId =>
          let reconnected := context.reconnect pseudonymId server.baseUrl settlement.constructed
          if settlement.constructed then (reconnected, some (.loadingChannels server))
          else (reconnected.endSwitch, none)
  | .loadingChannels server =>
      if settlement.succeeds then (context, some (.loadingPermissions server))
      else (context.endSwitch, none)
  | .loadingPermissions server =>
      -- An error is caught.
      (context, some (.saving { server with lastConnectedAt := settlement.now }))
  | .saving server =>
      if settlement.succeeds then
        ((context.saveServer server).endSwitch, some (.gettingSummary server.id))
      else (context.endSwitch, none)
  | .gettingSummary serverId =>
      if settlement.succeeds then (context, some (.gettingServer serverId settlement.summary))
      else (context, none)
  | .gettingServer serverId summary =>
      if settlement.succeeds then
        (context, (context.saved.find? (·.id = serverId)).map fun server =>
          .cachingSummary { server with cachedSummary := some summary })
      else (context, none)
  | .cachingSummary server =>
      if settlement.succeeds then (context.saveServer server, none) else (context, none)
  | .addRemoteServer baseUrl =>
      match context.servers.find? (·.baseUrl = baseUrl) with
      | some _ => (context, none)
      | none => (context, some (.gettingRemoteSummary baseUrl))
  | .gettingRemoteSummary baseUrl =>
      if settlement.succeeds then
        let server := createServerEntry settlement.randomUuid settlement.accentColor settlement.now
          baseUrl settlement.summary.slug settlement.summary.label ""
        (context, some (.savingRemote { server with cachedSummary := some settlement.summary }))
      else (context, none)
  | .savingRemote server =>
      if settlement.succeeds then (context.saveServer server, some .listing) else (context, none)
  | .listing =>
      if settlement.succeeds then (context, some (.listed context.listServers)) else (context, none)
  | .listed servers => ({ context with servers }, none)
  | .removeServer serverId => (context, some (.removing context.activeServerId serverId))
  | .removing activeServerId serverId =>
      if settlement.succeeds then
        (context.deleteServer serverId, some (.listingRest activeServerId serverId))
      else (context, none)
  | .listingRest activeServerId serverId =>
      if settlement.succeeds then
        (context, some (.listedRest activeServerId serverId context.listServers))
      else (context, none)
  | .listedRest activeServerId serverId servers =>
      context.endRemoval activeServerId serverId servers

/-- What happens to a socket, other than that the channels store connects or disconnects. -/
def SocketEvent : Type :=
  { event : SocketWorld.Event //
    event ≠ .disconnectWs ∧ ∀ pseudonymId baseUrl constructed,
      event ≠ .connectWs pseudonymId baseUrl constructed }

inductive ServersEvent where
  | call (label : Interleaving.Label ServersRequest Settlement)
  | socket (event : SocketEvent)

def serversProgram (identities : List StoredIdentity) :
    Interleaving.Program ServersContext ServersCall ServersRequest Settlement where
  enter _ request := request.enter
  act _ call settlement context := some (call.act identities settlement context)

def serversStep (identities : List StoredIdentity)
    (state : Interleaving ServersContext ServersCall) :
    ServersEvent → Interleaving ServersContext ServersCall
  | .call label => Interleaving.step (serversProgram identities) state label
  | .socket event =>
      { state with
        shared := { state.shared with sockets := state.shared.sockets.step event.val } }

end Annex.Client
