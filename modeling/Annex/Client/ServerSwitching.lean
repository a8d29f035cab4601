import Annex.Client.LiveSockets
import Annex.Client.ServersStore

namespace Annex.Client

/-! The context of the active server. A switch changes it piece by piece, so that calls that
come between its steps, and the removal of the active server, can leave pieces of two. -/

namespace SocketWorld

/-- The channels store holds the same object, and every object is of the same server and
pseudonym as before. -/
structure Continues (before after : SocketWorld) : Prop where
  ws : after.ws = before.ws
  clients : ∀ number client, after.clients number = some client →
    ∃ old, before.clients number = some old ∧ client.baseUrl = old.baseUrl ∧
      client.pseudonymId = old.pseudonymId

section Continues

variable {world : SocketWorld} {number : Nat} {client : AnnexWebSocket}

theorem continues_refl (world : SocketWorld) : Continues world world :=
  ⟨rfl, fun _ client found => ⟨client, found, rfl, rfl⟩⟩

theorem continues_setClient (changed : AnnexWebSocket)
    (found : world.clients number = some client) (baseUrl : changed.baseUrl = client.baseUrl)
    (pseudonymId : changed.pseudonymId = client.pseudonymId) :
    Continues world (world.setClient number changed) := by
  refine ⟨rfl, ?_⟩
  intro other after isAfter
  change Function.update world.clients number (some changed) other = some after at isAfter
  by_cases same : other = number
  · rw [same, Function.update_self, Option.some.injEq] at isAfter
    rw [same, ← isAfter]
    exact ⟨client, found, baseUrl, pseudonymId⟩
  · rw [Function.update_of_ne same] at isAfter
    exact ⟨after, isAfter, rfl, rfl⟩

theorem continues_changeSubscriptions (frame : WsSendFrame)
    (change : List String → List String) :
    Continues world (world.changeSubscriptions frame change) := by
  unfold changeSubscriptions
  split
  · exact continues_refl world
  · split
    · exact continues_refl world
    · next client found =>
      have changed := continues_setClient
        { client with subscribedChannels := change client.subscribedChannels } found rfl rfl
      exact ⟨changed.ws, changed.clients⟩

theorem continues_onOpen (found : world.clients number = some client) :
    Continues world (world.onOpen number client) := by
  have delayed := continues_setClient
    { client with reconnectDelay := initialReconnectDelayMs } found rfl rfl
  unfold onOpen
  dsimp only
  split
  · exact ⟨delayed.ws, delayed.clients⟩
  · exact delayed

theorem continues_onClose (found : world.clients number = some client) :
    Continues world (world.onClose number client) := by
  unfold onClose
  dsimp only
  split
  · exact ⟨rfl, (continues_refl world).clients⟩
  · have timed := continues_setClient
      { client with
        reconnectTimer := some world.nextTimer
        reconnectDelay := min (client.reconnectDelay * 2) maxReconnectDelayMs } found rfl rfl
    exact ⟨timed.ws, timed.clients⟩

theorem continues_connect (constructed : Bool) :
    Continues world (world.connect constructed number) := by
  cases found : world.clients number with
  | none =>
      unfold connect
      rw [found]
      exact continues_refl world
  | some client =>
      rw [connect_of_found constructed found]
      cases constructed with
      | false => exact continues_setClient _ found rfl rfl
      | true =>
          have written := continues_setClient
            { client with intentionalClose := false, ws := some world.nextSocket } found rfl rfl
          exact ⟨written.ws, written.clients⟩

/-- Only the channels store replaces its object. -/
theorem continues_step (event : SocketEvent) : Continues world (world.step event.val) := by
  rcases event with ⟨event, notDisconnect, notConnect⟩
  cases event with
  | connectWs pseudonymId baseUrl constructed => exact absurd rfl (notConnect _ _ _)
  | disconnectWs => exact absurd rfl notDisconnect
  | subscribe channelId =>
      unfold step
      exact continues_changeSubscriptions _ _
  | unsubscribe channelId =>
      unfold step
      exact continues_changeSubscriptions _ _
  | message socket => exact continues_refl world
  | opened ws =>
      unfold step
      dsimp only
      cases world.sockets ws with
      | none => exact continues_refl world
      | some socket =>
          dsimp only
          split
          · cases isOwner : world.clients socket.owner with
            | none => exact continues_refl world
            | some client =>
                have opened := @continues_onOpen
                  (world.setSocket ws { socket with readyState := .opened }) _ _ isOwner
                exact ⟨opened.ws, opened.clients⟩
          · exact continues_refl world
  | closed ws =>
      unfold step
      dsimp only
      cases world.sockets ws with
      | none => exact continues_refl world
      | some socket =>
          dsimp only
          split
          · exact continues_refl world
          · cases isOwner : world.clients socket.owner with
            | none => exact continues_refl world
            | some client =>
                have closed := @continues_onClose
                  (world.setSocket ws { socket with readyState := .closed }) _ _ isOwner
                exact ⟨closed.ws, closed.clients⟩
  | timer timer constructed =>
      unfold step
      dsimp only
      cases world.timers timer with
      | none => exact continues_refl world
      | some owner =>
          have connected := @continues_connect (world.fire timer) owner constructed
          exact ⟨connected.ws, connected.clients⟩

end Continues

/-- The object of the channels store has the property. -/
def Holds (property : AnnexWebSocket → Prop) (world : SocketWorld) : Prop :=
  ∀ number client, world.ws = some number → world.clients number = some client → property client

theorem ws_disconnectWs (world : SocketWorld) : world.disconnectWs.ws = none := by
  unfold disconnectWs
  split
  · rfl
  · assumption

/-- To connect after a disconnect gives the store an object of the server and the pseudonym, or
none. -/
theorem holds_connectWs (world : SocketWorld) (pseudonymId baseUrl : String)
    (constructed : Bool) :
    (world.disconnectWs.connectWs pseudonymId baseUrl constructed).Holds fun client =>
      client.baseUrl = withoutTrailingSlashes baseUrl ∧ client.pseudonymId = pseudonymId := by
  have empty := ws_disconnectWs world
  have existing : world.disconnectWs.disconnectExisting = world.disconnectWs := by
    unfold disconnectExisting
    rw [empty]
  intro number client held found
  unfold connectWs at held found
  rw [existing] at held found
  have new : (world.disconnectWs.construct pseudonymId baseUrl).clients
      world.disconnectWs.nextClient = some (.new pseudonymId baseUrl) :=
    Function.update_self _ _ _
  dsimp only at held found
  rw [connect_of_found constructed new] at held found
  cases constructed with
  | false =>
      have none : world.disconnectWs.ws = some number := held
      rw [empty] at none
      cases none
  | true =>
      cases held
      have isNew : Function.update (world.disconnectWs.construct pseudonymId baseUrl).clients
          world.disconnectWs.nextClient
            (some { AnnexWebSocket.new pseudonymId baseUrl with
              intentionalClose := false
              ws := some world.disconnectWs.nextSocket }) world.disconnectWs.nextClient =
          some client := found
      rw [Function.update_self, Option.some.injEq] at isNew
      rw [← isNew]
      exact ⟨rfl, rfl⟩

end SocketWorld

/-- An identity that `selectIdentity` selects. -/
def Selectable (found : Option StoredIdentity) : Prop :=
  ∃ identity, found = some identity ∧ ((given identity.pseudonymId).isSome ∨ identity.sk ≠ "")

theorem identity_select {found : Option StoredIdentity} (selectable : Selectable found)
    (store : IdentityState) : (store.select found).identity = found := by
  rcases selectable with ⟨identity, isIdentity, usable⟩
  rw [isIdentity]
  unfold IdentityState.select
  dsimp only
  split
  · rfl
  · next without =>
    rw [if_pos (usable.resolve_left without)]

theorem select_of_not_selectable {found : Option StoredIdentity}
    (unusable : ¬ Selectable found) (store : IdentityState) : store.select found = store := by
  cases found with
  | none => rfl
  | some identity =>
      unfold IdentityState.select
      dsimp only
      rw [if_neg fun some => unusable ⟨identity, rfl, Or.inl some⟩,
        if_neg fun some => unusable ⟨identity, rfl, Or.inr some⟩]

/-- The base URL for a target: that of its server, or the current origin. -/
def targetUrl (target : Option (String × String)) : String :=
  withoutTrailingSlashes ((target.map (·.1)).getD "")

/-- The object is of the target's server and of the pseudonym of its identity. -/
def Serves (identities : List StoredIdentity) (target : Option (String × String))
    (client : AnnexWebSocket) : Prop :=
  client.baseUrl = targetUrl target ∧
    ∀ baseUrl identityId, target = some (baseUrl, identityId) →
      some client.pseudonymId = given ((getIdentity identities identityId).bind (·.pseudonymId))

theorem Serves.same {identities : List StoredIdentity} {target : Option (String × String)}
    {client old : AnnexWebSocket} (serves : Serves identities target old)
    (baseUrl : client.baseUrl = old.baseUrl) (pseudonymId : client.pseudonymId = old.pseudonymId) :
    Serves identities target client := by
  unfold Serves
  rw [baseUrl, pseudonymId]
  exact serves

namespace ServersContext

/-- The base URL of the active server and the id of its identity. -/
def target (context : ServersContext) : Option (String × String) :=
  context.getActiveServer.map fun server => (server.baseUrl, server.identityId)

/-- The API, the selected identity and the open sockets are those of the active server. Without
one, the API and the open sockets are those of the current origin. -/
structure OneContext (identities : List StoredIdentity) (context : ServersContext) : Prop where
  named : context.activeServerId.isSome → context.target.isSome
  api : context.apiBaseUrl = targetUrl context.target
  identity : ∀ baseUrl identityId, context.target = some (baseUrl, identityId) →
    context.identityStore.identity = getIdentity identities identityId
  sockets : ∀ number socket client, context.sockets.sockets number = some socket →
    socket.readyState = .opened → context.sockets.clients socket.owner = some client →
      Serves identities context.target client

/-- The active server is one of those listed, and the API is its. -/
structure Aligned (context : ServersContext) : Prop where
  named : context.activeServerId.isSome → context.target.isSome
  api : context.apiBaseUrl = targetUrl context.target

/-- The selected identity and the object of the channels store are those of the active server. -/
structure Settled (identities : List StoredIdentity) (context : ServersContext) : Prop where
  identity : ∀ baseUrl identityId, context.target = some (baseUrl, identityId) →
    context.identityStore.identity = getIdentity identities identityId
  holds : context.sockets.Holds (Serves identities context.target)

/-- The active server has the base URL and the identity of the given one. -/
def Meant (context : ServersContext) (server : SavedServer) : Prop :=
  context.target = some (server.baseUrl, server.identityId)

/-- A switch to the active server that has yet to select the identity. -/
def AwaitsIdentity (context : ServersContext) : ServersCall → Prop
  | .gettingIdentity server => context.Meant server
  | _ => False

/-- A switch to the active server that has yet to connect. -/
def AwaitsConnection (context : ServersContext) : ServersCall → Prop
  | .gettingIdentity server | .selected server => context.Meant server
  | _ => False

/-- A switch to the active server that will still connect with the right identity. -/
def Restores (identities : List StoredIdentity) (context : ServersContext) : ServersCall → Prop
  | .gettingIdentity server => context.Meant server
  | .selected server =>
      context.Meant server ∧
        context.identityStore.identity = getIdentity identities server.identityId
  | _ => False

/-- The list has the active server, as it was. -/
def Lists (context : ServersContext) (servers : List SavedServer) : Prop :=
  ∀ server, context.getActiveServer = some server →
    ∃ listed, servers.find? (·.id = server.id) = some listed ∧ context.Meant listed

end ServersContext

/-- A call does not take pieces of two contexts when it goes on. A switch changes the identity or
the socket only for the active server, or while a later switch has yet to change them; the identity
of the active server is found, and connects or has nothing to replace; a list has the active
server; and a removed server is not the active one, unless what takes its place is the same. -/
def ServersCall.Timely (identities : List StoredIdentity)
    (state : Interleaving ServersContext ServersCall) (settlement : Settlement) :
    ServersCall → Prop
  | .gettingIdentity server =>
      let found := getIdentity identities server.identityId
      (state.shared.Meant server → settlement.succeeds = true ∧
        (Selectable found ∨ state.shared.identityStore.identity = found)) ∧
      (¬ state.shared.Meant server → settlement.succeeds = true → Selectable found →
        state.Pending state.shared.AwaitsIdentity)
  | .selected server =>
      (state.shared.Meant server →
        state.shared.identityStore.pseudonymId.isSome ∨ state.shared.sockets.ws = none) ∧
      (¬ state.shared.Meant server → state.shared.identityStore.pseudonymId.isSome →
        state.Pending state.shared.AwaitsConnection)
  | .listed servers => state.shared.Lists servers
  | .listedRest activeServerId serverId servers =>
      if activeServerId = some serverId then
        match servers.head? with
        | some fallback => state.shared.Meant fallback
        | none => state.shared.sockets.Holds fun client => client.baseUrl = ""
      else state.shared.Lists servers
  | _ => True

/-- Every call goes on in time. -/
def Orderly (identities : List StoredIdentity)
    (state : Interleaving ServersContext ServersCall) : ServersEvent → Prop
  | .call (.advance id settlement) =>
      ∀ call, state.calls id = some call → call.Timely identities state settlement
  | _ => True

section Kept

variable {identities : List StoredIdentity} {state : Interleaving ServersContext ServersCall}

structure Kept (identities : List StoredIdentity)
    (state : Interleaving ServersContext ServersCall) : Prop where
  sound : state.shared.sockets.Sound
  aligned : state.shared.Aligned
  settles : state.shared.Settled identities ∨ state.Pending (state.shared.Restores identities)

/-- Where no switch is in progress, the context is that of the active server. -/
theorem Kept.oneContext (kept : Kept identities state)
    (quiet : ¬ state.Pending ServersCall.IsSwitch) : state.shared.OneContext identities := by
  have settled : state.shared.Settled identities := by
    rcases kept.settles with settled | ⟨id, call, found, restores⟩
    · exact settled
    · refine absurd ⟨id, call, found, ?_⟩ quiet
      cases call with
      | gettingIdentity server => trivial
      | selected server => trivial
      | _ => exact restores.elim
  refine ⟨kept.aligned.named, kept.aligned.api, settled.identity, ?_⟩
  intro number socket client found opened isOwner
  exact settled.holds socket.owner client (kept.sound.live number socket found (Or.inr opened)).1
    isOwner

/-- The same as far as the active server and its context go. -/
structure SameContext (before after : ServersContext) : Prop where
  target : after.target = before.target
  named : after.activeServerId.isSome → before.activeServerId.isSome
  api : after.apiBaseUrl = before.apiBaseUrl
  identity : after.identityStore = before.identityStore
  sockets : after.sockets = before.sockets

theorem SameContext.aligned {before after : ServersContext} (same : SameContext before after)
    (aligned : before.Aligned) : after.Aligned := by
  constructor
  · intro active
    rw [same.target]
    exact aligned.named (same.named active)
  · rw [same.api, same.target]
    exact aligned.api

theorem SameContext.settled {before after : ServersContext} (same : SameContext before after)
    (settled : before.Settled identities) : after.Settled identities := by
  constructor
  · rw [same.target, same.identity]
    exact settled.identity
  · rw [same.target, same.sockets]
    exact settled.holds

theorem restores_of_same {before after : ServersContext} (target : after.target = before.target)
    (identity : after.identityStore = before.identityStore) (call : ServersCall)
    (restores : before.Restores identities call) : after.Restores identities call := by
  cases call with
  | gettingIdentity server => exact target.trans restores
  | selected server => exact ⟨target.trans restores.1, identity ▸ restores.2⟩
  | _ => exact restores.elim

/-- A call that restores nothing leaves everything as it is. -/
theorem Kept.goesOn (kept : Kept identities state) {id : Nat} {call : ServersCall}
    (found : state.calls id = some call) (without : ¬ state.shared.Restores identities call)
    {after : ServersContext} (same : SameContext state.shared after) (next : Option ServersCall) :
    Kept identities ⟨after, Function.update state.calls id next⟩ := by
  refine ⟨?_, same.aligned kept.aligned, ?_⟩
  · change after.sockets.Sound
    rw [same.sockets]
    exact kept.sound
  · apply kept.settles.imp same.settled
    intro pending
    exact pending.update (Interleaving.of_found found without)
      (restores_of_same same.target same.identity)

theorem sameContext_refl (context : ServersContext) : SameContext context context :=
  ⟨rfl, fun active => active, rfl, rfl, rfl⟩

theorem sameContext_endSwitch (context : ServersContext) :
    SameContext context context.endSwitch :=
  ⟨rfl, id, rfl, rfl, rfl⟩

variable {id : Nat} {settlement : Settlement}

/-- A switch that begins restores the context of the server that becomes active. -/
theorem Kept.beginSwitch (kept : Kept identities state) {call : ServersCall}
    (found : state.calls id = some call) (without : ¬ state.shared.Restores identities call)
    (serverId : String) :
    Kept identities ⟨(state.shared.beginSwitch serverId).1,
      Function.update state.calls id (state.shared.beginSwitch serverId).2⟩ := by
  unfold ServersContext.beginSwitch
  split
  · exact kept.goesOn found without (sameContext_refl _) none
  · cases isServer : state.shared.find serverId with
    | none => exact kept.goesOn found without (sameContext_refl _) none
    | some server =>
        have target : (({ state.shared with
            activeServerId := some serverId
            switching := true }).setApiBaseUrl server.baseUrl).target =
              some (server.baseUrl, server.identityId) :=
          congrArg (Option.map fun server : SavedServer => (server.baseUrl, server.identityId))
            isServer
        refine ⟨kept.sound, ⟨fun _ => ?_, ?_⟩, Or.inr ?_⟩
        · rw [target]
          rfl
        · rw [target]
          rfl
        · exact Interleaving.pending_next rfl target

theorem Kept.gettingIdentity (kept : Kept identities state) {server : SavedServer}
    (found : state.calls id = some (.gettingIdentity server))
    (timely : (ServersCall.gettingIdentity server).Timely identities state settlement) :
    Kept identities
      ⟨((ServersCall.gettingIdentity server).act identities settlement state.shared).1,
        Function.update state.calls id
          ((ServersCall.gettingIdentity server).act identities settlement state.shared).2⟩ := by
  by_cases meant : state.shared.Meant server
  · rcases timely.1 meant with ⟨succeeds, right⟩
    have selected : (state.shared.identityStore.select
        (getIdentity identities server.identityId)).identity =
          getIdentity identities server.identityId := by
      by_cases selectable : Selectable (getIdentity identities server.identityId)
      · exact identity_select selectable _
      · rw [select_of_not_selectable selectable]
        exact right.resolve_left selectable
    unfold ServersCall.act
    rw [succeeds, if_pos rfl]
    exact ⟨kept.sound, ⟨kept.aligned.named, kept.aligned.api⟩,
      Or.inr (Interleaving.pending_next rfl ⟨meant, selected⟩)⟩
  · unfold ServersCall.act
    dsimp only
    split
    · next succeeds =>
      by_cases selectable : Selectable (getIdentity identities server.identityId)
      · refine ⟨kept.sound, ⟨kept.aligned.named, kept.aligned.api⟩, Or.inr ?_⟩
        apply (timely.2 meant succeeds selectable).update
        · exact Interleaving.of_found found meant
        · intro call awaits
          cases call with
          | gettingIdentity other => exact awaits
          | _ => exact awaits.elim
      · rw [select_of_not_selectable selectable]
        exact kept.goesOn found meant (sameContext_refl _) _
    · exact kept.goesOn found meant (sameContext_endSwitch _) none

/-- The socket is replaced by one of the active server and the right identity. -/
theorem settled_reconnect {context : ServersContext} {server : SavedServer}
    (meant : context.Meant server)
    (right : context.identityStore.identity = getIdentity identities server.identityId)
    {pseudonymId : String} (selected : context.identityStore.pseudonymId = some pseudonymId)
    (constructed : Bool) :
    (context.reconnect pseudonymId server.baseUrl constructed).Settled identities := by
  have target : (context.reconnect pseudonymId server.baseUrl constructed).target =
      some (server.baseUrl, server.identityId) := meant
  constructor
  · intro baseUrl identityId isTarget
    rw [target] at isTarget
    cases isTarget
    exact right
  · intro number client held found
    have connected := SocketWorld.holds_connectWs context.sockets pseudonymId server.baseUrl
      constructed number client held found
    rw [target]
    refine ⟨connected.1, ?_⟩
    intro baseUrl identityId isTarget
    cases isTarget
    rw [connected.2, ← right]
    exact selected.symm

theorem sound_reconnect {context : ServersContext} (sound : context.sockets.Sound)
    (pseudonymId baseUrl : String) (constructed : Bool) :
    (context.reconnect pseudonymId baseUrl constructed).sockets.Sound :=
  SocketWorld.sound_connectWs (SocketWorld.sound_disconnectWs sound) pseudonymId baseUrl constructed

theorem Kept.selected (kept : Kept identities state) {server : SavedServer}
    (found : state.calls id = some (.selected server))
    (timely : (ServersCall.selected server).Timely identities state settlement) :
    Kept identities
      ⟨((ServersCall.selected server).act identities settlement state.shared).1,
        Function.update state.calls id
          ((ServersCall.selected server).act identities settlement state.shared).2⟩ := by
  have quiet : ¬ state.shared.Restores identities (.selected server) →
      Kept identities ⟨state.shared.endSwitch, Function.update state.calls id none⟩ :=
    fun without => kept.goesOn found without (sameContext_endSwitch _) none
  unfold ServersCall.act
  dsimp only
  cases selected : state.shared.identityStore.pseudonymId with
  | none =>
      by_cases restores : state.shared.Restores identities (.selected server)
      · have empty : state.shared.sockets.ws = none := by
          rcases timely.1 restores.1 with some | empty
          · rw [selected] at some
            cases some
          · exact empty
        refine ⟨kept.sound, ⟨kept.aligned.named, kept.aligned.api⟩, Or.inl ⟨?_, ?_⟩⟩
        · intro baseUrl identityId isTarget
          cases restores.1.symm.trans isTarget
          exact restores.2
        · intro number client held
          cases empty.symm.trans held
      · exact quiet restores
  | some pseudonymId =>
      dsimp only
      have sound := sound_reconnect kept.sound pseudonymId server.baseUrl settlement.constructed
      by_cases restores : state.shared.Restores identities (.selected server)
      · have settled := settled_reconnect restores.1 restores.2 selected settlement.constructed
        split
        · exact ⟨sound, ⟨kept.aligned.named, kept.aligned.api⟩, Or.inl settled⟩
        · exact ⟨sound, ⟨kept.aligned.named, kept.aligned.api⟩,
            Or.inl ⟨settled.identity, settled.holds⟩⟩
      · have pending : state.Pending (state.shared.Restores identities) := by
          rcases kept.settles with settled | pending
          · have other : ¬ state.shared.Meant server :=
              fun meant => restores ⟨meant, settled.identity _ _ meant⟩
            rcases timely.2 other (selected ▸ rfl) with ⟨otherId, call, isCall, awaits⟩
            refine ⟨otherId, call, isCall, ?_⟩
            cases call with
            | gettingIdentity waiting => exact awaits
            | selected waiting => exact ⟨awaits, settled.identity _ _ awaits⟩
            | _ => exact awaits.elim
          · exact pending
        split
        · refine ⟨sound, ⟨kept.aligned.named, kept.aligned.api⟩, Or.inr ?_⟩
          exact pending.update (Interleaving.of_found found restores) (restores_of_same rfl rfl)
        · refine ⟨sound, ⟨kept.aligned.named, kept.aligned.api⟩, Or.inr ?_⟩
          exact pending.update (Interleaving.of_found found restores) (restores_of_same rfl rfl)

/-- A list with the active server leaves the context as it is. -/
theorem sameContext_of_lists {context : ServersContext} (aligned : context.Aligned)
    {servers : List SavedServer} (lists : context.Lists servers) :
    SameContext context { context with servers } := by
  refine ⟨?_, id, rfl, rfl, rfl⟩
  cases active : context.activeServerId with
  | none =>
      unfold ServersContext.target ServersContext.getActiveServer
      rw [active]
      rfl
  | some serverId =>
      cases isServer : context.getActiveServer with
      | none =>
          have named := aligned.named (active ▸ rfl)
          unfold ServersContext.target at named
          rw [isServer] at named
          cases named
      | some server =>
          rcases lists server isServer with ⟨listed, isListed, meant⟩
          have same : server.id = serverId := by
            unfold ServersContext.getActiveServer ServersContext.find at isServer
            rw [active, Option.bind_some] at isServer
            simpa using List.find?_some isServer
          rw [same] at isListed
          rw [meant]
          unfold ServersContext.target ServersContext.getActiveServer ServersContext.find
          rw [Option.bind_some, isListed]
          rfl

/-- What takes the place of the removed server has the same context. -/
theorem Kept.endRemoval (kept : Kept identities state) {activeServerId : Option String}
    {serverId : String} {servers : List SavedServer}
    (found : state.calls id = some (.listedRest activeServerId serverId servers))
    (timely : (ServersCall.listedRest activeServerId serverId servers).Timely identities state
      settlement) :
    Kept identities ⟨(state.shared.endRemoval activeServerId serverId servers).1,
      Function.update state.calls id
        (state.shared.endRemoval activeServerId serverId servers).2⟩ := by
  unfold ServersCall.Timely at timely
  unfold ServersContext.endRemoval
  dsimp only at timely
  split
  · next removed =>
    rw [if_pos removed] at timely
    cases isHead : servers.head? with
    | some fallback =>
        rw [isHead] at timely
        have first : servers.find? (·.id = fallback.id) = some fallback := by
          rcases List.head?_eq_some_iff.mp isHead with ⟨rest, isServers⟩
          rw [isServers]
          exact List.find?_cons_of_pos (decide_eq_true rfl)
        have same : SameContext state.shared
            { state.shared with servers, activeServerId := some fallback.id } := by
          refine ⟨?_, ?_, rfl, rfl, rfl⟩
          · have meant : state.shared.Meant fallback := timely
            rw [meant]
            unfold ServersContext.target ServersContext.getActiveServer ServersContext.find
            rw [Option.bind_some, first]
            rfl
          · intro _
            have meant : state.shared.Meant fallback := timely
            cases active : state.shared.activeServerId with
            | none =>
                unfold ServersContext.Meant ServersContext.target
                  ServersContext.getActiveServer at meant
                rw [active] at meant
                cases meant
            | some _ => rfl
        -- The switch to the fallback finds it active already.
        unfold ServersContext.beginSwitch
        dsimp only
        rw [if_pos rfl]
        exact kept.goesOn found (fun restores => restores) same none
    | none =>
        rw [isHead] at timely
        refine ⟨kept.sound, ⟨nofun, rfl⟩, Or.inl ⟨nofun, ?_⟩⟩
        intro number client held isClient
        exact ⟨(timely number client held isClient).trans rfl, nofun⟩
  · next other =>
    rw [if_neg other] at timely
    exact kept.goesOn found (fun restores => restores) (sameContext_of_lists kept.aligned timely)
      none

/-- A call that only saves, or ends a switch, leaves the context as it is. -/
theorem Kept.saves (kept : Kept identities state) {call : ServersCall}
    (found : state.calls id = some call) (without : ¬ state.shared.Restores identities call)
    {after : ServersContext}
    (saves : ∃ switching saved, after = { state.shared with switching, saved })
    (next : Option ServersCall) : Kept identities ⟨after, Function.update state.calls id next⟩ := by
  rcases saves with ⟨switching, saved, isAfter⟩
  rw [isAfter]
  have same : SameContext state.shared { state.shared with switching, saved } :=
    ⟨rfl, fun active => active, rfl, rfl, rfl⟩
  exact kept.goesOn found without same next

theorem Kept.act (kept : Kept identities state) {call : ServersCall}
    (found : state.calls id = some call) (timely : call.Timely identities state settlement) :
    Kept identities ⟨(call.act identities settlement state.shared).1,
      Function.update state.calls id (call.act identities settlement state.shared).2⟩ := by
  cases call with
  | switchServer serverId => exact kept.beginSwitch found (fun restores => restores) serverId
  | gettingIdentity server => exact kept.gettingIdentity found timely
  | selected server => exact kept.selected found timely
  | listed servers =>
      exact kept.goesOn found (fun restores => restores)
        (sameContext_of_lists kept.aligned timely) none
  | listedRest activeServerId serverId servers => exact kept.endRemoval found timely
  | loadingPermissions _ | removeServer _ =>
      exact kept.goesOn found (fun restores => restores) (sameContext_refl _) _
  | loadingChannels _ | saving _ | gettingSummary _ | gettingServer _ _ | cachingSummary _
  | addRemoteServer _ | gettingRemoteSummary _ | savingRemote _ | listing | removing _ _
  | listingRest _ _ =>
      unfold ServersCall.act
      dsimp only
      split
      · exact kept.saves found (fun restores => restores) ⟨_, _, rfl⟩ _
      · exact kept.saves found (fun restores => restores) ⟨_, _, rfl⟩ _

theorem kept_step (kept : Kept identities state) (event : ServersEvent)
    (orderly : Orderly identities state event) :
    Kept identities (serversStep identities state event) := by
  cases event with
  | socket event =>
      have continues := @SocketWorld.continues_step state.shared.sockets event
      refine ⟨SocketWorld.sound_step kept.sound event.val,
        ⟨kept.aligned.named, kept.aligned.api⟩, ?_⟩
      apply kept.settles.imp
      · intro settled
        refine ⟨settled.identity, ?_⟩
        intro number client held found
        rcases continues.clients number client found with ⟨old, isOld, baseUrl, pseudonymId⟩
        exact (settled.holds number old (continues.ws ▸ held) isOld).same baseUrl pseudonymId
      · intro pending
        rcases pending with ⟨id, call, found, restores⟩
        exact ⟨id, call, found, restores_of_same rfl rfl call restores⟩
  | call label =>
      refine @Interleaving.step_invariant _ _ _ _ _
        (fun state label => Orderly identities state (.call label)) (Kept identities) ?_ ?_ state
          label kept orderly
      · intro state id request kept free _
        refine ⟨kept.sound, kept.aligned, kept.settles.imp_right ?_⟩
        intro pending
        apply pending.update
        · intro call found
          rw [free] at found
          cases found
        · exact fun _ restores => restores
      · intro state id call settlement shared next kept found ran orderly
        have result : call.act identities settlement state.shared = (shared, next) :=
          Option.some.inj ran
        have after := kept.act found (orderly call found)
        rw [result] at after
        exact after

end Kept

/-- The context is that of the active server whenever no switch is in progress. -/
def AlwaysOneContext (identities : List StoredIdentity) (start : ServersContext)
    (events : List ServersEvent) : Prop :=
  ∀ state, Execution.Visits (serversStep identities) (Interleaving.idle start) events state →
    ¬ state.Pending ServersCall.IsSwitch → state.shared.OneContext identities

/-- Switches and removals keep one context in every run in which the calls go on in time, from any
context that is settled. -/
theorem oneContext_of_orderly (identities : List StoredIdentity) (start : ServersContext)
    (sound : start.sockets.Sound) (aligned : start.Aligned) (settled : start.Settled identities)
    (events : List ServersEvent)
    (orderly : Execution.Guarded (serversStep identities) (Orderly identities)
      (Interleaving.idle start) events) : AlwaysOneContext identities start events := by
  intro state visited quiet
  have kept := Execution.visits_invariant_of_guarded (Kept identities)
    (fun _ event kept orderly => kept_step kept event orderly)
    ⟨sound, aligned, Or.inl settled⟩ orderly state visited
  exact kept.oneContext quiet

/-- The page has loaded the saved servers. -/
def ServersContext.loaded (saved : List SavedServer) : ServersContext :=
  let context : ServersContext :=
    { servers := []
      activeServerId := none
      switching := false
      apiBaseUrl := ""
      identityStore := ⟨.uninitialized, none, none, none, [], false, .idle⟩
      sockets := .initial
      saved }
  { context with servers := context.listServers }

namespace Sample

def storedIdentity (id pseudonymId : String) : StoredIdentity where
  id
  sk := "1"
  roleCode := 1
  nodeId := 1
  commitmentHex := ""
  pseudonymId := some pseudonymId
  serverSlug := "default"
  leafIndex := some 0
  createdAt := "2026-01-01"

def savedServer (id baseUrl identityId : String) : SavedServer :=
  createServerEntry id "#646cff" 0 baseUrl "default" "Default" identityId

def twoIdentities : List StoredIdentity :=
  [storedIdentity "alice" "alice@a", storedIdentity "bob" "bob@b"]

def twoServers : ServersContext :=
  .loaded [savedServer "a" "https://a.example/" "alice", savedServer "b" "https://b.example" "bob"]

def succeeding : Settlement where
  succeeds := true
  now := 1
  randomUuid := "c"
  accentColor := "#646cff"
  summary := ⟨"default", "Default", [], 0, 0, 0, 0⟩
  constructed := true

def failing : Settlement := { succeeding with succeeds := false }

/-- The first server becomes active; its summary is not refreshed. -/
def switchEvents : List ServersEvent :=
  [.call (.start 0 (.switchServer "a")), .call (.advance 0 succeeding),
    .call (.advance 0 succeeding), .call (.advance 0 succeeding), .call (.advance 0 succeeding),
    .call (.advance 0 succeeding), .call (.advance 0 succeeding), .call (.advance 0 failing),
    .socket ⟨.opened 0, nofun, nofun⟩]

/-- The active server is removed. -/
def removeEvents : List ServersEvent :=
  [.call (.start 1 (.removeServer "a")), .call (.advance 1 succeeding),
    .call (.advance 1 succeeding), .call (.advance 1 succeeding), .call (.advance 1 succeeding)]

theorem oneContext_switchEvents : AlwaysOneContext twoIdentities twoServers switchEvents := by
  refine oneContext_of_orderly twoIdentities twoServers SocketWorld.sound_initial ⟨nofun, rfl⟩
    ⟨nofun, nofun⟩ switchEvents ⟨trivial, ?_, ?_, ?_, ?_, ?_, ?_, ?_, trivial, trivial⟩
  · exact Interleaving.of_found rfl trivial
  · refine Interleaving.of_found rfl ⟨fun _ => ⟨rfl, Or.inl ⟨_, rfl, Or.inl rfl⟩⟩, ?_⟩
    intro other
    exact absurd rfl other
  · refine Interleaving.of_found rfl ⟨fun _ => Or.inl rfl, ?_⟩
    intro other
    exact absurd rfl other
  · exact Interleaving.of_found rfl trivial
  · exact Interleaving.of_found rfl trivial
  · exact Interleaving.of_found rfl trivial
  · exact Interleaving.of_found rfl trivial

/-- The second server is active, but the API is still that of the removed one. -/
theorem not_alwaysOneContext :
    ¬ ∀ identities saved events,
      AlwaysOneContext identities (.loaded saved) events := by
  intro always
  have one := always twoIdentities twoServers.saved (switchEvents ++ removeEvents) _
    ⟨switchEvents ++ removeEvents, List.prefix_rfl, rfl⟩ ?_
  · have api := one.api
    revert api
    decide +kernel
  · apply Interleaving.Idle.not_pending
    intro id
    rcases id with _ | _ | id
    · rfl
    · rfl
    · rfl

end Sample

end Annex.Client
