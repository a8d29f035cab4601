import Annex.Client.LiveSockets

namespace Annex.Client

/-! Sockets that were replaced. Their close events still reach the channels store, but nothing
else of them does. -/

namespace SocketWorld

/-- Some socket is in the state. -/
def Has (state : ReadyState) (world : SocketWorld) : Prop :=
  ∃ number socket, world.sockets number = some socket ∧ socket.readyState = state

/-- The object that the store holds has an open socket. -/
def HoldsOpen (world : SocketWorld) : Prop :=
  ∃ number client ws socket, world.ws = some number ∧ world.clients number = some client ∧
    client.ws = some ws ∧ world.sockets ws = some socket ∧ socket.readyState = .opened

/-- The object was disconnected and has not connected since. -/
def Disconnected (number : Nat) (world : SocketWorld) : Prop :=
  ∃ client, world.clients number = some client ∧ client.intentionalClose = true

section Connected

variable {world : SocketWorld} {number : Nat} {client : AnnexWebSocket} {state : ReadyState}

/-- The flag of the store is set while a socket is open, and otherwise only while one is
closing. -/
structure Connected (world : SocketWorld) : Prop where
  told : world.Has .opened → world.wsConnected = true
  telling : world.wsConnected = true → world.Has .opened ∨ world.Has .closing

/-- The close event of a replaced socket does not come after its successor has opened. -/
def Timely (world : SocketWorld) : Event → Prop
  | .closed number => ∀ socket, world.sockets number = some socket →
      socket.readyState ≠ .closed → world.ws ≠ some socket.owner → ¬ world.HoldsOpen
  | _ => True

theorem holdsOpen_iff (sound : world.Sound) : world.HoldsOpen ↔ world.Has .opened := by
  constructor
  · intro holds
    rcases holds with ⟨_, _, ws, socket, _, _, _, found, opened⟩
    exact ⟨ws, socket, found, opened⟩
  · intro has
    rcases has with ⟨ws, socket, found, opened⟩
    rcases sound.live ws socket found (Or.inr opened) with ⟨held, owner, isOwner, named, _⟩
    exact ⟨socket.owner, owner, ws, socket, held, isOwner, named, found, opened⟩

theorem Silent.not_has_opened (silent : world.Silent) : ¬ world.Has .opened := by
  intro has
  rcases has with ⟨ws, socket, found, opened⟩
  exact silent.sockets ws socket found (Or.inr opened)

theorem has_sendAll (ws : Option Nat) (frames : List WsSendFrame) :
    (world.sendAll ws frames).Has state ↔ world.Has state := by
  rcases @sendAll_cases world ws frames with same | ⟨number, old, socket, found, _, kept, same⟩
  · rw [same]
  · rw [same]
    constructor
    · intro has
      rcases has with ⟨other, inside, written, isState⟩
      change Function.update world.sockets number (some socket) other = some inside at written
      by_cases equal : other = number
      · rw [equal, Function.update_self, Option.some.injEq] at written
        exact ⟨number, old, found, kept.symm.trans (written ▸ isState)⟩
      · rw [Function.update_of_ne equal] at written
        exact ⟨other, inside, written, isState⟩
    · intro has
      rcases has with ⟨other, inside, isInside, isState⟩
      by_cases equal : other = number
      · rw [equal, found, Option.some.injEq] at isInside
        exact ⟨number, socket, Function.update_self _ _ _, kept.trans (isInside ▸ isState)⟩
      · exact ⟨other, inside, (Function.update_of_ne equal _ _).trans isInside, isState⟩

/-- A socket that is new is neither open nor closing. -/
theorem has_connect (state : ReadyState) (other : state ≠ .connecting) (ordered : world.Ordered)
    (found : world.clients number = some client) (constructed : Bool) :
    (world.connect constructed number).Has state ↔ world.Has state := by
  rw [connect_of_found constructed found]
  cases constructed with
  | false => exact Iff.rfl
  | true =>
      constructor
      · intro has
        rcases has with ⟨ws, socket, written, isState⟩
        change Function.update world.sockets world.nextSocket (some ⟨number, .connecting, []⟩) ws =
          some socket at written
        by_cases equal : ws = world.nextSocket
        · rw [equal, Function.update_self, Option.some.injEq] at written
          rw [← written] at isState
          exact absurd isState.symm other
        · rw [Function.update_of_ne equal] at written
          exact ⟨ws, socket, written, isState⟩
      · intro has
        rcases has with ⟨ws, socket, inside, isState⟩
        refine ⟨ws, socket, (Function.update_of_ne ?_ _ _).trans inside, isState⟩
        intro equal
        rw [equal, ordered.sockets _ le_rfl] at inside
        cases inside

/-- What was open is closing once the object of the store is disconnected. -/
theorem Sound.closing_disconnectExisting (sound : world.Sound)
    (has : world.Has .opened ∨ world.Has .closing) : world.disconnectExisting.Has .closing := by
  unfold SocketWorld.disconnectExisting
  cases held : world.ws with
  | none =>
      exact has.resolve_left (sound.silent held).not_has_opened
  | some existing =>
      rcases sound.held existing held with ⟨client, found⟩
      dsimp only
      rw [disconnect_of_found found]
      have closes {ws : Nat} {socket : BrowserSocket} (inside : world.sockets ws = some socket)
          (isState : socket.readyState = .opened ∧ client.ws = some ws ∨
            socket.readyState = .closing) :
          (((world.clearTimeout client.reconnectTimer).closeSocket client.ws).setClient existing
            { client with
              intentionalClose := true
              subscribedChannels := []
              reconnectTimer := none
              ws := none }).Has .closing := by
        have closing : socket.close.readyState = .closing := by
          unfold BrowserSocket.close
          split
          · rfl
          · next still => exact isState.resolve_left fun opened => still (Or.inr opened.1)
        by_cases own : client.ws = some ws
        · refine ⟨ws, socket.close, ?_, closing⟩
          change (if client.ws = some ws then (world.sockets ws).map .close
            else world.sockets ws) = some socket.close
          rw [if_pos own, inside]
          rfl
        · refine ⟨ws, socket, ?_, isState.resolve_left fun opened => own opened.2⟩
          change (if client.ws = some ws then (world.sockets ws).map .close
            else world.sockets ws) = some socket
          rw [if_neg own, inside]
      rcases has with opened | closing
      · rcases opened with ⟨ws, socket, inside, isOpened⟩
        rcases sound.live ws socket inside (Or.inr isOpened) with
          ⟨holds, owner, isOwner, named, _⟩
        rw [held, Option.some.injEq] at holds
        rw [← holds, found, Option.some.injEq] at isOwner
        exact closes inside (Or.inl ⟨isOpened, isOwner ▸ named⟩)
      · rcases closing with ⟨ws, socket, inside, isClosing⟩
        exact closes inside (Or.inr isClosing)

theorem wsConnected_disconnectExisting (world : SocketWorld) :
    world.disconnectExisting.wsConnected = world.wsConnected := by
  unfold disconnectExisting
  cases world.ws with
  | none => rfl
  | some existing =>
      dsimp only
      cases found : world.clients existing with
      | none =>
          unfold disconnect
          rw [found]
      | some client =>
          rw [disconnect_of_found found]
          rfl

theorem wsConnected_connect (world : SocketWorld) (number : Nat) (constructed : Bool) :
    (world.connect constructed number).wsConnected = world.wsConnected := by
  cases found : world.clients number with
  | none =>
      unfold connect
      rw [found]
  | some client =>
      rw [connect_of_found constructed found]
      cases constructed <;> rfl

theorem Connected.connectWs (connected : world.Connected) (sound : world.Sound)
    (pseudonymId baseUrl : String) (constructed : Bool) :
    (world.connectWs pseudonymId baseUrl constructed).Connected := by
  rcases sound.disconnectExisting with ⟨ordered, silent⟩
  have added := ordered.construct pseudonymId baseUrl
  have found : (world.disconnectExisting.construct pseudonymId baseUrl).clients
      world.disconnectExisting.nextClient = some (.new pseudonymId baseUrl) :=
    Function.update_self _ _ _
  have has (state : ReadyState) (other : state ≠ .connecting) :
      (world.connectWs pseudonymId baseUrl constructed).Has state ↔
        world.disconnectExisting.Has state := by
    have connects := has_connect state other added found constructed
    unfold SocketWorld.connectWs
    cases constructed <;> exact connects
  have flag : (world.connectWs pseudonymId baseUrl constructed).wsConnected =
      world.wsConnected := by
    have kept := (wsConnected_connect
      (world.disconnectExisting.construct pseudonymId baseUrl)
      world.disconnectExisting.nextClient constructed).trans
        (wsConnected_disconnectExisting world)
    unfold SocketWorld.connectWs
    cases constructed <;> exact kept
  constructor
  · intro opened
    exact absurd ((has .opened nofun).mp opened) silent.not_has_opened
  · intro isConnected
    rw [flag] at isConnected
    refine Or.inr ((has .closing nofun).mpr ?_)
    exact sound.closing_disconnectExisting (connected.telling isConnected)

theorem Connected.disconnectWs (connected : world.Connected) (sound : world.Sound) :
    world.disconnectWs.Connected := by
  unfold SocketWorld.disconnectWs
  cases held : world.ws with
  | none => exact connected
  | some number =>
      have silent := sound.silent_disconnect held
      refine ⟨fun opened => absurd opened ?_, nofun⟩
      exact Silent.not_has_opened ⟨silent.sockets, silent.timers⟩

theorem Connected.changeSubscriptions (connected : world.Connected) (frame : WsSendFrame)
    (change : List String → List String) :
    (world.changeSubscriptions frame change).Connected := by
  unfold SocketWorld.changeSubscriptions
  split
  · exact connected
  · split
    · exact connected
    · constructor
      · intro opened
        exact connected.told ((has_sendAll _ _).mp opened)
      · intro isConnected
        rcases connected.telling isConnected with opened | closing
        · exact Or.inl ((has_sendAll _ _).mpr opened)
        · exact Or.inr ((has_sendAll _ _).mpr closing)

theorem accepts_of_found {ws : Option Nat} {socket : BrowserSocket} (named : ws = some number)
    (found : world.sockets number = some socket) (taking : socket.readyState ≠ .connecting) :
    world.accepts ws = true := by
  unfold accepts
  rw [named, Option.bind_some, found]
  exact decide_eq_true taking

theorem connected_onOpen {socket : BrowserSocket} (sound : world.Sound)
    (found : world.sockets number = some socket) (connecting : socket.readyState = .connecting)
    (isOwner : world.clients socket.owner = some client) :
    ((world.setSocket number { socket with readyState := .opened }).onOpen socket.owner
      client).Connected := by
  rcases sound.live number socket found (Or.inl connecting) with ⟨_, owner, owned, named, _⟩
  rw [isOwner, Option.some.injEq] at owned
  rw [← owned] at named
  have written : ((world.setSocket number { socket with readyState := .opened }).setClient
      socket.owner { client with reconnectDelay := initialReconnectDelayMs }).sockets number =
        some { socket with readyState := .opened } := Function.update_self _ _ _
  have accepts := accepts_of_found named written nofun
  unfold onOpen
  dsimp only
  rw [accepts, Bool.or_true, if_pos rfl]
  refine ⟨fun _ => rfl, fun _ => Or.inl ?_⟩
  exact (has_sendAll _ _).mpr ⟨number, _, written, rfl⟩

theorem connected_onClose {socket : BrowserSocket} (sound : world.Sound)
    (found : world.sockets number = some socket) (opening : socket.readyState ≠ .closed)
    (timely : world.ws ≠ some socket.owner → ¬ world.HoldsOpen) :
    ((world.setSocket number { socket with readyState := .closed }).onClose socket.owner
      client).Connected := by
  have none : ¬ (world.setSocket number { socket with readyState := .closed }).Has .opened := by
    by_cases live : socket.Live
    · exact (sound.silent_closed found live).not_has_opened
    · intro has
      rcases has with ⟨ws, other, written, opened⟩
      change Function.update world.sockets number (some { socket with readyState := .closed }) ws =
        some other at written
      by_cases equal : ws = number
      · rw [equal, Function.update_self, Option.some.injEq] at written
        rw [← written] at opened
        cases opened
      · rw [Function.update_of_ne equal] at written
        have holds := (holdsOpen_iff sound).mpr ⟨ws, other, written, opened⟩
        have held : world.ws = some socket.owner := by
          by_contra replaced
          exact timely replaced holds
        rcases sound.live ws other written (Or.inr opened) with ⟨otherHeld, owner, owned, _, meant⟩
        rw [held, Option.some.injEq] at otherHeld
        rw [← otherHeld] at owned
        exact live (live_of_open_owner sound found opening owned meant)
  unfold onClose
  dsimp only
  split
  · exact ⟨fun opened => absurd opened none, nofun⟩
  · exact ⟨fun opened => absurd opened none, nofun⟩

theorem connected_step (sound : world.Sound) (connected : world.Connected) (event : Event)
    (timely : world.Timely event) : (world.step event).Connected := by
  cases event with
  | connectWs pseudonymId baseUrl constructed =>
      exact connected.connectWs sound pseudonymId baseUrl constructed
  | disconnectWs => exact connected.disconnectWs sound
  | subscribe channelId =>
      unfold step
      exact connected.changeSubscriptions _ _
  | unsubscribe channelId =>
      unfold step
      exact connected.changeSubscriptions _ _
  | message socket => exact connected
  | opened number =>
      unfold step
      dsimp only
      cases found : world.sockets number with
      | none => exact connected
      | some socket =>
          dsimp only
          split
          · next connecting =>
            cases isOwner : world.clients socket.owner with
            | none => exact connected
            | some client => exact connected_onOpen sound found connecting isOwner
          · exact connected
  | closed number =>
      unfold step
      dsimp only
      cases found : world.sockets number with
      | none => exact connected
      | some socket =>
          dsimp only
          split
          · exact connected
          · next opening =>
            cases isOwner : world.clients socket.owner with
            | none => exact connected
            | some client =>
                exact connected_onClose sound found opening (timely socket found opening)
  | timer number constructed =>
      unfold step
      dsimp only
      cases set : world.timers number with
      | none => exact connected
      | some owner =>
          rcases sound.timed number owner set with ⟨_, ⟨client, isOwner, _, _⟩, _⟩
          have ordered : (world.fire number).Ordered :=
            ⟨sound.clients, sound.sockets, sound.owned, sound.held⟩
          have found : (world.fire number).clients owner = some client := isOwner
          constructor
          · intro opened
            rw [wsConnected_connect]
            exact connected.told ((has_connect .opened nofun ordered found constructed).mp opened)
          · intro isConnected
            rw [wsConnected_connect] at isConnected
            rcases connected.telling isConnected with opened | closing
            · exact Or.inl ((has_connect .opened nofun ordered found constructed).mpr opened)
            · exact Or.inr ((has_connect .closing nofun ordered found constructed).mpr closing)

end Connected

section Disconnected

variable {world : SocketWorld} {number : Nat}

theorem Disconnected.setClient (disconnected : world.Disconnected number)
    (client : AnnexWebSocket) {other : Nat} {old : AnnexWebSocket}
    (found : world.clients other = some old)
    (stays : old.intentionalClose = true → client.intentionalClose = true) :
    (world.setClient other client).Disconnected number := by
  rcases disconnected with ⟨closed, isClosed, intentional⟩
  by_cases equal : number = other
  · rw [← equal, isClosed, Option.some.injEq] at found
    refine ⟨client, ?_, stays (found ▸ intentional)⟩
    rw [equal]
    exact Function.update_self _ _ _
  · exact ⟨closed, (Function.update_of_ne equal _ _).trans isClosed, intentional⟩

theorem Disconnected.disconnect (disconnected : world.Disconnected number) (other : Nat) :
    (world.disconnect other).Disconnected number := by
  cases found : world.clients other with
  | none =>
      unfold SocketWorld.disconnect
      rw [found]
      exact disconnected
  | some client =>
      rw [disconnect_of_found found]
      have closed : ((world.clearTimeout client.reconnectTimer).closeSocket client.ws).Disconnected
          number := disconnected
      exact closed.setClient _ found fun _ => rfl

/-- Only an object that was not disconnected connects. -/
theorem Disconnected.connect (disconnected : world.Disconnected number) {other : Nat}
    {client : AnnexWebSocket} (found : world.clients other = some client)
    (meant : client.intentionalClose = false) (constructed : Bool) :
    (world.connect constructed other).Disconnected number := by
  rw [connect_of_found constructed found]
  cases constructed with
  | true =>
      exact disconnected.setClient
        { client with intentionalClose := false, ws := some world.nextSocket } found
        fun closed => absurd (meant.symm.trans closed) nofun
  | false =>
      exact disconnected.setClient { client with intentionalClose := false } found
        fun closed => absurd (meant.symm.trans closed) nofun

theorem Disconnected.disconnectExisting (disconnected : world.Disconnected number) :
    world.disconnectExisting.Disconnected number := by
  unfold SocketWorld.disconnectExisting
  cases world.ws with
  | none => exact disconnected
  | some existing => exact disconnected.disconnect existing

theorem Disconnected.construct (disconnected : world.Disconnected number)
    (ordered : world.Ordered) (pseudonymId baseUrl : String) :
    (world.construct pseudonymId baseUrl).Disconnected number := by
  rcases disconnected with ⟨closed, isClosed, intentional⟩
  refine ⟨closed, (Function.update_of_ne ?_ _ _).trans isClosed, intentional⟩
  intro equal
  rw [equal, ordered.clients _ le_rfl] at isClosed
  cases isClosed

theorem Disconnected.connectWs (disconnected : world.Disconnected number) (sound : world.Sound)
    (pseudonymId baseUrl : String) (constructed : Bool) :
    (world.connectWs pseudonymId baseUrl constructed).Disconnected number := by
  have found : (world.disconnectExisting.construct pseudonymId baseUrl).clients
      world.disconnectExisting.nextClient = some (.new pseudonymId baseUrl) :=
    Function.update_self _ _ _
  have connected := (disconnected.disconnectExisting.construct sound.disconnectExisting.1
    pseudonymId baseUrl).connect found rfl constructed
  unfold SocketWorld.connectWs
  cases constructed <;> exact connected

theorem Disconnected.changeSubscriptions (disconnected : world.Disconnected number)
    (frame : WsSendFrame) (change : List String → List String) :
    (world.changeSubscriptions frame change).Disconnected number := by
  unfold SocketWorld.changeSubscriptions
  split
  · exact disconnected
  · split
    · exact disconnected
    · next client found =>
      exact disconnected.setClient
        { client with subscribedChannels := change client.subscribedChannels } found id

theorem Disconnected.onOpen (disconnected : world.Disconnected number) {ws owner : Nat}
    {socket : BrowserSocket} {client : AnnexWebSocket}
    (found : world.clients owner = some client) :
    ((world.setSocket ws socket).onOpen owner client).Disconnected number := by
  have delayed := disconnected.setClient
    { client with reconnectDelay := initialReconnectDelayMs } found id
  unfold SocketWorld.onOpen
  dsimp only
  split <;> exact delayed

theorem Disconnected.onClose (disconnected : world.Disconnected number) {ws owner : Nat}
    {socket : BrowserSocket} {client : AnnexWebSocket}
    (found : world.clients owner = some client) :
    ((world.setSocket ws socket).onClose owner client).Disconnected number := by
  unfold SocketWorld.onClose
  dsimp only
  split
  · exact disconnected
  · exact disconnected.setClient
      { client with
        reconnectTimer := some world.nextTimer
        reconnectDelay := min (client.reconnectDelay * 2) maxReconnectDelayMs } found id

/-- An object stays disconnected. -/
theorem disconnected_step (sound : world.Sound) (disconnected : world.Disconnected number)
    (event : Event) : (world.step event).Disconnected number := by
  cases event with
  | connectWs pseudonymId baseUrl constructed =>
      exact disconnected.connectWs sound pseudonymId baseUrl constructed
  | disconnectWs =>
      unfold step disconnectWs
      dsimp only
      cases world.ws with
      | none => exact disconnected
      | some held => exact disconnected.disconnect held
  | subscribe channelId => exact disconnected.changeSubscriptions _ _
  | unsubscribe channelId => exact disconnected.changeSubscriptions _ _
  | message socket => exact disconnected
  | opened ws =>
      unfold step
      dsimp only
      cases found : world.sockets ws with
      | none => exact disconnected
      | some socket =>
          dsimp only
          split
          · cases isOwner : world.clients socket.owner with
            | none => exact disconnected
            | some client => exact disconnected.onOpen isOwner
          · exact disconnected
  | closed ws =>
      unfold step
      dsimp only
      cases found : world.sockets ws with
      | none => exact disconnected
      | some socket =>
          dsimp only
          split
          · exact disconnected
          · cases isOwner : world.clients socket.owner with
            | none => exact disconnected
            | some client => exact disconnected.onClose isOwner
  | timer timer constructed =>
      unfold step
      dsimp only
      cases set : world.timers timer with
      | none => exact disconnected
      | some owner =>
          rcases sound.timed timer owner set with ⟨_, ⟨client, isOwner, _, meant⟩, _⟩
          have fired : (world.fire timer).Disconnected number := disconnected
          exact fired.connect isOwner meant constructed

end Disconnected

/-- The store knows whether it has an open socket, nothing else is live, and what was disconnected
stays without a socket. -/
structure Inert (events : List Event) : Prop where
  connected : ∀ world, Execution.Visits step initial events world → ¬ world.Has .closing →
    (world.wsConnected = true ↔ world.HoldsOpen)
  single : ∀ world, Execution.Visits step initial events world →
    ∀ one other first second, world.sockets one = some first → first.Live →
      world.sockets other = some second → second.Live → one = other
  stays : ∀ first second, first ++ second <+: events →
    ∀ number, (Execution.run step initial first).Disconnected number →
      ∀ ws socket, (Execution.run step initial (first ++ second)).sockets ws = some socket →
        socket.owner = number → ¬ socket.Live

theorem connected_initial : initial.Connected := by
  refine ⟨?_, nofun⟩
  intro opened
  rcases opened with ⟨_, _, found, _⟩
  cases found

theorem Sound.single {world : SocketWorld} (sound : world.Sound) {one other : Nat}
    {first second : BrowserSocket} (isFirst : world.sockets one = some first)
    (live : first.Live) (isSecond : world.sockets other = some second)
    (otherLive : second.Live) : one = other := by
  rcases sound.live one first isFirst live with ⟨held, owner, isOwner, named, _⟩
  rcases sound.live other second isSecond otherLive with ⟨otherHeld, owning, isOwning, isWs, _⟩
  rw [held, Option.some.injEq] at otherHeld
  rw [← otherHeld, isOwner, Option.some.injEq] at isOwning
  rw [← isOwning, named, Option.some.injEq] at isWs
  exact isWs

theorem Sound.not_live {world : SocketWorld} (sound : world.Sound) {number : Nat}
    (disconnected : world.Disconnected number) {ws : Nat} {socket : BrowserSocket}
    (found : world.sockets ws = some socket) (owned : socket.owner = number) :
    ¬ socket.Live := by
  intro live
  rcases disconnected with ⟨client, isClient, intentional⟩
  rcases sound.live ws socket found live with ⟨_, owner, isOwner, _, meant⟩
  rw [owned, isClient, Option.some.injEq] at isOwner
  rw [← isOwner, intentional] at meant
  cases meant

/-- Replaced sockets are inert in every run in which no close event of theirs comes while the
store has an open socket. -/
theorem replaced_sockets_inert (events : List Event)
    (timely : Execution.Guarded step Timely initial events) : Inert events := by
  have sound : ∀ labels, (Execution.run step initial labels).Sound :=
    Execution.run_invariant Sound (fun _ event sound => sound_step sound event) sound_initial
  constructor
  · intro world visited quiet
    have both := Execution.visits_invariant_of_guarded
      (fun world : SocketWorld => world.Sound ∧ world.Connected)
      (fun _ event holds timely =>
        ⟨sound_step holds.1 event, connected_step holds.1 holds.2 event timely⟩)
      ⟨sound_initial, connected_initial⟩ timely world visited
    rw [holdsOpen_iff both.1]
    constructor
    · intro isConnected
      rcases both.2.telling isConnected with opened | closing
      · exact opened
      · exact absurd closing quiet
    · exact both.2.told
  · intro world visited one other first second isFirst live isSecond otherLive
    rcases visited with ⟨labels, _, reached⟩
    rw [← reached] at isFirst isSecond
    exact (sound labels).single isFirst live isSecond otherLive
  · intro first second _ number disconnected ws socket found owned
    have still : (Execution.run step initial (first ++ second)).Sound ∧
        (Execution.run step initial (first ++ second)).Disconnected number := by
      rw [Execution.run_append]
      exact Execution.run_invariant
        (fun world : SocketWorld => world.Sound ∧ world.Disconnected number)
        (fun _ event holds => ⟨sound_step holds.1 event, disconnected_step holds.1 holds.2 event⟩)
        ⟨sound first, disconnected⟩ second
    exact still.1.not_live still.2 found owned

/-- Alice's socket is open when Bob's replaces it, and closes after Bob's has opened. -/
def lateClose : List Event :=
  [.connectWs "alice" "" true, .opened 0, .connectWs "bob" "" true, .opened 1, .closed 0]

/-- Alice's socket closes before Bob's opens. -/
def earlyClose : List Event :=
  [.connectWs "alice" "" true, .opened 0, .connectWs "bob" "" true, .closed 0, .opened 1]

theorem inert_earlyClose : Inert earlyClose := by
  refine replaced_sockets_inert earlyClose ⟨trivial, trivial, trivial, ?_, trivial, trivial⟩
  intro socket _ _ _ holds
  rcases holds with ⟨number, client, ws, other, held, isClient, named, found, opened⟩
  cases held
  cases isClient
  cases named
  cases found
  cases opened

/-- The late close event tells the store that it is not connected, but Bob's socket is open. -/
theorem not_inert_lateClose : ¬ ∀ events, Inert events := by
  intro inert
  have connected := (inert lateClose).connected _ ⟨lateClose, List.prefix_rfl, rfl⟩ ?_
  · have opened := connected.mpr
      ⟨1, { AnnexWebSocket.new "bob" "" with ws := some 1 }, 1, ⟨1, .opened, []⟩, rfl, rfl, rfl,
        rfl, rfl⟩
    cases opened
  · intro closing
    rcases closing with ⟨number, socket, found, state⟩
    rcases number with _ | _ | number
    · cases found
      cases state
    · cases found
      cases state
    · cases found

end SocketWorld

end Annex.Client
