import Annex.Client.AnnexWebSocket

namespace Annex.Client

/-! Which sockets are open or about to be: only one, of the object that the channels store
holds. -/

namespace SocketWorld

/-- No socket is open or about to be, and no timer is set. -/
structure Silent (world : SocketWorld) : Prop where
  sockets : ∀ number socket, world.sockets number = some socket → ¬ socket.Live
  timers : ∀ number, world.timers number = none

/-- Numbers are given in order, and what is closing is of an object that was disconnected. -/
structure Ordered (world : SocketWorld) : Prop where
  clients : ∀ number, world.nextClient ≤ number → world.clients number = none
  sockets : ∀ number, world.nextSocket ≤ number → world.sockets number = none
  owned : ∀ number socket, world.sockets number = some socket →
    ∃ client, world.clients socket.owner = some client ∧
      (socket.readyState = .closing → client.intentionalClose = true)
  held : ∀ number, world.ws = some number → ∃ client, world.clients number = some client

/-- What is live or timed is of the object that the store holds, which is not disconnected. -/
structure Sound (world : SocketWorld) : Prop extends Ordered world where
  live : ∀ number socket, world.sockets number = some socket → socket.Live →
    world.ws = some socket.owner ∧ ∃ client, world.clients socket.owner = some client ∧
      client.ws = some number ∧ client.intentionalClose = false
  timed : ∀ number owner, world.timers number = some owner →
    world.ws = some owner ∧ (∃ client, world.clients owner = some client ∧
      client.reconnectTimer = some number ∧ client.intentionalClose = false) ∧
        ∀ ws socket, world.sockets ws = some socket → ¬ socket.Live

theorem sound_initial : initial.Sound :=
  ⟨⟨fun _ _ => rfl, fun _ _ => rfl, nofun, nofun⟩, nofun, nofun⟩

section Close

variable (socket : BrowserSocket)

theorem not_live_close : ¬ socket.close.Live := by
  unfold BrowserSocket.close
  split
  · exact fun live => live.elim nofun nofun
  · assumption

theorem owner_close : socket.close.owner = socket.owner := by
  unfold BrowserSocket.close
  split <;> rfl

theorem closing_close (closing : socket.close.readyState = .closing) :
    socket.Live ∨ socket.readyState = .closing := by
  unfold BrowserSocket.close at closing
  split at closing
  · exact Or.inl ‹_›
  · exact Or.inr closing

theorem sends_foldl (frames : List WsSendFrame) :
    (frames.foldl (fun socket frame => socket.send frame) socket).owner = socket.owner ∧
      (frames.foldl (fun socket frame => socket.send frame) socket).readyState =
        socket.readyState := by
  induction frames generalizing socket with
  | nil => exact ⟨rfl, rfl⟩
  | cons frame frames induction =>
      have sent : (socket.send frame).owner = socket.owner ∧
          (socket.send frame).readyState = socket.readyState := by
        unfold BrowserSocket.send
        split <;> exact ⟨rfl, rfl⟩
      rw [List.foldl_cons]
      exact ⟨(induction _).1.trans sent.1, (induction _).2.trans sent.2⟩

end Close

section Changes

variable {world : SocketWorld} {number : Nat} {client : AnnexWebSocket}

theorem Ordered.sound (ordered : world.Ordered) (silent : world.Silent) : world.Sound where
  toOrdered := ordered
  live number socket found live := absurd live (silent.sockets number socket found)
  timed number owner set := by
    rw [silent.timers number] at set
    cases set

/-- Without an object in the store nothing is live. -/
theorem Sound.silent (sound : world.Sound) (empty : world.ws = none) : world.Silent := by
  constructor
  · intro number socket found live
    have held := (sound.live number socket found live).1
    rw [empty] at held
    cases held
  · intro number
    cases set : world.timers number with
    | none => rfl
    | some owner =>
        have held := (sound.timed number owner set).1
        rw [empty] at held
        cases held

theorem disconnect_of_found (found : world.clients number = some client) :
    world.disconnect number =
      ((world.clearTimeout client.reconnectTimer).closeSocket client.ws).setClient number
        { client with
          intentionalClose := true
          subscribedChannels := []
          reconnectTimer := none
          ws := none } := by
  unfold disconnect
  rw [found]

/-- To disconnect the object of the store leaves nothing live. -/
theorem Sound.silent_disconnect (sound : world.Sound) (held : world.ws = some number) :
    (world.disconnect number).Silent := by
  rcases sound.held number held with ⟨client, found⟩
  rw [disconnect_of_found found]
  constructor
  · intro ws socket inside
    change (if client.ws = some ws then (world.sockets ws).map .close else world.sockets ws) =
      some socket at inside
    split at inside
    · rcases Option.map_eq_some_iff.mp inside with ⟨old, _, closed⟩
      rw [← closed]
      exact not_live_close old
    · next other =>
      intro live
      rcases sound.live ws socket inside live with ⟨holds, owner, isOwner, named, _⟩
      rw [held, Option.some.injEq] at holds
      rw [← holds, found, Option.some.injEq] at isOwner
      exact other (isOwner ▸ named)
  · intro timer
    change (if client.reconnectTimer = some timer then none else world.timers timer) = none
    split
    · rfl
    · next other =>
      cases set : world.timers timer with
      | none => rfl
      | some owner =>
          rcases sound.timed timer owner set with ⟨holds, ⟨owning, isOwner, named, _⟩, _⟩
          rw [held, Option.some.injEq] at holds
          rw [← holds, found, Option.some.injEq] at isOwner
          exact absurd (isOwner ▸ named) other

theorem Sound.ordered_disconnect (sound : world.Sound) (held : world.ws = some number) :
    (world.disconnect number).Ordered := by
  rcases sound.held number held with ⟨client, found⟩
  rw [disconnect_of_found found]
  refine ⟨?_, ?_, ?_, ?_⟩
  · intro other above
    refine (Function.update_of_ne ?_ _ _).trans (sound.clients other above)
    intro same
    rw [← same, sound.clients other above] at found
    cases found
  · intro ws above
    change (if client.ws = some ws then (world.sockets ws).map .close else world.sockets ws) = none
    rw [sound.sockets ws above]
    split <;> rfl
  · intro ws socket inside
    change (if client.ws = some ws then (world.sockets ws).map .close else world.sockets ws) =
      some socket at inside
    have old : ∃ old, world.sockets ws = some old ∧ old.owner = socket.owner ∧
        (socket.readyState = .closing → old.Live ∨ old.readyState = .closing) := by
      split at inside
      · rcases Option.map_eq_some_iff.mp inside with ⟨old, isOld, closed⟩
        exact ⟨old, isOld, closed ▸ (owner_close old).symm,
          fun closing => closing_close old (closed ▸ closing)⟩
      · exact ⟨socket, inside, rfl, Or.inr⟩
    rcases old with ⟨old, isOld, owner, closing⟩
    rcases sound.owned ws old isOld with ⟨owning, isOwner, intentional⟩
    by_cases same : socket.owner = number
    · rw [same]
      exact ⟨_, Function.update_self _ _ _, fun _ => rfl⟩
    · rw [owner] at isOwner
      refine ⟨owning, (Function.update_of_ne same _ _).trans isOwner, ?_⟩
      intro isClosing
      rcases closing isClosing with live | already
      · have holds := (sound.live ws old isOld live).1
        rw [held, Option.some.injEq, owner] at holds
        exact absurd holds.symm same
      · exact intentional already
  · intro other holds
    have isHeld : world.ws = some other := holds
    rw [held, Option.some.injEq] at isHeld
    rw [← isHeld]
    exact ⟨_, Function.update_self _ _ _⟩

theorem Ordered.setClient (ordered : world.Ordered) (client : AnnexWebSocket)
    {old : AnnexWebSocket}
    (found : world.clients number = some old)
    (same : client.intentionalClose = old.intentionalClose) :
    (world.setClient number client).Ordered := by
  refine ⟨?_, ordered.sockets, ?_, ?_⟩
  · intro other above
    refine (Function.update_of_ne ?_ _ _).trans (ordered.clients other above)
    intro equal
    rw [← equal, ordered.clients other above] at found
    cases found
  · intro ws socket inside
    rcases ordered.owned ws socket inside with ⟨owner, isOwner, intentional⟩
    by_cases equal : socket.owner = number
    · rw [equal, found, Option.some.injEq] at isOwner
      rw [equal]
      exact ⟨client, Function.update_self _ _ _,
        fun closing => same.trans (isOwner ▸ intentional closing)⟩
    · exact ⟨owner, (Function.update_of_ne equal _ _).trans isOwner, intentional⟩
  · intro other held
    by_cases equal : other = number
    · rw [equal]
      exact ⟨client, Function.update_self _ _ _⟩
    · rcases ordered.held other held with ⟨owner, isOwner⟩
      exact ⟨owner, (Function.update_of_ne equal _ _).trans isOwner⟩

theorem Sound.setClient (sound : world.Sound) (client : AnnexWebSocket) {old : AnnexWebSocket}
    (found : world.clients number = some old) (ws : client.ws = old.ws)
    (timer : client.reconnectTimer = old.reconnectTimer)
    (same : client.intentionalClose = old.intentionalClose) :
    (world.setClient number client).Sound where
  toOrdered := sound.toOrdered.setClient client found same
  live other socket inside live := by
    rcases sound.live other socket inside live with ⟨held, owner, isOwner, named, meant⟩
    refine ⟨held, ?_⟩
    by_cases equal : socket.owner = number
    · rw [equal, found, Option.some.injEq] at isOwner
      rw [equal]
      exact ⟨client, Function.update_self _ _ _, ws.trans (isOwner ▸ named),
        same.trans (isOwner ▸ meant)⟩
    · exact ⟨owner, (Function.update_of_ne equal _ _).trans isOwner, named, meant⟩
  timed other owner set := by
    rcases sound.timed other owner set with ⟨held, ⟨owning, isOwner, named, meant⟩, silent⟩
    refine ⟨held, ?_, silent⟩
    by_cases equal : owner = number
    · rw [equal, found, Option.some.injEq] at isOwner
      rw [equal]
      exact ⟨client, Function.update_self _ _ _, timer.trans (isOwner ▸ named),
        same.trans (isOwner ▸ meant)⟩
    · exact ⟨owning, (Function.update_of_ne equal _ _).trans isOwner, named, meant⟩

/-- A socket that is not more than it was. -/
theorem Sound.setSocket (sound : world.Sound) (socket : BrowserSocket) {old : BrowserSocket}
    (found : world.sockets number = some old) (owner : socket.owner = old.owner)
    (live : socket.Live → old.Live)
    (closing : socket.readyState = .closing → old.readyState = .closing) :
    (world.setSocket number socket).Sound := by
  have inside {ws : Nat} {other : BrowserSocket}
      (written : (world.setSocket number socket).sockets ws = some other) :
      ∃ before, world.sockets ws = some before ∧ other.owner = before.owner ∧
        (other.Live → before.Live) ∧
          (other.readyState = .closing → before.readyState = .closing) := by
    change Function.update world.sockets number (some socket) ws = some other at written
    by_cases equal : ws = number
    · rw [equal, Function.update_self, Option.some.injEq] at written
      rw [equal]
      exact ⟨old, found, written ▸ owner, written ▸ live, written ▸ closing⟩
    · rw [Function.update_of_ne equal] at written
      exact ⟨other, written, rfl, id, id⟩
  refine ⟨⟨sound.clients, ?_, ?_, sound.held⟩, ?_, ?_⟩
  · intro ws above
    refine (Function.update_of_ne ?_ _ _).trans (sound.sockets ws above)
    intro equal
    rw [← equal, sound.sockets ws above] at found
    cases found
  · intro ws other written
    rcases inside written with ⟨before, isBefore, sameOwner, _, wasClosing⟩
    rcases sound.owned ws before isBefore with ⟨owning, isOwner, intentional⟩
    exact ⟨owning, sameOwner ▸ isOwner, fun isClosing => intentional (wasClosing isClosing)⟩
  · intro ws other written isLive
    rcases inside written with ⟨before, isBefore, sameOwner, wasLive, _⟩
    rw [sameOwner]
    exact sound.live ws before isBefore (wasLive isLive)
  · intro timer timed set
    rcases sound.timed timer timed set with ⟨held, owning, silent⟩
    refine ⟨held, owning, ?_⟩
    intro ws other written isLive
    rcases inside written with ⟨before, isBefore, _, wasLive, _⟩
    exact silent ws before isBefore (wasLive isLive)

theorem sendAll_some (ws : Nat) (frames : List WsSendFrame) {socket : BrowserSocket}
    (found : world.sockets ws = some socket) :
    world.sendAll (some ws) frames =
      world.setSocket ws (frames.foldl (fun socket frame => socket.send frame) socket) := by
  unfold sendAll setSocket
  congr 1
  funext other
  by_cases equal : other = ws
  · rw [equal, Function.update_self, if_pos rfl, found]
    rfl
  · rw [Function.update_of_ne equal, if_neg fun same => equal (Option.some.inj same).symm]

theorem sendAll_nothing {ws : Option Nat} (frames : List WsSendFrame)
    (missing : ∀ number, ws = some number → world.sockets number = none) :
    world.sendAll ws frames = world := by
  unfold sendAll
  congr 1
  funext other
  split
  · next named =>
    rw [missing other named]
    rfl
  · rfl

/-- What is sent changes no socket's state. -/
theorem sendAll_cases (ws : Option Nat) (frames : List WsSendFrame) :
    world.sendAll ws frames = world ∨ ∃ number old socket, world.sockets number = some old ∧
      socket.owner = old.owner ∧ socket.readyState = old.readyState ∧
        world.sendAll ws frames = world.setSocket number socket := by
  cases ws with
  | none => exact Or.inl (sendAll_nothing frames fun _ none => nomatch none)
  | some number =>
      cases found : world.sockets number with
      | none =>
          refine Or.inl (sendAll_nothing frames ?_)
          intro other same
          cases same
          exact found
      | some old =>
          have sent := sends_foldl old frames
          exact Or.inr ⟨number, old, _, found, sent.1, sent.2, sendAll_some number frames found⟩

theorem Sound.sendAll (sound : world.Sound) (ws : Option Nat) (frames : List WsSendFrame) :
    (world.sendAll ws frames).Sound := by
  rcases @sendAll_cases world ws frames with same | ⟨number, old, socket, found, owner, state, same⟩
  · rw [same]
    exact sound
  · rw [same]
    apply sound.setSocket socket found owner
    · unfold BrowserSocket.Live
      rw [state]
      exact id
    · rw [state]
      exact id

theorem Sound.changeSubscriptions (sound : world.Sound) (frame : WsSendFrame)
    (change : List String → List String) : (world.changeSubscriptions frame change).Sound := by
  unfold SocketWorld.changeSubscriptions
  split
  · exact sound
  · split
    · exact sound
    · next client found =>
      exact (sound.setClient { client with subscribedChannels := change client.subscribedChannels }
        found rfl rfl rfl).sendAll _ _

/-- The flag of the store has no part in this. -/
theorem Sound.setConnected (sound : world.Sound) (wsConnected : Bool) :
    Sound { world with wsConnected } :=
  ⟨⟨sound.clients, sound.sockets, sound.owned, sound.held⟩, sound.live, sound.timed⟩

theorem connect_of_found (constructed : Bool) (found : world.clients number = some client) :
    world.connect constructed number =
      if constructed then
        { (world.setClient number
            { client with intentionalClose := false, ws := some world.nextSocket }).setSocket
              world.nextSocket ⟨number, .connecting, []⟩ with
          nextSocket := world.nextSocket + 1 }
      else world.setClient number { client with intentionalClose := false } := by
  unfold connect
  rw [found]

/-- The store is given the object that connects while nothing else is live. -/
theorem sound_connect (ordered : world.Ordered) (silent : world.Silent)
    (found : world.clients number = some client) (meant : client.intentionalClose = false)
    (ws : Option Nat) (held : ws = some number) :
    Sound { world.connect true number with ws } := by
  have before := ordered.setClient
    { client with intentionalClose := false, ws := some world.nextSocket } found meant.symm
  have inside {ws : Nat} {socket : BrowserSocket}
      (written : Function.update world.sockets world.nextSocket (some ⟨number, .connecting, []⟩) ws =
        some socket) :
      (ws = world.nextSocket ∧ socket = ⟨number, .connecting, []⟩) ∨
        world.sockets ws = some socket := by
    by_cases equal : ws = world.nextSocket
    · rw [equal, Function.update_self, Option.some.injEq] at written
      exact Or.inl ⟨equal, written.symm⟩
    · rw [Function.update_of_ne equal] at written
      exact Or.inr written
  rw [connect_of_found true found]
  refine ⟨⟨before.clients, ?_, ?_, ?_⟩, ?_, ?_⟩
  · intro ws above
    have later : world.nextSocket + 1 ≤ ws := above
    refine (Function.update_of_ne ?_ _ _).trans (ordered.sockets ws (by omega))
    omega
  · intro ws socket written
    rcases inside written with ⟨_, isNew⟩ | old
    · rw [isNew]
      exact ⟨_, Function.update_self _ _ _, nofun⟩
    · exact before.owned ws socket old
  · intro other isOther
    have same : other = number := Option.some.inj (isOther.symm.trans held)
    rw [same]
    exact ⟨_, Function.update_self _ _ _⟩
  · intro ws socket written live
    rcases inside written with ⟨isNext, isNew⟩ | old
    · rw [isNew]
      exact ⟨held, _, Function.update_self _ _ _, congrArg some isNext.symm, rfl⟩
    · exact absurd live (silent.sockets ws socket old)
  · intro timer owner set
    have timed : world.timers timer = some owner := set
    rw [silent.timers timer] at timed
    cases timed

theorem Ordered.construct (ordered : world.Ordered) (pseudonymId baseUrl : String) :
    (world.construct pseudonymId baseUrl).Ordered := by
  refine ⟨?_, ordered.sockets, ?_, ?_⟩
  · intro other above
    have later : world.nextClient + 1 ≤ other := above
    refine (Function.update_of_ne ?_ _ _).trans (ordered.clients other (by omega))
    omega
  · intro ws socket inside
    rcases ordered.owned ws socket inside with ⟨owner, isOwner, intentional⟩
    refine ⟨owner, (Function.update_of_ne ?_ _ _).trans isOwner, intentional⟩
    intro equal
    rw [equal, ordered.clients _ le_rfl] at isOwner
    cases isOwner
  · intro other held
    rcases ordered.held other held with ⟨owner, isOwner⟩
    refine ⟨owner, (Function.update_of_ne ?_ _ _).trans isOwner⟩
    intro equal
    rw [equal, ordered.clients _ le_rfl] at isOwner
    cases isOwner

/-- Nothing is live once the object of the store is disconnected. -/
theorem Sound.disconnectExisting (sound : world.Sound) :
    world.disconnectExisting.Ordered ∧ world.disconnectExisting.Silent := by
  unfold SocketWorld.disconnectExisting
  cases held : world.ws with
  | none => exact ⟨sound.toOrdered, sound.silent held⟩
  | some existing => exact ⟨sound.ordered_disconnect held, sound.silent_disconnect held⟩

theorem sound_connectWs (sound : world.Sound) (pseudonymId baseUrl : String)
    (constructed : Bool) : (world.connectWs pseudonymId baseUrl constructed).Sound := by
  rcases sound.disconnectExisting with ⟨ordered, silent⟩
  have added := ordered.construct pseudonymId baseUrl
  have found : (world.disconnectExisting.construct pseudonymId baseUrl).clients
      world.disconnectExisting.nextClient = some (.new pseudonymId baseUrl) :=
    Function.update_self _ _ _
  have stillSilent : (world.disconnectExisting.construct pseudonymId baseUrl).Silent :=
    ⟨silent.sockets, silent.timers⟩
  unfold connectWs
  cases constructed with
  | true => exact sound_connect added stillSilent found rfl _ rfl
  | false =>
      dsimp only
      rw [connect_of_found false found]
      exact (added.setClient _ found rfl).sound ⟨silent.sockets, silent.timers⟩

theorem sound_disconnectWs (sound : world.Sound) : world.disconnectWs.Sound := by
  unfold disconnectWs
  cases held : world.ws with
  | none => exact sound
  | some number =>
      have ordered := sound.ordered_disconnect held
      have silent := sound.silent_disconnect held
      refine Ordered.sound ⟨ordered.clients, ordered.sockets, ordered.owned, ?_⟩
        ⟨silent.sockets, silent.timers⟩
      intro other none
      cases none

theorem Sound.scheduleReconnect (sound : world.Sound)
    (found : world.clients number = some client) (held : world.ws = some number)
    (meant : client.intentionalClose = false) (silent : world.Silent) :
    (world.scheduleReconnect number client).Sound := by
  have before := sound.toOrdered.setClient
    { client with
      reconnectTimer := some world.nextTimer
      reconnectDelay := min (client.reconnectDelay * 2) maxReconnectDelayMs } found rfl
  refine ⟨⟨before.clients, sound.sockets, before.owned, before.held⟩, ?_, ?_⟩
  · intro ws socket inside live
    exact absurd live (silent.sockets ws socket inside)
  · intro timer owner set
    have timed : Function.update world.timers world.nextTimer (some number) timer = some owner :=
      set
    by_cases new : timer = world.nextTimer
    · rw [new, Function.update_self, Option.some.injEq] at timed
      rw [← timed, new]
      exact ⟨held, ⟨_, Function.update_self _ _ _, rfl, meant⟩, silent.sockets⟩
    · rw [Function.update_of_ne new, silent.timers timer] at timed
      cases timed

theorem not_live_closed (socket : BrowserSocket) :
    ¬ ({ socket with readyState := .closed } : BrowserSocket).Live :=
  fun live => live.elim nofun nofun

/-- Nothing is live after the live socket has closed. -/
theorem Sound.silent_closed (sound : world.Sound) {socket : BrowserSocket}
    (found : world.sockets number = some socket) (live : socket.Live) :
    (world.setSocket number { socket with readyState := .closed }).Silent := by
  rcases sound.live number socket found live with ⟨held, owner, isOwner, named, _⟩
  constructor
  · intro ws other inside
    change Function.update world.sockets number (some { socket with readyState := .closed }) ws =
      some other at inside
    by_cases same : ws = number
    · rw [same, Function.update_self, Option.some.injEq] at inside
      rw [← inside]
      exact not_live_closed socket
    · rw [Function.update_of_ne same] at inside
      intro otherLive
      rcases sound.live ws other inside otherLive with ⟨otherHeld, owning, isOwning, isWs, _⟩
      rw [held, Option.some.injEq] at otherHeld
      rw [← otherHeld, isOwner, Option.some.injEq] at isOwning
      rw [← isOwning, named, Option.some.injEq] at isWs
      exact same isWs.symm
  · intro timer
    change world.timers timer = none
    cases set : world.timers timer with
    | none => rfl
    | some timed => exact absurd live ((sound.timed timer timed set).2.2 number socket found)

theorem live_of_open_owner (sound : world.Sound) {socket : BrowserSocket}
    (found : world.sockets number = some socket) (opening : socket.readyState ≠ .closed)
    (isOwner : world.clients socket.owner = some client)
    (meant : client.intentionalClose = false) : socket.Live := by
  rcases sound.owned number socket found with ⟨owner, owned, intentional⟩
  rw [isOwner, Option.some.injEq] at owned
  unfold BrowserSocket.Live
  cases state : socket.readyState with
  | connecting => exact Or.inl rfl
  | opened => exact Or.inr rfl
  | closing =>
      have closed := intentional state
      rw [← owned, meant] at closed
      cases closed
  | closed => exact absurd state opening

theorem Sound.onOpen (sound : world.Sound) (found : world.clients number = some client) :
    (world.onOpen number client).Sound := by
  have delayed := sound.setClient
    { client with reconnectDelay := initialReconnectDelayMs } found rfl rfl rfl
  unfold SocketWorld.onOpen
  dsimp only
  split
  · exact (delayed.sendAll _ _).setConnected true
  · exact delayed

theorem sound_step (sound : world.Sound) (event : Event) : (world.step event).Sound := by
  cases event with
  | connectWs pseudonymId baseUrl constructed =>
      exact sound_connectWs sound pseudonymId baseUrl constructed
  | disconnectWs => exact sound_disconnectWs sound
  | subscribe channelId =>
      unfold step
      exact sound.changeSubscriptions _ _
  | unsubscribe channelId =>
      unfold step
      exact sound.changeSubscriptions _ _
  | message socket => exact sound
  | opened number =>
      unfold step
      dsimp only
      cases found : world.sockets number with
      | none => exact sound
      | some socket =>
          dsimp only
          split
          · next connecting =>
            cases isOwner : world.clients socket.owner with
            | none => exact sound
            | some client =>
                have opened := sound.setSocket
                  { socket with readyState := .opened } found rfl
                  (fun _ => Or.inl connecting) nofun
                exact opened.onOpen isOwner
          · exact sound
  | closed number =>
      unfold step
      dsimp only
      cases found : world.sockets number with
      | none => exact sound
      | some socket =>
          dsimp only
          split
          · exact sound
          · next opening =>
            cases isOwner : world.clients socket.owner with
            | none => exact sound
            | some client =>
                have closed := sound.setSocket
                  { socket with readyState := .closed } found rfl
                  (fun live => absurd live (not_live_closed socket)) nofun
                dsimp only
                unfold onClose
                dsimp only
                split
                · exact closed.setConnected false
                · next meant =>
                  have live := live_of_open_owner sound found opening isOwner
                    (Bool.eq_false_iff.mpr meant)
                  have held := (sound.live number socket found live).1
                  have silent := sound.silent_closed found live
                  exact (closed.setConnected false).scheduleReconnect isOwner held
                    (Bool.eq_false_iff.mpr meant) ⟨silent.sockets, silent.timers⟩
  | timer number constructed =>
      unfold step
      dsimp only
      cases set : world.timers number with
      | none => exact sound
      | some owner =>
          rcases sound.timed number owner set with ⟨held, ⟨client, isOwner, named, meant⟩, none⟩
          have ordered : (world.fire number).Ordered :=
            ⟨sound.clients, sound.sockets, sound.owned, sound.held⟩
          have silent : (world.fire number).Silent := by
            refine ⟨none, ?_⟩
            intro other
            by_cases same : other = number
            · rw [same]
              exact Function.update_self _ _ _
            · refine (Function.update_of_ne same _ _).trans ?_
              cases otherSet : world.timers other with
              | none => rfl
              | some timed =>
                  rcases sound.timed other timed otherSet with
                    ⟨otherHeld, ⟨owning, isOwning, otherNamed, _⟩, _⟩
                  rw [held, Option.some.injEq] at otherHeld
                  rw [← otherHeld, isOwner, Option.some.injEq] at isOwning
                  rw [← isOwning, named, Option.some.injEq] at otherNamed
                  exact absurd otherNamed.symm same
          have found : (world.fire number).clients owner = some client := isOwner
          cases constructed with
          | true =>
              have connected := sound_connect ordered silent found meant world.ws held
              rw [connect_of_found true found] at connected
              dsimp only
              rw [connect_of_found true found]
              exact connected
          | false =>
              dsimp only
              rw [connect_of_found false found]
              exact (ordered.setClient _ found meant.symm).sound ⟨silent.sockets, silent.timers⟩

end Changes

end SocketWorld

end Annex.Client
