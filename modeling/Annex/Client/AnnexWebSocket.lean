import Mathlib.Data.List.DropRight
import Mathlib.Logic.Function.Basic
import Annex.Foundation.Execution

namespace Annex.Client

/-! The WebSockets of the client. An `AnnexWebSocket` opens sockets of the browser one after the
other; these call its handlers until they are closed, also when the channels store holds another
`AnnexWebSocket` by then. -/

/-- What is sent about the subscriptions. -/
inductive WsSendFrame where
  | subscribe (channelId : String)
  | unsubscribe (channelId : String)
deriving DecidableEq, Repr

inductive ReadyState where
  | connecting
  | opened
  | closing
  | closed
deriving DecidableEq, Repr

/-- A socket of the browser and the number of the object whose handlers it calls. -/
structure BrowserSocket where
  owner : Nat
  readyState : ReadyState
  sent : List WsSendFrame
deriving DecidableEq, Repr

/-- The socket is open or about to be. -/
def BrowserSocket.Live (socket : BrowserSocket) : Prop :=
  socket.readyState = .connecting ∨ socket.readyState = .opened

instance (socket : BrowserSocket) : Decidable socket.Live :=
  inferInstanceAs (Decidable (_ ∨ _))

/-- The browser sends nothing any more once the socket is closing. -/
def BrowserSocket.send (frame : WsSendFrame) (socket : BrowserSocket) : BrowserSocket :=
  if socket.readyState = .opened then { socket with sent := socket.sent ++ [frame] } else socket

def BrowserSocket.close (socket : BrowserSocket) : BrowserSocket :=
  if socket.Live then { socket with readyState := .closing } else socket

def maxReconnectDelayMs : Nat := 30000

def initialReconnectDelayMs : Nat := 1000

/-- The fields of an `AnnexWebSocket`. Sockets and timers are known by their numbers. -/
structure AnnexWebSocket where
  pseudonymId : String
  baseUrl : String
  ws : Option Nat
  reconnectDelay : Nat
  reconnectTimer : Option Nat
  intentionalClose : Bool
  subscribedChannels : List String
deriving DecidableEq, Repr

/-- `replace(/\/+$/, '')`. -/
def withoutTrailingSlashes (url : String) : String :=
  String.ofList (url.toList.rdropWhile (· = '/'))

def AnnexWebSocket.new (pseudonymId baseUrl : String) : AnnexWebSocket where
  pseudonymId
  baseUrl := withoutTrailingSlashes baseUrl
  ws := none
  reconnectDelay := initialReconnectDelayMs
  reconnectTimer := none
  intentionalClose := false
  subscribedChannels := []

/-- The objects and sockets there ever were, the timers that are set, and what the channels store
holds of them. -/
structure SocketWorld where
  clients : Nat → Option AnnexWebSocket
  sockets : Nat → Option BrowserSocket
  /-- The object that a timer reconnects. -/
  timers : Nat → Option Nat
  nextClient : Nat
  nextSocket : Nat
  nextTimer : Nat
  ws : Option Nat
  wsConnected : Bool

namespace SocketWorld

def initial : SocketWorld := ⟨fun _ => none, fun _ => none, fun _ => none, 0, 0, 0, none, false⟩

def setClient (number : Nat) (client : AnnexWebSocket) (world : SocketWorld) : SocketWorld :=
  { world with clients := Function.update world.clients number (some client) }

def setSocket (number : Nat) (socket : BrowserSocket) (world : SocketWorld) : SocketWorld :=
  { world with sockets := Function.update world.sockets number (some socket) }

/-- `connect` of an object. The constructor of the browser's socket can throw. -/
def connect (constructed : Bool) (number : Nat) (world : SocketWorld) : SocketWorld :=
  match world.clients number with
  | none => world
  | some client =>
      let client := { client with intentionalClose := false }
      if constructed then
        { (world.setClient number { client with ws := some world.nextSocket }).setSocket
            world.nextSocket ⟨number, .connecting, []⟩ with
          nextSocket := world.nextSocket + 1 }
      else world.setClient number client

def closeSocket (ws : Option Nat) (world : SocketWorld) : SocketWorld :=
  { world with
    sockets := fun number =>
      if ws = some number then (world.sockets number).map .close else world.sockets number }

def clearTimeout (timer : Option Nat) (world : SocketWorld) : SocketWorld :=
  { world with
    timers := fun number => if timer = some number then none else world.timers number }

/-- `disconnect` of an object. -/
def disconnect (number : Nat) (world : SocketWorld) : SocketWorld :=
  match world.clients number with
  | none => world
  | some client =>
      ((world.clearTimeout client.reconnectTimer).closeSocket client.ws).setClient number
        { client with
          intentionalClose := true
          subscribedChannels := []
          reconnectTimer := none
          ws := none }

/-- The object of the channels store is disconnected, if it has one. -/
def disconnectExisting (world : SocketWorld) : SocketWorld :=
  match world.ws with
  | some existing => world.disconnect existing
  | none => world

/-- A new object, which gets the next number. -/
def construct (pseudonymId baseUrl : String) (world : SocketWorld) : SocketWorld :=
  { world.setClient world.nextClient (.new pseudonymId baseUrl) with
    nextClient := world.nextClient + 1 }

/-- `connectWs` of the channels store. Where `connect` throws, the store keeps its object. -/
def connectWs (pseudonymId baseUrl : String) (constructed : Bool) (world : SocketWorld) :
    SocketWorld :=
  let world := world.disconnectExisting
  let number := world.nextClient
  let world := (world.construct pseudonymId baseUrl).connect constructed number
  if constructed then { world with ws := some number } else world

/-- `disconnectWs` of the channels store. -/
def disconnectWs (world : SocketWorld) : SocketWorld :=
  match world.ws with
  | some number => { world.disconnect number with ws := none, wsConnected := false }
  | none => world

def scheduleReconnect (number : Nat) (client : AnnexWebSocket) (world : SocketWorld) :
    SocketWorld :=
  { world.setClient number
      { client with
        reconnectTimer := some world.nextTimer
        reconnectDelay := min (client.reconnectDelay * 2) maxReconnectDelayMs } with
    timers := Function.update world.timers world.nextTimer (some number)
    nextTimer := world.nextTimer + 1 }

/-- Every frame is sent on the socket, if there is one. -/
def sendAll (ws : Option Nat) (frames : List WsSendFrame) (world : SocketWorld) : SocketWorld :=
  { world with
    sockets := fun number =>
      if ws = some number then
        (world.sockets number).map fun socket =>
          frames.foldl (fun socket frame => socket.send frame) socket
      else world.sockets number }

/-- A frame can be sent: the object has a socket, and it does not throw. -/
def accepts (ws : Option Nat) (world : SocketWorld) : Bool :=
  (ws.bind world.sockets).any (·.readyState ≠ .connecting)

/-- `onopen`. The subscriptions are sent again; where that throws, nothing is notified. -/
def onOpen (number : Nat) (client : AnnexWebSocket) (world : SocketWorld) : SocketWorld :=
  let world := world.setClient number { client with reconnectDelay := initialReconnectDelayMs }
  if client.subscribedChannels = [] || world.accepts client.ws then
    { world.sendAll client.ws (client.subscribedChannels.map .subscribe) with wsConnected := true }
  else world

/-- `onclose`. -/
def onClose (number : Nat) (client : AnnexWebSocket) (world : SocketWorld) : SocketWorld :=
  let world := { world with wsConnected := false }
  if client.intentionalClose then world else world.scheduleReconnect number client

/-- The timer is no longer set. -/
def fire (timer : Nat) (world : SocketWorld) : SocketWorld :=
  { world with timers := Function.update world.timers timer none }

/-- What happens to the sockets. -/
inductive Event where
  | connectWs (pseudonymId baseUrl : String) (constructed : Bool)
  | disconnectWs
  | subscribe (channelId : String)
  | unsubscribe (channelId : String)
  | opened (socket : Nat)
  /-- The handlers of the channels store change its list of messages. -/
  | message (socket : Nat)
  | closed (socket : Nat)
  | timer (timer : Nat) (constructed : Bool)
deriving DecidableEq, Repr

/-- The store subscribes to a channel or unsubscribes. -/
def changeSubscriptions (frame : WsSendFrame) (change : List String → List String)
    (world : SocketWorld) : SocketWorld :=
  match world.ws with
  | none => world
  | some number =>
      match world.clients number with
      | none => world
      | some client =>
          (world.setClient number
            { client with subscribedChannels := change client.subscribedChannels }).sendAll
              client.ws [frame]

/-- A socket opens only while it is connecting, closes once, and a timer fires while it is
set. -/
def step (world : SocketWorld) : Event → SocketWorld
  | .connectWs pseudonymId baseUrl constructed => world.connectWs pseudonymId baseUrl constructed
  | .disconnectWs => world.disconnectWs
  | .subscribe channelId =>
      world.changeSubscriptions (.subscribe channelId) fun channels =>
        if channelId ∈ channels then channels else channels ++ [channelId]
  | .unsubscribe channelId =>
      world.changeSubscriptions (.unsubscribe channelId) fun channels =>
        channels.filter (· ≠ channelId)
  | .opened number =>
      match world.sockets number with
      | none => world
      | some socket =>
          if socket.readyState = .connecting then
            match world.clients socket.owner with
            | none => world
            | some client =>
                (world.setSocket number { socket with readyState := .opened }).onOpen socket.owner
                  client
          else world
  | .message _ => world
  | .closed number =>
      match world.sockets number with
      | none => world
      | some socket =>
          if socket.readyState = .closed then world
          else
            match world.clients socket.owner with
            | none => world
            | some client =>
                (world.setSocket number { socket with readyState := .closed }).onClose
                  socket.owner client
  | .timer number constructed =>
      match world.timers number with
      | none => world
      | some owner => (world.fire number).connect constructed owner

end SocketWorld

end Annex.Client
