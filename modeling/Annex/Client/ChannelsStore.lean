import Annex.Channels.Integrity
import Annex.Client.AnnexWebSocket
import Annex.Foundation.Interleaving
import Annex.Server.HistoryPaging

namespace Annex.Client

open Db Server Sql

/-! The channels store: which channel is selected and its messages. Its calls await the server
while frames arrive at the WebSocket. -/

/-- A message as the client holds it. -/
structure Message where
  messageId : String
  channelId : String
  senderPseudonym : String
  content : String
  replyToMessageId : Option String
  createdAt : String
  editedAt : Option String
  deletedAt : Option String
deriving DecidableEq, Repr

def Message.ofRow (row : Channels.Message) : Message where
  messageId := row.messageId
  channelId := row.channelId
  senderPseudonym := row.senderPseudonym
  content := row.content
  replyToMessageId := row.replyToMessageId
  createdAt := row.createdAt
  editedAt := row.editedAt
  deletedAt := row.deletedAt

inductive FrameType where
  | message
  | messageEdited
  | messageDeleted
  | rtxBundle
  | transcription
  | error
deriving DecidableEq, Repr

/-- A frame as it arrives, as far as the store reads it. -/
structure WsReceiveFrame where
  type : FrameType
  channelId : Option String
  messageId : Option String
  senderPseudonym : Option String
  content : Option String
  replyToMessageId : Option String
  createdAt : Option String
  editedAt : Option String
  deletedAt : Option String
deriving DecidableEq, Repr

/-- The id that the message of a frame gets. -/
def WsReceiveFrame.id (frame : WsReceiveFrame) : String := frame.messageId.getD ""

/-- The message of a frame that arrives at the time `now`. -/
def WsReceiveFrame.toMessage (now channelId : String) (frame : WsReceiveFrame) : Message where
  messageId := frame.id
  channelId
  senderPseudonym := frame.senderPseudonym.getD ""
  content := frame.content.getD ""
  replyToMessageId := frame.replyToMessageId
  createdAt := frame.createdAt.getD now
  editedAt := frame.editedAt
  deletedAt := frame.deletedAt

def WsReceiveFrame.edit (frame : WsReceiveFrame) (message : Message) : Message :=
  if some message.messageId = frame.messageId then
    { message with
      content := frame.content.getD message.content
      editedAt := frame.editedAt }
  else message

def WsReceiveFrame.delete (frame : WsReceiveFrame) (message : Message) : Message :=
  if some message.messageId = frame.messageId then
    { message with content := "", deletedAt := frame.deletedAt }
  else message

/-- The WebSocket as the calls on channels use it: open or not, and with the channels to
subscribe to when it opens again. -/
structure SubscribedSocket where
  isOpen : Bool
  subscribedChannels : List String
  sent : List WsSendFrame
deriving DecidableEq, Repr

namespace SubscribedSocket

/-- Nothing is sent while the socket is not open. -/
def send (socket : SubscribedSocket) (frame : WsSendFrame) : SubscribedSocket :=
  if socket.isOpen then { socket with sent := socket.sent ++ [frame] } else socket

def subscribe (socket : SubscribedSocket) (channelId : String) : SubscribedSocket :=
  { socket with
    subscribedChannels :=
      if channelId ∈ socket.subscribedChannels then socket.subscribedChannels
      else socket.subscribedChannels ++ [channelId] }.send (.subscribe channelId)

def unsubscribe (socket : SubscribedSocket) (channelId : String) : SubscribedSocket :=
  { socket with
    subscribedChannels := socket.subscribedChannels.filter (· ≠ channelId) }.send
      (.unsubscribe channelId)

end SubscribedSocket

/-- The channels store, as far as the list of messages depends on it. -/
structure ChannelsState where
  activeChannelId : Option String
  messages : List Message
  loadingOlder : Bool
  hasMoreMessages : Bool
  ws : Option SubscribedSocket
deriving DecidableEq, Repr

/-- Number of messages per pagination page. -/
def pageSize : Nat := 50

/-- A text that counts as true: one that is there and not empty. -/
def given (text : Option String) : Option String := text.filter (· ≠ "")

namespace ChannelsState

def initial (ws : Option SubscribedSocket) : ChannelsState := ⟨none, [], false, true, ws⟩

def messageIds (store : ChannelsState) : List String := store.messages.map (·.messageId)

/-- The handler that `connectWs` gives to the socket. -/
def onMessage (now : String) (frame : WsReceiveFrame) (store : ChannelsState) : ChannelsState :=
  match frame.channelId with
  | none => store
  | some channelId =>
      if store.activeChannelId ≠ some channelId then store
      else
        match frame.type with
        | .message =>
            { store with messages := store.messages ++ [frame.toMessage now channelId] }
        | .messageEdited => { store with messages := store.messages.map frame.edit }
        | .messageDeleted => { store with messages := store.messages.map frame.delete }
        | .rtxBundle | .transcription | .error => store

/-- A frame for the active channel. -/
theorem onMessage_of_active {now channelId : String} {frame : WsReceiveFrame}
    {store : ChannelsState} (named : frame.channelId = some channelId)
    (active : store.activeChannelId = some channelId) :
    store.onMessage now frame =
      match frame.type with
      | .message => { store with messages := store.messages ++ [frame.toMessage now channelId] }
      | .messageEdited => { store with messages := store.messages.map frame.edit }
      | .messageDeleted => { store with messages := store.messages.map frame.delete }
      | .rtxBundle | .transcription | .error => store := by
  rw [onMessage, named]
  exact if_neg (not_not_intro active)

/-- What `selectChannel` does before its first await. -/
def select (channelId : String) (store : ChannelsState) : ChannelsState :=
  let ws :=
    match given store.activeChannelId with
    | some prevChannelId =>
        if prevChannelId ≠ channelId then store.ws.map (·.unsubscribe prevChannelId)
        else store.ws
    | none => store.ws
  { activeChannelId := some channelId
    messages := []
    loadingOlder := false
    hasMoreMessages := true
    ws }

/-- An answer lists the newest message first, the store last. -/
def showPage (page : List Message) (store : ChannelsState) : ChannelsState :=
  { store with messages := page.reverse, hasMoreMessages := decide (page.length ≥ pageSize) }

def showOlder (older : List Message) (store : ChannelsState) : ChannelsState :=
  { store with
    messages := older.reverse ++ store.messages
    hasMoreMessages := decide (older.length ≥ pageSize) }

/-- What `leaveChannel` does after its await. -/
def left (channelId : String) (store : ChannelsState) : ChannelsState :=
  if store.activeChannelId = some channelId then
    { store with activeChannelId := none, messages := [] }
  else store

/-- The channel and the cursor of a page of older messages, unless none is to be loaded. -/
def olderRequest (store : ChannelsState) : Option (String × String) :=
  match given store.activeChannelId, store.messages with
  | some activeChannelId, oldest :: _ =>
      if store.loadingOlder || !store.hasMoreMessages then none
      else some (activeChannelId, oldest.messageId)
  | _, _ => none

end ChannelsState

/-- The store with the frames of messages that arrived since a channel was last selected. -/
structure ChannelsClient where
  store : ChannelsState
  arrived : List WsReceiveFrame
deriving DecidableEq, Repr

def ChannelsClient.initial (ws : Option SubscribedSocket) : ChannelsClient := ⟨.initial ws, []⟩

/-- A frame arrives at the socket. -/
def ChannelsClient.receive (now : String) (frame : WsReceiveFrame) (client : ChannelsClient) :
    ChannelsClient where
  store := client.store.onMessage now frame
  arrived := if frame.type = .message then frame :: client.arrived else client.arrived

/-- The server, and which channel it reads in the path of a request that names one. -/
structure ChannelsSetting (Fq Key : Type) where
  server : ChannelServer Fq Key
  route : String → Option String

/-- What the server reads when it answers. The ids of the messages are unique. -/
structure Reading where
  session : Session Database (List Outbound)
  unique : Channels.MessageIdsUnique session.database

/-- How an await ends: the request fails, be it with an error status, or it is answered. -/
inductive Arrival where
  | failed
  | answered (reading : Reading)

inductive ChannelsRequest where
  | selectChannel (pseudonymId channelId : String)
  | loadOlderMessages (pseudonymId : String)
  | leaveChannel (pseudonymId channelId : String)
deriving DecidableEq, Repr

/-- Where a call is: it has not begun or awaits a request. -/
inductive ChannelsCall where
  | selecting (pseudonymId channelId : String)
  | joining (pseudonymId channelId : String)
  | fetching (pseudonymId channelId : String)
  | loadingOlder (pseudonymId : String)
  | fetchingOlder (pseudonymId channelId before : String)
  | leaving (pseudonymId channelId : String)
deriving DecidableEq, Repr

def ChannelsRequest.enter : ChannelsRequest → ChannelsCall
  | .selectChannel pseudonymId channelId => .selecting pseudonymId channelId
  | .loadOlderMessages pseudonymId => .loadingOlder pseudonymId
  | .leaveChannel pseudonymId channelId => .leaving pseudonymId channelId

section Calls

variable {Fq Key : Type} (setting : ChannelsSetting Fq Key)

/-- The messages of the answer, the newest first. -/
def getMessages (pseudonymId channelId : String) (before : Option String) (limit : Nat) :
    Arrival → Option (List Message)
  | .failed => none
  | .answered reading =>
      match setting.route channelId with
      | none => none
      | some pathChannelId =>
          match (getChannelHistoryHandler setting.server pseudonymId pathChannelId none
            (given before) (some limit) reading.session).1 with
          | .ok rows => some (rows.map .ofRow)
          | .error _ => none

/-- The page that a call awaits. -/
def ChannelsCall.page (call : ChannelsCall) (arrival : Arrival) : Option (List Message) :=
  match call with
  | .fetching pseudonymId channelId =>
      getMessages setting pseudonymId channelId none pageSize arrival
  | .fetchingOlder pseudonymId channelId before =>
      getMessages setting pseudonymId channelId (some before) pageSize arrival
  | _ => none

/-- A call goes on to its next await or to its end. -/
def ChannelsCall.act (call : ChannelsCall) (arrival : Arrival) (client : ChannelsClient) :
    ChannelsClient × Option ChannelsCall :=
  match call with
  | .selecting pseudonymId channelId =>
      (⟨client.store.select channelId, []⟩, some (.joining pseudonymId channelId))
  | .joining pseudonymId channelId =>
      -- An error is caught. The socket is still the one of before the await.
      let ws := client.store.ws.map (·.subscribe channelId)
      ({ client with store := { client.store with ws } }, some (.fetching pseudonymId channelId))
  | .fetching _ _ =>
      match call.page setting arrival with
      | some page => ({ client with store := client.store.showPage page }, none)
      | none => (client, none)
  | .loadingOlder pseudonymId =>
      match client.store.olderRequest with
      | some (activeChannelId, oldest) =>
          ({ client with store := { client.store with loadingOlder := true } },
            some (.fetchingOlder pseudonymId activeChannelId oldest))
      | none => (client, none)
  | .fetchingOlder _ _ _ =>
      let store :=
        match call.page setting arrival with
        | some older => client.store.showOlder older
        | none => client.store
      ({ client with store := { store with loadingOlder := false } }, none)
  | .leaving _ channelId =>
      match arrival with
      | .answered _ => ({ client with store := client.store.left channelId }, none)
      | .failed => (client, none)

/-- What happens to the client: a call starts or goes on, or a frame arrives. -/
inductive ChannelsEvent where
  | call (label : Interleaving.Label ChannelsRequest Arrival)
  | frame (now : String) (frame : WsReceiveFrame)

def channelsProgram :
    Interleaving.Program ChannelsClient ChannelsCall ChannelsRequest Arrival where
  enter _ request := request.enter
  act _ call arrival client := some (call.act setting arrival client)

def channelsStep (state : Interleaving ChannelsClient ChannelsCall) :
    ChannelsEvent → Interleaving ChannelsClient ChannelsCall
  | .call label => Interleaving.step (channelsProgram setting) state label
  | .frame now frame => { state with shared := state.shared.receive now frame }

end Calls

end Annex.Client
