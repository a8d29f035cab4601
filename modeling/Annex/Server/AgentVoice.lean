import Annex.Foundation.Interleaving
import Annex.Server.ChannelMembership

namespace Annex.Server

open Channels Db Sql

/-! The voice of agents: the clients that connect them with the rooms of voice channels, one
for a pseudonym, and the requests that create, use and drop them. Each task on the database,
each acquisition of the clients' lock and each call of a voice service is a step. -/

/-- A client of an agent in a room. Whether it is connected is not read again once it is:
nothing disconnects a client. -/
structure AgentVoiceClient where
  roomUrl : String
  token : String
  roomName : String
  connected : Bool
deriving DecidableEq, Repr

namespace AgentVoiceClient

/-- A failed health check of the server is only logged. -/
def connect (url token roomName : String) : AgentVoiceClient :=
  ⟨url, token, roomName, true⟩

/-- The room the audio is sent to, if the client is connected. -/
def publishRoom (client : AgentVoiceClient) : Option String :=
  if client.connected then some client.roomName else none

end AgentVoiceClient

/-- Audio that was published: whose, the channel its frame named, the database the frame's
membership check saw, and the room it went to. -/
structure Publication where
  pseudonym : String
  channelId : String
  checkedWith : Database
  audio : List Byte
  roomName : String

structure VoiceState where
  database : Database
  voiceSessions : String → Option AgentVoiceClient
  published : List Publication

inductive VoiceRequest where
  | join (identity : PlatformIdentity) (channelId : String)
      (header : Option (JsonText ZkProofPayload))
  | leave (identity : PlatformIdentity) (channelId : String)
  | voiceIntent (identity : PlatformIdentity) (channelId text : String)
  | socketEnd (pseudonym : String)

/-- What is left of a request. -/
inductive VoiceCall where
  | join (identity : PlatformIdentity) (channelId : String)
      (header : Option (JsonText ZkProofPayload))
  | joinVoice (pseudonym channelId : String)
  | joinInsert (pseudonym : String) (client : AgentVoiceClient)
  | leave (identity : PlatformIdentity) (channelId : String)
  | leaveRemove (identity : PlatformIdentity) (channelId : String)
  | voiceIntent (identity : PlatformIdentity) (channelId text : String)
  | synthesize (pseudonym channelId text : String) (checkedWith : Database)
  | findClient (pseudonym channelId : String) (checkedWith : Database) (audio : List Byte)
  | insertClient (pseudonym channelId : String) (checkedWith : Database) (audio : List Byte)
      (client : AgentVoiceClient)
  | publish (pseudonym channelId : String) (checkedWith : Database) (audio : List Byte)
      (client : AgentVoiceClient)
  | socketEnd (pseudonym : String)

/-- What a step takes from outside: the time, the statements that fail, the voice profile of
the agent, and what the voice services do. -/
structure VoiceInput where
  now : String
  faults : List (Option String)
  profileId : String
  synthesize : String → String → Option (List Byte)
  joinToken : String → String → Option String
  connects : Bool
  publishes : Bool

/-- What the voice requests run with. -/
structure VoiceServer (Fq Key : Type) extends ChannelServer Fq Key where
  json : SerdeJson
  voiceUrl : String

def VoiceServer.socket {Fq Key : Type} (server : VoiceServer Fq Key) : SocketServer :=
  ⟨server.environment, server.serverId⟩

/-- Maximum allowed length of the text of a voice intent, in bytes. -/
def maxVoiceIntentTextLen : Nat := 2048

/-- The checks of a voice intent. -/
def admitVoiceIntent (serverId : Nat) (identity : PlatformIdentity)
    (channelId text : String) : SocketHandler Unit := do
  check (identity.participantType = "AI_AGENT") "Only AI agents can use VoiceIntent"
  check (text.utf8ByteSize ≤ maxVoiceIntentTextLen)
    ("VoiceIntent text exceeds maximum length of " ++ toString maxVoiceIntentTextLen ++
      " bytes")
  requireWsMembership serverId channelId identity.pseudonymId

namespace VoiceCall

def ofRequest : VoiceRequest → VoiceCall
  | .join identity channelId header => .join identity channelId header
  | .leave identity channelId => .leave identity channelId
  | .voiceIntent identity channelId text => .voiceIntent identity channelId text
  | .socketEnd pseudonym => .socketEnd pseudonym

/-- Whether step 5 of a join is for the identity and the channel. -/
def joinsVoice {Fq Key : Type} (server : VoiceServer Fq Key) (identity : PlatformIdentity)
    (channelId : String) (database : Database) : Bool :=
  match (getChannel server.environment channelId ⟨database, (), []⟩).1 with
  | .ok channel =>
      identity.participantType = "AI_AGENT" &&
        (channel.channelType = .voice || channel.channelType = .hybrid)
  | .error _ => false

/-- A client for the room of a channel, if a token is granted and the connection succeeds. -/
def newClient {Fq Key : Type} (server : VoiceServer Fq Key) (input : VoiceInput)
    (pseudonym channelId : String) : Option AgentVoiceClient :=
  if input.connects then
    (input.joinToken channelId pseudonym).map fun token =>
      .connect server.voiceUrl token channelId
  else none

/-- Insert a client where the pseudonym has none. -/
def insertVacant (sessions : String → Option AgentVoiceClient) (pseudonym : String)
    (client : AgentVoiceClient) : String → Option AgentVoiceClient :=
  match sessions pseudonym with
  | none => Function.update sessions pseudonym (some client)
  | some _ => sessions

variable {Fq Key : Type} (server : VoiceServer Fq Key)

/-- The next step of a request. -/
def act (state : VoiceState) (input : VoiceInput) :
    VoiceCall → Option (VoiceState × Option VoiceCall)
  | .join identity channelId header =>
      let (result, session) := joinChannelHandler server.toChannelServer server.json input.now
        identity channelId header ⟨state.database, [], input.faults⟩
      match result with
      | .ok () => some ({ state with database := session.database },
          if joinsVoice server identity channelId state.database then
            some (.joinVoice identity.pseudonymId channelId)
          else none)
      | .error _ => some ({ state with database := session.database }, none)
  | .joinVoice pseudonym channelId =>
      match state.voiceSessions pseudonym with
      | some _ => some (state, none)
      | none => some (state, (newClient server input pseudonym channelId).map
          (.joinInsert pseudonym))
  | .joinInsert pseudonym client =>
      -- A client that was inserted in the meantime stays, and this one is dropped.
      some ({ state with
        voiceSessions := insertVacant state.voiceSessions pseudonym client }, none)
  | .leave identity channelId =>
      match (leaveFetch server.socket channelId ⟨state.database, [], input.faults⟩).1 with
      | .ok _ => some (state, some (.leaveRemove identity channelId))
      | .error _ => some (state, none)
  | .leaveRemove identity channelId =>
      some ({ state with
        database := (Server.leaveRemove server.socket identity channelId
          ⟨state.database, [], input.faults⟩).2.database }, none)
  | .voiceIntent identity channelId text =>
      match (admitVoiceIntent server.serverId identity channelId text
          ⟨state.database, [], input.faults⟩).1 with
      | .ok () => some (state, some (.synthesize identity.pseudonymId channelId text
          state.database))
      | .error _ => some (state, none)
  | .synthesize pseudonym channelId text checkedWith =>
      some (state, (input.synthesize text input.profileId).map
        (.findClient pseudonym channelId checkedWith))
  | .findClient pseudonym channelId checkedWith audio =>
      match state.voiceSessions pseudonym with
      | some client => some (state, some (.publish pseudonym channelId checkedWith audio client))
      | none => some (state, (newClient server input pseudonym channelId).map
          (.insertClient pseudonym channelId checkedWith audio))
  | .insertClient pseudonym channelId checkedWith audio client =>
      some ({ state with
        voiceSessions := insertVacant state.voiceSessions pseudonym client },
        (insertVacant state.voiceSessions pseudonym client pseudonym).map
          (.publish pseudonym channelId checkedWith audio))
  | .publish pseudonym channelId checkedWith audio client =>
      match client.publishRoom with
      | none => some (state, none)
      | some roomName =>
          if input.publishes then
            some ({ state with
              published := state.published ++
                [⟨pseudonym, channelId, checkedWith, audio, roomName⟩] }, none)
          else some (state, none)
  | .socketEnd pseudonym =>
      some ({ state with voiceSessions := Function.update state.voiceSessions pseudonym none },
        none)

end VoiceCall

/-- The voice requests of a server. -/
def voiceProgram {Fq Key : Type} (server : VoiceServer Fq Key) :
    Interleaving.Program VoiceState VoiceCall VoiceRequest VoiceInput where
  enter _ request := .ofRequest request
  act _ call input state := call.act server state input

abbrev Voices := Interleaving VoiceState VoiceCall

abbrev VoiceLabel := Interleaving.Label VoiceRequest VoiceInput

/-- A database without clients, before anything is published. -/
def VoiceState.start (database : Database) : VoiceState := ⟨database, fun _ => none, []⟩

end Annex.Server
