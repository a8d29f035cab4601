import Annex.Channels.Store
import Annex.Foundation.Execution
import Annex.Server.State

namespace Annex.Server

open Channels Db Sql

/-! The frames of a WebSocket that write messages. A frame is handled in two parts:
the checks that may refuse it, and the database work, which runs later as a task of its
own. Other frames and requests run in between. -/

/-- The frames that write messages. -/
inductive IncomingMessage where
  | message (channelId content : String) (replyTo : Option String)
  | editMessage (channelId messageId content : String)
  | deleteMessage (channelId messageId : String)
deriving DecidableEq, Repr

/-- The channel a frame names. -/
def IncomingMessage.channelId : IncomingMessage → String
  | .message channelId _ _ => channelId
  | .editMessage channelId _ _ => channelId
  | .deleteMessage channelId _ => channelId

/-- The message a frame is about, if it exists already. -/
def IncomingMessage.target : IncomingMessage → Option String
  | .message _ _ _ => none
  | .editMessage _ messageId _ => some messageId
  | .deleteMessage _ messageId => some messageId

/-- What happens to a frame; an error is what is sent back over the socket. -/
abbrev SocketHandler := Sql Database (List Outbound) String

/-- Result of a WebSocket membership check. -/
inductive MembershipResult where
  | allowed
  | denied
  | error (text : String)
deriving DecidableEq, Repr

def checkWsMembership {Error : Type} (serverId : Nat) (channelId pseudonym : String) :
    Sql Database (List Outbound) Error MembershipResult := do
  let result ← attempt do
    connect fun error => "pool error: " ++ error.text
    mapErr (fun error => "db error: " ++ error.text)
      (isMember serverId channelId pseudonym)
  match result with
  | .ok true => pure .allowed
  | .ok false => pure .denied
  | .error text => pure (.error text)

/-- Maximum allowed length of a message's content, in bytes. -/
def maxWsMessageContentLen : Nat := 65536

def checkContentLength (content : String) : SocketHandler Unit :=
  check (content.utf8ByteSize ≤ maxWsMessageContentLen)
    ("Message content exceeds maximum length of " ++ toString maxWsMessageContentLen ++
      " bytes")

/-- The gate before a send, an edit or a deletion. -/
def requireWsMembership (serverId : Nat) (channelId pseudonym : String) :
    SocketHandler Unit := do
  match ← checkWsMembership serverId channelId pseudonym with
  | .allowed => pure ()
  | .denied => fail ("Not a member of channel " ++ channelId)
  | .error _ => fail "Internal error checking channel membership"

/-- The checks of a frame; a deletion has no content to check. -/
def admitFrame (serverId : Nat) (pseudonym : String) : IncomingMessage → SocketHandler Unit
  | .message channelId content _ => do
      checkContentLength content
      requireWsMembership serverId channelId pseudonym
  | .editMessage channelId _ content => do
      checkContentLength content
      requireWsMembership serverId channelId pseudonym
  | .deleteMessage channelId _ => requireWsMembership serverId channelId pseudonym

section Database

variable (environment : Environment) (clock : Clock) (pseudonym : String)

/-- Store a message under the id drawn for it, and tell whether its channel is
federated. -/
def persistMessage (messageId channelId content : String) (replyTo : Option String) :
    Sql Database (List Outbound) String (Message × Bool) := do
  connect DbError.text
  let message ← mapErr ChannelError.text (createMessage clock
    { channelId, messageId, senderPseudonym := pseudonym, content,
      replyToMessageId := replyTo })
  let channel ← mapErr ChannelError.text (getChannel environment channelId)
  pure (message, channel.federationScope = .federated)

/-- The database work of a frame and its broadcast, to the channel the message is stored
in. The answer is the message to relay, if its channel is federated. -/
def applyFrame (newMessageId : String) : IncomingMessage → SocketHandler (Option Message)
  | .message channelId content replyTo => do
      let (message, isFederated) ← mapErr
        (fun _ => "Failed to send message: internal error")
        (persistMessage environment clock pseudonym newMessageId channelId content replyTo)
      send (.broadcast message.channelId (.message (.ofMessage message)))
      pure (if isFederated then some message else none)
  | .editMessage _ messageId content => do
      let updated ← mapErr (fun text => "Edit failed: " ++ text) do
        connect DbError.text
        mapErr ChannelError.text (editMessage environment clock messageId pseudonym content)
      send (.broadcast updated.channelId (.messageEdited (.ofMessage updated)))
      pure none
  | .deleteMessage _ messageId => do
      let updated ← mapErr (fun text => "Delete failed: " ++ text) do
        connect DbError.text
        mapErr ChannelError.text (deleteMessage environment clock messageId pseudonym)
      send (.broadcast updated.channelId (.messageDeleted (.ofMessage updated)))
      pure none

end Database

/-! Runs of all sockets of a server. -/

/-- What the sockets run with. -/
structure SocketServer where
  environment : Environment
  serverId : Nat

/-- A frame that passed its checks, with the database they saw. -/
structure AdmittedFrame where
  pseudonym : String
  frame : IncomingMessage
  seen : Database

/-- The database, what was broadcast, and the frames between their checks and their
database work. -/
structure Sockets where
  database : Database
  sent : List Outbound
  admitted : List AdmittedFrame

/-- What can happen next. The statements that fail are part of each event. -/
inductive SocketEvent where
  | join (now channelId pseudonym : String) (faults : List (Option String))
  | leave (channelId pseudonym : String) (faults : List (Option String))
  | arrive (pseudonym : String) (frame : IncomingMessage) (faults : List (Option String))
  | apply (index : Nat) (clock : Clock) (newMessageId : String)
      (faults : List (Option String))

namespace Sockets

/-- No frame is being handled. -/
def start (database : Database) : Sockets := ⟨database, [], []⟩

variable (server : SocketServer)

/-- The database work of an admitted frame. -/
def applied (state : Sockets) (frame : AdmittedFrame) (clock : Clock)
    (newMessageId : String) (faults : List (Option String)) :
    Session Database (List Outbound) :=
  (applyFrame server.environment clock frame.pseudonym newMessageId frame.frame
    ⟨state.database, state.sent, faults⟩).2

def step (state : Sockets) : SocketEvent → Sockets
  | .join now channelId pseudonym faults =>
      { state with
        database := (addMember server.environment now server.serverId channelId pseudonym
          ⟨state.database, state.sent, faults⟩).2.database }
  | .leave channelId pseudonym faults =>
      { state with
        database := (removeMember server.serverId channelId pseudonym
          ⟨state.database, state.sent, faults⟩).2.database }
  | .arrive pseudonym frame faults =>
      match (admitFrame server.serverId pseudonym frame
          ⟨state.database, state.sent, faults⟩).1 with
      | .ok () => { state with
          admitted := state.admitted ++ [⟨pseudonym, frame, state.database⟩] }
      | .error _ => state
  | .apply index clock newMessageId faults =>
      match state.admitted[index]? with
      | none => state
      | some frame =>
          { database := (applied server state frame clock newMessageId faults).database
            sent := (applied server state frame clock newMessageId faults).memory
            admitted := state.admitted.eraseIdx index }

end Sockets

end Annex.Server
