import Annex.Channels.StoreCorrectness
import Annex.Server.WebSocket

namespace Annex.Server

open Channels Db Execution Sql

/-! Who edits and deletes messages over a WebSocket. -/

section Frame

variable {environment : Environment} {database : Database} {sent : List Outbound}
  {Error : Type}

/-- A membership check that passes saw the membership. -/
theorem checkWsMembership_ensures {serverId : Nat} {channelId pseudonym : String} :
    Ensures (checkWsMembership serverId channelId pseudonym :
        Sql Database (List Outbound) Error MembershipResult) database sent
      fun result changed _ => changed = database ∧
        (result = .ok .allowed → memberOf serverId channelId pseudonym database = true) := by
  have looks : Looks (do
      connect fun error => "pool error: " ++ error.text
      mapErr (fun error => "db error: " ++ error.text)
        (isMember serverId channelId pseudonym) :
      Sql Database (List Outbound) String Bool) :=
    looks_bind (looks_connect _) fun _ => looks_mapErr looks_isMember
  refine ensures_bind (ensures_attempt.mpr ?_)
  intro faults
  rcases looks database sent with ⟨result, ran, faulty⟩
  rcases faulty faults with ⟨rest, same | ⟨error, failed⟩⟩
  · rw [same, andThen_ok]
    cases result with
    | error text => exact (ensures_pure _).mpr ⟨rfl, fun equal => by cases equal⟩
    | ok found =>
        have answers : Answers (isMember serverId channelId pseudonym :
            Sql Database (List Outbound) ChannelError Bool) database sent found :=
          (answers_mapErr looks_isMember).mp ran
        cases found with
        | false => exact (ensures_pure _).mpr ⟨rfl, fun equal => by cases equal⟩
        | true =>
            exact (ensures_pure _).mpr ⟨rfl, fun _ => answers_isMember.mp answers⟩
  · rw [failed, andThen_ok]
    exact (ensures_pure _).mpr ⟨rfl, fun equal => by cases equal⟩

theorem requireWsMembership_ensures {serverId : Nat} {channelId pseudonym : String} :
    Ensures (requireWsMembership serverId channelId pseudonym) database sent
      fun result _ _ =>
        result = .ok () → memberOf serverId channelId pseudonym database = true := by
  refine ensures_bind (ensures_mono ?_ checkWsMembership_ensures)
  rintro (error | answer) changed after ⟨rfl, seen⟩
  · exact fun equal => by cases equal
  · rw [andThen_ok]
    cases answer with
    | allowed => exact (ensures_pure _).mpr fun _ => seen rfl
    | denied => exact (ensures_fail _).mpr fun equal => by cases equal
    | error text => exact (ensures_fail _).mpr fun equal => by cases equal

/-- A frame that is admitted comes from a member of the channel it names. -/
theorem admitFrame_ensures {serverId : Nat} {pseudonym : String}
    {frame : IncomingMessage} :
    Ensures (admitFrame serverId pseudonym frame) database sent fun result _ _ =>
      result = .ok () → memberOf serverId frame.channelId pseudonym database = true := by
  have checked : ∀ content : String, Ensures (do
      checkContentLength content
      requireWsMembership serverId frame.channelId pseudonym) database sent
      fun result _ _ => result = .ok () →
        memberOf serverId frame.channelId pseudonym database = true := by
    intro content
    refine Looks.ensures_bind (looks_check _ _) (fun error equal => by cases equal) ?_
    exact fun _ _ => requireWsMembership_ensures
  cases frame with
  | message channelId content replyTo => exact checked content
  | editMessage channelId messageId content => exact checked content
  | deleteMessage channelId messageId => exact requireWsMembership_ensures

/-- What an edit or a deletion does to the database it does for the author. -/
theorem applyFrame_ensures {clock : Clock} {pseudonym newMessageId messageId : String}
    {frame : IncomingMessage} (target : frame.target = some messageId) :
    Ensures (applyFrame environment clock pseudonym newMessageId frame) database sent
      fun _ changed _ => changed ≠ database →
        ∃ message, findMessage messageId database = some message ∧
          message.senderPseudonym = pseudonym := by
  have work : ∀ (wrap : String → String)
      (program : Sql Database (List Outbound) ChannelError Message)
      (outgoing : Message → Outbound),
      Ensures program database sent (fun _ changed _ => changed ≠ database →
        ∃ message, findMessage messageId database = some message ∧
          message.senderPseudonym = pseudonym) →
      Ensures (do
        let updated ← mapErr wrap do
          connect DbError.text
          mapErr ChannelError.text program
        send (outgoing updated)
        pure none : SocketHandler (Option Message)) database sent fun _ changed _ =>
          changed ≠ database → ∃ message, findMessage messageId database = some message ∧
            message.senderPseudonym = pseudonym := by
    intro wrap program outgoing holds
    refine ensures_bind (ensures_mapErr ?_)
    refine Looks.ensures_bind (looks_connect _) (fun _ same => absurd rfl same) ?_
    refine fun _ _ => ensures_mapErr (ensures_mono ?_ holds)
    rintro (error | updated) changed after owned
    · exact owned
    · simp only [Except.mapError, andThen_ok]
      apply ensures_bind
      rw [ensures_send, andThen_ok, ensures_pure]
      exact owned
  cases frame with
  | message channelId content replyTo => cases target
  | editMessage channelId other content =>
      cases target
      exact work _ _ _ editMessage_ensures
  | deleteMessage channelId other =>
      cases target
      exact work _ _ _ deleteMessage_ensures

end Frame

namespace Sockets

variable (server : SocketServer)

/-- An edit or a deletion is applied only to a message of the author, who was a member
of the message's channel when the frame was checked. -/
def WriteAuthorized (state : Sockets) : SocketEvent → Prop
  | .apply index clock newMessageId faults =>
      ∀ frame messageId, state.admitted[index]? = some frame →
        frame.frame.target = some messageId →
        (applied server state frame clock newMessageId faults).database ≠ state.database →
          ∃ message, findMessage messageId state.database = some message ∧
            message.senderPseudonym = frame.pseudonym ∧
            memberOf server.serverId message.channelId frame.pseudonym frame.seen = true
  | _ => True

/-- An edit or a deletion names the channel its message is stored in. -/
def NamesOwnChannel (state : Sockets) : SocketEvent → Prop
  | .apply index _ _ _ =>
      ∀ frame messageId message, state.admitted[index]? = some frame →
        frame.frame.target = some messageId →
        findMessage messageId state.database = some message →
          message.channelId = frame.frame.channelId
  | _ => True

/-- Every frame in flight came from a member of the channel it names. -/
def Checked (state : Sockets) : Prop :=
  ∀ frame ∈ state.admitted,
    memberOf server.serverId frame.frame.channelId frame.pseudonym frame.seen = true

variable {server}

theorem checked_start (database : Database) : Checked server (start database) :=
  fun _ member => (List.not_mem_nil member).elim

theorem checked_step {state : Sockets} (checked : Checked server state)
    (event : SocketEvent) : Checked server (step server state event) := by
  cases event with
  | join now channelId pseudonym faults => exact checked
  | leave channelId pseudonym faults => exact checked
  | arrive pseudonym frame faults =>
      have seen := @admitFrame_ensures state.database state.sent server.serverId pseudonym
        frame faults
      simp only [step]
      split
      · next passed =>
        intro other member
        rcases List.mem_append.mp member with member | member
        · exact checked other member
        · rw [List.mem_singleton.mp member]
          exact seen passed
      · exact checked
  | apply index clock newMessageId faults =>
      simp only [step]
      split
      · exact checked
      · exact fun other member => checked other (List.mem_of_mem_eraseIdx member)

/-- Where frames name the channels their messages are stored in, the membership that was
checked is the one that counts. -/
theorem writeAuthorized_of_named {state : Sockets} (checked : Checked server state)
    {event : SocketEvent} (named : NamesOwnChannel state event) :
    WriteAuthorized server state event := by
  cases event with
  | join now channelId pseudonym faults => trivial
  | leave channelId pseudonym faults => trivial
  | arrive pseudonym frame faults => trivial
  | apply index clock newMessageId faults =>
      intro frame messageId admitted target changes
      rcases applyFrame_ensures target faults changes with ⟨message, found, own⟩
      refine ⟨message, found, own, ?_⟩
      rw [named frame messageId message admitted target found]
      exact checked frame (List.mem_of_getElem? admitted)

/-- In every run of joins, leaves and frames in which each edit and each deletion names
the channel its message is stored in, each is applied only to a message of its author,
who was a member of that channel at the check. -/
theorem writes_authorized {database : Database} {events : List SocketEvent}
    (named : Guarded (step server) NamesOwnChannel (start database) events) :
    Guarded (step server) (WriteAuthorized server) (start database) events :=
  guarded_of_invariant (Checked server)
    (fun _ event checked _ => checked_step checked event)
    (fun _ _ checked named => writeAuthorized_of_named checked named)
    (checked_start database) named

section Sample

def socketServer : SocketServer where
  environment := Environment.sample fun _ => []
  serverId := 1

def socketClock : Clock where
  datetime := ""
  datetimePlusDays := fun _ => none
  unixSeconds := 0

def roomRow (channelId : String) (id : Nat) : ChannelRow :=
  ⟨id, 1, channelId, channelId, .encoded .text, none, none, none, none, none,
    .encoded .localOnly, ""⟩

/-- Channels `a` and `b`, both with the member `user`. -/
def twoRooms : Database :=
  { migrated with
    servers := singleServer
    channels := (Table.empty.insert (roomRow "a")).insert (roomRow "b")
    channelMembers := (Table.empty.insert fun id => ⟨id, 1, "a", "user", "MEMBER", ""⟩).insert
      fun id => ⟨id, 1, "b", "user", "MEMBER", ""⟩ }

/-- `user` sends a message in `b`, and then edits it there. -/
def sendThenEdit : List SocketEvent :=
  [.arrive "user" (.message "b" "old" none) [], .apply 0 socketClock "m" [],
    .arrive "user" (.editMessage "b" "m" "new") [], .apply 0 socketClock "" []]

/-- `user` sends a message in `b`, leaves `b`, and then edits it, naming `a`. -/
def editAfterLeaving : List SocketEvent :=
  [.arrive "user" (.message "b" "old" none) [], .apply 0 socketClock "m" [],
    .leave "b" "user" [], .arrive "user" (.editMessage "a" "m" "new") [],
    .apply 0 socketClock "" []]

/-- The message as `user` sent it. -/
def sentMessage : Message :=
  ⟨1, 1, "b", "m", "user", "old", none, "", none, none, none⟩

/-- The edit that names the channel of its message is authorized. -/
theorem writes_authorized_in_own_channel :
    Guarded (step socketServer) (WriteAuthorized socketServer) (start twoRooms)
      sendThenEdit := by
  refine writes_authorized ⟨trivial, ?_, trivial, ?_, trivial⟩
  · intro frame messageId message admitted target
    cases admitted
    cases target
  · intro frame messageId message admitted target found
    cases admitted
    cases target
    have stored : findMessage "m" (run (step socketServer) (start twoRooms)
        (sendThenEdit.take 3)).database = some sentMessage := by
      decide +kernel
    rw [← Option.some.inj (stored.symm.trans found)]
    rfl

/-- The edit that names another channel is applied all the same. -/
theorem edit_after_leaving :
    ¬ ∀ (server : SocketServer) (database : Database) (events : List SocketEvent),
      Guarded (step server) (WriteAuthorized server) (start database) events := by
  intro authorized
  have last := (authorized socketServer twoRooms editAfterLeaving).2.2.2.2.1
  have changes : (run (step socketServer) (start twoRooms) editAfterLeaving).database ≠
      (run (step socketServer) (start twoRooms) (editAfterLeaving.take 4)).database := by
    decide +kernel
  have stored : findMessage "m" (run (step socketServer) (start twoRooms)
      (editAfterLeaving.take 4)).database = some sentMessage := by
    decide +kernel
  have left : memberOf 1 "b" "user" (run (step socketServer) (start twoRooms)
      (editAfterLeaving.take 3)).database = false := by
    decide +kernel
  rcases last _ "m" rfl rfl changes with ⟨message, found, -, member⟩
  cases Option.some.inj (stored.symm.trans found)
  exact absurd member (Bool.eq_false_iff.mp left)

end Sample

end Sockets

end Annex.Server
