import Annex.Foundation.SqlFrame
import Annex.Observe.EventLog

namespace Annex.Server

open Channels Db Observe Rtx Sql

/-- An error a handler answers with. -/
inductive ApiError where
  | badRequest (text : String)
  | unauthorized (text : String)
  | forbidden (text : String)
  | notFound (text : String)
  | conflict (text : String)
  | internalServerError (text : String)
deriving DecidableEq, Repr

/-- A message as the members of its channel see it. -/
structure WsMessagePayload where
  channelId : String
  messageId : String
  senderPseudonym : String
  content : String
  replyToMessageId : Option String
  createdAt : String
  editedAt : Option String
  deletedAt : Option String
deriving DecidableEq, Repr

def WsMessagePayload.ofMessage (message : Message) : WsMessagePayload where
  channelId := message.channelId
  messageId := message.messageId
  senderPseudonym := message.senderPseudonym
  content := message.content
  replyToMessageId := message.replyToMessageId
  createdAt := message.createdAt
  editedAt := message.editedAt
  deletedAt := message.deletedAt

/-- What goes out to a WebSocket. -/
inductive OutgoingMessage where
  | message (payload : WsMessagePayload)
  | messageEdited (payload : WsMessagePayload)
  | messageDeleted (payload : WsMessagePayload)
  | error (message : String)
deriving DecidableEq, Repr

/-- What leaves the server while it handles a request. A delivered bundle carries its
provenance when it came from a federation peer. -/
inductive Outbound where
  | observe (event : PublicEvent)
  | presence (event : PresenceEvent)
  | broadcast (channelId : String) (message : OutgoingMessage)
  | rtxBundle (pseudonymId : String) (bundle : ReflectionSummaryBundle)
      (provenance : Option BundleProvenance)
  | rtxRelay (url : String) (envelope : FederatedRtxEnvelope)
deriving DecidableEq, Repr

/-- A handler over the database and what it has sent so far. -/
abbrev Handler := Sql Database (List Outbound) ApiError

def dbConnectionFailed (error : DbError) : ApiError :=
  .internalServerError ("db connection failed: " ++ error.text)

def dbQueryFailed (error : DbError) : ApiError :=
  .internalServerError ("db query failed: " ++ error.text)

def startFailed (error : DbError) : ApiError :=
  .internalServerError ("failed to start transaction: " ++ error.text)

def beginFailed (error : DbError) : ApiError :=
  .internalServerError ("failed to begin transaction: " ++ error.text)

def commitFailed (error : DbError) : ApiError :=
  .internalServerError ("failed to commit transaction: " ++ error.text)

/-- Hand messages out in order. -/
def sendAll {Error : Type} (messages : List Outbound) :
    Sql Database (List Outbound) Error Unit :=
  remember fun sent => sent ++ messages

/-- Append an event to the log and broadcast it. Neither failure reaches the
caller. -/
def emitAndBroadcast {Error : Type} (now : String) (serverId : Nat)
    (entityId : String) (payload : EventPayload) :
    Sql Database (List Outbound) Error Unit := do
  let outcome ← attempt (statement id
    (emitEvent now serverId payload.domain payload.eventType payload.entityType entityId
      payload))
  match outcome with
  | .ok event => send (.observe event)
  | .error _ => pure ()

/-- The event a payload becomes, and the log after it. -/
def logged (now : String) (serverId : Nat) (entityId : String) (payload : EventPayload)
    (log : Table PublicEvent) : PublicEvent × Table PublicEvent :=
  insertEvent now serverId payload.domain payload.eventType payload.entityType entityId
    payload log

/-- An emission that nothing makes fail. -/
theorem emitAndBroadcast_apply {Error : Type} (now : String) (serverId : Nat)
    (entityId : String) (payload : EventPayload) (database : Database)
    (sent : List Outbound) :
    (emitAndBroadcast now serverId entityId payload :
        Sql Database (List Outbound) Error Unit) ⟨database, sent, []⟩ =
      (.ok (), ⟨{ database with
          publicEventLog := (logged now serverId entityId payload database.publicEventLog).2 },
        sent ++ [.observe (logged now serverId entityId payload
          database.publicEventLog).1], []⟩) := rfl

theorem emitAndBroadcast_faulty {Error : Type} {now : String} {serverId : Nat}
    {entityId : String} {payload : EventPayload} {session : Session Database (List Outbound)}
    {text : String} (faulty : faultAt session.faults 0 = some text) :
    (emitAndBroadcast now serverId entityId payload :
        Sql Database (List Outbound) Error Unit) session =
      (.ok (), { session with faults := session.faults.tail }) := by
  unfold emitAndBroadcast
  rw [bind_apply]
  simp only [attempt, statement_faulty faulty]
  rfl

theorem emitAndBroadcast_done {Error : Type} {now : String} {serverId : Nat}
    {entityId : String} {payload : EventPayload} {session : Session Database (List Outbound)}
    (unfaulted : faultAt session.faults 0 = none) :
    (emitAndBroadcast now serverId entityId payload :
        Sql Database (List Outbound) Error Unit) session =
      (.ok (), ⟨{ session.database with
          publicEventLog :=
            (logged now serverId entityId payload session.database.publicEventLog).2 },
        session.memory ++ [.observe (logged now serverId entityId payload
          session.database.publicEventLog).1], session.faults.tail⟩) := by
  have event : statement id (emitEvent now serverId payload.domain payload.eventType
        payload.entityType entityId payload) session =
      (.ok (logged now serverId entityId payload session.database.publicEventLog).1,
        ⟨{ session.database with
          publicEventLog :=
            (logged now serverId entityId payload session.database.publicEventLog).2 },
          session.memory, session.faults.tail⟩) :=
    statement_done unfaulted rfl
  unfold emitAndBroadcast
  rw [bind_apply]
  simp only [attempt, event]
  rfl

/-- An emission touches the event log alone. -/
theorem emitAndBroadcast_ensures {Error : Type} {database : Database}
    {sent : List Outbound} (now : String) (serverId : Nat) (entityId : String)
    (payload : EventPayload)
    {post : Except Error Unit → Database → List Outbound → Prop}
    (holds : ∀ publicEventLog extra,
      post (.ok ()) { database with publicEventLog } (sent ++ extra)) :
    Ensures (emitAndBroadcast now serverId entityId payload) database sent post := by
  have unchanged := holds database.publicEventLog []
  rw [List.append_nil] at unchanged
  refine ensures_bind (ensures_attempt.mpr (ensures_statement ?_ ?_ ?_))
  · intro text
    exact (ensures_pure _).mpr unchanged
  · rintro event _ ⟨⟩
    rw [andThen_ok, ensures_send]
    exact holds _ _
  · intro error failed
    cases failed

theorem emitAndBroadcast_preserves {Error : Type} {invariant : Database → Prop}
    {now : String} {serverId : Nat} {entityId : String} {payload : EventPayload}
    (unlogged : ∀ (database : Database) publicEventLog,
      invariant database → invariant { database with publicEventLog }) :
    Preserves invariant (emitAndBroadcast now serverId entityId payload :
      Sql Database (List Outbound) Error Unit) := by
  refine preserves_bind (preserves_attempt (preserves_statement ?_)) fun outcome => ?_
  · rintro database _ _ ⟨⟩
    exact unlogged database _
  · cases outcome with
    | ok event => exact preserves_send _
    | error error => exact (reads_pure _).preserves

theorem emitAndBroadcast_keeps {γ Error : Type} {view : Database → γ} {now : String}
    {serverId : Nat} {entityId : String} {payload : EventPayload}
    (unlogged : ∀ (database : Database) publicEventLog,
      view { database with publicEventLog } = view database) :
    Keeps view (emitAndBroadcast now serverId entityId payload :
      Sql Database (List Outbound) Error Unit) :=
  fun _ => emitAndBroadcast_preserves fun database publicEventLog held =>
    (unlogged database publicEventLog).trans held

end Annex.Server
