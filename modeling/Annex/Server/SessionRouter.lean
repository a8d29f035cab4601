import Mathlib.Data.Finset.Sort
import Mathlib.Data.String.Basic
import Annex.Server.Connections

namespace Annex.Server

/-! The connection manager with the queues of its sessions. Each operation is taken as a
whole. -/

/-- The queue of a session: what its consumer has not taken yet. -/
structure MessageQueue where
  waiting : List String
  capacity : Nat
  /-- The consumer is gone. -/
  closed : Bool
deriving DecidableEq, Repr

namespace MessageQueue

def open_ (capacity : Nat) : MessageQueue := ⟨[], capacity, false⟩

def HasRoom (queue : MessageQueue) : Prop :=
  queue.closed = false ∧ queue.waiting.length < queue.capacity

instance (queue : MessageQueue) : Decidable queue.HasRoom :=
  inferInstanceAs (Decidable (_ ∧ _))

def push (message : String) (queue : MessageQueue) : MessageQueue :=
  { queue with waiting := queue.waiting ++ [message] }

/-- A message that does not fit is dropped. -/
def trySend (message : String) (queue : MessageQueue) : MessageQueue :=
  if queue.HasRoom then queue.push message else queue

/-- The consumer takes a message. -/
def receive (queue : MessageQueue) : MessageQueue :=
  { queue with waiting := queue.waiting.tail }

/-- The consumer goes, and what waits for it is lost. -/
def close (queue : MessageQueue) : MessageQueue :=
  { queue with waiting := [], closed := true }

end MessageQueue

/-- The orders in which the hash sets are iterated. -/
structure SetOrder where
  toList : Finset String → List String
  nodup : ∀ values, (toList values).Nodup
  mem_toList : ∀ values value, value ∈ toList values ↔ value ∈ values

instance : Inhabited SetOrder where
  default :=
    { toList := fun values => values.sort (· ≤ ·)
      nodup := fun values => values.sort_nodup _
      mem_toList := fun values _ => values.mem_sort _ }

/-- A session is its id and its sender, which is the place of its queue. -/
structure SessionRouter where
  sessions : String → Option (String × Nat)
  /-- Channel to pseudonyms. -/
  channelSubscriptions : SetMap String String
  /-- Pseudonym to channels. -/
  userSubscriptions : SetMap String String
  queues : List MessageQueue

namespace SessionRouter

def new : SessionRouter := ⟨fun _ => none, .empty, .empty, []⟩

/-- Remove a pseudonym from the channels it is subscribed to, and its entry. -/
def cleanUp (pseudonym : String) (router : SessionRouter) : SessionRouter :=
  match router.userSubscriptions pseudonym with
  | some channels =>
      { router with
        channelSubscriptions := router.channelSubscriptions.eraseAll channels pseudonym
        userSubscriptions := router.userSubscriptions.remove pseudonym }
  | none => router

/-- An existing session's subscriptions are cleaned up before it is replaced. -/
def cleanPrevious (pseudonym : String) (router : SessionRouter) : SessionRouter :=
  match router.sessions pseudonym with
  | some _ => router.cleanUp pseudonym
  | none => router

/-- The socket opens a queue and registers a session that sends to it. -/
def addSession (pseudonym sessionId : String) (capacity : Nat) (router : SessionRouter) :
    SessionRouter :=
  let cleaned := router.cleanPrevious pseudonym
  { cleaned with
    sessions := Function.update cleaned.sessions pseudonym
      (some (sessionId, router.queues.length))
    queues := cleaned.queues ++ [.open_ capacity] }

def removeSession (pseudonym sessionId : String) (router : SessionRouter) : SessionRouter :=
  match router.sessions pseudonym with
  | some (currentId, _) =>
      if currentId = sessionId then
        cleanUp pseudonym
          { router with sessions := Function.update router.sessions pseudonym none }
      else router
  | none => router

def disconnectUser (pseudonym : String) (router : SessionRouter) : SessionRouter :=
  match router.sessions pseudonym with
  | some (sessionId, _) => router.removeSession pseudonym sessionId
  | none => router

def subscribe (channelId pseudonym : String) (router : SessionRouter) : SessionRouter :=
  { router with
    channelSubscriptions := router.channelSubscriptions.insert channelId pseudonym
    userSubscriptions := router.userSubscriptions.insert pseudonym channelId }

def unsubscribe (channelId pseudonym : String) (router : SessionRouter) : SessionRouter :=
  { router with
    channelSubscriptions := router.channelSubscriptions.erase channelId pseudonym
    userSubscriptions := router.userSubscriptions.erase pseudonym channelId }

/-- Change the queue of a sender. -/
def onQueue (sender : Nat) (change : MessageQueue → MessageQueue) (router : SessionRouter) :
    SessionRouter :=
  { router with queues := router.queues.modify sender change }

def send (message : String) (router : SessionRouter) (pseudonym : String) : SessionRouter :=
  match router.sessions pseudonym with
  | some (_, sender) => router.onQueue sender (.trySend message)
  | none => router

def broadcast (order : SetOrder) (channelId message : String) (router : SessionRouter) :
    SessionRouter :=
  match router.channelSubscriptions channelId with
  | some listeners => (order.toList listeners).foldl (send message) router
  | none => router

end SessionRouter

/-- An operation of the manager, or what a socket does with its queue: it takes a message to
its client, tells the client an error, or ends. -/
inductive RouterOperation where
  | addSession (pseudonym sessionId : String) (capacity : Nat)
  | disconnectUser (pseudonym : String)
  | removeSession (pseudonym sessionId : String)
  | subscribe (channelId pseudonym : String)
  | unsubscribe (channelId pseudonym : String)
  | broadcast (order : SetOrder) (channelId message : String)
  | send (pseudonym message : String)
  | receive (sender : Nat)
  | tell (sender : Nat) (message : String)
  | close (sender : Nat)

namespace SessionRouter

def step (router : SessionRouter) : RouterOperation → SessionRouter
  | .addSession pseudonym sessionId capacity => router.addSession pseudonym sessionId capacity
  | .disconnectUser pseudonym => router.disconnectUser pseudonym
  | .removeSession pseudonym sessionId => router.removeSession pseudonym sessionId
  | .subscribe channelId pseudonym => router.subscribe channelId pseudonym
  | .unsubscribe channelId pseudonym => router.unsubscribe channelId pseudonym
  | .broadcast order channelId message => router.broadcast order channelId message
  | .send pseudonym message => router.send message pseudonym
  | .receive sender => router.onQueue sender .receive
  | .tell sender message => router.onQueue sender (.trySend message)
  | .close sender => router.onQueue sender .close

/-! The operations as the calls that take one lock at a time. -/

/-- The manager as the calls have it. -/
def manager (router : SessionRouter) : ConnectionManager where
  sessions pseudonym := (router.sessions pseudonym).map Prod.fst
  channelSubscriptions := router.channelSubscriptions
  userSubscriptions := router.userSubscriptions
  channelLock := none

end SessionRouter

/-- Alone, what is left of a call runs to its end and leaves the manager as given. -/
inductive ConnectionCall.Completes (id : Nat) :
    Option ConnectionCall → ConnectionManager → ConnectionManager → Prop where
  | done (manager : ConnectionManager) : Completes id none manager manager
  | next {call : ConnectionCall} {rest : Option ConnectionCall}
      {manager middle after : ConnectionManager}
      (acts : call.act id manager = some (middle, rest))
      (completes : Completes id rest middle after) : Completes id (some call) manager after

namespace SessionRouter

open ConnectionCall

variable (id : Nat) (router : SessionRouter) (pseudonym sessionId channelId : String)

theorem sessions_manager :
    router.manager.sessions pseudonym = (router.sessions pseudonym).map Prod.fst := rfl

theorem sessions_update (session : Option (String × Nat)) :
    Function.update router.manager.sessions pseudonym (session.map Prod.fst) =
      fun other => (Function.update router.sessions pseudonym session other).map Prod.fst := by
  funext other
  by_cases same : other = pseudonym
  · rw [same, Function.update_self, Function.update_self]
  · rw [Function.update_of_ne same, Function.update_of_ne same]
    rfl

/-- The three steps of a clean-up. -/
theorem completes_collectChannels {session : Option String} {after : ConnectionManager}
    (rest : Completes id (cleaned pseudonym session) (router.cleanUp pseudonym).manager after) :
    Completes id (some (.collectChannels pseudonym session)) router.manager after := by
  unfold cleanUp at rest
  cases listed : router.userSubscriptions pseudonym with
  | none =>
      rw [listed] at rest
      refine .next ?_ rest
      have found : router.manager.userSubscriptions pseudonym = none := listed
      rw [act, found]
  | some channels =>
      rw [listed] at rest
      have found : router.manager.userSubscriptions pseudonym = some channels := listed
      have collected : (collectChannels pseudonym session).act id router.manager =
          some (router.manager, some (.cleanChannels pseudonym channels session)) := by
        rw [act, found]
      exact .next collected (.next rfl (.next rfl rest))

theorem completes_addSession (capacity : Nat) :
    Completes id (some (.addSession pseudonym sessionId)) router.manager
      (router.addSession pseudonym sessionId capacity).manager := by
  have inserted (cleaned : SessionRouter) (queues : List MessageQueue) :
      Completes id (some (.insertSession pseudonym sessionId)) cleaned.manager
        { cleaned with
          sessions := Function.update cleaned.sessions pseudonym
            (some (sessionId, router.queues.length))
          queues }.manager := by
    refine .next rfl ?_
    have same := sessions_update cleaned pseudonym (some (sessionId, router.queues.length))
    rw [Option.map_some] at same
    rw [same]
    exact .done _
  unfold addSession cleanPrevious
  cases found : router.sessions pseudonym with
  | none =>
      have acts : (ConnectionCall.addSession pseudonym sessionId).act id router.manager =
          some (router.manager, some (.insertSession pseudonym sessionId)) := by
        rw [act, sessions_manager, found]
        rfl
      exact .next acts (inserted router _)
  | some session =>
      have acts : (ConnectionCall.addSession pseudonym sessionId).act id router.manager =
          some (router.manager, some (.collectChannels pseudonym (some sessionId))) := by
        rw [act, sessions_manager, found]
        rfl
      refine .next acts ?_
      apply completes_collectChannels
      exact inserted (router.cleanUp pseudonym) _

theorem completes_removeSession :
    Completes id (some (.removeSession pseudonym sessionId)) router.manager
      (router.removeSession pseudonym sessionId).manager := by
  unfold removeSession
  have removed := sessions_update router pseudonym none
  have current := sessions_manager router pseudonym
  cases found : router.sessions pseudonym with
  | none =>
      rw [found] at current
      refine .next ?_ (.done _)
      rw [act, current]
      rfl
  | some session =>
      rw [found, Option.map_some] at current
      dsimp only
      split
      · next same =>
          have acts : (ConnectionCall.removeSession pseudonym sessionId).act id router.manager =
              some ({ router with
                  sessions := Function.update router.sessions pseudonym none }.manager,
                some (.collectChannels pseudonym none)) := by
            rw [act, current, if_pos (congrArg some same)]
            rw [Option.map_none] at removed
            rw [removed]
            rfl
          refine .next acts ?_
          apply completes_collectChannels
          exact .done _
      · next different =>
          refine .next ?_ (.done _)
          rw [act, current, if_neg fun same => different (Option.some.inj same)]

theorem completes_disconnectUser :
    Completes id (some (.disconnectUser pseudonym)) router.manager
      (router.disconnectUser pseudonym).manager := by
  unfold disconnectUser
  cases found : router.sessions pseudonym with
  | none =>
      refine .next ?_ (.done _)
      rw [act, sessions_manager, found]
      rfl
  | some session =>
      refine .next ?_ (completes_removeSession id router pseudonym session.1)
      rw [act, sessions_manager, found]
      rfl

theorem completes_subscribe :
    Completes id (some (.subscribe channelId pseudonym)) router.manager
      (router.subscribe channelId pseudonym).manager :=
  .next rfl (.next rfl (.done _))

theorem completes_unsubscribe :
    Completes id (some (.unsubscribe channelId pseudonym)) router.manager
      (router.unsubscribe channelId pseudonym).manager :=
  .next rfl (.next rfl (.done _))

end SessionRouter

end Annex.Server
