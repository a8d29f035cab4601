import Annex.Foundation.Interleaving
import Annex.Foundation.SetMap

namespace Annex.Server

/-! The sessions and subscriptions of a server's WebSockets, and the calls on them. Each step
of a call is what it does under one acquisition of a lock; only `subscribe` and `unsubscribe`
keep the lock of the channels while they take the one of the users. -/

/-- The connection manager. A session is the id it was registered under. -/
structure ConnectionManager where
  sessions : String → Option String
  /-- Channel to pseudonyms. -/
  channelSubscriptions : SetMap String String
  /-- Pseudonym to channels. -/
  userSubscriptions : SetMap String String
  /-- The call that keeps the lock of `channelSubscriptions` between two steps. -/
  channelLock : Option Nat

def ConnectionManager.new : ConnectionManager where
  sessions := fun _ => none
  channelSubscriptions := .empty
  userSubscriptions := .empty
  channelLock := none

inductive ConnectionRequest where
  | addSession (pseudonym sessionId : String)
  | disconnectUser (pseudonym : String)
  | removeSession (pseudonym sessionId : String)
  | subscribe (channelId pseudonym : String)
  | unsubscribe (channelId pseudonym : String)
deriving DecidableEq, Repr

/-- What is left of a call. The three steps of the clean-up carry the session to insert after
it, which `remove_session` does not have. -/
inductive ConnectionCall where
  | addSession (pseudonym sessionId : String)
  | collectChannels (pseudonym : String) (session : Option String)
  | cleanChannels (pseudonym : String) (channels : Finset String) (session : Option String)
  | cleanUser (pseudonym : String) (session : Option String)
  | insertSession (pseudonym sessionId : String)
  | disconnectUser (pseudonym : String)
  | removeSession (pseudonym sessionId : String)
  | subscribe (channelId pseudonym : String)
  | subscribeUser (channelId pseudonym : String)
  | unsubscribe (channelId pseudonym : String)
  | unsubscribeUser (channelId pseudonym : String)
deriving DecidableEq

namespace ConnectionCall

def ofRequest : ConnectionRequest → ConnectionCall
  | .addSession pseudonym sessionId => .addSession pseudonym sessionId
  | .disconnectUser pseudonym => .disconnectUser pseudonym
  | .removeSession pseudonym sessionId => .removeSession pseudonym sessionId
  | .subscribe channelId pseudonym => .subscribe channelId pseudonym
  | .unsubscribe channelId pseudonym => .unsubscribe channelId pseudonym

/-- What follows the clean-up of a pseudonym's subscriptions. -/
def cleaned (pseudonym : String) (session : Option String) : Option ConnectionCall :=
  session.map (.insertSession pseudonym)

/-- The next step of the call with the given number. -/
def act (id : Nat) (manager : ConnectionManager) :
    ConnectionCall → Option (ConnectionManager × Option ConnectionCall)
  | .addSession pseudonym sessionId =>
      -- An existing session's subscriptions are cleaned up first.
      match manager.sessions pseudonym with
      | some _ => some (manager, some (.collectChannels pseudonym (some sessionId)))
      | none => some (manager, some (.insertSession pseudonym sessionId))
  | .collectChannels pseudonym session =>
      match manager.userSubscriptions pseudonym with
      | some channels => some (manager, some (.cleanChannels pseudonym channels session))
      | none => some (manager, cleaned pseudonym session)
  | .cleanChannels pseudonym channels session =>
      if manager.channelLock = none then
        some ({ manager with
          channelSubscriptions := manager.channelSubscriptions.eraseAll channels pseudonym },
          some (.cleanUser pseudonym session))
      else none
  | .cleanUser pseudonym session =>
      some ({ manager with userSubscriptions := manager.userSubscriptions.remove pseudonym },
        cleaned pseudonym session)
  | .insertSession pseudonym sessionId =>
      some ({ manager with
        sessions := Function.update manager.sessions pseudonym (some sessionId) }, none)
  | .disconnectUser pseudonym =>
      some (manager, (manager.sessions pseudonym).map (.removeSession pseudonym))
  | .removeSession pseudonym sessionId =>
      -- A stale request, or one for a session that is gone, does nothing.
      if manager.sessions pseudonym = some sessionId then
        some ({ manager with sessions := Function.update manager.sessions pseudonym none },
          some (.collectChannels pseudonym none))
      else some (manager, none)
  | .subscribe channelId pseudonym =>
      if manager.channelLock = none then
        some ({ manager with
          channelSubscriptions := manager.channelSubscriptions.insert channelId pseudonym
          channelLock := some id },
          some (.subscribeUser channelId pseudonym))
      else none
  | .subscribeUser channelId pseudonym =>
      some ({ manager with
        userSubscriptions := manager.userSubscriptions.insert pseudonym channelId
        channelLock := none }, none)
  | .unsubscribe channelId pseudonym =>
      if manager.channelLock = none then
        some ({ manager with
          channelSubscriptions := manager.channelSubscriptions.erase channelId pseudonym
          channelLock := some id },
          some (.unsubscribeUser channelId pseudonym))
      else none
  | .unsubscribeUser channelId pseudonym =>
      some ({ manager with
        userSubscriptions := manager.userSubscriptions.erase pseudonym channelId
        channelLock := none }, none)

/-- The call is between its two locks. -/
def HoldsChannels : ConnectionCall → Prop
  | .subscribeUser _ _ => True
  | .unsubscribeUser _ _ => True
  | _ => False

end ConnectionCall

/-- The calls of a connection manager. -/
def connectionProgram :
    Interleaving.Program ConnectionManager ConnectionCall ConnectionRequest Unit where
  enter _ request := .ofRequest request
  act id call _ manager := call.act id manager

/-- The calls of a connection manager in progress. -/
abbrev Connections := Interleaving ConnectionManager ConnectionCall

abbrev ConnectionLabel := Interleaving.Label ConnectionRequest Unit

namespace ConnectionManager

/-- The two maps list the same pairs, and neither has an empty set. -/
structure Inverse (manager : ConnectionManager) : Prop where
  lists : ∀ channelId pseudonym,
    manager.channelSubscriptions.Lists channelId pseudonym ↔
      manager.userSubscriptions.Lists pseudonym channelId
  channels : manager.channelSubscriptions.NonemptySets
  users : manager.userSubscriptions.NonemptySets

end ConnectionManager

end Annex.Server
