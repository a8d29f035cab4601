import Annex.Server.Connections

namespace Annex.Server

/-! What a step of a call on the connection manager can do. -/

namespace ConnectionCall

/-- The steps, each with what it finds, what it leaves and how the call goes on. -/
inductive Acts (id : Nat) (manager : ConnectionManager) :
    ConnectionCall → ConnectionManager → Option ConnectionCall → Prop where
  | addPrevious {pseudonym sessionId previous : String}
      (found : manager.sessions pseudonym = some previous) :
      Acts id manager (.addSession pseudonym sessionId) manager
        (some (.collectChannels pseudonym (some sessionId)))
  | addFirst {pseudonym sessionId : String} (found : manager.sessions pseudonym = none) :
      Acts id manager (.addSession pseudonym sessionId) manager
        (some (.insertSession pseudonym sessionId))
  | collect {pseudonym : String} {session : Option String} {channels : Finset String}
      (found : manager.userSubscriptions pseudonym = some channels) :
      Acts id manager (.collectChannels pseudonym session) manager
        (some (.cleanChannels pseudonym channels session))
  | collectNone {pseudonym : String} {session : Option String}
      (found : manager.userSubscriptions pseudonym = none) :
      Acts id manager (.collectChannels pseudonym session) manager (cleaned pseudonym session)
  | cleanChannels {pseudonym : String} {channels : Finset String} {session : Option String}
      (free : manager.channelLock = none) :
      Acts id manager (.cleanChannels pseudonym channels session)
        { manager with
          channelSubscriptions := manager.channelSubscriptions.eraseAll channels pseudonym }
        (some (.cleanUser pseudonym session))
  | cleanUser {pseudonym : String} {session : Option String} :
      Acts id manager (.cleanUser pseudonym session)
        { manager with userSubscriptions := manager.userSubscriptions.remove pseudonym }
        (cleaned pseudonym session)
  | insertSession {pseudonym sessionId : String} :
      Acts id manager (.insertSession pseudonym sessionId)
        { manager with
          sessions := Function.update manager.sessions pseudonym (some sessionId) } none
  | disconnect {pseudonym sessionId : String}
      (found : manager.sessions pseudonym = some sessionId) :
      Acts id manager (.disconnectUser pseudonym) manager
        (some (.removeSession pseudonym sessionId))
  | disconnectNone {pseudonym : String} (found : manager.sessions pseudonym = none) :
      Acts id manager (.disconnectUser pseudonym) manager none
  | remove {pseudonym sessionId : String}
      (found : manager.sessions pseudonym = some sessionId) :
      Acts id manager (.removeSession pseudonym sessionId)
        { manager with sessions := Function.update manager.sessions pseudonym none }
        (some (.collectChannels pseudonym none))
  | removeStale {pseudonym sessionId : String}
      (stale : manager.sessions pseudonym ≠ some sessionId) :
      Acts id manager (.removeSession pseudonym sessionId) manager none
  | subscribe {channelId pseudonym : String} (free : manager.channelLock = none) :
      Acts id manager (.subscribe channelId pseudonym)
        { manager with
          channelSubscriptions := manager.channelSubscriptions.insert channelId pseudonym
          channelLock := some id }
        (some (.subscribeUser channelId pseudonym))
  | subscribeUser {channelId pseudonym : String} :
      Acts id manager (.subscribeUser channelId pseudonym)
        { manager with
          userSubscriptions := manager.userSubscriptions.insert pseudonym channelId
          channelLock := none } none
  | unsubscribe {channelId pseudonym : String} (free : manager.channelLock = none) :
      Acts id manager (.unsubscribe channelId pseudonym)
        { manager with
          channelSubscriptions := manager.channelSubscriptions.erase channelId pseudonym
          channelLock := some id }
        (some (.unsubscribeUser channelId pseudonym))
  | unsubscribeUser {channelId pseudonym : String} :
      Acts id manager (.unsubscribeUser channelId pseudonym)
        { manager with
          userSubscriptions := manager.userSubscriptions.erase pseudonym channelId
          channelLock := none } none

section Acts

variable {id : Nat} {call : ConnectionCall} {manager after : ConnectionManager}
  {next : Option ConnectionCall} {channelId pseudonym : String}

theorem acts_of_act (acted : call.act id manager = some (after, next)) :
    Acts id manager call after next := by
  cases call with
  | addSession pseudonym sessionId =>
      rw [act] at acted
      split at acted
      · next found =>
          cases acted
          exact .addPrevious found
      · next found =>
          cases acted
          exact .addFirst found
  | collectChannels pseudonym session =>
      rw [act] at acted
      split at acted
      · next found =>
          cases acted
          exact .collect found
      · next found =>
          cases acted
          exact .collectNone found
  | cleanChannels pseudonym channels session =>
      rw [act] at acted
      split at acted
      · next free =>
          cases acted
          exact .cleanChannels free
      · cases acted
  | cleanUser pseudonym session =>
      cases acted
      exact .cleanUser
  | insertSession pseudonym sessionId =>
      cases acted
      exact .insertSession
  | disconnectUser pseudonym =>
      cases found : manager.sessions pseudonym with
      | none =>
          rw [act, found] at acted
          cases acted
          exact .disconnectNone found
      | some sessionId =>
          rw [act, found] at acted
          cases acted
          exact .disconnect found
  | removeSession pseudonym sessionId =>
      rw [act] at acted
      split at acted
      · next found =>
          cases acted
          exact .remove found
      · next stale =>
          cases acted
          exact .removeStale stale
  | subscribe channelId pseudonym =>
      rw [act] at acted
      split at acted
      · next free =>
          cases acted
          exact .subscribe free
      · cases acted
  | subscribeUser channelId pseudonym =>
      cases acted
      exact .subscribeUser
  | unsubscribe channelId pseudonym =>
      rw [act] at acted
      split at acted
      · next free =>
          cases acted
          exact .unsubscribe free
      · cases acted
  | unsubscribeUser channelId pseudonym =>
      cases acted
      exact .unsubscribeUser

/-- Only `subscribe` adds to the channels' subscriptions. -/
theorem lists_of_acts (acts : Acts id manager call after next)
    (listed : after.channelSubscriptions.Lists channelId pseudonym) :
    manager.channelSubscriptions.Lists channelId pseudonym ∨
      call = .subscribe channelId pseudonym := by
  cases acts with
  | cleanChannels => exact Or.inl (SetMap.lists_eraseAll.mp listed).1
  | unsubscribe => exact Or.inl (SetMap.lists_erase.mp listed).1
  | subscribe =>
      rcases SetMap.lists_insert.mp listed with same | before
      · rw [same.1, same.2]
        exact Or.inr rfl
      · exact Or.inl before
  | _ => exact Or.inl listed

/-- Only its second step adds to the users' subscriptions. -/
theorem userLists_of_acts (acts : Acts id manager call after next)
    (listed : after.userSubscriptions.Lists pseudonym channelId) :
    manager.userSubscriptions.Lists pseudonym channelId ∨
      call = .subscribeUser channelId pseudonym := by
  cases acts with
  | cleanUser => exact Or.inl (SetMap.lists_remove.mp listed).1
  | unsubscribeUser => exact Or.inl (SetMap.lists_erase.mp listed).1
  | subscribeUser =>
      rcases SetMap.lists_insert.mp listed with same | before
      · rw [same.1, same.2]
        exact Or.inr rfl
      · exact Or.inl before
  | _ => exact Or.inl listed

/-- Sessions are removed, and entered by the insertion alone. -/
theorem sessions_of_acts (acts : Acts id manager call after next) (pseudonym : String) :
    after.sessions pseudonym = manager.sessions pseudonym ∨ after.sessions pseudonym = none ∨
      ∃ sessionId, call = .insertSession pseudonym sessionId := by
  cases acts with
  | @insertSession user sessionId =>
      by_cases same : pseudonym = user
      · rw [same]
        exact Or.inr (Or.inr ⟨sessionId, rfl⟩)
      · exact Or.inl (Function.update_of_ne same _ _)
  | @remove user sessionId found =>
      by_cases same : pseudonym = user
      · rw [same]
        exact Or.inr (Or.inl (Function.update_self _ _ _))
      · exact Or.inl (Function.update_of_ne same _ _)
  | _ => exact Or.inl rfl

end Acts

/-- The call is that of an `add_session` of the session. -/
def Registers (pseudonym sessionId : String) : ConnectionCall → Prop
  | .addSession user id => user = pseudonym ∧ id = sessionId
  | .collectChannels user session => user = pseudonym ∧ session = some sessionId
  | .cleanChannels user _ session => user = pseudonym ∧ session = some sessionId
  | .cleanUser user session => user = pseudonym ∧ session = some sessionId
  | .insertSession user id => user = pseudonym ∧ id = sessionId
  | _ => False

/-- The call is that of a `remove_session` of the session. -/
def Removes (pseudonym sessionId : String) : ConnectionCall → Prop
  | .removeSession user id => user = pseudonym ∧ id = sessionId
  | .collectChannels user session => user = pseudonym ∧ session = none
  | .cleanChannels user _ session => user = pseudonym ∧ session = none
  | .cleanUser user session => user = pseudonym ∧ session = none
  | _ => False

section Kinds

variable {id : Nat} {call : ConnectionCall} {manager after : ConnectionManager}
  {next : Option ConnectionCall} {pseudonym sessionId : String}

/-- An `add_session` ends with the insertion of its session. -/
theorem registers_of_acts (acts : Acts id manager call after next)
    (registers : call.Registers pseudonym sessionId) :
    match next with
    | some rest => rest.Registers pseudonym sessionId
    | none => call = .insertSession pseudonym sessionId := by
  cases acts with
  | addPrevious => exact ⟨registers.1, congrArg some registers.2⟩
  | addFirst | collect | cleanChannels => exact registers
  | collectNone | cleanUser =>
      rcases registers with ⟨isUser, isSession⟩
      rw [isSession]
      exact ⟨isUser, rfl⟩
  | insertSession =>
      rcases registers with ⟨isUser, isSession⟩
      rw [isUser, isSession]
  | _ => exact registers.elim

theorem removes_of_disconnect (acts : Acts id manager (.disconnectUser pseudonym) after next) :
    ∀ rest, next = some rest → ∃ sessionId, rest.Removes pseudonym sessionId := by
  intro rest continues
  cases acts with
  | disconnect =>
      cases continues
      exact ⟨_, rfl, rfl⟩
  | disconnectNone => cases continues

theorem removes_of_acts (acts : Acts id manager call after next)
    (removes : call.Removes pseudonym sessionId) :
    ∀ rest, next = some rest → rest.Removes pseudonym sessionId := by
  intro rest continues
  cases acts with
  | remove =>
      cases continues
      exact ⟨removes.1, rfl⟩
  | collect | cleanChannels =>
      cases continues
      exact removes
  | collectNone | cleanUser =>
      rw [removes.2] at continues
      cases continues
  | removeStale => cases continues
  | _ => exact removes.elim

end Kinds

end ConnectionCall

end Annex.Server
