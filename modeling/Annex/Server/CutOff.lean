import Annex.Server.AgentVoiceRooms
import Annex.Server.CleanUps
import Annex.Server.SocketTasks

namespace Annex.Server

open Db Interleaving

/-! Users who are cut off. From a completed `disconnect_user` on until the next `add_session`
of the pseudonym, and when that returns, nobody holds a subscription for it, as long as the
subscriptions of the pseudonym do not cross these calls. -/

namespace SocketTasks

/-- The user a `disconnect_user` of which was completed by the step under the number. -/
def disconnected (before after : SocketTasks) (id : Nat) : Option String :=
  match before.calls id, after.calls id with
  | some (.disconnecting pseudonym _), none => some pseudonym
  | _, _ => none

theorem disconnecting_of_disconnected {before after : SocketTasks} {id : Nat} {pseudonym : String}
    (completed : disconnected before after id = some pseudonym) :
    ∃ call, before.calls id = some (.disconnecting pseudonym call) ∧ after.calls id = none := by
  unfold disconnected at completed
  split at completed
  · next user call found gone =>
      cases completed
      exact ⟨call, found, gone⟩
  · cases completed

/-- The user for whom `add_session` returned with the step under the number. -/
def registered (before after : SocketTasks) (id : Nat) : Option String :=
  match before.calls id, after.calls id with
  | some (.registering identity _ _), some (.listening _ _) => some identity.pseudonymId
  | _, _ => none

theorem registering_of_registered {before after : SocketTasks} {id : Nat} {pseudonym : String}
    (returned : registered before after id = some pseudonym) :
    ∃ identity sessionId call, identity.pseudonymId = pseudonym ∧
      before.calls id = some (.registering identity sessionId call) ∧
      ∃ after' sessionId', after.calls id = some (.listening after' sessionId') := by
  unfold registered at returned
  split at returned
  · next identity sessionId call listener session found listening =>
      cases returned
      exact ⟨identity, sessionId, call, rfl, found, listener, session, listening⟩
  · cases returned

/-- A call on the connection manager that is over after a step ended with that step. -/
theorem ended_of_step {Fq Key : Type} {server : VoiceServer Fq Key} {state : SocketTasks}
    {label : SocketLabel} {call : SocketCall} {connection : ConnectionCall}
    {rest : Option SocketCall} (found : state.calls label.id = some call)
    (isConnection : call.connection = some connection)
    (left : (step (socketProgram server) state label).calls label.id = rest)
    (ended : rest.bind SocketCall.connection = none) :
    ∃ input manager, label = .advance label.id input ∧
      connection.Acts label.id state.shared.manager manager none ∧
        connections (step (socketProgram server) state label) =
          ⟨manager, Function.update (connections state).calls label.id none⟩ := by
  have changed : (step (socketProgram server) state label).calls label.id ≠ some call := by
    intro same
    rw [left] at same
    rw [same] at ended
    exact Option.some_ne_none connection (isConnection.symm.trans ended)
  rcases acted_of_changed found changed with ⟨input, after, next, isAdvance, acted, stepped⟩
  rw [stepped] at left ⊢
  have continues : next = rest := (Function.update_self label.id next state.calls).symm.trans left
  rw [continues] at acted ⊢
  rw [connections_update, ended]
  rcases connection_of_act acted with ⟨other, isOther, acts⟩ | ⟨quiet, _, _⟩
  · rw [isConnection, Option.some.injEq] at isOther
    rw [← isOther, ended] at acts
    exact ⟨input, after.manager, isAdvance, ConnectionCall.acts_of_act acts, rfl⟩
  · rw [isConnection] at quiet
    cases quiet

end SocketTasks

/-- The sockets, who is cut off, and for whom `add_session` has just returned. -/
structure SocketHistory where
  tasks : SocketTasks
  cutOff : String → Bool
  returned : Option String

namespace SocketHistory

def start (database : Database) : SocketHistory :=
  ⟨idle (.start database), fun _ => false, none⟩

/-- Who is cut off after a step that completes a `disconnect_user` or an `add_session`. -/
def cut (cutOff : String → Bool) : Option String → Option String → String → Bool
  | some pseudonym, _ => Function.update cutOff pseudonym true
  | none, some pseudonym => Function.update cutOff pseudonym false
  | none, none => cutOff

theorem cutOff_of_cut {cutOff : String → Bool} {disconnected registered : Option String}
    {pseudonym : String} (after : cut cutOff disconnected registered pseudonym = true) :
    disconnected = some pseudonym ∨ cutOff pseudonym = true := by
  cases disconnected with
  | some user =>
      by_cases same : pseudonym = user
      · exact Or.inl (congrArg some same.symm)
      · rw [cut, Function.update_of_ne same] at after
        exact Or.inr after
  | none =>
      cases registered with
      | some user =>
          by_cases same : pseudonym = user
          · rw [cut, same, Function.update_self] at after
            cases after
          · rw [cut, Function.update_of_ne same] at after
            exact Or.inr after
      | none => exact Or.inr after

variable {Fq Key : Type} (server : VoiceServer Fq Key)

/-- The next step, and what it completes. -/
def step (history : SocketHistory) (label : SocketLabel) : SocketHistory :=
  let tasks := Interleaving.step (socketProgram server) history.tasks label
  { tasks
    cutOff := cut history.cutOff (SocketTasks.disconnected history.tasks tasks label.id)
      (SocketTasks.registered history.tasks tasks label.id)
    returned := SocketTasks.registered history.tasks tasks label.id }

/-- Who is cut off holds no subscription, nor does who has just got a new session. -/
def CutsOff (history : SocketHistory) : Prop :=
  ∀ pseudonym, history.cutOff pseudonym = true ∨ history.returned = some pseudonym →
    ¬ history.tasks.shared.manager.Holds pseudonym

end SocketHistory

/-- The call finds no session to clean up after: there is none, or another one. -/
def ConnectionCall.FindsNoSession (manager : ConnectionManager) : ConnectionCall → Prop
  | .disconnectUser pseudonym => manager.sessions pseudonym = none
  | .removeSession pseudonym sessionId => manager.sessions pseudonym ≠ some sessionId
  | _ => False

namespace SocketHistory

/-- The steps under the number do not cross others of the same pseudonym, no subscription of
who is cut off is entered, and a `disconnect_user` that finds no session finds no subscription
either. -/
structure OrderlyStep (history : SocketHistory) (id : Nat) : Prop where
  uncrossed : (SocketTasks.connections history.tasks).Uncrossed (.advance id ())
  subscribes : ∀ call channelId pseudonym, history.tasks.calls id = some call →
    call.connection = some (.subscribe channelId pseudonym) → history.cutOff pseudonym = false
  disconnects : ∀ pseudonym call, history.tasks.calls id = some (.disconnecting pseudonym call) →
    call.FindsNoSession history.tasks.shared.manager →
      (SocketTasks.connections history.tasks).Gone pseudonym

def Orderly (history : SocketHistory) : SocketLabel → Prop
  | .start _ _ => True
  | .advance id _ => history.OrderlyStep id

/-- What holds after every orderly step. -/
structure Held (history : SocketHistory) : Prop where
  sound : Sound (fun _ => True) SocketCall.Sound history.tasks
  cleaningUp : Connections.CleaningUp (SocketTasks.connections history.tasks)
  cutOff : ∀ pseudonym, history.cutOff pseudonym = true →
    (SocketTasks.connections history.tasks).Gone pseudonym
  returned : ∀ pseudonym, history.returned = some pseudonym →
    ¬ history.tasks.shared.manager.Holds pseudonym

theorem Held.cutsOff {history : SocketHistory} (held : Held history) : history.CutsOff := by
  intro pseudonym which
  rcases which with cutOff | returned
  · exact (held.cutOff pseudonym cutOff).1
  · exact held.returned pseudonym returned

theorem held_start (database : Database) : Held (start database) where
  sound := sound_idle trivial
  cleaningUp := Connections.cleaningUp_idle
  cutOff _ cutOff := by cases cutOff
  returned _ returned := by cases returned

section Steps

variable {Fq Key : Type} {server : VoiceServer Fq Key} {history : SocketHistory}
  {label : SocketLabel} {pseudonym : String}

/-- Who is cut off stays without subscriptions. -/
theorem Held.gone_of_cutOff (held : Held history) (orderly : history.Orderly label)
    (cutOff : history.cutOff pseudonym = true) :
    (SocketTasks.connections
      (Interleaving.step (socketProgram server) history.tasks label)).Gone pseudonym := by
  have gone := held.cutOff pseudonym cutOff
  rcases SocketTasks.connections_step label with
    same | ⟨request, starts⟩ | ⟨id, input, isAdvance, advances⟩
  · rw [same]
    exact gone
  · rw [starts]
    exact Connections.gone_step _ _ gone trivial
  · rw [advances]
    apply Connections.gone_step _ _ gone
    intro connection channelId found isSubscribe
    rw [isAdvance] at orderly
    rcases Option.bind_eq_some_iff.mp found with ⟨call, there, isConnection⟩
    rw [isSubscribe] at isConnection
    have free := orderly.subscribes call channelId pseudonym there isConnection
    rw [cutOff] at free
    cases free

/-- Who was disconnected has no subscriptions left. -/
theorem Held.gone_of_disconnected (held : Held history) (orderly : history.Orderly label)
    (completed : SocketTasks.disconnected history.tasks
      (Interleaving.step (socketProgram server) history.tasks label) label.id = some pseudonym) :
    (SocketTasks.connections
      (Interleaving.step (socketProgram server) history.tasks label)).Gone pseudonym := by
  rcases SocketTasks.disconnecting_of_disconnected completed with ⟨connection, found, ended⟩
  rcases SocketTasks.ended_of_step found rfl ended rfl with ⟨input, manager, isAdvance, acts, after⟩
  rw [isAdvance] at orderly
  rw [after]
  have there : (SocketTasks.connections history.tasks).calls label.id = some connection :=
    congrArg (Option.bind · SocketCall.connection) found
  have without (findsNone : connection.FindsNoSession history.tasks.shared.manager)
      (other : ∀ channelId, connection ≠ .subscribe channelId pseudonym) :
      Connections.Gone ⟨manager, Function.update (SocketTasks.connections history.tasks).calls
        label.id none⟩ pseudonym :=
    Connections.gone_of_acts (orderly.disconnects pseudonym connection found findsNone) there acts
      other
  have cleaned (cleans : connection.Cleans pseudonym ∨
      ∃ session, connection = .collectChannels pseudonym session) :=
    held.cleaningUp.gone_of_ended orderly.uncrossed there acts cleans
  rcases held.sound.calls label.id _ found with isDisconnect | removes
  · rw [isDisconnect] at acts without
    generalize ends : none = next at acts
    cases acts with
    | disconnectNone noSession => exact without noSession fun _ => ConnectionCall.noConfusion
    | disconnect => cases ends
  · rcases removes with ⟨sessionId, removes⟩
    cases connection with
    | removeSession user other =>
        generalize ends : none = next at acts
        cases acts with
        | removeStale stale => exact without stale fun _ => ConnectionCall.noConfusion
        | remove => cases ends
    | collectChannels user session =>
        exact cleaned (Or.inr ⟨session, congrArg (ConnectionCall.collectChannels · session)
          removes.1⟩)
    | cleanChannels | cleanUser => exact cleaned (Or.inl removes.1)
    | _ => exact removes.elim

/-- Who has a new session starts without subscriptions. -/
theorem Held.not_holds_of_registered (held : Held history) (orderly : history.Orderly label)
    (returned : SocketTasks.registered history.tasks
      (Interleaving.step (socketProgram server) history.tasks label) label.id = some pseudonym) :
    ¬ (Interleaving.step (socketProgram server) history.tasks label).shared.manager.Holds
      pseudonym := by
  rcases SocketTasks.registering_of_registered returned with
    ⟨identity, sessionId, connection, isUser, found, _, _, listening⟩
  rcases SocketTasks.ended_of_step found rfl listening rfl with
    ⟨input, manager, isAdvance, acts, after⟩
  rw [isAdvance] at orderly
  have there : (SocketTasks.connections history.tasks).calls label.id = some connection :=
    congrArg (Option.bind · SocketCall.connection) found
  have isInsert : connection = .insertSession identity.pseudonymId sessionId :=
    ConnectionCall.registers_of_acts acts (held.sound.calls label.id _ found)
  have cleans : connection.Cleans pseudonym := by
    rw [isInsert]
    exact isUser
  have gone := held.cleaningUp.gone_of_ended orderly.uncrossed there acts (Or.inl cleans)
  rw [← after] at gone
  exact gone.1

theorem Held.cleaningUp_step (held : Held history) (orderly : history.Orderly label) :
    (SocketTasks.connections
      (Interleaving.step (socketProgram server) history.tasks label)).CleaningUp := by
  rcases SocketTasks.connections_step label with
    same | ⟨request, starts⟩ | ⟨id, input, isAdvance, advances⟩
  · rw [same]
    exact held.cleaningUp
  · rw [starts]
    exact Connections.cleaningUp_step _ _ held.cleaningUp trivial
  · rw [isAdvance] at orderly
    rw [advances]
    exact Connections.cleaningUp_step _ _ held.cleaningUp orderly.uncrossed

theorem held_step (history : SocketHistory) (label : SocketLabel) (held : Held history)
    (orderly : history.Orderly label) : Held (history.step server label) := by
  refine ⟨?_, ?_, ?_, ?_⟩
  · exact SocketTasks.sound_step label held.sound
  · exact held.cleaningUp_step orderly
  · intro pseudonym cutOff
    rcases cutOff_of_cut cutOff with completed | before
    · exact held.gone_of_disconnected orderly completed
    · exact held.gone_of_cutOff orderly before
  · intro pseudonym returned
    exact held.not_holds_of_registered orderly returned

end Steps

/-- In an orderly run who is cut off holds no subscription until the next session, which
starts without any. -/
theorem cutOff_of_orderly {Fq Key : Type} {server : VoiceServer Fq Key} {database : Database}
    {labels : List SocketLabel}
    (orderly : Execution.Guarded (step server) Orderly (start database) labels) :
    ∀ history, Execution.Visits (step server) (start database) labels history →
      history.CutsOff := by
  intro history visits
  have held := Execution.visits_invariant_of_guarded Held held_step (held_start database) orderly
    history visits
  exact held.cutsOff

/-- A step next to which no other call on the connection manager is in progress is orderly where
it enters nothing for who is cut off and finds the session it looks for. -/
theorem orderlyStep_of_alone {history : SocketHistory} {id : Nat} {call : SocketCall}
    (found : history.tasks.calls id = some call)
    (alone : ∀ other, other ≠ id → (SocketTasks.connections history.tasks).calls other = none)
    (registers : ∀ pseudonym sessionId, call.connection = some (.addSession pseudonym sessionId) →
      ¬ history.tasks.shared.manager.Holds pseudonym)
    (subscribes : ∀ channelId pseudonym, call.connection = some (.subscribe channelId pseudonym) →
      history.cutOff pseudonym = false)
    (disconnects : ∀ pseudonym connection, call = .disconnecting pseudonym connection →
      ¬ connection.FindsNoSession history.tasks.shared.manager) :
    history.OrderlyStep id := by
  have there : (SocketTasks.connections history.tasks).calls id = call.connection :=
    congrArg (Option.bind · SocketCall.connection) found
  refine ⟨?_, ?_, ?_⟩
  · intro connection same
    have isConnection := there.symm.trans same
    have quiet {property : ConnectionCall → Prop} (without : ¬ property connection) :
        ¬ (SocketTasks.connections history.tasks).Pending property :=
      not_pending_of_only same alone without
    cases connection with
    | subscribe | collectChannels => exact quiet not_false
    | addSession pseudonym sessionId =>
        intro _
        exact ⟨registers pseudonym sessionId isConnection, quiet not_false⟩
    | _ => trivial
  · intro other channelId pseudonym same isSubscribe
    rw [found, Option.some.injEq] at same
    rw [← same] at isSubscribe
    exact subscribes channelId pseudonym isSubscribe
  · intro pseudonym connection same findsNone
    rw [found, Option.some.injEq] at same
    exact absurd findsNone (disconnects pseudonym connection same)

section Sample

open Sockets Voices Execution

/-- The agent opens a socket and subscribes to `a`. -/
def subscribing : List SocketLabel :=
  .start 0 (.open_ roomAgent "first") ::
    List.replicate 5 (.advance 0 ⟨speaking, .subscribe "a"⟩)

/-- The agent is disconnected. -/
def disconnecting : List SocketLabel :=
  .start 1 (.disconnectUser "user") :: List.replicate 5 (.advance 1 ⟨speaking, .other⟩)

theorem cutOff_of_orderly_disconnected :
    (run (step speakingServer) (start twoRooms) (subscribing ++ disconnecting)).cutOff "user" =
        true ∧
      ∀ history, Visits (step speakingServer) (start twoRooms) (subscribing ++ disconnecting)
        history → history.CutsOff := by
  have socket (history : SocketHistory) (others : ∀ other, history.tasks.calls (other + 1) = none) :
      ∀ other, other ≠ 0 → (SocketTasks.connections history.tasks).calls other = none := by
    intro other different
    cases other with
    | zero => exact absurd rfl different
    | succ other => exact congrArg (Option.bind · SocketCall.connection) (others other)
  have request (history : SocketHistory)
      (listening : history.tasks.calls 0 = some (.listening roomAgent "first"))
      (others : ∀ other, history.tasks.calls (other + 2) = none) :
      ∀ other, other ≠ 1 → (SocketTasks.connections history.tasks).calls other = none := by
    intro other different
    match other with
    | 0 => exact congrArg (Option.bind · SocketCall.connection) listening
    | 1 => exact absurd rfl different
    | other + 2 => exact congrArg (Option.bind · SocketCall.connection) (others other)
  refine ⟨by decide +kernel, cutOff_of_orderly ⟨trivial, ?_, ?_, ?_, ?_, ?_, trivial, ?_, ?_, ?_,
    ?_, ?_, trivial⟩⟩
  · refine orderlyStep_of_alone rfl (socket _ fun _ => rfl) ?_ nofun nofun
    intro pseudonym sessionId _ holds
    rcases holds with ⟨channelId, ⟨_, stored, _⟩ | ⟨_, stored, _⟩⟩ <;> cases stored
  · exact orderlyStep_of_alone rfl (socket _ fun _ => rfl) nofun nofun nofun
  · exact orderlyStep_of_alone rfl (socket _ fun _ => rfl) nofun nofun nofun
  · refine orderlyStep_of_alone rfl (socket _ fun _ => rfl) nofun ?_ nofun
    intro channelId pseudonym same
    cases same
    rfl
  · exact orderlyStep_of_alone rfl (socket _ fun _ => rfl) nofun nofun nofun
  · refine orderlyStep_of_alone rfl (request _ rfl fun _ => rfl) nofun nofun ?_
    intro pseudonym connection same noSession
    cases same
    cases noSession
  · refine orderlyStep_of_alone rfl (request _ rfl fun _ => rfl) nofun nofun ?_
    intro pseudonym connection same stale
    cases same
    exact stale rfl
  · refine orderlyStep_of_alone rfl (request _ rfl fun _ => rfl) nofun nofun ?_
    intro pseudonym connection same
    cases same
    exact id
  · refine orderlyStep_of_alone rfl (request _ rfl fun _ => rfl) nofun nofun ?_
    intro pseudonym connection same
    cases same
    exact id
  · refine orderlyStep_of_alone rfl (request _ rfl fun _ => rfl) nofun nofun ?_
    intro pseudonym connection same
    cases same
    exact id

/-- The socket of who was disconnected goes on handling its frames. -/
theorem not_cutOff_while_open :
    ¬ ∀ (server : VoiceServer Unit Unit) (database : Database) (labels : List SocketLabel)
      (history : SocketHistory), Visits (step server) (start database) labels history →
        history.CutsOff := by
  intro cutsOff
  have after := cutsOff speakingServer twoRooms
    (subscribing ++ disconnecting ++ List.replicate 3 (.advance 0 ⟨speaking, .subscribe "b"⟩)) _
    ⟨_, List.prefix_rfl, rfl⟩
  apply after "user" (Or.inl (by decide +kernel))
  exact ⟨"b", Or.inl ⟨_, rfl, Finset.mem_singleton_self _⟩⟩

end Sample

end SocketHistory

end Annex.Server
