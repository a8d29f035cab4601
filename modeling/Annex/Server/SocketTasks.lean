import Annex.Server.AgentVoice
import Annex.Server.ConnectionSteps

namespace Annex.Server

open Channels Db Sql

/-! The WebSockets of a server. A socket registers its session, handles the frames of its client
one after the other until the stream ends, and cleans up. The steps of the sockets, and those of
the requests that disconnect users or let agents join and leave channels, come in any order. -/

/-- What a socket finds on its stream. -/
inductive SocketFrame where
  | subscribe (channelId : String)
  | unsubscribe (channelId : String)
  | voiceIntent (channelId text : String)
  /-- A frame that touches neither the connection manager's maps nor the voice clients. -/
  | other
  | ended
deriving DecidableEq, Repr

structure SocketsState where
  manager : ConnectionManager
  voice : VoiceState

inductive SocketsRequest where
  | open_ (identity : PlatformIdentity) (sessionId : String)
  | disconnectUser (pseudonym : String)
  | join (identity : PlatformIdentity) (channelId : String)
      (header : Option (JsonText ZkProofPayload))
  | leave (identity : PlatformIdentity) (channelId : String)
  /-- A task of another handler on the database. -/
  | elsewhere (change : Database → Database)

/-- Where a socket stands, or what is left of a request. -/
inductive SocketCall where
  | registering (identity : PlatformIdentity) (sessionId : String) (call : ConnectionCall)
  | listening (identity : PlatformIdentity) (sessionId : String)
  | handling (identity : PlatformIdentity) (sessionId : String) (call : ConnectionCall)
  | speaking (identity : PlatformIdentity) (sessionId : String) (call : VoiceCall)
  | removing (identity : PlatformIdentity) (sessionId : String) (call : ConnectionCall)
  | droppingVoice (identity : PlatformIdentity) (sessionId : String)
  | disconnecting (pseudonym : String) (call : ConnectionCall)
  | joining (call : VoiceCall)
  | leave (identity : PlatformIdentity) (channelId : String)
  | leaveRemove (identity : PlatformIdentity) (channelId : String)
  | leaving (call : ConnectionCall)
  | elsewhere (change : Database → Database)

/-- What a step takes from outside: the next frame, and what the tasks and services do. -/
structure SocketInput extends VoiceInput where
  frame : SocketFrame

namespace SocketCall

def ofRequest : SocketsRequest → SocketCall
  | .open_ identity sessionId =>
      .registering identity sessionId (.addSession identity.pseudonymId sessionId)
  | .disconnectUser pseudonym => .disconnecting pseudonym (.disconnectUser pseudonym)
  | .join identity channelId header => .joining (.join identity channelId header)
  | .leave identity channelId => .leave identity channelId
  | .elsewhere change => .elsewhere change

/-- A step on the connection manager, and what follows its last one. -/
def onManager (id : Nat) (call : ConnectionCall) (rest : ConnectionCall → SocketCall)
    (done : Option SocketCall) (state : SocketsState) :
    Option (SocketsState × Option SocketCall) :=
  (call.act id state.manager).map fun (manager, next) =>
    ({ state with manager }, (next.map rest).or done)

variable {Fq Key : Type} (server : VoiceServer Fq Key)

/-- A step on the voice clients, and what follows its last one. -/
def onVoice (input : SocketInput) (call : VoiceCall) (rest : VoiceCall → SocketCall)
    (done : Option SocketCall) (state : SocketsState) :
    Option (SocketsState × Option SocketCall) :=
  (call.act server state.voice input.toVoiceInput).map fun (voice, next) =>
    ({ state with voice }, (next.map rest).or done)

/-- What a socket does with a frame. -/
def handle (identity : PlatformIdentity) (sessionId : String) (input : SocketInput)
    (state : SocketsState) : SocketCall :=
  match input.frame with
  | .subscribe channelId =>
      match (checkWsMembership server.serverId channelId identity.pseudonymId
          ⟨state.voice.database, [], input.faults⟩ : Except String MembershipResult × _).1 with
      | .ok .allowed =>
          .handling identity sessionId (.subscribe channelId identity.pseudonymId)
      | _ => .listening identity sessionId
  | .unsubscribe channelId =>
      .handling identity sessionId (.unsubscribe channelId identity.pseudonymId)
  | .voiceIntent channelId text =>
      .speaking identity sessionId (.voiceIntent identity channelId text)
  | .other => .listening identity sessionId
  | .ended => .removing identity sessionId (.removeSession identity.pseudonymId sessionId)

/-- The next step of a socket or a request. -/
def act (id : Nat) (state : SocketsState) (input : SocketInput) :
    SocketCall → Option (SocketsState × Option SocketCall)
  | .registering identity sessionId call =>
      onManager id call (.registering identity sessionId)
        (some (.listening identity sessionId)) state
  | .listening identity sessionId =>
      some (state, some (handle server identity sessionId input state))
  | .handling identity sessionId call =>
      onManager id call (.handling identity sessionId)
        (some (.listening identity sessionId)) state
  | .speaking identity sessionId call =>
      onVoice server input call (.speaking identity sessionId)
        (some (.listening identity sessionId)) state
  | .removing identity sessionId call =>
      -- The voice client of the pseudonym is dropped whether the session was removed or not.
      onManager id call (.removing identity sessionId)
        (some (.droppingVoice identity sessionId)) state
  | .droppingVoice identity _ =>
      onVoice server input (.socketEnd identity.pseudonymId) .joining none state
  | .disconnecting pseudonym call => onManager id call (.disconnecting pseudonym) none state
  | .joining call => onVoice server input call .joining none state
  | .leave identity channelId =>
      match (leaveFetch server.socket channelId
          ⟨state.voice.database, [], input.faults⟩).1 with
      | .ok _ => some (state, some (.leaveRemove identity channelId))
      | .error _ => some (state, none)
  | .leaveRemove identity channelId =>
      let (result, session) := Server.leaveRemove server.socket identity channelId
        ⟨state.voice.database, [], input.faults⟩
      let after := { state with voice := { state.voice with database := session.database } }
      match result with
      | .ok () => some (after, some (.leaving (.unsubscribe channelId identity.pseudonymId)))
      | .error _ => some (after, none)
  | .leaving call => onManager id call .leaving none state
  | .elsewhere change =>
      some ({ state with
        voice := { state.voice with database := change state.voice.database } }, none)

/-- The call on the connection manager that is in progress. -/
def connection : SocketCall → Option ConnectionCall
  | .registering _ _ call => some call
  | .handling _ _ call => some call
  | .removing _ _ call => some call
  | .disconnecting _ call => some call
  | .leaving call => some call
  | _ => none

end SocketCall

/-- The sockets and requests of a server. -/
def socketProgram {Fq Key : Type} (server : VoiceServer Fq Key) :
    Interleaving.Program SocketsState SocketCall SocketsRequest SocketInput where
  enter _ request := .ofRequest request
  act id call input state := call.act server id state input

/-- The sockets and requests of a server in progress. -/
abbrev SocketTasks := Interleaving SocketsState SocketCall

abbrev SocketLabel := Interleaving.Label SocketsRequest SocketInput

def SocketsState.start (database : Database) : SocketsState := ⟨.new, .start database⟩

namespace SocketCall

/-- The inner call belongs to what the socket or request is doing. -/
def Sound : SocketCall → Prop
  | .registering identity sessionId call => call.Registers identity.pseudonymId sessionId
  | .removing identity sessionId call => call.Removes identity.pseudonymId sessionId
  | .disconnecting pseudonym call =>
      call = .disconnectUser pseudonym ∨ ∃ sessionId, call.Removes pseudonym sessionId
  | _ => True

theorem sound_ofRequest (request : SocketsRequest) : (SocketCall.ofRequest request).Sound := by
  cases request with
  | open_ => exact ⟨rfl, rfl⟩
  | disconnectUser => exact Or.inl rfl
  | join | leave | elsewhere => trivial

section Sound

variable {Fq Key : Type} {server : VoiceServer Fq Key} {id : Nat} {call rest : SocketCall}
  {shared after : SocketsState} {next : Option SocketCall} {input : SocketInput}

/-- What follows a step on the connection manager is the rest of the call, or what comes after
its last one. -/
theorem acts_of_onManager {connection : ConnectionCall} {goesOn : ConnectionCall → SocketCall}
    {done : Option SocketCall} (acted : onManager id connection goesOn done shared =
      some (after, next)) :
    ∃ left, connection.Acts id shared.manager after.manager left ∧
      next = (left.map goesOn).or done := by
  rcases Option.map_eq_some_iff.mp acted with ⟨⟨manager, left⟩, onConnection, same⟩
  rw [Prod.mk.injEq] at same
  rw [← same.1, ← same.2]
  exact ⟨left, ConnectionCall.acts_of_act onConnection, rfl⟩

theorem next_of_onVoice {voice : VoiceCall} {goesOn : VoiceCall → SocketCall}
    {done : Option SocketCall}
    (acted : onVoice server input voice goesOn done shared = some (after, next)) :
    ∃ left : Option VoiceCall, next = (left.map goesOn).or done := by
  rcases Option.map_eq_some_iff.mp acted with ⟨outcome, _, same⟩
  rw [Prod.mk.injEq] at same
  exact ⟨outcome.2, same.2.symm⟩

theorem sound_handle (identity : PlatformIdentity) (sessionId : String) :
    (handle server identity sessionId input shared).Sound := by
  unfold handle
  split
  · split <;> trivial
  · trivial
  · trivial
  · trivial
  · exact ⟨rfl, rfl⟩

/-- The steps of a socket or request go on with what it is doing. -/
theorem sound_of_act (sound : call.Sound)
    (acted : call.act server id shared input = some (after, next)) (continues : next = some rest) :
    rest.Sound := by
  cases call with
  | registering identity sessionId connection =>
      rcases acts_of_onManager acted with ⟨left, acts, same⟩
      have registers := ConnectionCall.registers_of_acts acts sound
      rw [same] at continues
      cases left with
      | some left =>
          cases continues
          exact registers
      | none =>
          cases continues
          trivial
  | removing identity sessionId connection =>
      rcases acts_of_onManager acted with ⟨left, acts, same⟩
      have removes := ConnectionCall.removes_of_acts acts sound
      rw [same] at continues
      cases left with
      | some left =>
          cases continues
          exact removes left rfl
      | none =>
          cases continues
          trivial
  | disconnecting pseudonym connection =>
      rcases acts_of_onManager acted with ⟨left, acts, same⟩
      rw [same] at continues
      cases left with
      | none => cases continues
      | some left =>
          cases continues
          rcases sound with isDisconnect | removes
          · rw [isDisconnect] at acts
            exact Or.inr (ConnectionCall.removes_of_disconnect acts left rfl)
          · rcases removes with ⟨sessionId, removes⟩
            exact Or.inr ⟨sessionId, ConnectionCall.removes_of_acts acts removes left rfl⟩
  | listening identity sessionId =>
      cases acted
      cases continues
      exact sound_handle identity sessionId
  | handling identity sessionId connection =>
      rcases acts_of_onManager acted with ⟨left, _, same⟩
      rw [same] at continues
      cases left <;> cases continues <;> trivial
  | leaving connection =>
      rcases acts_of_onManager acted with ⟨left, _, same⟩
      rw [same] at continues
      cases left <;> cases continues
      trivial
  | speaking identity sessionId voice =>
      rcases next_of_onVoice acted with ⟨left, same⟩
      rw [same] at continues
      cases left <;> cases continues <;> trivial
  | droppingVoice | joining =>
      rcases next_of_onVoice acted with ⟨left, same⟩
      rw [same] at continues
      cases left <;> cases continues
      trivial
  | leave identity channelId =>
      rw [act] at acted
      split at acted <;> cases acted <;> cases continues
      trivial
  | leaveRemove identity channelId =>
      rw [act] at acted
      dsimp only at acted
      split at acted <;> cases acted <;> cases continues
      trivial
  | elsewhere change =>
      cases acted
      cases continues

end Sound

end SocketCall

namespace SocketTasks

open Interleaving

/-- The calls on the connection manager alone. -/
def connections (state : SocketTasks) : Connections :=
  ⟨state.shared.manager, fun id => (state.calls id).bind SocketCall.connection⟩

section View

variable {Fq Key : Type} {server : VoiceServer Fq Key} {state : SocketTasks} {id : Nat}
  {shared after : SocketsState} {call : SocketCall} {next : Option SocketCall}
  {input : SocketInput}

/-- What a socket or request is doing, it goes on with. -/
theorem sound_step (label : SocketLabel)
    (sound : Sound (fun _ => True) SocketCall.Sound state) :
    Sound (fun _ => True) SocketCall.Sound (step (socketProgram server) state label) := by
  refine @Interleaving.sound_step _ _ _ _ (socketProgram server) (fun _ _ => True) _ _ ?_ ?_ state
    label sound trivial
  · intro _ request
    exact SocketCall.sound_ofRequest request
  · intro tasks id call input shared next sound found acted _
    exact ⟨trivial, fun rest => SocketCall.sound_of_act (sound.calls id call found) acted⟩

theorem connections_update :
    connections ⟨shared, Function.update state.calls id next⟩ =
      ⟨shared.manager,
        Function.update (connections state).calls id (next.bind SocketCall.connection)⟩ := by
  unfold connections
  congr
  funext other
  exact Function.apply_update (fun _ call => Option.bind call SocketCall.connection) state.calls
    id next other

theorem connection_of_onManager {connection : ConnectionCall}
    {rest : ConnectionCall → SocketCall} {done : Option SocketCall}
    (carries : ∀ call, (rest call).connection = some call)
    (ends : done.bind SocketCall.connection = none)
    (acted : SocketCall.onManager id connection rest done shared = some (after, next)) :
    connection.act id shared.manager =
      some (after.manager, next.bind SocketCall.connection) := by
  rcases Option.map_eq_some_iff.mp acted with ⟨⟨manager, left⟩, onConnection, same⟩
  rw [Prod.mk.injEq] at same
  rw [onConnection, ← same.1, ← same.2]
  cases left with
  | none => exact congrArg (fun rest => some (manager, rest)) ends.symm
  | some call => exact congrArg (fun rest => some (manager, rest)) (carries call).symm

theorem manager_of_onVoice {voice : VoiceCall} {rest : VoiceCall → SocketCall}
    {done : Option SocketCall} (carries : ∀ call, (rest call).connection = none)
    (ends : done.bind SocketCall.connection = none)
    (acted : SocketCall.onVoice server input voice rest done shared = some (after, next)) :
    after.manager = shared.manager ∧ next.bind SocketCall.connection = none := by
  rcases Option.map_eq_some_iff.mp acted with ⟨outcome, _, same⟩
  rw [Prod.mk.injEq] at same
  rw [← same.1, ← same.2]
  cases outcome.2 with
  | none => exact ⟨rfl, ends⟩
  | some call => exact ⟨rfl, carries call⟩

/-- A step is one of the call on the connection manager, or leaves the manager alone and at most
begins such a call. -/
theorem connection_of_act (acted : call.act server id shared input = some (after, next)) :
    (∃ connection, call.connection = some connection ∧
      connection.act id shared.manager =
        some (after.manager, next.bind SocketCall.connection)) ∨
    call.connection = none ∧ after.manager = shared.manager ∧
      ∀ connection, next.bind SocketCall.connection = some connection →
        ∃ request, connection = .ofRequest request := by
  have silent (quiet : call.connection = none) (kept : after.manager = shared.manager ∧
      next.bind SocketCall.connection = none) :
      call.connection = none ∧ after.manager = shared.manager ∧
        ∀ connection, next.bind SocketCall.connection = some connection →
          ∃ request, connection = .ofRequest request := by
    refine ⟨quiet, kept.1, ?_⟩
    intro connection begins
    rw [kept.2] at begins
    cases begins
  cases call with
  | registering | handling | removing | disconnecting | leaving =>
      exact Or.inl ⟨_, rfl, connection_of_onManager (fun _ => rfl) rfl acted⟩
  | speaking | droppingVoice | joining =>
      exact Or.inr (silent rfl (manager_of_onVoice (fun _ => rfl) rfl acted))
  | listening identity sessionId =>
      cases acted
      refine Or.inr ⟨rfl, rfl, ?_⟩
      intro connection begins
      unfold SocketCall.handle at begins
      split at begins
      · split at begins
        · cases begins
          exact ⟨.subscribe _ _, rfl⟩
        · cases begins
      · cases begins
        exact ⟨.unsubscribe _ _, rfl⟩
      · cases begins
      · cases begins
      · cases begins
        exact ⟨.removeSession _ _, rfl⟩
  | leave identity channelId =>
      rw [SocketCall.act] at acted
      split at acted <;> cases acted <;> exact Or.inr (silent rfl ⟨rfl, rfl⟩)
  | leaveRemove identity channelId =>
      rw [SocketCall.act] at acted
      dsimp only at acted
      split at acted
      · cases acted
        refine Or.inr ⟨rfl, rfl, ?_⟩
        intro connection begins
        cases begins
        exact ⟨.unsubscribe _ _, rfl⟩
      · cases acted
        exact Or.inr (silent rfl ⟨rfl, rfl⟩)
  | elsewhere change =>
      cases acted
      exact Or.inr (silent rfl ⟨rfl, rfl⟩)

/-- Where no call is in progress under a number, one begins there or nothing happens. -/
theorem begins_or_same {connections : Connections} {begins : Option ConnectionCall}
    (free : connections.calls id = none)
    (request : ∀ call, begins = some call → ∃ request, call = .ofRequest request) :
    (⟨connections.shared, Function.update connections.calls id begins⟩ : Connections) =
        connections ∨
      ∃ request, (⟨connections.shared, Function.update connections.calls id begins⟩ :
        Connections) = step connectionProgram connections (.start id request) := by
  cases begins with
  | none =>
      rw [← free, Function.update_eq_self]
      exact Or.inl rfl
  | some call =>
      rcases request call rfl with ⟨request, same⟩
      right
      refine ⟨request, ?_⟩
      rw [step, free, same]
      rfl

/-- A step of the sockets is one of the calls on the connection manager, or none of them. -/
theorem connections_step (label : SocketLabel) :
    connections (step (socketProgram server) state label) = connections state ∨
      (∃ request, connections (step (socketProgram server) state label) =
        step connectionProgram (connections state) (.start label.id request)) ∨
      ∃ id input, label = .advance id input ∧
        connections (step (socketProgram server) state label) =
          step connectionProgram (connections state) (.advance id ()) := by
  cases label with
  | start id request =>
      cases found : state.calls id with
      | some call =>
          rw [step, found]
          exact Or.inl rfl
      | none =>
          have free : (connections state).calls id = none :=
            congrArg (Option.bind · SocketCall.connection) found
          rw [step, found]
          dsimp only
          rw [connections_update]
          have asked : ∀ call, Option.bind (some (SocketCall.ofRequest request))
              SocketCall.connection = some call → ∃ request, call = .ofRequest request := by
            intro call begins
            cases request with
            | open_ identity sessionId =>
                cases begins
                exact ⟨.addSession _ _, rfl⟩
            | disconnectUser pseudonym =>
                cases begins
                exact ⟨.disconnectUser _, rfl⟩
            | join | leave | elsewhere => cases begins
          exact (begins_or_same free asked).imp_right Or.inl
  | advance id input =>
      cases found : state.calls id with
      | none =>
          rw [step, found]
          exact Or.inl rfl
      | some call =>
          have there : (connections state).calls id = call.connection :=
            congrArg (Option.bind · SocketCall.connection) found
          cases acted : (socketProgram server).act id call input state.shared with
          | none =>
              rw [step, found]
              dsimp only
              rw [acted]
              exact Or.inl rfl
          | some outcome =>
              rw [step, found]
              dsimp only
              rw [acted]
              dsimp only
              rw [connections_update]
              rcases connection_of_act acted with
                ⟨connection, isConnection, acts⟩ | ⟨quiet, kept, request⟩
              · rw [isConnection] at there
                have goesOn : connectionProgram.act id connection () (connections state).shared =
                  some (outcome.1.manager, outcome.2.bind SocketCall.connection) := acts
                have stepped : step connectionProgram (connections state) (.advance id ()) =
                    ⟨outcome.1.manager, Function.update (connections state).calls id
                      (outcome.2.bind SocketCall.connection)⟩ := by
                  rw [step, there]
                  dsimp only
                  rw [goesOn]
                exact Or.inr (Or.inr ⟨id, input, rfl, stepped.symm⟩)
              · rw [quiet] at there
                rw [kept]
                exact (begins_or_same there request).imp_right Or.inl

end View

end SocketTasks

end Annex.Server
