import Annex.Server.AgentVoiceRooms
import Annex.Server.SocketTasks

namespace Annex.Server

open Db Interleaving

/-! Sockets that were replaced: the stream of one has ended, and its pseudonym has the session
of another. What the clean-up of the first takes away from the other. -/

/-- A step leaves the session entry, the subscriptions and the voice client of a pseudonym. -/
structure Untouched (pseudonym : String) (before after : SocketsState) : Prop where
  session : after.manager.sessions pseudonym = before.manager.sessions pseudonym
  channels : ∀ channelId, after.manager.channelSubscriptions.Lists channelId pseudonym ↔
    before.manager.channelSubscriptions.Lists channelId pseudonym
  user : after.manager.userSubscriptions pseudonym = before.manager.userSubscriptions pseudonym
  voice : after.voice.voiceSessions pseudonym = before.voice.voiceSessions pseudonym

theorem Untouched.refl (pseudonym : String) (state : SocketsState) :
    Untouched pseudonym state state := ⟨rfl, fun _ => Iff.rfl, rfl, rfl⟩

namespace SocketCall

/-- The stream of the socket has ended, and its clean-up is in progress. -/
def Ended (pseudonym sessionId : String) : SocketCall → Prop
  | .removing identity session _ => identity.pseudonymId = pseudonym ∧ session = sessionId
  | .droppingVoice identity session => identity.pseudonymId = pseudonym ∧ session = sessionId
  | _ => False

/-- The socket has removed its session and goes on with the subscriptions. -/
def Clears (pseudonym : String) : SocketCall → Prop
  | .removing _ _ (.removeSession _ _) => False
  | .removing identity _ _ => identity.pseudonymId = pseudonym
  | _ => False

/-- The next step of a clean-up finds nothing of the pseudonym to remove. -/
def FindsNothing (state : SocketsState) : SocketCall → Prop
  | .removing _ _ (.cleanChannels pseudonym channels _) => state.manager.channelLock = none →
      ∀ channelId ∈ channels, ¬ state.manager.channelSubscriptions.Lists channelId pseudonym
  | .removing _ _ (.cleanUser pseudonym _) => state.manager.userSubscriptions pseudonym = none
  | .droppingVoice identity _ => state.voice.voiceSessions identity.pseudonymId = none
  | _ => True

section Acts

variable {Fq Key : Type} {server : VoiceServer Fq Key} {id : Nat} {call : SocketCall}
  {shared after : SocketsState} {next : Option SocketCall} {input : SocketInput}
  {identity : PlatformIdentity} {sessionId pseudonym successor : String}

theorem untouched_iff_of_removing {connection : ConnectionCall}
    (sound : connection.Removes pseudonym sessionId)
    (session : shared.manager.sessions pseudonym = some successor) (other : successor ≠ sessionId)
    (acted : act server id shared input (.removing identity sessionId connection) =
      some (after, next)) :
    Untouched pseudonym shared after ↔
      FindsNothing shared (.removing identity sessionId connection) := by
  rcases Option.map_eq_some_iff.mp acted with ⟨⟨manager, rest⟩, onConnection, same⟩
  rw [Prod.mk.injEq] at same
  rw [← same.1]
  have acts := ConnectionCall.acts_of_act onConnection
  cases acts with
  | removeStale | collect | collectNone =>
      exact iff_of_true (Untouched.refl pseudonym shared) trivial
  | remove found =>
      rw [sound.1, sound.2, session, Option.some.injEq] at found
      exact absurd found other
  | @cleanChannels user channels _ free =>
      rw [sound.1]
      constructor
      · intro untouched _ channelId member listed
        have after := (untouched.channels channelId).mpr listed
        exact (SetMap.lists_eraseAll.mp after).2 ⟨member, rfl⟩
      · intro nothing
        refine ⟨rfl, ?_, rfl, rfl⟩
        intro channelId
        rw [SetMap.lists_eraseAll]
        constructor
        · exact And.left
        · intro listed
          exact ⟨listed, fun inside => nothing free channelId inside.1 listed⟩
  | @cleanUser user _ =>
      rw [sound.1]
      have removed : shared.manager.userSubscriptions.remove pseudonym pseudonym = none :=
        if_pos rfl
      constructor
      · intro untouched
        exact untouched.user.symm.trans removed
      · intro none
        exact ⟨rfl, fun _ => Iff.rfl, removed.trans none.symm, rfl⟩
  | _ => exact sound.elim

theorem untouched_iff_of_droppingVoice (isUser : identity.pseudonymId = pseudonym)
    (acted : act server id shared input (.droppingVoice identity sessionId) =
      some (after, next)) :
    Untouched pseudonym shared after ↔
      FindsNothing shared (.droppingVoice identity sessionId) := by
  cases acted
  have removed : Function.update shared.voice.voiceSessions identity.pseudonymId none pseudonym =
      none := by
    rw [isUser]
    exact Function.update_self _ _ _
  constructor
  · intro untouched
    rw [FindsNothing, isUser]
    exact untouched.voice.symm.trans removed
  · intro nothing
    rw [FindsNothing, isUser] at nothing
    exact ⟨rfl, fun _ => Iff.rfl, rfl, removed.trans nothing.symm⟩

/-- The clean-up of a replaced socket leaves its successor as it is just where it finds
nothing. -/
theorem untouched_iff (sound : call.Sound) (ended : call.Ended pseudonym sessionId)
    (session : shared.manager.sessions pseudonym = some successor) (other : successor ≠ sessionId)
    (acted : call.act server id shared input = some (after, next)) :
    Untouched pseudonym shared after ↔ call.FindsNothing shared := by
  cases call with
  | removing identity own connection =>
      rcases ended with ⟨isUser, isSession⟩
      rw [← isSession] at other
      have removes : connection.Removes pseudonym own := isUser ▸ sound
      exact untouched_iff_of_removing removes session other acted
  | droppingVoice identity own => exact untouched_iff_of_droppingVoice ended.1 acted
  | _ => exact ended.elim

/-- A clean-up waits for the channel lock alone. -/
theorem findsNothing_of_waits (ended : call.Ended pseudonym sessionId)
    (waits : call.act server id shared input = none) : call.FindsNothing shared := by
  cases call with
  | removing identity own connection =>
      cases connection with
      | cleanChannels user channels session =>
          intro free
          have waits := Option.map_eq_none_iff.mp waits
          rw [ConnectionCall.act, if_pos free] at waits
          cases waits
      | cleanUser => cases waits
      | _ => trivial
  | droppingVoice => cases waits
  | _ => exact ended.elim

end Acts

end SocketCall

namespace SocketTasks

/-- The socket is at its clean-up, and its pseudonym has the session of a successor. -/
def Replaced (state : SocketTasks) (id : Nat) (call : SocketCall) (pseudonym : String) : Prop :=
  state.calls id = some call ∧ ∃ sessionId successor, call.Ended pseudonym sessionId ∧
    state.shared.manager.sessions pseudonym = some successor ∧ successor ≠ sessionId

/-- The step of a replaced socket leaves its successor as it is. -/
def SuccessorKept {Fq Key : Type} (server : VoiceServer Fq Key) (state : SocketTasks) :
    SocketLabel → Prop
  | .start _ _ => True
  | .advance id input => ∀ call pseudonym, state.Replaced id call pseudonym →
      Untouched pseudonym state.shared
        (step (socketProgram server) state (.advance id input)).shared

/-- The step of a replaced socket finds nothing of its pseudonym to remove. -/
def NothingToRemove (state : SocketTasks) : SocketLabel → Prop
  | .start _ _ => True
  | .advance id _ => ∀ call pseudonym, state.Replaced id call pseudonym →
      call.FindsNothing state.shared

/-- The pseudonym of a replaced socket that comes to its voice client has none. -/
def VoiceFree (state : SocketTasks) : SocketLabel → Prop
  | .start _ _ => True
  | .advance id _ => ∀ identity sessionId,
      state.Replaced id (.droppingVoice identity sessionId) identity.pseudonymId →
        state.shared.voice.voiceSessions identity.pseudonymId = none

/-- No session is entered for a pseudonym while a socket that has removed its own goes on with
the pseudonym's subscriptions. -/
def Parted (state : SocketTasks) : SocketLabel → Prop
  | .start _ _ => True
  | .advance id _ => ∀ call pseudonym sessionId, state.calls id = some call →
      call.connection = some (.insertSession pseudonym sessionId) →
        ¬ state.Pending (·.Clears pseudonym)

/-- Every socket is sound, and while one clears the subscriptions of its pseudonym there is no
session. -/
structure Clearing (state : SocketTasks) : Prop where
  sound : Sound (fun _ => True) SocketCall.Sound state
  cleared : ∀ pseudonym, state.Pending (·.Clears pseudonym) →
    state.shared.manager.sessions pseudonym = none

section Runs

variable {Fq Key : Type} {server : VoiceServer Fq Key} {state : SocketTasks}
  {label : SocketLabel} {id : Nat} {call : SocketCall} {shared after : SocketsState}
  {next : Option SocketCall} {input : SocketInput} {pseudonym : String}

theorem successorKept_iff (sound : Sound (fun _ => True) SocketCall.Sound state) :
    SuccessorKept server state label ↔ NothingToRemove state label := by
  cases label with
  | start => exact Iff.rfl
  | advance id input =>
      refine forall₃_congr ?_
      intro call pseudonym replaced
      rcases replaced with ⟨found, sessionId, successor, ended, session, other⟩
      cases acted : (socketProgram server).act id call input state.shared with
      | none =>
          rw [step, found]
          dsimp only
          rw [acted]
          exact iff_of_true (Untouched.refl _ _) (SocketCall.findsNothing_of_waits ended acted)
      | some outcome =>
          rw [step, found]
          dsimp only
          rw [acted]
          exact SocketCall.untouched_iff (sound.calls id call found) ended session other acted

theorem clearing_idle (database : Database) : Clearing (idle (.start database)) where
  sound := sound_idle trivial
  cleared _ pending := absurd pending ((idle_idle _).not_pending _)

/-- How a socket comes to clear the subscriptions of its pseudonym. -/
theorem clears_of_act (sound : call.Sound)
    (acted : call.act server id shared input = some (after, next)) {rest : SocketCall}
    (continues : next = some rest) (clears : rest.Clears pseudonym) :
    call.Clears pseudonym ∨ after.manager.sessions pseudonym = none := by
  cases call with
  | removing identity sessionId connection =>
      rcases SocketCall.acts_of_onManager acted with ⟨left, acts, same⟩
      rw [same] at continues
      cases left with
      | none =>
          cases continues
          exact clears.elim
      | some left =>
          cases continues
          have isUser : identity.pseudonymId = pseudonym := by
            cases left with
            | removeSession => exact clears.elim
            | _ => exact clears
          cases connection with
          | removeSession user own =>
              generalize manager : after.manager = afterManager at acts
              cases acts with
              | remove =>
                  right
                  rw [← isUser, ← sound.1]
                  exact Function.update_self _ _ _
          | _ => exact Or.inl isUser
  | listening identity sessionId =>
      cases acted
      cases continues
      unfold SocketCall.handle at clears
      split at clears
      · split at clears <;> exact clears.elim
      · exact clears.elim
      · exact clears.elim
      · exact clears.elim
      · exact clears.elim
  | registering | handling | disconnecting | leaving =>
      rcases SocketCall.acts_of_onManager acted with ⟨left, _, same⟩
      rw [same] at continues
      cases left <;> cases continues <;> exact clears.elim
  | speaking | droppingVoice | joining =>
      rcases SocketCall.next_of_onVoice acted with ⟨left, same⟩
      rw [same] at continues
      cases left <;> cases continues <;> exact clears.elim
  | leave identity channelId =>
      rw [SocketCall.act] at acted
      split at acted <;> cases acted <;> cases continues
      exact clears.elim
  | leaveRemove identity channelId =>
      rw [SocketCall.act] at acted
      dsimp only at acted
      split at acted <;> cases acted <;> cases continues
      exact clears.elim
  | elsewhere change =>
      cases acted
      cases continues

/-- Only the insertion of a session changes that a pseudonym has none. -/
theorem sessions_of_act (acted : call.act server id shared input = some (after, next))
    (none : shared.manager.sessions pseudonym = none) :
    after.manager.sessions pseudonym = .none ∨
      ∃ sessionId, call.connection = some (.insertSession pseudonym sessionId) := by
  rcases connection_of_act acted with ⟨connection, isConnection, acts⟩ | ⟨_, kept, _⟩
  · rcases ConnectionCall.sessions_of_acts (ConnectionCall.acts_of_act acts) pseudonym with
      same | removed | ⟨sessionId, isInsert⟩
    · exact Or.inl (same.trans none)
    · exact Or.inl removed
    · rw [isInsert] at isConnection
      exact Or.inr ⟨sessionId, isConnection⟩
  · rw [kept]
    exact Or.inl none

theorem clearing_step (state : SocketTasks) (label : SocketLabel) (clearing : Clearing state)
    (parted : Parted state label) : Clearing (step (socketProgram server) state label) := by
  refine ⟨sound_step label clearing.sound, ?_⟩
  refine @step_invariant _ _ _ _ (socketProgram server)
    (fun state label => Clearing state ∧ Parted state label)
    (fun state => ∀ pseudonym, state.Pending (·.Clears pseudonym) →
      state.shared.manager.sessions pseudonym = none) ?_ ?_ state label clearing.cleared
    ⟨clearing, parted⟩
  · intro state id request cleared _ _ pseudonym pending
    rcases pending.of_update with ⟨rest, started, clears⟩ | before
    · cases started
      cases request <;> exact clears.elim
    · exact cleared pseudonym before
  · intro state id call input shared next cleared found acted guarded pseudonym pending
    have kept (before : state.Pending (·.Clears pseudonym)) :
        shared.manager.sessions pseudonym = none := by
      rcases sessions_of_act acted (cleared pseudonym before) with none | ⟨sessionId, isInsert⟩
      · exact none
      · exact absurd before (guarded.2 call pseudonym sessionId found isInsert)
    rcases pending.of_update with ⟨rest, continues, clears⟩ | before
    · rcases clears_of_act (guarded.1.sound.calls id call found) acted continues clears with
        was | none
      · exact kept ⟨id, call, found, was⟩
      · exact none
    · exact kept before

/-- A socket that clears subscriptions is not replaced, so what is left to find is the voice
client. -/
theorem nothingToRemove_iff (clearing : Clearing state) :
    NothingToRemove state label ↔ VoiceFree state label := by
  cases label with
  | start => exact Iff.rfl
  | advance id input =>
      constructor
      · intro nothing identity sessionId replaced
        exact nothing _ _ replaced
      · intro free call pseudonym replaced
        rcases replaced with ⟨found, sessionId, successor, ended, session, other⟩
        have cleared (clears : call.Clears pseudonym) : call.FindsNothing state.shared := by
          have none := clearing.cleared pseudonym ⟨id, call, found, clears⟩
          rw [session] at none
          cases none
        cases call with
        | removing identity own connection =>
            cases connection with
            | cleanChannels | cleanUser => exact cleared ended.1
            | _ => trivial
        | droppingVoice identity own =>
            rcases ended with ⟨isUser, isSession⟩
            rw [← isUser] at session
            exact free identity own ⟨found, own, successor, ⟨rfl, rfl⟩, session,
              isSession ▸ other⟩
        | _ => exact ended.elim

/-- In every run the clean-ups of replaced sockets leave their successors as they are just where
they find nothing of the pseudonym to remove. Where no session is entered between the two parts
of a clean-up, that is where the pseudonym has no voice client. -/
theorem successorsKept_iff (server : VoiceServer Fq Key) (database : Database)
    (labels : List SocketLabel) :
    (Execution.Guarded (step (socketProgram server)) (SuccessorKept server)
        (idle (.start database)) labels ↔
      Execution.Guarded (step (socketProgram server)) NothingToRemove
        (idle (.start database)) labels) ∧
    (Execution.Guarded (step (socketProgram server)) Parted (idle (.start database)) labels →
      (Execution.Guarded (step (socketProgram server)) (SuccessorKept server)
          (idle (.start database)) labels ↔
        Execution.Guarded (step (socketProgram server)) VoiceFree
          (idle (.start database)) labels)) := by
  have found : Execution.Guarded (step (socketProgram server)) (SuccessorKept server)
        (idle (.start database)) labels ↔
      Execution.Guarded (step (socketProgram server)) NothingToRemove
        (idle (.start database)) labels := by
    apply Execution.guarded_iff_of_invariant (Sound (fun _ => True) SocketCall.Sound)
    · exact fun _ label sound _ => sound_step label sound
    · exact fun _ _ sound => successorKept_iff sound
    · exact sound_idle trivial
    · exact Execution.guarded_of_forall (fun _ _ => trivial) _ labels
  refine ⟨found, ?_⟩
  intro parted
  exact found.trans (Execution.guarded_iff_of_invariant Clearing clearing_step
    (fun _ _ clearing => nothingToRemove_iff clearing) (clearing_idle database) parted)

end Runs

section Sample

open Sockets Voices

/-- The agent opens a socket, and then a second one on which it speaks. -/
def speakOnSecond : List SocketLabel :=
  .start 0 (.open_ roomAgent "first") :: List.replicate 2 (.advance 0 ⟨speaking, .other⟩) ++
    .start 1 (.open_ roomAgent "second") ::
      List.replicate 9 (.advance 1 ⟨speaking, .voiceIntent "a" "hello"⟩)

/-- The first socket ends. -/
def endFirst : List SocketLabel := List.replicate 2 (.advance 0 ⟨speaking, .ended⟩)

/-- The end of the first socket drops the voice client of the second one. -/
theorem not_successorsKept :
    ¬ ∀ (server : VoiceServer Unit Unit) (database : Database) (labels : List SocketLabel),
      Execution.Guarded (step (socketProgram server)) (SuccessorKept server)
        (idle (.start database)) labels := by
  intro kept
  have all := kept speakingServer twoRooms
    (speakOnSecond ++ endFirst ++ [.advance 0 ⟨speaking, .ended⟩])
  have last := (Execution.guarded_append.mp all).2.1 (.droppingVoice roomAgent "first") "user"
    ⟨rfl, "first", "second", ⟨rfl, rfl⟩, rfl, by decide⟩
  cases last.voice

end Sample

end SocketTasks

end Annex.Server
