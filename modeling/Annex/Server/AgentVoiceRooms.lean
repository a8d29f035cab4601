import Annex.Server.AgentVoice
import Annex.Server.WriteAuthorization

namespace Annex.Server

open Channels Db Interleaving Sql

/-! The rooms an agent speaks in. A client stays in the room it was connected with, so that
the audio of a frame goes to the frame's channel where the agent's client is of its room. -/

namespace Voices

variable {Fq Key : Type} (server : VoiceServer Fq Key)

/-- A voice intent finds no client of its agent but one in the room of its channel, both when
it looks for one and when it inserts its own. -/
def OwnRoom (state : Voices) : VoiceLabel → Prop
  | .start _ _ => True
  | .advance id _ =>
      match state.calls id with
      | some (.findClient pseudonym channelId _ _) =>
          ∀ client, state.shared.voiceSessions pseudonym = some client →
            client.roomName = channelId
      | some (.insertClient pseudonym channelId _ _ _) =>
          ∀ client, state.shared.voiceSessions pseudonym = some client →
            client.roomName = channelId
      | _ => True

/-- Audio of a member at the time of the check, in the room of the channel the frame named. -/
structure Authorized (serverId : Nat) (publication : Publication) : Prop where
  room : publication.roomName = publication.channelId
  member : memberOf serverId publication.roomName publication.pseudonym
    publication.checkedWith = true

def SoundShared (serverId : Nat) (state : VoiceState) : Prop :=
  ∀ publication ∈ state.published, Authorized serverId publication

/-- A voice intent goes on for a member, with a client of the room of its channel. -/
def SoundCall (serverId : Nat) : VoiceCall → Prop
  | .synthesize pseudonym channelId _ checkedWith =>
      memberOf serverId channelId pseudonym checkedWith = true
  | .findClient pseudonym channelId checkedWith _ =>
      memberOf serverId channelId pseudonym checkedWith = true
  | .insertClient pseudonym channelId checkedWith _ client =>
      memberOf serverId channelId pseudonym checkedWith = true ∧ client.roomName = channelId
  | .publish pseudonym channelId checkedWith _ client =>
      memberOf serverId channelId pseudonym checkedWith = true ∧ client.roomName = channelId
  | _ => True

/-- A voice intent that is admitted comes from a member of the channel it names. -/
theorem admitVoiceIntent_ensures {serverId : Nat} {identity : PlatformIdentity}
    {channelId text : String} {database : Database} {sent : List Outbound} :
    Ensures (admitVoiceIntent serverId identity channelId text) database sent
      fun result _ _ => result = .ok () →
        memberOf serverId channelId identity.pseudonymId database = true := by
  refine (looks_check _ _).ensures_bind (fun error equal => by cases equal) fun _ _ => ?_
  refine (looks_check _ _).ensures_bind (fun error equal => by cases equal) fun _ _ => ?_
  exact requireWsMembership_ensures

theorem roomName_newClient {input : VoiceInput} {pseudonym channelId : String}
    {client : AgentVoiceClient}
    (connected : VoiceCall.newClient server input pseudonym channelId = some client) :
    client.roomName = channelId := by
  unfold VoiceCall.newClient at connected
  split at connected
  · rcases Option.map_eq_some_iff.mp connected with ⟨token, _, rfl⟩
    rfl
  · cases connected

/-- The client that is used after an insertion is in the room that both the new client and
one that was there are in. -/
theorem roomName_insertVacant {sessions : String → Option AgentVoiceClient}
    {pseudonym channelId : String} {client used : AgentVoiceClient}
    (own : client.roomName = channelId)
    (stored : ∀ other, sessions pseudonym = some other → other.roomName = channelId)
    (found : VoiceCall.insertVacant sessions pseudonym client pseudonym = some used) :
    used.roomName = channelId := by
  cases present : sessions pseudonym with
  | none =>
      simp only [VoiceCall.insertVacant, present, Function.update_self] at found
      cases found
      exact own
  | some other =>
      simp only [VoiceCall.insertVacant, present] at found
      exact stored used (present.trans found)

/-- A client of the room of a channel publishes there. -/
theorem authorized_publish {serverId : Nat} {pseudonym channelId roomName : String}
    {checkedWith : Database} {audio : List Byte} {client : AgentVoiceClient}
    (member : memberOf serverId channelId pseudonym checkedWith = true)
    (own : client.roomName = channelId) (published : client.publishRoom = some roomName) :
    Authorized serverId ⟨pseudonym, channelId, checkedWith, audio, roomName⟩ := by
  unfold AgentVoiceClient.publishRoom at published
  split at published
  · cases published
    exact ⟨own, own ▸ member⟩
  · cases published

/-- Every step keeps the publications authorized, where the intents find clients of their own
rooms. -/
theorem sound_voice_step (state : Voices) (label : VoiceLabel)
    (sound : Sound (SoundShared server.serverId) (SoundCall server.serverId) state)
    (own : OwnRoom state label) :
    Sound (SoundShared server.serverId) (SoundCall server.serverId)
      (step (voiceProgram server) state label) := by
  refine sound_step ?_ ?_ state label sound own
  · intro shared request
    cases request <;> trivial
  · intro state id call input shared next sound found acts own
    have holds := sound.calls id call found
    rw [OwnRoom, found] at own
    cases call with
    | join identity channelId header =>
        simp only [voiceProgram, VoiceCall.act] at acts
        split at acts
        · cases acts
          refine ⟨sound.shared, ?_⟩
          intro rest continues
          split at continues
          · cases continues
            trivial
          · cases continues
        · cases acts
          exact ⟨sound.shared, fun rest continues => by cases continues⟩
    | joinVoice pseudonym channelId =>
        simp only [voiceProgram, VoiceCall.act] at acts
        split at acts
        · cases acts
          exact ⟨sound.shared, fun rest continues => by cases continues⟩
        · cases acts
          refine ⟨sound.shared, ?_⟩
          intro rest continues
          rcases Option.map_eq_some_iff.mp continues with ⟨client, _, rfl⟩
          trivial
    | joinInsert pseudonym client =>
        cases acts
        exact ⟨sound.shared, fun rest continues => by cases continues⟩
    | leave identity channelId =>
        simp only [voiceProgram, VoiceCall.act] at acts
        split at acts
        · cases acts
          exact ⟨sound.shared, fun rest continues => by cases continues; trivial⟩
        · cases acts
          exact ⟨sound.shared, fun rest continues => by cases continues⟩
    | leaveRemove identity channelId =>
        cases acts
        exact ⟨sound.shared, fun rest continues => by cases continues⟩
    | voiceIntent identity channelId text =>
        simp only [voiceProgram, VoiceCall.act] at acts
        split at acts
        · next admitted =>
          cases acts
          refine ⟨sound.shared, ?_⟩
          intro rest continues
          cases continues
          exact admitVoiceIntent_ensures input.faults admitted
        · cases acts
          exact ⟨sound.shared, fun rest continues => by cases continues⟩
    | synthesize pseudonym channelId text checkedWith =>
        cases acts
        refine ⟨sound.shared, ?_⟩
        intro rest continues
        rcases Option.map_eq_some_iff.mp continues with ⟨audio, _, rfl⟩
        exact holds
    | findClient pseudonym channelId checkedWith audio =>
        simp only [voiceProgram, VoiceCall.act] at acts
        split at acts
        · next client stored =>
          cases acts
          refine ⟨sound.shared, ?_⟩
          intro rest continues
          cases continues
          exact ⟨holds, own client stored⟩
        · cases acts
          refine ⟨sound.shared, ?_⟩
          intro rest continues
          rcases Option.map_eq_some_iff.mp continues with ⟨client, connected, rfl⟩
          exact ⟨holds, roomName_newClient server connected⟩
    | insertClient pseudonym channelId checkedWith audio client =>
        cases acts
        refine ⟨sound.shared, ?_⟩
        intro rest continues
        rcases Option.map_eq_some_iff.mp continues with ⟨used, stored, rfl⟩
        exact ⟨holds.1, roomName_insertVacant holds.2 own stored⟩
    | publish pseudonym channelId checkedWith audio client =>
        simp only [voiceProgram, VoiceCall.act] at acts
        split at acts
        · cases acts
          exact ⟨sound.shared, fun rest continues => by cases continues⟩
        · next roomName published =>
          split at acts
          · cases acts
            refine ⟨?_, fun rest continues => by cases continues⟩
            intro publication member
            rcases List.mem_append.mp member with old | new
            · exact sound.shared publication old
            · rw [List.mem_singleton.mp new]
              exact authorized_publish holds.1 holds.2 published
          · cases acts
            exact ⟨sound.shared, fun rest continues => by cases continues⟩
    | socketEnd pseudonym =>
        cases acts
        exact ⟨sound.shared, fun rest continues => by cases continues⟩

open Execution

/-- In a run whose voice intents find clients of their own rooms, all audio goes to the room
of the channel its frame named, whose member the agent was at the frame's check. -/
theorem authorized_of_ownRoom {database : Database} {labels : List VoiceLabel}
    (own : Guarded (step (voiceProgram server)) OwnRoom (idle (.start database)) labels) :
    ∀ state, Visits (step (voiceProgram server)) (idle (.start database)) labels state →
      ∀ publication ∈ state.shared.published, Authorized server.serverId publication := by
  intro state visited
  have start : SoundShared server.serverId (VoiceState.start database) :=
    fun publication member => absurd member List.not_mem_nil
  have sound := visits_invariant_of_guarded _ (sound_voice_step server) (sound_idle start) own
    state visited
  exact sound.shared

section Sample

open Sockets

def speakingServer : VoiceServer Unit Unit where
  environment := socketServer.environment
  curve := ⟨fun _ => none, fun _ => none, fun _ => false, fun _ => false,
    fun _ _ _ => .ok false⟩
  membershipVkey := ()
  serverId := 1
  enforceZkProofs := false
  rootHex := ""
  json := ⟨fun _ => none, fun _ => none⟩
  voiceUrl := "ws://voice"

def speaking : VoiceInput where
  now := ""
  faults := []
  profileId := "default"
  synthesize := fun _ _ => some [1]
  joinToken := fun _ _ => some "token"
  connects := true
  publishes := true

def roomAgent : PlatformIdentity :=
  ⟨1, 1, "user", "AI_AGENT", true, false, false, false, false, true⟩

/-- The agent speaks in `a`. -/
def speakInA : List VoiceLabel :=
  .start 0 (.voiceIntent roomAgent "a" "hello") :: List.replicate 5 (.advance 0 speaking)

/-- The agent speaks in `a`, leaves `a`, and speaks in `b`. -/
def speakAfterLeaving : List VoiceLabel :=
  speakInA ++ [.start 1 (.leave roomAgent "a"), .advance 1 speaking, .advance 1 speaking] ++
    .start 2 (.voiceIntent roomAgent "b" "hello") :: List.replicate 4 (.advance 2 speaking)

/-- The channels named and the rooms spoken in, and whether the agent was a member there. -/
def spoken (labels : List VoiceLabel) : List (String × String × Bool) :=
  (run (step (voiceProgram speakingServer)) (idle (.start twoRooms))
    labels).shared.published.map fun publication =>
      (publication.channelId, publication.roomName,
        memberOf 1 publication.roomName publication.pseudonym publication.checkedWith)

theorem authorized_of_ownRoom_first_intent :
    spoken speakInA = [("a", "a", true)] ∧
      ∀ publication ∈ (run (step (voiceProgram speakingServer)) (idle (.start twoRooms))
        speakInA).shared.published, Authorized speakingServer.serverId publication := by
  refine ⟨by decide +kernel, authorized_of_ownRoom _ ?_ _ ⟨_, List.prefix_rfl, rfl⟩⟩
  refine ⟨trivial, trivial, trivial, ?_, ?_, trivial, trivial⟩
  · intro client stored
    cases stored
  · intro client stored
    cases stored

/-- The client of the first channel an agent speaks in is used for the others, also after the
agent has left the first one. -/
theorem not_authorized_after_leaving :
    ¬ ∀ (server : VoiceServer Unit Unit) (database : Database) (labels : List VoiceLabel)
      (state : Voices),
        Visits (step (voiceProgram server)) (idle (.start database)) labels state →
          ∀ publication ∈ state.shared.published, Authorized server.serverId publication := by
  intro authorized
  have all := authorized speakingServer twoRooms speakAfterLeaving _
    ⟨_, List.prefix_rfl, rfl⟩
  have outcome : spoken speakAfterLeaving = [("a", "a", true), ("b", "a", false)] := by
    decide +kernel
  have listed : ("b", "a", false) ∈ spoken speakAfterLeaving := by
    rw [outcome]
    exact List.mem_cons_of_mem _ (List.mem_singleton_self _)
  rcases List.mem_map.mp listed with ⟨publication, member, same⟩
  have room := (all publication member).room
  have named : publication.channelId = "b" := congrArg Prod.fst same
  have spokenIn : publication.roomName = "a" := congrArg (fun entry => entry.2.1) same
  rw [named, spokenIn] at room
  exact absurd room (by decide)

end Sample

end Voices

end Annex.Server
