import Annex.Server.ChannelMembership
import Annex.Server.Connections
import Annex.Server.WriteAuthorization

namespace Annex.Server

open Channels Db Sql

/-! Broadcasts beside the requests that change who is a member and who is subscribed. A
request goes on in steps: each task on the database is one, and so is each acquisition of a
lock of the connection manager. -/

/-- A broadcast that was enqueued: its channel, the database when it started, and who got
the message. -/
structure Delivery where
  channelId : String
  startedWith : Database
  receivers : Finset String

structure BroadcastState where
  database : Database
  manager : ConnectionManager
  deliveries : List Delivery

inductive BroadcastRequest where
  | openSocket (pseudonym sessionId : String)
  | closeSocket (pseudonym sessionId : String)
  | disconnectUser (pseudonym : String)
  | subscribe (channelId pseudonym : String)
  | unsubscribe (channelId pseudonym : String)
  | join (identity : PlatformIdentity) (channelId : String)
  | leave (identity : PlatformIdentity) (channelId : String)
  | createChannel (params : CreateChannelParams)
  | deleteChannel (identity : PlatformIdentity) (channelId : String)
  | broadcast (channelId : String)

/-- What is left of a request. -/
inductive BroadcastCall where
  | connection (call : ConnectionCall)
  | subscribe (channelId pseudonym : String)
  | join (identity : PlatformIdentity) (channelId : String)
  | leave (identity : PlatformIdentity) (channelId : String)
  | leaveRemove (identity : PlatformIdentity) (channelId : String)
  | leaveUnsubscribe (channelId pseudonym : String)
  | createChannel (params : CreateChannelParams)
  | deleteChannel (identity : PlatformIdentity) (channelId : String)
  | broadcast (channelId : String) (startedWith : Database)

/-- What a step takes from outside: the time, the statements that fail, and the consumers
whose queue is full. -/
structure BroadcastInput where
  now : String
  faults : List (Option String)
  full : String → Bool

namespace BroadcastCall

/-- A broadcast remembers the database it starts with. -/
def ofRequest (state : BroadcastState) : BroadcastRequest → BroadcastCall
  | .openSocket pseudonym sessionId => .connection (.addSession pseudonym sessionId)
  | .closeSocket pseudonym sessionId => .connection (.removeSession pseudonym sessionId)
  | .disconnectUser pseudonym => .connection (.disconnectUser pseudonym)
  | .subscribe channelId pseudonym => .subscribe channelId pseudonym
  | .unsubscribe channelId pseudonym => .connection (.unsubscribe channelId pseudonym)
  | .join identity channelId => .join identity channelId
  | .leave identity channelId => .leave identity channelId
  | .createChannel params => .createChannel params
  | .deleteChannel identity channelId => .deleteChannel identity channelId
  | .broadcast channelId => .broadcast channelId state.database

/-- A step of a call on the connection manager. -/
def onManager (id : Nat) (call : ConnectionCall) (state : BroadcastState) :
    Option (BroadcastState × Option BroadcastCall) :=
  (call.act id state.manager).map fun (manager, next) =>
    ({ state with manager }, next.map .connection)

/-- The subscribers with a session whose queue takes the message. -/
def receivers (manager : ConnectionManager) (full : String → Bool) (channelId : String) :
    Finset String :=
  ((manager.channelSubscriptions channelId).getD ∅).filter fun pseudonym =>
    (manager.sessions pseudonym).isSome = true ∧ full pseudonym = false

variable (server : SocketServer)

/-- The next step of the request with the given number. -/
def act (id : Nat) (state : BroadcastState) (input : BroadcastInput) :
    BroadcastCall → Option (BroadcastState × Option BroadcastCall)
  | .connection call => onManager id call state
  | .subscribe channelId pseudonym =>
      match (checkWsMembership server.serverId channelId pseudonym
          ⟨state.database, [], input.faults⟩ : Except String MembershipResult × _).1 with
      | .ok .allowed => some (state, some (.connection (.subscribe channelId pseudonym)))
      | _ => some (state, none)
  | .join identity channelId =>
      -- The steps before the one that adds the member only read.
      some ({ state with
        database := (addMember server.environment input.now server.serverId channelId
          identity.pseudonymId ⟨state.database, [], input.faults⟩ :
            Except ChannelError Unit × Session Database (List Outbound)).2.database }, none)
  | .leave identity channelId =>
      match (leaveFetch server channelId ⟨state.database, [], input.faults⟩).1 with
      | .ok _ => some (state, some (.leaveRemove identity channelId))
      | .error _ => some (state, none)
  | .leaveRemove identity channelId =>
      let (result, session) :=
        Server.leaveRemove server identity channelId ⟨state.database, [], input.faults⟩
      match result with
      | .ok () => some ({ state with database := session.database },
          some (.leaveUnsubscribe channelId identity.pseudonymId))
      | .error _ => some ({ state with database := session.database }, none)
  | .leaveUnsubscribe channelId pseudonym =>
      onManager id (.unsubscribe channelId pseudonym) state
  | .createChannel params =>
      -- The checks before the statement only refuse.
      some ({ state with
        database := (Channels.createChannel input.now params ⟨state.database, [], input.faults⟩ :
            Except ChannelError Unit × Session Database (List Outbound)).2.database }, none)
  | .deleteChannel identity channelId =>
      some ({ state with
        database := (deleteChannelHandler identity channelId
          ⟨state.database, [], input.faults⟩).2.database }, none)
  | .broadcast channelId startedWith =>
      if state.manager.channelLock = none then
        some ({ state with
          deliveries := state.deliveries ++
            [⟨channelId, startedWith, receivers state.manager input.full channelId⟩] }, none)
      else none

end BroadcastCall

/-- The requests of a server. -/
def broadcastProgram (server : SocketServer) :
    Interleaving.Program BroadcastState BroadcastCall BroadcastRequest BroadcastInput where
  enter := BroadcastCall.ofRequest
  act id call input state := call.act server id state input

/-- The requests of a server in progress. -/
abbrev Broadcasts := Interleaving BroadcastState BroadcastCall

abbrev BroadcastLabel := Interleaving.Label BroadcastRequest BroadcastInput

/-- A database with an empty connection manager, before the first broadcast. -/
def BroadcastState.start (database : Database) : BroadcastState := ⟨database, .new, []⟩

open Channels Db Interleaving Sql

/-! Who a broadcast reaches. A subscriber is a member or about to be unsubscribed by a leave,
as long as the requests that change members and subscriptions do not cross. -/

namespace Broadcasts

variable (server : SocketServer)

/-- The databases a broadcast of the channel can have started with: the present one, and
those of the broadcasts in progress. -/
def InView (state : Broadcasts) (channelId : String) (database : Database) : Prop :=
  database = state.shared.database ∨ state.InProgress (.broadcast channelId database)

def Subscribed (state : Broadcasts) (channelId pseudonym : String) : Prop :=
  state.shared.manager.channelSubscriptions.Lists channelId pseudonym

/-- The steps do not cross. A subscription is entered for a member, also at the start of the
broadcasts in progress; the edge of a subscribed agent who leaves can be deleted; a channel is
deleted while nobody is subscribed to it; and a broadcast finds no subscriber whose membership
a leave had removed before the broadcast started. -/
def Uncrossed (state : Broadcasts) : BroadcastLabel → Prop
  | .start _ _ => True
  | .advance id input =>
      match state.calls id with
      | some (.connection (.subscribe channelId pseudonym)) =>
          ∀ database, InView state channelId database →
            memberOf server.serverId channelId pseudonym database = true
      | some (.leaveRemove identity channelId) =>
          Subscribed state channelId identity.pseudonymId →
            identity.participantType = "AI_AGENT" → faultAt input.faults 2 = none
      | some (.deleteChannel identity channelId) =>
          identity.canModerate = true → ∀ pseudonym, ¬ Subscribed state channelId pseudonym
      | some (.broadcast channelId startedWith) =>
          ∀ pseudonym, state.InProgress (.leaveUnsubscribe channelId pseudonym) →
            Subscribed state channelId pseudonym →
              memberOf server.serverId channelId pseudonym startedWith = true
      | _ => True

/-- A message went to members of its channel only. -/
def ReachedMembers (delivery : Delivery) : Prop :=
  ∀ pseudonym ∈ delivery.receivers,
    memberOf server.serverId delivery.channelId pseudonym delivery.startedWith = true

/-- What the subscriptions and the memberships have in common. -/
structure Authorized (state : Broadcasts) : Prop where
  subscribed : ∀ channelId pseudonym database, Subscribed state channelId pseudonym →
    InView state channelId database →
      memberOf server.serverId channelId pseudonym database = true ∨
        state.InProgress (.leaveUnsubscribe channelId pseudonym)
  delivered : ∀ delivery ∈ state.shared.deliveries, ReachedMembers server delivery

theorem authorized_start (database : Database) :
    Authorized server (idle (BroadcastState.start database)) where
  subscribed channelId pseudonym database isSubscribed :=
    absurd isSubscribed (SetMap.not_lists_empty _ _)
  delivered delivery member := absurd member List.not_mem_nil

section Steps

variable {server : SocketServer} {state : Broadcasts} {id : Nat}

/-- A step that adds no subscription, and keeps the memberships of the subscribed and the
leaves in progress, keeps the invariant. -/
theorem Authorized.quiet (authorized : Authorized server state) {shared : BroadcastState}
    {next : Option BroadcastCall}
    (leaving : ∀ channelId pseudonym,
      state.calls id ≠ some (.leaveUnsubscribe channelId pseudonym))
    (opened : ∀ channelId database, next = some (.broadcast channelId database) →
      database = state.shared.database)
    (subscriptions : ∀ channelId pseudonym,
      shared.manager.channelSubscriptions.Lists channelId pseudonym →
        Subscribed state channelId pseudonym)
    (members : ∀ channelId pseudonym, Subscribed state channelId pseudonym →
      memberOf server.serverId channelId pseudonym state.shared.database = true →
        memberOf server.serverId channelId pseudonym shared.database = true)
    (deliveries : shared.deliveries = state.shared.deliveries) :
    Authorized server ⟨shared, Function.update state.calls id next⟩ := by
  constructor
  · intro channelId pseudonym database isSubscribed inView
    have before := subscriptions channelId pseudonym isSubscribed
    have present := authorized.subscribed channelId pseudonym state.shared.database before
      (Or.inl rfl)
    rcases inView with rfl | inProgress
    · rcases present with member | leave
      · exact Or.inl (members channelId pseudonym before member)
      · exact Or.inr (leave.update (leaving _ _))
    · by_cases new : next = some (.broadcast channelId database)
      · rw [opened channelId database new]
        exact present.imp_right fun leave => leave.update (leaving _ _)
      · have old := authorized.subscribed channelId pseudonym database before
          (Or.inr (inProgress.of_update new))
        exact old.imp_right fun leave => leave.update (leaving _ _)
  · rw [deliveries]
    exact authorized.delivered

/-- Only `subscribe` adds to the channels' subscriptions. -/
theorem lists_of_act {call : ConnectionCall} {manager after : ConnectionManager}
    {next : Option ConnectionCall} (acts : call.act id manager = some (after, next))
    {channelId pseudonym : String} (different : call ≠ .subscribe channelId pseudonym)
    (listed : after.channelSubscriptions.Lists channelId pseudonym) :
    manager.channelSubscriptions.Lists channelId pseudonym := by
  cases call with
  | cleanChannels user channels session =>
      simp only [ConnectionCall.act] at acts
      split at acts
      · cases acts
        exact (SetMap.lists_eraseAll.mp listed).1
      · cases acts
  | subscribe other user =>
      simp only [ConnectionCall.act] at acts
      split at acts
      · cases acts
        rcases SetMap.lists_insert.mp listed with ⟨rfl, rfl⟩ | before
        · exact absurd rfl different
        · exact before
      · cases acts
  | unsubscribe other user =>
      simp only [ConnectionCall.act] at acts
      split at acts
      · cases acts
        exact (SetMap.lists_erase.mp listed).1
      · cases acts
  | addSession user sessionId =>
      simp only [ConnectionCall.act] at acts
      split at acts <;> cases acts <;> exact listed
  | collectChannels user session =>
      simp only [ConnectionCall.act] at acts
      split at acts <;> cases acts <;> exact listed
  | removeSession user sessionId =>
      simp only [ConnectionCall.act] at acts
      split at acts <;> cases acts <;> exact listed
  | cleanUser | insertSession | disconnectUser | subscribeUser | unsubscribeUser =>
      cases acts
      exact listed

/-- A step that starts no broadcast and writes nothing brings no database into view. -/
theorem InView.of_update {shared : BroadcastState} {next : Option BroadcastCall}
    {channelId : String} {database : Database}
    (inView : InView ⟨shared, Function.update state.calls id next⟩ channelId database)
    (unwritten : shared.database = state.shared.database)
    (other : next ≠ some (.broadcast channelId database)) : InView state channelId database := by
  rcases inView with same | inProgress
  · exact Or.inl (same.trans unwritten)
  · exact Or.inr (inProgress.of_update other)

/-- A subscription is entered for a member. -/
theorem Authorized.subscribe (authorized : Authorized server state)
    {channelId pseudonym : String} {manager : ConnectionManager} {next : Option ConnectionCall}
    (found : state.calls id = some (.connection (.subscribe channelId pseudonym)))
    (acts : (ConnectionCall.subscribe channelId pseudonym).act id state.shared.manager =
      some (manager, next))
    (member : ∀ database, InView state channelId database →
      memberOf server.serverId channelId pseudonym database = true) :
    Authorized server ⟨{ state.shared with manager },
      Function.update state.calls id (next.map .connection)⟩ := by
  constructor
  · intro other user database isSubscribed inView
    have viewed : InView state other database := inView.of_update rfl (by simp)
    by_cases new : other = channelId ∧ user = pseudonym
    · rcases new with ⟨rfl, rfl⟩
      exact Or.inl (member database viewed)
    · have before : Subscribed state other user := by
        apply lists_of_act acts _ isSubscribed
        rintro ⟨⟩
        exact new ⟨rfl, rfl⟩
      exact (authorized.subscribed other user database before viewed).imp_right
        fun leave => leave.update (by simp [found])
  · exact authorized.delivered

/-- Between the two steps of a leave the subscriber is on the way out. -/
theorem Authorized.leaveRemove (authorized : Authorized server state)
    {identity : PlatformIdentity} {channelId : String} {database : Database}
    (found : state.calls id = some (.leaveRemove identity channelId))
    (others : ∀ other user, ¬ (other = channelId ∧ user = identity.pseudonymId) →
      memberOf server.serverId other user state.shared.database = true →
        memberOf server.serverId other user database = true) :
    Authorized server ⟨{ state.shared with database },
      Function.update state.calls id
        (some (.leaveUnsubscribe channelId identity.pseudonymId))⟩ := by
  constructor
  · intro other user viewed isSubscribed inView
    by_cases leaver : other = channelId ∧ user = identity.pseudonymId
    · rcases leaver with ⟨rfl, rfl⟩
      exact Or.inr (inProgress_next rfl)
    · rcases inView with rfl | inProgress
      · have present := authorized.subscribed other user state.shared.database isSubscribed
          (Or.inl rfl)
        rcases present with member | leave
        · exact Or.inl (others other user leaver member)
        · exact Or.inr (leave.update (by simp [found]))
      · exact (authorized.subscribed other user viewed isSubscribed
          (Or.inr (inProgress.of_update (by simp)))).imp_right
            fun leave => leave.update (by simp [found])
  · exact authorized.delivered

theorem Authorized.leaveUnsubscribe (authorized : Authorized server state)
    {channelId pseudonym : String} {manager : ConnectionManager} {next : Option ConnectionCall}
    (found : state.calls id = some (.leaveUnsubscribe channelId pseudonym))
    (acts : (ConnectionCall.unsubscribe channelId pseudonym).act id state.shared.manager =
      some (manager, next)) :
    Authorized server ⟨{ state.shared with manager },
      Function.update state.calls id (next.map .connection)⟩ := by
  have remaining : ∀ other user, manager.channelSubscriptions.Lists other user →
      Subscribed state other user ∧ ¬ (other = channelId ∧ user = pseudonym) := by
    intro other user listed
    simp only [ConnectionCall.act] at acts
    split at acts
    · cases acts
      exact SetMap.lists_erase.mp listed
    · cases acts
  constructor
  · intro other user database isSubscribed inView
    have kept := remaining other user isSubscribed
    have viewed : InView state other database := inView.of_update rfl (by simp)
    refine (authorized.subscribed other user database kept.1 viewed).imp_right
      fun leave => leave.update ?_
    rw [found]
    rintro ⟨⟩
    exact kept.2 ⟨rfl, rfl⟩
  · exact authorized.delivered

/-- A broadcast reaches the subscribers, who were members when it started. -/
theorem Authorized.broadcast (authorized : Authorized server state) {channelId : String}
    {startedWith : Database} (full : String → Bool)
    (found : state.calls id = some (.broadcast channelId startedWith))
    (left : ∀ pseudonym, state.InProgress (.leaveUnsubscribe channelId pseudonym) →
      Subscribed state channelId pseudonym →
        memberOf server.serverId channelId pseudonym startedWith = true) :
    Authorized server ⟨{ state.shared with
        deliveries := state.shared.deliveries ++ [⟨channelId, startedWith,
          BroadcastCall.receivers state.shared.manager full channelId⟩] },
      Function.update state.calls id none⟩ := by
  constructor
  · intro other user database isSubscribed inView
    have viewed : InView state other database := inView.of_update rfl (by simp)
    exact (authorized.subscribed other user database isSubscribed viewed).imp_right
      fun leave => leave.update (by simp [found])
  · intro delivery member
    rcases List.mem_append.mp member with old | new
    · exact authorized.delivered delivery old
    · rw [List.mem_singleton.mp new]
      intro pseudonym receiver
      have isSubscribed : Subscribed state channelId pseudonym := by
        have inSet := (Finset.mem_filter.mp receiver).1
        cases stored : state.shared.manager.channelSubscriptions channelId with
        | none => simp [stored] at inSet
        | some listeners => exact ⟨listeners, stored, by simpa [stored] using inSet⟩
      rcases authorized.subscribed channelId pseudonym startedWith isSubscribed
          (Or.inr ⟨id, found⟩) with isMember | leaving
      · exact isMember
      · exact left pseudonym leaving isSubscribed

end Steps

/-- Every step that crosses no other one keeps the invariant. -/
theorem authorized_step (state : Broadcasts) (label : BroadcastLabel)
    (authorized : Authorized server state) (uncrossed : Uncrossed server state label) :
    Authorized server (step (broadcastProgram server) state label) := by
  refine step_invariant ?_ ?_ state label authorized uncrossed
  · intro state id request authorized free _
    apply authorized.quiet
    · intro channelId pseudonym
      rw [free]
      simp
    · intro channelId database opened
      cases request <;> cases opened
      rfl
    · exact fun _ _ listed => listed
    · exact fun _ _ _ member => member
    · rfl
  · intro state id call input shared next authorized found acts uncrossed
    rw [Uncrossed, found] at uncrossed
    have quiet {after : BroadcastState} {rest : Option BroadcastCall}
        (leaving : ∀ channelId pseudonym, call ≠ .leaveUnsubscribe channelId pseudonym)
        (opened : ∀ channelId database, rest ≠ some (.broadcast channelId database))
        (subscriptions : ∀ channelId pseudonym,
          after.manager.channelSubscriptions.Lists channelId pseudonym →
            Subscribed state channelId pseudonym)
        (members : ∀ channelId pseudonym, Subscribed state channelId pseudonym →
          memberOf server.serverId channelId pseudonym state.shared.database = true →
            memberOf server.serverId channelId pseudonym after.database = true)
        (deliveries : after.deliveries = state.shared.deliveries) :
        Authorized server ⟨after, Function.update state.calls id rest⟩ := by
      refine authorized.quiet ?_ (fun channelId database new =>
        absurd new (opened channelId database)) subscriptions members deliveries
      intro channelId pseudonym same
      rw [found] at same
      exact leaving channelId pseudonym (Option.some.inj same)
    have unchanged {rest : Option BroadcastCall}
        (leaving : ∀ channelId pseudonym, call ≠ .leaveUnsubscribe channelId pseudonym)
        (opened : ∀ channelId database, rest ≠ some (.broadcast channelId database)) :
        Authorized server ⟨state.shared, Function.update state.calls id rest⟩ :=
      quiet leaving opened (fun _ _ listed => listed) (fun _ _ _ member => member) rfl
    cases call with
    | connection call =>
        rcases Option.map_eq_some_iff.mp acts with ⟨⟨manager, rest⟩, stepped, ⟨⟩⟩
        by_cases subscribes : ∃ channelId pseudonym, call = .subscribe channelId pseudonym
        · rcases subscribes with ⟨channelId, pseudonym, rfl⟩
          exact authorized.subscribe found stepped uncrossed
        · have different (channelId pseudonym : String) :
              call ≠ .subscribe channelId pseudonym :=
            fun same => subscribes ⟨channelId, pseudonym, same⟩
          exact quiet (by simp) (by simp)
            (fun channelId pseudonym listed =>
              lists_of_act stepped (different channelId pseudonym) listed)
            (fun _ _ _ member => member) rfl
    | subscribe channelId pseudonym =>
        simp only [broadcastProgram, BroadcastCall.act] at acts
        split at acts
        · cases acts
          exact unchanged (by simp) (by simp)
        · cases acts
          exact unchanged (by simp) (by simp)
    | join identity channelId =>
        cases acts
        exact quiet (by simp) (by simp) (fun _ _ listed => listed)
          (fun _ _ _ member => addMember_preserves _ member) rfl
    | leave identity channelId =>
        simp only [broadcastProgram, BroadcastCall.act] at acts
        split at acts
        · cases acts
          exact unchanged (by simp) (by simp)
        · cases acts
          exact unchanged (by simp) (by simp)
    | leaveRemove identity channelId =>
        have others (other user : String)
            (different : ¬ (other = channelId ∧ user = identity.pseudonymId)) :=
          @leaveRemove_preserves server other user identity channelId different
            ⟨state.shared.database, [], input.faults⟩
        simp only [broadcastProgram, BroadcastCall.act] at acts
        split at acts
        · cases acts
          exact authorized.leaveRemove found others
        · next failed =>
          cases acts
          refine quiet (by simp) (by simp) (fun _ _ listed => listed) ?_ rfl
          intro other user isSubscribed member
          by_cases leaver : other = channelId ∧ user = identity.pseudonymId
          · rcases leaver with ⟨rfl, rfl⟩
            rcases leaveRemove_ok_or_unchanged (uncrossed isSubscribed) with done | unchanged
            · rw [failed] at done
              cases done
            · rw [unchanged]
              exact member
          · exact others other user leaver member
    | leaveUnsubscribe channelId pseudonym =>
        rcases Option.map_eq_some_iff.mp acts with ⟨⟨manager, rest⟩, stepped, ⟨⟩⟩
        exact authorized.leaveUnsubscribe found stepped
    | createChannel params =>
        cases acts
        exact quiet (by simp) (by simp) (fun _ _ listed => listed)
          (fun _ _ _ member => createChannel_preserves _ member) rfl
    | deleteChannel identity channelId =>
        cases acts
        refine quiet (by simp) (by simp) (fun _ _ listed => listed) ?_ rfl
        intro other user isSubscribed member
        by_cases same : other = channelId
        · rw [same] at isSubscribed
          have refused : identity.canModerate ≠ true :=
            fun moderator => uncrossed moderator user isSubscribed
          rw [deleteChannelHandler_refused refused]
          exact member
        · exact deleteChannelHandler_preserves same _ member
    | broadcast channelId startedWith =>
        simp only [broadcastProgram, BroadcastCall.act] at acts
        split at acts
        · cases acts
          exact authorized.broadcast input.full found uncrossed
        · cases acts

open Execution

/-- In a run without crossing steps every message goes to members of its channel. -/
theorem reachedMembers_of_uncrossed {database : Database} {labels : List BroadcastLabel}
    (uncrossed : Guarded (step (broadcastProgram server)) (Uncrossed server)
      (idle (.start database)) labels) :
    ∀ state, Visits (step (broadcastProgram server)) (idle (.start database)) labels state →
      ∀ delivery ∈ state.shared.deliveries, ReachedMembers server delivery := by
  intro state visited
  have authorized := visits_invariant_of_guarded (Authorized server) (authorized_step server)
    (authorized_start server database) uncrossed state visited
  exact authorized.delivered

section Sample

open Sockets

def quietly : BroadcastInput := ⟨"", [], fun _ => false⟩

def roomUser : PlatformIdentity :=
  ⟨1, 1, "user", "HUMAN", false, false, false, false, false, true⟩

/-- `user` connects, subscribes to `b`, and a message of `b` is broadcast. -/
def subscribeThenBroadcast : List BroadcastLabel :=
  [.start 0 (.openSocket "user" "session"), .advance 0 quietly, .advance 0 quietly,
    .start 1 (.subscribe "b" "user"), .advance 1 quietly, .advance 1 quietly,
    .advance 1 quietly, .start 2 (.broadcast "b"), .advance 2 quietly]

/-- `user` connects and asks to subscribe to `b`, but leaves `b` between the check and the
subscription; then a message of `b` is broadcast. -/
def leaveWhileSubscribing : List BroadcastLabel :=
  [.start 0 (.openSocket "user" "session"), .advance 0 quietly, .advance 0 quietly,
    .start 1 (.subscribe "b" "user"), .advance 1 quietly,
    .start 2 (.leave roomUser "b"), .advance 2 quietly, .advance 2 quietly,
    .advance 2 quietly, .advance 2 quietly,
    .advance 1 quietly, .advance 1 quietly, .start 3 (.broadcast "b"), .advance 3 quietly]

/-- What a run has delivered to `user`, and whether `user` was a member. -/
def deliveredToUser (labels : List BroadcastLabel) : List (Bool × Bool) :=
  (run (step (broadcastProgram socketServer)) (idle (.start twoRooms))
    labels).shared.deliveries.map fun delivery =>
      (decide ("user" ∈ delivery.receivers),
        memberOf 1 delivery.channelId "user" delivery.startedWith)

theorem reachedMembers_of_uncrossed_subscription :
    deliveredToUser subscribeThenBroadcast = [(true, true)] ∧
      ∀ delivery ∈ (run (step (broadcastProgram socketServer)) (idle (.start twoRooms))
        subscribeThenBroadcast).shared.deliveries, ReachedMembers socketServer delivery := by
  refine ⟨by decide +kernel,
    reachedMembers_of_uncrossed _ ?_ _ ⟨_, List.prefix_rfl, rfl⟩⟩
  refine ⟨trivial, trivial, trivial, trivial, trivial, ?_, trivial, trivial, ?_, trivial⟩
  · intro database inView
    rcases inView with rfl | ⟨other, found⟩
    · decide +kernel
    · match other, found with
      | 0, found => cases found
      | 1, found => cases found
      | other + 2, found => cases found
  · intro pseudonym inProgress
    rcases inProgress with ⟨other, found⟩
    match other, found with
    | 0, found => cases found
    | 1, found => cases found
    | 2, found => cases found
    | other + 3, found => cases found

/-- A subscription that was checked before a leave and entered after it stays: the message
reaches somebody who is no member. -/
theorem not_reachedMembers_of_leave_while_subscribing :
    ¬ ∀ (server : SocketServer) (database : Database) (labels : List BroadcastLabel)
      (state : Broadcasts),
        Visits (step (broadcastProgram server)) (idle (.start database)) labels state →
          ∀ delivery ∈ state.shared.deliveries, ReachedMembers server delivery := by
  intro reached
  have all := reached socketServer twoRooms leaveWhileSubscribing _
    ⟨_, List.prefix_rfl, rfl⟩
  have delivered : deliveredToUser leaveWhileSubscribing = [(true, false)] := by
    decide +kernel
  have listed : (true, false) ∈ deliveredToUser leaveWhileSubscribing := by
    rw [delivered]
    exact List.mem_singleton_self _
  rcases List.mem_map.mp listed with ⟨delivery, member, outcome⟩
  have received := of_decide_eq_true (congrArg Prod.fst outcome)
  have absent : memberOf 1 delivery.channelId "user" delivery.startedWith = false :=
    congrArg Prod.snd outcome
  exact absurd (all delivery member "user" received) (Bool.eq_false_iff.mp absent)

end Sample

end Broadcasts

end Annex.Server
