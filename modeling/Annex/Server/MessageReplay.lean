import Annex.Foundation.AtMostOnce
import Annex.Foundation.Routine
import Annex.Server.MessageReceipt

namespace Annex.Server

open Channels Db Federation Identity Interleaving Sql

/-! Relayed messages that arrive in any order and any number of times, while local operations
change the database and sweeps delete what has expired. -/

/-- The database, the ids of the relayed messages that were inserted, and what was sent for
them. -/
structure Feed where
  database : Database
  inserted : List String
  sent : List Outbound

/-- A relayed message, a sweep, or some local operation on the database. -/
inductive FeedRequest where
  | receive (envelope : FederatedMessageEnvelope)
  | sweep
  | elsewhere (change : Database → Database)

/-- What a step takes from outside: the time, the failures of its statements, and the local
pseudonym the checks find. They read the database in several statements, so that any pseudonym
may come of them, or none. -/
structure FeedInput where
  clock : Clock
  faults : List (Option String)
  sender : Option String

/-- Where a call is. -/
inductive FeedCall where
  | received (envelope : FederatedMessageEnvelope)
  | storing (envelope : FederatedMessageEnvelope) (localPseudonymId : String)
  | broadcasting (channelId : String) (message : Message)
  | sweeping
  | elsewhere (change : Database → Database)

abbrev Feeds := Interleaving Feed FeedCall

abbrev FeedLabel := Label FeedRequest FeedInput

section Calls

variable {Fq Key : Type} (server : FederationServer Fq Key)

/-- What comes of the insert of a checked message: it goes on to be broadcast, unless it was
received before or cannot be inserted. -/
def afterInsert (envelope : FederatedMessageEnvelope) (inserted : List String) :
    Except FederationError (Option Message) × Session Database (List Outbound) →
      Feed × (FeedCall ⊕ Bool)
  | (.error _, after) => (⟨after.database, inserted, after.memory⟩, .inr false)
  | (.ok none, after) => (⟨after.database, inserted, after.memory⟩, .inr true)
  | (.ok (some message), after) =>
      (⟨after.database, inserted ++ [message.messageId], after.memory⟩,
        .inl (.broadcasting envelope.channelId message))

/-- The next step of a call. A call ends with whether it is answered. -/
def feedStep (input : FeedInput) : FeedCall → Feed → Feed × (FeedCall ⊕ Bool)
  | .received envelope, feed =>
      match input.sender with
      | none => (feed, .inr false)
      | some localPseudonymId => (feed, .inl (.storing envelope localPseudonymId))
  | .storing envelope localPseudonymId, feed =>
      afterInsert envelope feed.inserted
        (storeFederatedMessage { server with clock := input.clock } envelope localPseudonymId
          ⟨feed.database, feed.sent, input.faults⟩)
  | .broadcasting channelId message, feed =>
      ({ feed with sent := feed.sent ++ [.broadcast channelId (.message (.ofMessage message))] },
        .inr true)
  | .sweeping, feed =>
      ({ feed with
          database := (deleteExpiredMessages input.clock.datetime
            ⟨feed.database, (), input.faults⟩).2.database },
        .inr true)
  | .elsewhere change, feed => ({ feed with database := change feed.database }, .inr true)

def feedRoutine : Routine Feed FeedCall FeedRequest FeedInput Bool where
  enter
    | .receive envelope => .received envelope
    | .sweep => .sweeping
    | .elsewhere change => .elsewhere change
  step := feedStep server

end Calls

/-- The id of a message that was broadcast as a new one. -/
def newMessageId : Outbound → Option String
  | .broadcast _ (.message payload) => some payload.messageId
  | _ => none

/-- The ids of the broadcast messages, in the order of the broadcasts. -/
def Feed.broadcast (feed : Feed) : List String :=
  feed.sent.filterMap newMessageId

/-- The message that a call has inserted and not yet broadcast. -/
def FeedCall.holds : FeedCall → Option String
  | .broadcasting _ message => some message.messageId
  | _ => none

/-- A relayed message that is about to be inserted, and was inserted before, has its row
still. -/
def RowKept (state : Feeds) : FeedLabel → Prop
  | .start _ _ => True
  | .advance id _ => ∀ envelope localPseudonymId,
      state.calls id = some (.storing envelope localPseudonymId) →
        envelope.messageId ∈ state.shared.inserted →
          state.shared.database.messages.rows.any (·.messageId = envelope.messageId) = true

variable {Fq Key : Type} {server : FederationServer Fq Key}

/-- A message is inserted under the id of its envelope, which no row had. -/
theorem storeFederatedMessage_ensures {envelope : FederatedMessageEnvelope}
    {localPseudonymId : String} {database : Database} {sent : List Outbound} :
    Ensures (storeFederatedMessage server envelope localPseudonymId) database sent
      fun result _ after => after = sent ∧ ∀ message, result = .ok (some message) →
        message.messageId = envelope.messageId ∧
          database.messages.rows.any (·.messageId = envelope.messageId) = false := by
  refine ensures_bind (ensures_attempt.mpr (ensures_mono ?_ createMessage_outcome))
  intro result changed after outcome
  rcases outcome with ⟨outcome, kept⟩
  rw [andThen_ok]
  unfold MessageOutcome at outcome
  split
  · next message =>
    rcases outcome with ⟨row, found, retention, canStore, stores⟩
    rw [ensures_pure]
    refine ⟨kept, ?_⟩
    intro other same
    cases same
    exact ⟨stores.stored.messageId, canStore.fresh⟩
  · rw [ensures_pure]
    refine ⟨kept, ?_⟩
    intro other same
    cases same
  · rw [ensures_fail]
    refine ⟨kept, ?_⟩
    intro other same
    cases same

/-- What a step of a call does: it inserts and broadcasts nothing, or it inserts the message it
holds afterwards, or it broadcasts the message that it held. -/
inductive FeedEffect (call : FeedCall) (feed after : Feed) (next : Option FeedCall) : Prop where
  | stays (inserted : after.inserted = feed.inserted) (sent : after.sent = feed.sent)
      (rest : ∀ rest, next = some rest → rest.holds = none)
  | inserts (envelope : FederatedMessageEnvelope) (localPseudonymId : String)
      (isStoring : call = .storing envelope localPseudonymId)
      (fresh : feed.database.messages.rows.any (·.messageId = envelope.messageId) = false)
      (inserted : after.inserted = feed.inserted ++ [envelope.messageId])
      (sent : after.sent = feed.sent)
      (rest : ∀ rest, next = some rest → rest.holds = some envelope.messageId)
  | broadcasts (channelId : String) (message : Message)
      (isBroadcasting : call = .broadcasting channelId message)
      (inserted : after.inserted = feed.inserted)
      (sent : after.sent =
        feed.sent ++ [.broadcast channelId (.message (.ofMessage message))])
      (ended : next = none)

theorem feedStep_effect (input : FeedInput) (call : FeedCall) (feed : Feed) :
    FeedEffect call feed (feedStep server input call feed).1
      (feedStep server input call feed).2.getLeft? := by
  cases call with
  | received envelope =>
      rw [feedStep]
      cases input.sender with
      | none =>
          refine .stays rfl rfl ?_
          intro rest goesOn
          cases goesOn
      | some localPseudonymId =>
          refine .stays rfl rfl ?_
          intro rest goesOn
          cases goesOn
          rfl
  | storing envelope localPseudonymId =>
      have ensured := @storeFederatedMessage_ensures _ _ { server with clock := input.clock }
        envelope localPseudonymId feed.database feed.sent input.faults
      rw [feedStep]
      rcases ran : storeFederatedMessage { server with clock := input.clock } envelope
        localPseudonymId ⟨feed.database, feed.sent, input.faults⟩ with
        ⟨error | inserted, after⟩
      · rw [ran] at ensured
        refine .stays rfl ensured.1 ?_
        intro rest goesOn
        cases goesOn
      · rw [ran] at ensured
        cases inserted with
        | none =>
            refine .stays rfl ensured.1 ?_
            intro rest goesOn
            cases goesOn
        | some message =>
            rcases ensured.2 message rfl with ⟨named, fresh⟩
            refine .inserts envelope localPseudonymId rfl fresh ?_ ensured.1 ?_
            · rw [← named]
              rfl
            · intro rest goesOn
              cases goesOn
              exact congrArg some named
  | broadcasting channelId message => exact .broadcasts channelId message rfl rfl rfl rfl
  | sweeping =>
      refine .stays rfl rfl ?_
      intro rest goesOn
      cases goesOn
  | elsewhere change =>
      refine .stays rfl rfl ?_
      intro rest goesOn
      cases goesOn

/-- The handler on its own takes the steps of its call. -/
theorem receive_message_completes (envelope : FederatedMessageEnvelope) (feed : Feed)
    (faults : List (Option String)) :
    ∃ inputs after, (feedRoutine server).complete inputs (.received envelope) feed =
        (after, some (receiveFederatedMessageHandler server envelope
          ⟨feed.database, feed.sent, faults⟩).1.isOk) ∧
      after.database = (receiveFederatedMessageHandler server envelope
        ⟨feed.database, feed.sent, faults⟩).2.database ∧
      after.sent = (receiveFederatedMessageHandler server envelope
        ⟨feed.database, feed.sent, faults⟩).2.memory := by
  have looks : Looks (checkFederatedMessage server envelope) :=
    looks_checkFederatedMessage envelope
  have kept := looks.reads ⟨feed.database, feed.sent, faults⟩
  unfold receiveFederatedMessageHandler
  cases checkedRun : checkFederatedMessage server envelope
    ⟨feed.database, feed.sent, faults⟩ with
  | mk checked mid =>
  rw [checkedRun] at kept
  cases checked with
  | error error =>
      refine ⟨[⟨server.clock, [], none⟩], feed, ?_, ?_, ?_⟩
      · rw [bind_error checkedRun]
        rfl
      · rw [bind_error checkedRun, kept.1]
      · rw [bind_error checkedRun, kept.2]
  | ok localPseudonymId =>
      have answers := looks.answers checkedRun
      have checks : (feedRoutine server).step ⟨server.clock, [], some localPseudonymId⟩
          (.received envelope) feed = (feed, .inl (.storing envelope localPseudonymId)) := rfl
      rw [bind_ok checkedRun, answers.2]
      rcases ran : storeFederatedMessage server envelope localPseudonymId
        ⟨feed.database, feed.sent, mid.faults⟩ with ⟨result, after⟩
      have stores : (feedRoutine server).step ⟨server.clock, mid.faults, none⟩
          (.storing envelope localPseudonymId) feed =
            afterInsert envelope feed.inserted (result, after) :=
        congrArg (afterInsert envelope feed.inserted) ran
      refine ⟨[⟨server.clock, [], some localPseudonymId⟩, ⟨server.clock, mid.faults, none⟩,
        ⟨server.clock, [], none⟩], ?_⟩
      rw [Routine.complete_next checks]
      rcases result with error | stored
      · rw [bind_error ran, Routine.complete_last stores]
        exact ⟨_, rfl, rfl, rfl⟩
      · rw [bind_ok ran]
        cases stored with
        | none =>
            rw [Routine.complete_last stores]
            exact ⟨_, rfl, rfl, rfl⟩
        | some message =>
            rw [Routine.complete_next stores]
            exact ⟨_, rfl, rfl, rfl⟩

namespace Feeds

/-- No relayed message was inserted or broadcast twice. -/
def Once (state : Feeds) : Prop :=
  AtMostOnce id state.shared.inserted state.shared.broadcast
    (heldBy FeedCall.holds state.calls)

/-- Steps that insert no message whose row was removed insert and broadcast nothing twice. -/
theorem once_step (state : Feeds) (label : FeedLabel) (once : state.Once)
    (kept : RowKept state label) :
    Once (Interleaving.step (feedRoutine server).program state label) := by
  refine step_invariant ?_ ?_ state label once kept
  · intro state id request once free _
    unfold Once
    dsimp only
    rw [heldBy_update]
    apply once.stays
    intro messageId holds
    cases request <;> cases holds
  · intro state id call input after next once found acts kept
    have effect := @feedStep_effect _ _ server input call state.shared
    have taken : (_, _) = (_, _) := Option.some.inj acts
    rw [Prod.mk.injEq] at taken
    rw [show (feedStep server input call state.shared).1 = after from taken.1,
      show (feedStep server input call state.shared).2.getLeft? = next from taken.2] at effect
    have isHeld : heldBy FeedCall.holds state.calls id = call.holds := by
      rw [heldBy, found, Option.bind_some]
    unfold Once
    dsimp only
    rw [heldBy_update]
    cases effect with
    | stays inserted sent rest =>
        rw [inserted, Feed.broadcast, sent]
        apply once.stays
        intro messageId holds
        rcases Option.bind_eq_some_iff.mp holds with ⟨call, goesOn, holds⟩
        rw [rest call goesOn] at holds
        cases holds
    | inserts envelope localPseudonymId isStoring fresh inserted sent rest =>
        rw [inserted, Feed.broadcast, sent]
        apply once.takes
        · intro before
          rw [isStoring] at found
          rw [kept envelope localPseudonymId found before] at fresh
          cases fresh
        · intro other holds
          rcases Option.bind_eq_some_iff.mp holds with ⟨call, goesOn, holds⟩
          rw [rest call goesOn, Option.some.injEq] at holds
          exact holds.symm
    | broadcasts channelId message isBroadcasting inserted sent ended =>
        rw [isBroadcasting] at isHeld
        rw [inserted, ended, Feed.broadcast, sent, List.filterMap_append]
        apply once.delivers isHeld
        · exact List.nodup_singleton _
        · intro copy member
          exact List.mem_singleton.mp member

/-- In every run in which no relayed message is inserted after its row was removed, each one is
inserted at most once and broadcast at most once. -/
theorem received_at_most_once (server : FederationServer Fq Key) (database : Database)
    (labels : List FeedLabel)
    (kept : Execution.Guarded (Interleaving.step (feedRoutine server).program) RowKept
      (idle ⟨database, [], []⟩) labels) :
    (Execution.run (Interleaving.step (feedRoutine server).program) (idle ⟨database, [], []⟩)
        labels).shared.inserted.Nodup ∧
      (Execution.run (Interleaving.step (feedRoutine server).program) (idle ⟨database, [], []⟩)
        labels).shared.broadcast.Nodup := by
  have initially : Once (idle ⟨database, [], []⟩) := AtMostOnce.initial List.nodup_nil
  have reached := Execution.run_invariant_of_guarded Once (@once_step _ _ server) initially kept
  exact ⟨reached.takenOnce, reached.deliveredOnce⟩

end Feeds

section Sample

/-! A relayed message is received, expires, is swept, and is received again. -/

def januaryClock : Clock :=
  ⟨"2026-01-01 00:00:00", fun _ => some "2026-01-31 00:00:00", 0⟩

def februaryClock : Clock :=
  ⟨"2026-02-01 00:00:00", fun _ => some "2026-03-03 00:00:00", 0⟩

def receivedIn (clock : Clock) (id : Nat) : List FeedLabel :=
  .start id (.receive (relayedMessage "alpha:c0ffee")) ::
    List.replicate 3 (.advance id ⟨clock, [], some "first pseudonym"⟩)

def sweptIn (clock : Clock) (id : Nat) : List FeedLabel :=
  [.start id .sweep, .advance id ⟨clock, [], none⟩]

/-- The feed after some labels. -/
def feedAfter (labels : List FeedLabel) : Feed :=
  (Execution.run (Interleaving.step (feedRoutine receivingServer).program)
    (Interleaving.idle ⟨receivingDatabase, [], []⟩) labels).shared

/-- The message is received once where no sweep comes between. -/
theorem received_once_in_january :
    (feedAfter (receivedIn januaryClock 0)).inserted = ["message"] ∧
      (feedAfter (receivedIn januaryClock 0)).inserted.Nodup := by
  refine ⟨by decide +kernel, (Feeds.received_at_most_once receivingServer receivingDatabase
    (receivedIn januaryClock 0) ?_).1⟩
  refine ⟨trivial, ?_, ?_, ?_, trivial⟩
  · intro envelope localPseudonymId found
    cases found
  · intro envelope localPseudonymId found before
    cases before
  · intro envelope localPseudonymId found
    cases found

/-- The checks find the sender both times, and the message is inserted and broadcast twice. -/
theorem not_received_at_most_once :
    (checkFederatedMessage receivingServer (relayedMessage "alpha:c0ffee")
        ⟨receivingDatabase, [], []⟩).1 = .ok "first pseudonym" ∧
      (checkFederatedMessage receivingServer (relayedMessage "alpha:c0ffee")
        ⟨(feedAfter (receivedIn januaryClock 0 ++ sweptIn februaryClock 1)).database, [],
          []⟩).1 = .ok "first pseudonym" ∧
      ¬ (feedAfter (receivedIn januaryClock 0 ++ sweptIn februaryClock 1 ++
        receivedIn februaryClock 2)).inserted.Nodup ∧
      ¬ (feedAfter (receivedIn januaryClock 0 ++ sweptIn februaryClock 1 ++
        receivedIn februaryClock 2)).broadcast.Nodup := by
  decide +kernel

end Sample

end Annex.Server
