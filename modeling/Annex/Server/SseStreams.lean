import Mathlib.Data.List.Induction
import Annex.Foundation.BroadcastChannel
import Annex.Foundation.Execution
import Annex.Observe.Event

namespace Annex.Server

open Observe BroadcastChannel

/-! The streams of server-sent events: of the public events, which a client may ask for by
domain, and of the changes of presence. -/

/-- What a client is sent. The data of a value is its JSON. -/
inductive SseFrame (α : Type) where
  | data (value : α)
  | lagged (missedEvents : Nat)
deriving DecidableEq, Repr

/-- What becomes of what the stream receives. -/
def streamFrame {α : Type} (shows : α → Bool) : Received α → Option (SseFrame α)
  | .value value => if shows value then some (.data value) else none
  | .lagged missed => some (.lagged missed)

/-- The filter of a domain. A domain that is not recognized is ignored. -/
def domainFilter (domain : Option String) : Option EventDomain :=
  domain.bind EventDomain.fromStr

/-- What `get_event_stream_handler` shows of the public events. -/
def showsEvent (domain : Option String) (event : PublicEvent) : Bool :=
  match domainFilter domain with
  | some filterDomain => event.domain = filterDomain.asStr
  | none => true

/-- An open stream: what was asked for, the number of the next value, and what it has sent. -/
structure SseStream (α Query : Type) where
  query : Query
  next : Nat
  frames : List (SseFrame α)

/-- The channel that the handlers send to, and the streams that are open. -/
structure SseState (α Query : Type) where
  channel : BroadcastChannel α
  streams : Nat → Option (SseStream α Query)

inductive SseLabel (α Query : Type) where
  | send (value : α)
  | subscribe (id : Nat) (query : Query)
  | poll (id : Nat)
  | close (id : Nat)

namespace SseState

variable {α Query : Type}

def initial : SseState α Query := ⟨.empty, fun _ => none⟩

section Step

variable (shows : Query → α → Bool) (capacity : Nat)

def step (state : SseState α Query) : SseLabel α Query → SseState α Query
  | .send value => { state with channel := state.channel.send capacity value }
  | .subscribe id query =>
      { state with
        streams := Function.update state.streams id (some ⟨query, state.channel.tail, []⟩) }
  | .poll id =>
      match state.streams id with
      | none => state
      | some stream =>
          match state.channel.recv stream.next with
          | none => state
          | some (received, next) =>
              { state with
                streams := Function.update state.streams id (some
                  { stream with
                    next
                    frames := stream.frames ++
                      (streamFrame (shows stream.query) received).toList }) }
  | .close id => { state with streams := Function.update state.streams id none }

def run (labels : List (SseLabel α Query)) : SseState α Query :=
  Execution.run (step shows capacity) initial labels

end Step

end SseState

/-- The value that is sent, if one is. -/
def SseLabel.sent {α Query : Type} : SseLabel α Query → List α
  | .send value => [value]
  | _ => []

/-- The stream is opened anew or closed. -/
def SseLabel.Replaces {α Query : Type} (id : Nat) : SseLabel α Query → Prop
  | .subscribe other _ | .close other => other = id
  | _ => False

section Frames

variable {α : Type} {shows : α → Bool} {received : List (Received α)}

/-- The values that are sent. -/
def SseFrame.data? : SseFrame α → Option α
  | .data value => some value
  | .lagged _ => none

/-- How many values the frame says have been missed. -/
def SseFrame.missed : SseFrame α → Nat
  | .data _ => 0
  | .lagged count => count

theorem filterMap_data? :
    (received.filterMap (streamFrame shows)).filterMap SseFrame.data? =
      (values received).filter shows := by
  induction received with
  | nil => rfl
  | cons head rest induction =>
      cases head with
      | value value =>
          rw [values, List.filter_cons]
          by_cases shown : shows value = true
          · simp [streamFrame, shown, SseFrame.data?, induction]
          · simp [streamFrame, shown, induction]
      | lagged missed =>
          rw [values, ← induction]
          rfl

theorem silent_of_frames
    (silent : ∀ count, .lagged count ∉ received.filterMap (streamFrame shows)) (count : Nat) :
    .lagged count ∉ received :=
  fun member => silent count (List.mem_filterMap.mpr ⟨_, member, rfl⟩)

theorem sum_missed :
    ((received.filterMap (streamFrame shows)).map SseFrame.missed).sum = missed received := by
  induction received with
  | nil => rfl
  | cons head rest induction =>
      cases head with
      | value value =>
          rw [BroadcastChannel.missed, ← induction]
          by_cases shown : shows value = true <;> simp [streamFrame, shown, SseFrame.missed]
      | lagged count =>
          rw [BroadcastChannel.missed, ← induction]
          simp [streamFrame, SseFrame.missed]

end Frames

namespace SseState

variable {α Query : Type} {shows : Query → α → Bool} {capacity : Nat} {history : List α}
  {state : SseState α Query} {label : SseLabel α Query} {id since : Nat} {query : Query}

/-- The stream has sent what it has received of the values from the number on. -/
def Streams (shows : Query → α → Bool) (history : List α) (since id : Nat) (query : Query)
    (state : SseState α Query) : Prop :=
  ∃ stream received, state.streams id = some stream ∧ stream.query = query ∧
    BroadcastChannel.Accounts history since received stream.next ∧
      stream.frames = received.filterMap (streamFrame (shows query))

theorem step_carries (carries : state.channel.Carries capacity history) :
    (step shows capacity state label).channel.Carries capacity (history ++ label.sent) := by
  cases label with
  | send value => exact carries.send value
  | subscribe other query => simpa [step, SseLabel.sent] using carries
  | poll other =>
      rw [show (SseLabel.poll other : SseLabel α Query).sent = [] from rfl, List.append_nil]
      dsimp only [step]
      split
      · exact carries
      · split <;> exact carries
  | close other => simpa [step, SseLabel.sent] using carries

theorem run_carries (labels : List (SseLabel α Query)) :
    (run shows capacity labels).channel.Carries capacity (labels.flatMap SseLabel.sent) := by
  induction labels using List.reverseRecOn with
  | nil => exact carries_empty
  | append_singleton labels label induction =>
      rw [run, Execution.run_concat, List.flatMap_append, List.flatMap_singleton]
      exact step_carries induction

theorem Streams.step (streams : Streams shows history since id query state)
    (carries : state.channel.Carries capacity history) (stays : ¬ label.Replaces id) :
    Streams shows (history ++ label.sent) since id query
      (SseState.step shows capacity state label) := by
  rcases streams with ⟨stream, received, found, asked, accounts, frames⟩
  have later := accounts.mono (List.prefix_append history label.sent)
  cases label with
  | send value => exact ⟨stream, received, found, asked, later, frames⟩
  | subscribe other query =>
      exact ⟨stream, received, (Function.update_of_ne (Ne.symm stays) _ _).trans found, asked,
        later, frames⟩
  | close other =>
      exact ⟨stream, received, (Function.update_of_ne (Ne.symm stays) _ _).trans found, asked,
        later, frames⟩
  | poll other =>
      rw [show (SseLabel.poll other : SseLabel α Query).sent = [] from rfl, List.append_nil]
      dsimp only [SseState.step]
      by_cases same : other = id
      · subst same
        rw [found]
        dsimp only
        cases given : state.channel.recv stream.next with
        | none => exact ⟨stream, received, found, asked, accounts, frames⟩
        | some pair =>
            refine ⟨_, received ++ [pair.1], Function.update_self _ _ _, asked,
              accounts_append.mpr ⟨_, accounts, carries.recv given⟩, ?_⟩
            rw [frames, asked, List.filterMap_append]
            cases shown : streamFrame (shows query) pair.1 <;> simp [shown]
      · split
        · exact ⟨stream, received, found, asked, accounts, frames⟩
        · split
          · exact ⟨stream, received, found, asked, accounts, frames⟩
          · exact ⟨stream, received, (Function.update_of_ne (Ne.symm same) _ _).trans found, asked,
              accounts, frames⟩

theorem Streams.run (streams : Streams shows history since id query state)
    (carries : state.channel.Carries capacity history) {labels : List (SseLabel α Query)}
    (stays : ∀ label ∈ labels, ¬ label.Replaces id) :
    Streams shows (history ++ labels.flatMap SseLabel.sent) since id query
      (Execution.run (SseState.step shows capacity) state labels) := by
  induction labels generalizing state history with
  | nil => simpa using streams
  | cons label rest induction =>
      have next := induction (streams.step carries (stays label List.mem_cons_self))
        (step_carries carries) fun other member => stays other (List.mem_cons_of_mem _ member)
      rw [Execution.run_cons, List.flatMap_cons, ← List.append_assoc]
      exact next

/-- Of the values sent since it was opened, a stream has gone through the first ones. Those that
were asked for are its data, but for as many values as its frames say have been missed; where
none says so, the data is all there is. A stream that has to wait has gone through everything. -/
theorem stream_accounts (before after : List (SseLabel α Query)) (id : Nat) (query : Query)
    (stays : ∀ label ∈ after, ¬ label.Replaces id) :
    let sent := after.flatMap SseLabel.sent
    let state := run shows capacity (before ++ .subscribe id query :: after)
    ∃ stream position passed, state.streams id = some stream ∧ position ≤ sent.length ∧
      passed.Sublist sent ∧
      stream.frames.filterMap SseFrame.data? = passed.filter (shows query) ∧
      passed.length + (stream.frames.map SseFrame.missed).sum = position ∧
      ((∀ count, .lagged count ∉ stream.frames) → passed = sent.take position) ∧
      (state.channel.recv stream.next = none → position = sent.length) := by
  intro sent state
  have opened : Streams shows (before.flatMap SseLabel.sent)
      (before.flatMap SseLabel.sent).length id query
      (SseState.step shows capacity (run shows capacity before) (.subscribe id query)) :=
    ⟨_, [], Function.update_self _ _ _, rfl, (run_carries before).tail.symm, rfl⟩
  have carries : (SseState.step shows capacity (run shows capacity before)
      (.subscribe id query)).channel.Carries capacity (before.flatMap SseLabel.sent) :=
    run_carries before
  have whole : state.channel.Carries capacity (before.flatMap SseLabel.sent ++ sent) := by
    have ran := @run_carries α Query shows capacity (before ++ .subscribe id query :: after)
    rwa [List.flatMap_append, List.flatMap_cons] at ran
  have reached : Streams shows (before.flatMap SseLabel.sent ++ sent)
      (before.flatMap SseLabel.sent).length id query state := by
    have ran := opened.run carries stays
    rwa [← Execution.run_cons, run, ← Execution.run_append] at ran
  rcases reached with ⟨stream, received, found, asked, accounts, frames⟩
  have fromZero : BroadcastChannel.Accounts (before.flatMap SseLabel.sent ++ sent)
      ((before.flatMap SseLabel.sent).length + 0) received stream.next := accounts
  rcases fromZero.shift with ⟨position, next, accounts⟩
  have bound := accounts_le accounts (Nat.zero_le _)
  refine ⟨stream, position, values received, found, bound.2, accounts.sublist, ?_, ?_, ?_, ?_⟩
  · rw [frames, filterMap_data?]
  · rw [frames, sum_missed, accounts.count, Nat.zero_add]
  · intro silent
    rw [frames] at silent
    rw [accounts.complete (silent_of_frames silent), List.drop_zero, Nat.sub_zero]
  · intro waits
    have all := whole.recv_none waits
    rw [List.length_append, next] at all
    omega

end SseState

/-- The streams of public events. -/
def eventStreams (labels : List (SseLabel PublicEvent (Option String))) :
    SseState PublicEvent (Option String) :=
  SseState.run showsEvent 256 labels

/-- The streams of presence events, with `presence_broadcast_capacity` rounded up to a power of
two. -/
def presenceStreams (capacity : Nat) (labels : List (SseLabel PresenceEvent Unit)) :
    SseState PresenceEvent Unit :=
  SseState.run (fun _ _ => true) capacity labels

/-- Of the public events since it was opened, a stream has gone through the first ones: those of
its domain are its data, in order, but for as many as its frames say it has missed, and all of
them where no frame says so. -/
theorem eventStream_accounts (before after : List (SseLabel PublicEvent (Option String)))
    (id : Nat) (domain : Option String) (stays : ∀ label ∈ after, ¬ label.Replaces id) :
    let sent := after.flatMap SseLabel.sent
    let state := eventStreams (before ++ .subscribe id domain :: after)
    ∃ stream position passed, state.streams id = some stream ∧ position ≤ sent.length ∧
      passed.Sublist sent ∧
      stream.frames.filterMap SseFrame.data? = passed.filter (showsEvent domain) ∧
      passed.length + (stream.frames.map SseFrame.missed).sum = position ∧
      ((∀ count, .lagged count ∉ stream.frames) → passed = sent.take position) ∧
      (state.channel.recv stream.next = none → position = sent.length) :=
  SseState.stream_accounts before after id domain stays

theorem eventStream_accounts_polled :
    let stream := (eventStreams [.subscribe 0 (some "PRESENCE"),
      .send ⟨1, 1, "PRESENCE", "NODE_PRUNED", "node", "a", 1, .nodePruned "a", "now"⟩,
      .poll 0]).streams 0
    ∃ opened position, ∃ passed : List PublicEvent, stream = some opened ∧ position ≤ 1 ∧
      opened.frames.filterMap SseFrame.data? = passed.filter (showsEvent (some "PRESENCE")) := by
  rcases eventStream_accounts [] [.send ⟨1, 1, "PRESENCE", "NODE_PRUNED", "node", "a", 1,
    .nodePruned "a", "now"⟩, .poll 0] 0 (some "PRESENCE") (by simp [SseLabel.Replaces]) with
    ⟨opened, position, passed, found, bound, -, data, -⟩
  exact ⟨opened, position, passed, found, bound, data⟩

/-- Of the changes of presence since it was opened, a stream has sent the first ones, but for as
many as its frames say it has missed. -/
theorem presenceStream_accounts (capacity : Nat) (before after : List (SseLabel PresenceEvent Unit))
    (id : Nat) (stays : ∀ label ∈ after, ¬ label.Replaces id) :
    let sent := after.flatMap SseLabel.sent
    let state := presenceStreams capacity (before ++ .subscribe id () :: after)
    ∃ stream position, state.streams id = some stream ∧ position ≤ sent.length ∧
      (stream.frames.filterMap SseFrame.data?).Sublist sent ∧
      (stream.frames.filterMap SseFrame.data?).length +
        (stream.frames.map SseFrame.missed).sum = position ∧
      (state.channel.recv stream.next = none → position = sent.length) := by
  intro sent state
  rcases @SseState.stream_accounts PresenceEvent Unit (fun _ _ => true) capacity before after id
    () stays with ⟨stream, position, passed, found, bound, sublist, data, count, -, waits⟩
  rw [List.filter_true] at data
  exact ⟨stream, position, found, bound, data ▸ sublist, data ▸ count, waits⟩

end Annex.Server
