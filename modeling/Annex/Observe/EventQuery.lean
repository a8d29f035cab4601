import Mathlib.Data.String.Basic
import Mathlib.Logic.Relation
import Annex.Foundation.TimePaging
import Annex.Observe.EventLog

namespace Annex.Observe

open Db Sql

/-! Reading the event log page by page, with the time of the last event as the cursor. -/

/-- Filter criteria for querying the public event log. -/
structure EventFilter where
  domain : Option EventDomain
  eventType : Option String
  entityType : Option String
  entityId : Option String
  since : Option String
  limit : Option Int
deriving DecidableEq, Repr

namespace EventFilter

/-- The clauses on what the event is about. -/
def concerns (serverId : Nat) (filter : EventFilter) (event : PublicEvent) : Bool :=
  event.serverId = serverId && filter.domain.all (event.domain = ·.asStr) &&
    filter.eventType.all (event.eventType = ·) && filter.entityType.all (event.entityType = ·) &&
      filter.entityId.all (event.entityId = ·)

/-- The clause on when it occurred. -/
def reaches (filter : EventFilter) (event : PublicEvent) : Bool :=
  filter.since.all fun since => decide (since ≤ event.occurredAt)

/-- The number of events a query returns at most. -/
def pageLimit (filter : EventFilter) : Int :=
  filter.limit.getD 100

end EventFilter

/-- `ORDER BY seq ASC`; of equal numbers the earlier row first, as the index is read. -/
def bySeq (events : List PublicEvent) : List PublicEvent :=
  events.insertionSort fun left right => left.seq ≤ right.seq

/-- `LIMIT`; a negative one is none. -/
def limited (limit : Int) (events : List PublicEvent) : List PublicEvent :=
  if limit < 0 then events else events.take limit.toNat

/-- What `query_events` reads. -/
def eventPage (serverId : Nat) (filter : EventFilter) (log : Table PublicEvent) :
    List PublicEvent :=
  limited filter.pageLimit
    (bySeq (log.rows.filter fun event => filter.concerns serverId event && filter.reaches event))

def queryEvents {Memory : Type} (serverId : Nat) (filter : EventFilter) :
    Sql Database Memory DbError (List PublicEvent) :=
  query id fun database => .ok (eventPage serverId filter database.publicEventLog)

/-- The cursor that each call is made with: at first that of the filter, then the time of the
last event received. -/
def eventCursor (serverId : Nat) (filter : EventFilter) (logs : Nat → Table PublicEvent) :
    Nat → Option String
  | 0 => filter.since
  | count + 1 =>
      match (eventPage serverId { filter with since := eventCursor serverId filter logs count }
          (logs count)).getLast? with
      | none => eventCursor serverId filter logs count
      | some event => some event.occurredAt

/-- What each call returns. -/
def eventPages (serverId : Nat) (filter : EventFilter) (logs : Nat → Table PublicEvent)
    (count : Nat) : List PublicEvent :=
  eventPage serverId { filter with since := eventCursor serverId filter logs count } (logs count)

/-- The log after events were written, of any server. -/
def Grown : Table PublicEvent → Table PublicEvent → Prop :=
  Relation.ReflTransGen fun log next =>
    ∃ now serverId domain eventType entityType entityId payload,
      next = (insertEvent now serverId domain eventType entityType entityId payload log).2

/-- Some call returns each event that the log had at the start and the filter selects. -/
def EventsComplete (serverId : Nat) (filter : EventFilter) (logs : Nat → Table PublicEvent) :
    Prop :=
  ∀ event ∈ (logs 0).rows, filter.concerns serverId event = true → filter.reaches event = true →
    ∃ count, event ∈ eventPages serverId filter logs count

/-- The events of the log that the filter selects from the cursor on, by number. -/
def pendingEvents (serverId : Nat) (filter : EventFilter) (cursor : Option String)
    (log : Table PublicEvent) : List PublicEvent :=
  bySeq (log.rows.filter fun event => filter.concerns serverId event &&
    { filter with since := cursor }.reaches event)

/-- If more events than the limit are pending, the last one within the limit is later than the
cursor and none beyond it is earlier than that one. -/
def CallAdvances (serverId : Nat) (filter : EventFilter) (log : Table PublicEvent)
    (cursor : Option String) : Prop :=
  ∀ last, (pendingEvents serverId filter cursor log)[filter.pageLimit.toNat - 1]? = some last →
    ∀ left ∈ (pendingEvents serverId filter cursor log).drop filter.pageLimit.toNat,
      (∀ earliest ∈ cursor, earliest < last.occurredAt) ∧ last.occurredAt ≤ left.occurredAt

section Log

variable {serverId : Nat} {filter : EventFilter} {log next : Table PublicEvent}

instance : Std.Total fun left right : PublicEvent => left.seq ≤ right.seq :=
  ⟨fun left right => Nat.le_total left.seq right.seq⟩

instance : IsTrans PublicEvent fun left right => left.seq ≤ right.seq :=
  ⟨fun _ _ _ before after => Nat.le_trans before after⟩

/-- The events of the log that the filter is about, by number. -/
def concerned (serverId : Nat) (filter : EventFilter) (log : Table PublicEvent) :
    List PublicEvent :=
  bySeq (log.rows.filter (filter.concerns serverId))

theorem mem_concerned {event : PublicEvent} : event ∈ concerned serverId filter log ↔
    event ∈ log.rows ∧ filter.concerns serverId event = true := by
  unfold concerned bySeq
  rw [List.mem_insertionSort, List.mem_filter]

theorem server_of_concerns {event : PublicEvent}
    (selected : filter.concerns serverId event = true) : event.serverId = serverId := by
  unfold EventFilter.concerns at selected
  simp only [Bool.and_eq_true, decide_eq_true_eq] at selected
  exact selected.1.1.1.1

theorem reaches_iff {event : PublicEvent} : filter.reaches event = true ↔
    ∀ earliest ∈ filter.since, earliest ≤ event.occurredAt := by
  unfold EventFilter.reaches
  cases filter.since with
  | none => simp
  | some since => simp

theorem id_antisymm (left right : PublicEvent) (before : left.id < right.id)
    (after : right.id < left.id) : left = right :=
  absurd (Nat.lt_trans before after) (Nat.lt_irrefl _)

theorem nodup_concerned : (concerned serverId filter log).Nodup :=
  (List.perm_insertionSort _ _).nodup_iff.mpr (log.nodup_rows.filter _)

/-- The pending events are the concerned ones that remain. -/
theorem pendingEvents_eq (cursor : Option String) :
    pendingEvents serverId filter cursor log =
      Paging.remaining PublicEvent.occurredAt cursor (concerned serverId filter log) := by
  unfold pendingEvents Paging.remaining concerned bySeq
  rw [← insertionSort_filter _ id_antisymm (log.ascending.filter _), List.filter_filter]
  congr 1
  exact List.filter_congr fun _ _ => Bool.and_comm _ _

/-- A new event comes after those of its server. -/
theorem concerned_insertEvent_grows (now : String) (other : Nat) (domain : EventDomain)
    (eventType entityType entityId : String) (payload : EventPayload) :
    concerned serverId filter log <+: concerned serverId filter
      (insertEvent now other domain eventType entityType entityId payload log).2 := by
  have rows : (insertEvent now other domain eventType entityType entityId payload log).2.rows =
      log.rows ++ [(insertEvent now other domain eventType entityType entityId payload log).1] :=
    rfl
  have ties := (insertEvent now other domain eventType entityType entityId payload
    log).2.ascending.filter (filter.concerns serverId)
  unfold concerned bySeq
  rw [rows, List.filter_append] at ties ⊢
  cases selected : filter.concerns serverId
      (insertEvent now other domain eventType entityType entityId payload log).1 with
  | false =>
      rw [List.filter_singleton, selected, cond_false, List.append_nil]
  | true =>
      rw [List.filter_singleton, selected, cond_true] at ties ⊢
      rw [insertionSort_concat _ id_antisymm ties]
      · exact List.prefix_append _ _
      · intro old member
        rcases List.mem_filter.mp member with ⟨isOld, concerns⟩
        apply Nat.le_of_lt
        apply seq_lt_nextSeq isOld
        exact (server_of_concerns concerns).trans (server_of_concerns selected).symm

theorem concerned_grows (grown : Grown log next) :
    concerned serverId filter log <+: concerned serverId filter next := by
  induction grown with
  | refl => exact List.prefix_rfl
  | tail _ step induction =>
      rcases step with ⟨_, _, _, _, _, _, _, isNext⟩
      rw [isNext]
      exact induction.trans (concerned_insertEvent_grows _ _ _ _ _ _ _)

/-- What a call returns is a page of the concerned events. -/
theorem eventPage_eq (positive : 1 ≤ filter.pageLimit) (cursor : Option String) :
    eventPage serverId { filter with since := cursor } log =
      (Paging.fromTime PublicEvent.occurredAt filter.pageLimit.toNat).page cursor
        (concerned serverId filter log) := by
  have pending : eventPage serverId { filter with since := cursor } log =
      limited filter.pageLimit (pendingEvents serverId filter cursor log) := rfl
  rw [pending, pendingEvents_eq, limited, if_neg (by omega)]
  rfl

theorem eventCursor_eq (positive : 1 ≤ filter.pageLimit) (logs : Nat → Table PublicEvent)
    (count : Nat) :
    eventCursor serverId filter logs count =
      (Paging.fromTime PublicEvent.occurredAt filter.pageLimit.toNat).cursorAt filter.since
        (fun time => concerned serverId filter (logs time)) count := by
  induction count with
  | zero => rfl
  | succ count induction =>
      rw [eventCursor, Paging.cursorAt, eventPage_eq positive, induction]
      cases (Paging.page _ _ (concerned serverId filter (logs count))).getLast? <;> rfl

end Log

/-- Paging through the event log from a filter on is complete exactly if every call advances,
whatever events are written between the calls. -/
theorem eventsComplete_iff (serverId : Nat) (filter : EventFilter)
    (logs : Nat → Table PublicEvent) (positive : 1 ≤ filter.pageLimit)
    (grown : ∀ time, Grown (logs time) (logs (time + 1))) :
    EventsComplete serverId filter logs ↔
      ∀ count, CallAdvances serverId filter (logs 0) (eventCursor serverId filter logs count) := by
  have appended (time : Nat) :
      concerned serverId filter (logs 0) <+: concerned serverId filter (logs time) := by
    induction time with
    | zero => exact List.prefix_rfl
    | succ time induction => exact induction.trans (concerned_grows (grown time))
  have hasRows : 0 < filter.pageLimit.toNat := by omega
  have every := @Paging.read_all_iff _ _ _ PublicEvent.occurredAt filter.pageLimit.toNat
    (concerned serverId filter (logs 0)) (fun time => concerned serverId filter (logs time))
    filter.since hasRows (fun _ => nodup_concerned) appended
  unfold Paging.Advances Paging.reading at every
  unfold EventsComplete CallAdvances eventPages
  simp only [eventPage_eq positive, eventCursor_eq positive, pendingEvents_eq]
  rw [← every]
  constructor
  · intro complete event member reached
    rcases mem_concerned.mp member with ⟨started, concerns⟩
    exact complete event started concerns (reaches_iff.mpr reached)
  · intro read event started concerns reached
    exact read event (mem_concerned.mpr ⟨started, concerns⟩) (reaches_iff.mp reached)

/-! Two events of one second, read one at a time. -/

def twoPruned : Table PublicEvent :=
  (insertEvent "2026-01-01 00:00:00" 1 .presence "NODE_PRUNED" "node" "bob" (.nodePruned "bob")
    (insertEvent "2026-01-01 00:00:00" 1 .presence "NODE_PRUNED" "node" "alice"
      (.nodePruned "alice") Table.empty).2).2

def oneAtATime : EventFilter :=
  ⟨none, none, none, none, none, some 1⟩

theorem eventsComplete_iff_twoPruned :
    EventsComplete 1 oneAtATime (fun _ => twoPruned) ↔
      ∀ count, CallAdvances 1 oneAtATime twoPruned
        (eventCursor 1 oneAtATime (fun _ => twoPruned) count) :=
  eventsComplete_iff 1 oneAtATime (fun _ => twoPruned) (by decide) fun _ => .refl

theorem eventCursor_twoPruned (count : Nat) :
    eventCursor 1 oneAtATime (fun _ => twoPruned) (count + 1) = some "2026-01-01 00:00:00" := by
  induction count with
  | zero => decide +kernel
  | succ count induction =>
      rw [eventCursor, induction]
      decide +kernel

/-- The second event is never returned. -/
theorem eventPaging_stuck :
    ¬ ∀ (serverId : Nat) (filter : EventFilter) (logs : Nat → Table PublicEvent),
      1 ≤ filter.pageLimit → (∀ time, Grown (logs time) (logs (time + 1))) →
        EventsComplete serverId filter logs := by
  intro complete
  have read := complete 1 oneAtATime (fun _ => twoPruned) (by decide) fun _ => .refl
  have second : twoPruned.rows[1]? = some ⟨2, 1, "PRESENCE", "NODE_PRUNED", "node", "bob", 2,
      .nodePruned "bob", "2026-01-01 00:00:00"⟩ := by decide +kernel
  rcases read _ (List.mem_of_getElem? second) (by decide +kernel) (by decide +kernel) with
    ⟨count, paged⟩
  unfold eventPages at paged
  cases count with
  | zero => exact absurd paged (by decide +kernel)
  | succ count =>
      rw [eventCursor_twoPruned] at paged
      dsimp only at paged
      exact absurd paged (by decide +kernel)

end Annex.Observe
