import Annex.Db.Schema
import Annex.Foundation.SingleWriter
import Annex.Foundation.Sql

namespace Annex.Observe

open Db

/-! Writing the public event log. -/

/-- `COALESCE(MAX(seq), 0) + 1` over the events of a server. -/
def nextSeq (serverId : Nat) (log : Table PublicEvent) : Nat :=
  ((log.rows.filter (·.serverId = serverId)).map PublicEvent.seq).foldl max 0 + 1

/-- The row the insert writes, with its sequence number taken inside the statement,
and the log after it. -/
def insertEvent (now : String) (serverId : Nat) (domain : EventDomain)
    (eventType entityType entityId : String) (payload : EventPayload)
    (log : Table PublicEvent) : PublicEvent × Table PublicEvent :=
  let make := fun id : Nat =>
    { id
      serverId
      domain := domain.asStr
      eventType
      entityType
      entityId
      seq := nextSeq serverId log
      payloadJson := payload
      occurredAt := now : PublicEvent }
  (make (log.lastId + 1), log.insert make)

/-- The one statement of `emit_event`. -/
def emitEvent (now : String) (serverId : Nat) (domain : EventDomain)
    (eventType entityType entityId : String) (payload : EventPayload)
    (database : Database) : Except DbError (PublicEvent × Database) :=
  let inserted := insertEvent now serverId domain eventType entityType entityId payload
    database.publicEventLog
  .ok (inserted.1, { database with publicEventLog := inserted.2 })

/-! The sequence numbers of the event log. -/

theorem le_foldl_max {numbers : List Nat} {start : Nat} :
    start ≤ numbers.foldl max start ∧ ∀ number ∈ numbers, number ≤ numbers.foldl max start := by
  induction numbers generalizing start with
  | nil => exact ⟨Nat.le_refl _, fun _ member => nomatch member⟩
  | cons first rest induction =>
      have later := @induction (max start first)
      constructor
      · exact Nat.le_trans (Nat.le_max_left _ _) later.1
      · intro number member
        rcases List.mem_cons.mp member with same | member
        · rw [same]
          exact Nat.le_trans (Nat.le_max_right _ _) later.1
        · exact later.2 number member

/-- The next number of a server is above all that it has. -/
theorem seq_lt_nextSeq {serverId : Nat} {log : Table PublicEvent} {event : PublicEvent}
    (member : event ∈ log.rows) (ofServer : event.serverId = serverId) :
    event.seq < nextSeq serverId log := by
  apply Nat.lt_succ_of_le
  apply le_foldl_max.2
  apply List.mem_map_of_mem
  exact List.mem_filter.mpr ⟨member, decide_eq_true ofServer⟩

/-- The numbers of a server, in the order of the log. -/
def seqsOf (serverId : Nat) (log : Table PublicEvent) : List Nat :=
  (log.rows.filter (·.serverId = serverId)).map PublicEvent.seq

/-- Every server has the numbers from 1 on, each once and in order. -/
def GapFree (log : Table PublicEvent) : Prop :=
  ∀ serverId, seqsOf serverId log = List.range' 1 (seqsOf serverId log).length

theorem gapFree_empty : GapFree Table.empty :=
  fun _ => rfl

theorem foldl_max_range' (count : Nat) : (List.range' 1 count).foldl max 0 = count := by
  induction count with
  | zero => rfl
  | succ count induction =>
      rw [List.range'_1_concat, List.foldl_append, induction, List.foldl_cons, List.foldl_nil]
      omega

/-- The next number of a server is one more than it has events. -/
theorem GapFree.nextSeq {log : Table PublicEvent} (gapFree : GapFree log) (serverId : Nat) :
    nextSeq serverId log = 1 + (seqsOf serverId log).length := by
  have largest : (seqsOf serverId log).foldl max 0 = (seqsOf serverId log).length := by
    rw [gapFree serverId, foldl_max_range', List.length_range']
  rw [Nat.add_comm, ← largest]
  rfl

theorem seqsOf_insertEvent (now : String) (serverId : Nat) (domain : EventDomain)
    (eventType entityType entityId : String) (payload : EventPayload)
    (log : Table PublicEvent) (other : Nat) :
    seqsOf other
        (insertEvent now serverId domain eventType entityType entityId payload log).2 =
      seqsOf other log ++ if serverId = other then [nextSeq serverId log] else [] := by
  unfold insertEvent seqsOf
  dsimp only
  rw [Table.rows_insert, List.filter_append, List.map_append]
  by_cases same : serverId = other
  · simp [same]
  · simp [same]

/-- An event takes the number after the last one of its server. -/
theorem GapFree.insertEvent {log : Table PublicEvent} (gapFree : GapFree log) (now : String)
    (serverId : Nat) (domain : EventDomain) (eventType entityType entityId : String)
    (payload : EventPayload) :
    GapFree (insertEvent now serverId domain eventType entityType entityId payload log).2 := by
  intro other
  rw [seqsOf_insertEvent, List.length_append]
  split
  · next same =>
      rw [List.length_singleton, List.range'_1_concat, gapFree.nextSeq, same]
      exact congrArg (· ++ _) (gapFree other)
  · rw [List.append_nil]
    exact gapFree other

/-- Of two events of a server in a log without gaps the later one has the higher number. -/
theorem GapFree.lt_of_append {log : Table PublicEvent} (gapFree : GapFree log)
    {earlier later : List PublicEvent} (split : log.rows = earlier ++ later) {old new : PublicEvent}
    (oldMember : old ∈ earlier) (newMember : new ∈ later) (same : new.serverId = old.serverId) :
    old.seq < new.seq := by
  have ordered : (seqsOf old.serverId log).Pairwise (· < ·) := by
    rw [gapFree old.serverId]
    exact List.pairwise_lt_range'
  unfold seqsOf at ordered
  rw [split, List.filter_append, List.map_append, List.pairwise_append] at ordered
  apply ordered.2.2
  · apply List.mem_map_of_mem
    exact List.mem_filter.mpr ⟨oldMember, decide_eq_true rfl⟩
  · apply List.mem_map_of_mem
    exact List.mem_filter.mpr ⟨newMember, decide_eq_true same⟩

/-! Calls of `emit_event` inside transactions that commit or roll back. -/

/-- A call of `emit_event`, whose statement may fail, or a statement that leaves the log
alone. -/
inductive LogStatement where
  | emitEvent (now : String) (serverId : Nat) (domain : EventDomain)
      (eventType entityType entityId : String) (payload : EventPayload) (fails : Bool)
  | elsewhere (change : Database → Database)
      (unlogged : ∀ database, (change database).publicEventLog = database.publicEventLog)

/-- What a statement leaves. -/
def LogStatement.execute : LogStatement → Database → Database
  | .emitEvent now serverId domain eventType entityType entityId payload fails, database =>
      if fails then database
      else
        match Observe.emitEvent now serverId domain eventType entityType entityId payload
            database with
        | .ok (_, changed) => changed
        | .error _ => database
  | .elsewhere change _, database => change database

abbrev LogLabel := SingleWriter.Label LogStatement

/-- What is committed of the log after the steps of the transactions. -/
def committedLog (database : Database) (labels : List LogLabel) : Table PublicEvent :=
  (Execution.run (SingleWriter.step LogStatement.execute)
    (SingleWriter.start { database with publicEventLog := Table.empty })
    labels).committed.publicEventLog

/-- The log has only become longer, and has still no gap if it had none. -/
def Appended (before after : Database) : Prop :=
  GapFree before.publicEventLog →
    GapFree after.publicEventLog ∧ before.publicEventLog.rows <+: after.publicEventLog.rows

theorem appended_refl (database : Database) : Appended database database :=
  fun gapFree => ⟨gapFree, List.prefix_rfl⟩

theorem appended_trans (first second third : Database) (earlier : Appended first second)
    (later : Appended second third) : Appended first third := by
  intro gapFree
  rcases earlier gapFree with ⟨gapFree, shorter⟩
  rcases later gapFree with ⟨gapFree, longer⟩
  exact ⟨gapFree, shorter.trans longer⟩

theorem appended_execute (statement : LogStatement) (database : Database) :
    Appended database (statement.execute database) := by
  intro gapFree
  cases statement with
  | emitEvent now serverId domain eventType entityType entityId payload fails =>
      cases fails with
      | true => exact ⟨gapFree, List.prefix_rfl⟩
      | false => exact ⟨gapFree.insertEvent _ _ _ _ _ _ _, List.prefix_append _ _⟩
  | elsewhere change unlogged =>
      rw [LogStatement.execute, unlogged]
      exact ⟨gapFree, List.prefix_rfl⟩

/-- In whatever order the transactions take their steps, commit and roll back, every server's
committed events have the numbers from 1 on, and what is committed later has higher ones. -/
theorem committedLog_gapFree (database : Database) (earlier later : List LogLabel) :
    GapFree (committedLog database (earlier ++ later)) ∧
      ∃ new, (committedLog database (earlier ++ later)).rows =
          (committedLog database earlier).rows ++ new ∧
        ∀ old ∈ (committedLog database earlier).rows, ∀ event ∈ new,
          event.serverId = old.serverId → old.seq < event.seq := by
  have began : SingleWriter.Ahead Appended { database with publicEventLog := Table.empty }
      (SingleWriter.start { database with publicEventLog := Table.empty }) :=
    SingleWriter.ahead_start (appended_refl _)
  have before := SingleWriter.ahead_run appended_refl appended_trans appended_execute began
    earlier
  have after := SingleWriter.ahead_run appended_refl appended_trans appended_execute
    ⟨appended_refl _, before.writer⟩ later
  rw [← Execution.run_append] at after
  have gapFree := (before.committed gapFree_empty).1
  rcases after.committed gapFree with ⟨gapFree, new, longer⟩
  refine ⟨gapFree, new, longer.symm, ?_⟩
  intro old oldMember event newMember same
  exact gapFree.lt_of_append longer.symm oldMember newMember same

end Annex.Observe
