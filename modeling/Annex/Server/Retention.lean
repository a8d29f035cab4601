import Annex.Channels.Integrity

namespace Annex.Server

open Channels Db Sql

/-! The retention sweep. -/

variable {Memory : Type}

/-- The loop of a sweep: batches until one is smaller than the limit, answering how many
messages went. `none` stands for a loop that `fuel` rounds do not finish. -/
def sweepBatches (now : String) : Nat → Sql Database Memory ChannelError (Option Nat)
  | 0 => pure none
  | fuel + 1 => do
      let deleted ← deleteExpiredMessages now
      if deleted < 5000 then
        pure (some deleted)
      else do
        let rest ← sweepBatches now fuel
        pure (rest.map (deleted + ·))

def poolError (error : DbError) : ChannelError :=
  .database (.failure ("pool connection error: " ++ error.text))

/-- What the retention task does each time it wakes up. -/
def retentionSweep (now : String) (fuel : Nat) :
    Sql Database Memory ChannelError (Option Nat) := do
  connect poolError
  sweepBatches now fuel

/-! What a sweep leaves behind. -/

/-- The database without the messages that have expired. -/
def withoutExpired (now : String) (database : Database) : Database :=
  { database with messages := database.messages.deleteWhere (expired now) }

/-- With no statement failing, a sweep ends, removes the expired messages and nothing
else, and counts them. -/
def SweepsExactly (now : String) (database : Database) (memory : Memory) : Prop :=
  ∀ fuel, database.messages.rows.length < fuel →
    retentionSweep now fuel ⟨database, memory, []⟩ =
      (.ok (some (database.messages.rows.countP (expired now))),
        ⟨withoutExpired now database, memory, []⟩)

/-- No expired message has an edit history. -/
def ExpiredUnedited (now : String) (database : Database) : Prop :=
  ∀ message ∈ database.messages.rows, expired now message = true →
    ∀ edit ∈ database.messageEdits.rows, edit.messageId ≠ message.messageId

section Batch

variable {now : String} {database : Database} {message : Message}

theorem mem_expiredBatch (member : message ∈ expiredBatch now database) :
    message ∈ database.messages.rows ∧ expired now message = true := by
  have sorted := List.mem_of_mem_take member
  rw [List.mem_insertionSort] at sorted
  exact List.mem_filter.mp sorted

theorem length_expiredBatch :
    (expiredBatch now database).length =
      min retentionBatchLimit (database.messages.rows.countP (expired now)) := by
  rw [expiredBatch, List.length_take, List.length_insertionSort, List.countP_eq_length_filter]

/-- A batch below the limit holds all expired messages. -/
theorem mem_expiredBatch_iff (small : (expiredBatch now database).length < retentionBatchLimit)
    : message ∈ expiredBatch now database ↔
      message ∈ database.messages.rows ∧ expired now message = true := by
  refine ⟨mem_expiredBatch, fun inside => ?_⟩
  have count : database.messages.rows.countP (expired now) ≤ retentionBatchLimit := by
    rw [length_expiredBatch] at small
    omega
  rw [expiredBatch, List.take_of_length_le]
  · rw [List.mem_insertionSort]
    exact List.mem_filter.mpr inside
  · rwa [List.length_insertionSort, ← List.countP_eq_length_filter]

/-- The database after one batch. -/
def afterBatch (now : String) (database : Database) : Database :=
  { database with
    messages := database.messages.deleteWhere fun message =>
      message ∈ expiredBatch now database }

theorem deleteMessages_batch (unedited : ExpiredUnedited now database) :
    deleteMessages (fun message => message ∈ expiredBatch now database) database =
      .ok (afterBatch now database) := by
  refine if_neg (Bool.eq_false_iff.mp (List.any_eq_false.mpr ?_))
  intro message inside blocked
  simp only [Bool.and_eq_true, decide_eq_true_eq, List.any_eq_true] at blocked
  rcases blocked with ⟨selected, edit, member, named⟩
  exact unedited message inside (mem_expiredBatch selected).2 edit member named

theorem expiredUnedited_afterBatch (unedited : ExpiredUnedited now database) :
    ExpiredUnedited now (afterBatch now database) :=
  fun message inside => unedited message (Table.mem_deleteWhere.mp inside).1

/-- What one batch took is expired, so the rest of the sweep sees the same end. -/
theorem withoutExpired_afterBatch :
    withoutExpired now (afterBatch now database) = withoutExpired now database := by
  have messages : (afterBatch now database).messages.deleteWhere (expired now) =
      database.messages.deleteWhere (expired now) := by
    refine Table.ext ?_ rfl
    simp only [afterBatch, Table.rows_deleteWhere, List.filter_filter]
    refine List.filter_congr fun message _ => ?_
    cases gone : expired now message with
    | true => rfl
    | false =>
        have outside : message ∉ expiredBatch now database := fun member =>
          Bool.false_ne_true (gone.symm.trans (mem_expiredBatch member).2)
        simp [outside]
  rw [withoutExpired, messages]
  rfl

/-- What a duplicate-free list keeps when its first elements are taken out. -/
theorem filter_notMem_take {α : Type} [DecidableEq α] {list : List α} (nodup : list.Nodup)
    (count : Nat) : list.filter (fun element => element ∉ list.take count) =
      list.drop count := by
  have split := list.take_append_drop count
  have apart := List.nodup_append.mp (split.symm ▸ nodup)
  conv_lhs => arg 2; rw [← split]
  rw [List.filter_append, List.filter_eq_nil_iff.mpr, List.nil_append,
    List.filter_eq_self.mpr]
  · intro element late
    simpa using fun early => apart.2.2 element early element late rfl
  · intro element early
    simpa using early

theorem countP_afterBatch :
    (afterBatch now database).messages.rows.countP (expired now) =
      database.messages.rows.countP (expired now) - (expiredBatch now database).length := by
  have order := List.perm_insertionSort
    (fun left right : Message => left.expiresAt.getD "" ≤ right.expiresAt.getD "")
    (database.messages.rows.filter (expired now))
  have nodup := order.nodup_iff.mpr (database.messages.nodup_rows.filter (expired now))
  calc (afterBatch now database).messages.rows.countP (expired now)
      = ((database.messages.rows.filter (expired now)).filter fun message =>
          message ∉ expiredBatch now database).length := by
        rw [afterBatch, Table.rows_deleteWhere, List.countP_eq_length_filter,
          List.filter_filter, List.filter_filter]
        simp [Bool.and_comm]
    _ = ((database.messages.rows.filter (expired now)).insertionSort
          (fun left right : Message => left.expiresAt.getD "" ≤ right.expiresAt.getD "")
            |>.drop retentionBatchLimit).length := by
        rw [← filter_notMem_take nodup]
        exact (order.symm.filter _).length_eq
    _ = database.messages.rows.countP (expired now) -
          (expiredBatch now database).length := by
        rw [List.length_drop, List.length_insertionSort, length_expiredBatch,
          List.countP_eq_length_filter]
        omega

theorem deleteExpiredMessages_run (memory : Memory)
    (unedited : ExpiredUnedited now database) :
    deleteExpiredMessages now ⟨database, memory, []⟩ =
      (.ok (expiredBatch now database).length, ⟨afterBatch now database, memory, []⟩) :=
  statement_done rfl (by rw [deleteMessages_batch unedited])

end Batch

/-- The loop ends when there is a round left for every message it may find. -/
theorem sweepBatches_run {now : String} (memory : Memory) (fuel : Nat) :
    ∀ {database : Database}, ExpiredUnedited now database →
      database.messages.rows.countP (expired now) < fuel →
      sweepBatches now fuel ⟨database, memory, []⟩ =
        (.ok (some (database.messages.rows.countP (expired now))),
          ⟨withoutExpired now database, memory, []⟩) := by
  induction fuel with
  | zero => intro database unedited enough; omega
  | succ fuel induction =>
      intro database unedited enough
      have count := @length_expiredBatch now database
      rw [retentionBatchLimit] at count
      apply (bind_ok (deleteExpiredMessages_run memory unedited)).trans
      split
      · next small =>
        -- the last batch holds every expired message
        have last : afterBatch now database = withoutExpired now database := by
          have messages : (afterBatch now database).messages =
              database.messages.deleteWhere (expired now) := by
            refine Table.ext ?_ rfl
            simp only [afterBatch, Table.rows_deleteWhere]
            refine List.filter_congr fun message inside => ?_
            simp [mem_expiredBatch_iff small, inside]
          rw [withoutExpired, ← messages]
          rfl
        rw [last, pure_apply]
        congr 3
        omega
      · next large =>
        have fewer := @countP_afterBatch now database
        rw [bind_ok (induction (expiredUnedited_afterBatch unedited) (by omega)),
          withoutExpired_afterBatch, pure_apply, Option.map_some, fewer]
        congr 3
        omega

section Blocked

variable {now : String} {message : Message}

/-- A message with an edit history outlives every batch. -/
theorem preserves_edited :
    Preserves (fun database : Database => message ∈ database.messages.rows ∧
        ∃ edit ∈ database.messageEdits.rows, edit.messageId = message.messageId)
      (deleteExpiredMessages now : Sql Database Memory ChannelError Nat) := by
  apply preserves_statement
  rintro database count changed deleted ⟨inside, edit, member, named⟩
  unfold deleteMessages at deleted
  split at deleted
  · next outcome =>
    split at outcome
    · cases outcome
    · next free =>
      cases outcome
      cases deleted
      refine ⟨Table.mem_deleteWhere.mpr ⟨inside, ?_⟩, edit, member, named⟩
      by_contra selected
      refine free (List.any_eq_true.mpr ⟨message, inside, ?_⟩)
      simp only [Bool.not_eq_false] at selected
      simp only [selected, Bool.true_and, List.any_eq_true]
      exact ⟨edit, member, by simpa using named⟩
  · cases deleted

theorem preserves_sweepBatches {invariant : Database → Prop}
    (batch : Preserves invariant
      (deleteExpiredMessages now : Sql Database Memory ChannelError Nat)) (fuel : Nat) :
    Preserves invariant (sweepBatches now fuel : Sql Database Memory ChannelError _) := by
  induction fuel with
  | zero => exact (reads_pure _).preserves
  | succ fuel induction =>
      refine preserves_bind batch fun deleted => ?_
      split
      · exact (reads_pure _).preserves
      · exact preserves_bind induction fun _ => (reads_pure _).preserves

end Blocked

/-- A sweep is exact when no expired message has an edit history, and only then. -/
theorem sweepsExactly_iff (now : String) (database : Database) (memory : Memory) :
    SweepsExactly now database memory ↔ ExpiredUnedited now database := by
  constructor
  · intro exactly message inside gone edit member named
    have kept : message ∈ (retentionSweep now (database.messages.rows.length + 1)
        ⟨database, memory, []⟩).2.database.messages.rows :=
      (preserves_bind (reads_connect poolError).preserves
        (fun _ => preserves_sweepBatches preserves_edited _) ⟨database, memory, []⟩
        ⟨inside, edit, member, named⟩).1
    rw [exactly _ (Nat.lt_succ_self _)] at kept
    have removed := (Table.mem_deleteWhere.mp kept).2
    rw [gone] at removed
    cases removed
  · intro unedited fuel enough
    apply (bind_ok (connect_apply poolError)).trans
    exact sweepBatches_run memory fuel unedited
      (Nat.lt_of_le_of_lt List.countP_le_length enough)

section Sample

/-- The edited message of the room outlives its expiry. -/
theorem expired_edit_stays :
    ¬ ∀ (environment : Environment) (base : Database) (calls : List StoreCall)
      (now : String), SweepsExactly now (storeAfter environment base calls) () := by
  intro exactly
  have swept := exactly (Environment.sample fun _ => []) oneServer editedRoom
    "2025-02-01 00:00:00" 2 (by decide +kernel)
  have refused : (retentionSweep "2025-02-01 00:00:00" 2
      ⟨storeAfter (Environment.sample fun _ => []) oneServer editedRoom, (), []⟩).1 =
      .error (.database foreignKeyFailed) := by
    decide +kernel
  rw [swept] at refused
  cases refused

end Sample

end Annex.Server
