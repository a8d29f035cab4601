import Annex.Channels.Integrity

namespace Annex.Channels

open Db Sql

/-! What the deletion of a channel leaves behind, with any of its statements failing. -/

/-- Whether an edit is of a message of the channel. -/
def editOfChannel (channelId : String) (database : Database) (edit : MessageEdit) : Bool :=
  database.messages.rows.any fun message =>
    message.channelId = channelId && message.messageId = edit.messageId

/-- The database without a channel, its messages, their edit history and its members. -/
def withoutChannel (channelId : String) (database : Database) : Database :=
  { database with
    channels := database.channels.deleteWhere (·.channelId = channelId)
    channelMembers := database.channelMembers.deleteWhere (·.channelId = channelId)
    messages := database.messages.deleteWhere (·.channelId = channelId)
    messageEdits := database.messageEdits.deleteWhere (editOfChannel channelId database) }

/-- A channel that exists goes with all that belongs to it, if no statement fails, and
an error leaves the database as it was. -/
structure DeletesWhole (channelId : String) (database : Database)
    (faults : List (Option String)) : Prop where
  total : channelExists channelId database = true →
    faultAt faults 0 = none → faultAt faults 1 = none → faultAt faults 2 = none →
      (deleteChannel channelId ⟨database, (), faults⟩).1 = .ok () ∧
        (deleteChannel channelId ⟨database, (), faults⟩).2.database =
          withoutChannel channelId database
  atomic : ∀ error, (deleteChannel channelId ⟨database, (), faults⟩).1 = .error error →
    (deleteChannel channelId ⟨database, (), faults⟩).2.database = database

/-- A message of the channel has an edit history. -/
def hasEdits (channelId : String) (database : Database) : Bool :=
  database.messages.rows.any fun message =>
    message.channelId = channelId &&
      database.messageEdits.rows.any (·.messageId = message.messageId)

def hasMessages (channelId : String) (database : Database) : Bool :=
  database.messages.rows.any (·.channelId = channelId)

def hasMembers (channelId : String) (database : Database) : Bool :=
  database.channelMembers.rows.any (·.channelId = channelId)

/-- What the channel may hold where the first, the second, the third or no statement of
its deletion fails. -/
def DeletionSafe (channelId : String) (database : Database)
    (faults : List (Option String)) : Prop :=
  match faultAt faults 0, faultAt faults 1, faultAt faults 2 with
  | some _, _, _ => True
  | none, some _, _ =>
      hasEdits channelId database = true ∨ hasMessages channelId database = false
  | none, none, some _ =>
      hasEdits channelId database = true ∨
        (hasMessages channelId database = false ∧ hasMembers channelId database = false)
  | none, none, none =>
      channelExists channelId database = true → hasEdits channelId database = false

section Run

variable {channelId : String} {database : Database} {faults : List (Option String)}

/-- The database after the first statement. -/
def withoutMessages (channelId : String) (database : Database) : Database :=
  { database with messages := database.messages.deleteWhere (·.channelId = channelId) }

/-- The database after the second one. -/
def withoutMembers (channelId : String) (database : Database) : Database :=
  deleteMembers (·.channelId = channelId) (withoutMessages channelId database)

theorem deleteMessages_edited (edited : hasEdits channelId database = true) :
    deleteMessages (·.channelId = channelId) database = .error foreignKeyFailed :=
  if_pos edited

theorem deleteMessages_unedited (unedited : hasEdits channelId database = false) :
    deleteMessages (·.channelId = channelId) database =
      .ok (withoutMessages channelId database) :=
  if_neg (Bool.eq_false_iff.mp unedited)

theorem deleteChannelRow_withoutMembers :
    deleteChannelRow channelId (withoutMembers channelId database) =
      .ok (database.channels.rows.countP (·.channelId = channelId),
        { withoutMembers channelId database with
          channels := database.channels.deleteWhere (·.channelId = channelId) }) := by
  apply if_neg
  simp [withoutMembers, withoutMessages, deleteMembers, List.any_filter]

theorem deleteChannel_faulty {text : String} (faulty : faultAt faults 0 = some text) :
    deleteChannel channelId ⟨database, (), faults⟩ =
      (.error (.database (.failure text)), ⟨database, (), faults.tail⟩) :=
  bind_error (execute_faulty faulty)

/-- An edit history of the channel stops the deletion at its first statement. -/
theorem deleteChannel_edited (unfaulted : faultAt faults 0 = none)
    (edited : hasEdits channelId database = true) :
    deleteChannel channelId ⟨database, (), faults⟩ =
      (.error (.database foreignKeyFailed), ⟨database, (), faults.tail⟩) :=
  bind_error (execute_refused unfaulted (deleteMessages_edited edited))

section Unedited

variable (unfaulted : faultAt faults 0 = none)
  (unedited : hasEdits channelId database = false)

include unfaulted unedited

theorem deleteChannel_members_faulty {text : String}
    (faulty : faultAt faults 1 = some text) :
    deleteChannel channelId ⟨database, (), faults⟩ =
      (.error (.database (.failure text)),
        ⟨withoutMessages channelId database, (), faults.tail.tail⟩) := by
  apply (bind_ok (execute_done unfaulted (deleteMessages_unedited unedited))).trans
  refine bind_error (execute_faulty ?_)
  exact (faultAt_tail faults 0).trans faulty

theorem deleteChannel_channel_faulty {text : String} (second : faultAt faults 1 = none)
    (faulty : faultAt faults 2 = some text) :
    deleteChannel channelId ⟨database, (), faults⟩ =
      (.error (.database (.failure text)),
        ⟨withoutMembers channelId database, (), faults.tail.tail.tail⟩) := by
  apply (bind_ok (execute_done unfaulted (deleteMessages_unedited unedited))).trans
  refine (bind_ok (@execute_done _ _ _ _ _ _ (withoutMembers channelId database) ?_
    rfl)).trans ?_
  · exact (faultAt_tail faults 0).trans second
  · refine bind_error (statement_faulty ?_)
    exact (faultAt_tail faults.tail 0).trans ((faultAt_tail faults 1).trans faulty)

theorem deleteChannel_unfaulted (second : faultAt faults 1 = none)
    (third : faultAt faults 2 = none) :
    deleteChannel channelId ⟨database, (), faults⟩ =
      (if database.channels.rows.countP (·.channelId = channelId) ≠ 0 then .ok ()
        else .error (.notFound channelId),
        ⟨{ withoutMembers channelId database with
            channels := database.channels.deleteWhere (·.channelId = channelId) }, (),
          faults.tail.tail.tail⟩) := by
  apply (bind_ok (execute_done unfaulted (deleteMessages_unedited unedited))).trans
  refine (bind_ok (@execute_done _ _ _ _ _ _ (withoutMembers channelId database) ?_
    rfl)).trans ?_
  · exact (faultAt_tail faults 0).trans second
  · refine (bind_ok (statement_done ?_ deleteChannelRow_withoutMembers)).trans ?_
    · exact (faultAt_tail faults.tail 0).trans ((faultAt_tail faults 1).trans third)
    · exact check_apply _ _ _

end Unedited

theorem withoutMessages_eq_self_iff :
    withoutMessages channelId database = database ↔
      hasMessages channelId database = false := by
  rw [hasMessages, ← Table.deleteWhere_eq_self_iff]
  exact ⟨congrArg Database.messages, fun same => by rw [withoutMessages, same]⟩

theorem withoutMembers_eq_self_iff :
    withoutMembers channelId database = database ↔
      hasMessages channelId database = false ∧ hasMembers channelId database = false := by
  rw [hasMessages, hasMembers, ← Table.deleteWhere_eq_self_iff,
    ← Table.deleteWhere_eq_self_iff]
  constructor
  · intro same
    exact ⟨congrArg Database.messages same, congrArg Database.channelMembers same⟩
  · rintro ⟨messages, members⟩
    simp only [withoutMembers, withoutMessages, deleteMembers, messages, members]

/-- Without an edit history there is none to remove. -/
theorem withoutChannel_of_unedited (unedited : hasEdits channelId database = false) :
    withoutChannel channelId database =
      { withoutMembers channelId database with
        channels := database.channels.deleteWhere (·.channelId = channelId) } := by
  have history : database.messageEdits.deleteWhere (editOfChannel channelId database) =
      database.messageEdits := by
    rw [Table.deleteWhere_eq_self_iff, List.any_eq_false]
    intro edit member belongs
    rcases List.any_eq_true.mp belongs with ⟨message, inside, named⟩
    simp only [Bool.and_eq_true, decide_eq_true_eq] at named
    refine Bool.eq_false_iff.mp unedited (List.any_eq_true.mpr ⟨message, inside, ?_⟩)
    simp only [named.1, decide_true, Bool.true_and, List.any_eq_true]
    exact ⟨edit, member, by simpa using named.2.symm⟩
  simp only [withoutChannel, history, withoutMembers, withoutMessages, deleteMembers]

/-- Of a channel that does not exist there is nothing to delete. -/
theorem absent_channel (referenced : ChannelsReferenced database)
    (absent : channelExists channelId database = false) :
    hasMessages channelId database = false ∧ hasMembers channelId database = false := by
  rw [hasMessages, hasMembers, List.any_eq_false, List.any_eq_false]
  refine ⟨fun message inside named => ?_, fun member inside named => ?_⟩
  · have found := referenced.message message inside
    rw [of_decide_eq_true named, absent] at found
    exact Bool.false_ne_true found
  · have found := referenced.member member inside
    rw [of_decide_eq_true named, absent] at found
    exact Bool.false_ne_true found

theorem hasEdits_of_absent (referenced : ChannelsReferenced database)
    (absent : channelExists channelId database = false) :
    hasEdits channelId database = false := by
  have messages := (absent_channel referenced absent).1
  rw [hasMessages, List.any_eq_false] at messages
  rw [hasEdits, List.any_eq_false]
  intro message inside named
  exact messages message inside (Bool.and_eq_true_iff.mp named).1

theorem withoutChannels_of_absent (absent : channelExists channelId database = false) :
    database.channels.deleteWhere (·.channelId = channelId) = database.channels :=
  Table.deleteWhere_eq_self_iff.mpr absent

/-- A deletion that fails on a faulty statement is atomic exactly when it had nothing to
delete before. -/
theorem deletesWhole_iff_of_faulty {error : ChannelError} {left : Database}
    {rest : List (Option String)}
    (faulty : ¬ (faultAt faults 0 = none ∧ faultAt faults 1 = none ∧ faultAt faults 2 = none))
    (ran : deleteChannel channelId ⟨database, (), faults⟩ =
      (.error error, ⟨left, (), rest⟩)) :
    DeletesWhole channelId database faults ↔ left = database := by
  constructor
  · intro whole
    have kept := whole.atomic error (by rw [ran])
    rwa [ran] at kept
  · intro kept
    refine ⟨fun _ first second third => absurd ⟨first, second, third⟩ faulty, ?_⟩
    intro _ _
    rw [ran, kept]

theorem deletesWhole_iff_of_edited (first : faultAt faults 0 = none)
    (edited : hasEdits channelId database = true) :
    DeletesWhole channelId database faults ↔
      (channelExists channelId database = true → faultAt faults 1 = none →
        faultAt faults 2 ≠ none) := by
  have ran := deleteChannel_edited first edited
  constructor
  · intro whole exists_ second third
    have done := (whole.total exists_ first second third).1
    rw [ran] at done
    cases done
  · intro faulty
    refine ⟨fun exists_ _ second third => absurd third (faulty exists_ second), ?_⟩
    intro _ _
    rw [ran]

/-- With no statement failing and no edit history the deletion is total, and a channel
that does not exist is an error that changes nothing. -/
theorem deletesWhole_of_unfaulted (referenced : ChannelsReferenced database)
    (first : faultAt faults 0 = none) (second : faultAt faults 1 = none)
    (third : faultAt faults 2 = none) (unedited : hasEdits channelId database = false) :
    DeletesWhole channelId database faults := by
  have ran := deleteChannel_unfaulted first unedited second third
  cases present : channelExists channelId database with
  | true =>
      have counted : database.channels.rows.countP (·.channelId = channelId) ≠ 0 := by
        rcases List.any_eq_true.mp present with ⟨row, inside, named⟩
        exact Nat.pos_iff_ne_zero.mp (List.countP_pos_iff.mpr ⟨row, inside, named⟩)
      rw [if_pos counted] at ran
      refine ⟨fun _ _ _ _ => ?_, fun error failed => ?_⟩
      · rw [ran, withoutChannel_of_unedited unedited]
        exact ⟨rfl, rfl⟩
      · rw [ran] at failed
        cases failed
  | false =>
      refine ⟨fun exists_ => absurd exists_ (Bool.eq_false_iff.mp present), fun _ _ => ?_⟩
      rw [ran]
      dsimp only
      rw [withoutMembers_eq_self_iff.mpr (absent_channel referenced present),
        withoutChannels_of_absent present]

end Run

theorem deletesWhole_iff_deletionSafe {channelId : String} {database : Database}
    {faults : List (Option String)} (referenced : ChannelsReferenced database) :
    DeletesWhole channelId database faults ↔ DeletionSafe channelId database faults := by
  unfold DeletionSafe
  cases first : faultAt faults 0 with
  | some text =>
      refine iff_of_true ?_ trivial
      exact (deletesWhole_iff_of_faulty (by simp [first])
        (deleteChannel_faulty first)).mpr rfl
  | none =>
      cases edited : hasEdits channelId database with
      | true =>
          have existing : channelExists channelId database = true := by
            by_contra absent
            rw [hasEdits_of_absent referenced (Bool.eq_false_iff.mpr absent)] at edited
            exact Bool.false_ne_true edited
          rw [deletesWhole_iff_of_edited first edited]
          cases second : faultAt faults 1 <;> cases third : faultAt faults 2 <;>
            simp [existing]
      | false =>
          cases second : faultAt faults 1 with
          | some text =>
              rw [deletesWhole_iff_of_faulty (by simp [second])
                (deleteChannel_members_faulty first edited second),
                withoutMessages_eq_self_iff]
              simp
          | none =>
              cases third : faultAt faults 2 with
              | some text =>
                  rw [deletesWhole_iff_of_faulty (by simp [third])
                    (deleteChannel_channel_faulty first edited second third),
                    withoutMembers_eq_self_iff]
                  simp
              | none =>
                  exact iff_of_true
                    (deletesWhole_of_unfaulted referenced first second third edited)
                    fun _ => rfl

/-- After every run of the channel store, a channel is deleted whole and atomically
exactly when no message of it was ever edited, or a statement fails before the deletion
has removed anything. -/
theorem deleteChannel_whole_iff (environment : Environment) (base : Database)
    (calls : List StoreCall) (channelId : String) (faults : List (Option String)) :
    DeletesWhole channelId (storeAfter environment base calls) faults ↔
      DeletionSafe channelId (storeAfter environment base calls) faults :=
  deletesWhole_iff_deletionSafe (channelsReferenced_storeAfter environment base calls)

section Sample

/-- A channel with one edited message is not deleted. -/
theorem edited_room_stays :
    ¬ ∀ (environment : Environment) (base : Database) (calls : List StoreCall)
      (channelId : String) (faults : List (Option String)),
      DeletesWhole channelId (storeAfter environment base calls) faults := by
  intro whole
  have deleted := (whole (Environment.sample fun _ => []) oneServer editedRoom "room" []).total
    (by decide +kernel) rfl rfl rfl
  have refused : (deleteChannel "room" ⟨storeAfter (Environment.sample fun _ => []) oneServer
      editedRoom, (), []⟩).1 = .error (.database foreignKeyFailed) := by
    decide +kernel
  rw [refused] at deleted
  cases deleted.1

end Sample

end Annex.Channels
