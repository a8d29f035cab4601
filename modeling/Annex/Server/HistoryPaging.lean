import Mathlib.Data.String.Basic
import Annex.Channels.Integrity
import Annex.Foundation.Paging
import Annex.Server.Join

namespace Annex.Server

open Channels Db Identity Sql

/-! Reading the history of a channel page by page, as the client does: each page is asked for
with the id of the oldest message of the one before. -/

/-- What tells messages apart and puts them in order. An edit or a deletion leaves it alone. -/
structure MessageStamp where
  id : Nat
  messageId : String
  createdAt : String
deriving DecidableEq, Repr

def MessageStamp.ofMessage (message : Message) : MessageStamp :=
  ⟨message.id, message.messageId, message.createdAt⟩

/-- Newest first, and of one second the later row first. -/
def Newer (left right : MessageStamp) : Prop :=
  right.createdAt < left.createdAt ∨
    right.createdAt = left.createdAt ∧ right.id < left.id

instance (left right : MessageStamp) : Decidable (Newer left right) :=
  inferInstanceAs (Decidable (_ ∨ _))

theorem not_newer_self (stamp : MessageStamp) : ¬ Newer stamp stamp := by
  intro newer
  rcases newer with less | ⟨_, less⟩
  · exact lt_irrefl _ less
  · exact Nat.lt_irrefl _ less

theorem newer_trans (first second third : MessageStamp) (newer : Newer first second)
    (older : Newer second third) : Newer first third := by
  rcases newer with newer | ⟨same, newer⟩
  · rcases older with older | ⟨same, older⟩
    · exact Or.inl (older.trans newer)
    · exact Or.inl (same ▸ newer)
  · rcases older with older | ⟨also, older⟩
    · exact Or.inl (same ▸ older)
    · exact Or.inr ⟨also.trans same, older.trans newer⟩

/-- The messages of a channel in the order they are listed in. -/
def channelHistory (serverId : Nat) (channelId : String) (database : Database) : List Message :=
  newestFirst (database.messages.rows.filter fun row =>
    row.serverId = serverId && row.channelId = channelId)

/-- What `list_messages` reads. -/
def messagesPage (serverId : Nat) (channelId : String) (before : Option String)
    (limit : Option Nat) (database : Database) : List Message :=
  (newestFirst (database.messages.rows.filter fun row =>
    row.serverId = serverId && row.channelId = channelId &&
      before.all fun cursor => decide (row.createdAt < cursor))).take (min (limit.getD 50) 100)

theorem listMessages_eq {Memory : Type} (serverId : Nat) (channelId : String)
    (before : Option String) (limit : Option Nat) :
    (listMessages serverId channelId before limit :
      Sql Database Memory ChannelError (List Message)) =
        query .database fun database =>
          .ok (messagesPage serverId channelId before limit database) := rfl

theorem perm_newestFirst (messages : List Message) : (newestFirst messages).Perm messages :=
  (List.perm_insertionSort _ _).trans (List.reverse_perm messages)

theorem channelId_of_mem_messagesPage {serverId : Nat} {channelId : String}
    {before : Option String} {limit : Option Nat} {database : Database} {message : Message}
    (member : message ∈ messagesPage serverId channelId before limit database) :
    message.channelId = channelId := by
  have listed := (perm_newestFirst _).mem_iff.mp (List.mem_of_mem_take member)
  have selected := List.of_mem_filter listed
  simp only [Bool.and_eq_true, decide_eq_true_eq] at selected
  exact selected.1.2

theorem nodup_messagesPage {serverId : Nat} {channelId : String} {before : Option String}
    {limit : Option Nat} {database : Database} (unique : MessageIdsUnique database) :
    ((messagesPage serverId channelId before limit database).map (·.messageId)).Nodup := by
  unfold messagesPage
  rw [List.map_take]
  refine List.Nodup.sublist (List.take_sublist _ _) ?_
  rw [((perm_newestFirst _).map _).nodup_iff]
  exact unique.sublist (List.filter_sublist.map _)

/-- What the handler answers is the page of the channel of the path. -/
theorem messages_of_getChannelHistoryHandler {Fq Key : Type} (server : ChannelServer Fq Key)
    (pseudonymId channelId : String) (header : Option (JsonText ZkProofPayload))
    (before : Option String) (limit : Option Nat)
    {session after : Session Database (List Outbound)} {messages : List Message}
    (answered : getChannelHistoryHandler server pseudonymId channelId header before limit session =
      (.ok messages, after)) :
    messages = messagesPage server.serverId channelId before (limit.map (min · 200))
      session.database := by
  have member : Looks (requireMember server channelId pseudonymId) :=
    looks_bind (looks_connect _) fun _ =>
      looks_bind (looks_mapErr (looks_query _ _)) fun _ => looks_check _ _
  have listed (_ : Unit) : Looks (do
      connect internal
      mapErr internal (listMessages server.serverId channelId before (limit.map (min · 200))) :
      StatusHandler (List Message)) :=
    looks_bind (looks_connect _) fun _ => looks_mapErr (looks_query _ _)
  have proven (commitment : Option String) := looks_bind
    (looks_ofExcept (verifyZkMembershipHeader server header commitment)) fun _ =>
      looks_bind member listed
  have committed := @looks_lookupCommitment _ _ server pseudonymId
  have read := ((looks_bind committed proven).answers answered).1
  rcases (answers_bind committed).mp read with ⟨commitment, _, read⟩
  rcases (answers_bind (looks_ofExcept _)).mp read with ⟨_, _, read⟩
  rcases (answers_bind member).mp read with ⟨_, _, read⟩
  rcases (answers_bind (looks_connect _)).mp read with ⟨_, _, read⟩
  rw [listMessages_eq, answers_mapErr (looks_query _ _), answers_query] at read
  exact (Except.ok.inj read).symm

/-- The pages of the history with the given limit, each read when the database is as given. -/
def historyPages (serverId : Nat) (channelId : String) (limit : Nat)
    (databases : Nat → Database) : Nat → List Message
  | 0 => messagesPage serverId channelId none (some (min limit 200)) (databases 0)
  | count + 1 =>
      match (historyPages serverId channelId limit databases count).getLast? with
      | none => []
      | some oldest =>
          messagesPage serverId channelId (some oldest.messageId) (some (min limit 200))
            (databases (count + 1))

/-- The messages of the first pages together. -/
def receivedMessages (serverId : Nat) (channelId : String) (limit : Nat)
    (databases : Nat → Database) (count : Nat) : List Message :=
  (List.range count).flatMap (historyPages serverId channelId limit databases)

/-- The history in terms of what tells its messages apart. -/
def historyStamps (serverId : Nat) (channelId : String) (database : Database) :
    List MessageStamp :=
  (channelHistory serverId channelId database).map .ofMessage

/-- The pages of the history list every message that is there throughout, each once and the
newest first, and end with an empty page unless older messages keep being added. -/
structure HistoryComplete (serverId : Nat) (channelId : String) (limit : Nat)
    (databases : Nat → Database) : Prop where
  ordered : ∀ count, ((receivedMessages serverId channelId limit databases count).map
    .ofMessage).Pairwise Newer
  everything : ∀ count, historyPages serverId channelId limit databases count = [] →
    ∀ stamp, (∀ time ≤ count, stamp ∈ historyStamps serverId channelId (databases time)) →
      stamp ∈ (receivedMessages serverId channelId limit databases count).map .ofMessage
  ends : (Paging.OnlyFront Newer fun time => historyStamps serverId channelId (databases time)) →
    ∃ count, historyPages serverId channelId limit databases count = []

/-- A message lies past a cursor that its time sorts before. The cursor that the client uses is
an id. -/
def historyPaging (limit : Nat) : Paging MessageStamp String where
  past cursor stamp := decide (stamp.createdAt < cursor)
  cursorOf stamp := stamp.messageId
  limit := limit

section History

variable {serverId : Nat} {channelId : String} {limit count : Nat} {database : Database}
  {databases : Nat → Database}

instance : Std.Total fun left right : Message => right.createdAt ≤ left.createdAt :=
  ⟨fun left right => le_total right.createdAt left.createdAt⟩

instance : IsTrans Message fun left right => right.createdAt ≤ left.createdAt :=
  ⟨fun _ _ _ newer older => older.trans newer⟩

theorem newer_newestFirst (test : Message → Bool) :
    (newestFirst (database.messages.rows.filter test)).Pairwise fun newer older =>
      Newer (.ofMessage newer) (.ofMessage older) := by
  have ties := database.messages.ascending.filter test
  rw [← List.pairwise_reverse] at ties
  unfold newestFirst
  refine (pairwise_insertionSort_ties _ ties).imp ?_
  intro newer older ordered
  rcases ordered.1.lt_or_eq with less | same
  · exact Or.inl less
  · exact Or.inr ⟨same, ordered.2 same.ge⟩

theorem newer_historyStamps : (historyStamps serverId channelId database).Pairwise Newer :=
  List.pairwise_map.mpr (newer_newestFirst _)

/-- It does not matter whether the rows are sorted or selected first. -/
theorem newestFirst_filter (test more : Message → Bool) :
    newestFirst (database.messages.rows.filter fun row => test row && more row) =
      (newestFirst (database.messages.rows.filter test)).filter more := by
  have ties := database.messages.ascending.filter test
  rw [← List.pairwise_reverse] at ties
  have both : (database.messages.rows.filter fun row => test row && more row) =
      (database.messages.rows.filter test).filter more := by
    rw [List.filter_filter]
    exact List.filter_congr fun _ _ => Bool.and_comm _ _
  unfold newestFirst
  rw [both, ← List.filter_reverse]
  apply insertionSort_filter _ _ ties
  intro left right before after
  exact absurd (Nat.lt_trans before after) (Nat.lt_irrefl _)

theorem map_messagesPage (atMost : limit ≤ 100) (before : Option String) :
    (messagesPage serverId channelId before (some (min limit 200)) database).map .ofMessage =
      (historyPaging limit).page before (historyStamps serverId channelId database) := by
  unfold messagesPage Paging.page historyStamps channelHistory
  rw [newestFirst_filter, List.map_take, List.filter_map]
  have size : min ((some (min limit 200)).getD 50) 100 = limit := by
    rw [Option.getD_some]
    omega
  rw [size]
  rfl

theorem map_historyPages (atMost : limit ≤ 100) :
    (historyPages serverId channelId limit databases count).map .ofMessage =
      (historyPaging limit).pages none
        (fun time => historyStamps serverId channelId (databases time)) count := by
  induction count with
  | zero => exact map_messagesPage atMost none
  | succ count induction =>
      rw [historyPages, Paging.pages, ← induction, List.getLast?_map]
      cases (historyPages serverId channelId limit databases count).getLast? with
      | none => rfl
      | some oldest => exact map_messagesPage atMost (some oldest.messageId)

theorem map_receivedMessages (atMost : limit ≤ 100) :
    (receivedMessages serverId channelId limit databases count).map .ofMessage =
      (historyPaging limit).received none
        (fun time => historyStamps serverId channelId (databases time)) count := by
  unfold receivedMessages Paging.received
  rw [List.map_flatMap]
  exact congrArg (List.flatMap · _) (funext fun _ => map_historyPages atMost)

theorem historyPages_eq_nil (atMost : limit ≤ 100) :
    historyPages serverId channelId limit databases count = [] ↔
      (historyPaging limit).pages none
        (fun time => historyStamps serverId channelId (databases time)) count = [] := by
  rw [← map_historyPages atMost, List.map_eq_nil_iff]

/-- The pages the client reads, as pages in general. -/
theorem historyComplete_iff (atMost : limit ≤ 100) :
    HistoryComplete serverId channelId limit databases ↔
      (historyPaging limit).Complete Newer
        fun time => historyStamps serverId channelId (databases time) := by
  constructor
  · intro complete
    refine ⟨fun count => ?_, fun count done => ?_, fun front => ?_⟩
    · rw [← map_receivedMessages atMost]
      exact complete.ordered count
    · rw [← map_receivedMessages atMost]
      exact complete.everything count ((historyPages_eq_nil atMost).mpr done)
    · rcases complete.ends front with ⟨count, done⟩
      exact ⟨count, (historyPages_eq_nil atMost).mp done⟩
  · intro complete
    refine ⟨fun count => ?_, fun count done => ?_, fun front => ?_⟩
    · rw [map_receivedMessages atMost]
      exact complete.ordered count
    · rw [map_receivedMessages atMost]
      exact complete.everything count ((historyPages_eq_nil atMost).mp done)
    · rcases complete.ends front with ⟨count, done⟩
      exact ⟨count, (historyPages_eq_nil atMost).mpr done⟩

end History

/-- At every fetch, what the server finds before the id of the oldest message is what comes
after that message. -/
def CursorsSeparate (serverId : Nat) (channelId : String) (limit : Nat)
    (databases : Nat → Database) : Prop :=
  ∀ count oldest,
    (historyPages serverId channelId limit databases count).getLast? = some oldest →
    ∀ stamp ∈ historyStamps serverId channelId (databases (count + 1)),
      stamp.createdAt < oldest.messageId ↔ Newer (.ofMessage oldest) stamp

/-- At the end of every page, and of the history, the id of the oldest message does not sort
after its own time, and sorts after that of the next message. -/
def PageEndsSeparate (limit : Nat) (history : List MessageStamp) : Prop :=
  ∀ front back oldest, history = front ++ back → front.getLast? = some oldest →
    limit ∣ front.length ∨ back = [] →
      ¬ oldest.createdAt < oldest.messageId ∧
        ∀ next, back.head? = some next → next.createdAt < oldest.messageId

theorem separated_of_cursorsSeparate {serverId : Nat} {channelId : String} {limit : Nat}
    {databases : Nat → Database} (atMost : limit ≤ 100)
    (separate : CursorsSeparate serverId channelId limit databases) :
    (historyPaging limit).Separated Newer
      fun time => historyStamps serverId channelId (databases time) := by
  intro count last ended stamp member
  rw [← map_historyPages atMost, List.getLast?_map, Option.map_eq_some_iff] at ended
  rcases ended with ⟨oldest, isOldest, same⟩
  rw [← same]
  exact decide_eq_true_iff.trans (separate count oldest isOldest stamp member)

theorem boundariesSeparate_iff {limit : Nat} {history : List MessageStamp} :
    (historyPaging limit).BoundariesSeparate history ↔ PageEndsSeparate limit history := by
  unfold Paging.BoundariesSeparate PageEndsSeparate historyPaging
  simp only [decide_eq_false_iff_not, decide_eq_true_eq]

/-- Paging through a history is complete if at every fetch the cursor separates; in a history
that stays as it is, exactly if it does at the end of every page. -/
theorem historyComplete_iff_pageEndsSeparate (serverId : Nat) (channelId : String) (limit : Nat)
    (positive : 1 ≤ limit) (atMost : limit ≤ 100) :
    (∀ databases, CursorsSeparate serverId channelId limit databases →
      HistoryComplete serverId channelId limit databases) ∧
    ∀ database, HistoryComplete serverId channelId limit (fun _ => database) ↔
      PageEndsSeparate limit (historyStamps serverId channelId database) := by
  have hasRows : 0 < (historyPaging limit).limit := positive
  constructor
  · intro databases separate
    rw [historyComplete_iff atMost]
    apply Paging.complete_of_separated hasRows not_newer_self newer_trans
    · exact fun time => newer_historyStamps
    · exact separated_of_cursorsSeparate atMost separate
  · intro database
    rw [historyComplete_iff atMost, ← boundariesSeparate_iff]
    apply Paging.complete_const_iff hasRows not_newer_self newer_trans _ newer_historyStamps
    intro cursor newer older isNewer isPast
    have past := of_decide_eq_true isPast
    apply decide_eq_true
    rcases isNewer with less | ⟨same, _⟩
    · exact less.trans past
    · exact lt_of_eq_of_lt same past

/-! A history of one message. -/

def messageOfId (messageId : String) : Database :=
  { migrated with
    messages := Table.empty.insert fun id =>
      ⟨id, 1, "general", messageId, "alice", "first", none, "2026-01-01 00:00:00", none, none,
        none⟩ }

theorem historyComplete_iff_pageEndsSeparate_fifty :
    HistoryComplete 1 "general" 50 (fun _ => messageOfId "1c9e6679-7425-40de-944b-e07fc1f90ae7") ↔
      PageEndsSeparate 50
        (historyStamps 1 "general" (messageOfId "1c9e6679-7425-40de-944b-e07fc1f90ae7")) :=
  (historyComplete_iff_pageEndsSeparate 1 "general" 50 (by decide) (by decide)).2 _

/-- An id that sorts after the time brings the message again, page after page. -/
theorem history_repeats :
    ¬ ∀ (serverId : Nat) (channelId : String) (limit : Nat) (databases : Nat → Database),
      1 ≤ limit → limit ≤ 100 → HistoryComplete serverId channelId limit databases := by
  intro complete
  have ordered := (complete 1 "general" 50
    (fun _ => messageOfId "7c9e6679-7425-40de-944b-e07fc1f90ae7") (by decide) (by decide)).ordered 2
  exact absurd ordered (by decide +kernel)

end Annex.Server
