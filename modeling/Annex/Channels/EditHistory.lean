import Annex.Channels.Tombstone

namespace Annex.Channels

open Db Interleaving Sql

/-! What the history of a message keeps of its contents. An edit archives what it read before,
so that the content of another edit in between is overwritten without being archived. -/

/-- What `get_edit_history` returns. -/
def editHistory (messageId : String) (database : Database) : List MessageEdit :=
  (database.messageEdits.rows.filter (·.messageId = messageId)).insertionSort
    fun left right => left.editedAt ≤ right.editedAt

/-- The history of a message followed by its content. -/
def contentsInOrder (messageId : String) (database : Database) : List String :=
  (editHistory messageId database).map MessageEdit.oldContent ++
    ((findMessage messageId database).map Message.content).toList

namespace WriteCall

/-- Between the archiving of the old content and the storing of the new one. -/
def Overwrites : WriteCall → Prop
  | overwrite _ => True
  | _ => False

end WriteCall

namespace MessageWrites

/-- The content the step stores. -/
def storedBy (state : MessageWrites) : WriteLabel → Option String
  | .start _ _ => none
  | .advance id _ =>
      match state.calls id with
      | some (.overwrite newContent) => some newContent
      | _ => none

/-- The contents the edits of a run store, in order. -/
def storedContents (environment : Environment) (messageId : String) :
    MessageWrites → List WriteLabel → List String
  | _, [] => []
  | state, label :: labels =>
      (state.storedBy label).toList ++
        storedContents environment messageId
          (step (messageWrites environment messageId).program state label) labels

/-- Only edits are requested. -/
def Edits : WriteLabel → Prop
  | .start _ (.edit _ _) => True
  | .start _ (.delete _) => False
  | .advance _ _ => True

/-- What is archived is still the content, no other edit is about to overwrite it, and the
clock is not behind the history. -/
structure InTurn (messageId now oldContent : String) (state : MessageWrites) : Prop where
  current : (findMessage messageId state.shared).map Message.content = some oldContent
  alone : ¬ state.Pending WriteCall.Overwrites
  later : ∀ edit ∈ state.shared.messageEdits.rows, edit.messageId = messageId →
    edit.editedAt ≤ now

/-- Every edit archives in its turn. -/
def Uncrossed (messageId : String) (state : MessageWrites) : WriteLabel → Prop
  | .start _ _ => True
  | .advance id clock => ∀ newContent oldContent,
      state.calls id = some (.archive newContent oldContent) →
        InTurn messageId clock.datetime oldContent state

variable {environment : Environment} {messageId : String}

section Order

variable {α : Type} {relation : α → α → Prop} [DecidableRel relation]

theorem orderedInsert_concat {item last : α} {list : List α} (below : relation item last) :
    (list ++ [last]).orderedInsert relation item =
      list.orderedInsert relation item ++ [last] := by
  induction list with
  | nil => exact List.orderedInsert_cons_of_le relation [] below
  | cons head tail induction =>
      rw [List.cons_append, List.orderedInsert_cons, List.orderedInsert_cons]
      split
      · rfl
      · rw [induction, List.cons_append]

/-- What is below no other item stays last. -/
theorem insertionSort_concat {last : α} {list : List α}
    (below : ∀ item ∈ list, relation item last) :
    (list ++ [last]).insertionSort relation = list.insertionSort relation ++ [last] := by
  induction list with
  | nil => rfl
  | cons head tail induction =>
      rw [List.forall_mem_cons] at below
      rw [List.cons_append, List.insertionSort_cons, induction below.2,
        List.insertionSort_cons]
      exact orderedInsert_concat below.1

end Order

theorem editHistory_archiveContent {now oldContent : String} {database : Database}
    (later : ∀ edit ∈ database.messageEdits.rows, edit.messageId = messageId →
      edit.editedAt ≤ now) :
    (editHistory messageId (archiveContent now messageId oldContent database)).map
        MessageEdit.oldContent =
      (editHistory messageId database).map MessageEdit.oldContent ++ [oldContent] := by
  have last : ∀ edit ∈ database.messageEdits.rows.filter (·.messageId = messageId),
      edit.editedAt ≤
        (⟨database.messageEdits.lastId + 1, messageId, oldContent, now⟩ :
          MessageEdit).editedAt := by
    intro edit member
    rw [List.mem_filter, decide_eq_true_eq] at member
    exact later edit member.1 member.2
  rw [editHistory, archiveContent, Table.rows_insert, List.filter_append,
    List.filter_singleton]
  simp only [decide_true, cond_true]
  rw [insertionSort_concat last, List.map_append, editHistory]
  rfl

theorem contentsInOrder_archiveContent {now oldContent : String} {database : Database}
    (later : ∀ edit ∈ database.messageEdits.rows, edit.messageId = messageId →
      edit.editedAt ≤ now) :
    contentsInOrder messageId (archiveContent now messageId oldContent database) =
      (editHistory messageId database).map MessageEdit.oldContent ++ [oldContent] ++
        ((findMessage messageId database).map Message.content).toList := by
  rw [contentsInOrder, editHistory_archiveContent later]
  rfl

theorem contentsInOrder_overwriteMessage {now newContent content : String}
    {database : Database}
    (stored : (findMessage messageId database).map Message.content = some content) :
    contentsInOrder messageId (overwriteMessage now messageId newContent database) =
      (editHistory messageId database).map MessageEdit.oldContent ++ [newContent] := by
  rcases Option.map_eq_some_iff.mp stored with ⟨message, found, _⟩
  rw [contentsInOrder, findMessage_overwriteMessage, found]
  rfl

/-- The history and the content are what was stored, but for the content that an edit has
archived and is about to overwrite. -/
structure Complete (messageId : String) (recorded : List String) (state : MessageWrites) :
    Prop where
  edits : ∀ id call, state.calls id = some call → call.IsEdit
  single : ∀ id otherId call other, state.calls id = some call → call.Overwrites →
    state.calls otherId = some other → other.Overwrites → otherId = id
  settled : ¬ state.Pending WriteCall.Overwrites →
    contentsInOrder messageId state.shared = recorded
  archived : state.Pending WriteCall.Overwrites →
    ∃ content, (findMessage messageId state.shared).map Message.content = some content ∧
      contentsInOrder messageId state.shared = recorded ++ [content]
  held : ∀ content, (findMessage messageId state.shared).map Message.content = some content →
    content ∈ recorded

theorem complete_idle {database : Database} :
    Complete messageId (contentsInOrder messageId database) (idle database) where
  edits _ _ found := by cases found
  single _ _ _ _ found := by cases found
  settled _ := rfl
  archived pending := absurd pending ((idle_idle database).not_pending _)
  held content stored := by
    change (findMessage messageId database).map Message.content = some content at stored
    rw [contentsInOrder, stored]
    exact List.mem_append_right _ (List.mem_singleton_self content)

/-- A step outside the writes keeps what is complete. -/
theorem Complete.quiet {recorded : List String} {state : MessageWrites} {id : Nat}
    {next : Option WriteCall} (complete : Complete messageId recorded state)
    (before : ∀ call, state.calls id = some call → ¬ call.Overwrites)
    (after : ∀ call, next = some call → call.IsEdit ∧ ¬ call.Overwrites) :
    Complete messageId recorded
      ⟨state.shared, Function.update state.calls id next⟩ := by
  have pending := @pending_update _ _ state state.shared id next _ before
    fun call written => (after call written).2
  have old {otherId : Nat} {call : WriteCall} (overwrites : call.Overwrites)
      (found : Function.update state.calls id next otherId = some call) :
      state.calls otherId = some call :=
    (calls_of_update found fun written => (after call written).2 overwrites).2
  constructor
  · intro otherId call found
    by_cases written : next = some call
    · exact (after call written).1
    · exact complete.edits otherId call (calls_of_update found written).2
  · intro first second call other found overwrites otherFound otherOverwrites
    exact complete.single first second call other (old overwrites found) overwrites
      (old otherOverwrites otherFound) otherOverwrites
  · intro none
    exact complete.settled fun overwriting => none (pending.mpr overwriting)
  · intro overwriting
    exact complete.archived (pending.mp overwriting)
  · exact complete.held

/-- An archive in its turn leaves one content in the history that is still stored. -/
theorem Complete.archive {recorded : List String} {state : MessageWrites} {id : Nat}
    {now newContent oldContent : String} (complete : Complete messageId recorded state)
    (inTurn : InTurn messageId now oldContent state) :
    Complete messageId recorded
      ⟨archiveContent now messageId oldContent state.shared,
        Function.update state.calls id (some (.overwrite newContent))⟩ := by
  have own {otherId : Nat} {call : WriteCall} (overwrites : call.Overwrites)
      (found : Function.update state.calls id (some (.overwrite newContent)) otherId =
        some call) : otherId = id := by
    by_contra different
    rw [Function.update_of_ne different] at found
    exact inTurn.alone ⟨otherId, call, found, overwrites⟩
  constructor
  · intro otherId call found
    by_cases written : some (WriteCall.overwrite newContent) = some call
    · cases written
      trivial
    · exact complete.edits otherId call (calls_of_update found written).2
  · intro first second call other found overwrites otherFound otherOverwrites
    rw [own overwrites found, own otherOverwrites otherFound]
  · intro none
    exact absurd (pending_next rfl trivial) none
  · intro _
    refine ⟨oldContent, inTurn.current, ?_⟩
    rw [contentsInOrder_archiveContent inTurn.later, inTurn.current,
      ← complete.settled inTurn.alone, contentsInOrder, inTurn.current]
    rfl
  · exact complete.held

/-- The new content follows the one that was archived. -/
theorem Complete.overwrite {recorded : List String} {state : MessageWrites} {id : Nat}
    {now newContent : String} (complete : Complete messageId recorded state)
    (found : state.calls id = some (.overwrite newContent)) :
    Complete messageId (recorded ++ [newContent])
      ⟨overwriteMessage now messageId newContent state.shared,
        Function.update state.calls id (some .edited)⟩ := by
  have last : ¬ Pending ⟨overwriteMessage now messageId newContent state.shared,
      Function.update state.calls id (some .edited)⟩ WriteCall.Overwrites := by
    intro pending
    rcases pending with ⟨otherId, call, otherFound, overwrites⟩
    by_cases written : some WriteCall.edited = some call
    · cases written
      exact overwrites
    · have old := calls_of_update otherFound written
      exact old.1 (complete.single id otherId _ call found trivial old.2 overwrites)
  constructor
  · intro otherId call otherFound
    by_cases written : some WriteCall.edited = some call
    · cases written
      trivial
    · exact complete.edits otherId call (calls_of_update otherFound written).2
  · intro first second call other firstFound overwrites
    exact absurd ⟨first, call, firstFound, overwrites⟩ last
  · intro _
    rcases complete.archived ⟨id, _, found, trivial⟩ with ⟨content, stored, archived⟩
    rw [contentsInOrder, stored] at archived
    rw [contentsInOrder_overwriteMessage stored, List.append_cancel_right archived]
  · exact fun pending => absurd pending last
  · intro content stored
    rw [findMessage_overwriteMessage] at stored
    cases before : findMessage messageId state.shared with
    | none =>
        rw [before] at stored
        cases stored
    | some message =>
        rw [before] at stored
        cases stored
        exact List.mem_append_right _ (List.mem_singleton_self newContent)

/-- Every step of edits that archive in their turn records what it stores. -/
theorem complete_step {recorded : List String} {state : MessageWrites} {label : WriteLabel}
    (complete : Complete messageId recorded state) (edits : Edits label)
    (uncrossed : Uncrossed messageId state label) :
    Complete messageId (recorded ++ (state.storedBy label).toList)
      (step (messageWrites environment messageId).program state label) := by
  have stepped := (messageWrites environment messageId).steps state label
  generalize step (messageWrites environment messageId).program state label = after at stepped ⊢
  cases stepped with
  | taken found => exact (List.append_nil recorded).symm ▸ complete
  | @start id request free =>
      rw [storedBy, Option.toList_none, List.append_nil]
      apply complete.quiet
      · intro call found
        rw [free] at found
        cases found
      · intro call entered
        cases entered
        cases request with
        | edit senderPseudonym newContent => exact ⟨trivial, not_false⟩
        | delete senderPseudonym => exact edits.elim
  | absent free =>
      rw [storedBy, free, Option.toList_none, List.append_nil]
      exact complete
  | @last id clock call _ result found ends =>
      have quiet : ¬ call.Overwrites := by
        intro overwrites
        cases call with
        | overwrite newContent => cases ends
        | _ => exact overwrites
      have unstored : state.storedBy (.advance id clock) = none := by
        rw [storedBy, found]
        cases call with
        | overwrite newContent => exact absurd trivial quiet
        | _ => rfl
      rw [unstored, Option.toList_none, List.append_nil, database_of_end ends]
      apply complete.quiet
      · exact of_found found quiet
      · intro call continues
        cases continues
  | @next id clock call _ rest found continues =>
      have isEdit := complete.edits id call found
      cases continues_of_step continues with
      | checkEdit newContent stored alive =>
          rw [storedBy, found, Option.toList_none, List.append_nil]
          apply complete.quiet
          · exact of_found found not_false
          · intro call continues
            cases continues
            exact ⟨trivial, not_false⟩
      | archive newContent oldContent =>
          rw [storedBy, found, Option.toList_none, List.append_nil]
          exact complete.archive (uncrossed newContent oldContent found)
      | overwrite newContent =>
          rw [storedBy, found]
          exact complete.overwrite found
      | checkDelete stored alive => exact isEdit.elim
      | tombstone => exact isEdit.elim

theorem storedContents_append {state : MessageWrites} {front back : List WriteLabel} :
    storedContents environment messageId state (front ++ back) =
      storedContents environment messageId state front ++
        storedContents environment messageId
          (Execution.run (step (messageWrites environment messageId).program) state front)
          back := by
  induction front generalizing state with
  | nil => rfl
  | cons label front induction =>
      rw [List.cons_append, storedContents, storedContents, induction, List.append_assoc]
      rfl

theorem complete_run {recorded : List String} {state : MessageWrites}
    {labels : List WriteLabel} (complete : Complete messageId recorded state)
    (edits : ∀ label ∈ labels, Edits label)
    (uncrossed : Execution.Guarded (step (messageWrites environment messageId).program)
      (Uncrossed messageId) state labels) :
    Complete messageId (recorded ++ storedContents environment messageId state labels)
      (Execution.run (step (messageWrites environment messageId).program) state labels) := by
  induction labels generalizing recorded state with
  | nil => exact (List.append_nil recorded).symm ▸ complete
  | cons label labels induction =>
      rw [List.forall_mem_cons] at edits
      have next := induction (complete_step complete edits.1 uncrossed.1) edits.2 uncrossed.2
      rw [List.append_assoc] at next
      exact next

/-- When the edits of a message have ended, its history and its content are the contents that
were stored, in their order, and every content it held is among them. -/
theorem edit_history_complete (environment : Environment) (messageId : String)
    (database : Database) (labels : List WriteLabel)
    (edits : ∀ label ∈ labels, Edits label)
    (uncrossed : Execution.Guarded (step (messageWrites environment messageId).program)
      (Uncrossed messageId) (idle database) labels)
    (ended : (Execution.run (step (messageWrites environment messageId).program)
      (idle database) labels).Idle) :
    contentsInOrder messageId (Execution.run
        (step (messageWrites environment messageId).program) (idle database) labels).shared =
      contentsInOrder messageId database ++
        storedContents environment messageId (idle database) labels ∧
    ∀ state, Execution.Visits (step (messageWrites environment messageId).program)
      (idle database) labels state → ∀ message,
        findMessage messageId state.shared = some message →
          message.content ∈ contentsInOrder messageId (Execution.run
            (step (messageWrites environment messageId).program) (idle database)
              labels).shared := by
  have whole := (complete_run complete_idle edits uncrossed).settled (ended.not_pending _)
  constructor
  · exact whole
  · intro state visited message stored
    rcases visited with ⟨front, ⟨back, split⟩, reached⟩
    subst split reached
    have before := complete_run complete_idle
      (fun label member => edits label (List.mem_append_left _ member))
      (Execution.guarded_append.mp uncrossed).1
    have held := before.held message.content (by rw [stored, Option.map_some])
    rw [whole, storedContents_append, ← List.append_assoc]
    exact List.mem_append_left _ held

section Sample

/-- One edit by itself. -/
def editAlone : List WriteLabel :=
  .start 0 (.edit "alice" "second") :: List.replicate 4 (.advance 0 writeClock)

/-- Two edits that both read the first content. -/
def crossedEdits : List WriteLabel :=
  [.start 0 (.edit "alice" "second"), .start 1 (.edit "alice" "third"),
    .advance 0 writeClock, .advance 1 writeClock] ++
  List.replicate 3 (.advance 0 writeClock) ++ List.replicate 3 (.advance 1 writeClock)

theorem idle_editAlone :
    (Execution.run (step (messageWrites writeEnvironment "m-1").program) (idle oneMessage)
      editAlone).Idle := by
  apply @idle_run _ _ _ _ _ _ _ 1
  · decide
  · intro id less
    rw [Nat.lt_one_iff.mp less]
    decide +kernel

theorem idle_crossedEdits :
    (Execution.run (step (messageWrites writeEnvironment "m-1").program) (idle oneMessage)
      crossedEdits).Idle := by
  apply @idle_run _ _ _ _ _ _ _ 2
  · decide
  · decide +kernel

theorem uncrossed_editAlone :
    Execution.Guarded (step (messageWrites writeEnvironment "m-1").program) (Uncrossed "m-1")
      (idle oneMessage) editAlone := by
  refine ⟨trivial, ?_, ?_, ?_, ?_, trivial⟩
  · intro newContent oldContent found
    cases found
  · intro newContent oldContent found
    have content : some (WriteCall.archive "second" "first") =
        some (WriteCall.archive newContent oldContent) := found
    cases content
    constructor
    · decide +kernel
    · apply not_pending_of_only found _ not_false
      intro other different
      have labels : ∀ label ∈ editAlone.take 2, label.id ≠ other := by
        simpa [editAlone, Label.id] using different.symm
      exact @calls_run_of_ne _ _ _ _ (messageWrites writeEnvironment "m-1").program
        (idle oneMessage) _ _ labels
    · intro edit member
      cases member
  · intro newContent oldContent found
    cases found
  · intro newContent oldContent found
    cases found

theorem edit_history_complete_editAlone :
    contentsInOrder "m-1" (Execution.run
        (step (messageWrites writeEnvironment "m-1").program) (idle oneMessage)
          editAlone).shared =
      contentsInOrder "m-1" oneMessage ++
        storedContents writeEnvironment "m-1" (idle oneMessage) editAlone ∧
    ∀ state, Execution.Visits (step (messageWrites writeEnvironment "m-1").program)
      (idle oneMessage) editAlone state → ∀ message,
        findMessage "m-1" state.shared = some message →
          message.content ∈ contentsInOrder "m-1" (Execution.run
            (step (messageWrites writeEnvironment "m-1").program) (idle oneMessage)
              editAlone).shared :=
  edit_history_complete writeEnvironment "m-1" oneMessage editAlone
    (by simp [editAlone, Edits]) uncrossed_editAlone idle_editAlone

/-- The content of the first edit is nowhere. -/
theorem not_edit_history_complete :
    ¬ ∀ (environment : Environment) (messageId : String) (database : Database)
      (labels : List WriteLabel), (∀ label ∈ labels, Edits label) →
      (Execution.run (step (messageWrites environment messageId).program) (idle database)
        labels).Idle →
      contentsInOrder messageId (Execution.run
          (step (messageWrites environment messageId).program) (idle database)
            labels).shared =
        contentsInOrder messageId database ++
          storedContents environment messageId (idle database) labels ∧
      ∀ state, Execution.Visits (step (messageWrites environment messageId).program)
        (idle database) labels state → ∀ message,
          findMessage messageId state.shared = some message →
            message.content ∈ contentsInOrder messageId (Execution.run
              (step (messageWrites environment messageId).program) (idle database)
                labels).shared := by
  intro complete
  have whole := (complete writeEnvironment "m-1" oneMessage crossedEdits
    (by simp [crossedEdits, Edits]) idle_crossedEdits).1
  have kept : contentsInOrder "m-1" (Execution.run
      (step (messageWrites writeEnvironment "m-1").program) (idle oneMessage)
        crossedEdits).shared = ["first", "first", "third"] := by
    decide +kernel
  have stored : contentsInOrder "m-1" oneMessage ++
      storedContents writeEnvironment "m-1" (idle oneMessage) crossedEdits =
        ["first", "second", "third"] := by
    decide +kernel
  rw [kept, stored] at whole
  exact absurd whole (by decide)

end Sample

end MessageWrites

end Annex.Channels
