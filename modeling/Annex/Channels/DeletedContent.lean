import Annex.Channels.ContentRuns
import Annex.Channels.EditHistory
import Annex.Foundation.Execution

namespace Annex.Channels

open Db Sql

/-! What two runs that differ in the contents of one message leave of the difference. A
deletion clears the message, and nothing clears the contents an edit has archived. -/

/-- Two calls that differ at most in the content they give to the message. -/
inductive OtherContent (messageId : String) : ContentCall → ContentCall → Prop where
  | same (call : ContentCall) : OtherContent messageId call call
  | create (clock : Clock) (params : CreateMessageParams) (content : String)
      (named : params.messageId = messageId) :
      OtherContent messageId ⟨clock, .create params⟩
        ⟨clock, .create { params with content }⟩
  | edit (clock : Clock) (senderPseudonym newContent content : String) :
      OtherContent messageId ⟨clock, .edit messageId senderPseudonym newContent⟩
        ⟨clock, .edit messageId senderPseudonym content⟩

section Calls

variable (environment : Environment) (messageId : String)

/-- Whether the call is an edit of the message that passes its checks. -/
def acceptsEdit (database : Database) (call : ContentCall) : Bool :=
  match call.operation with
  | .create _ => false
  | .edit id senderPseudonym _ =>
      id = messageId &&
        (writable environment messageId call.clock senderPseudonym database).isSome
  | .delete _ _ => false

/-- The number of edits of the message that pass their checks. -/
def acceptedEdits : Database → List ContentCall → Nat
  | _, [] => 0
  | database, call :: calls =>
      (acceptsEdit environment messageId database call).toNat +
        acceptedEdits (contentStep environment database call) calls

end Calls

/-- The databases differ at most in the content of a message that is not deleted. -/
structure Apart (messageId : String) (left right : Database) : Prop where
  same : withoutContent messageId left = withoutContent messageId right
  edits : left.messageEdits = right.messageEdits
  deleted : Tombstoned messageId left → left.messages = right.messages

/-- The call with one more letter in the content it gives to the message. -/
def ContentOperation.marked (messageId : String) : ContentOperation → ContentOperation
  | .create params =>
      .create (if params.messageId = messageId then
        { params with content := params.content ++ "x" } else params)
  | .edit id senderPseudonym newContent =>
      .edit id senderPseudonym (if id = messageId then newContent ++ "x" else newContent)
  | .delete id senderPseudonym => .delete id senderPseudonym

def ContentCall.marked (messageId : String) (call : ContentCall) : ContentCall :=
  { call with operation := call.operation.marked messageId }

/-- A message that is not deleted has one letter more on the right. -/
structure Marked (messageId : String) (left right : Database) : Prop where
  same : withoutContent messageId left = withoutContent messageId right
  content : ∀ row other, findMessage messageId left = some row → row.deletedAt = none →
    findMessage messageId right = some other → other.content = row.content ++ "x"

/-- An entry of the message's history has one letter more on the right. -/
def Leaked (messageId : String) (left right : Database) : Prop :=
  ∃ id content editedAt, ⟨id, messageId, content, editedAt⟩ ∈ left.messageEdits.rows ∧
    ⟨id, messageId, content ++ "x", editedAt⟩ ∈ right.messageEdits.rows

variable {environment : Environment} {messageId : String}

theorem otherContent_marked (call : ContentCall) :
    OtherContent messageId call (call.marked messageId) := by
  rcases call with ⟨clock, params | ⟨id, senderPseudonym, newContent⟩ | ⟨id, senderPseudonym⟩⟩
  · rw [ContentCall.marked, ContentOperation.marked]
    by_cases named : params.messageId = messageId
    · rw [if_pos named]
      exact .create clock params _ named
    · rw [if_neg named]
      exact .same _
  · rw [ContentCall.marked, ContentOperation.marked]
    by_cases named : id = messageId
    · rw [if_pos named, named]
      exact .edit clock senderPseudonym newContent _
    · rw [if_neg named]
      exact .same _
  · exact .same _

theorem OtherContent.withoutContent_eq {call other : ContentCall}
    (differ : OtherContent messageId call other) :
    call.withoutContent messageId = other.withoutContent messageId := by
  cases differ with
  | same => rfl
  | create clock params content named =>
      simp [ContentCall.withoutContent, ContentOperation.withoutContent, named]
  | edit clock senderPseudonym newContent content =>
      simp [ContentCall.withoutContent, ContentOperation.withoutContent]

theorem eq_of_withoutContent {left right : Database}
    (same : withoutContent messageId left = withoutContent messageId right)
    (messages : left.messages = right.messages)
    (edits : left.messageEdits = right.messageEdits) : left = right := by
  have rest := congrArg (fun database : Database =>
    { database with messages := left.messages, messageEdits := left.messageEdits }) same
  calc left
      = { withoutContent messageId left with
          messages := left.messages, messageEdits := left.messageEdits } := rfl
    _ = { withoutContent messageId right with
          messages := left.messages, messageEdits := left.messageEdits } := rest
    _ = right := by
        rw [messages, edits]
        rfl

section Writes

variable {database : Database} {clock : Clock} {id : String}

/-- The message a creation stores. -/
def newMessage (clock : Clock) (serverId : Nat) (retentionDays : Option Nat)
    (params : CreateMessageParams) (id : Nat) : Message where
  id
  serverId
  channelId := params.channelId
  messageId := params.messageId
  senderPseudonym := params.senderPseudonym
  content := params.content
  replyToMessageId := params.replyToMessageId
  createdAt := clock.datetime
  expiresAt := retentionDays.bind clock.datetimePlusDays
  editedAt := none
  deletedAt := none

def withMessage (clock : Clock) (serverId : Nat) (retentionDays : Option Nat)
    (params : CreateMessageParams) (database : Database) : Database :=
  { database with
    messages := database.messages.insert (newMessage clock serverId retentionDays params) }

/-- A message whose id another update selects. -/
theorem findMessage_updateMessage_map {change : Message → Message}
    {keyed : ∀ row, key (change row) = key row}
    (named : ∀ row : Message, (change row).messageId = row.messageId) :
    findMessage messageId (updateMessage id change database keyed) =
      (findMessage messageId database).map fun row =>
        if row.messageId = id then change row else row := by
  have same : (fun row : Message => decide (row.messageId = messageId)) ∘
      (fun row => if decide (row.messageId = id) = true then change row else row) =
        fun row => decide (row.messageId = messageId) := by
    funext row
    rw [Function.comp_apply]
    split
    · rw [named]
    · rfl
  rw [findMessage, updateMessage, Table.rows_updateWhere, List.find?_map, same, findMessage]
  simp only [decide_eq_true_eq]

/-- What a creation leaves behind: nothing new, or one more message. -/
theorem contentStep_create_cases (params : CreateMessageParams) :
    contentStep environment database ⟨clock, .create params⟩ = database ∨
      findMessage params.messageId database = none ∧ ∃ serverId retentionDays,
        contentStep environment database ⟨clock, .create params⟩ =
          withMessage clock serverId retentionDays params database := by
  rw [contentStep_create]
  split
  · exact Or.inl rfl
  · next serverId retentionDays _ _ =>
    rw [insertMessage]
    by_cases known : database.messages.rows.any (·.messageId = params.messageId) = true
    · rw [if_pos known]
      exact Or.inl rfl
    · rw [if_neg known]
      by_cases missing : (database.servers.rows.any (·.id = serverId) &&
          database.channels.rows.any (·.channelId = params.channelId)) = false
      · rw [if_pos missing]
        exact Or.inl rfl
      · rw [if_neg missing]
        refine Or.inr ⟨?_, serverId, retentionDays, rfl⟩
        rw [findMessage, List.find?_eq_none]
        intro row member equal
        exact known (List.any_eq_true.mpr ⟨row, member, equal⟩)

theorem mem_messageEdits_contentStep {call : ContentCall} {row : MessageEdit}
    (member : row ∈ database.messageEdits.rows) :
    row ∈ (contentStep environment database call).messageEdits.rows := by
  rcases call with ⟨clock, params | ⟨id, senderPseudonym, newContent⟩ | ⟨id, senderPseudonym⟩⟩
  · rcases @contentStep_create_cases environment database clock params with
      same | ⟨_, _, _, inserted⟩
    · rw [same]
      exact member
    · rw [inserted]
      exact member
  · rw [contentStep_edit]
    split
    · exact List.mem_append_left _ member
    · exact member
  · rw [contentStep_delete]
    split
    · exact member
    · exact member

theorem messageEdits_create {params : CreateMessageParams} :
    (contentStep environment database ⟨clock, .create params⟩).messageEdits =
      database.messageEdits := by
  rcases @contentStep_create_cases environment database clock params with
    same | ⟨_, _, _, inserted⟩
  · rw [same]
  · rw [inserted]
    rfl

theorem messageEdits_edit {senderPseudonym newContent : String} :
    (contentStep environment database ⟨clock, .edit id senderPseudonym newContent⟩).messageEdits =
      match writable environment id clock senderPseudonym database with
      | some message =>
          database.messageEdits.insert fun key => ⟨key, id, message.content, clock.datetime⟩
      | none => database.messageEdits := by
  rw [contentStep_edit]
  cases writable environment id clock senderPseudonym database <;> rfl

theorem messageEdits_delete {senderPseudonym : String} :
    (contentStep environment database ⟨clock, .delete id senderPseudonym⟩).messageEdits =
      database.messageEdits := by
  rw [contentStep_delete]
  cases writable environment id clock senderPseudonym database <;> rfl

/-- The message that is found after a creation. -/
theorem findMessage_withMessage {serverId : Nat} {retentionDays : Option Nat}
    {params : CreateMessageParams} :
    findMessage messageId (withMessage clock serverId retentionDays params database) =
      (findMessage messageId database).or
        (if params.messageId = messageId then
          some (newMessage clock serverId retentionDays params (database.messages.lastId + 1))
        else none) := by
  have appended : (withMessage clock serverId retentionDays params database).messages.rows =
      database.messages.rows ++
        [newMessage clock serverId retentionDays params (database.messages.lastId + 1)] := rfl
  have named : (newMessage clock serverId retentionDays params
      (database.messages.lastId + 1)).messageId = params.messageId := rfl
  rw [findMessage, appended, List.find?_append, findMessage, List.find?_singleton, named]
  simp only [decide_eq_true_eq]

/-- Only a deletion leaves a tombstone. -/
theorem delete_of_tombstoned {call : ContentCall} (alive : ¬ Tombstoned messageId database)
    (deleted : Tombstoned messageId (contentStep environment database call)) :
    ∃ clock senderPseudonym message, call = ⟨clock, .delete messageId senderPseudonym⟩ ∧
      writable environment messageId clock senderPseudonym database = some message := by
  rcases deleted with ⟨row, found, gone⟩
  rcases call with ⟨clock, params | ⟨id, senderPseudonym, newContent⟩ | ⟨id, senderPseudonym⟩⟩
  · rcases @contentStep_create_cases environment database clock params with
      same | ⟨_, serverId, retentionDays, inserted⟩
    · rw [same] at found
      exact absurd ⟨row, found, gone⟩ alive
    · rw [inserted, findMessage_withMessage] at found
      cases before : findMessage messageId database with
      | some message =>
          rw [before, Option.some_or] at found
          exact absurd ⟨row, before.trans found, gone⟩ alive
      | none =>
          rw [before, Option.none_or] at found
          split at found
          · cases found
            exact absurd rfl gone
          · cases found
  · rw [contentStep_edit] at found
    split at found
    · rw [overwriteMessage, findMessage_updateMessage_map (by intro; rfl)] at found
      rcases Option.map_eq_some_iff.mp found with ⟨old, before, changed⟩
      have kept : old.deletedAt = row.deletedAt := by
        rw [← changed]
        split <;> rfl
      exact absurd ⟨old, before, kept ▸ gone⟩ alive
    · exact absurd ⟨row, found, gone⟩ alive
  · rw [contentStep_delete] at found
    split at found
    · next message passes =>
      by_cases named : id = messageId
      · subst named
        exact ⟨clock, senderPseudonym, message, rfl, passes⟩
      · rw [tombstoneMessage, findMessage_updateMessage_map (by intro; rfl)] at found
        rcases Option.map_eq_some_iff.mp found with ⟨old, before, changed⟩
        have here : old.messageId = messageId := by
          have selected := List.find?_some before
          simpa using selected
        rw [if_neg (here ▸ Ne.symm named)] at changed
        exact absurd ⟨old, before, changed ▸ gone⟩ alive
    · exact absurd ⟨row, found, gone⟩ alive

end Writes

section Pairs

variable {left right database : Database} {call other : ContentCall}

theorem writable_congr {id : String} {clock : Clock} {senderPseudonym : String}
    (same : withoutContent messageId left = withoutContent messageId right) :
    (writable environment id clock senderPseudonym left).map (blankMessage messageId) =
      (writable environment id clock senderPseudonym right).map (blankMessage messageId) := by
  rw [← writable_withoutContent, same, writable_withoutContent]

/-- Of a stored message, only an accepted edit takes a content. -/
theorem contentStep_congr_of_quiet (stored : findMessage messageId database ≠ none)
    (quiet : acceptsEdit environment messageId database call = false)
    (differ : OtherContent messageId call other) :
    contentStep environment database call = contentStep environment database other := by
  cases differ with
  | same => rfl
  | create clock params content named =>
      subst named
      rcases @contentStep_create_cases environment database clock params with
        same | ⟨absent, _⟩
      · rcases @contentStep_create_cases environment database clock
          { params with content } with same' | ⟨absent, _⟩
        · rw [same, same']
        · exact absurd absent stored
      · exact absurd absent stored
  | edit clock senderPseudonym newContent content =>
      have refused : writable environment messageId clock senderPseudonym database = none := by
        simpa [acceptsEdit] using quiet
      rw [contentStep_edit, contentStep_edit, refused]

/-- Archived contents stay the same while no edit of the message is accepted. -/
theorem Apart.messageEdits_contentStep (apart : Apart messageId left right)
    (quiet : acceptsEdit environment messageId left call = false)
    (differ : OtherContent messageId call other) :
    (contentStep environment left call).messageEdits =
      (contentStep environment right other).messageEdits := by
  have refused {clock : Clock} {senderPseudonym : String}
      (none : writable environment messageId clock senderPseudonym left = none) :
      writable environment messageId clock senderPseudonym right = Option.none := by
    have same := @writable_congr environment messageId _ _ messageId clock senderPseudonym
      apart.same
    rw [none] at same
    exact Option.map_eq_none_iff.mp same.symm
  cases differ with
  | same =>
      rcases call with
        ⟨clock, params | ⟨id, senderPseudonym, newContent⟩ | ⟨id, senderPseudonym⟩⟩
      · rw [messageEdits_create, messageEdits_create, apart.edits]
      · rw [messageEdits_edit, messageEdits_edit, apart.edits]
        by_cases named : id = messageId
        · subst named
          have none : writable environment id clock senderPseudonym left = none := by
            simpa [acceptsEdit] using quiet
          rw [none, refused none]
        · have same := @writable_congr environment messageId _ _ id clock senderPseudonym
            apart.same
          cases passes : writable environment id clock senderPseudonym left with
          | none =>
              rw [passes] at same
              rw [Option.map_eq_none_iff.mp same.symm]
          | some message =>
              rw [passes, Option.map_some] at same
              rcases Option.map_eq_some_iff.mp same.symm with ⟨row, passes', equal⟩
              have here : message.messageId = id := by
                have selected := List.find?_some (writable_eq_some.mp passes).1
                simpa using selected
              have there : row.messageId = id := by
                have selected := List.find?_some (writable_eq_some.mp passes').1
                simpa using selected
              rw [blankMessage, blankMessage, if_neg (there ▸ named),
                if_neg (here ▸ named)] at equal
              rw [passes', equal]
      · rw [messageEdits_delete, messageEdits_delete, apart.edits]
  | create clock params content named =>
      rw [messageEdits_create, messageEdits_create, apart.edits]
  | edit clock senderPseudonym newContent content =>
      have none : writable environment messageId clock senderPseudonym left = none := by
        simpa [acceptsEdit] using quiet
      rw [messageEdits_edit, messageEdits_edit, apart.edits, none, refused none]

/-- The deletion clears what the messages differ in. -/
theorem messages_tombstoneMessage {now : String}
    (same : withoutContent messageId left = withoutContent messageId right) :
    (tombstoneMessage now messageId left).messages =
      (tombstoneMessage now messageId right).messages := by
  have cleared (database : Database) :
      (tombstoneMessage now messageId database).messages.rows =
        (withoutContent messageId database).messages.rows.map fun row =>
          if row.messageId = messageId then
            { row with content := "", deletedAt := some now } else row := by
    rw [tombstoneMessage, updateMessage, Table.rows_updateWhere, rows_messages_withoutContent,
      List.map_map]
    apply List.map_congr_left
    intro row _
    by_cases here : row.messageId = messageId
    · simp [blankMessage, here]
    · simp [blankMessage, here]
  apply Table.ext
  · rw [cleared, cleared, same]
  · have lastIds := congrArg (fun database : Database => database.messages.lastId) same
    exact lastIds

theorem apart_step (apart : Apart messageId left right)
    (quiet : acceptsEdit environment messageId left call = false)
    (differ : OtherContent messageId call other) :
    Apart messageId (contentStep environment left call)
      (contentStep environment right other) := by
  by_cases deleted : Tombstoned messageId left
  · have equal := eq_of_withoutContent apart.same (apart.deleted deleted) apart.edits
    subst equal
    rcases deleted with ⟨message, found, _⟩
    have stored : findMessage messageId left ≠ none := by
      rw [found]
      exact Option.some_ne_none message
    rw [contentStep_congr_of_quiet stored quiet differ]
    exact ⟨rfl, rfl, fun _ => rfl⟩
  · constructor
    · exact contentStep_congr apart.same differ.withoutContent_eq
    · exact apart.messageEdits_contentStep quiet differ
    · intro after
      rcases delete_of_tombstoned deleted after with
        ⟨clock, senderPseudonym, message, isDelete, passes⟩
      subst isDelete
      cases differ
      have same := @writable_congr environment messageId _ _ messageId clock senderPseudonym
        apart.same
      rw [passes, Option.map_some] at same
      rcases Option.map_eq_some_iff.mp same.symm with ⟨row, passes', _⟩
      rw [contentStep_delete, contentStep_delete, passes, passes']
      exact messages_tombstoneMessage apart.same

/-- What the run's databases have in common is found in both. -/
theorem findMessage_congr
    (same : withoutContent messageId left = withoutContent messageId right) :
    (findMessage messageId left).map (blankMessage messageId) =
      (findMessage messageId right).map (blankMessage messageId) := by
  rw [← findMessage_withoutContent, same, findMessage_withoutContent]

theorem deletedAt_blankMessage (row : Message) :
    (blankMessage messageId row).deletedAt = row.deletedAt := by
  rw [blankMessage]
  split <;> rfl

theorem findMessage_create {clock : Clock} {params : CreateMessageParams} {row : Message}
    (found : findMessage messageId
      (contentStep environment database ⟨clock, .create params⟩) = some row) :
    findMessage messageId database = some row ∨
      findMessage messageId database = none ∧ params.messageId = messageId ∧
        row.content = params.content := by
  rcases @contentStep_create_cases environment database clock params with
    same | ⟨_, serverId, retentionDays, inserted⟩
  · rw [same] at found
    exact Or.inl found
  · rw [inserted, findMessage_withMessage] at found
    cases before : findMessage messageId database with
    | some message =>
        rw [before, Option.some_or] at found
        exact Or.inl found
    | none =>
        rw [before, Option.none_or] at found
        split at found
        · next named =>
          cases found
          exact Or.inr ⟨rfl, named, rfl⟩
        · cases found

theorem findMessage_edit {clock : Clock} {id senderPseudonym newContent : String}
    {row : Message} (found : findMessage messageId (contentStep environment database
      ⟨clock, .edit id senderPseudonym newContent⟩) = some row) :
    ∃ old, findMessage messageId database = some old ∧ row.deletedAt = old.deletedAt ∧
      row.content = if id = messageId ∧
          (writable environment id clock senderPseudonym database).isSome then newContent
        else old.content := by
  rw [contentStep_edit] at found
  cases passes : writable environment id clock senderPseudonym database with
  | none =>
      rw [passes] at found
      exact ⟨row, found, rfl, by simp⟩
  | some message =>
      rw [passes] at found
      dsimp only at found
      rw [overwriteMessage, findMessage_updateMessage_map (by intro; rfl)] at found
      rcases Option.map_eq_some_iff.mp found with ⟨old, before, changed⟩
      have here : old.messageId = messageId := by
        have selected := List.find?_some before
        simpa using selected
      subst here
      by_cases named : old.messageId = id
      · rw [if_pos named] at changed
        subst changed
        exact ⟨old, before, rfl, by simp [named]⟩
      · rw [if_neg named] at changed
        subst changed
        exact ⟨old, before, rfl, by simp [Ne.symm named]⟩

theorem findMessage_delete {clock : Clock} {id senderPseudonym : String} {row : Message}
    (found : findMessage messageId (contentStep environment database
      ⟨clock, .delete id senderPseudonym⟩) = some row) :
    findMessage messageId database = some row ∨ row.deletedAt ≠ none := by
  rw [contentStep_delete] at found
  cases passes : writable environment id clock senderPseudonym database with
  | none =>
      rw [passes] at found
      exact Or.inl found
  | some message =>
      rw [passes] at found
      dsimp only at found
      rw [tombstoneMessage, findMessage_updateMessage_map (by intro; rfl)] at found
      rcases Option.map_eq_some_iff.mp found with ⟨old, before, changed⟩
      split at changed
      · subst changed
        exact Or.inr (Option.some_ne_none _)
      · subst changed
        exact Or.inl before

/-- Checks ask nothing of the content. -/
theorem writable_isSome_congr {id : String} {clock : Clock} {senderPseudonym : String}
    (same : withoutContent messageId left = withoutContent messageId right) :
    (writable environment id clock senderPseudonym left).isSome =
      (writable environment id clock senderPseudonym right).isSome := by
  have checks := congrArg Option.isSome (@writable_congr environment messageId left right id
    clock senderPseudonym same)
  rwa [Option.isSome_map, Option.isSome_map] at checks

theorem marked_step (marked : Marked messageId left right) :
    Marked messageId (contentStep environment left call)
      (contentStep environment right (call.marked messageId)) := by
  constructor
  · exact contentStep_congr marked.same (otherContent_marked call).withoutContent_eq
  · intro row other found alive otherFound
    have both := congrArg Option.isSome (findMessage_congr marked.same)
    rw [Option.isSome_map, Option.isSome_map] at both
    rcases call with
      ⟨clock, params | ⟨id, senderPseudonym, newContent⟩ | ⟨id, senderPseudonym⟩⟩
    · rcases findMessage_create found with before | ⟨absent, named, content⟩
      · rcases findMessage_create otherFound with otherBefore | ⟨otherAbsent, _, _⟩
        · exact marked.content row other before alive otherBefore
        · rw [before, otherAbsent] at both
          cases both
      · rcases findMessage_create otherFound with otherBefore | ⟨_, _, otherContent⟩
        · rw [absent, otherBefore] at both
          cases both
        · rw [otherContent, if_pos named, content]
    · rcases findMessage_edit found with ⟨old, before, gone, content⟩
      rcases findMessage_edit otherFound with ⟨otherOld, otherBefore, _, otherContent⟩
      have kept := marked.content old otherOld before (gone ▸ alive) otherBefore
      rw [otherContent, content, ← writable_isSome_congr marked.same]
      by_cases edited : id = messageId ∧
          (writable environment id clock senderPseudonym left).isSome = true
      · rw [if_pos edited, if_pos edited, if_pos edited.1]
      · rw [if_neg edited, if_neg edited, kept]
    · rcases findMessage_delete found with before | gone
      · rcases findMessage_delete otherFound with otherBefore | otherGone
        · exact marked.content row other before alive otherBefore
        · have after := findMessage_congr (@contentStep_congr environment messageId left right
            _ _ marked.same
              (otherContent_marked ⟨clock, .delete id senderPseudonym⟩).withoutContent_eq)
          rw [found, otherFound, Option.map_some, Option.map_some, Option.some.injEq] at after
          have same := congrArg Message.deletedAt after
          rw [deletedAt_blankMessage, deletedAt_blankMessage] at same
          exact absurd (same ▸ alive) otherGone
      · exact absurd alive gone

theorem acceptsEdit_eq_true {call : ContentCall}
    (accepted : acceptsEdit environment messageId database call = true) :
    ∃ clock senderPseudonym newContent row,
      call = ⟨clock, .edit messageId senderPseudonym newContent⟩ ∧
        writable environment messageId clock senderPseudonym database = some row := by
  rcases call with ⟨clock, params | ⟨id, senderPseudonym, newContent⟩ | ⟨id, senderPseudonym⟩⟩
  · cases accepted
  · rw [acceptsEdit, Bool.and_eq_true, decide_eq_true_eq] at accepted
    rcases accepted with ⟨named, passes⟩
    subst named
    rcases Option.isSome_iff_exists.mp passes with ⟨row, passes⟩
    exact ⟨clock, senderPseudonym, newContent, row, rfl, passes⟩
  · cases accepted

/-- An edit archives the letter. -/
theorem leaked_of_accepted (marked : Marked messageId left right)
    (accepted : acceptsEdit environment messageId left call = true) :
    Leaked messageId (contentStep environment left call)
      (contentStep environment right (call.marked messageId)) := by
  rcases acceptsEdit_eq_true accepted with
    ⟨clock, senderPseudonym, newContent, row, isEdit, passes⟩
  subst isEdit
  have same := @writable_congr environment messageId left right messageId clock
    senderPseudonym marked.same
  rw [passes, Option.map_some] at same
  rcases Option.map_eq_some_iff.mp same.symm with ⟨other, otherPasses, _⟩
  have lastIds := congrArg (fun database : Database => database.messageEdits.lastId)
    marked.same
  change left.messageEdits.lastId = right.messageEdits.lastId at lastIds
  have content := marked.content row other (writable_eq_some.mp passes).1
    (writable_eq_some.mp passes).2.2.1 (writable_eq_some.mp otherPasses).1
  refine ⟨left.messageEdits.lastId + 1, row.content, clock.datetime, ?_, ?_⟩
  · rw [messageEdits_edit, passes]
    exact List.mem_append_right _ (List.mem_singleton_self _)
  · rw [ContentCall.marked, ContentOperation.marked, messageEdits_edit, otherPasses, ← content,
      lastIds]
    exact List.mem_append_right _ (List.mem_singleton_self _)

/-- From the same database on, an accepted edit makes the difference. -/
theorem marked_of_accepted (accepted : acceptsEdit environment messageId database call = true) :
    Marked messageId (contentStep environment database call)
      (contentStep environment database (call.marked messageId)) := by
  constructor
  · exact contentStep_congr rfl (otherContent_marked call).withoutContent_eq
  · intro row other found _ otherFound
    rcases acceptsEdit_eq_true accepted with
      ⟨clock, senderPseudonym, newContent, message, isEdit, passes⟩
    subst isEdit
    rcases findMessage_edit found with ⟨_, _, _, content⟩
    rcases findMessage_edit otherFound with ⟨_, _, _, otherContent⟩
    rw [otherContent, content, passes]
    simp

theorem apart_of_accepted (accepted : acceptsEdit environment messageId database call = true)
    (differ : OtherContent messageId call other) :
    Apart messageId (contentStep environment database call)
      (contentStep environment database other) := by
  rcases acceptsEdit_eq_true accepted with
    ⟨clock, senderPseudonym, newContent, message, isEdit, passes⟩
  subst isEdit
  constructor
  · exact contentStep_congr rfl differ.withoutContent_eq
  · cases differ with
    | same => rfl
    | edit => rw [messageEdits_edit, messageEdits_edit]
  · intro deleted
    have alive : ¬ Tombstoned messageId database := by
      intro before
      rcases before with ⟨row, found, gone⟩
      rcases writable_eq_some.mp passes with ⟨found', _, alive, _⟩
      rw [found, Option.some.injEq] at found'
      exact gone (found' ▸ alive)
    rcases delete_of_tombstoned alive deleted with ⟨_, _, _, isDelete, _⟩
    cases isDelete

end Pairs

section Runs

variable {left right database : Database} {calls others : List ContentCall}

theorem stored_contentStep {call : ContentCall}
    (stored : findMessage messageId database ≠ none) :
    findMessage messageId (contentStep environment database call) ≠ none := by
  rcases call with ⟨clock, params | ⟨id, senderPseudonym, newContent⟩ | ⟨id, senderPseudonym⟩⟩
  · rcases @contentStep_create_cases environment database clock params with
      same | ⟨_, serverId, retentionDays, inserted⟩
    · rwa [same]
    · rw [inserted, findMessage_withMessage]
      intro absent
      exact stored (Option.or_eq_none_iff.mp absent).1
  · rw [contentStep_edit]
    split
    · rw [overwriteMessage, findMessage_updateMessage_map (by intro; rfl)]
      intro absent
      exact stored (Option.map_eq_none_iff.mp absent)
    · exact stored
  · rw [contentStep_delete]
    split
    · rw [tombstoneMessage, findMessage_updateMessage_map (by intro; rfl)]
      intro absent
      exact stored (Option.map_eq_none_iff.mp absent)
    · exact stored

theorem apart_run (apart : Apart messageId left right)
    (differ : List.Forall₂ (OtherContent messageId) calls others)
    (none : acceptedEdits environment messageId left calls = 0) :
    Apart messageId (Execution.run (contentStep environment) left calls)
      (Execution.run (contentStep environment) right others) := by
  induction differ generalizing left right with
  | nil => exact apart
  | @cons call other calls others first rest induction =>
      rw [acceptedEdits, Nat.add_eq_zero_iff, Bool.toNat_eq_zero] at none
      exact induction (apart_step apart none.1 first) none.2

/-- Of a message that was there before, the first edit archives the same content. -/
theorem apart_run_of_stored (stored : findMessage messageId database ≠ none)
    (differ : List.Forall₂ (OtherContent messageId) calls others)
    (few : acceptedEdits environment messageId database calls ≤ 1) :
    Apart messageId (Execution.run (contentStep environment) database calls)
      (Execution.run (contentStep environment) database others) := by
  induction differ generalizing database with
  | nil => exact ⟨rfl, rfl, fun _ => rfl⟩
  | @cons call other calls others first rest induction =>
      rw [acceptedEdits] at few
      rw [Execution.run_cons, Execution.run_cons]
      cases accepted : acceptsEdit environment messageId database call with
      | true =>
          rw [accepted, Bool.toNat_true] at few
          exact apart_run (apart_of_accepted accepted first) rest (by omega)
      | false =>
          rw [accepted, Bool.toNat_false, Nat.zero_add] at few
          have next := induction (stored_contentStep stored) few
          rw [← contentStep_congr_of_quiet stored accepted first]
          exact next

theorem leaked_run (leaked : Leaked messageId left right) (calls others : List ContentCall) :
    Leaked messageId (Execution.run (contentStep environment) left calls)
      (Execution.run (contentStep environment) right others) := by
  rcases leaked with ⟨id, content, editedAt, member, otherMember⟩
  have stays {row : MessageEdit} (database : Database) (member : row ∈ database.messageEdits.rows)
      (calls : List ContentCall) :
      row ∈ (Execution.run (contentStep environment) database calls).messageEdits.rows :=
    Execution.run_invariant (fun database : Database => row ∈ database.messageEdits.rows)
      (fun _ _ member => mem_messageEdits_contentStep member) member calls
  exact ⟨id, content, editedAt, stays left member calls, stays right otherMember others⟩

theorem leaked_of_marked (marked : Marked messageId left right)
    (some : acceptedEdits environment messageId left calls ≠ 0) :
    Leaked messageId (Execution.run (contentStep environment) left calls)
      (Execution.run (contentStep environment) right
        (calls.map (ContentCall.marked messageId))) := by
  induction calls generalizing left right with
  | nil => exact absurd rfl some
  | cons call calls induction =>
      rw [acceptedEdits] at some
      rw [List.map_cons, Execution.run_cons, Execution.run_cons]
      cases accepted : acceptsEdit environment messageId left call with
      | true => exact leaked_run (leaked_of_accepted marked accepted) _ _
      | false =>
          rw [accepted, Bool.toNat_false, Nat.zero_add] at some
          exact induction (marked_step marked) some

theorem leaked_of_stored (stored : findMessage messageId database ≠ none)
    (several : 1 < acceptedEdits environment messageId database calls) :
    Leaked messageId (Execution.run (contentStep environment) database calls)
      (Execution.run (contentStep environment) database
        (calls.map (ContentCall.marked messageId))) := by
  induction calls generalizing database with
  | nil => cases several
  | cons call calls induction =>
      rw [acceptedEdits] at several
      rw [List.map_cons, Execution.run_cons, Execution.run_cons]
      cases accepted : acceptsEdit environment messageId database call with
      | true =>
          rw [accepted, Bool.toNat_true] at several
          exact leaked_of_marked (marked_of_accepted accepted) (by omega)
      | false =>
          rw [accepted, Bool.toNat_false, Nat.zero_add] at several
          rw [← contentStep_congr_of_quiet stored accepted (otherContent_marked call)]
          exact induction (stored_contentStep stored) several

theorem marked_of_absent (absent : findMessage messageId database = none) :
    Marked messageId database database where
  same := rfl
  content row other found := by
    rw [absent] at found
    cases found

/-- The edits whose archived contents the run did not bring: one of a message that was there
before, none of a message that was not. -/
def oldContents (messageId : String) (database : Database) : Nat :=
  (findMessage messageId database).isSome.toNat

theorem run_eq_of_tombstoned
    (differ : List.Forall₂ (OtherContent messageId) calls others)
    (few : acceptedEdits environment messageId database calls ≤ oldContents messageId database)
    (deleted : Tombstoned messageId (Execution.run (contentStep environment) database calls)) :
    Execution.run (contentStep environment) database calls =
      Execution.run (contentStep environment) database others := by
  have apart : Apart messageId (Execution.run (contentStep environment) database calls)
      (Execution.run (contentStep environment) database others) := by
    rw [oldContents] at few
    cases found : findMessage messageId database with
    | none =>
        rw [found, Option.isSome_none, Bool.toNat_false, Nat.le_zero] at few
        exact apart_run ⟨rfl, rfl, fun _ => rfl⟩ differ few
    | some message =>
        rw [found, Option.isSome_some, Bool.toNat_true] at few
        apply apart_run_of_stored _ differ few
        rw [found]
        exact Option.some_ne_none message
  exact eq_of_withoutContent apart.same (apart.deleted deleted) apart.edits

theorem leaked_of_many
    (many : oldContents messageId database <
      acceptedEdits environment messageId database calls) :
    Leaked messageId (Execution.run (contentStep environment) database calls)
      (Execution.run (contentStep environment) database
        (calls.map (ContentCall.marked messageId))) := by
  rw [oldContents] at many
  cases found : findMessage messageId database with
  | none =>
      rw [found, Option.isSome_none, Bool.toNat_false] at many
      exact leaked_of_marked (marked_of_absent found) (by omega)
  | some message =>
      rw [found, Option.isSome_some, Bool.toNat_true] at many
      apply leaked_of_stored _ many
      rw [found]
      exact Option.some_ne_none message

/-- A letter in the history is read back. -/
theorem editHistory_ne_of_leaked (leaked : Leaked messageId left right) :
    editHistory messageId left ≠ editHistory messageId right := by
  intro same
  rcases leaked with ⟨id, content, editedAt, member, otherMember⟩
  have read : ⟨id, messageId, content ++ "x", editedAt⟩ ∈ editHistory messageId right := by
    rw [editHistory, List.mem_insertionSort, List.mem_filter]
    exact ⟨otherMember, decide_eq_true rfl⟩
  rw [← same, editHistory, List.mem_insertionSort, List.mem_filter] at read
  have equal := Table.eq_of_key _ member read.1 rfl
  rw [MessageEdit.mk.injEq] at equal
  have lengths := congrArg String.length equal.2.2.1
  rw [String.length_append] at lengths
  exact absurd lengths (by simp)

theorem tombstoned_congr {left right : Database}
    (same : withoutContent messageId left = withoutContent messageId right)
    (deleted : Tombstoned messageId left) : Tombstoned messageId right := by
  rcases deleted with ⟨row, found, gone⟩
  have both := findMessage_congr same
  rw [found, Option.map_some] at both
  rcases Option.map_eq_some_iff.mp both.symm with ⟨other, otherFound, equal⟩
  refine ⟨other, otherFound, ?_⟩
  rw [← deletedAt_blankMessage, equal, deletedAt_blankMessage]
  exact gone

theorem withoutContent_run (differ : List.Forall₂ (OtherContent messageId) calls others)
    (same : withoutContent messageId left = withoutContent messageId right) :
    withoutContent messageId (Execution.run (contentStep environment) left calls) =
      withoutContent messageId (Execution.run (contentStep environment) right others) := by
  induction differ generalizing left right with
  | nil => exact same
  | cons first rest induction =>
      exact induction (contentStep_congr same first.withoutContent_eq)

end Runs

end Annex.Channels
