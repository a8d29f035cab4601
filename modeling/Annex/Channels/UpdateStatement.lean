import Annex.Channels.Store

namespace Annex.Channels

open Db Sql

/-! The `UPDATE` of a channel as it is put together: the columns it sets, each with the number
of its parameter, and the values in the order of the numbers. -/

/-- The columns an update sets. -/
inductive ChannelColumn where
  | name
  | topic
  | vrpTopicBinding
  | requiredCapabilitiesJson
  | agentMinAlignment
  | retentionDays
  | federationScope
deriving DecidableEq, Repr

/-- A value bound to a parameter. -/
inductive SqlValue where
  | text (text : String)
  | integer (number : Nat)
deriving DecidableEq, Repr

/-- `serde_json::to_string` of an alignment status. -/
def alignmentJson : AlignmentStatus → String
  | .aligned => "\"Aligned\""
  | .partial_ => "\"Partial\""
  | .conflict => "\"Conflict\""

/-- A text of the alignment column. The aliases are read too. -/
def alignmentColumn (text : String) : JsonText AlignmentStatus :=
  if text = "\"Aligned\"" ∨ text = "\"ALIGNED\"" then .encoded .aligned
  else if text = "\"Partial\"" ∨ text = "\"PARTIAL\"" then .encoded .partial_
  else if text = "\"Conflict\"" ∨ text = "\"CONFLICT\"" then .encoded .conflict
  else .foreign text

/-- `serde_json::to_string` of a federation scope. -/
def scopeJson : FederationScope → String
  | .localOnly => "\"Local\""
  | .federated => "\"Federated\""

/-- A text of the scope column. -/
def scopeColumn (text : String) : JsonText FederationScope :=
  if text = "\"Local\"" then .encoded .localOnly
  else if text = "\"Federated\"" then .encoded .federated
  else .foreign text

theorem alignmentColumn_alignmentJson (status : AlignmentStatus) :
    alignmentColumn (alignmentJson status) = .encoded status := by
  cases status <;> rfl

theorem scopeColumn_scopeJson (scope : FederationScope) :
    scopeColumn (scopeJson scope) = .encoded scope := by
  cases scope <;> rfl

/-- Set a column to a value of its type. -/
def ChannelColumn.assign (row : ChannelRow) : ChannelColumn → SqlValue → Option ChannelRow
  | .name, .text text => some { row with name := text }
  | .topic, .text text => some { row with topic := some text }
  | .vrpTopicBinding, .text text => some { row with vrpTopicBinding := some text }
  | .requiredCapabilitiesJson, .text text => some { row with requiredCapabilitiesJson := some text }
  | .agentMinAlignment, .text text =>
      some { row with agentMinAlignment := some (alignmentColumn text) }
  | .retentionDays, .integer number => some { row with retentionDays := some number }
  | .federationScope, .text text => some { row with federationScope := scopeColumn text }
  | _, _ => none

/-- `set_parts`, `values` and `idx` while the statement is put together. -/
structure UpdateBuilder where
  setParts : List (ChannelColumn × Nat)
  values : List SqlValue
  idx : Nat

namespace UpdateBuilder

def start : UpdateBuilder := ⟨[], [], 1⟩

/-- One more column, under the next number. -/
def push (builder : UpdateBuilder) (column : ChannelColumn) (value : SqlValue) : UpdateBuilder :=
  ⟨builder.setParts ++ [(column, builder.idx)], builder.values ++ [value], builder.idx + 1⟩

/-- A column is set if its field is given. -/
def field (builder : UpdateBuilder) (column : ChannelColumn) :
    Option SqlValue → UpdateBuilder
  | none => builder
  | some value => builder.push column value

end UpdateBuilder

/-- The columns of an update, field by field. -/
def buildUpdate (updates : UpdateChannelParams) : UpdateBuilder :=
  (((((((UpdateBuilder.start.field .name (updates.name.map .text)).field
    .topic (updates.topic.map .text)).field
    .vrpTopicBinding (updates.vrpTopicBinding.map .text)).field
    .requiredCapabilitiesJson (updates.requiredCapabilitiesJson.map .text)).field
    .agentMinAlignment (updates.agentMinAlignment.map fun status =>
      .text (alignmentJson status))).field
    .retentionDays (updates.retentionDays.map .integer)).field
    .federationScope (updates.federationScope.map fun scope => .text (scopeJson scope)))

/-- The value of a numbered parameter; the numbers begin at one. -/
def parameter (values : List SqlValue) : Nat → Option SqlValue
  | 0 => none
  | index + 1 => values[index]?

/-- Set the columns of a row to the parameters of their numbers. -/
def assignParts (values : List SqlValue) (setParts : List (ChannelColumn × Nat))
    (row : ChannelRow) : Option ChannelRow :=
  setParts.foldlM (fun row part => (parameter values part.2).bind (part.1.assign row)) row

theorem ChannelColumn.assign_id {column : ChannelColumn} {value : SqlValue}
    {row changed : ChannelRow} (assigned : column.assign row value = some changed) :
    changed.id = row.id := by
  cases column <;> cases value <;> cases assigned <;> rfl

theorem assignParts_id {values : List SqlValue} {setParts : List (ChannelColumn × Nat)}
    {row changed : ChannelRow} (assigned : assignParts values setParts row = some changed) :
    changed.id = row.id := by
  induction setParts generalizing row with
  | nil =>
      cases assigned
      rfl
  | cons part setParts induction =>
      rw [assignParts, List.foldlM_cons] at assigned
      rcases Option.bind_eq_some_iff.mp assigned with ⟨between, first, rest⟩
      rcases Option.bind_eq_some_iff.mp first with ⟨value, _, assignedFirst⟩
      exact (induction rest).trans (ChannelColumn.assign_id assignedFirst)

/-- `UPDATE channels SET .. WHERE channel_id = ?idx`, with the number of rows changed. -/
def UpdateBuilder.execute (builder : UpdateBuilder) (channelId : String) (database : Database) :
    Except DbError (Nat × Database) :=
  let values := builder.values ++ [.text channelId]
  match parameter values builder.idx with
  | some (.text selected) =>
      if database.channels.rows.all fun row => row.channelId ≠ selected ||
          (assignParts values builder.setParts row).isSome then
        .ok (database.channels.rows.countP (·.channelId = selected),
          { database with
            channels := database.channels.updateWhere (·.channelId = selected)
              (fun row => (assignParts values builder.setParts row).getD row)
              (by
                intro row
                cases assigned : assignParts values builder.setParts row with
                | none => rfl
                | some changed => exact assignParts_id assigned) })
      else
        .error (.failure "SQL logic error")
  | _ => .error (.failure "SQL logic error")

/-- `update_channel` with its statement as it is put together. -/
def updateChannelBuilt {Memory : Type} (environment : Environment) (channelId : String)
    (updates : UpdateChannelParams) : Sql Database Memory ChannelError Unit :=
  let builder := buildUpdate updates
  if builder.setParts.isEmpty then do
    let _ ← getChannel environment channelId
    pure ()
  else do
    let count ← statement .database (builder.execute channelId)
    check (count ≠ 0) (.notFound channelId)

section Meaning

variable {builder : UpdateBuilder} {change : ChannelRow → ChannelRow} {column : ChannelColumn}

/-- The columns change any row so, whatever values come after the builder's own. -/
structure UpdateBuilder.Means (builder : UpdateBuilder) (change : ChannelRow → ChannelRow) :
    Prop where
  numbered : builder.idx = builder.values.length + 1
  assigns : ∀ more row,
    assignParts (builder.values ++ more) builder.setParts row = some (change row)

theorem means_start : UpdateBuilder.start.Means id where
  numbered := rfl
  assigns _ _ := rfl

theorem parameter_next (values more : List SqlValue) (value : SqlValue) :
    parameter (values ++ value :: more) (values.length + 1) = some value := by
  simp [parameter]

theorem means_push {value : SqlValue} {set : ChannelRow → ChannelRow}
    (means : builder.Means change) (assigned : ∀ row, column.assign row value = some (set row)) :
    (builder.push column value).Means fun row => set (change row) where
  numbered := by simp [UpdateBuilder.push, means.numbered]
  assigns more row := by
    have before := means.assigns (value :: more) row
    unfold assignParts at before
    simp only [assignParts, UpdateBuilder.push, List.append_assoc, List.singleton_append,
      List.foldlM_append, before]
    simp [means.numbered, parameter_next, assigned]

/-- A field that is given sets its column, and one that is not leaves it. -/
theorem means_field {α : Type} (column : ChannelColumn) (given : Option α)
    (encode : α → SqlValue) (set : ChannelRow → ChannelRow) (means : builder.Means change)
    (absent : given = none → ∀ row, set row = row)
    (present : ∀ value, given = some value →
      ∀ row, column.assign row (encode value) = some (set row)) :
    (builder.field column (given.map encode)).Means fun row => set (change row) := by
  cases given with
  | none =>
      simp only [absent rfl]
      exact means
  | some value => exact means_push means (present value rfl)

/-- The statement of an update changes a row in the fields that are given. -/
theorem buildUpdate_means (updates : UpdateChannelParams) :
    (buildUpdate updates).Means updates.apply := by
  have name := means_field .name updates.name .text
    (fun row => { row with name := updates.name.getD row.name }) means_start
    (by simp +contextual) (by simp +contextual [ChannelColumn.assign])
  have topic := means_field .topic updates.topic .text
    (fun row => { row with topic := updates.topic.or row.topic }) name
    (by simp +contextual) (by simp +contextual [ChannelColumn.assign])
  have binding := means_field .vrpTopicBinding updates.vrpTopicBinding .text
    (fun row => { row with vrpTopicBinding := updates.vrpTopicBinding.or row.vrpTopicBinding })
    topic (by simp +contextual) (by simp +contextual [ChannelColumn.assign])
  have capabilities := means_field .requiredCapabilitiesJson updates.requiredCapabilitiesJson .text
    (fun row => { row with
      requiredCapabilitiesJson :=
        updates.requiredCapabilitiesJson.or row.requiredCapabilitiesJson })
    binding (by simp +contextual) (by simp +contextual [ChannelColumn.assign])
  have alignment := means_field .agentMinAlignment updates.agentMinAlignment
    (fun status => .text (alignmentJson status))
    (fun row => { row with
      agentMinAlignment := (updates.agentMinAlignment.map .encoded).or row.agentMinAlignment })
    capabilities (by simp +contextual)
    (by simp +contextual [ChannelColumn.assign, alignmentColumn_alignmentJson])
  have days := means_field .retentionDays updates.retentionDays .integer
    (fun row => { row with retentionDays := updates.retentionDays.or row.retentionDays })
    alignment (by simp +contextual) (by simp +contextual [ChannelColumn.assign])
  have scope := means_field .federationScope updates.federationScope
    (fun scope => .text (scopeJson scope))
    (fun row => { row with
      federationScope := (updates.federationScope.map .encoded).getD row.federationScope })
    days (by simp +contextual) (by simp +contextual [ChannelColumn.assign, scopeColumn_scopeJson])
  exact scope

theorem field_setParts {value : Option SqlValue} :
    (builder.field column value).setParts = [] ↔ builder.setParts = [] ∧ value = none := by
  cases value with
  | none => simp [UpdateBuilder.field]
  | some value => simp [UpdateBuilder.field, UpdateBuilder.push]

/-- The statement sets nothing if no field is given. -/
theorem buildUpdate_setParts (updates : UpdateChannelParams) :
    (buildUpdate updates).setParts = [] ↔ updates = .none := by
  rcases updates with ⟨name, topic, binding, capabilities, alignment, days, scope⟩
  simp [buildUpdate, field_setParts, UpdateBuilder.start, UpdateChannelParams.none, and_assoc]

/-- The statement updates the rows of the channel. -/
theorem buildUpdate_execute (updates : UpdateChannelParams) (channelId : String)
    (database : Database) :
    (buildUpdate updates).execute channelId database =
      .ok (database.channels.rows.countP (·.channelId = channelId),
        { database with
          channels := database.channels.updateWhere (·.channelId = channelId) updates.apply }) := by
  have means := buildUpdate_means updates
  have assigned : ∀ row, assignParts ((buildUpdate updates).values ++ [.text channelId])
      (buildUpdate updates).setParts row = some (updates.apply row) := means.assigns _
  unfold UpdateBuilder.execute
  simp [means.numbered, parameter_next, assigned]

/-- Putting the statement together comes to updating the fields that are given. -/
theorem updateChannelBuilt_eq {Memory : Type} (environment : Environment) (channelId : String)
    (updates : UpdateChannelParams) :
    (updateChannelBuilt environment channelId updates : Sql Database Memory ChannelError Unit) =
      updateChannel environment channelId updates := by
  have statements : (fun database => (buildUpdate updates).execute channelId database) =
      fun database => .ok (database.channels.rows.countP (·.channelId = channelId),
        { database with
          channels := database.channels.updateWhere (·.channelId = channelId)
            updates.apply }) := by
    funext database
    exact buildUpdate_execute updates channelId database
  unfold updateChannelBuilt updateChannel
  simp only [List.isEmpty_iff, buildUpdate_setParts, statements]

end Meaning

end Annex.Channels
