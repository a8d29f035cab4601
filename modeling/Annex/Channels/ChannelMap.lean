import Mathlib.Logic.Function.Basic
import Annex.Channels.StoreCorrectness
import Annex.Channels.UpdateStatement

namespace Annex.Channels

open Db Sql

/-! The channel store as a map from public ids to channels, and the run of the store that
follows it call by call. -/

/-- The channels by their public ids, the last id handed out, and which servers there are. -/
structure ChannelMap where
  channels : String → Option Channel
  lastId : Nat
  hasServer : Nat → Bool

/-- A call of the channel store. `create` is at the time of its row. -/
inductive ChannelCall where
  | create (now : String) (params : CreateChannelParams)
  | update (channelId : String) (updates : UpdateChannelParams)
  | get (channelId : String)

/-- What a call returns; only `get` returns a channel. -/
abbrev ChannelAnswer := Except ChannelError (Option Channel)

/-- The channel of the parameters. -/
def CreateChannelParams.channel (params : CreateChannelParams) (id : Nat) (now : String) :
    Channel where
  id := id
  serverId := params.serverId
  channelId := params.channelId
  name := params.name
  channelType := params.channelType
  topic := params.topic
  vrpTopicBinding := params.vrpTopicBinding
  requiredCapabilitiesJson := params.requiredCapabilitiesJson
  agentMinAlignment := params.agentMinAlignment
  retentionDays := params.retentionDays
  federationScope := params.federationScope
  createdAt := now

/-- The row that is inserted for the parameters. -/
def CreateChannelParams.row (params : CreateChannelParams) (now : String) (id : Nat) :
    ChannelRow where
  id := id
  serverId := params.serverId
  channelId := params.channelId
  name := params.name
  channelType := .encoded params.channelType
  topic := params.topic
  vrpTopicBinding := params.vrpTopicBinding
  requiredCapabilitiesJson := params.requiredCapabilitiesJson
  agentMinAlignment := params.agentMinAlignment.map .encoded
  retentionDays := params.retentionDays
  federationScope := .encoded params.federationScope
  createdAt := now

/-- The channel with the fields that are given. -/
def UpdateChannelParams.amend (updates : UpdateChannelParams) (channel : Channel) : Channel :=
  { channel with
    name := updates.name.getD channel.name
    topic := updates.topic.or channel.topic
    vrpTopicBinding := updates.vrpTopicBinding.or channel.vrpTopicBinding
    requiredCapabilitiesJson :=
      updates.requiredCapabilitiesJson.or channel.requiredCapabilitiesJson
    agentMinAlignment := updates.agentMinAlignment.or channel.agentMinAlignment
    retentionDays := updates.retentionDays.or channel.retentionDays
    federationScope := updates.federationScope.getD channel.federationScope }

namespace ChannelMap

/-- What a call answers and does to the map. -/
def take (map : ChannelMap) : ChannelCall → ChannelAnswer × ChannelMap
  | .create now params =>
      if (map.channels params.channelId).isSome then
        (.error (.database (.constraint .unique "UNIQUE constraint failed: channels.channel_id")),
          map)
      else if map.hasServer params.serverId = false then
        (.error (.database foreignKeyFailed), map)
      else
        (.ok none,
          { map with
            channels := Function.update map.channels params.channelId
              (some (params.channel (map.lastId + 1) now))
            lastId := map.lastId + 1 })
  | .update channelId updates =>
      match map.channels channelId with
      | none => (.error (.notFound channelId), map)
      | some channel =>
          (.ok none,
            { map with
              channels := Function.update map.channels channelId
                (some (updates.amend channel)) })
  | .get channelId =>
      match map.channels channelId with
      | none => (.error (.notFound channelId), map)
      | some channel => (.ok (some channel), map)

/-- A call whose statement may be made to fail. -/
def step (map : ChannelMap) (call : ChannelCall) : Option String → ChannelAnswer × ChannelMap
  | some text => (.error (.database (.failure text)), map)
  | none => map.take call

/-- The answers to calls one after the other, and the map they leave. -/
def transcript : List ChannelCall → List (Option String) → ChannelMap →
    List ChannelAnswer × ChannelMap
  | [], _, map => ([], map)
  | call :: calls, faults, map =>
      let answered := map.step call (faultAt faults 0)
      let rest := transcript calls faults.tail answered.2
      (answered.1 :: rest.1, rest.2)

end ChannelMap

section Store

variable {Memory : Type} (environment : Environment)

/-- A call, answered by the store. -/
def answerCall : ChannelCall → Sql Database Memory ChannelError (Option Channel)
  | .create now params => do
      createChannel now params
      pure none
  | .update channelId updates => do
      updateChannelBuilt environment channelId updates
      pure none
  | .get channelId => do
      let channel ← getChannel environment channelId
      pure (some channel)

/-- The store's answers to calls one after the other, and the session they leave. -/
def storeTranscript : List ChannelCall → Session Database Memory →
    List ChannelAnswer × Session Database Memory
  | [], session => ([], session)
  | call :: calls, session =>
      let answered := answerCall environment call session
      let rest := storeTranscript calls answered.2
      (answered.1 :: rest.1, rest.2)

/-- The map a database holds. -/
def channelMap (database : Database) : ChannelMap where
  channels channelId := (findChannel channelId database).bind fun row =>
    (mapRowToChannel environment row).toOption
  lastId := database.channels.lastId
  hasServer serverId := database.servers.rows.any (·.id = serverId)

/-- Every row is one of a channel. -/
def Readable (database : Database) : Prop :=
  ∀ row ∈ database.channels.rows, ∃ channel, mapRowToChannel environment row = .ok channel

end Store

section Rows

variable {environment : Environment} {database : Database} {row : ChannelRow} {channel : Channel}

@[simp] theorem decodeColumn_encoded {α : Type} (index : Nat) (value : α) :
    decodeColumn environment index (.encoded value) = .ok value := rfl

/-- A row whose columns decode is the channel of what they decode to. -/
theorem mapRowToChannel_of_columns {channelType : ChannelType}
    {agentMinAlignment : Option AlignmentStatus} {federationScope : FederationScope}
    (type : decodeColumn environment 4 row.channelType = .ok channelType)
    (alignment : row.agentMinAlignment.mapM (decodeColumn environment 8) = .ok agentMinAlignment)
    (scope : decodeColumn environment 10 row.federationScope = .ok federationScope) :
    mapRowToChannel environment row =
      .ok ⟨row.id, row.serverId, row.channelId, row.name, channelType, row.topic,
        row.vrpTopicBinding, row.requiredCapabilitiesJson, agentMinAlignment, row.retentionDays,
        federationScope, row.createdAt⟩ := by
  unfold mapRowToChannel
  rw [type, alignment, scope]
  rfl

/-- The columns of a row that is a channel decode to what the channel has. -/
theorem columns_of_mapRowToChannel (decoded : mapRowToChannel environment row = .ok channel) :
    decodeColumn environment 4 row.channelType = .ok channel.channelType ∧
      row.agentMinAlignment.mapM (decodeColumn environment 8) = .ok channel.agentMinAlignment ∧
      decodeColumn environment 10 row.federationScope = .ok channel.federationScope := by
  unfold mapRowToChannel at decoded
  cases type : decodeColumn environment 4 row.channelType with
  | error error =>
      rw [type] at decoded
      cases decoded
  | ok channelType =>
      cases alignment : row.agentMinAlignment.mapM (decodeColumn environment 8) with
      | error error =>
          rw [type, alignment] at decoded
          cases decoded
      | ok agentMinAlignment =>
          cases scope : decodeColumn environment 10 row.federationScope with
          | error error =>
              rw [type, alignment, scope] at decoded
              cases decoded
          | ok federationScope =>
              rw [type, alignment, scope] at decoded
              cases decoded
              exact ⟨rfl, rfl, rfl⟩

/-- A new row is the channel of its parameters. -/
theorem mapRowToChannel_row (params : CreateChannelParams) (now : String) (id : Nat) :
    mapRowToChannel environment (params.row now id) = .ok (params.channel id now) := by
  apply mapRowToChannel_of_columns
  · rfl
  · unfold CreateChannelParams.row
    cases params.agentMinAlignment <;> rfl
  · rfl

/-- A row with fields updated is its channel with the fields updated. -/
theorem mapRowToChannel_apply (updates : UpdateChannelParams)
    (decoded : mapRowToChannel environment row = .ok channel) :
    mapRowToChannel environment (updates.apply row) = .ok (updates.amend channel) := by
  rcases columns_of_mapRowToChannel decoded with ⟨type, alignment, scope⟩
  rw [mapRowToChannel_of_columns type alignment scope] at decoded
  have changedAlignment : (updates.apply row).agentMinAlignment.mapM
      (decodeColumn environment 8) =
        .ok (updates.agentMinAlignment.or channel.agentMinAlignment) := by
    unfold UpdateChannelParams.apply
    cases updates.agentMinAlignment with
    | none => simpa using alignment
    | some status => rfl
  have changedScope : decodeColumn environment 10 (updates.apply row).federationScope =
      .ok (updates.federationScope.getD channel.federationScope) := by
    unfold UpdateChannelParams.apply
    cases updates.federationScope with
    | none => simpa using scope
    | some status => rfl
  have sameType : decodeColumn environment 4 (updates.apply row).channelType =
      .ok channel.channelType := type
  rw [mapRowToChannel_of_columns sameType changedAlignment changedScope,
    ← Except.ok.inj decoded]
  rfl

end Rows

section Finds

variable {environment : Environment} {database : Database} {channelId : String}

/-- In a readable database a channel is found exactly where there is a row. -/
theorem channelMap_eq_none (readable : Readable environment database) :
    (channelMap environment database).channels channelId = none ↔
      findChannel channelId database = none := by
  unfold channelMap
  dsimp only
  cases found : findChannel channelId database with
  | none => simp
  | some row =>
      rcases readable row (List.mem_of_find?_eq_some found) with ⟨channel, decoded⟩
      rw [Option.bind_some, decoded]
      exact iff_of_false (Option.some_ne_none channel) (Option.some_ne_none row)

theorem findChannel_eq_none : findChannel channelId database = none ↔
    database.channels.rows.any (·.channelId = channelId) = false := by
  rw [findChannel, List.find?_eq_none, List.any_eq_false]

/-- Which rows an update of one channel leaves to be found. -/
theorem findChannel_updateWhere (updates : UpdateChannelParams) (other : String) :
    findChannel other { database with
        channels := database.channels.updateWhere (·.channelId = channelId) updates.apply } =
      (findChannel other database).map fun row =>
        if other = channelId then updates.apply row else row := by
  change (database.channels.rows.map fun row =>
    if decide (row.channelId = channelId) = true then updates.apply row else row).find?
      (fun row => decide (row.channelId = other)) = _
  rw [List.find?_map]
  have kept : ((fun row : ChannelRow => decide (row.channelId = other)) ∘
      fun row => if decide (row.channelId = channelId) = true then updates.apply row else row) =
      fun row => decide (row.channelId = other) := by
    funext row
    simp only [Function.comp_apply]
    split <;> rfl
  rw [kept, findChannel]
  cases found : database.channels.rows.find? (·.channelId = other) with
  | none => rfl
  | some row =>
      have named : row.channelId = other := by simpa using List.find?_some found
      simp [named]

/-- Which row a new channel leaves to be found. -/
theorem findChannel_insert (make : Nat → ChannelRow)
    (keyed : ∀ id, key (make id) = id) (fresh : findChannel channelId database = none)
    (named : ∀ id, (make id).channelId = channelId) (other : String) :
    findChannel other
        { database with channels := database.channels.insert make keyed } =
      if other = channelId then some (make (database.channels.lastId + 1))
      else findChannel other database := by
  change (database.channels.rows ++ [make (database.channels.lastId + 1)]).find?
    (fun row => decide (row.channelId = other)) = _
  rw [List.find?_append]
  by_cases same : other = channelId
  · rw [if_pos same, same]
    change (findChannel channelId database).or _ = _
    rw [fresh, Option.none_or]
    simp [named]
  · rw [if_neg same, List.find?_singleton, named, if_neg (by simpa using Ne.symm same),
      Option.or_none]
    rfl

end Finds

section Calls

variable {Memory : Type} {environment : Environment} {session : Session Database Memory}
  {channelId : String}

/-- The store answered as the map does, and holds what the map does. -/
structure Follows (environment : Environment) (faults : List (Option String))
    (outcome : ChannelAnswer × Session Database Memory)
    (expected : ChannelAnswer × ChannelMap) : Prop where
  answer : outcome.1 = expected.1
  map : channelMap environment outcome.2.database = expected.2
  faults : outcome.2.faults = faults
  readable : Readable environment outcome.2.database

/-- A statement that is made to fail changes nothing. -/
theorem follows_faulty {call : ChannelCall} {text : String}
    (readable : Readable environment session.database)
    (faulty : faultAt session.faults 0 = some text)
    (ran : answerCall environment call session =
      (.error (.database (.failure text)), { session with faults := session.faults.tail })) :
    Follows environment session.faults.tail (answerCall environment call session)
      ((channelMap environment session.database).step call (faultAt session.faults 0)) := by
  rw [ran, faulty]
  exact ⟨rfl, rfl, rfl, readable⟩

theorem getChannel_apply (readable : Readable environment session.database) :
    getChannel environment channelId session =
      (match faultAt session.faults 0 with
        | some text => .error (.database (.failure text))
        | none =>
            match (channelMap environment session.database).channels channelId with
            | none => .error (.notFound channelId)
            | some channel => .ok channel,
        { session with faults := session.faults.tail }) := by
  unfold getChannel
  cases fault : faultAt session.faults 0 with
  | some text => rw [bind_error (query_faulty fault)]
  | none =>
      cases found : findChannel channelId session.database with
      | none =>
          have absent := (channelMap_eq_none readable).mpr found
          rw [bind_ok (query_done fault (by rw [found])), absent]
          rfl
      | some row =>
          rcases readable row (List.mem_of_find?_eq_some found) with ⟨channel, decoded⟩
          have present : (channelMap environment session.database).channels channelId =
              some channel := by
            simp [channelMap, found, decoded, Except.toOption]
          have read : (mapRowToChannel environment row).map some = .ok (some channel) := by
            rw [decoded]
            rfl
          rw [bind_ok (query_done fault (by rw [found]; exact read)), present]
          rfl

theorem answerCall_get (readable : Readable environment session.database) :
    Follows environment session.faults.tail (answerCall environment (.get channelId) session)
      ((channelMap environment session.database).step (.get channelId)
        (faultAt session.faults 0)) := by
  have ran := @getChannel_apply _ _ _ channelId readable
  cases fault : faultAt session.faults 0 with
  | some text =>
      rw [fault] at ran
      rw [← fault]
      exact follows_faulty readable fault (bind_error ran)
  | none =>
      rw [fault] at ran
      cases found : (channelMap environment session.database).channels channelId with
      | none =>
          rw [found] at ran
          have answered : answerCall environment (.get channelId) session = _ := bind_error ran
          rw [answered]
          simp only [ChannelMap.step, ChannelMap.take, found]
          exact ⟨rfl, rfl, rfl, readable⟩
      | some channel =>
          rw [found] at ran
          have answered : answerCall environment (.get channelId) session = _ := bind_ok ran
          rw [answered]
          simp only [ChannelMap.step, ChannelMap.take, found]
          exact ⟨rfl, rfl, rfl, readable⟩

theorem amend_none (channel : Channel) : UpdateChannelParams.none.amend channel = channel := rfl

/-- The database after an update of one channel. -/
def updated (updates : UpdateChannelParams) (channelId : String) (database : Database) :
    Database :=
  { database with
    channels := database.channels.updateWhere (·.channelId = channelId) updates.apply
      updates.key_apply }

theorem readable_updated {updates : UpdateChannelParams} {database : Database}
    (readable : Readable environment database) :
    Readable environment (updated updates channelId database) := by
  intro row member
  rcases List.mem_map.mp member with ⟨old, oldMember, changed⟩
  rcases readable old oldMember with ⟨channel, decoded⟩
  rw [← changed]
  split
  · exact ⟨_, mapRowToChannel_apply updates decoded⟩
  · exact ⟨channel, decoded⟩

/-- An update amends the one channel in the map. -/
theorem channelMap_updated {updates : UpdateChannelParams} {database : Database}
    (readable : Readable environment database) {channel : Channel}
    (found : (channelMap environment database).channels channelId = some channel) :
    channelMap environment (updated updates channelId database) =
      { channelMap environment database with
        channels := Function.update (channelMap environment database).channels channelId
          (some (updates.amend channel)) } := by
  have channels : (channelMap environment (updated updates channelId database)).channels =
      Function.update (channelMap environment database).channels channelId
        (some (updates.amend channel)) := by
    funext other
    have moved := @findChannel_updateWhere database channelId updates other
    by_cases same : other = channelId
    · rw [same, Function.update_self]
      unfold channelMap at found ⊢
      dsimp only at found ⊢
      rw [same] at moved
      rcases Option.bind_eq_some_iff.mp found with ⟨row, isRow, decoded⟩
      rcases readable row (List.mem_of_find?_eq_some isRow) with ⟨known, reads⟩
      rw [reads] at decoded
      cases decoded
      rw [updated, moved, isRow, Option.map_some, if_pos rfl, Option.bind_some,
        mapRowToChannel_apply updates reads]
      rfl
    · rw [Function.update_of_ne same]
      unfold channelMap
      dsimp only
      rw [updated, moved]
      simp [same]
  unfold channelMap at channels ⊢
  dsimp only at channels ⊢
  rw [channels]
  rfl

theorem countP_eq_zero_iff {database : Database} :
    database.channels.rows.countP (·.channelId = channelId) = 0 ↔
      findChannel channelId database = none := by
  rw [findChannel_eq_none, List.countP_eq_zero, List.any_eq_false]

/-- An update of a channel that is not there changes nothing. -/
theorem updated_of_absent {updates : UpdateChannelParams} {database : Database}
    (absent : findChannel channelId database = none) :
    updated updates channelId database = database := by
  have same : database.channels.updateWhere (·.channelId = channelId) updates.apply =
      database.channels :=
    Table.updateWhere_of_none (countP_eq_zero_iff.mpr absent)
  unfold updated
  rw [same]

theorem updateChannel_apply (readable : Readable environment session.database)
    (updates : UpdateChannelParams) (unfaulted : faultAt session.faults 0 = none) :
    updateChannel environment channelId updates session =
      match (channelMap environment session.database).channels channelId with
      | none => (.error (.notFound channelId), { session with faults := session.faults.tail })
      | some _ => (.ok (), ⟨if updates = .none then session.database else
          updated updates channelId session.database, session.memory, session.faults.tail⟩) := by
  unfold updateChannel
  by_cases noField : updates = .none
  · rw [if_pos noField]
    have ran := @getChannel_apply _ _ _ channelId readable
    rw [unfaulted] at ran
    cases found : (channelMap environment session.database).channels channelId with
    | none =>
        rw [found] at ran
        exact bind_error ran
    | some channel =>
        rw [found] at ran
        rw [bind_ok ran]
        dsimp only
        rw [if_pos noField]
        rfl
  · rw [if_neg noField, bind_ok (statement_done unfaulted rfl), check_apply]
    cases found : findChannel channelId session.database with
    | none =>
        have counted := countP_eq_zero_iff.mpr found
        have absent := (channelMap_eq_none readable).mpr found
        have unchanged := @updated_of_absent channelId updates _ found
        rw [if_neg (not_not_intro counted), absent]
        unfold updated at unchanged
        rw [unchanged]
    | some row =>
        have counted : session.database.channels.rows.countP (·.channelId = channelId) ≠ 0 := by
          rw [ne_eq, countP_eq_zero_iff, found]
          exact Option.some_ne_none row
        have present : (channelMap environment session.database).channels channelId ≠ none := by
          rw [ne_eq, channelMap_eq_none readable, found]
          exact Option.some_ne_none row
        rcases Option.ne_none_iff_exists'.mp present with ⟨channel, isChannel⟩
        rw [if_pos counted, isChannel]
        dsimp only
        rw [if_neg noField]
        rfl

theorem answerCall_update (readable : Readable environment session.database)
    (updates : UpdateChannelParams) :
    Follows environment session.faults.tail
      (answerCall environment (.update channelId updates) session)
      ((channelMap environment session.database).step (.update channelId updates)
        (faultAt session.faults 0)) := by
  cases fault : faultAt session.faults 0 with
  | some text =>
      rw [← fault]
      apply follows_faulty readable fault
      apply bind_error
      rw [updateChannelBuilt_eq]
      unfold updateChannel
      split
      · apply bind_error
        rw [getChannel_apply readable, fault]
      · exact bind_error (statement_faulty fault)
  | none =>
      have ran := @updateChannel_apply _ environment session channelId readable updates fault
      rw [← updateChannelBuilt_eq] at ran
      cases found : (channelMap environment session.database).channels channelId with
      | none =>
          rw [found] at ran
          have answered : answerCall environment (.update channelId updates) session = _ :=
            bind_error ran
          rw [answered]
          simp only [ChannelMap.step, ChannelMap.take, found]
          exact ⟨rfl, rfl, rfl, readable⟩
      | some channel =>
          rw [found] at ran
          have answered : answerCall environment (.update channelId updates) session = _ :=
            bind_ok ran
          rw [answered]
          simp only [ChannelMap.step, ChannelMap.take, found]
          by_cases noField : updates = .none
          · rw [if_pos noField, noField, amend_none, ← found, Function.update_eq_self]
            exact ⟨rfl, rfl, rfl, readable⟩
          · rw [if_neg noField]
            exact ⟨rfl, channelMap_updated readable found, rfl, readable_updated readable⟩

/-- The database with a new channel. -/
def inserted (now : String) (params : CreateChannelParams) (database : Database) : Database :=
  { database with channels := database.channels.insert (params.row now) }

theorem readable_inserted {now : String} {params : CreateChannelParams} {database : Database}
    (readable : Readable environment database) :
    Readable environment (inserted now params database) := by
  intro row member
  rcases List.mem_append.mp member with old | new
  · exact readable row old
  · rw [List.mem_singleton.mp new]
    exact ⟨_, mapRowToChannel_row params now _⟩

/-- A new channel stands in the map under its id. -/
theorem channelMap_inserted {now : String} {params : CreateChannelParams} {database : Database}
    (fresh : findChannel params.channelId database = none) :
    channelMap environment (inserted now params database) =
      { channelMap environment database with
        channels := Function.update (channelMap environment database).channels params.channelId
          (some (params.channel (database.channels.lastId + 1) now))
        lastId := database.channels.lastId + 1 } := by
  have channels : (channelMap environment (inserted now params database)).channels =
      Function.update (channelMap environment database).channels params.channelId
        (some (params.channel (database.channels.lastId + 1) now)) := by
    funext other
    have moved := findChannel_insert (params.row now) (fun _ => rfl) fresh (fun _ => rfl) other
    unfold channelMap
    dsimp only
    rw [inserted, moved]
    by_cases same : other = params.channelId
    · rw [if_pos same, same, Function.update_self, Option.bind_some, mapRowToChannel_row]
      rfl
    · rw [if_neg same, Function.update_of_ne same]
  unfold channelMap at channels ⊢
  dsimp only at channels ⊢
  rw [channels]
  rfl

theorem insertChannel_eq (now : String) (params : CreateChannelParams) (database : Database) :
    insertChannel now params database =
      if database.channels.rows.any (·.channelId = params.channelId) then
        .error (.constraint .unique "UNIQUE constraint failed: channels.channel_id")
      else if database.servers.rows.any (·.id = params.serverId) = false then
        .error foreignKeyFailed
      else
        .ok (inserted now params database) := rfl

theorem answerCall_create (readable : Readable environment session.database) (now : String)
    (params : CreateChannelParams) :
    Follows environment session.faults.tail
      (answerCall environment (.create now params) session)
      ((channelMap environment session.database).step (.create now params)
        (faultAt session.faults 0)) := by
  have hasServer : (channelMap environment session.database).hasServer params.serverId =
      session.database.servers.rows.any (·.id = params.serverId) := rfl
  cases fault : faultAt session.faults 0 with
  | some text =>
      rw [← fault]
      exact follows_faulty readable fault (bind_error (execute_faulty fault))
  | none =>
      have insert := insertChannel_eq now params session.database
      cases found : findChannel params.channelId session.database with
      | some row =>
          rw [if_pos (channelId_of_findChannel found)] at insert
          have answered : answerCall environment (.create now params) session = _ :=
            bind_error (execute_refused fault insert)
          have present : ((channelMap environment session.database).channels
              params.channelId).isSome = true := by
            rw [Option.isSome_iff_ne_none, ne_eq, channelMap_eq_none readable, found]
            exact Option.some_ne_none row
          rw [answered]
          simp only [ChannelMap.step, ChannelMap.take, present, if_true]
          exact ⟨rfl, rfl, rfl, readable⟩
      | none =>
          have absent := (channelMap_eq_none readable).mpr found
          rw [findChannel_eq_none.mp found, if_neg Bool.false_ne_true] at insert
          simp only [ChannelMap.step, ChannelMap.take, absent, Option.isSome_none,
            Bool.false_eq_true, if_false, hasServer]
          by_cases missing : session.database.servers.rows.any (·.id = params.serverId) = false
          · rw [if_pos missing] at insert ⊢
            have answered : answerCall environment (.create now params) session = _ :=
              bind_error (execute_refused fault insert)
            rw [answered]
            exact ⟨rfl, rfl, rfl, readable⟩
          · rw [if_neg missing] at insert ⊢
            have answered : answerCall environment (.create now params) session = _ :=
              bind_ok (execute_done fault insert)
            rw [answered]
            exact ⟨rfl, channelMap_inserted found, rfl, readable_inserted readable⟩

/-- A call is answered as the map answers it, and leaves what the map is left with. -/
theorem answerCall_follows (readable : Readable environment session.database)
    (call : ChannelCall) :
    Follows environment session.faults.tail (answerCall environment call session)
      ((channelMap environment session.database).step call (faultAt session.faults 0)) := by
  cases call with
  | create now params => exact answerCall_create readable now params
  | update channelId updates => exact answerCall_update readable updates
  | get channelId => exact answerCall_get readable

/-- So is a run of calls. -/
theorem storeTranscript_follows (readable : Readable environment session.database)
    (calls : List ChannelCall) :
    (storeTranscript environment calls session).1 =
        (ChannelMap.transcript calls session.faults
          (channelMap environment session.database)).1 ∧
      channelMap environment (storeTranscript environment calls session).2.database =
        (ChannelMap.transcript calls session.faults
          (channelMap environment session.database)).2 ∧
      Readable environment (storeTranscript environment calls session).2.database := by
  induction calls generalizing session with
  | nil => exact ⟨rfl, rfl, readable⟩
  | cons call calls induction =>
      have one := answerCall_follows readable call
      have rest := induction one.readable
      rw [one.map, one.faults] at rest
      rw [storeTranscript, ChannelMap.transcript]
      exact ⟨by rw [one.answer, rest.1], rest.2⟩

end Calls

section Created

/-- The ids of the channels that calls created, by their answers. -/
def createdIds : List ChannelCall → List ChannelAnswer → List String
  | .create _ params :: calls, .ok _ :: answers => params.channelId :: createdIds calls answers
  | _ :: calls, _ :: answers => createdIds calls answers
  | _, _ => []

/-- The id that a call looks up. -/
def ChannelCall.looksUp : ChannelCall → Option String
  | .create _ _ => none
  | .update channelId _ => some channelId
  | .get channelId => some channelId

variable {map : ChannelMap} {channelId : String}

/-- After a call a channel is there if it was before, or the call created it. -/
theorem ChannelMap.step_channels (map : ChannelMap) (call : ChannelCall) (fault : Option String)
    (channelId : String) :
    (map.step call fault).2.channels channelId ≠ none ↔
      map.channels channelId ≠ none ∨ channelId ∈ createdIds [call] [(map.step call fault).1] := by
  cases fault with
  | some text => cases call <;> simp [step, createdIds]
  | none =>
      cases call with
      | create now params =>
          simp only [step, take]
          split
          · simp [createdIds]
          · split
            · simp [createdIds]
            · by_cases same : channelId = params.channelId
              · simp [createdIds, same]
              · simp [createdIds, same]
      | update other updates =>
          simp only [step, take]
          cases found : map.channels other with
          | none => simp [createdIds]
          | some channel =>
              by_cases same : channelId = other
              · simp [createdIds, same, found]
              · simp [createdIds, same]
      | get other =>
          simp only [step, take]
          cases found : map.channels other with
          | none => simp [createdIds]
          | some channel => simp [createdIds]

theorem createdIds_cons (call : ChannelCall) (answer : ChannelAnswer) (calls : List ChannelCall)
    (answers : List ChannelAnswer) :
    createdIds (call :: calls) (answer :: answers) =
      createdIds [call] [answer] ++ createdIds calls answers := by
  cases call <;> cases answer <;> rfl

/-- After a run a channel is there if it was before, or a call of the run created it. -/
theorem ChannelMap.transcript_channels (calls : List ChannelCall) (faults : List (Option String))
    (map : ChannelMap) (channelId : String) :
    (transcript calls faults map).2.channels channelId ≠ none ↔
      map.channels channelId ≠ none ∨
        channelId ∈ createdIds calls (transcript calls faults map).1 := by
  induction calls generalizing faults map with
  | nil => simp [transcript, createdIds]
  | cons call calls induction =>
      rw [transcript, createdIds_cons, List.mem_append]
      dsimp only
      rw [induction, step_channels, or_assoc]

theorem ChannelMap.take_of_absent {call : ChannelCall} (looked : call.looksUp = some channelId)
    (absent : map.channels channelId = none) :
    map.take call = (.error (.notFound channelId), map) := by
  cases call with
  | create now params => cases looked
  | update other updates =>
      cases looked
      simp [take, absent]
  | get other =>
      cases looked
      simp [take, absent]

theorem ChannelMap.take_of_present {call : ChannelCall} (looked : call.looksUp = some channelId)
    {channel : Channel} (found : map.channels channelId = some channel) :
    ∃ answer, (map.take call).1 = .ok answer := by
  cases call with
  | create now params => cases looked
  | update other updates =>
      cases looked
      simp [take, found]
  | get other =>
      cases looked
      simp [take, found]

theorem ChannelMap.take_of_create {call : ChannelCall} (looked : call.looksUp = none)
    (text : String) : (map.take call).1 ≠ .error (.notFound text) := by
  cases call with
  | create now params =>
      rw [take]
      split
      · simp
      · split <;> simp
  | update other updates => cases looked
  | get other => cases looked

/-- `NotFound` is the answer exactly where a channel that is not there is looked up. -/
theorem ChannelMap.take_notFound (map : ChannelMap) (call : ChannelCall) (text : String) :
    (map.take call).1 = .error (.notFound text) ↔
      call.looksUp = some text ∧ map.channels text = none := by
  constructor
  · intro refused
    cases looked : call.looksUp with
    | none => exact absurd refused (take_of_create looked text)
    | some channelId =>
        cases found : map.channels channelId with
        | none =>
            rw [take_of_absent looked found] at refused
            cases refused
            exact ⟨rfl, found⟩
        | some channel =>
            rcases take_of_present looked found with ⟨answer, answered⟩
            rw [answered] at refused
            cases refused
  · intro absent
    rw [take_of_absent absent.1 absent.2]

end Created

/-- From a database without channels every run of calls is answered as the map answers it and
leaves what the map is left with, whichever statements fail. A call that follows is answered
`NotFound` exactly if it looks up an id that no call of the run created. -/
theorem channelStore_refines {Memory : Type} (environment : Environment) (database : Database)
    (memory : Memory) (calls : List ChannelCall) (faults : List (Option String)) :
    let start : Session Database Memory :=
      ⟨{ database with channels := Table.empty }, memory, faults⟩
    let run := storeTranscript environment calls start
    let expected := ChannelMap.transcript calls faults
      ⟨fun _ => none, 0, fun serverId => database.servers.rows.any (·.id = serverId)⟩
    run.1 = expected.1 ∧ channelMap environment run.2.database = expected.2 ∧
      ∀ call text, (answerCall environment call { run.2 with faults := [] }).1 =
          .error (.notFound text) ↔
        call.looksUp = some text ∧ text ∉ createdIds calls run.1 := by
  intro start run expected
  have readable : Readable environment start.database := by
    intro row member
    cases member
  rcases storeTranscript_follows readable calls with ⟨answers, map, stays⟩
  constructor
  · exact answers
  · constructor
    · exact map
    · intro call text
      have next : Readable environment ({ run.2 with faults := [] } :
        Session Database Memory).database := stays
      have there := ChannelMap.transcript_channels calls faults
        (channelMap environment start.database) text
      rw [(answerCall_follows next call).answer]
      change ((channelMap environment run.2.database).take call).1 = _ ↔ _
      rw [ChannelMap.take_notFound, map, answers]
      apply and_congr_right
      intro _
      have nothing : (channelMap environment start.database).channels text = none := rfl
      rw [← not_iff_not, ← ne_eq, there, not_not]
      simp only [nothing, ne_eq, not_true_eq_false, false_or]
      exact Iff.rfl

end Annex.Channels
