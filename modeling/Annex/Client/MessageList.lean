import Annex.Client.ChannelsStore
import Annex.Server.ReadConfidentiality

namespace Annex.Client

open Db Sql

/-! What the list of messages shows, whatever order calls, answers and frames come in. -/

namespace ChannelsClient

/-- A frame has arrived, since its channel was selected, of a message with the id. -/
def HasArrived (client : ChannelsClient) (messageId : String) : Prop :=
  ∃ frame ∈ client.arrived, ∃ channelId, frame.channelId = some channelId ∧
    client.store.activeChannelId = some channelId ∧ frame.id = messageId

/-- The list shows messages of the selected channel, each once, and all whose frames arrived. -/
structure Consistent (client : ChannelsClient) : Prop where
  belongs : ∀ message ∈ client.store.messages,
    client.store.activeChannelId = some message.channelId
  distinct : client.store.messageIds.Nodup
  shown : ∀ messageId, client.HasArrived messageId → messageId ∈ client.store.messageIds

end ChannelsClient

/-- The handler of the socket adds the message of the frame. -/
def WsReceiveFrame.Adds (frame : WsReceiveFrame) (client : ChannelsClient) : Prop :=
  frame.type = .message ∧ ∃ channelId, frame.channelId = some channelId ∧
    client.store.activeChannelId = some channelId

section Undisturbed

variable {Fq Key : Type} (setting : ChannelsSetting Fq Key)

/-- The channel that the awaited page is of. -/
def ChannelsCall.target : ChannelsCall → Option String
  | .fetching _ channelId | .fetchingOlder _ channelId _ => setting.route channelId
  | _ => none

/-- A page that arrives is of the channel selected by now. The first page of a channel has the
messages whose frames were faster, and a page of older messages none that are shown already. -/
structure ChannelsCall.Undisturbed (call : ChannelsCall) (page : List Message)
    (client : ChannelsClient) : Prop where
  selected : page ≠ [] → client.store.activeChannelId = call.target setting
  complete : match call with
    | .fetching _ _ =>
        ∀ messageId, client.HasArrived messageId → messageId ∈ page.map (·.messageId)
    | _ => ∀ message ∈ page, message.messageId ∉ client.store.messageIds

/-- The step brings no page that came too late and no frame of a message that is shown. -/
def Undisturbed (state : Interleaving ChannelsClient ChannelsCall) : ChannelsEvent → Prop
  | .call (.start _ _) => True
  | .call (.advance id arrival) =>
      ∀ call, state.calls id = some call → ∀ page, call.page setting arrival = some page →
        call.Undisturbed setting page state.shared
  | .frame _ frame => frame.Adds state.shared → frame.id ∉ state.shared.store.messageIds

end Undisturbed

section Frames

variable {client : ChannelsClient} {frame : WsReceiveFrame} {now : String}

/-- Messages stay the ones they are, in the channels they are in. -/
def KeepsPlaces (change : Message → Message) : Prop :=
  ∀ message, (change message).messageId = message.messageId ∧
    (change message).channelId = message.channelId

theorem keepsPlaces_edit : KeepsPlaces frame.edit := by
  intro message
  unfold WsReceiveFrame.edit
  split <;> exact ⟨rfl, rfl⟩

theorem keepsPlaces_delete : KeepsPlaces frame.delete := by
  intro message
  unfold WsReceiveFrame.delete
  split <;> exact ⟨rfl, rfl⟩

/-- An empty list is consistent before any frame has arrived. -/
theorem consistent_of_empty (empty : client.store.messages = [])
    (early : ∀ messageId, ¬client.HasArrived messageId) : client.Consistent := by
  have ids : client.store.messageIds = [] := List.map_eq_nil_iff.mpr empty
  refine ⟨?_, ?_, ?_⟩
  · intro message member
    rw [empty] at member
    exact absurd member List.not_mem_nil
  · rw [ids]
    exact List.nodup_nil
  · intro messageId has
    exact absurd has (early messageId)

/-- Changing the messages in place does not matter. -/
theorem consistent_map {change : Message → Message} (keeps : KeepsPlaces change)
    (consistent : client.Consistent) :
    ChannelsClient.Consistent
      { client with
        store := { client.store with messages := client.store.messages.map change } } := by
  have ids : (client.store.messages.map change).map (·.messageId) = client.store.messageIds := by
    rw [List.map_map]
    exact List.map_congr_left fun message _ => (keeps message).1
  refine ⟨?_, ?_, ?_⟩
  · intro message member
    rcases List.mem_map.mp member with ⟨old, oldMember, same⟩
    rw [← same, (keeps old).2]
    exact consistent.belongs old oldMember
  · change ((client.store.messages.map change).map (·.messageId)).Nodup
    rw [ids]
    exact consistent.distinct
  · intro messageId arrived
    change messageId ∈ (client.store.messages.map change).map (·.messageId)
    rw [ids]
    exact consistent.shown messageId arrived

theorem hasArrived_cons {messageId : String} {arrived : List WsReceiveFrame}
    {store : ChannelsState} {channelId : String} (named : frame.channelId = some channelId)
    (active : store.activeChannelId = some channelId) :
    ChannelsClient.HasArrived ⟨store, frame :: arrived⟩ messageId ↔
      frame.id = messageId ∨ ChannelsClient.HasArrived ⟨store, arrived⟩ messageId := by
  constructor
  · intro has
    rcases has with ⟨found, member, place⟩
    rcases List.mem_cons.mp member with same | old
    · rcases place with ⟨_, _, _, isId⟩
      exact Or.inl (same ▸ isId)
    · exact Or.inr ⟨found, old, place⟩
  · intro has
    rcases has with isId | ⟨found, member, place⟩
    · exact ⟨frame, List.mem_cons_self, channelId, named, active, isId⟩
    · exact ⟨found, List.mem_cons_of_mem _ member, place⟩

/-- A frame of another channel does not count. -/
theorem hasArrived_of_cons {messageId : String} {arrived : List WsReceiveFrame}
    {store : ChannelsState}
    (other : ∀ channelId, frame.channelId = some channelId →
      store.activeChannelId ≠ some channelId)
    (has : ChannelsClient.HasArrived ⟨store, frame :: arrived⟩ messageId) :
    ChannelsClient.HasArrived ⟨store, arrived⟩ messageId := by
  rcases has with ⟨found, member, channelId, named, active, isId⟩
  rcases List.mem_cons.mp member with same | old
  · exact absurd active (other channelId (same ▸ named))
  · exact ⟨found, old, channelId, named, active, isId⟩

/-- A frame that arrives keeps the list consistent unless its message is shown already. -/
theorem consistent_receive_iff (consistent : client.Consistent) :
    (client.receive now frame).Consistent ↔
      (frame.Adds client → frame.id ∉ client.store.messageIds) := by
  by_cases place : ∃ channelId, frame.channelId = some channelId ∧
      client.store.activeChannelId = some channelId
  · rcases place with ⟨channelId, named, active⟩
    unfold ChannelsClient.receive
    rw [ChannelsState.onMessage_of_active named active]
    cases type : frame.type with
    | message =>
        have adds : frame.Adds client := ⟨type, channelId, named, active⟩
        have ids : (client.store.messages ++ [frame.toMessage now channelId]).map (·.messageId) =
            client.store.messageIds ++ [frame.id] := List.map_append
        constructor
        · intro after _
          have distinct : (client.store.messageIds ++ [frame.id]).Nodup := ids ▸ after.distinct
          intro shown
          exact (List.nodup_append.mp distinct).2.2 _ shown _ List.mem_cons_self rfl
        · intro fresh
          refine ⟨?_, ?_, ?_⟩
          · intro message member
            rcases List.mem_append.mp member with old | new
            · exact consistent.belongs message old
            · rw [List.mem_singleton.mp new]
              exact active
          · change ((client.store.messages ++ [frame.toMessage now channelId]).map
              (·.messageId)).Nodup
            rw [ids]
            exact List.Nodup.append consistent.distinct (List.nodup_singleton _)
              (List.disjoint_singleton.mpr (fresh adds))
          · intro messageId has
            have either := (hasArrived_cons named active).mp has
            change messageId ∈ (client.store.messages ++ [frame.toMessage now channelId]).map
              (·.messageId)
            rw [ids, List.mem_append, List.mem_singleton]
            rcases either with isId | old
            · exact Or.inr isId.symm
            · exact Or.inl (consistent.shown messageId old)
    | messageEdited =>
        exact iff_of_true (consistent_map keepsPlaces_edit consistent)
          fun adds => nomatch type.symm.trans adds.1
    | messageDeleted =>
        exact iff_of_true (consistent_map keepsPlaces_delete consistent)
          fun adds => nomatch type.symm.trans adds.1
    | rtxBundle => exact iff_of_true consistent fun adds => nomatch type.symm.trans adds.1
    | transcription => exact iff_of_true consistent fun adds => nomatch type.symm.trans adds.1
    | error => exact iff_of_true consistent fun adds => nomatch type.symm.trans adds.1
  · have ignored : client.store.onMessage now frame = client.store := by
      unfold ChannelsState.onMessage
      cases named : frame.channelId with
      | none => rfl
      | some channelId => exact if_pos fun active => place ⟨channelId, named, active⟩
    refine iff_of_true ?_ fun adds => absurd adds.2 place
    unfold ChannelsClient.receive
    rw [ignored]
    refine ⟨consistent.belongs, consistent.distinct, ?_⟩
    intro messageId has
    apply consistent.shown messageId
    by_cases type : frame.type = .message
    · rw [if_pos type] at has
      exact hasArrived_of_cons
        (fun channelId named active => place ⟨channelId, named, active⟩) has
    · rw [if_neg type] at has
      exact has

end Frames

section Calls

variable {Fq Key : Type} {setting : ChannelsSetting Fq Key} {client : ChannelsClient}
  {call : ChannelsCall} {arrival : Arrival} {page : List Message}

theorem getMessages_page {pseudonymId channelId : String} {before : Option String} {limit : Nat}
    (answered : getMessages setting pseudonymId channelId before limit arrival = some page) :
    (∀ message ∈ page, setting.route channelId = some message.channelId) ∧
      (page.map (·.messageId)).Nodup := by
  cases arrival with
  | failed => cases answered
  | answered reading =>
      unfold getMessages at answered
      cases routed : setting.route channelId with
      | none =>
          rw [routed] at answered
          cases answered
      | some pathChannelId =>
          rw [routed] at answered
          dsimp only at answered
          rcases ran : Server.getChannelHistoryHandler setting.server pseudonymId pathChannelId none
            (given before) (some limit) reading.session with ⟨error | rows, after⟩
          · rw [ran] at answered
            cases answered
          · rw [ran] at answered
            have listed := Server.messages_of_getChannelHistoryHandler _ _ _ _ _ _ ran
            have isPage : rows.map Message.ofRow = page := Option.some.inj answered
            constructor
            · intro message member
              rw [← isPage] at member
              rcases List.mem_map.mp member with ⟨row, rowMember, same⟩
              rw [listed] at rowMember
              rw [← same]
              exact congrArg some (Server.channelId_of_mem_messagesPage rowMember).symm
            · have ids : page.map (·.messageId) = rows.map (·.messageId) := by
                rw [← isPage, List.map_map]
                rfl
              rw [ids, listed]
              exact Server.nodup_messagesPage reading.unique

/-- A page has messages of one channel only, each once. -/
theorem call_page (answered : call.page setting arrival = some page) :
    (∀ message ∈ page, call.target setting = some message.channelId) ∧
      (page.map (·.messageId)).Nodup := by
  cases call with
  | fetching pseudonymId channelId => exact getMessages_page answered
  | fetchingOlder pseudonymId channelId before => exact getMessages_page answered
  | selecting pseudonymId channelId => cases answered
  | joining pseudonymId channelId => cases answered
  | loadingOlder pseudonymId => cases answered
  | leaving pseudonymId channelId => cases answered

/-- Messages of one channel belong to the selected one exactly if it is that one. -/
theorem belongs_iff {target active : Option String}
    (placed : ∀ message ∈ page, target = some message.channelId) :
    (∀ message ∈ page, active = some message.channelId) ↔ (page ≠ [] → active = target) := by
  constructor
  · intro belongs nonempty
    rcases List.exists_mem_of_ne_nil page nonempty with ⟨message, member⟩
    exact (belongs message member).trans (placed message member).symm
  · intro same message member
    exact (same (List.ne_nil_of_mem member)).trans (placed message member)

theorem consistent_select (channelId : String) (store : ChannelsState) :
    ChannelsClient.Consistent ⟨store.select channelId, []⟩ := by
  apply consistent_of_empty rfl
  intro messageId has
  rcases has with ⟨frame, member, _⟩
  exact absurd member List.not_mem_nil

theorem consistent_showPage_iff
    (placed : ∀ message ∈ page, call.target setting = some message.channelId)
    (distinct : (page.map (·.messageId)).Nodup) :
    ChannelsClient.Consistent { client with store := client.store.showPage page } ↔
      (page ≠ [] → client.store.activeChannelId = call.target setting) ∧
        ∀ messageId, client.HasArrived messageId → messageId ∈ page.map (·.messageId) := by
  have ids : (client.store.showPage page).messageIds = (page.map (·.messageId)).reverse :=
    List.map_reverse
  rw [← belongs_iff placed]
  constructor
  · intro consistent
    constructor
    · intro message member
      exact consistent.belongs message (List.mem_reverse.mpr member)
    · intro messageId has
      have shown := consistent.shown messageId has
      rw [ids, List.mem_reverse] at shown
      exact shown
  · intro fits
    refine ⟨?_, ?_, ?_⟩
    · intro message member
      exact fits.1 message (List.mem_reverse.mp member)
    · rw [ids, List.nodup_reverse]
      exact distinct
    · intro messageId has
      rw [ids, List.mem_reverse]
      exact fits.2 messageId has

theorem consistent_showOlder_iff
    (placed : ∀ message ∈ page, call.target setting = some message.channelId)
    (distinct : (page.map (·.messageId)).Nodup) (consistent : client.Consistent) :
    ChannelsClient.Consistent
        { client with store := { client.store.showOlder page with loadingOlder := false } } ↔
      (page ≠ [] → client.store.activeChannelId = call.target setting) ∧
        ∀ message ∈ page, message.messageId ∉ client.store.messageIds := by
  have ids : (client.store.showOlder page).messageIds =
      (page.map (·.messageId)).reverse ++ client.store.messageIds := by
    unfold ChannelsState.messageIds ChannelsState.showOlder
    rw [List.map_append, List.map_reverse]
  have disjoint : (page.map (·.messageId)).reverse.Disjoint client.store.messageIds ↔
      ∀ message ∈ page, message.messageId ∉ client.store.messageIds := by
    constructor
    · intro apart message member shown
      exact apart (List.mem_reverse.mpr (List.mem_map_of_mem member)) shown
    · intro fresh messageId member shown
      rcases List.mem_map.mp (List.mem_reverse.mp member) with ⟨message, inPage, same⟩
      exact fresh message inPage (same ▸ shown)
  rw [← belongs_iff placed, ← disjoint]
  constructor
  · intro after
    constructor
    · intro message member
      exact after.belongs message (List.mem_append_left _ (List.mem_reverse.mpr member))
    · have distinctAfter : (client.store.showOlder page).messageIds.Nodup := after.distinct
      rw [ids] at distinctAfter
      exact List.disjoint_of_nodup_append distinctAfter
  · intro fits
    refine ⟨?_, ?_, ?_⟩
    · intro message member
      rcases List.mem_append.mp member with new | old
      · exact fits.1 message (List.mem_reverse.mp new)
      · exact consistent.belongs message old
    · change (client.store.showOlder page).messageIds.Nodup
      rw [ids]
      exact List.Nodup.append (List.nodup_reverse.mpr distinct) consistent.distinct fits.2
    · intro messageId has
      change messageId ∈ (client.store.showOlder page).messageIds
      rw [ids]
      exact List.mem_append_right _ (consistent.shown messageId has)

theorem consistent_left (channelId : String) (consistent : client.Consistent) :
    ChannelsClient.Consistent { client with store := client.store.left channelId } := by
  unfold ChannelsState.left
  split
  · apply consistent_of_empty rfl
    intro messageId has
    rcases has with ⟨_, _, _, _, active, _⟩
    cases active
  · exact consistent

/-- Where a call goes on, the list stays consistent exactly if the page fits, if one comes. -/
theorem consistent_act_iff (consistent : client.Consistent) :
    (call.act setting arrival client).1.Consistent ↔
      ∀ page, call.page setting arrival = some page → call.Undisturbed setting page client := by
  cases call with
  | selecting pseudonymId channelId =>
      exact iff_of_true (consistent_select channelId client.store) fun _ none => nomatch none
  | joining pseudonymId channelId =>
      refine iff_of_true ?_ fun _ none => nomatch none
      exact ⟨consistent.belongs, consistent.distinct, consistent.shown⟩
  | fetching pseudonymId channelId =>
      cases answered : (ChannelsCall.fetching pseudonymId channelId).page setting arrival with
      | none =>
          unfold ChannelsCall.act
          dsimp only
          rw [answered]
          exact iff_of_true consistent fun _ none => nomatch none
      | some page =>
          have facts := call_page answered
          unfold ChannelsCall.act
          dsimp only
          rw [answered]
          rw [consistent_showPage_iff facts.1 facts.2]
          constructor
          · intro fits other same
            cases same
            exact ⟨fits.1, fits.2⟩
          · intro undisturbed
            have fits := undisturbed page rfl
            exact ⟨fits.selected, fits.complete⟩
  | loadingOlder pseudonymId =>
      refine iff_of_true ?_ fun _ none => nomatch none
      unfold ChannelsCall.act
      cases client.store.olderRequest with
      | none => exact consistent
      | some request => exact ⟨consistent.belongs, consistent.distinct, consistent.shown⟩
  | fetchingOlder pseudonymId channelId before =>
      cases answered :
        (ChannelsCall.fetchingOlder pseudonymId channelId before).page setting arrival with
      | none =>
          unfold ChannelsCall.act
          dsimp only
          rw [answered]
          refine iff_of_true ?_ fun _ none => nomatch none
          exact ⟨consistent.belongs, consistent.distinct, consistent.shown⟩
      | some page =>
          have facts := call_page answered
          unfold ChannelsCall.act
          dsimp only
          rw [answered]
          rw [consistent_showOlder_iff facts.1 facts.2 consistent]
          constructor
          · intro fits other same
            cases same
            exact ⟨fits.1, fits.2⟩
          · intro undisturbed
            have fits := undisturbed page rfl
            exact ⟨fits.selected, fits.complete⟩
  | leaving pseudonymId channelId =>
      refine iff_of_true ?_ fun _ none => nomatch none
      cases arrival with
      | failed => exact consistent
      | answered reading => exact consistent_left channelId consistent

/-- A step keeps the list consistent exactly if nothing comes too late or twice. -/
theorem consistent_step_iff (state : Interleaving ChannelsClient ChannelsCall)
    (event : ChannelsEvent) (consistent : state.shared.Consistent) :
    (channelsStep setting state event).shared.Consistent ↔ Undisturbed setting state event := by
  cases event with
  | frame now frame => exact consistent_receive_iff consistent
  | call label =>
      cases label with
      | start id request =>
          refine iff_of_true ?_ trivial
          unfold channelsStep Interleaving.step
          dsimp only
          cases state.calls id with
          | none => exact consistent
          | some call => exact consistent
      | advance id arrival =>
          unfold channelsStep Interleaving.step Undisturbed
          dsimp only
          cases found : state.calls id with
          | none => exact iff_of_true consistent fun _ none => nomatch none
          | some call =>
              constructor
              · intro after other same
                cases same
                exact (consistent_act_iff consistent).mp after
              · intro undisturbed
                exact (consistent_act_iff consistent).mpr (undisturbed call rfl)

theorem consistent_initial (ws : Option SubscribedSocket) :
    (ChannelsClient.initial ws).Consistent := by
  apply consistent_of_empty rfl
  intro messageId has
  rcases has with ⟨frame, member, _⟩
  exact absurd member List.not_mem_nil

/-- The list is consistent all along exactly if nothing ever comes too late or twice. -/
theorem always_consistent_iff (ws : Option SubscribedSocket) (events : List ChannelsEvent) :
    (∀ state, Execution.Visits (channelsStep setting) (Interleaving.idle (.initial ws)) events
        state → state.shared.Consistent) ↔
      Execution.Guarded (channelsStep setting) (Undisturbed setting)
        (Interleaving.idle (.initial ws)) events := by
  apply Execution.visits_iff_guarded fun _ consistent => consistent
  · intro state event consistent undisturbed
    exact (consistent_step_iff state event consistent).mpr undisturbed
  · intro state event consistent disturbed after
    exact disturbed ((consistent_step_iff state event consistent).mp after)
  · exact consistent_initial ws

/-- In a run in which no page comes too late and no frame of a message that is shown, the list
is consistent whenever no call is pending. -/
theorem consistent_of_undisturbed (setting : ChannelsSetting Fq Key)
    (ws : Option SubscribedSocket) (events : List ChannelsEvent)
    (undisturbed : Execution.Guarded (channelsStep setting) (Undisturbed setting)
      (Interleaving.idle (.initial ws)) events) :
    ∀ state, Execution.Visits (channelsStep setting) (Interleaving.idle (.initial ws)) events
      state → state.Idle → state.shared.Consistent :=
  fun state visited _ => (always_consistent_iff ws events).mpr undisturbed state visited

end Calls

section Sample

/-! Channel `b` has a message, channel `a` has none. -/

def listSetting : ChannelsSetting Unit Unit := ⟨Server.readingServer, some⟩

def readerOf (channelId : String) (id : Nat) : Channels.ChannelMember :=
  ⟨id, 1, channelId, "reader", "MEMBER", ""⟩

def memberOfBoth : Database :=
  { Server.uneditedDatabase with
    channelMembers := (Table.empty.insert (readerOf "a")).insert (readerOf "b") }

def memberReading : Reading := ⟨⟨memberOfBoth, [], []⟩, List.nodup_singleton _⟩

def messageFrame (channelId messageId : String) : WsReceiveFrame where
  type := .message
  channelId := some channelId
  messageId := some messageId
  senderPseudonym := none
  content := none
  replyToMessageId := none
  createdAt := none
  editedAt := none
  deletedAt := none

def selectEvents (id : Nat) (channelId : String) : List ChannelsEvent :=
  [.call (.start id (.selectChannel "reader" channelId)), .call (.advance id .failed),
    .call (.advance id (.answered memberReading))]

/-- Channel `b` is selected, its page arrives and then a frame of another message. -/
def oneSelection : List ChannelsEvent :=
  selectEvents 0 "b" ++ [.call (.advance 0 (.answered memberReading)),
    .frame "" (messageFrame "b" "n")]

/-- Channel `a` is selected while the page of `b` is awaited, and that page comes last. -/
def lateAnswer : List ChannelsEvent :=
  selectEvents 0 "b" ++ selectEvents 1 "a" ++ [.call (.advance 1 (.answered memberReading)),
    .call (.advance 0 (.answered memberReading))]

def afterOneSelection : Interleaving ChannelsClient ChannelsCall :=
  Execution.run (channelsStep listSetting) (Interleaving.idle (.initial none)) oneSelection

/-- Nothing comes too late in a run of one selection. -/
theorem consistent_afterOneSelection : afterOneSelection.shared.Consistent := by
  refine consistent_of_undisturbed listSetting none oneSelection ⟨trivial, ?_, ?_, ?_, ?_, trivial⟩
    afterOneSelection ⟨oneSelection, List.prefix_rfl, rfl⟩ ?_
  · intro call found page answered
    cases found
    cases answered
  · intro call found page answered
    cases found
    cases answered
  · intro call found page answered
    cases found
    have isPage : page = memberOfBoth.messages.rows.map .ofRow := by
      rw [← Option.some.injEq, ← answered]
      decide +kernel
    rw [isPage]
    refine ⟨fun _ => rfl, ?_⟩
    intro messageId has
    rcases has with ⟨frame, member, _⟩
    exact absurd member List.not_mem_nil
  · intro _
    decide +kernel
  · intro id
    rcases id with _ | id
    · rfl
    · rfl

/-- The list is consistent whenever no call is pending. -/
def AlwaysConsistent (setting : ChannelsSetting Unit Unit) : Prop :=
  ∀ (ws : Option SubscribedSocket) (events : List ChannelsEvent) (state),
    Execution.Visits (channelsStep setting) (Interleaving.idle (.initial ws)) events state →
      state.Idle → state.shared.Consistent

/-- The message of `b` is shown in `a`. -/
theorem not_alwaysConsistent : ¬ AlwaysConsistent listSetting := by
  intro always
  have consistent := always none lateAnswer _ ⟨lateAnswer, List.prefix_rfl, rfl⟩ ?_
  · have belongs := consistent.belongs
    revert belongs
    decide +kernel
  · intro id
    rcases id with _ | _ | id
    · rfl
    · rfl
    · rfl

end Sample

end Annex.Client
