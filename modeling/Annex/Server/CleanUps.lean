import Annex.Server.ConnectionSteps
import Annex.Server.SubscriptionInverse

namespace Annex.Server

open Interleaving

/-! Clean-ups that no subscription of the same pseudonym disturbs: what they leave has nothing
of the pseudonym. -/

/-- A channel or the entry of the pseudonym lists a subscription. -/
def ConnectionManager.Holds (manager : ConnectionManager) (pseudonym : String) : Prop :=
  ∃ channelId, manager.channelSubscriptions.Lists channelId pseudonym ∨
    manager.userSubscriptions.Lists pseudonym channelId

namespace ConnectionCall

/-- The call has read what it is to clean up for the pseudonym, or is at the insertion after it. -/
def Cleans (pseudonym : String) : ConnectionCall → Prop
  | .cleanChannels user _ _ => user = pseudonym
  | .cleanUser user _ => user = pseudonym
  | .insertSession user _ => user = pseudonym
  | _ => False

/-- The call is between the two locks of a subscription of the pseudonym. -/
def Subscribes (pseudonym : String) : ConnectionCall → Prop
  | .subscribeUser _ user => user = pseudonym
  | _ => False

section Acts

variable {id : Nat} {call rest : ConnectionCall} {manager after : ConnectionManager}
  {next : Option ConnectionCall} {pseudonym : String}

theorem cleans_of_cleaned {user : String} {session : Option String}
    (continues : cleaned user session = some rest) (cleans : rest.Cleans pseudonym) :
    user = pseudonym := by
  rcases Option.map_eq_some_iff.mp continues with ⟨sessionId, _, same⟩
  rw [← same] at cleans
  exact cleans

/-- How a call comes to a clean-up. -/
theorem cleans_of_acts (acts : Acts id manager call after next) (continues : next = some rest)
    (cleans : rest.Cleans pseudonym) :
    call.Cleans pseudonym ∨ (∃ session, call = .collectChannels pseudonym session) ∨
      ∃ sessionId, call = .addSession pseudonym sessionId ∧ manager.sessions pseudonym = none := by
  cases acts with
  | addFirst found =>
      cases continues
      cases cleans
      exact Or.inr (Or.inr ⟨_, rfl, found⟩)
  | collect =>
      cases continues
      cases cleans
      exact Or.inr (Or.inl ⟨_, rfl⟩)
  | collectNone =>
      rw [cleans_of_cleaned continues cleans]
      exact Or.inr (Or.inl ⟨_, rfl⟩)
  | cleanChannels =>
      cases continues
      exact Or.inl cleans
  | cleanUser => exact Or.inl (cleans_of_cleaned continues cleans)
  | addPrevious | remove | disconnect | subscribe | unsubscribe =>
      cases continues
      exact cleans.elim
  | insertSession | disconnectNone | removeStale | subscribeUser | unsubscribeUser =>
      cases continues

theorem not_subscribes_of_cleaned {user : String} {session : Option String}
    (continues : cleaned user session = some rest) : ¬ rest.Subscribes pseudonym := by
  rcases Option.map_eq_some_iff.mp continues with ⟨sessionId, _, same⟩
  rw [← same]
  exact not_false

theorem subscribes_of_acts (acts : Acts id manager call after next)
    (continues : next = some rest) (subscribes : rest.Subscribes pseudonym) :
    ∃ channelId, call = .subscribe channelId pseudonym := by
  cases acts with
  | subscribe =>
      cases continues
      cases subscribes
      exact ⟨_, rfl⟩
  | collectNone | cleanUser => exact absurd subscribes (not_subscribes_of_cleaned continues)
  | addPrevious | addFirst | collect | cleanChannels | disconnect | remove | unsubscribe =>
      cases continues
      exact subscribes.elim
  | insertSession | disconnectNone | removeStale | subscribeUser | unsubscribeUser =>
      cases continues

/-- What a step adds, it adds as a step of a subscription. -/
theorem holds_of_acts (acts : Acts id manager call after next) (holds : after.Holds pseudonym) :
    manager.Holds pseudonym ∨ (∃ channelId, call = .subscribe channelId pseudonym) ∨
      call.Subscribes pseudonym := by
  rcases holds with ⟨channelId, inChannel | inUser⟩
  · rcases lists_of_acts acts inChannel with before | subscribe
    · exact Or.inl ⟨channelId, Or.inl before⟩
    · exact Or.inr (Or.inl ⟨channelId, subscribe⟩)
  · rcases userLists_of_acts acts inUser with before | subscribe
    · exact Or.inl ⟨channelId, Or.inr before⟩
    · rw [subscribe]
      exact Or.inr (Or.inr rfl)

theorem cleanChannels_of_acts {channels : Finset String} {session : Option String}
    (acts : Acts id manager call after (some (.cleanChannels pseudonym channels session))) :
    call = .collectChannels pseudonym session ∧
      manager.userSubscriptions pseudonym = some channels := by
  generalize continues : some (cleanChannels pseudonym channels session) = next at acts
  cases acts with
  | collect found =>
      cases continues
      exact ⟨rfl, found⟩
  | collectNone | cleanUser =>
      rcases Option.map_eq_some_iff.mp continues.symm with ⟨_, _, same⟩
      cases same
  | _ => cases continues

theorem cleanUser_of_acts {session : Option String}
    (acts : Acts id manager call after (some (.cleanUser pseudonym session))) :
    ∃ channels, call = .cleanChannels pseudonym channels session ∧
      after.channelSubscriptions =
        manager.channelSubscriptions.eraseAll channels pseudonym := by
  generalize continues : some (cleanUser pseudonym session) = next at acts
  cases acts with
  | cleanChannels =>
      cases continues
      exact ⟨_, rfl, rfl⟩
  | collectNone | cleanUser =>
      rcases Option.map_eq_some_iff.mp continues.symm with ⟨_, _, same⟩
      cases same
  | _ => cases continues

/-- How a call comes to insert a session: there was none before, or the clean-up is over. -/
theorem insertSession_of_acts {sessionId : String}
    (acts : Acts id manager call after (some (.insertSession pseudonym sessionId))) :
    (call = .addSession pseudonym sessionId ∧ manager.sessions pseudonym = none) ∨
      (∃ session, call = .collectChannels pseudonym session ∧
        manager.userSubscriptions pseudonym = none) ∨
        ∃ session, call = .cleanUser pseudonym session ∧
          after = { manager with
            userSubscriptions := manager.userSubscriptions.remove pseudonym } := by
  generalize continues : some (insertSession pseudonym sessionId) = next at acts
  cases acts with
  | addFirst found =>
      cases continues
      exact Or.inl ⟨rfl, found⟩
  | collectNone found =>
      rcases Option.map_eq_some_iff.mp continues.symm with ⟨_, _, same⟩
      cases same
      exact Or.inr (Or.inl ⟨_, rfl, found⟩)
  | cleanUser =>
      rcases Option.map_eq_some_iff.mp continues.symm with ⟨_, _, same⟩
      cases same
      exact Or.inr (Or.inr ⟨_, rfl, rfl⟩)
  | _ => cases continues

end Acts

end ConnectionCall

namespace Connections

/-- Nothing is entered for the pseudonym, and no subscription of it is between its two locks. -/
def Gone (state : Connections) (pseudonym : String) : Prop :=
  ¬ state.shared.Holds pseudonym ∧ ¬ state.Pending (·.Subscribes pseudonym)

/-- The steps of subscriptions and clean-ups of one pseudonym do not cross: no subscription is
entered once a clean-up has read what there is to clean up, none is between its two locks when
it is read, and a new session that finds none to clean up after finds no subscription. -/
def Uncrossed (state : Connections) : ConnectionLabel → Prop
  | .start _ _ => True
  | .advance id _ => ∀ call, state.calls id = some call →
      match call with
      | .subscribe _ pseudonym => ¬ state.Pending (·.Cleans pseudonym)
      | .collectChannels pseudonym _ => ¬ state.Pending (·.Subscribes pseudonym)
      | .addSession pseudonym _ =>
          state.shared.sessions pseudonym = none → state.Gone pseudonym
      | _ => True

/-- The step enters no subscription of the pseudonym. -/
def Others (pseudonym : String) (state : Connections) : ConnectionLabel → Prop
  | .start _ _ => True
  | .advance id _ => ∀ call channelId, state.calls id = some call →
      call ≠ .subscribe channelId pseudonym

/-- How far the clean-ups in progress have come. -/
structure CleaningUp (state : Connections) : Prop where
  consistent : Consistent state
  undisturbed : ∀ pseudonym, state.Pending (·.Cleans pseudonym) →
    ¬ state.Pending (·.Subscribes pseudonym)
  collected : ∀ pseudonym channels session,
    state.InProgress (.cleanChannels pseudonym channels session) →
      ∀ channelId, state.shared.channelSubscriptions.Lists channelId pseudonym →
        channelId ∈ channels
  cleaned : ∀ pseudonym session, state.InProgress (.cleanUser pseudonym session) →
    ∀ channelId, ¬ state.shared.channelSubscriptions.Lists channelId pseudonym
  inserting : ∀ pseudonym sessionId, state.InProgress (.insertSession pseudonym sessionId) →
    ¬ state.shared.Holds pseudonym

theorem cleaningUp_idle : CleaningUp (idle .new) where
  consistent := consistent_idle
  undisturbed _ pending := absurd pending ((idle_idle _).not_pending _)
  collected _ _ _ inProgress := absurd inProgress ((idle_idle _).not_inProgress _)
  cleaned _ _ inProgress := absurd inProgress ((idle_idle _).not_inProgress _)
  inserting _ _ inProgress := absurd inProgress ((idle_idle _).not_inProgress _)

section Steps

variable {state : Connections} {id : Nat} {call : ConnectionCall} {manager : ConnectionManager}
  {next : Option ConnectionCall} {pseudonym : String}

/-- A clean-up that finds no entry of the pseudonym has nothing to clean. -/
theorem CleaningUp.not_holds_of_none (cleaningUp : CleaningUp state)
    (quiet : ¬ state.Pending (·.Subscribes pseudonym))
    (found : state.shared.userSubscriptions pseudonym = none) :
    ¬ state.shared.Holds pseudonym := by
  intro holds
  have entry (channelId : String) :
      ¬ state.shared.userSubscriptions.Lists pseudonym channelId := by
    intro listed
    rcases listed with ⟨_, stored, _⟩
    rw [found] at stored
    cases stored
  rcases holds with ⟨channelId, inChannel | inUser⟩
  · rcases cleaningUp.consistent.channelListed channelId pseudonym inChannel with
      inUser | subscribing
    · exact entry channelId inUser
    · exact quiet (subscribing.pending rfl)
  · exact entry channelId inUser

/-- The last step of a clean-up leaves nothing. -/
theorem CleaningUp.not_holds_of_cleanUser (cleaningUp : CleaningUp state)
    {session : Option String} (found : state.calls id = some (.cleanUser pseudonym session)) :
    ¬ ConnectionManager.Holds
      { state.shared with
        userSubscriptions := state.shared.userSubscriptions.remove pseudonym } pseudonym := by
  intro holds
  rcases holds with ⟨channelId, inChannel | inUser⟩
  · exact cleaningUp.cleaned pseudonym session ⟨id, found⟩ channelId inChannel
  · exact (SetMap.lists_remove.mp inUser).2 rfl

/-- While a clean-up is in progress, no step adds a subscription of its pseudonym. -/
theorem CleaningUp.not_adds (cleaningUp : CleaningUp state) {input : Unit}
    (uncrossed : Uncrossed state (.advance id input)) (found : state.calls id = some call)
    (acts : call.Acts id state.shared manager next)
    (cleaning : Pending ⟨manager, Function.update state.calls id next⟩ (·.Cleans pseudonym)) :
    (∀ channelId, call ≠ .subscribe channelId pseudonym) ∧ ¬ call.Subscribes pseudonym := by
  constructor
  · intro channelId isSubscribe
    rw [isSubscribe] at found acts
    rcases cleaning.of_update with ⟨rest, continues, cleans⟩ | before
    · rcases ConnectionCall.cleans_of_acts acts continues cleans with
        was | ⟨_, isCollect⟩ | ⟨_, isAdd, _⟩
      · exact was
      · cases isCollect
      · cases isAdd
    · exact uncrossed _ found before
  · intro subscribes
    rcases cleaning.of_update with ⟨rest, continues, cleans⟩ | before
    · rcases ConnectionCall.cleans_of_acts acts continues cleans with
        was | ⟨_, isCollect⟩ | ⟨_, isAdd, _⟩
      · exact cleaningUp.undisturbed pseudonym ⟨id, call, found, was⟩ ⟨id, call, found, subscribes⟩
      · rw [isCollect] at subscribes
        exact subscribes
      · rw [isAdd] at subscribes
        exact subscribes
    · exact cleaningUp.undisturbed pseudonym before ⟨id, call, found, subscribes⟩

theorem CleaningUp.start (cleaningUp : CleaningUp state) (request : ConnectionRequest)
    (consistent : Consistent
      ⟨state.shared, Function.update state.calls id (some (.ofRequest request))⟩) :
    CleaningUp ⟨state.shared, Function.update state.calls id (some (.ofRequest request))⟩ := by
  have begins (call : ConnectionCall) (started : some (.ofRequest request) = some call)
      (pseudonym : String) : ¬ call.Cleans pseudonym ∧ ¬ call.Subscribes pseudonym := by
    cases started
    cases request <;> exact ⟨not_false, not_false⟩
  refine ⟨consistent, ?_, ?_, ?_, ?_⟩
  · intro pseudonym cleaning subscribing
    rcases cleaning.of_update with ⟨rest, started, cleans⟩ | cleaning
    · exact (begins rest started pseudonym).1 cleans
    · rcases subscribing.of_update with ⟨rest, started, subscribes⟩ | subscribing
      · exact (begins rest started pseudonym).2 subscribes
      · exact cleaningUp.undisturbed pseudonym cleaning subscribing
  · intro pseudonym channels session inProgress
    apply cleaningUp.collected pseudonym channels session
    exact inProgress.of_update fun started => (begins _ started pseudonym).1 rfl
  · intro pseudonym session inProgress
    apply cleaningUp.cleaned pseudonym session
    exact inProgress.of_update fun started => (begins _ started pseudonym).1 rfl
  · intro pseudonym sessionId inProgress
    apply cleaningUp.inserting pseudonym sessionId
    exact inProgress.of_update fun started => (begins _ started pseudonym).1 rfl

theorem CleaningUp.advance (cleaningUp : CleaningUp state) {input : Unit}
    (uncrossed : Uncrossed state (.advance id input)) (found : state.calls id = some call)
    (acted : call.act id state.shared = some (manager, next))
    (consistent : Consistent ⟨manager, Function.update state.calls id next⟩) :
    CleaningUp ⟨manager, Function.update state.calls id next⟩ := by
  have acts := ConnectionCall.acts_of_act acted
  refine ⟨consistent, ?_, ?_, ?_, ?_⟩
  · intro pseudonym cleaning subscribing
    have quiet := cleaningUp.not_adds uncrossed found acts cleaning
    rcases subscribing.of_update with ⟨rest, continues, subscribes⟩ | subscribing
    · rcases ConnectionCall.subscribes_of_acts acts continues subscribes with ⟨_, isSubscribe⟩
      exact quiet.1 _ isSubscribe
    · rcases cleaning.of_update with ⟨rest, continues, cleans⟩ | cleaning
      · have guarded := uncrossed call found
        rcases ConnectionCall.cleans_of_acts acts continues cleans with
          was | ⟨_, isCollect⟩ | ⟨_, isAdd, none⟩
        · exact cleaningUp.undisturbed pseudonym ⟨id, call, found, was⟩ subscribing
        · rw [isCollect] at guarded
          exact guarded subscribing
        · rw [isAdd] at guarded
          exact (guarded none).2 subscribing
      · exact cleaningUp.undisturbed pseudonym cleaning subscribing
  · intro pseudonym channels session inProgress channelId listed
    have quiet := cleaningUp.not_adds uncrossed found acts (inProgress.pending rfl)
    have before := (ConnectionCall.lists_of_acts acts listed).resolve_right (quiet.1 channelId)
    by_cases new : next = some (.cleanChannels pseudonym channels session)
    · rw [new] at acts
      rcases ConnectionCall.cleanChannels_of_acts acts with ⟨isCollect, stored⟩
      have guarded := uncrossed call found
      rw [isCollect] at guarded
      rcases cleaningUp.consistent.channelListed channelId pseudonym before with
        inUser | subscribing
      · rcases inUser with ⟨_, same, member⟩
        rw [stored] at same
        exact Option.some.inj same ▸ member
      · exact (guarded (subscribing.pending rfl)).elim
    · exact cleaningUp.collected pseudonym channels session (inProgress.of_update new) channelId
        before
  · intro pseudonym session inProgress channelId listed
    have quiet := cleaningUp.not_adds uncrossed found acts (inProgress.pending rfl)
    have before := (ConnectionCall.lists_of_acts acts listed).resolve_right (quiet.1 channelId)
    by_cases new : next = some (.cleanUser pseudonym session)
    · rw [new] at acts
      rcases ConnectionCall.cleanUser_of_acts acts with ⟨channels, isClean, erased⟩
      rw [isClean] at found
      dsimp only at listed
      rw [erased, SetMap.lists_eraseAll] at listed
      exact listed.2 ⟨cleaningUp.collected pseudonym channels session ⟨id, found⟩ channelId before,
        rfl⟩
    · exact cleaningUp.cleaned pseudonym session (inProgress.of_update new) channelId before
  · intro pseudonym sessionId inProgress holds
    have quiet := cleaningUp.not_adds uncrossed found acts (inProgress.pending rfl)
    have before : state.shared.Holds pseudonym := by
      rcases ConnectionCall.holds_of_acts acts holds with before | ⟨_, isSubscribe⟩ | subscribes
      · exact before
      · exact absurd isSubscribe (quiet.1 _)
      · exact absurd subscribes quiet.2
    by_cases new : next = some (.insertSession pseudonym sessionId)
    · have guarded := uncrossed call found
      rw [new] at acts
      rcases ConnectionCall.insertSession_of_acts acts with
        ⟨isAdd, none⟩ | ⟨session, isCollect, none⟩ | ⟨session, isClean, removed⟩
      · rw [isAdd] at guarded
        exact (guarded none).1 before
      · rw [isCollect] at guarded
        exact cleaningUp.not_holds_of_none guarded none before
      · rw [isClean] at found
        dsimp only at holds
        rw [removed] at holds
        exact cleaningUp.not_holds_of_cleanUser found holds
    · exact cleaningUp.inserting pseudonym sessionId (inProgress.of_update new) before

theorem gone_of_acts (gone : state.Gone pseudonym) (found : state.calls id = some call)
    (acts : call.Acts id state.shared manager next)
    (other : ∀ channelId, call ≠ .subscribe channelId pseudonym) :
    Gone ⟨manager, Function.update state.calls id next⟩ pseudonym := by
  constructor
  · intro holds
    rcases ConnectionCall.holds_of_acts acts holds with before | ⟨channelId, same⟩ | subscribes
    · exact gone.1 before
    · exact other channelId same
    · exact gone.2 ⟨id, call, found, subscribes⟩
  · intro subscribing
    rcases subscribing.of_update with ⟨rest, continues, subscribes⟩ | before
    · rcases ConnectionCall.subscribes_of_acts acts continues subscribes with ⟨channelId, same⟩
      exact other channelId same
    · exact gone.2 before

/-- A clean-up, and the insertion after it, leave nothing of the pseudonym. -/
theorem CleaningUp.gone_of_ended (cleaningUp : CleaningUp state) {input : Unit}
    (uncrossed : Uncrossed state (.advance id input)) (found : state.calls id = some call)
    (acts : call.Acts id state.shared manager none)
    (cleans : call.Cleans pseudonym ∨ ∃ session, call = .collectChannels pseudonym session) :
    Gone ⟨manager, Function.update state.calls id none⟩ pseudonym := by
  rcases cleans with cleans | ⟨session, isCollect⟩
  · constructor
    · generalize ends : none = next at acts
      cases acts with
      | cleanUser =>
          cases cleans
          exact cleaningUp.not_holds_of_cleanUser found
      | insertSession =>
          cases cleans
          exact cleaningUp.inserting pseudonym _ ⟨id, found⟩
      | cleanChannels => cases ends
      | _ => exact cleans.elim
    · intro subscribing
      rcases subscribing.of_update with ⟨rest, continues, _⟩ | before
      · cases continues
      · exact cleaningUp.undisturbed pseudonym ⟨id, call, found, cleans⟩ before
  · rw [isCollect] at found acts
    have quiet : ¬ state.Pending (·.Subscribes pseudonym) := uncrossed _ found
    constructor
    · generalize ends : none = next at acts
      cases acts with
      | collectNone stored => exact cleaningUp.not_holds_of_none quiet stored
      | collect => cases ends
    · intro subscribing
      rcases subscribing.of_update with ⟨rest, continues, _⟩ | before
      · cases continues
      · exact quiet before

end Steps

/-- Only a subscription of the pseudonym brings it back. -/
theorem gone_step {pseudonym : String} (state : Connections) (label : ConnectionLabel)
    (gone : state.Gone pseudonym)
    (other : Others pseudonym state label) :
    Gone (step connectionProgram state label) pseudonym := by
  refine @step_invariant _ _ _ _ _ (Others pseudonym) (Gone · pseudonym) ?_ ?_ state label gone
    other
  · intro state id request gone free _
    refine ⟨gone.1, ?_⟩
    intro subscribing
    rcases subscribing.of_update with ⟨rest, started, subscribes⟩ | before
    · cases started
      cases request <;> exact subscribes
    · exact gone.2 before
  · intro state id call input manager next gone found acted other
    exact gone_of_acts gone found (ConnectionCall.acts_of_act acted)
      fun channelId => other call channelId found

/-- The steps that do not cross keep the clean-ups whole. -/
theorem cleaningUp_step (state : Connections) (label : ConnectionLabel)
    (cleaningUp : CleaningUp state) (uncrossed : Uncrossed state label) :
    CleaningUp (step connectionProgram state label) := by
  have whole : CleansWhole state label := by
    cases label with
    | start id request => trivial
    | advance id input =>
        intro pseudonym session found channelId listed
        exact absurd listed (cleaningUp.cleaned pseudonym session ⟨id, found⟩ channelId)
  have consistent := consistent_step state label cleaningUp.consistent whole
  cases label with
  | start id request =>
      cases found : state.calls id with
      | some call =>
          rw [step, found]
          exact cleaningUp
      | none =>
          rw [step, found] at consistent ⊢
          exact cleaningUp.start request consistent
  | advance id input =>
      cases found : state.calls id with
      | none =>
          rw [step, found]
          exact cleaningUp
      | some call =>
          cases acted : call.act id state.shared with
          | none =>
              have waits : connectionProgram.act id call input state.shared = none := acted
              simp only [step, found, waits]
              exact cleaningUp
          | some outcome =>
              have goesOn : connectionProgram.act id call input state.shared = some outcome := acted
              simp only [step, found, goesOn] at consistent ⊢
              exact cleaningUp.advance uncrossed found acted consistent

end Connections

end Annex.Server
