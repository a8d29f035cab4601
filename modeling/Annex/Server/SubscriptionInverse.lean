import Annex.Server.Connections

namespace Annex.Server

open Interleaving

/-! The two subscription maps under concurrent calls. They are inverse up to the calls that
have written one of them and not yet the other, as long as no clean-up removes a pseudonym
that a channel still lists. -/

namespace Connections

/-- The last step of a clean-up finds the pseudonym in no channel, but for one that a
`subscribe` is about to store for the pseudonym. -/
def CleansWhole (state : Connections) : ConnectionLabel → Prop
  | .start _ _ => True
  | .advance id _ => ∀ pseudonym session,
      state.calls id = some (.cleanUser pseudonym session) →
        ∀ channelId, state.shared.channelSubscriptions.Lists channelId pseudonym →
          state.InProgress (.subscribeUser channelId pseudonym)

/-- What the maps and the calls in progress have in common. -/
structure Consistent (state : Connections) : Prop where
  held : ∀ id call, state.calls id = some call → call.HoldsChannels →
    state.shared.channelLock = some id
  subscribing : ∀ channelId pseudonym,
    state.InProgress (.subscribeUser channelId pseudonym) →
      state.shared.channelSubscriptions.Lists channelId pseudonym
  unsubscribing : ∀ channelId pseudonym,
    state.InProgress (.unsubscribeUser channelId pseudonym) →
      ¬ state.shared.channelSubscriptions.Lists channelId pseudonym
  channelListed : ∀ channelId pseudonym,
    state.shared.channelSubscriptions.Lists channelId pseudonym →
      state.shared.userSubscriptions.Lists pseudonym channelId ∨
        state.InProgress (.subscribeUser channelId pseudonym)
  userListed : ∀ channelId pseudonym,
    state.shared.userSubscriptions.Lists pseudonym channelId →
      state.shared.channelSubscriptions.Lists channelId pseudonym ∨
        state.InProgress (.unsubscribeUser channelId pseudonym) ∨
          ∃ session, state.InProgress (.cleanUser pseudonym session)
  channels : state.shared.channelSubscriptions.NonemptySets
  users : state.shared.userSubscriptions.NonemptySets

theorem consistent_idle : Consistent (idle .new) where
  held id call found := by cases found
  subscribing channelId pseudonym inProgress :=
    absurd inProgress ((idle_idle _).not_inProgress _)
  unsubscribing channelId pseudonym inProgress :=
    absurd inProgress ((idle_idle _).not_inProgress _)
  channelListed channelId pseudonym listed := absurd listed (SetMap.not_lists_empty _ _)
  userListed channelId pseudonym listed := absurd listed (SetMap.not_lists_empty _ _)
  channels := SetMap.nonemptySets_empty
  users := SetMap.nonemptySets_empty

/-- Without a call in progress the maps are inverse. -/
theorem Consistent.inverse {state : Connections} (consistent : Consistent state)
    (isIdle : state.Idle) : state.shared.Inverse where
  lists channelId pseudonym := by
    constructor
    · intro listed
      rcases consistent.channelListed channelId pseudonym listed with stored | inProgress
      · exact stored
      · exact absurd inProgress (isIdle.not_inProgress _)
    · intro listed
      rcases consistent.userListed channelId pseudonym listed with stored | inProgress | cleaning
      · exact stored
      · exact absurd inProgress (isIdle.not_inProgress _)
      · rcases cleaning with ⟨session, inProgress⟩
        exact absurd inProgress (isIdle.not_inProgress _)
  channels := consistent.channels
  users := consistent.users

section Steps

variable {state : Connections} {id : Nat} {call : ConnectionCall}

/-- While the channels' lock is free, no call is between its two locks. -/
theorem Consistent.not_holds (consistent : Consistent state)
    (free : state.shared.channelLock = none) {other : ConnectionCall}
    (holds : other.HoldsChannels) : ¬ state.InProgress other := by
  intro inProgress
  rcases inProgress with ⟨otherId, found⟩
  have held := consistent.held otherId other found holds
  rw [free] at held
  cases held

/-- A call that takes the free lock is the only one between its two locks. -/
theorem Consistent.held_next (consistent : Consistent state)
    (free : state.shared.channelLock = none) {next : Option ConnectionCall} {otherId : Nat}
    {other : ConnectionCall} (found : Function.update state.calls id next otherId = some other)
    (holds : other.HoldsChannels) : some id = some otherId := by
  by_cases same : otherId = id
  · rw [same]
  · rw [Function.update_of_ne same] at found
    exact absurd ⟨otherId, found⟩ (consistent.not_holds free holds)

/-- While the channels' lock is free, a channel lists no more than the users do. -/
theorem Consistent.channelListed_free (consistent : Consistent state)
    (free : state.shared.channelLock = none) {channelId pseudonym : String}
    (listed : state.shared.channelSubscriptions.Lists channelId pseudonym) :
    state.shared.userSubscriptions.Lists pseudonym channelId := by
  rcases consistent.channelListed channelId pseudonym listed with stored | subscribing
  · exact stored
  · exact absurd subscribing (consistent.not_holds free trivial)

/-- While the channels' lock is free, a user lists more than the channels do where it is about
to be cleaned. -/
theorem Consistent.userListed_free (consistent : Consistent state)
    (free : state.shared.channelLock = none) {channelId pseudonym : String}
    (listed : state.shared.userSubscriptions.Lists pseudonym channelId) :
    state.shared.channelSubscriptions.Lists channelId pseudonym ∨
      ∃ session, state.InProgress (.cleanUser pseudonym session) := by
  rcases consistent.userListed channelId pseudonym listed with stored | unsubscribing | cleaning
  · exact Or.inl stored
  · exact absurd unsubscribing (consistent.not_holds free trivial)
  · exact Or.inr cleaning

/-- While a call is between its two locks, no other one is. -/
theorem Consistent.only_holder (consistent : Consistent state)
    (found : state.calls id = some call) (holds : call.HoldsChannels) {otherId : Nat}
    {other : ConnectionCall} (otherFound : state.calls otherId = some other)
    (otherHolds : other.HoldsChannels) : otherId = id := by
  have held := consistent.held id call found holds
  have otherHeld := consistent.held otherId other otherFound otherHolds
  rw [held] at otherHeld
  exact (Option.some.inj otherHeld).symm

theorem Consistent.eq_of_holds (consistent : Consistent state)
    (found : state.calls id = some call) (holds : call.HoldsChannels) {other : ConnectionCall}
    (inProgress : state.InProgress other) (otherHolds : other.HoldsChannels) : other = call := by
  rcases inProgress with ⟨otherId, otherFound⟩
  rw [consistent.only_holder found holds otherFound otherHolds, found] at otherFound
  exact (Option.some.inj otherFound).symm

/-- Once the call between its two locks is done, no call is. -/
theorem Consistent.released (consistent : Consistent state)
    (found : state.calls id = some call) (holds : call.HoldsChannels)
    {manager : ConnectionManager} {other : ConnectionCall} (otherHolds : other.HoldsChannels) :
    ¬ InProgress ⟨manager, Function.update state.calls id none⟩ other := by
  intro inProgress
  rcases inProgress with ⟨otherId, otherFound⟩
  have old := calls_of_update otherFound (by simp)
  exact old.1 (consistent.only_holder found holds old.2 otherHolds)

/-- The calls whose progress the invariant is about. -/
def Tracked : ConnectionCall → Prop
  | .subscribeUser _ _ => True
  | .unsubscribeUser _ _ => True
  | .cleanUser _ _ => True
  | _ => False

theorem tracked_of_holds (holds : call.HoldsChannels) : Tracked call := by
  cases call with
  | subscribeUser => trivial
  | unsubscribeUser => trivial
  | _ => exact holds.elim

theorem cleaned_untracked (pseudonym : String) (session : Option String) :
    ∀ other, ConnectionCall.cleaned pseudonym session = some other → ¬ Tracked other := by
  intro other continues
  rcases Option.map_eq_some_iff.mp continues with ⟨sessionId, _, rfl⟩
  exact not_false

/-- A step between calls that the invariant is not about, which leaves the maps and the lock
alone, keeps it. -/
theorem Consistent.untracked (consistent : Consistent state)
    {sessions : String → Option String} {next : Option ConnectionCall}
    (before : ∀ other, state.calls id = some other → ¬ Tracked other)
    (after : ∀ other, next = some other → ¬ Tracked other) :
    Consistent ⟨{ state.shared with sessions }, Function.update state.calls id next⟩ := by
  have stays (other : ConnectionCall) (tracked : Tracked other)
      (inProgress : state.InProgress other) :
      InProgress ⟨{ state.shared with sessions }, Function.update state.calls id next⟩ other :=
    inProgress.update fun found => before other found tracked
  have new (other : ConnectionCall) (tracked : Tracked other) : next ≠ some other :=
    fun found => after other found tracked
  constructor
  · intro otherId other found holds
    have old := calls_of_update found (new other (tracked_of_holds holds))
    exact consistent.held otherId other old.2 holds
  · intro channelId pseudonym subscribing
    exact consistent.subscribing channelId pseudonym (subscribing.of_update (new _ trivial))
  · intro channelId pseudonym unsubscribing
    exact consistent.unsubscribing channelId pseudonym (unsubscribing.of_update (new _ trivial))
  · intro channelId pseudonym listed
    rcases consistent.channelListed channelId pseudonym listed with stored | subscribing
    · exact Or.inl stored
    · exact Or.inr (stays _ trivial subscribing)
  · intro channelId pseudonym listed
    rcases consistent.userListed channelId pseudonym listed with stored | unsubscribing | cleaning
    · exact Or.inl stored
    · exact Or.inr (Or.inl (stays _ trivial unsubscribing))
    · rcases cleaning with ⟨session, cleaning⟩
      exact Or.inr (Or.inr ⟨session, stays _ trivial cleaning⟩)
  · exact consistent.channels
  · exact consistent.users

theorem Consistent.cleanChannels (consistent : Consistent state) {pseudonym : String}
    {channels : Finset String} {session : Option String}
    (found : state.calls id = some (.cleanChannels pseudonym channels session))
    (free : state.shared.channelLock = none) :
    Consistent
      ⟨{ state.shared with
          channelSubscriptions :=
            state.shared.channelSubscriptions.eraseAll channels pseudonym },
        Function.update state.calls id (some (.cleanUser pseudonym session))⟩ := by
  constructor
  · intro otherId other otherFound holds
    have old := calls_of_update otherFound (by rintro ⟨⟩; exact holds)
    exact absurd ⟨otherId, old.2⟩ (consistent.not_holds free holds)
  · intro channelId other subscribing
    exact absurd (subscribing.of_update (by simp)) (consistent.not_holds free trivial)
  · intro channelId other unsubscribing
    exact absurd (unsubscribing.of_update (by simp)) (consistent.not_holds free trivial)
  · intro channelId other listed
    exact Or.inl (consistent.channelListed_free free (SetMap.lists_eraseAll.mp listed).1)
  · intro channelId other listed
    by_cases cleaned : channelId ∈ channels ∧ other = pseudonym
    · rw [cleaned.2]
      exact Or.inr (Or.inr ⟨session, inProgress_next rfl⟩)
    · rcases consistent.userListed_free free listed with stored | cleaning
      · exact Or.inl (SetMap.lists_eraseAll.mpr ⟨stored, cleaned⟩)
      · rcases cleaning with ⟨otherSession, cleaning⟩
        exact Or.inr (Or.inr ⟨otherSession, cleaning.update (by simp [found])⟩)
  · exact consistent.channels.eraseAll _ _
  · exact consistent.users

/-- The last step of a clean-up keeps the invariant where no channel lists the pseudonym. -/
theorem Consistent.cleanUser (consistent : Consistent state) {pseudonym : String}
    {session : Option String} (found : state.calls id = some (.cleanUser pseudonym session))
    (whole : ∀ channelId, state.shared.channelSubscriptions.Lists channelId pseudonym →
      state.InProgress (.subscribeUser channelId pseudonym)) :
    Consistent
      ⟨{ state.shared with
          userSubscriptions := state.shared.userSubscriptions.remove pseudonym },
        Function.update state.calls id (ConnectionCall.cleaned pseudonym session)⟩ := by
  have after (other : ConnectionCall) (tracked : Tracked other) :
      ConnectionCall.cleaned pseudonym session ≠ some other :=
    fun continues => cleaned_untracked pseudonym session other continues tracked
  constructor
  · intro otherId other otherFound holds
    have old := calls_of_update otherFound (after other (tracked_of_holds holds))
    exact consistent.held otherId other old.2 holds
  · intro channelId other subscribing
    exact consistent.subscribing channelId other (subscribing.of_update (after _ trivial))
  · intro channelId other unsubscribing
    exact consistent.unsubscribing channelId other (unsubscribing.of_update (after _ trivial))
  · intro channelId other listed
    by_cases same : other = pseudonym
    · rw [same] at listed ⊢
      exact Or.inr ((whole channelId listed).update (by simp [found]))
    · rcases consistent.channelListed channelId other listed with stored | subscribing
      · exact Or.inl (SetMap.lists_remove.mpr ⟨stored, same⟩)
      · exact Or.inr (subscribing.update (by simp [found]))
  · intro channelId other listed
    have remaining := SetMap.lists_remove.mp listed
    rcases consistent.userListed channelId other remaining.1 with stored | unsubscribing | cleaning
    · exact Or.inl stored
    · exact Or.inr (Or.inl (unsubscribing.update (by simp [found])))
    · rcases cleaning with ⟨otherSession, cleaning⟩
      refine Or.inr (Or.inr ⟨otherSession, cleaning.update ?_⟩)
      intro same
      rw [found] at same
      cases same
      exact remaining.2 rfl
  · exact consistent.channels
  · exact consistent.users.remove _

theorem Consistent.subscribe (consistent : Consistent state) {channelId pseudonym : String}
    (found : state.calls id = some (.subscribe channelId pseudonym))
    (free : state.shared.channelLock = none) :
    Consistent
      ⟨{ state.shared with
          channelSubscriptions := state.shared.channelSubscriptions.insert channelId pseudonym
          channelLock := some id },
        Function.update state.calls id (some (.subscribeUser channelId pseudonym))⟩ := by
  constructor
  · intro otherId other otherFound holds
    exact consistent.held_next free otherFound holds
  · intro other user subscribing
    by_cases same : other = channelId ∧ user = pseudonym
    · exact SetMap.lists_insert.mpr (Or.inl same)
    · refine absurd (subscribing.of_update ?_) (consistent.not_holds free trivial)
      rintro ⟨⟩
      exact same ⟨rfl, rfl⟩
  · intro other user unsubscribing
    exact absurd (unsubscribing.of_update (by simp)) (consistent.not_holds free trivial)
  · intro other user listed
    rcases SetMap.lists_insert.mp listed with ⟨rfl, rfl⟩ | before
    · exact Or.inr (inProgress_next rfl)
    · exact Or.inl (consistent.channelListed_free free before)
  · intro other user listed
    rcases consistent.userListed_free free listed with stored | cleaning
    · exact Or.inl (SetMap.lists_insert.mpr (Or.inr stored))
    · rcases cleaning with ⟨session, cleaning⟩
      exact Or.inr (Or.inr ⟨session, cleaning.update (by simp [found])⟩)
  · exact consistent.channels.insert _ _
  · exact consistent.users

/-- A call that gives the lock back keeps the invariant where it leaves the maps inverse, up to
the users about to be cleaned. -/
theorem Consistent.release (consistent : Consistent state)
    (found : state.calls id = some call) (holds : call.HoldsChannels)
    {users : SetMap String String}
    (channelListed : ∀ channelId pseudonym,
      state.shared.channelSubscriptions.Lists channelId pseudonym →
        users.Lists pseudonym channelId)
    (userListed : ∀ channelId pseudonym, users.Lists pseudonym channelId →
      state.shared.channelSubscriptions.Lists channelId pseudonym ∨
        ∃ session, state.InProgress (.cleanUser pseudonym session))
    (nonempty : users.NonemptySets) :
    Consistent
      ⟨{ state.shared with
          userSubscriptions := users
          channelLock := none },
        Function.update state.calls id none⟩ := by
  constructor
  · intro otherId other otherFound otherHolds
    exact absurd ⟨otherId, otherFound⟩ (consistent.released found holds otherHolds)
  · intro channelId pseudonym subscribing
    exact absurd subscribing (consistent.released found holds trivial)
  · intro channelId pseudonym unsubscribing
    exact absurd unsubscribing (consistent.released found holds trivial)
  · intro channelId pseudonym listed
    exact Or.inl (channelListed channelId pseudonym listed)
  · intro channelId pseudonym listed
    rcases userListed channelId pseudonym listed with stored | cleaning
    · exact Or.inl stored
    · rcases cleaning with ⟨session, cleaning⟩
      refine Or.inr (Or.inr ⟨session, cleaning.update ?_⟩)
      intro same
      rw [found] at same
      cases same
      exact holds
  · exact consistent.channels
  · exact nonempty

theorem Consistent.subscribeUser (consistent : Consistent state)
    {channelId pseudonym : String}
    (found : state.calls id = some (.subscribeUser channelId pseudonym)) :
    Consistent
      ⟨{ state.shared with
          userSubscriptions := state.shared.userSubscriptions.insert pseudonym channelId
          channelLock := none },
        Function.update state.calls id none⟩ := by
  refine consistent.release found trivial ?_ ?_ (consistent.users.insert _ _)
  · intro other user listed
    rcases consistent.channelListed other user listed with stored | subscribing
    · exact SetMap.lists_insert.mpr (Or.inr stored)
    · cases consistent.eq_of_holds found trivial subscribing trivial
      exact SetMap.lists_insert.mpr (Or.inl ⟨rfl, rfl⟩)
  · intro other user listed
    rcases SetMap.lists_insert.mp listed with ⟨rfl, rfl⟩ | before
    · exact Or.inl (consistent.subscribing _ _ ⟨id, found⟩)
    · rcases consistent.userListed other user before with stored | unsubscribing | cleaning
      · exact Or.inl stored
      · cases consistent.eq_of_holds found trivial unsubscribing trivial
      · exact Or.inr cleaning

theorem Consistent.unsubscribe (consistent : Consistent state)
    {channelId pseudonym : String}
    (found : state.calls id = some (.unsubscribe channelId pseudonym))
    (free : state.shared.channelLock = none) :
    Consistent
      ⟨{ state.shared with
          channelSubscriptions := state.shared.channelSubscriptions.erase channelId pseudonym
          channelLock := some id },
        Function.update state.calls id (some (.unsubscribeUser channelId pseudonym))⟩ := by
  constructor
  · intro otherId other otherFound holds
    exact consistent.held_next free otherFound holds
  · intro other user subscribing
    exact absurd (subscribing.of_update (by simp)) (consistent.not_holds free trivial)
  · intro other user unsubscribing listed
    by_cases same : other = channelId ∧ user = pseudonym
    · exact (SetMap.lists_erase.mp listed).2 same
    · refine absurd (unsubscribing.of_update ?_) (consistent.not_holds free trivial)
      rintro ⟨⟩
      exact same ⟨rfl, rfl⟩
  · intro other user listed
    exact Or.inl (consistent.channelListed_free free (SetMap.lists_erase.mp listed).1)
  · intro other user listed
    by_cases same : other = channelId ∧ user = pseudonym
    · rcases same with ⟨rfl, rfl⟩
      exact Or.inr (Or.inl (inProgress_next rfl))
    · rcases consistent.userListed_free free listed with stored | cleaning
      · exact Or.inl (SetMap.lists_erase.mpr ⟨stored, same⟩)
      · rcases cleaning with ⟨session, cleaning⟩
        exact Or.inr (Or.inr ⟨session, cleaning.update (by simp [found])⟩)
  · exact consistent.channels.erase _ _
  · exact consistent.users

theorem Consistent.unsubscribeUser (consistent : Consistent state)
    {channelId pseudonym : String}
    (found : state.calls id = some (.unsubscribeUser channelId pseudonym)) :
    Consistent
      ⟨{ state.shared with
          userSubscriptions := state.shared.userSubscriptions.erase pseudonym channelId
          channelLock := none },
        Function.update state.calls id none⟩ := by
  refine consistent.release found trivial ?_ ?_ (consistent.users.erase _ _)
  · intro other user listed
    rcases consistent.channelListed other user listed with stored | subscribing
    · refine SetMap.lists_erase.mpr ⟨stored, ?_⟩
      rintro ⟨rfl, rfl⟩
      exact consistent.unsubscribing _ _ ⟨id, found⟩ listed
    · cases consistent.eq_of_holds found trivial subscribing trivial
  · intro other user listed
    have before := SetMap.lists_erase.mp listed
    rcases consistent.userListed other user before.1 with stored | unsubscribing | cleaning
    · exact Or.inl stored
    · cases consistent.eq_of_holds found trivial unsubscribing trivial
      exact absurd ⟨rfl, rfl⟩ before.2
    · exact Or.inr cleaning

end Steps

/-- Every step keeps the invariant, if a clean-up that ends in it cleans the whole. -/
theorem consistent_step (state : Connections) (label : ConnectionLabel)
    (consistent : Consistent state) (whole : CleansWhole state label) :
    Consistent (step connectionProgram state label) := by
  refine step_invariant ?_ ?_ state label consistent whole
  · intro state id request consistent free _
    apply consistent.untracked
    · intro other found
      rw [free] at found
      cases found
    · intro other started
      cases started
      cases request <;> exact not_false
  · intro state id call input manager next consistent found acts whole
    have before (untracked : ¬ Tracked call) :
        ∀ other, state.calls id = some other → ¬ Tracked other := by
      intro other otherFound
      rw [found] at otherFound
      cases otherFound
      exact untracked
    cases call with
    | addSession pseudonym sessionId =>
        simp only [connectionProgram, ConnectionCall.act] at acts
        split at acts
        · cases acts
          exact consistent.untracked (before not_false) (by rintro _ ⟨⟩; exact not_false)
        · cases acts
          exact consistent.untracked (before not_false) (by rintro _ ⟨⟩; exact not_false)
    | collectChannels pseudonym session =>
        simp only [connectionProgram, ConnectionCall.act] at acts
        split at acts
        · cases acts
          exact consistent.untracked (before not_false) (by rintro _ ⟨⟩; exact not_false)
        · cases acts
          exact consistent.untracked (before not_false) (cleaned_untracked pseudonym session)
    | cleanChannels pseudonym channels session =>
        simp only [connectionProgram, ConnectionCall.act] at acts
        split at acts
        · cases acts
          exact consistent.cleanChannels found ‹_›
        · cases acts
    | cleanUser pseudonym session =>
        cases acts
        exact consistent.cleanUser found (whole pseudonym session found)
    | insertSession pseudonym sessionId =>
        cases acts
        exact consistent.untracked (before not_false) (by rintro _ ⟨⟩)
    | disconnectUser pseudonym =>
        cases acts
        refine consistent.untracked (before not_false) ?_
        intro other continues
        rcases Option.map_eq_some_iff.mp continues with ⟨sessionId, _, rfl⟩
        exact not_false
    | removeSession pseudonym sessionId =>
        simp only [connectionProgram, ConnectionCall.act] at acts
        split at acts
        · cases acts
          exact consistent.untracked (before not_false) (by rintro _ ⟨⟩; exact not_false)
        · cases acts
          exact consistent.untracked (before not_false) (by rintro _ ⟨⟩)
    | subscribe channelId pseudonym =>
        simp only [connectionProgram, ConnectionCall.act] at acts
        split at acts
        · cases acts
          exact consistent.subscribe found ‹_›
        · cases acts
    | subscribeUser channelId pseudonym =>
        cases acts
        exact consistent.subscribeUser found
    | unsubscribe channelId pseudonym =>
        simp only [connectionProgram, ConnectionCall.act] at acts
        split at acts
        · cases acts
          exact consistent.unsubscribe found ‹_›
        · cases acts
    | unsubscribeUser channelId pseudonym =>
        cases acts
        exact consistent.unsubscribeUser found

open Execution

/-- In a run whose clean-ups all clean the whole, the maps are inverse whenever no call is in
progress. -/
theorem inverse_of_idle {labels : List ConnectionLabel}
    (whole : Guarded (step connectionProgram) CleansWhole (idle .new) labels) :
    ∀ state, Visits (step connectionProgram) (idle .new) labels state → state.Idle →
      state.shared.Inverse := by
  intro state visited isIdle
  have consistent := visits_invariant_of_guarded Consistent consistent_step consistent_idle
    whole state visited
  exact consistent.inverse isIdle

/-- A session with one subscription that comes and goes. -/
def sessionOfAlice : List ConnectionLabel :=
  [.start 0 (.addSession "alice" "first"), .advance 0 (), .advance 0 (),
    .start 1 (.subscribe "general" "alice"), .advance 1 (), .advance 1 (),
    .start 2 (.removeSession "alice" "first"), .advance 2 (), .advance 2 (),
    .advance 2 (), .advance 2 ()]

theorem inverse_of_idle_session :
    (run (step connectionProgram) (idle .new) sessionOfAlice).shared.Inverse := by
  refine inverse_of_idle ?_ _ ⟨_, List.prefix_rfl, rfl⟩
    (@idle_run _ _ _ _ _ _ _ 3 (by decide) (by decide +kernel))
  refine ⟨trivial, ?_, ?_, trivial, ?_, ?_, trivial, ?_, ?_, ?_, ?_, trivial⟩
  · rintro _ _ ⟨⟩
  · rintro _ _ ⟨⟩
  · rintro _ _ ⟨⟩
  · rintro _ _ ⟨⟩
  · rintro _ _ ⟨⟩
  · rintro _ _ ⟨⟩
  · rintro _ _ ⟨⟩
  · rintro _ _ ⟨⟩ channelId listed
    have cleared : ¬ SetMap.Lists ((SetMap.empty.insert "general" "alice").eraseAll
        {"general"} "alice") channelId "alice" := by
      simp
    exact absurd listed cleared

/-- A subscription of a new session that arrives while the old one's clean-up is between its
snapshot and its last step stays listed by the channel alone. -/
theorem not_inverse_of_subscribe_during_cleanup :
    ¬ ∀ (labels : List ConnectionLabel) (state : Connections),
      Visits (step connectionProgram) (idle .new) labels state → state.Idle →
        state.shared.Inverse := by
  intro inverse
  have final := inverse
    [.start 0 (.addSession "alice" "first"), .advance 0 (), .advance 0 (),
      .start 1 (.subscribe "general" "alice"), .advance 1 (), .advance 1 (),
      .start 2 (.removeSession "alice" "first"), .advance 2 (), .advance 2 (),
      .start 3 (.addSession "alice" "second"), .advance 3 (), .advance 3 (),
      .start 4 (.subscribe "random" "alice"), .advance 4 (), .advance 4 (),
      .advance 2 (), .advance 2 ()] _ ⟨_, List.prefix_rfl, rfl⟩
    (fun id => match id with
      | 0 => rfl
      | 1 => rfl
      | 2 => rfl
      | 3 => rfl
      | 4 => rfl
      | _ + 5 => rfl)
  have orphan := (final.lists "random" "alice").mp (by decide +kernel)
  exact absurd orphan (by decide +kernel)

end Connections

end Annex.Server
