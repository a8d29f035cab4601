import Annex.Server.RateLimiter

namespace Annex.Server

/-! Evictions from the rate limiter. A key whose entry was evicted starts without a previous
window; one whose entry was kept counts the window of before its idle time as the previous one. -/

/-- A window of a key that is never evicted. -/
structure TrackedWindow extends WindowState where
  /-- The time from the start of the window before it to its own. -/
  gap : Nat
deriving DecidableEq, Repr

namespace TrackedWindow

def fresh (now : Nat) : TrackedWindow := ⟨.fresh now, 0⟩

def visit (now : Nat) (window : TrackedWindow) : TrackedWindow where
  toWindowState := window.toWindowState.visit now
  gap := if window.Elapsed now then now - window.windowStart else window.gap

/-- A clean-up before the window began would have evicted the entry. -/
def Idle (window : TrackedWindow) : Prop := rateLimitWindow * 2 < window.gap

end TrackedWindow

/-- The window of a key that was checked at the times and never evicted. -/
def ownWindow (times : List Nat) : Option TrackedWindow :=
  times.foldl (fun window now => some ((window.getD (.fresh now)).visit now)) none

/-- The times at which the key was checked. -/
def timesOf (key : RateLimitKey) (checks : List RateCheck) : List Nat :=
  (checks.filter (·.key = key)).map (·.now)

/-- The window that a check finds, by the earlier checks of its own key. -/
def ownChecked (before : List RateCheck) (asked : RateCheck) : TrackedWindow :=
  ((ownWindow (timesOf asked.key before)).getD (.fresh asked.now)).visit asked.now

/-- The decisions without evictions. Each depends on the checks of its own key only. -/
def ownDecisions (estimate : RateEstimate) (before : List RateCheck) : List RateCheck → List Bool
  | [] => []
  | asked :: rest =>
      (ownChecked before asked).within estimate asked.now asked.limit ::
        ownDecisions estimate (before ++ [asked]) rest

/-- Whatever clean-ups come between the checks, they are decided as without evictions. -/
def Transparent (estimate : RateEstimate) (checks : List RateCheck) : Prop :=
  ∀ calls, Timed calls → checksOf calls = checks →
    RateLimiter.new.decisions estimate calls = ownDecisions estimate [] checks

/-- Without the count of the previous window the estimate compares the same with the limit. -/
def TrackedWindow.Forgettable (estimate : RateEstimate) (now limit : Nat)
    (window : TrackedWindow) : Prop :=
  window.within estimate now limit =
    ({ window.toWindowState with prevCount := 0 }).within estimate now limit

/-- The count of a previous window that ended long ago never decides. -/
def IdleForgettable (estimate : RateEstimate) (before : List RateCheck) :
    List RateCheck → Prop
  | [] => True
  | asked :: rest =>
      ((ownChecked before asked).Idle →
        (ownChecked before asked).Forgettable estimate asked.now asked.limit) ∧
        IdleForgettable estimate (before ++ [asked]) rest

theorem timesOf_concat (key : RateLimitKey) (before : List RateCheck) (asked : RateCheck) :
    timesOf key (before ++ [asked]) =
      if asked.key = key then timesOf key before ++ [asked.now] else timesOf key before := by
  unfold timesOf
  rw [List.filter_append, List.map_append]
  split
  · next same => simp [same]
  · next other => simp [other]

theorem ownWindow_concat_self (before : List RateCheck) (asked : RateCheck) :
    ownWindow (timesOf asked.key (before ++ [asked])) = some (ownChecked before asked) := by
  rw [timesOf_concat, if_pos rfl, ownWindow, List.foldl_append]
  rfl

theorem ownWindow_concat_of_ne {key : RateLimitKey} {asked : RateCheck}
    (other : asked.key ≠ key) (before : List RateCheck) :
    ownWindow (timesOf key (before ++ [asked])) = ownWindow (timesOf key before) := by
  rw [timesOf_concat, if_neg other]

section Agrees

/-- An entry is the window of the key, but may have forgotten what came before its idle time. -/
structure Remembers (window : TrackedWindow) (entry : WindowState) : Prop where
  currCount : entry.currCount = window.currCount
  windowStart : entry.windowStart = window.windowStart
  prevCount : entry.prevCount = window.prevCount ∨ entry.prevCount = 0 ∧ window.Idle

/-- An entry, if there is one, is of the key's window, and an evicted one has expired. -/
def Agrees (now : Nat) : Option TrackedWindow → Option WindowState → Prop
  | none, entry => entry = none
  | some window, none => window.Expired now
  | some window, some entry => Remembers window entry

variable {now : Nat} {own : Option TrackedWindow} {entry : Option WindowState}

theorem Agrees.later (agrees : Agrees now own entry) {later : Nat} (le : now ≤ later) :
    Agrees later own entry := by
  cases own with
  | none => exact agrees
  | some window =>
      cases entry with
      | some entry => exact agrees
      | none =>
          have expired : rateLimitWindow * 2 < now - window.windowStart := agrees
          change rateLimitWindow * 2 < later - window.windowStart
          omega

/-- To evict an expired entry keeps the agreement. -/
theorem Agrees.evict (agrees : Agrees now own entry) :
    Agrees now own (entry.filter fun entry => ¬ entry.Expired now) := by
  cases own with
  | none =>
      cases agrees
      rfl
  | some window =>
      cases entry with
      | none => exact agrees
      | some entry =>
          by_cases expired : entry.Expired now
          · rw [Option.filter_some_neg (by simpa using expired)]
            have remembers : Remembers window entry := agrees
            change rateLimitWindow * 2 < now - window.windowStart
            rw [← remembers.windowStart]
            exact expired
          · rw [Option.filter_some_pos (by simpa using expired)]
            exact agrees

/-- A check rotates the window and the entry at the same time. -/
theorem Remembers.visit {window : TrackedWindow} {entry : WindowState}
    (remembers : Remembers window entry) (now : Nat) :
    Remembers (window.visit now) (entry.visit now) := by
  have same : entry.Elapsed now ↔ window.Elapsed now := by
    unfold WindowState.Elapsed
    rw [remembers.windowStart]
  unfold TrackedWindow.visit WindowState.visit WindowState.rotate
  by_cases elapsed : window.Elapsed now
  · rw [if_pos elapsed, if_pos (same.mpr elapsed), if_pos elapsed, remembers.currCount]
    exact ⟨rfl, rfl, Or.inl rfl⟩
  · rw [if_neg elapsed, if_neg (mt same.mp elapsed), if_neg elapsed]
    refine ⟨?_, remembers.windowStart, remembers.prevCount⟩
    change (entry.currCount + 1) % 2 ^ 32 = (window.currCount + 1) % 2 ^ 32
    rw [remembers.currCount]

theorem Agrees.visit (agrees : Agrees now own entry) :
    Remembers ((own.getD (.fresh now)).visit now) ((entry.getD (.fresh now)).visit now) := by
  cases own with
  | none =>
      cases agrees
      have begun : Remembers (.fresh now) (.fresh now) := ⟨rfl, rfl, Or.inl rfl⟩
      exact begun.visit now
  | some window =>
      cases entry with
      | some entry => exact Remembers.visit agrees now
      | none =>
          -- The evicted entry begins anew where the kept one rotates.
          have expired : rateLimitWindow * 2 < now - window.windowStart := agrees
          have elapsed : window.Elapsed now := by
            unfold WindowState.Elapsed
            omega
          rw [Option.getD_some, Option.getD_none]
          unfold TrackedWindow.visit WindowState.visit WindowState.rotate
          rw [if_pos elapsed, if_pos elapsed, if_neg (not_elapsed_fresh now)]
          exact ⟨rfl, rfl, Or.inr ⟨rfl, expired⟩⟩

end Agrees

theorem Remembers.within {estimate : RateEstimate} {window : TrackedWindow}
    {entry : WindowState} (remembers : Remembers window entry) {now limit : Nat}
    (forgettable : window.Idle → window.Forgettable estimate now limit) :
    entry.within estimate now limit = window.within estimate now limit := by
  unfold WindowState.within
  rw [remembers.currCount, remembers.windowStart]
  rcases remembers.prevCount with same | ⟨forgotten, idle⟩
  · rw [same]
  · rw [forgotten]
    exact (forgettable idle).symm

section Limiter

variable {estimate : RateEstimate} {now : Nat} {before : List RateCheck}
  {limiter : RateLimiter}

/-- The entries of the limiter are the windows of their keys. -/
def Tracks (now : Nat) (before : List RateCheck) (limiter : RateLimiter) : Prop :=
  ∀ key, Agrees now (ownWindow (timesOf key before)) (limiter.lookup key)

theorem tracks_new (now : Nat) : Tracks now [] .new := fun _ => rfl

theorem Tracks.cleanupExpired (tracks : Tracks now before limiter) :
    Tracks now before (limiter.cleanupExpired now) := by
  intro key
  unfold RateLimiter.cleanupExpired
  rw [RateLimiter.lookup_retain]
  exact (tracks key).evict

theorem Tracks.inlineCleanup (tracks : Tracks now before limiter) :
    Tracks now before (limiter.inlineCleanup now) :=
  fun key => RateLimiter.of_evict (tracks key) (tracks key).evict

theorem Tracks.later (tracks : Tracks now before limiter) {later : Nat} (le : now ≤ later) :
    Tracks later before limiter :=
  fun key => (tracks key).later le

/-- What a check finds, it remembers of the window of its key. -/
theorem Tracks.checked (asked : RateCheck) (tracks : Tracks asked.now before limiter) :
    Remembers (ownChecked before asked) (limiter.checked asked.now asked.key) :=
  (tracks.inlineCleanup asked.key).visit

theorem Tracks.check (estimate : RateEstimate) (asked : RateCheck)
    (tracks : Tracks asked.now before limiter) :
    Tracks asked.now (before ++ [asked])
      (limiter.step estimate (.check asked)) := by
  intro key
  unfold RateLimiter.step RateLimiter.check
  dsimp only
  by_cases same : asked.key = key
  · rw [← same, ownWindow_concat_self, AList.lookup_insert]
    exact tracks.checked asked
  · rw [ownWindow_concat_of_ne same, AList.lookup_insert_ne (Ne.symm same)]
    exact tracks.inlineCleanup key

/-- Where idle windows can be forgotten, clean-ups change no decision. -/
theorem decisions_eq (calls : List RateCall) :
    ∀ (now : Nat) (before : List RateCheck) (limiter : RateLimiter), Timed calls →
      (∀ call ∈ calls, now ≤ call.now) → Tracks now before limiter →
        IdleForgettable estimate before (checksOf calls) →
          limiter.decisions estimate calls = ownDecisions estimate before (checksOf calls) := by
  induction calls with
  | nil => exact fun _ _ _ _ _ _ _ => rfl
  | cons call rest induction =>
      intro now before limiter timed above tracks forgettable
      have reached := tracks.later (above call List.mem_cons_self)
      have after := (List.pairwise_cons.mp timed).1
      have restTimed := (List.pairwise_cons.mp timed).2
      cases call with
      | cleanupExpired time =>
          exact induction time before (limiter.cleanupExpired time) restTimed after
            reached.cleanupExpired forgettable
      | check asked =>
          have decision := (Tracks.checked asked reached).within forgettable.1
          have later := induction asked.now (before ++ [asked]) _ restTimed after
            (Tracks.check estimate asked reached) forgettable.2
          exact congrArg₂ List.cons decision later

/-- The entries have forgotten what came before an idle time. -/
def Forgets (before : List RateCheck) (limiter : RateLimiter) : Prop :=
  ∀ key window entry, ownWindow (timesOf key before) = some window →
    limiter.lookup key = some entry → window.Idle → entry.prevCount = 0

theorem prevCount_visit {own : Option TrackedWindow} {entry : Option WindowState}
    (agrees : Agrees now own entry) (kept : ∀ found, entry = some found → ¬ found.Expired now)
    (forgets : ∀ window found, own = some window → entry = some found → window.Idle →
      found.prevCount = 0) (idle : ((own.getD (.fresh now)).visit now).Idle) :
    ((entry.getD (.fresh now)).visit now).prevCount = 0 := by
  unfold WindowState.visit WindowState.rotate
  cases entry with
  | none =>
      rw [Option.getD_none, if_neg (not_elapsed_fresh now)]
      rfl
  | some found =>
      cases own with
      | none => cases agrees
      | some window =>
          have remembers : Remembers window found := agrees
          unfold TrackedWindow.visit TrackedWindow.Idle at idle
          rw [Option.getD_some] at idle ⊢
          by_cases elapsed : window.Elapsed now
          · rw [if_pos elapsed] at idle
            refine absurd ?_ (kept found rfl)
            unfold WindowState.Expired
            rw [remembers.windowStart]
            exact idle
          · rw [if_neg elapsed] at idle
            have running : ¬ found.Elapsed now := by
              unfold WindowState.Elapsed
              rw [remembers.windowStart]
              exact elapsed
            rw [if_neg running]
            exact forgets window found rfl rfl idle

/-- The clean-up inside a check finds nothing to evict after another. -/
theorem lookup_inlineCleanup_cleanupExpired (now : Nat) (key : RateLimitKey)
    (limiter : RateLimiter) :
    ((limiter.cleanupExpired now).inlineCleanup now).lookup key =
      (limiter.lookup key).filter fun window => ¬ window.Expired now := by
  unfold RateLimiter.cleanupExpired
  rcases RateLimiter.lookup_inlineCleanup now key (limiter.retain now) with same | evicted
  · rw [same, RateLimiter.lookup_retain]
  · rw [evicted, RateLimiter.lookup_retain, Option.filter_filter]
    simp only [Bool.and_self]

/-- After a clean-up, a check of an idle key begins anew. -/
theorem forgets_checked (asked : RateCheck) (tracks : Tracks asked.now before limiter)
    (forgets : Forgets before limiter) (idle : (ownChecked before asked).Idle) :
    ((limiter.cleanupExpired asked.now).checked asked.now asked.key).prevCount = 0 := by
  unfold RateLimiter.checked
  rw [lookup_inlineCleanup_cleanupExpired]
  apply prevCount_visit (tracks asked.key).evict
  · intro found isFound
    simpa using (Option.filter_eq_some_iff.mp isFound).2
  · intro window found isWindow isFound
    exact forgets asked.key window found isWindow (Option.filter_eq_some_iff.mp isFound).1
  · exact idle

theorem Forgets.check (asked : RateCheck) (tracks : Tracks asked.now before limiter)
    (forgets : Forgets before limiter) :
    Forgets (before ++ [asked])
      ((limiter.cleanupExpired asked.now).step estimate (.check asked)) := by
  intro key window entry isWindow isEntry idle
  unfold RateLimiter.step RateLimiter.check at isEntry
  dsimp only at isEntry
  by_cases same : asked.key = key
  · rw [← same, ownWindow_concat_self, Option.some.injEq] at isWindow
    rw [← same, AList.lookup_insert, Option.some.injEq] at isEntry
    rw [← isWindow] at idle
    rw [← isEntry]
    exact forgets_checked asked tracks forgets idle
  · rw [ownWindow_concat_of_ne same] at isWindow
    rw [AList.lookup_insert_ne (Ne.symm same), lookup_inlineCleanup_cleanupExpired] at isEntry
    exact forgets key window entry isWindow (Option.filter_eq_some_iff.mp isEntry).1 idle

/-- The checks with a clean-up before each of them. -/
def evicting : List RateCheck → List RateCall
  | [] => []
  | asked :: rest => .cleanupExpired asked.now :: .check asked :: evicting rest

theorem checksOf_evicting (checks : List RateCheck) : checksOf (evicting checks) = checks := by
  induction checks with
  | nil => rfl
  | cons asked rest induction => exact congrArg (asked :: ·) induction

theorem mem_evicting {checks : List RateCheck} {call : RateCall}
    (member : call ∈ evicting checks) : ∃ asked ∈ checks, call.now = asked.now := by
  induction checks with
  | nil => cases member
  | cons asked rest induction =>
      rw [evicting, List.mem_cons, List.mem_cons] at member
      rcases member with same | same | later
      · exact ⟨asked, List.mem_cons_self, congrArg RateCall.now same⟩
      · exact ⟨asked, List.mem_cons_self, congrArg RateCall.now same⟩
      · rcases induction later with ⟨other, inside, sameTime⟩
        exact ⟨other, List.mem_cons_of_mem asked inside, sameTime⟩

theorem timed_evicting {checks : List RateCheck}
    (timed : checks.Pairwise fun first second => first.now ≤ second.now) :
    Timed (evicting checks) := by
  induction checks with
  | nil => exact List.Pairwise.nil
  | cons asked rest induction =>
      have above := (List.pairwise_cons.mp timed).1
      have later : ∀ call ∈ evicting rest, asked.now ≤ call.now := by
        intro call member
        rcases mem_evicting member with ⟨other, inside, same⟩
        rw [same]
        exact above other inside
      have restTimed := induction (List.pairwise_cons.mp timed).2
      refine List.pairwise_cons.mpr ⟨?_, List.pairwise_cons.mpr ⟨later, restTimed⟩⟩
      intro call member
      rcases List.mem_cons.mp member with same | inside
      · rw [same]
        exact Nat.le_refl _
      · exact later call inside

/-- Where clean-ups before every check change no decision, idle windows can be forgotten. -/
theorem idleForgettable_of_decisions (checks : List RateCheck) :
    ∀ (now : Nat) (before : List RateCheck) (limiter : RateLimiter),
      (checks.Pairwise fun first second => first.now ≤ second.now) →
        (∀ asked ∈ checks, now ≤ asked.now) → Tracks now before limiter → Forgets before limiter →
          limiter.decisions estimate (evicting checks) = ownDecisions estimate before checks →
            IdleForgettable estimate before checks := by
  induction checks with
  | nil => exact fun _ _ _ _ _ _ _ _ => trivial
  | cons asked rest induction =>
      intro now before limiter timed above tracks forgets same
      have reached := tracks.later (above asked List.mem_cons_self)
      have cleaned := reached.cleanupExpired
      have decision : ((limiter.cleanupExpired asked.now).check estimate asked.now asked.key
          asked.limit).1 = (ownChecked before asked).within estimate asked.now asked.limit :=
        (List.cons.inj same).1
      constructor
      · intro idle
        have forgotten := forgets_checked asked reached forgets idle
        have remembers := Tracks.checked asked cleaned
        unfold TrackedWindow.Forgettable
        rw [← decision]
        unfold RateLimiter.check WindowState.within
        dsimp only
        rw [forgotten, remembers.currCount, remembers.windowStart]
      · exact induction asked.now (before ++ [asked]) _ (List.pairwise_cons.mp timed).2
          (List.pairwise_cons.mp timed).1 (Tracks.check estimate asked cleaned)
          (forgets.check asked reached) (List.cons.inj same).2

/-- Evictions are transparent for the checks exactly where no count from before an idle time
decides. -/
theorem transparent_iff (estimate : RateEstimate) (checks : List RateCheck)
    (timed : checks.Pairwise fun first second => first.now ≤ second.now) :
    Transparent estimate checks ↔ IdleForgettable estimate [] checks := by
  constructor
  · intro transparent
    refine idleForgettable_of_decisions checks 0 [] .new timed (fun _ _ => Nat.zero_le _)
      (tracks_new 0) ?_ (transparent (evicting checks) (timed_evicting timed)
        (checksOf_evicting checks))
    intro key window entry isWindow
    cases isWindow
  · intro forgettable calls callsTimed same
    rw [← same] at forgettable ⊢
    exact decisions_eq calls 0 [] .new callsTimed (fun _ _ => Nat.zero_le _) (tracks_new 0)
      forgettable

end Limiter

namespace Sample

def addressKey : RateLimitKey := .ip (.v4 0x7f000001#32) .default

/-- Two checks in one window. -/
def closeChecks : List RateCheck := [⟨0, addressKey, 1⟩, ⟨10 ^ 9, addressKey, 1⟩]

/-- Two checks with an idle time between them. -/
def idleChecks : List RateCheck := [⟨0, addressKey, 1⟩, ⟨121 * 10 ^ 9, addressKey, 1⟩]

theorem transparent_closeChecks : Transparent exactEstimate closeChecks := by
  refine (transparent_iff exactEstimate closeChecks (by decide)).mpr ⟨?_, ?_, trivial⟩
  · intro idle
    cases idle
  · intro idle
    exact absurd idle (by unfold TrackedWindow.Idle; decide)

/-- The second check is refused where the entry of the first is kept, and allowed where a clean-up
evicts it. -/
theorem not_transparent :
    ¬ ∀ checks : List RateCheck, Transparent exactEstimate checks := by
  intro transparent
  have same := transparent idleChecks
    [.check ⟨0, addressKey, 1⟩, .cleanupExpired (121 * 10 ^ 9),
      .check ⟨121 * 10 ^ 9, addressKey, 1⟩] (by unfold Timed; decide) rfl
  revert same
  decide +kernel

end Sample

end Annex.Server
