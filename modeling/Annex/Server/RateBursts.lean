import Mathlib.Algebra.Order.Field.Basic
import Mathlib.Algebra.Order.Field.Rat
import Mathlib.Tactic.Linarith
import Mathlib.Tactic.NormNum
import Annex.Server.RateLimiter

namespace Annex.Server

/-! Bursts at the rate limiter. The checks that it allows in 60 seconds come from at most two
windows, and the second allows less the more the first has allowed. -/

/-- The counter of the check does not overflow. -/
def Fits (limiter : RateLimiter) : RateCall → Prop
  | .check asked =>
      ((((limiter.inlineCleanup asked.now).lookup asked.key).getD (.fresh asked.now)).rotate
        asked.now).currCount + 1 < 2 ^ 32
  | .cleanupExpired _ => True

/-- The times at which checks of the key are allowed. -/
def allowedTimes (key : RateLimitKey) : RateLimiter → List RateCall → List Nat
  | _, [] => []
  | limiter, .check asked :: rest =>
      let decision := (limiter.check exactEstimate asked.now asked.key asked.limit).1
      (if asked.key = key ∧ decision = true then [asked.now] else []) ++
        allowedTimes key (limiter.step exactEstimate (.check asked)) rest
  | limiter, .cleanupExpired now :: rest =>
      allowedTimes key (limiter.step exactEstimate (.cleanupExpired now)) rest

/-- In no closed interval of 60 seconds the times are twice the limit. -/
def NoDoubleBurst (limit : Nat) (times : List Nat) : Prop :=
  ∀ start, times.countP (fun time => start ≤ time ∧ time ≤ start + rateLimitWindow) < 2 * limit

/-- How a window accounts for the allowed times. -/
structure Accounts (limit : Nat) (times : List Nat) (window : WindowState) : Prop where
  upper : ∀ time ∈ times, time ≤ window.windowStart + rateLimitWindow
  curr : times.countP (fun time => window.windowStart ≤ time) ≤ window.currCount
  currLimit : times.countP (fun time => window.windowStart ≤ time) ≤ limit
  prev : times.countP (fun time => time < window.windowStart ∧
    window.windowStart ≤ time + rateLimitWindow) ≤ window.prevCount
  prevLimit : times.countP (fun time => time < window.windowStart ∧
    window.windowStart ≤ time + rateLimitWindow) ≤ limit

/-- An entry accounts for the allowed times; without one they are long over. -/
def Covers (limit now : Nat) (times : List Nat) : Option WindowState → Prop
  | none => ∀ time ∈ times, time + rateLimitWindow < now
  | some window => window.windowStart ≤ now ∧ Accounts limit times window

variable {limit now : Nat} {times : List Nat}

theorem countP_eq_zero {property : Nat → Bool} (never : ∀ time ∈ times, property time = false) :
    times.countP property = 0 := by
  apply List.countP_eq_zero.mpr
  intro time member
  rw [never time member]
  exact Bool.false_ne_true

theorem countP_le_add {property first second : Nat → Bool}
    (implies : ∀ time, property time = true → first time = true ∨ second time = true)
    (times : List Nat) : times.countP property ≤ times.countP first + times.countP second := by
  induction times with
  | nil => exact Nat.zero_le _
  | cons time rest induction =>
      rw [List.countP_cons, List.countP_cons, List.countP_cons]
      by_cases holds : property time = true
      · rcases implies time holds with one | other
        · rw [if_pos holds, if_pos one]
          omega
        · rw [if_pos holds, if_pos other]
          omega
      · rw [if_neg holds]
        omega

theorem Covers.later {entry : Option WindowState} (covers : Covers limit now times entry)
    {after : Nat} (le : now ≤ after) : Covers limit after times entry := by
  cases entry with
  | none =>
      intro time member
      have past := covers time member
      omega
  | some window => exact ⟨covers.1.trans le, covers.2⟩

theorem Covers.evict {entry : Option WindowState} (covers : Covers limit now times entry) :
    Covers limit now times (entry.filter fun window => ¬ window.Expired now) := by
  cases entry with
  | none => exact covers
  | some window =>
      by_cases expired : window.Expired now
      · rw [Option.filter_some_neg (by simpa using expired)]
        intro time member
        have upper := covers.2.upper time member
        unfold WindowState.Expired at expired
        omega
      · rw [Option.filter_some_pos (by simpa using expired)]
        exact covers

/-- A window that a check finds or begins, after it was rotated. -/
theorem Covers.rotate {entry : Option WindowState} (covers : Covers limit now times entry) :
    now ≤ ((entry.getD (.fresh now)).rotate now).windowStart + rateLimitWindow ∧
      ((entry.getD (.fresh now)).rotate now).windowStart ≤ now ∧
        Accounts limit times ((entry.getD (.fresh now)).rotate now) := by
  unfold WindowState.rotate
  cases entry with
  | none =>
      rw [Option.getD_none, if_neg (not_elapsed_fresh now)]
      have noneNow : times.countP (fun time => now ≤ time) = 0 := by
        apply countP_eq_zero
        intro time member
        have past := covers time member
        exact decide_eq_false (by omega)
      have noneBefore : times.countP
          (fun time => time < now ∧ now ≤ time + rateLimitWindow) = 0 := by
        apply countP_eq_zero
        intro time member
        have past := covers time member
        exact decide_eq_false (by omega)
      refine ⟨Nat.le_add_right _ _, Nat.le_refl _, ?_, Nat.le_of_eq noneNow, ?_,
        Nat.le_of_eq noneBefore, ?_⟩
      · intro time member
        have past := covers time member
        change time ≤ now + rateLimitWindow
        omega
      · exact (Nat.le_of_eq noneNow).trans (Nat.zero_le _)
      · exact (Nat.le_of_eq noneBefore).trans (Nat.zero_le _)
  | some window =>
      rw [Option.getD_some]
      rcases covers with ⟨begun, accounts⟩
      by_cases elapsed : window.Elapsed now
      · rw [if_pos elapsed]
        unfold WindowState.Elapsed at elapsed
        have noneNow : times.countP (fun time => now ≤ time) = 0 := by
          apply countP_eq_zero
          intro time member
          have upper := accounts.upper time member
          exact decide_eq_false (by omega)
        -- What is still in reach was allowed in the window that has ended.
        have before : times.countP (fun time => time < now ∧ now ≤ time + rateLimitWindow) ≤
            times.countP (fun time => window.windowStart ≤ time) := by
          apply List.countP_mono_left
          intro time _ near
          have bounds := of_decide_eq_true near
          exact decide_eq_true (by omega)
        refine ⟨Nat.le_add_right _ _, Nat.le_refl _, ?_, Nat.le_of_eq noneNow, ?_,
          before.trans accounts.curr, before.trans accounts.currLimit⟩
        · intro time member
          have upper := accounts.upper time member
          change time ≤ now + rateLimitWindow
          omega
        · exact (Nat.le_of_eq noneNow).trans (Nat.zero_le _)
      · rw [if_neg elapsed]
        unfold WindowState.Elapsed at elapsed
        exact ⟨by omega, begun, accounts⟩

/-- What the exact estimate allows: the current count is within the limit, and below it while the
previous count still weighs. -/
theorem exactEstimate_allows {prevCount currCount elapsed : Nat}
    (inside : elapsed ≤ rateLimitWindow)
    (allowed : exactEstimate prevCount currCount elapsed limit = true) :
    currCount ≤ limit ∧ (0 < prevCount → elapsed < rateLimitWindow → currCount < limit) := by
  have positive : (0 : ℚ) < rateLimitWindow := by
    unfold rateLimitWindow
    norm_num
  have fraction : (elapsed : ℚ) / rateLimitWindow ≤ 1 := by
    rw [div_le_one positive]
    exact_mod_cast inside
  have estimate : (prevCount : ℚ) * (1 - (elapsed : ℚ) / rateLimitWindow) + currCount ≤ limit := by
    have exact := of_decide_eq_true allowed
    rwa [min_eq_left fraction] at exact
  have weight : (0 : ℚ) ≤ 1 - (elapsed : ℚ) / rateLimitWindow := by linarith
  constructor
  · have total : (0 : ℚ) ≤ prevCount * (1 - (elapsed : ℚ) / rateLimitWindow) :=
      mul_nonneg (Nat.cast_nonneg _) weight
    have bound : (currCount : ℚ) ≤ limit := by linarith
    exact_mod_cast bound
  · intro counted before
    have strict : (elapsed : ℚ) / rateLimitWindow < 1 := by
      rw [div_lt_one positive]
      exact_mod_cast before
    have total : (0 : ℚ) < prevCount * (1 - (elapsed : ℚ) / rateLimitWindow) :=
      mul_pos (by exact_mod_cast counted) (by linarith)
    have bound : (currCount : ℚ) < limit := by linarith
    exact_mod_cast bound

/-- A refused check is only counted. -/
theorem Accounts.refuse {window : WindowState} (accounts : Accounts limit times window)
    (fits : window.currCount + 1 < 2 ^ 32) : Accounts limit times window.count := by
  refine ⟨accounts.upper, ?_, accounts.currLimit, accounts.prev, accounts.prevLimit⟩
  change _ ≤ (window.currCount + 1) % 2 ^ 32
  rw [Nat.mod_eq_of_lt fits]
  exact accounts.curr.trans (Nat.le_succ _)

section Allowed

variable {window : WindowState} (accounts : Accounts limit times window)
  (fits : window.currCount + 1 < 2 ^ 32) (begun : window.windowStart ≤ now)
  (running : now ≤ window.windowStart + rateLimitWindow)
  (allowed : window.count.within exactEstimate now limit = true)

include fits begun running allowed

omit begun in
theorem count_le_limit : window.currCount + 1 ≤ limit ∧
    (0 < window.prevCount → now - window.windowStart < rateLimitWindow →
      window.currCount + 1 < limit) := by
  have inside : now - window.windowStart ≤ rateLimitWindow := by omega
  have bounds := exactEstimate_allows inside allowed
  have counted : window.count.currCount = window.currCount + 1 := Nat.mod_eq_of_lt fits
  rw [counted] at bounds
  exact bounds

include accounts

theorem Accounts.allow : Accounts limit (times ++ [now]) window.count := by
  have counted : window.count.currCount = window.currCount + 1 := Nat.mod_eq_of_lt fits
  have more : (times ++ [now]).countP (fun time => window.windowStart ≤ time) =
      times.countP (fun time => window.windowStart ≤ time) + 1 := by
    rw [List.countP_append, List.countP_singleton, if_pos (decide_eq_true begun)]
  have same : (times ++ [now]).countP (fun time => time < window.windowStart ∧
      window.windowStart ≤ time + rateLimitWindow) =
        times.countP (fun time => time < window.windowStart ∧
          window.windowStart ≤ time + rateLimitWindow) := by
    rw [List.countP_append, List.countP_singleton, if_neg]
    · rfl
    · intro before
      have bounds := of_decide_eq_true before
      omega
  have bound := (count_le_limit fits running allowed).1
  have counts := accounts.curr
  refine ⟨?_, ?_, ?_, same ▸ accounts.prev, same ▸ accounts.prevLimit⟩
  · intro time member
    rcases List.mem_append.mp member with old | new
    · exact accounts.upper time old
    · rw [List.mem_singleton.mp new]
      exact running
  · change (times ++ [now]).countP (fun time => window.windowStart ≤ time) ≤ _
    rw [more, counted]
    omega
  · change (times ++ [now]).countP (fun time => window.windowStart ≤ time) ≤ _
    rw [more]
    omega

/-- The interval that ends with an allowed check has fewer than twice the limit. -/
theorem noDoubleBurst_allow (before : NoDoubleBurst limit times) :
    NoDoubleBurst limit (times ++ [now]) := by
  intro start
  rw [List.countP_append, List.countP_singleton]
  by_cases inside : start ≤ now ∧ now ≤ start + rateLimitWindow
  · rw [if_pos (decide_eq_true inside)]
    have bounds := count_le_limit fits running allowed
    have curr := accounts.curr
    have prev := accounts.prev
    have prevLimit := accounts.prevLimit
    have split : times.countP (fun time => start ≤ time ∧ time ≤ start + rateLimitWindow) ≤
        times.countP (fun time => window.windowStart ≤ time) +
          times.countP (fun time => time < window.windowStart ∧
            now ≤ time + rateLimitWindow) := by
      apply countP_le_add
      intro time within
      have bounds := of_decide_eq_true within
      by_cases late : window.windowStart ≤ time
      · exact Or.inl (decide_eq_true late)
      · exact Or.inr (decide_eq_true (by omega))
    have near : times.countP (fun time => time < window.windowStart ∧
          now ≤ time + rateLimitWindow) ≤
        times.countP (fun time => time < window.windowStart ∧
          window.windowStart ≤ time + rateLimitWindow) := by
      apply List.countP_mono_left
      intro time _ near
      have bounds := of_decide_eq_true near
      exact decide_eq_true (by omega)
    by_cases edge : now - window.windowStart < rateLimitWindow
    · by_cases weighs : 0 < window.prevCount
      · have strict := bounds.2 weighs edge
        omega
      · omega
    · -- At the end of the window the previous one is out of reach.
      have none : times.countP (fun time => time < window.windowStart ∧
          now ≤ time + rateLimitWindow) = 0 := by
        apply countP_eq_zero
        intro time _
        exact decide_eq_false (by omega)
      omega
  · rw [if_neg (by simpa using inside)]
    exact before start

end Allowed

section Run

variable {key : RateLimitKey}

/-- The entry that a check leaves accounts for the check, if it was allowed. -/
theorem covers_check {limiter : RateLimiter} {asked : RateCheck} (same : asked.key = key)
    (covers : Covers asked.limit asked.now times (limiter.lookup key))
    (fits : Fits limiter (.check asked)) (burst : NoDoubleBurst asked.limit times) :
    Covers asked.limit asked.now
        (times ++ if (limiter.check exactEstimate asked.now asked.key asked.limit).1 = true then
          [asked.now] else [])
        ((limiter.step exactEstimate (.check asked)).lookup key) ∧
      NoDoubleBurst asked.limit
        (times ++ if (limiter.check exactEstimate asked.now asked.key asked.limit).1 = true then
          [asked.now] else []) := by
  have cleaned : Covers asked.limit asked.now times
      ((limiter.inlineCleanup asked.now).lookup key) :=
    RateLimiter.of_evict covers covers.evict
  rcases cleaned.rotate with ⟨running, begun, accounts⟩
  rw [← same] at running begun accounts
  have left : (limiter.step exactEstimate (.check asked)).lookup key =
      some (limiter.checked asked.now asked.key) := by
    rw [← same]
    exact AList.lookup_insert _
  rw [left]
  split
  · next allowed => exact ⟨⟨begun, accounts.allow fits begun running allowed⟩,
      noDoubleBurst_allow accounts fits begun running allowed burst⟩
  · rw [List.append_nil]
    exact ⟨⟨begun, accounts.refuse fits⟩, burst⟩

theorem noDoubleBurst_run (limit : Nat) (calls : List RateCall) :
    ∀ (now : Nat) (times : List Nat) (limiter : RateLimiter), Timed calls →
      (∀ call ∈ calls, now ≤ call.now) →
        (∀ asked, RateCall.check asked ∈ calls → asked.key = key → asked.limit = limit) →
          Execution.Guarded (RateLimiter.step exactEstimate) Fits limiter calls →
            Covers limit now times (limiter.lookup key) → NoDoubleBurst limit times →
              NoDoubleBurst limit (times ++ allowedTimes key limiter calls) := by
  induction calls with
  | nil =>
      intro now times limiter _ _ _ _ _ burst
      rw [allowedTimes, List.append_nil]
      exact burst
  | cons call rest induction =>
      intro now times limiter timed above limits fits covers burst
      have reached := covers.later (above call List.mem_cons_self)
      have after := (List.pairwise_cons.mp timed).1
      have restTimed := (List.pairwise_cons.mp timed).2
      have restLimits := fun asked member => limits asked (List.mem_cons_of_mem call member)
      cases call with
      | cleanupExpired time =>
          refine induction time times (limiter.cleanupExpired time) restTimed after restLimits
            fits.2 ?_ burst
          unfold RateLimiter.cleanupExpired
          rw [RateLimiter.lookup_retain]
          exact reached.evict
      | check asked =>
          rw [allowedTimes, ← List.append_assoc]
          by_cases same : asked.key = key
          · have isLimit := limits asked List.mem_cons_self same
            subst isLimit
            have checked := covers_check same reached fits.1 burst
            have chosen : (if asked.key = key ∧ (limiter.check exactEstimate asked.now asked.key
                asked.limit).1 = true then [asked.now] else []) =
                  if (limiter.check exactEstimate asked.now asked.key asked.limit).1 = true then
                    [asked.now] else [] := by
              simp only [same, true_and]
            rw [chosen]
            exact induction asked.now _ _ restTimed after restLimits fits.2 checked.1 checked.2
          · rw [if_neg fun both => same both.1, List.append_nil]
            refine induction asked.now times _ restTimed after restLimits fits.2 ?_ burst
            have other : (limiter.step exactEstimate (.check asked)).lookup key =
                (limiter.inlineCleanup asked.now).lookup key :=
              AList.lookup_insert_ne (Ne.symm same)
            rw [other]
            rcases RateLimiter.lookup_inlineCleanup asked.now key limiter with kept | evicted
            · rw [kept]
              exact reached
            · rw [evicted]
              exact reached.evict

/-- With exact weights and counters that do not overflow, fewer than twice the limit of a key's
checks are allowed in any closed interval of 60 seconds, whatever clean-ups and checks of other
keys come between them. -/
theorem noDoubleBurst (key : RateLimitKey) (limit : Nat) (positive : 1 ≤ limit)
    (calls : List RateCall) (timed : Timed calls)
    (limits : ∀ asked, RateCall.check asked ∈ calls → asked.key = key → asked.limit = limit)
    (fits : Execution.Guarded (RateLimiter.step exactEstimate) Fits .new calls) :
    NoDoubleBurst limit (allowedTimes key .new calls) := by
  refine noDoubleBurst_run limit calls 0 [] .new timed (fun _ _ => Nat.zero_le _) limits fits ?_ ?_
  · intro time member
    cases member
  · intro start
    change 0 < 2 * limit
    omega

end Run

namespace Sample

def burstKey : RateLimitKey := .pseudonym "alice" .default

/-- Two checks at the end of a window and two at the beginning of the next. -/
def burstCalls : List RateCall :=
  [.check ⟨0, burstKey, 2⟩, .check ⟨59 * 10 ^ 9, burstKey, 2⟩, .cleanupExpired (60 * 10 ^ 9),
    .check ⟨61 * 10 ^ 9, burstKey, 2⟩, .check ⟨62 * 10 ^ 9, burstKey, 2⟩]

theorem noDoubleBurst_burstCalls : NoDoubleBurst 2 (allowedTimes burstKey .new burstCalls) := by
  refine noDoubleBurst burstKey 2 (by decide) burstCalls (by unfold Timed; decide) ?_
    ⟨?_, ?_, trivial, ?_, ?_, trivial⟩
  · intro asked member _
    simp only [burstCalls, List.mem_cons, RateCall.check.injEq, reduceCtorEq, List.not_mem_nil,
      or_false, false_or] at member
    rcases member with same | same | same | same
    · rw [same]
    · rw [same]
    · rw [same]
    · rw [same]
  · unfold Fits
    decide +kernel
  · unfold Fits
    decide +kernel
  · unfold Fits
    decide +kernel
  · unfold Fits
    decide +kernel

end Sample

end Annex.Server
