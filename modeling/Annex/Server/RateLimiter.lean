import Mathlib.Algebra.Order.Ring.Rat
import Mathlib.Data.List.AList
import Annex.Foundation.Execution
import Annex.Server.IpAddr

namespace Annex.Server

/-! The rate limiter. It counts the checks of a key in windows of 60 seconds, which it rotates only
when the key is checked again. Times are in nanoseconds. -/

inductive RateLimitCategory where
  | registration
  | verification
  | default
deriving DecidableEq, Repr

inductive RateLimitKey where
  | ip (address : IpAddr) (category : RateLimitCategory)
  | pseudonym (pseudonym : String) (category : RateLimitCategory)
deriving DecidableEq, Repr

structure WindowState where
  prevCount : Nat
  currCount : Nat
  windowStart : Nat
deriving DecidableEq, Repr

def rateLimitWindow : Nat := 60 * 10 ^ 9

/-- The threshold of the clean-up inside a check. -/
def inlineCleanupThreshold : Nat := 5000

namespace WindowState

/-- The window of a key that has none. -/
def fresh (now : Nat) : WindowState := ⟨0, 0, now⟩

/-- The window has ended. -/
def Elapsed (now : Nat) (window : WindowState) : Prop :=
  rateLimitWindow < now - window.windowStart

/-- The window ended so long ago that a clean-up evicts it. -/
def Expired (now : Nat) (window : WindowState) : Prop :=
  rateLimitWindow * 2 < now - window.windowStart

instance (now : Nat) (window : WindowState) : Decidable (window.Elapsed now) :=
  inferInstanceAs (Decidable (_ < _))

instance (now : Nat) (window : WindowState) : Decidable (window.Expired now) :=
  inferInstanceAs (Decidable (_ < _))

/-- A window that has ended becomes the previous one. -/
def rotate (now : Nat) (window : WindowState) : WindowState :=
  if window.Elapsed now then ⟨window.currCount, 0, now⟩ else window

/-- A check is counted, in 32 bits. -/
def count (window : WindowState) : WindowState :=
  { window with currCount := (window.currCount + 1) % 2 ^ 32 }

def visit (now : Nat) (window : WindowState) : WindowState := (window.rotate now).count

end WindowState

/-- How the estimate of a window compares with the limit: the counts of the previous and the
current window, the time since the current one began, and the limit. -/
abbrev RateEstimate := (prevCount currCount elapsed limit : Nat) → Bool

/-- The estimate without rounding: the previous count, weighted by the fraction of the window that
has not elapsed, and the current one. -/
def exactEstimate : RateEstimate := fun prevCount currCount elapsed limit =>
  (prevCount : ℚ) * (1 - min ((elapsed : ℚ) / rateLimitWindow) 1) + currCount ≤ limit

/-- A window is within the limit. -/
def WindowState.within (estimate : RateEstimate) (now limit : Nat) (window : WindowState) : Bool :=
  estimate window.prevCount window.currCount (now - window.windowStart) limit

abbrev RateLimiter := AList fun _ : RateLimitKey => WindowState

namespace RateLimiter

def new : RateLimiter := ∅

/-- Keep the entries that have not expired. -/
def retain (now : Nat) (limiter : RateLimiter) : RateLimiter where
  entries := limiter.entries.filter fun entry => ¬ entry.2.Expired now
  nodupKeys := limiter.nodupKeys.sublist List.filter_sublist

def cleanupExpired (now : Nat) (limiter : RateLimiter) : RateLimiter := limiter.retain now

/-- The clean-up inside a check. -/
def inlineCleanup (now : Nat) (limiter : RateLimiter) : RateLimiter :=
  if inlineCleanupThreshold < limiter.entries.length then limiter.retain now else limiter

/-- The window of a key after a check of it. -/
def checked (now : Nat) (key : RateLimitKey) (limiter : RateLimiter) : WindowState :=
  (((limiter.inlineCleanup now).lookup key).getD (.fresh now)).visit now

def check (estimate : RateEstimate) (now : Nat) (key : RateLimitKey) (limit : Nat)
    (limiter : RateLimiter) : Bool × RateLimiter :=
  let window := limiter.checked now key
  (window.within estimate now limit, (limiter.inlineCleanup now).insert key window)

end RateLimiter

/-- A check at a time. -/
structure RateCheck where
  now : Nat
  key : RateLimitKey
  limit : Nat
deriving DecidableEq, Repr

inductive RateCall where
  | check (asked : RateCheck)
  | cleanupExpired (now : Nat)
deriving DecidableEq, Repr

def RateCall.now : RateCall → Nat
  | .check asked => asked.now
  | .cleanupExpired now => now

/-- The checks among the calls. -/
def checksOf (calls : List RateCall) : List RateCheck :=
  calls.filterMap fun call =>
    match call with
    | .check asked => some asked
    | .cleanupExpired _ => none

/-- The limiter after a call. -/
def RateLimiter.step (estimate : RateEstimate) (limiter : RateLimiter) : RateCall → RateLimiter
  | .check asked => (limiter.check estimate asked.now asked.key asked.limit).2
  | .cleanupExpired now => limiter.cleanupExpired now

/-- The decisions of the checks among the calls, in order. -/
def RateLimiter.decisions (estimate : RateEstimate) : RateLimiter → List RateCall → List Bool
  | _, [] => []
  | limiter, .check asked :: rest =>
      (limiter.check estimate asked.now asked.key asked.limit).1 ::
        decisions estimate (limiter.step estimate (.check asked)) rest
  | limiter, .cleanupExpired now :: rest =>
      decisions estimate (limiter.step estimate (.cleanupExpired now)) rest

/-- The clock does not go back. -/
def Timed (calls : List RateCall) : Prop :=
  calls.Pairwise fun first second => first.now ≤ second.now

theorem not_elapsed_fresh (now : Nat) : ¬ (WindowState.fresh now).Elapsed now := by
  unfold WindowState.Elapsed WindowState.fresh
  dsimp only
  omega

namespace RateLimiter

variable {limiter : RateLimiter} {now : Nat} {key : RateLimitKey} {window : WindowState}

theorem lookup_retain (now : Nat) (key : RateLimitKey) (limiter : RateLimiter) :
    (limiter.retain now).lookup key =
      (limiter.lookup key).filter fun window => ¬ window.Expired now := by
  ext window
  have inside := @AList.mem_lookup_iff _ _ _ key window (limiter.retain now)
  have outside := @AList.mem_lookup_iff _ _ _ key window limiter
  rw [Option.mem_def] at inside outside
  rw [inside, Option.filter_eq_some_iff, outside]
  exact List.mem_filter

/-- A clean-up inside a check evicts what has expired, or nothing. -/
theorem lookup_inlineCleanup (now : Nat) (key : RateLimitKey) (limiter : RateLimiter) :
    (limiter.inlineCleanup now).lookup key = limiter.lookup key ∨
      (limiter.inlineCleanup now).lookup key =
        (limiter.lookup key).filter fun window => ¬ window.Expired now := by
  unfold inlineCleanup
  split
  · exact Or.inr (lookup_retain now key limiter)
  · exact Or.inl rfl

/-- What evicting an expired entry keeps, the clean-up inside a check keeps. -/
theorem of_evict {property : Option WindowState → Prop} (holds : property (limiter.lookup key))
    (evict : property ((limiter.lookup key).filter fun window => ¬ window.Expired now)) :
    property ((limiter.inlineCleanup now).lookup key) := by
  rcases lookup_inlineCleanup now key limiter with kept | evicted
  · rw [kept]
    exact holds
  · rw [evicted]
    exact evict

end RateLimiter

end Annex.Server
