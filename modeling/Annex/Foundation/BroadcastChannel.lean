import Mathlib.Algebra.GroupWithZero.Nat
import Mathlib.Data.List.Basic

namespace Annex

/-! Channels with many receivers that keep only the last values. A receiver that falls behind
by more than the channel keeps is told how many values it has missed, and goes on with the
oldest that is kept. -/

/-- The values kept, oldest first, and how many have been sent in all. -/
structure BroadcastChannel (α : Type u) where
  retained : List α
  tail : Nat

/-- What a receiver is given. -/
inductive Received (α : Type u) where
  | value (value : α)
  | lagged (missed : Nat)
deriving DecidableEq, Repr

namespace BroadcastChannel

variable {α : Type u}

def empty : BroadcastChannel α := ⟨[], 0⟩

/-- The number of the oldest value kept. -/
def oldest (channel : BroadcastChannel α) : Nat := channel.tail - channel.retained.length

def send (capacity : Nat) (channel : BroadcastChannel α) (value : α) : BroadcastChannel α where
  retained := (channel.retained ++ [value]).drop (channel.retained.length + 1 - capacity)
  tail := channel.tail + 1

/-- What the receiver whose next value has the number is given, and the number that is next
then. It has to wait where all values have been received. -/
def recv (channel : BroadcastChannel α) (next : Nat) : Option (Received α × Nat) :=
  if next < channel.oldest then
    some (.lagged (channel.oldest - next), channel.oldest)
  else
    (channel.retained[next - channel.oldest]?).map fun value => (.value value, next + 1)

/-- The channel after the values have been sent. -/
structure Carries (capacity : Nat) (channel : BroadcastChannel α) (history : List α) : Prop where
  tail : channel.tail = history.length
  retained : channel.retained = history.drop (history.length - capacity)

/-- What a receiver is given accounts for every value from the first number up to the second:
as the value itself or in the number of those it has missed. -/
def Accounts (history : List α) : Nat → List (Received α) → Nat → Prop
  | first, [], next => first = next
  | first, .value value :: rest, next =>
      history[first]? = some value ∧ Accounts history (first + 1) rest next
  | first, .lagged missed :: rest, next =>
      0 < missed ∧ first + missed ≤ history.length ∧
        Accounts history (first + missed) rest next

/-- The values among what is received. -/
def values : List (Received α) → List α
  | [] => []
  | .value value :: rest => value :: values rest
  | .lagged _ :: rest => values rest

/-- How many values have been missed in all. -/
def missed : List (Received α) → Nat
  | [] => 0
  | .value _ :: rest => missed rest
  | .lagged count :: rest => count + missed rest

section Rules

variable {capacity first middle next : Nat} {channel : BroadcastChannel α}
  {history : List α} {received more : List (Received α)}

theorem carries_empty : (empty : BroadcastChannel α).Carries capacity [] :=
  ⟨rfl, by simp [empty]⟩

theorem Carries.send (carries : channel.Carries capacity history) (value : α) :
    (channel.send capacity value).Carries capacity (history ++ [value]) where
  tail := by simp [BroadcastChannel.send, carries.tail]
  retained := by
    have dropped : (channel.retained ++ [value]) =
        (history ++ [value]).drop (history.length - capacity) := by
      rw [carries.retained, List.drop_append_of_le_length (Nat.sub_le _ _)]
    have count : channel.retained.length = history.length - (history.length - capacity) := by
      rw [carries.retained, List.length_drop]
    have total : history.length - capacity + (channel.retained.length + 1 - capacity) =
        history.length + 1 - capacity := by
      rw [count]
      omega
    rw [BroadcastChannel.send, dropped, List.drop_drop, total, List.length_append,
      List.length_singleton]

theorem Carries.oldest (carries : channel.Carries capacity history) :
    channel.oldest = history.length - capacity := by
  rw [BroadcastChannel.oldest, carries.tail, carries.retained, List.length_drop]
  omega

theorem accounts_le (accounts : Accounts history first received next)
    (bound : first ≤ history.length) : first ≤ next ∧ next ≤ history.length := by
  induction received generalizing first with
  | nil => exact ⟨Nat.le_of_eq accounts, accounts ▸ bound⟩
  | cons head rest induction =>
      cases head with
      | value value =>
          have here := List.getElem?_eq_some_iff.mp accounts.1
          have later := induction accounts.2 here.1
          omega
      | lagged missed =>
          have later := induction accounts.2.2 accounts.2.1
          omega

theorem accounts_append : Accounts history first (received ++ more) next ↔
    ∃ middle, Accounts history first received middle ∧ Accounts history middle more next := by
  induction received generalizing first with
  | nil =>
      exact ⟨fun accounts => ⟨first, rfl, accounts⟩, fun ⟨_, same, accounts⟩ => same ▸ accounts⟩
  | cons head rest induction =>
      cases head with
      | value value => simp only [List.cons_append, Accounts, induction]; tauto
      | lagged missed => simp only [List.cons_append, Accounts, induction]; tauto

/-- What is sent later changes nothing about what has been received. -/
theorem Accounts.mono {longer : List α} (accounts : Accounts history first received next)
    (within : history <+: longer) : Accounts longer first received next := by
  rcases within with ⟨suffix, rfl⟩
  induction received generalizing first with
  | nil => exact accounts
  | cons head rest induction =>
      cases head with
      | value value =>
          have here := List.getElem?_eq_some_iff.mp accounts.1
          refine ⟨?_, induction accounts.2⟩
          rw [List.getElem?_append_left here.1]
          exact accounts.1
      | lagged missed =>
          refine ⟨accounts.1, ?_, induction accounts.2.2⟩
          rw [List.length_append]
          exact Nat.le_add_right_of_le accounts.2.1

/-- A receiver that is given something accounts for it. -/
theorem Carries.recv (carries : channel.Carries capacity history) {given : Received α}
    (gives : channel.recv first = some (given, next)) : Accounts history first [given] next := by
  unfold BroadcastChannel.recv at gives
  split at gives
  · next behind =>
    cases gives
    rw [carries.oldest] at behind ⊢
    refine ⟨Nat.sub_pos_of_lt behind, ?_, ?_⟩
    · omega
    · exact Nat.add_sub_cancel' (Nat.le_of_lt behind)
  · next within =>
    rcases Option.map_eq_some_iff.mp gives with ⟨value, found, same⟩
    cases same
    rw [carries.oldest] at within found
    refine ⟨?_, rfl⟩
    rw [carries.retained, List.getElem?_drop] at found
    rwa [Nat.add_sub_cancel' (Nat.le_of_not_lt within)] at found

/-- A receiver has to wait only where it has received everything. -/
theorem Carries.recv_none (carries : channel.Carries capacity history)
    (waits : channel.recv next = none) : history.length ≤ next := by
  unfold BroadcastChannel.recv at waits
  split at waits
  · cases waits
  · next within =>
    rw [Option.map_eq_none_iff, carries.oldest, carries.retained, List.getElem?_drop,
      List.getElem?_eq_none_iff] at waits
    rw [carries.oldest] at within
    omega

/-- The numbers of the values count from where the receiver began. -/
theorem Accounts.shift {before : List α}
    (accounts : Accounts (before ++ history) (before.length + first) received next) :
    ∃ position, next = before.length + position ∧
      Accounts history first received position := by
  induction received generalizing first with
  | nil => exact ⟨first, accounts.symm, rfl⟩
  | cons head rest induction =>
      cases head with
      | value value =>
          have later := accounts.2
          rw [Nat.add_assoc] at later
          rcases induction later with ⟨position, same, later⟩
          refine ⟨position, same, ?_, later⟩
          have here := accounts.1
          rwa [List.getElem?_append_right (Nat.le_add_right _ _), Nat.add_sub_cancel_left] at here
      | lagged missed =>
          have later := accounts.2.2
          rw [Nat.add_assoc] at later
          rcases induction later with ⟨position, same, later⟩
          refine ⟨position, same, accounts.1, ?_, later⟩
          have bound := accounts.2.1
          rw [List.length_append] at bound
          omega

/-- The values are some of those sent, in their order. -/
theorem Accounts.sublist (accounts : Accounts history first received next) :
    (values received).Sublist (history.drop first) := by
  induction received generalizing first with
  | nil => exact List.nil_sublist _
  | cons head rest induction =>
      cases head with
      | value value =>
          rcases List.getElem?_eq_some_iff.mp accounts.1 with ⟨bound, here⟩
          rw [List.drop_eq_getElem_cons bound, here]
          exact (induction accounts.2).cons_cons value
      | lagged missed =>
          refine (induction accounts.2.2).trans ?_
          rw [← List.drop_drop]
          exact List.drop_sublist _ _

/-- No value is lost that is not counted. -/
theorem Accounts.count (accounts : Accounts history first received next) :
    next = first + (values received).length + missed received := by
  induction received generalizing first with
  | nil => exact (Nat.add_zero _ ▸ accounts.symm)
  | cons head rest induction =>
      cases head with
      | value value =>
          rw [induction accounts.2, values, missed, List.length_cons]
          omega
      | lagged count =>
          rw [induction accounts.2.2, values, BroadcastChannel.missed]
          omega

/-- A receiver that has missed nothing has received everything. -/
theorem Accounts.complete (accounts : Accounts history first received next)
    (none : ∀ count, .lagged count ∉ received) :
    values received = (history.drop first).take (next - first) := by
  induction received generalizing first with
  | nil => rw [show next = first from accounts.symm, Nat.sub_self, List.take_zero, values]
  | cons head rest induction =>
      cases head with
      | value value =>
          rcases List.getElem?_eq_some_iff.mp accounts.1 with ⟨bound, here⟩
          have later := (accounts_le accounts.2 bound).1
          have without : ∀ count, .lagged count ∉ rest :=
            fun count member => none count (List.mem_cons_of_mem _ member)
          rw [List.drop_eq_getElem_cons bound, here, values, induction accounts.2 without,
            show next - first = next - (first + 1) + 1 by omega, List.take_succ_cons]
      | lagged count => exact absurd List.mem_cons_self (none count)

end Rules

end BroadcastChannel

end Annex
