import Mathlib.Data.List.Perm.Subperm
import Annex.Foundation.Interleaving

namespace Annex

/-! A cache of bounded size in front of something slow, asked by many calls at the same time.
Entries are served until they are too old, and where the cache is full the oldest tenth makes
room. -/

/-- What is cached under a key, and since when. -/
structure CacheEntry (Key : Type u) (Value : Type v) where
  key : Key
  value : Value
  fetchedAt : Nat
deriving DecidableEq, Repr

/-- The entries of a cache, one for each key. -/
structure AgedCache (Key : Type u) (Value : Type v) where
  entries : List (CacheEntry Key Value)
  nodup : (entries.map (·.key)).Nodup

namespace AgedCache

variable {Key : Type u} {Value : Type v} [DecidableEq Key]

def empty : AgedCache Key Value := ⟨[], List.nodup_nil⟩

def keys (cache : AgedCache Key Value) : List Key := cache.entries.map (·.key)

def lookup (cache : AgedCache Key Value) (key : Key) : Option (CacheEntry Key Value) :=
  cache.entries.find? (·.key = key)

/-- The value of an entry that is not too old. -/
def fresh (ttl now : Nat) (cache : AgedCache Key Value) (key : Key) : Option Value :=
  ((cache.lookup key).filter fun entry => now - entry.fetchedAt < ttl).map (·.value)

/-- The entries in the order in which a map iterates over its keys. -/
def iterate (order : List Key) (cache : AgedCache Key Value) : List (CacheEntry Key Value) :=
  order.filterMap cache.lookup

/-- The entries from the oldest to the youngest. -/
def byAge (order : List Key) (cache : AgedCache Key Value) : List (CacheEntry Key Value) :=
  (cache.iterate order).mergeSort fun left right => left.fetchedAt ≤ right.fetchedAt

/-- How many of the oldest entries make room. -/
def toRemove (size : Nat) : Nat := max (size / 10) 1

def removeAll (removed : List Key) (cache : AgedCache Key Value) : AgedCache Key Value where
  entries := cache.entries.filter (·.key ∉ removed)
  nodup := cache.nodup.sublist (List.filter_sublist.map _)

def evict (order : List Key) (cache : AgedCache Key Value) : AgedCache Key Value :=
  let entries := cache.byAge order
  cache.removeAll ((entries.take (toRemove entries.length)).map (·.key))

def insert (entry : CacheEntry Key Value) (cache : AgedCache Key Value) :
    AgedCache Key Value where
  entries := cache.entries.filter (·.key ≠ entry.key) ++ [entry]
  nodup := by
    rw [List.map_append, List.nodup_append]
    refine ⟨cache.nodup.sublist (List.filter_sublist.map _), by simp, ?_⟩
    intro key old other new
    rcases List.mem_map.mp old with ⟨row, member, rfl⟩
    rw [List.map_singleton, List.mem_singleton] at new
    rw [new]
    simpa using (List.mem_filter.mp member).2

/-- A new entry, for which the oldest ones make room where the cache is full. -/
def store (capacity : Nat) (order : List Key) (entry : CacheEntry Key Value)
    (cache : AgedCache Key Value) : AgedCache Key Value :=
  (if capacity ≤ cache.entries.length then cache.evict order else cache).insert entry

theorem lookup_of_mem {cache : AgedCache Key Value} {entry : CacheEntry Key Value}
    (member : entry ∈ cache.entries) : cache.lookup entry.key = some entry := by
  have unique : ∀ rows : List (CacheEntry Key Value), (rows.map (·.key)).Nodup →
      entry ∈ rows → rows.find? (·.key = entry.key) = some entry := by
    intro rows nodup member
    induction rows with
    | nil => cases member
    | cons row rows induction =>
        rw [List.map_cons, List.nodup_cons] at nodup
        rcases List.mem_cons.mp member with rfl | member
        · exact List.find?_cons_of_pos (decide_eq_true rfl)
        · have other : row.key ≠ entry.key := by
            intro same
            rw [same] at nodup
            exact nodup.1 (List.mem_map_of_mem member)
          rw [List.find?_cons_of_neg (by simpa using other)]
          exact induction nodup.2 member
  exact unique cache.entries cache.nodup member

theorem mem_of_lookup {cache : AgedCache Key Value} {key : Key} {entry : CacheEntry Key Value}
    (found : cache.lookup key = some entry) : entry ∈ cache.entries ∧ entry.key = key := by
  have same := List.find?_some found
  exact ⟨List.mem_of_find?_eq_some found, of_decide_eq_true same⟩

/-- An entry that is fresh is one of the cache, and not too old. -/
theorem fresh_eq_some {cache : AgedCache Key Value} {ttl now : Nat} {key : Key} {value : Value} :
    cache.fresh ttl now key = some value ↔
      ∃ entry ∈ cache.entries, entry.key = key ∧ entry.value = value ∧
        now - entry.fetchedAt < ttl := by
  constructor
  · intro found
    rcases Option.map_eq_some_iff.mp found with ⟨entry, kept, rfl⟩
    rcases Option.filter_eq_some_iff.mp kept with ⟨looked, young⟩
    have member := mem_of_lookup looked
    exact ⟨entry, member.1, member.2, rfl, of_decide_eq_true young⟩
  · rintro ⟨entry, member, rfl, rfl, young⟩
    rw [fresh, lookup_of_mem member, Option.filter_some, if_pos (decide_eq_true young)]
    rfl

section Eviction

variable {cache : AgedCache Key Value} {order : List Key}

/-- An iteration meets each entry once. -/
theorem iterate_perm (complete : order.Perm cache.keys) :
    (cache.iterate order).Perm cache.entries := by
  have each : cache.keys.filterMap cache.lookup = cache.entries := by
    rw [keys, List.filterMap_map]
    refine (List.filterMap_congr fun entry member => lookup_of_mem member).trans ?_
    exact List.filterMap_some
  exact each ▸ complete.filterMap cache.lookup

theorem byAge_perm (complete : order.Perm cache.keys) :
    (cache.byAge order).Perm cache.entries :=
  (List.mergeSort_perm _ _).trans (iterate_perm complete)

theorem sorted_byAge : (cache.byAge order).Pairwise fun left right =>
    left.fetchedAt ≤ right.fetchedAt := by
  have sorted := @List.pairwise_mergeSort _
    (fun left right : CacheEntry Key Value => decide (left.fetchedAt ≤ right.fetchedAt))
    (by simpa using fun _ _ _ => Nat.le_trans) (by simpa using fun _ _ => Nat.le_total _ _)
    (cache.iterate order)
  exact sorted.imp of_decide_eq_true

/-- Between distinct keys, to remove those of a part leaves the other one. -/
theorem filter_not_mem_map_key {front back : List (CacheEntry Key Value)}
    (nodup : ((front ++ back).map (·.key)).Nodup) :
    (front ++ back).filter (·.key ∉ front.map (·.key)) = back := by
  rw [List.map_append, List.nodup_append] at nodup
  rw [List.filter_append, List.filter_eq_nil_iff.mpr, List.filter_eq_self.mpr, List.nil_append]
  · intro entry member
    refine decide_eq_true fun taken => ?_
    exact nodup.2.2 _ taken _ (List.mem_map_of_mem member) rfl
  · intro entry member
    simpa using ⟨entry, member, rfl⟩

/-- What an eviction leaves are the youngest entries. -/
theorem evict_perm (complete : order.Perm cache.keys) :
    (cache.evict order).entries.Perm
      ((cache.byAge order).drop (toRemove (cache.byAge order).length)) := by
  have nodup : ((cache.byAge order).map (·.key)).Nodup :=
    ((byAge_perm complete).map _).nodup_iff.mpr cache.nodup
  have parts : (cache.byAge order).take (toRemove (cache.byAge order).length) ++
      (cache.byAge order).drop (toRemove (cache.byAge order).length) = cache.byAge order :=
    List.take_append_drop _ _
  refine ((byAge_perm complete).symm.filter _).trans (List.Perm.of_eq ?_)
  have split := filter_not_mem_map_key (parts.symm ▸ nodup)
  rw [parts] at split
  exact split

theorem evict_subset {entry : CacheEntry Key Value}
    (member : entry ∈ (cache.evict order).entries) : entry ∈ cache.entries :=
  (List.mem_filter.mp member).1

theorem length_evict (complete : order.Perm cache.keys) :
    (cache.evict order).entries.length =
      cache.entries.length - toRemove cache.entries.length := by
  rw [(evict_perm complete).length_eq, List.length_drop, (byAge_perm complete).length_eq]

/-- Nothing that an eviction leaves is older than what it removes. -/
theorem le_of_evicted (complete : order.Perm cache.keys) {removed kept : CacheEntry Key Value}
    (before : removed ∈ cache.entries) (gone : removed ∉ (cache.evict order).entries)
    (member : kept ∈ (cache.evict order).entries) : removed.fetchedAt ≤ kept.fetchedAt := by
  generalize count : toRemove (cache.byAge order).length = size at *
  have perm := evict_perm complete
  rw [count] at perm
  have parts : (cache.byAge order).take size ++ (cache.byAge order).drop size =
      cache.byAge order := List.take_append_drop _ _
  have sorted := @sorted_byAge _ _ _ cache order
  rw [← parts, List.pairwise_append] at sorted
  refine sorted.2.2 removed ?_ kept (perm.mem_iff.mp member)
  have either := (byAge_perm complete).mem_iff.mpr before
  rw [← parts, List.mem_append] at either
  exact either.resolve_right fun late => gone (perm.mem_iff.mpr late)

end Eviction

section Storing

variable {cache : AgedCache Key Value} {order : List Key} {capacity : Nat}
  {entry : CacheEntry Key Value}

theorem mem_insert_self : entry ∈ (cache.insert entry).entries :=
  List.mem_append_right _ (List.mem_singleton_self _)

theorem mem_insert_of_ne {other : CacheEntry Key Value} (member : other ∈ cache.entries)
    (different : other.key ≠ entry.key) : other ∈ (cache.insert entry).entries :=
  List.mem_append_left _ (List.mem_filter.mpr ⟨member, by simpa using different⟩)

theorem mem_store_self : entry ∈ (cache.store capacity order entry).entries := mem_insert_self

theorem of_mem_store {other : CacheEntry Key Value}
    (member : other ∈ (cache.store capacity order entry).entries) :
    other = entry ∨ other ∈ cache.entries := by
  rw [store, insert, List.mem_append, List.mem_singleton] at member
  rcases member with old | new
  · right
    have kept := (List.mem_filter.mp old).1
    split at kept
    · exact evict_subset kept
    · exact kept
  · exact Or.inl new

theorem length_store_le (complete : order.Perm cache.keys) (positive : 0 < capacity)
    (bounded : cache.entries.length ≤ capacity) :
    (cache.store capacity order entry).entries.length ≤ capacity := by
  have inserted (other : AgedCache Key Value) :
      (other.insert entry).entries.length ≤ other.entries.length + 1 := by
    rw [insert, List.length_append, List.length_singleton]
    exact Nat.add_le_add_right (List.length_filter_le _ _) 1
  unfold store
  split
  · next full =>
    have evicted := length_evict complete
    have room : 1 ≤ toRemove cache.entries.length := Nat.le_max_right _ _
    have grown := inserted (cache.evict order)
    omega
  · next small =>
    have grown := inserted cache
    omega

/-- An entry of another key stays, or it makes room, and then nothing that stays is older. -/
theorem mem_store_or_removed {other : CacheEntry Key Value} (member : other ∈ cache.entries)
    (different : other.key ≠ entry.key) :
    other ∈ (cache.store capacity order entry).entries ∨
      capacity ≤ cache.entries.length ∧ other ∉ (cache.evict order).entries := by
  unfold store
  split
  · next full =>
    by_cases kept : other ∈ (cache.evict order).entries
    · exact Or.inl (mem_insert_of_ne kept different)
    · exact Or.inr ⟨full, kept⟩
  · exact Or.inl (mem_insert_of_ne member different)

end Storing

end AgedCache

/-- What a caching proxy serves: the keys of requests, the ones it refuses, what is fetched for a
key and whether that is kept, and how much it keeps for how long. -/
structure CachingProxy (Request : Type y) (Key : Type u) (Value : Type v) (Error : Type w)
    (Input : Type x) where
  capacity : Nat
  ttl : Nat
  toKey : Request → Key
  refuse : Key → Option Error
  fetch : Key → Input → Except Error (Value × Bool)

namespace CachingProxy

/-- Where a call is: before the look into the cache, at the fetch, or at the store. -/
inductive Call (Key : Type u) (Value : Type v) where
  | arrived (key : Key)
  | fetching (key : Key)
  | storing (key : Key) (value : Value)
deriving DecidableEq, Repr

/-- What a call was answered. -/
structure Answer (Key : Type u) (Value : Type v) (Error : Type w) where
  id : Nat
  key : Key
  result : Except Error Value
  answeredAt : Nat

/-- The time of a step, the order in which the map iterates in it, and what a fetch meets. -/
structure StepInput (Key : Type u) (Input : Type v) where
  now : Nat
  order : List Key
  outside : Input

/-- The cache and the clock, with all that was stored and answered so far. -/
structure Shared (Key : Type u) (Value : Type v) (Error : Type w) where
  clock : Nat
  cache : AgedCache Key Value
  stored : List (CacheEntry Key Value)
  answers : List (Answer Key Value Error)

variable {Request : Type y} {Key : Type u} {Value : Type v} {Error : Type w} {Input : Type x}

def Shared.initial : Shared Key Value Error := ⟨0, .empty, [], []⟩

/-- The call ends with an answer. -/
def Shared.answer (shared : Shared Key Value Error) (id now : Nat) (key : Key)
    (result : Except Error Value) : Shared Key Value Error :=
  { shared with clock := now, answers := shared.answers ++ [⟨id, key, result, now⟩] }

variable (proxy : CachingProxy Request Key Value Error Input)

/-- An answer is what its key is refused with, what a fetch of the key gave, or what was stored
for the key and is not too old. -/
def Justified (stored : List (CacheEntry Key Value)) (answer : Answer Key Value Error) : Prop :=
  match answer.result with
  | .error error =>
      proxy.refuse answer.key = some error ∨
        proxy.refuse answer.key = none ∧ ∃ outside, proxy.fetch answer.key outside = .error error
  | .ok value =>
      proxy.refuse answer.key = none ∧
        ((∃ outside, proxy.fetch answer.key outside = .ok (value, false)) ∨
          ∃ entry ∈ stored, entry.key = answer.key ∧ entry.value = value ∧
            entry.fetchedAt ≤ answer.answeredAt ∧
              answer.answeredAt - entry.fetchedAt < proxy.ttl)

/-- A stored value was fetched for its key. -/
def Fetched (key : Key) (value : Value) : Prop :=
  proxy.refuse key = none ∧ ∃ outside, proxy.fetch key outside = .ok (value, true)

theorem Justified.append {proxy : CachingProxy Request Key Value Error Input}
    {stored : List (CacheEntry Key Value)}
    {answer : Answer Key Value Error} (justified : proxy.Justified stored answer)
    (more : List (CacheEntry Key Value)) : proxy.Justified (stored ++ more) answer := by
  unfold Justified at justified ⊢
  split at justified
  · exact justified
  · rcases justified with ⟨allowed, unkept | ⟨entry, member, holds⟩⟩
    · exact ⟨allowed, Or.inl unkept⟩
    · exact ⟨allowed, Or.inr ⟨entry, List.mem_append_left _ member, holds⟩⟩

/-- The entry was stored, and nothing for its key after it. -/
def Latest (stored : List (CacheEntry Key Value)) (entry : CacheEntry Key Value) : Prop :=
  ∃ before after, stored = before ++ entry :: after ∧ ∀ other ∈ after, other.key ≠ entry.key

/-- The latest entry of a key is the one stored last, or was its latest before that. -/
theorem Latest.of_concat {stored : List (CacheEntry Key Value)}
    {entry new : CacheEntry Key Value} (latest : Latest (stored ++ [new]) entry) :
    entry = new ∨ Latest stored entry ∧ entry.key ≠ new.key := by
  rcases latest with ⟨before, after, same, others⟩
  rcases List.eq_nil_or_concat' after with rfl | ⟨front, last, rfl⟩
  · left
    exact (List.append_inj' same rfl).2 |> List.singleton_inj.mp |>.symm
  · right
    have parts : stored ++ [new] = (before ++ entry :: front) ++ [last] := by
      rw [same, List.append_assoc, List.cons_append]
    have both := List.append_inj' parts rfl
    have lastNew : new = last := List.singleton_inj.mp both.2
    rw [lastNew]
    refine ⟨⟨before, front, both.1, ?_⟩, ?_⟩
    · intro other member
      exact others other (List.mem_append_left _ member)
    · exact (others last (List.mem_append_right _ (List.mem_singleton_self _))).symm

/-- How many entries an eviction leaves. -/
def kept : Nat := proxy.capacity - AgedCache.toRemove proxy.capacity

variable [DecidableEq Key]

/-- One step of a call. The clock does not go back. -/
def act (id : Nat) (call : Call Key Value) (input : StepInput Key Input)
    (shared : Shared Key Value Error) :
    Option (Shared Key Value Error × Option (Call Key Value)) :=
  if input.now < shared.clock then none
  else
    match call with
    | .arrived key =>
        match proxy.refuse key with
        | some error => some (shared.answer id input.now key (.error error), none)
        | none =>
            match shared.cache.fresh proxy.ttl input.now key with
            | some value => some (shared.answer id input.now key (.ok value), none)
            | none => some ({ shared with clock := input.now }, some (.fetching key))
    | .fetching key =>
        match proxy.fetch key input.outside with
        | .error error => some (shared.answer id input.now key (.error error), none)
        | .ok (value, false) => some (shared.answer id input.now key (.ok value), none)
        | .ok (value, true) => some ({ shared with clock := input.now }, some (.storing key value))
    | .storing key value =>
        if input.order.Perm shared.cache.keys then
          let entry := ⟨key, value, input.now⟩
          let cache := shared.cache.store proxy.capacity input.order entry
          some
            ({ shared with cache, stored := shared.stored ++ [entry] }.answer id input.now key
              (.ok value), none)
        else none

/-- The calls of a proxy. -/
def program : Interleaving.Program (Shared Key Value Error) (Call Key Value) Request
    (StepInput Key Input) where
  enter _ request := .arrived (proxy.toKey request)
  act := proxy.act

/-- What the proxy holds after a run. -/
def reached (labels : List (Interleaving.Label Request (StepInput Key Input))) :
    Shared Key Value Error :=
  (Execution.run (Interleaving.step proxy.program) (Interleaving.idle .initial) labels).shared

/-- The entries of other keys that are no older. -/
def noOlder (stored : List (CacheEntry Key Value)) (entry : CacheEntry Key Value) :
    List (CacheEntry Key Value) :=
  stored.filter fun other => other.key ≠ entry.key ∧ entry.fetchedAt ≤ other.fetchedAt

/-- What holds of the cache between two steps. -/
structure SoundShared (shared : Shared Key Value Error) : Prop where
  bounded : shared.cache.entries.length ≤ proxy.capacity
  cached : ∀ entry ∈ shared.cache.entries, entry ∈ shared.stored
  fetched : ∀ entry ∈ shared.stored, proxy.Fetched entry.key entry.value
  past : ∀ entry ∈ shared.stored, entry.fetchedAt ≤ shared.clock
  justified : ∀ answer ∈ shared.answers, proxy.Justified shared.stored answer
  retained : ∀ entry, Latest shared.stored entry →
    entry ∈ shared.cache.entries ∨ proxy.kept ≤ (noOlder shared.stored entry).length

/-- What a call has in hand was fetched for its key. -/
def SoundCall : Call Key Value → Prop
  | .arrived _ => True
  | .fetching key => proxy.refuse key = none
  | .storing key value => proxy.Fetched key value

section Soundness

variable {proxy} {shared : Shared Key Value Error}

theorem length_noOlder_append (stored more : List (CacheEntry Key Value))
    (entry : CacheEntry Key Value) :
    (noOlder stored entry).length ≤ (noOlder (stored ++ more) entry).length := by
  rw [noOlder, noOlder, List.filter_append, List.length_append]
  exact Nat.le_add_right _ _

/-- Where an entry made room, enough others that are no older were stored. -/
theorem kept_le_of_evicted (sound : proxy.SoundShared shared) {order : List Key}
    (complete : order.Perm shared.cache.keys) {entry : CacheEntry Key Value}
    (member : entry ∈ shared.cache.entries)
    (full : proxy.capacity ≤ shared.cache.entries.length)
    (gone : entry ∉ (shared.cache.evict order).entries) :
    proxy.kept ≤ (noOlder shared.stored entry).length := by
  have size : shared.cache.entries.length = proxy.capacity := Nat.le_antisymm sound.bounded full
  have left : (shared.cache.evict order).entries.length = proxy.kept := by
    rw [AgedCache.length_evict complete, size]
    rfl
  rw [← left]
  have nodup : (shared.cache.evict order).entries.Nodup :=
    List.Pairwise.of_map _ (fun _ _ other same => other (congrArg _ same))
      (shared.cache.evict order).nodup
  refine (nodup.subperm ?_).length_le
  intro other stays
  have old := AgedCache.evict_subset stays
  have different : other.key ≠ entry.key := by
    intro same
    have found := AgedCache.lookup_of_mem old
    rw [same, AgedCache.lookup_of_mem member, Option.some.injEq] at found
    exact gone (found ▸ stays)
  refine List.mem_filter.mpr ⟨sound.cached other old, decide_eq_true ⟨different, ?_⟩⟩
  exact AgedCache.le_of_evicted complete member gone stays

theorem SoundShared.tick (sound : proxy.SoundShared shared) {now : Nat}
    (later : shared.clock ≤ now) : proxy.SoundShared { shared with clock := now } :=
  { sound with past := fun entry member => Nat.le_trans (sound.past entry member) later }

theorem SoundShared.answer (sound : proxy.SoundShared shared) {id now : Nat} {key : Key}
    {result : Except Error Value} (later : shared.clock ≤ now)
    (justified : proxy.Justified shared.stored ⟨id, key, result, now⟩) :
    proxy.SoundShared (shared.answer id now key result) where
  bounded := sound.bounded
  cached := sound.cached
  fetched := sound.fetched
  past := (sound.tick later).past
  retained := sound.retained
  justified := by
    intro answer member
    rcases List.mem_append.mp member with old | new
    · exact sound.justified answer old
    · rw [List.mem_singleton.mp new]
      exact justified

theorem SoundShared.store (sound : proxy.SoundShared shared) (positive : 0 < proxy.capacity)
    {entry : CacheEntry Key Value} {order : List Key} (complete : order.Perm shared.cache.keys)
    (later : shared.clock ≤ entry.fetchedAt) (fetched : proxy.Fetched entry.key entry.value) :
    proxy.SoundShared
      { shared with
        clock := entry.fetchedAt
        cache := shared.cache.store proxy.capacity order entry
        stored := shared.stored ++ [entry] } where
  bounded := AgedCache.length_store_le complete positive sound.bounded
  cached := by
    intro other member
    rcases AgedCache.of_mem_store member with rfl | old
    · exact List.mem_append_right _ (List.mem_singleton_self _)
    · exact List.mem_append_left _ (sound.cached other old)
  fetched := by
    intro other member
    rcases List.mem_append.mp member with old | new
    · exact sound.fetched other old
    · rw [List.mem_singleton.mp new]
      exact fetched
  past := by
    intro other member
    rcases List.mem_append.mp member with old | new
    · exact Nat.le_trans (sound.past other old) later
    · exact Nat.le_of_eq (congrArg CacheEntry.fetchedAt (List.mem_singleton.mp new))
  justified := by
    intro answer member
    exact (sound.justified answer member).append _
  retained := by
    intro other latest
    rcases latest.of_concat with rfl | ⟨latest, different⟩
    · exact Or.inl AgedCache.mem_store_self
    · have more := length_noOlder_append shared.stored [entry] other
      rcases sound.retained other latest with member | crowded
      · rcases AgedCache.mem_store_or_removed member different
           with stays | ⟨full, gone⟩
        · exact Or.inl stays
        · exact Or.inr (Nat.le_trans (kept_le_of_evicted sound complete member full gone) more)
      · exact Or.inr (Nat.le_trans crowded more)

theorem soundShared_initial : proxy.SoundShared Shared.initial where
  bounded := Nat.zero_le _
  cached _ member := by cases member
  fetched _ member := by cases member
  past _ member := by cases member
  justified _ member := by cases member
  retained entry latest := by
    rcases latest with ⟨before, after, same, _⟩
    cases before <;> cases same

/-- A step of a call with something fetched keeps the cache sound, and the call. -/
theorem sound_act (capacity : 0 < proxy.capacity) (ttl : 0 < proxy.ttl) {id : Nat}
    {call : Call Key Value} {input : StepInput Key Input} {after : Shared Key Value Error}
    {next : Option (Call Key Value)} (sound : proxy.SoundShared shared)
    (soundCall : proxy.SoundCall call)
    (acted : proxy.act id call input shared = some (after, next)) :
    proxy.SoundShared after ∧ ∀ rest, next = some rest → proxy.SoundCall rest := by
  unfold act at acted
  split at acted
  · cases acted
  · next forward =>
    have later : shared.clock ≤ input.now := Nat.le_of_not_lt forward
    cases call with
    | arrived key =>
        dsimp only at acted
        split at acted
        · next error refused =>
          cases acted
          exact ⟨sound.answer later (Or.inl refused), by simp⟩
        · next allowed =>
          split at acted
          · next value hit =>
            cases acted
            rcases AgedCache.fresh_eq_some.mp hit with ⟨entry, member, isKey, isValue, young⟩
            have stored := sound.cached entry member
            have past := Nat.le_trans (sound.past entry stored) later
            refine ⟨sound.answer later ⟨allowed, Or.inr ?_⟩, by simp⟩
            exact ⟨entry, stored, isKey, isValue, past, young⟩
          · cases acted
            refine ⟨sound.tick later, ?_⟩
            intro rest continues
            cases continues
            exact allowed
    | fetching key =>
        dsimp only at acted
        split at acted
        · next error failed =>
          cases acted
          exact ⟨sound.answer later (Or.inr ⟨soundCall, input.outside, failed⟩), by simp⟩
        · next value given =>
          cases acted
          exact ⟨sound.answer later ⟨soundCall, Or.inl ⟨input.outside, given⟩⟩, by simp⟩
        · next value given =>
          cases acted
          refine ⟨sound.tick later, ?_⟩
          intro rest continues
          cases continues
          exact ⟨soundCall, input.outside, given⟩
    | storing key value =>
        dsimp only at acted
        split at acted
        · next complete =>
          cases acted
          have stored := @SoundShared.store _ _ _ _ _ proxy _ shared sound capacity
            ⟨key, value, input.now⟩ _ complete later soundCall
          refine ⟨stored.answer (Nat.le_refl _) ⟨soundCall.1, Or.inr ?_⟩, by simp⟩
          refine ⟨_, List.mem_append_right _ (List.mem_singleton_self _), rfl, rfl,
            Nat.le_refl _, ?_⟩
          rw [Nat.sub_self]
          exact ttl
        · cases acted

/-- However the calls come and interleave, and whatever a fetch meets, the cache stays within
its bound, every answer is justified, and a latest entry leaves only for enough others. -/
theorem soundShared_reached (capacity : 0 < proxy.capacity) (ttl : 0 < proxy.ttl)
    (labels : List (Interleaving.Label Request (StepInput Key Input))) :
    proxy.SoundShared (proxy.reached labels) := by
  have guarded : Execution.Guarded (Interleaving.step proxy.program) (fun _ _ => True)
      (Interleaving.idle Shared.initial) labels :=
    Execution.guarded_of_forall (fun _ _ => trivial) _ _
  refine (Execution.run_invariant_of_guarded
    (Interleaving.Sound proxy.SoundShared proxy.SoundCall) ?_
    (Interleaving.sound_idle soundShared_initial) guarded).shared
  refine Interleaving.sound_step (fun _ _ => trivial) ?_
  intro state id call input after next sound found acted _
  exact sound_act capacity ttl sound.shared (sound.calls id call found) acted

/-- A value that was stored last for its key is served again while it is young and few others
were stored. -/
theorem SoundShared.fresh_of_latest (sound : proxy.SoundShared shared)
    {entry : CacheEntry Key Value} (latest : Latest shared.stored entry)
    (few : (noOlder shared.stored entry).length < proxy.kept) {now : Nat}
    (young : now - entry.fetchedAt < proxy.ttl) :
    shared.cache.fresh proxy.ttl now entry.key = some entry.value := by
  have member := (sound.retained entry latest).resolve_right (Nat.not_le_of_lt few)
  exact AgedCache.fresh_eq_some.mpr ⟨entry, member, rfl, rfl, young⟩

/-- A request for a value that was stored last for its key is answered with it at once. -/
theorem SoundShared.act_arrived (sound : proxy.SoundShared shared)
    {entry : CacheEntry Key Value} (latest : Latest shared.stored entry)
    (few : (noOlder shared.stored entry).length < proxy.kept) {id : Nat}
    {input : StepInput Key Input} (forward : shared.clock ≤ input.now)
    (young : input.now - entry.fetchedAt < proxy.ttl) :
    proxy.act id (.arrived entry.key) input shared =
      some (shared.answer id input.now entry.key (.ok entry.value), none) := by
  have allowed : proxy.refuse entry.key = none := by
    rcases latest with ⟨before, after, same, _⟩
    refine (sound.fetched entry ?_).1
    rw [same]
    exact List.mem_append_right _ List.mem_cons_self
  have hit := sound.fresh_of_latest latest few young
  rw [act, if_neg (Nat.not_lt.mpr forward)]
  simp only [allowed, hit]

end Soundness

end CachingProxy

end Annex
