/-
This file models `TTLCache` of `tavily_cache.py`, for any clock: an entry is given out until the
cache's time to live has passed since it was put, and the entries that were put or given out last stay
when there are more than the cache may have. What is in the cache is read off the history of the
calls: an entry is the latest accepted put of its key, unless it was found expired or evicted since.
-/

import LocalGpuCluster.OrderedDict

namespace LocalGpuCluster

structure CacheStats where
  hits : ℕ
  misses : ℕ
  evictions : ℕ
  skippedLarge : ℕ

/-- A value that is stored; `None` is `none`, as it is where nothing is found. -/
structure TTLCache (Key Value Time : Type) where
  ttlS : Time
  maxEntries : ℕ
  maxValueBytes : ℕ
  entries : OrderedDict Key (Time × Option Value)
  stats : CacheStats

namespace TTLCache

variable {Key Value Time : Type} [DecidableEq Key] [Sub Time] [LE Time] [DecidableLE Time]

/-- `__init__`. -/
def new (ttlS : Time) (maxEntries maxValueBytes : ℕ) : TTLCache Key Value Time :=
  ⟨ttlS, maxEntries, maxValueBytes, OrderedDict.empty, ⟨0, 0, 0, 0⟩⟩

/-- `now - stored_at >= self._ttl_s`. -/
def expired (cache : TTLCache Key Value Time) (now storedAt : Time) : Prop :=
  cache.ttlS ≤ now - storedAt

instance (cache : TTLCache Key Value Time) (now storedAt : Time) :
    Decidable (cache.expired now storedAt) := inferInstanceAs (Decidable (_ ≤ _))

def get (cache : TTLCache Key Value Time) (key : Key) (now : Time) :
    TTLCache Key Value Time × Option Value :=
  match cache.entries.find key with
  | none => ({ cache with stats.misses := cache.stats.misses + 1 }, none)
  | some (storedAt, value) =>
      if cache.expired now storedAt then
        ({ cache with entries := cache.entries.erase key, stats.misses := cache.stats.misses + 1 },
          none)
      else
        ({ cache with entries := cache.entries.moveToEnd key, stats.hits := cache.stats.hits + 1 },
          value)

/-- The entries with one that is stored last, before any is evicted. -/
def stored (cache : TTLCache Key Value Time) (key : Key) (value : Option Value) (now : Time) :
    OrderedDict Key (Time × Option Value) :=
  (cache.entries.assign key (now, value)).moveToEnd key

/-- With the size of a value as JSON text, `none` where `json.dumps` raises. -/
def put (cache : TTLCache Key Value Time) (key : Key) (value : Option Value) (size : Option ℕ)
    (now : Time) : TTLCache Key Value Time × Bool :=
  match size with
  | none => (cache, false)
  | some size =>
      if cache.maxValueBytes < size then
        ({ cache with stats.skippedLarge := cache.stats.skippedLarge + 1 }, false)
      else
        let stored := cache.stored key value now
        let kept := stored.shrink cache.maxEntries
        ({ cache with
            entries := kept
            stats.evictions :=
              cache.stats.evictions + (stored.entries.length - kept.entries.length) }, true)

/-! ### Histories -/

inductive Operation (Key Value Time : Type) where
  | get (key : Key) (now : Time)
  | put (key : Key) (value : Option Value) (size : Option ℕ) (now : Time)

/-- What happened to the entries in a call. -/
inductive Event (Key Value Time : Type) where
  | hit (key : Key)
  | missed (key : Key)
  | expired (key : Key)
  | put (key : Key) (value : Option Value) (now : Time) (evicted : List Key)
  | rejected

/-- The keys that had to go to make room. -/
def evicted (cache : TTLCache Key Value Time) (key : Key) (value : Option Value) (now : Time) :
    List Key :=
  ((cache.stored key value now).keys.filter fun other =>
    other ∉ ((cache.stored key value now).shrink cache.maxEntries).keys)

def step (cache : TTLCache Key Value Time) :
    Operation Key Value Time → TTLCache Key Value Time × Event Key Value Time
  | .get key now =>
      ((cache.get key now).1, match cache.entries.find key with
        | none => .missed key
        | some (storedAt, _) => if cache.expired now storedAt then .expired key else .hit key)
  | .put key value size now =>
      ((cache.put key value size now).1,
        if (cache.put key value size now).2 then .put key value now (cache.evicted key value now)
        else .rejected)

/-- A run of calls on a new cache, with what happened, the latest first. -/
def run (cache : TTLCache Key Value Time) (operations : List (Operation Key Value Time)) :
    TTLCache Key Value Time × List (Event Key Value Time) :=
  operations.foldl (fun state operation =>
    let next := state.1.step operation
    (next.1, next.2 :: state.2)) (cache, [])

/-- The entry under a key after what happened. -/
def live (key : Key) : List (Event Key Value Time) → Option (Time × Option Value)
  | [] => none
  | .put other value now evicted :: past =>
      if key ∈ evicted then none else if key = other then some (now, value) else live key past
  | .expired other :: past => if key = other then none else live key past
  | .hit _ :: past | .missed _ :: past | .rejected :: past => live key past

/-- When a key was put or given out last, counted in calls. -/
def lastUse (key : Key) : List (Event Key Value Time) → ℕ
  | [] => 0
  | .put other _ _ _ :: past | .hit other :: past =>
      if key = other then past.length + 1 else lastUse key past
  | .expired _ :: past | .missed _ :: past | .rejected :: past => lastUse key past

/-! ### What the history says of the cache -/

/-- The cache after what happened: its entries are the live ones, in the order of their last use. -/
structure Reflects (cache : TTLCache Key Value Time) (past : List (Event Key Value Time)) : Prop where
  found : ∀ key, cache.entries.find key = live key past
  ordered : cache.entries.entries.Pairwise fun first second =>
    lastUse first.1 past < lastUse second.1 past
  bound : cache.entries.entries.length ≤ cache.maxEntries

omit [Sub Time] [LE Time] [DecidableLE Time] in
theorem lastUse_le (key : Key) (past : List (Event Key Value Time)) :
    lastUse key past ≤ past.length := by
  induction past with
  | nil => exact Nat.le_refl 0
  | cons event past inductionHypothesis =>
    rw [List.length_cons]
    cases event with
    | hit other | put other =>
      rw [lastUse]
      split
      · exact Nat.le_refl _
      · exact Nat.le_succ_of_le inductionHypothesis
    | missed | expired | rejected => exact Nat.le_succ_of_le inductionHypothesis

omit [Sub Time] [LE Time] [DecidableLE Time] in
/-- The entries but one, which is used last. -/
theorem ordered_append {entries : List (Key × Time × Option Value)} {key : Key}
    {stored : Time × Option Value} {past : List (Event Key Value Time)}
    {event : Event Key Value Time} (ordered : entries.Pairwise fun first second =>
      lastUse first.1 past < lastUse second.1 past)
    (uses : ∀ other, lastUse other (event :: past) =
      if other = key then past.length + 1 else lastUse other past) :
    (OrderedDict.without entries key ++ [(key, stored)]).Pairwise fun first second =>
      lastUse first.1 (event :: past) < lastUse second.1 (event :: past) := by
  have others : ∀ entry ∈ OrderedDict.without entries key,
      lastUse entry.1 (event :: past) = lastUse entry.1 past := fun entry member =>
    (uses entry.1).trans (if_neg (of_decide_eq_true (List.mem_filter.mp member).2))
  refine List.pairwise_append.mpr ⟨?_, List.pairwise_singleton _ _, ?_⟩
  · refine List.Pairwise.imp_of_mem ?_ (ordered.sublist List.filter_sublist)
    intro first second isFirst isSecond before
    rwa [others first isFirst, others second isSecond]
  · intro entry member last isLast
    rw [List.mem_singleton.mp isLast, others entry member, uses key, if_pos rfl]
    exact Nat.lt_succ_of_le (lastUse_le entry.1 past)

omit [Sub Time] [LE Time] [DecidableLE Time] in
theorem mem_evicted {cache : TTLCache Key Value Time} {key other : Key} {value : Option Value}
    {now : Time} : other ∈ cache.evicted key value now ↔
      other ∈ (cache.stored key value now).keys ∧
        other ∉ ((cache.stored key value now).shrink cache.maxEntries).keys := by
  rw [evicted, List.mem_filter, decide_eq_true_iff]

section Step

variable {cache : TTLCache Key Value Time} {past : List (Event Key Value Time)}

theorem Reflects.get (reflects : Reflects cache past) (key : Key) (now : Time) :
    Reflects (cache.get key now).1 ((cache.step (.get key now)).2 :: past) := by
  rw [TTLCache.step, TTLCache.get]
  cases found : cache.entries.find key with
  | none => exact ⟨reflects.found, reflects.ordered, reflects.bound⟩
  | some entry =>
    obtain ⟨storedAt, value⟩ := entry
    dsimp only
    by_cases old : cache.expired now storedAt
    · rw [if_pos old, if_pos old]
      refine ⟨fun other => ?_, reflects.ordered.sublist List.filter_sublist,
        (List.length_filter_le _ _).trans reflects.bound⟩
      rw [live, ← reflects.found other]
      exact OrderedDict.find_erase cache.entries key other
    · rw [if_neg old, if_neg old]
      have entries := OrderedDict.entries_moveToEnd found
      refine ⟨fun other => ?_, ?_, ?_⟩
      · rw [live, ← reflects.found other]
        exact OrderedDict.find_moveToEnd cache.entries key other
      · show (cache.entries.moveToEnd key).entries.Pairwise _
        rw [entries]
        exact ordered_append reflects.ordered fun other => rfl
      · show (cache.entries.moveToEnd key).entries.length ≤ cache.maxEntries
        have there : key ∈ cache.entries.keys :=
          List.mem_map.mpr ⟨_, OrderedDict.find_eq_some_iff.mp found, rfl⟩
        rw [entries, List.length_append, List.length_singleton]
        exact (OrderedDict.length_without_lt there).trans_le reflects.bound

omit [Sub Time] [LE Time] [DecidableLE Time] in
theorem Reflects.stored (reflects : Reflects cache past) (key : Key) (value : Option Value)
    (now : Time) (evicted : List Key) : (cache.stored key value now).entries.Pairwise
      fun first second => lastUse first.1 (.put key value now evicted :: past) <
        lastUse second.1 (.put key value now evicted :: past) := by
  unfold TTLCache.stored
  rw [OrderedDict.entries_assign_moveToEnd]
  exact ordered_append reflects.ordered fun other => rfl

theorem Reflects.put (reflects : Reflects cache past) (key : Key) (value : Option Value)
    (size : Option ℕ) (now : Time) :
    Reflects (cache.put key value size now).1 ((cache.step (.put key value size now)).2 :: past) := by
  cases size with
  | none => exact ⟨reflects.found, reflects.ordered, reflects.bound⟩
  | some size =>
    rw [TTLCache.step, TTLCache.put]
    dsimp only
    by_cases large : cache.maxValueBytes < size
    · rw [if_pos large, if_neg Bool.false_ne_true]
      exact ⟨reflects.found, reflects.ordered, reflects.bound⟩
    · rw [if_neg large, if_pos rfl]
      refine ⟨fun other => ?_, ?_, OrderedDict.length_shrink_le _ _⟩
      · show ((cache.stored key value now).shrink cache.maxEntries).find other = _
        have stored : (cache.stored key value now).find other =
            if other = key then some (now, value) else live other past := by
          rw [← reflects.found other]
          exact OrderedDict.find_assign_moveToEnd cache.entries key other (now, value)
        rw [OrderedDict.find_shrink, live, ← stored]
        by_cases kept : other ∈ ((cache.stored key value now).shrink cache.maxEntries).keys
        · rw [if_pos kept, if_neg fun gone => (mem_evicted.mp gone).2 kept]
        · rw [if_neg kept]
          by_cases there : other ∈ (cache.stored key value now).keys
          · rw [if_pos (mem_evicted.mpr ⟨there, kept⟩)]
          · rw [if_neg fun gone => there (mem_evicted.mp gone).1,
              OrderedDict.find_eq_none_iff.mpr there]
      · refine (reflects.stored key value now _).sublist ?_
        show (OrderedDict.popFirst _ _).Sublist _
        rw [OrderedDict.popFirst_eq_drop]
        exact List.drop_sublist _ _

theorem Reflects.step (reflects : Reflects cache past) (operation : Operation Key Value Time) :
    Reflects (cache.step operation).1 ((cache.step operation).2 :: past) := by
  cases operation with
  | get key now => exact reflects.get key now
  | put key value size now => exact reflects.put key value size now

end Step

/-! ### The cache keeps to its specification -/

/-- An accepted put, an eviction or an expiry that is noticed ends what was under a key. -/
def Event.ends (key : Key) : Event Key Value Time → Prop
  | .put other _ _ evicted => key = other ∨ key ∈ evicted
  | .expired other => key = other
  | .hit _ | .missed _ | .rejected => False

theorem run_append (cache : TTLCache Key Value Time) (operations : List (Operation Key Value Time))
    (operation : Operation Key Value Time) :
    cache.run (operations ++ [operation]) =
      (((cache.run operations).1.step operation).1,
        ((cache.run operations).1.step operation).2 :: (cache.run operations).2) := by
  unfold run
  rw [List.foldl_append]
  rfl

end TTLCache

end LocalGpuCluster
