import DnsFilter.Proofs.Cache.FirstInFirstOut
import Mathlib.Data.List.Nodup

/-!
# The bookkeeping of a response cache

Looking up and purging remove entries and leave their items in the queue, and a key that comes in
again gets a new item behind the old one, so stale items pile up. Compacting keeps their number
within bounds: the queue never holds more than twice as many items as the cache may hold entries.
Each entry has one item, and eviction removes the entry with the least number.
-/

namespace DnsFilter

namespace ResponseCache

/-- That the entry under a key has the least number. -/
def IsOldest (entries : Std.TreeMap String CacheEntry) (key : String) : Prop :=
  ∃ entry, entries[key]? = some entry ∧
    ∀ other present, entries[other]? = some present → other ≠ key →
      entry.sequence < present.sequence

section InStep

variable {entries : Std.TreeMap String CacheEntry} {order : List (String × Nat)}

theorem nodup_order (inStep : InStep entries order) : order.Nodup :=
  inStep.ascending.imp fun ascends same => Nat.ne_of_lt ascends (congrArg Prod.snd same)

/-- Each entry has one item. -/
theorem count_item (inStep : InStep entries order) {key : String} {entry : CacheEntry}
    (found : entries[key]? = some entry) : order.count (key, entry.sequence) = 1 :=
  List.count_eq_one_of_mem (nodup_order inStep) (inStep.queued found)

/-- Without its stale items a queue is as long as there are entries. -/
theorem length_filter_isCurrent (inStep : InStep entries order) :
    (order.filter (isCurrent entries)).length = entries.size := by
  rw [← length_fifoItems inStep, fifoItems, List.length_filterMap_eq_countP,
    ← List.countP_eq_length_filter]
  simp only [isSome_fifoItem?]

theorem length_compact_le {capacity : Nat} (inStep : InStep entries order)
    (bounded : entries.size ≤ capacity) :
    (compact capacity entries order).length ≤ capacity * 2 := by
  unfold compact
  split
  · rw [length_filter_isCurrent inStep]
    omega
  · omega

/-- Eviction removes the oldest entry, and no other. -/
theorem evictOldest_isOldest (inStep : InStep entries order) (nonempty : 0 < entries.size) :
    ∃ key rest, IsOldest entries key ∧
      evictOldest entries order = (entries.erase key, rest, true) ∧
      (entries.erase key).size + 1 = entries.size := by
  rcases evictOldest_of_inStep inStep nonempty with
    ⟨stale, item, rest, rfl, passed, current, evicted⟩
  rcases isCurrent_iff.1 current with ⟨entry, found, number⟩
  refine ⟨item.1, rest, ⟨entry, found, ?_⟩, evicted, size_erase_of_isCurrent current⟩
  intro other present foundOther different
  have queued := inStep.queued foundOther
  rw [List.mem_append, List.mem_cons] at queued
  rcases queued with inStale | isItem | inRest
  · have itself : isCurrent entries (other, present.sequence) = true :=
      isCurrent_iff.2 ⟨present, foundOther, rfl⟩
    rw [passed _ inStale] at itself
    contradiction
  · exact absurd (congrArg Prod.fst isItem) different
  · rw [number]
    exact (List.pairwise_cons.1 (List.pairwise_append.1 inStep.ascending).2.1).1 _ inRest

end InStep

/-- Adding an entry leaves a short queue, however long it was: it is compacted in time. -/
theorem Consistent.length_order_insertNew {cache : ResponseCache} (consistent : cache.Consistent)
    (key : String) (response : CachedResponse) (expiresAt : Nat) :
    (cache.insertNew key response expiresAt).order.length ≤ cache.capacity * 2 := by
  unfold ResponseCache.insertNew
  split
  next entries order made =>
    rcases consistent.makeRoom made with ⟨inStep, numbered, room⟩
    exact length_compact_le (inStep.push key ⟨response, expiresAt, cache.nextSequence⟩ numbered)
      (Nat.le_trans Std.TreeMap.size_insert_le room)

/-- A consistent cache whose queue is no longer than twice the capacity. -/
structure Bookkept (cache : ResponseCache) : Prop where
  consistent : cache.Consistent
  length_le : cache.order.length ≤ cache.capacity * 2

namespace Bookkept

variable {cache : ResponseCache}

theorem new (capacity lifetime : Nat) : (ResponseCache.new capacity lifetime).Bookkept where
  consistent := consistent_new capacity lifetime
  length_le := Nat.zero_le _

theorem get (bookkept : cache.Bookkept) (now : Nat) (key : String) :
    (cache.get now key).1.Bookkept where
  consistent := bookkept.consistent.get now key
  length_le := by
    rw [capacity_get]
    unfold ResponseCache.get
    split
    · exact bookkept.length_le
    · split <;> exact bookkept.length_le

theorem purge (bookkept : cache.Bookkept) (now : Nat) : (cache.purge now).1.Bookkept where
  consistent := bookkept.consistent.purge now
  length_le := bookkept.length_le

theorem set (bookkept : cache.Bookkept) (now : Nat) (key : String) (response : CachedResponse)
    (lifetime : Nat) : (cache.set now key response lifetime).1.Bookkept where
  consistent := bookkept.consistent.set now key response lifetime
  length_le := by
    rw [capacity_set]
    unfold ResponseCache.set ResponseCache.store
    split
    · exact bookkept.length_le
    · dsimp only
      split
      · exact bookkept.length_le
      · exact bookkept.consistent.length_order_insertNew key response (now + lifetime)

/-- Every operation keeps the books of a cache. -/
theorem perform {state : Timed ResponseCache} (bookkept : state.cache.Bookkept)
    (operation : CacheOperation) : (ResponseCache.perform state operation).1.cache.Bookkept := by
  cases operation with
  | set key response lifetime => exact bookkept.set state.now key response lifetime
  | get key => exact bookkept.get state.now key
  | purge => exact bookkept.purge state.now
  | size => exact bookkept
  | advance duration => exact bookkept

theorem after {state : Timed ResponseCache} (bookkept : state.cache.Bookkept)
    (operations : List CacheOperation) :
    (CacheOperation.after ResponseCache.perform state operations).cache.Bookkept := by
  induction operations generalizing state with
  | nil => exact bookkept
  | cons operation operations ih => exact ih (bookkept.perform operation)

end Bookkept

@[simp]
theorem capacity_perform (state : Timed ResponseCache) (operation : CacheOperation) :
    (perform state operation).1.cache.capacity = state.cache.capacity := by
  cases operation with
  | set key response lifetime => exact capacity_set _ _ _ _ _
  | get key => exact capacity_get _ _ _
  | purge | size | advance => rfl

theorem capacity_after (state : Timed ResponseCache) (operations : List CacheOperation) :
    (CacheOperation.after perform state operations).cache.capacity = state.cache.capacity := by
  induction operations generalizing state with
  | nil => rfl
  | cons operation operations ih => exact (ih _).trans (capacity_perform state operation)

/-- Whatever is done with a cache from the start, the numbers in its queue ascend and are below the
next one, each entry has one item, there are no more entries than the capacity allows and no more
items than twice as many, and as long as there are entries, eviction removes the one with the least
number, and no other. -/
theorem bookkeeping_is_kept (capacity lifetime : Nat) (operations : List CacheOperation) :
    let cache := (CacheOperation.after perform { cache := new capacity lifetime } operations).cache
    (cache.order.Pairwise fun earlier later => earlier.2 < later.2) ∧
    (∀ item ∈ cache.order, item.2 < cache.nextSequence) ∧
    (∀ key entry, cache.entries[key]? = some entry →
      cache.order.count (key, entry.sequence) = 1) ∧
    cache.entries.size ≤ max capacity 1 ∧
    cache.order.length ≤ 2 * max capacity 1 ∧
    (0 < cache.entries.size → ∃ key rest, IsOldest cache.entries key ∧
      evictOldest cache.entries cache.order = (cache.entries.erase key, rest, true) ∧
      (cache.entries.erase key).size + 1 = cache.entries.size) := by
  intro cache
  have bookkept : cache.Bookkept := (Bookkept.new capacity lifetime).after operations
  have sameCapacity : cache.capacity = max capacity 1 := capacity_after _ operations
  rcases bookkept with ⟨⟨inStep, numbered, bounded⟩, short⟩
  rw [sameCapacity] at bounded short
  refine ⟨inStep.ascending, numbered, ?_, bounded, by omega, evictOldest_isOldest inStep⟩
  intro key entry found
  exact count_item inStep found

/-- In a cache of two, an entry expires and its key comes in again while its old item is still in
front. Eviction passes over that item and removes the other entry. -/
theorem bookkeeping_is_kept_on_sample :
    let operations : List CacheOperation :=
      [.set "a" .failed 1, .set "b" .failed 9, .advance 1, .get "a", .set "a" .failed 9]
    let cache := (CacheOperation.after perform { cache := new 2 9 } operations).cache
    cache.order = [("a", 0), ("b", 1), ("a", 2)] ∧
      ∃ key, IsOldest cache.entries key ∧
        evictOldest cache.entries cache.order = (cache.entries.erase key, [("a", 2)], true) := by
  intro operations cache
  rcases (bookkeeping_is_kept 2 9 operations).2.2.2.2.2 (by decide) with
    ⟨key, rest, oldest, evicted, _⟩
  have left : (evictOldest cache.entries cache.order).2.1 = [("a", 2)] := by decide
  rw [evicted] at left
  exact ⟨by decide, key, oldest, left ▸ evicted⟩

end ResponseCache

end DnsFilter
