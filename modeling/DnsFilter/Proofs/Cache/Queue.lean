import DnsFilter.Cache.Operation
import DnsFilter.Proofs.Cache.Entries

/-!
# The queue of a response cache

The queue beside the entries may hold stale items, but every entry has an item in it, the numbers in
it ascend, and no number has been given out twice. Eviction therefore always finds the entry whose
key came in first, and there are never more entries than the capacity allows.
-/

namespace DnsFilter

namespace ResponseCache

theorem isCurrent_iff {entries : Std.TreeMap String CacheEntry} {item : String × Nat} :
    isCurrent entries item = true ↔
      ∃ entry, entries[item.1]? = some entry ∧ entry.sequence = item.2 := by
  simp [isCurrent, Option.any_eq_true]

/-- A queue and the entries that it is kept for: numbers ascend, and each entry has its item. -/
structure InStep (entries : Std.TreeMap String CacheEntry) (order : List (String × Nat)) :
    Prop where
  ascending : order.Pairwise fun earlier later => earlier.2 < later.2
  queued : ∀ {key : String} {entry : CacheEntry}, entries[key]? = some entry →
    (key, entry.sequence) ∈ order

namespace InStep

variable {entries : Std.TreeMap String CacheEntry} {order : List (String × Nat)}

/-- A queue stays in step when entries go. -/
theorem of_fewer_entries {fewer : Std.TreeMap String CacheEntry} (inStep : InStep entries order)
    (kept : ∀ {key : String} {entry : CacheEntry}, fewer[key]? = some entry →
      entries[key]? = some entry) :
    InStep fewer order :=
  ⟨inStep.ascending, fun found => inStep.queued (kept found)⟩

/-- A queue stays in step when stale items go. -/
theorem of_fewer_items {fewer : List (String × Nat)} (inStep : InStep entries order)
    (sublist : fewer.Sublist order)
    (kept : ∀ item ∈ order, isCurrent entries item = true → item ∈ fewer) :
    InStep entries fewer := by
  refine ⟨inStep.ascending.sublist sublist, ?_⟩
  intro key entry found
  exact kept _ (inStep.queued found) (isCurrent_iff.2 ⟨entry, found, rfl⟩)

theorem erase (inStep : InStep entries order) (key : String) :
    InStep (entries.erase key) order := by
  apply inStep.of_fewer_entries
  intro other entry found
  rw [Std.TreeMap.getElem?_erase] at found
  split at found
  · contradiction
  · exact found

/-- Renewing an entry under its number keeps the queue in step. -/
theorem renew {key : String} {entry : CacheEntry} (inStep : InStep entries order)
    (found : entries[key]? = some entry) (renewed : CacheEntry)
    (sameNumber : renewed.sequence = entry.sequence) :
    InStep (entries.insert key renewed) order := by
  refine ⟨inStep.ascending, ?_⟩
  intro other present foundOther
  rw [Std.TreeMap.getElem?_insert] at foundOther
  split at foundOther
  · next same =>
      obtain rfl : key = other := by simpa using same
      obtain rfl : renewed = present := by simpa using foundOther
      rw [sameNumber]
      exact inStep.queued found
  · exact inStep.queued foundOther

/-- Adding an entry under a number beyond all others keeps the queue in step. -/
theorem push (inStep : InStep entries order) (key : String) (added : CacheEntry)
    (beyond : ∀ item ∈ order, item.2 < added.sequence) :
    InStep (entries.insert key added) (order ++ [(key, added.sequence)]) := by
  refine ⟨?_, ?_⟩
  · rw [List.pairwise_append]
    refine ⟨inStep.ascending, List.pairwise_singleton _ _, ?_⟩
    intro item present last isLast
    obtain rfl : last = (key, added.sequence) := by simpa using isLast
    exact beyond item present
  · intro other entry found
    rw [Std.TreeMap.getElem?_insert] at found
    split at found
    · next same =>
        obtain rfl : key = other := by simpa using same
        obtain rfl : added = entry := by simpa using found
        simp
    · exact List.mem_append_left _ (inStep.queued found)

end InStep

/-- Eviction passes over stale items and takes the first one that is current; without one, it comes
to the end of the queue. -/
theorem evictOldest_cases (entries : Std.TreeMap String CacheEntry) (order : List (String × Nat)) :
    (∃ stale item rest, order = stale ++ item :: rest ∧
        (∀ passed ∈ stale, isCurrent entries passed = false) ∧ isCurrent entries item = true ∧
        evictOldest entries order = (entries.erase item.1, rest, true)) ∨
      ((∀ item ∈ order, isCurrent entries item = false) ∧
        evictOldest entries order = (entries, [], false)) := by
  induction order with
  | nil => exact Or.inr ⟨by simp, rfl⟩
  | cons first order ih =>
      rw [evictOldest]
      cases current : isCurrent entries first with
      | true => exact Or.inl ⟨[], first, order, rfl, by simp, current, rfl⟩
      | false =>
          rcases ih with ⟨stale, item, rest, rfl, passed, itemCurrent, evicted⟩ | ⟨passed, emptied⟩
          · refine Or.inl ⟨first :: stale, item, rest, rfl, ?_, itemCurrent, evicted⟩
            simpa [current] using passed
          · refine Or.inr ⟨?_, emptied⟩
            simpa [current] using passed

/-- As long as there are entries, eviction finds one. -/
theorem evictOldest_of_inStep {entries : Std.TreeMap String CacheEntry}
    {order : List (String × Nat)} (inStep : InStep entries order) (nonempty : 0 < entries.size) :
    ∃ stale item rest, order = stale ++ item :: rest ∧
      (∀ passed ∈ stale, isCurrent entries passed = false) ∧ isCurrent entries item = true ∧
      evictOldest entries order = (entries.erase item.1, rest, true) := by
  rcases evictOldest_cases entries order with found | ⟨stale, _⟩
  · exact found
  · have notEmpty : entries.isEmpty = false := by
      rw [Std.TreeMap.isEmpty_eq_size_eq_zero]
      simpa using Nat.ne_of_gt nonempty
    rcases Std.TreeMap.isEmpty_eq_false_iff_exists_mem.1 notEmpty with ⟨key, present⟩
    rcases Option.isSome_iff_exists.1 (Std.TreeMap.mem_iff_isSome_getElem?.1 present) with
      ⟨entry, found⟩
    have current : isCurrent entries (key, entry.sequence) = true :=
      isCurrent_iff.2 ⟨entry, found, rfl⟩
    rw [stale _ (inStep.queued found)] at current
    contradiction

/-- Evicting the first current item keeps the queue behind it in step. -/
theorem InStep.evict {entries : Std.TreeMap String CacheEntry} {stale rest : List (String × Nat)}
    {item : String × Nat} (inStep : InStep entries (stale ++ item :: rest))
    (passed : ∀ passed ∈ stale, isCurrent entries passed = false) :
    InStep (entries.erase item.1) rest := by
  refine ⟨?_, ?_⟩
  · refine List.Pairwise.sublist ?_ inStep.ascending
    exact (List.sublist_cons_self item rest).trans (List.sublist_append_right _ _)
  · intro key entry found
    rw [Std.TreeMap.getElem?_erase] at found
    split at found
    · contradiction
    · next different =>
        have current : isCurrent entries (key, entry.sequence) = true :=
          isCurrent_iff.2 ⟨entry, found, rfl⟩
        have present := inStep.queued found
        rw [List.mem_append, List.mem_cons] at present
        rcases present with inStale | isItem | inRest
        · rw [passed _ inStale] at current
          contradiction
        · have same : item.1 = key := by rw [← isItem]
          simp [same] at different
        · exact inRest

theorem compact_sublist (capacity : Nat) (entries : Std.TreeMap String CacheEntry)
    (order : List (String × Nat)) : (compact capacity entries order).Sublist order := by
  unfold compact
  split
  · exact List.filter_sublist
  · exact List.Sublist.refl order

/-- Compacting a queue leaves its current items. -/
theorem InStep.compact {entries : Std.TreeMap String CacheEntry} {order : List (String × Nat)}
    (inStep : InStep entries order) (capacity : Nat) :
    InStep entries (compact capacity entries order) := by
  apply inStep.of_fewer_items (compact_sublist capacity entries order)
  intro item present current
  unfold ResponseCache.compact
  split
  · exact List.mem_filter.2 ⟨present, current⟩
  · exact present

/-- Evicting a current item removes one entry. -/
theorem size_erase_of_isCurrent {entries : Std.TreeMap String CacheEntry} {item : String × Nat}
    (current : isCurrent entries item = true) :
    (entries.erase item.1).size + 1 = entries.size := by
  rcases isCurrent_iff.1 current with ⟨entry, found, _⟩
  rcases Std.TreeMap.getElem?_eq_some_iff.1 found with ⟨present, _⟩
  have nonempty : entries.size ≠ 0 := by
    intro empty
    rw [← beq_iff_eq, ← Std.TreeMap.isEmpty_eq_size_eq_zero] at empty
    exact Std.TreeMap.not_mem_of_isEmpty empty present
  rw [Std.TreeMap.size_erase, if_pos (Std.TreeMap.mem_iff_contains.1 present)]
  omega

theorem makeRoom_of_room {capacity : Nat} {entries : Std.TreeMap String CacheEntry}
    (room : entries.size < capacity) (rounds : Nat) (order : List (String × Nat)) :
    makeRoom capacity rounds entries order = (entries, order) := by
  cases rounds with
  | zero => rfl
  | succ rounds => simp [makeRoom, room]

/-- In a full cache whose queue is in step, room is made by evicting a single entry. -/
theorem makeRoom_of_full {capacity : Nat} {entries : Std.TreeMap String CacheEntry}
    {order : List (String × Nat)} (inStep : InStep entries order) (positive : 0 < capacity)
    (full : entries.size = capacity) :
    ∃ stale item rest, order = stale ++ item :: rest ∧
      (∀ passed ∈ stale, isCurrent entries passed = false) ∧ isCurrent entries item = true ∧
      (entries.erase item.1).size + 1 = capacity ∧
      makeRoom capacity entries.size entries order = (entries.erase item.1, rest) := by
  rcases evictOldest_of_inStep inStep (full ▸ positive) with
    ⟨stale, item, rest, split, passed, current, evicted⟩
  have size : (entries.erase item.1).size + 1 = capacity :=
    (size_erase_of_isCurrent current).trans full
  obtain ⟨rounds, rounds_eq⟩ : ∃ rounds, entries.size = rounds + 1 := ⟨capacity - 1, by omega⟩
  refine ⟨stale, item, rest, split, passed, current, size, ?_⟩
  rw [rounds_eq, makeRoom, if_neg (by omega), evicted]
  exact makeRoom_of_room (by omega) rounds rest

/-- The queue of a cache is in step with its entries, numbers yet to be given out are beyond those
in the queue, and the capacity is kept. -/
structure Consistent (cache : ResponseCache) : Prop where
  inStep : InStep cache.entries cache.order
  numbered : ∀ item ∈ cache.order, item.2 < cache.nextSequence
  bounded : cache.entries.size ≤ cache.capacity

theorem consistent_new (capacity lifetime : Nat) : (new capacity lifetime).Consistent where
  inStep := ⟨List.Pairwise.nil, fun found => by simp at found⟩
  numbered := by simp [new]
  bounded := by simp [new]

namespace Consistent

variable {cache : ResponseCache}

theorem get (consistent : cache.Consistent) (now : Nat) (key : String) :
    (cache.get now key).1.Consistent := by
  unfold ResponseCache.get
  split
  · exact consistent
  · split
    · exact consistent
    · exact
        ⟨consistent.inStep.erase key, consistent.numbered,
          Nat.le_trans Std.TreeMap.size_erase_le consistent.bounded⟩

theorem purge (consistent : cache.Consistent) (now : Nat) : (cache.purge now).1.Consistent where
  inStep := by
    apply consistent.inStep.of_fewer_entries
    intro key entry found
    rw [getElem?_entries_purge, Option.filter_eq_some_iff] at found
    exact found.1
  numbered := consistent.numbered
  bounded := Nat.le_trans Std.TreeMap.size_filter_le_size consistent.bounded

/-- What making room leaves of a consistent cache. -/
theorem makeRoom (consistent : cache.Consistent) {entries : Std.TreeMap String CacheEntry}
    {order : List (String × Nat)}
    (made : ResponseCache.makeRoom cache.capacity cache.entries.size cache.entries cache.order =
      (entries, order)) :
    InStep entries order ∧ (∀ item ∈ order, item.2 < cache.nextSequence) ∧
      entries.size < cache.capacity := by
  have positive := cache.capacity_pos
  rcases Nat.lt_or_eq_of_le consistent.bounded with room | full
  · rw [makeRoom_of_room room] at made
    cases made
    exact ⟨consistent.inStep, consistent.numbered, room⟩
  · rcases makeRoom_of_full consistent.inStep positive full with
      ⟨stale, item, rest, split, passed, current, size, evicted⟩
    rw [evicted] at made
    cases made
    refine ⟨(split ▸ consistent.inStep).evict passed, ?_, by omega⟩
    intro other present
    apply consistent.numbered
    rw [split]
    exact List.mem_append_right _ (List.mem_cons_of_mem _ present)

theorem insertNew (consistent : cache.Consistent) (key : String) (response : CachedResponse)
    (expiresAt : Nat) : (cache.insertNew key response expiresAt).Consistent := by
  unfold ResponseCache.insertNew
  split
  next entries order made =>
    rcases consistent.makeRoom made with ⟨inStep, numbered, room⟩
    refine ⟨?_, ?_, ?_⟩
    · exact (inStep.push key ⟨response, expiresAt, cache.nextSequence⟩ numbered).compact _
    · intro item present
      rcases List.mem_append.1 ((compact_sublist _ _ _).mem present) with before | last
      · exact Nat.lt_succ_of_lt (numbered item before)
      · obtain rfl : item = (key, cache.nextSequence) := by simpa using last
        exact Nat.lt_succ_self _
    · exact Nat.le_trans Std.TreeMap.size_insert_le room

theorem store (consistent : cache.Consistent) (key : String) (response : CachedResponse)
    (expiresAt : Nat) : (cache.store key response expiresAt).Consistent := by
  unfold ResponseCache.store
  split
  · next entry found =>
      refine ⟨consistent.inStep.renew found _ rfl, consistent.numbered, ?_⟩
      rcases Std.TreeMap.getElem?_eq_some_iff.1 found with ⟨present, _⟩
      rw [Std.TreeMap.size_insert, if_pos (Std.TreeMap.mem_iff_contains.1 present)]
      exact consistent.bounded
  · exact consistent.insertNew key response expiresAt

theorem set (consistent : cache.Consistent) (now : Nat) (key : String)
    (response : CachedResponse) (lifetime : Nat) :
    (cache.set now key response lifetime).1.Consistent := by
  unfold ResponseCache.set
  split
  · exact consistent
  · exact consistent.store key response (now + lifetime)

theorem of_sheds {now : Nat} {shed : ResponseCache} (consistent : cache.Consistent)
    (sheds : Sheds now cache shed) : shed.Consistent := by
  induction sheds with
  | refl => exact consistent
  | get _ _ key ih => exact ih.get _ key
  | purge _ _ ih => exact ih.purge _

/-- Every operation keeps a cache consistent. -/
theorem perform {state : Timed ResponseCache} (consistent : state.cache.Consistent)
    (operation : CacheOperation) : (ResponseCache.perform state operation).1.cache.Consistent := by
  cases operation with
  | set key response lifetime => exact consistent.set state.now key response lifetime
  | get key => exact consistent.get state.now key
  | purge => exact consistent.purge state.now
  | size => exact consistent
  | advance duration => exact consistent

end Consistent

end ResponseCache

end DnsFilter
