import DnsFilter.Proofs.Cache.FirstInFirstOut
import Mathlib.Data.Finset.Card

/-!
# How long an entry stays

An entry that came in last has no others behind it. From then on only entries under new keys come to
stand behind it, and it is not the one to go before as many of them have come in as the capacity
allows. Looking up and purging do not remove it as long as it is valid.
-/

namespace DnsFilter

namespace FifoCache

/-- That an item is in a list, and that the keys behind it are among the given ones. -/
structure Retains (cache : FifoCache) (item : FifoItem) (newer : Finset String) : Prop where
  exists_split : ∃ front back, cache.items = front ++ item :: back ∧
    ∀ later ∈ back, later.key ∈ newer

namespace Retains

variable {cache : FifoCache} {item : FifoItem} {newer : Finset String}

theorem mono {more : Finset String} (retains : cache.Retains item newer) (subset : newer ⊆ more) :
    cache.Retains item more := by
  rcases retains.exists_split with ⟨front, back, split, behind⟩
  refine ⟨front, back, split, ?_⟩
  intro later present
  exact subset (behind later present)

theorem mem (retains : cache.Retains item newer) : item ∈ cache.items := by
  rcases retains.exists_split with ⟨front, back, split, _⟩
  rw [split]
  simp

/-- Keys are distinct, so the item is what is found under its key. -/
theorem item?_eq (retains : cache.Retains item newer)
    (distinct : (cache.items.map FifoItem.key).Nodup) : cache.item? item.key = some item := by
  rcases retains.exists_split with ⟨front, back, split, _⟩
  rw [split, List.map_append, List.map_cons, List.nodup_append] at distinct
  rcases distinct with ⟨_, _, apart⟩
  rw [item?, split, List.find?_append, List.find?_eq_none.2, List.find?_cons_of_pos]
  · rfl
  · simp
  · intro other present
    have different := apart other.key (List.mem_map_of_mem present) item.key (by simp)
    simpa using different

theorem filter (retains : cache.Retains item newer) {keep : FifoItem → Bool}
    (kept : keep item = true) :
    Retains { cache with items := cache.items.filter keep } item newer := by
  rcases retains.exists_split with ⟨front, back, split, behind⟩
  refine ⟨front.filter keep, back.filter keep, ?_, ?_⟩
  · simp only [split, List.filter_append, List.filter_cons_of_pos kept]
  · intro later present
    exact behind later (List.mem_of_mem_filter present)

theorem get (retains : cache.Retains item newer)
    (distinct : (cache.items.map FifoItem.key).Nodup) {now : Nat}
    (unexpired : now < item.expiresAt) (key : String) :
    (cache.get now key).1.Retains item newer := by
  unfold FifoCache.get
  split
  · exact retains
  · next found located =>
      split
      · exact retains
      · next expired =>
          apply retains.filter
          rw [bne_iff_ne]
          intro same
          rw [← same, retains.item?_eq distinct] at located
          cases located
          exact expired unexpired

theorem purge (retains : cache.Retains item newer) {now : Nat}
    (unexpired : now < item.expiresAt) : (cache.purge now).1.Retains item newer := by
  apply retains.filter
  simpa using unexpired

/-- In a full list the item is not in front yet, as long as fewer keys came in than there can be
items: the keys behind it and the new one are distinct. -/
theorem front_ne_nil {front back : List FifoItem} {added : FifoItem}
    (distinct : (back.map FifoItem.key).Nodup) (absent : added.key ∉ back.map FifoItem.key)
    (behind : ∀ later ∈ back, later.key ∈ newer)
    (fewer : (insert added.key newer).card < cache.capacity)
    (split : cache.items = front ++ item :: back) (full : cache.capacity ≤ cache.items.length) :
    front ≠ [] := by
  rintro rfl
  have within : insert added.key (back.map FifoItem.key).toFinset ⊆ insert added.key newer := by
    apply Finset.insert_subset_insert
    intro key present
    rcases List.mem_map.1 (List.mem_toFinset.1 present) with ⟨later, isBehind, rfl⟩
    exact behind later isBehind
  have count := Finset.card_le_card within
  rw [Finset.card_insert_of_notMem (by simpa using absent), List.toFinset_card_of_nodup distinct,
    List.length_map] at count
  rw [split, List.nil_append, List.length_cons] at full
  omega

theorem append (retains : cache.Retains item newer)
    (distinct : (cache.items.map FifoItem.key).Nodup) {added : FifoItem}
    (absent : added.key ∉ cache.items.map FifoItem.key)
    (fewer : (insert added.key newer).card < cache.capacity) :
    Retains { cache with items := FifoCache.append cache.capacity cache.items added } item
      (insert added.key newer) := by
  rcases retains.exists_split with ⟨front, back, split, behind⟩
  have behindAdded (later : FifoItem) (present : later ∈ back ++ [added]) :
      later.key ∈ insert added.key newer := by
    rcases List.mem_append.1 present with old | new
    · exact Finset.mem_insert_of_mem (behind later old)
    · rw [List.mem_singleton.1 new]
      exact Finset.mem_insert_self _ _
  by_cases room : cache.items.length < cache.capacity
  · refine ⟨front, back ++ [added], ?_, behindAdded⟩
    simp only [FifoCache.append, if_pos room]
    simp [split]
  · rw [split, List.map_append, List.map_cons] at distinct absent
    have backDistinct : (back.map FifoItem.key).Nodup :=
      (List.nodup_cons.1 (List.nodup_append.1 distinct).2.1).2
    have notBehind : added.key ∉ back.map FifoItem.key := by
      intro present
      exact absent (List.mem_append_right _ (List.mem_cons_of_mem _ present))
    have nonempty := front_ne_nil backDistinct notBehind behind fewer split (by omega)
    obtain ⟨first, rest, rfl⟩ := List.exists_cons_of_ne_nil nonempty
    refine ⟨rest, back ++ [added], ?_, behindAdded⟩
    simp only [FifoCache.append, if_neg room]
    simp [split]

end Retains

end FifoCache

namespace ResponseCache

/-- The list that a cache stands for. -/
def toFifo (cache : ResponseCache) : FifoCache :=
  { capacity := cache.capacity, items := fifoItems cache.entries cache.order }

theorem Consistent.refines {cache : ResponseCache} (consistent : cache.Consistent) :
    Refines cache cache.toFifo :=
  ⟨consistent, rfl, rfl⟩

theorem Refines.eq_toFifo {cache : ResponseCache} {fifo : FifoCache}
    (refines : Refines cache fifo) : fifo = cache.toFifo := by
  rcases fifo with ⟨capacity, items⟩
  rw [toFifo, FifoCache.mk.injEq]
  exact ⟨refines.capacity, refines.items⟩

/-- That a cache holds what an item says, and that the keys of the entries that came in after it are
among the given ones. -/
structure Retains (cache : ResponseCache) (item : FifoItem) (newer : Finset String) : Prop where
  consistent : cache.Consistent
  items : cache.toFifo.Retains item newer

namespace Retains

variable {cache after : ResponseCache} {item : FifoItem} {newer : Finset String}

theorem mono {more : Finset String} (retains : cache.Retains item newer) (subset : newer ⊆ more) :
    cache.Retains item more :=
  ⟨retains.consistent, retains.items.mono subset⟩

theorem exists_entry (retains : cache.Retains item newer) :
    ∃ entry, cache.entries[item.key]? = some entry ∧ entry.fifoItem item.key = item :=
  (mem_fifoItems_iff retains.consistent.inStep).1 retains.items.mem

theorem valid?_eq (retains : cache.Retains item newer) {now : Nat}
    (unexpired : now < item.expiresAt) : cache.valid? now item.key = some item.response := by
  rcases retains.exists_entry with ⟨entry, found, same⟩
  rw [valid?_eq_some_iff]
  refine ⟨entry, found, ?_, ?_⟩
  · rw [← same] at unexpired
    exact unexpired
  · rw [← same]
    rfl

theorem of_sheds {now : Nat} (retains : cache.Retains item newer)
    (sheds : Sheds now cache after) (unexpired : now < item.expiresAt) :
    after.Retains item newer := by
  induction sheds with
  | refl => exact retains
  | @get middle _ time past key ih =>
      refine ⟨ih.consistent.get time key, ?_⟩
      have refines := ih.consistent.refines
      rw [← (refines.get time key).1.eq_toFifo]
      exact ih.items.get refines.nodup_keys (Nat.lt_of_le_of_lt past unexpired) key
  | @purge middle _ time past ih =>
      refine ⟨ih.consistent.purge time, ?_⟩
      rw [← (ih.consistent.refines.purge time).1.eq_toFifo]
      exact ih.items.purge (Nat.lt_of_le_of_lt past unexpired)

end Retains

section Set

variable {cache : ResponseCache} {now lifetime : Nat} {key : String} {response : CachedResponse}

/-- Storing under an absent key appends an item to the list. -/
theorem toFifo_set_of_absent (consistent : cache.Consistent) (accepted : lifetime ≠ 0)
    (absent : cache.entries[key]? = none) :
    (cache.set now key response lifetime).1.toFifo =
      { cache.toFifo with
        items := FifoCache.append cache.capacity cache.toFifo.items
          { key, response, expiresAt := now + lifetime } } := by
  have refines := consistent.refines
  rw [← (refines.set now key response lifetime).1.eq_toFifo]
  simp only [FifoCache.set, FifoCache.store, refines.item?, absent, accepted, if_false,
    Option.map_none, Option.isSome_none, Bool.false_eq_true]
  rfl

theorem notMem_keys_toFifo (consistent : cache.Consistent)
    (absent : cache.entries[key]? = none) : key ∉ cache.toFifo.items.map FifoItem.key := by
  intro present
  rcases List.mem_map.1 present with ⟨item, isItem, rfl⟩
  rcases (mem_fifoItems_iff consistent.inStep).1 isItem with ⟨entry, found, _⟩
  rw [absent] at found
  contradiction

/-- What was just stored under an absent key has nothing behind it. -/
theorem retains_set_of_absent (consistent : cache.Consistent) (accepted : lifetime ≠ 0)
    (absent : cache.entries[key]? = none) :
    (cache.set now key response lifetime).1.Retains
      { key, response, expiresAt := now + lifetime } ∅ := by
  refine ⟨consistent.set now key response lifetime, ?_⟩
  rw [toFifo_set_of_absent consistent accepted absent]
  exact ⟨_, [], rfl, by simp⟩

/-- An item stays when something is stored under an absent key, as long as fewer keys came in than
there can be items. -/
theorem Retains.set_of_absent {item : FifoItem} {newer : Finset String}
    (retains : cache.Retains item newer) (accepted : lifetime ≠ 0)
    (absent : cache.entries[key]? = none) (fewer : (insert key newer).card < cache.capacity) :
    (cache.set now key response lifetime).1.Retains item (insert key newer) := by
  refine ⟨retains.consistent.set now key response lifetime, ?_⟩
  rw [toFifo_set_of_absent retains.consistent accepted absent]
  exact retains.items.append retains.consistent.refines.nodup_keys
    (notMem_keys_toFifo retains.consistent absent) fewer

end Set

end ResponseCache

end DnsFilter
