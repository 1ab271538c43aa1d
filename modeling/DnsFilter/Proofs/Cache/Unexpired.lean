import DnsFilter.Proofs.Cache.Queue
import Mathlib.Data.Finset.Card

/-!
# What of a cache has not expired

A lookup only tells of entries that have not expired. What these are does not depend on when expired
entries are removed, unless they take room that is needed: a full cache evicts the entry whose key
came in first, be it expired or not. So two caches are compared which have room for all keys that
are ever used.
-/

namespace DnsFilter

namespace ResponseCache

/-- The response under a key and the end of its validity, as long as it is valid. -/
def unexpired? (cache : ResponseCache) (now : Nat) (key : String) :
    Option (CachedResponse × Nat) :=
  (cache.entries[key]?.map fun entry => (entry.response, entry.expiresAt)).filter (now < ·.2)

section

variable (cache : ResponseCache) (now : Nat) (key : String)

theorem valid?_eq_map_unexpired? :
    cache.valid? now key = (cache.unexpired? now key).map Prod.fst := by
  unfold valid? unexpired?
  cases cache.entries[key]? with
  | none => rfl
  | some entry => by_cases valid : now < entry.expiresAt <;> simp [Option.filter_some, valid]

theorem unexpired?_add (duration : Nat) :
    cache.unexpired? (now + duration) key =
      (cache.unexpired? now key).filter (now + duration < ·.2) := by
  simp only [unexpired?, Option.filter_filter]
  congr 1
  funext content
  by_cases valid : now + duration < content.2
  · have before : now < content.2 := by omega
    simp [valid, before]
  · simp [valid]

theorem unexpired?_get (other : String) :
    (cache.get now key).1.unexpired? now other = cache.unexpired? now other := by
  simp only [unexpired?, getElem?_entries_get]
  cases cache.entries[other]? with
  | none => rfl
  | some entry => by_cases valid : now < entry.expiresAt <;> by_cases same : other = key <;>
      simp [Option.filter_some, valid, same]

theorem unexpired?_purge :
    (cache.purge now).1.unexpired? now key = cache.unexpired? now key := by
  simp only [unexpired?, getElem?_entries_purge]
  cases cache.entries[key]? with
  | none => rfl
  | some entry => by_cases valid : now < entry.expiresAt <;> simp [Option.filter_some, valid]

end

/-- That a cache holds none but some keys, and has room for all of them. -/
structure HasRoom (keys : Finset String) (cache : ResponseCache) : Prop where
  known : ∀ {key entry}, cache.entries[key]? = some entry → key ∈ keys
  capacity : keys.card ≤ cache.capacity

namespace HasRoom

variable {keys : Finset String} {cache : ResponseCache} {key : String}

theorem of_sheds {now : Nat} {shed : ResponseCache} (room : cache.HasRoom keys)
    (sheds : Sheds now cache shed) : shed.HasRoom keys := by
  refine ⟨fun found => room.known (sheds.entry_of_entry found), ?_⟩
  rw [sheds.capacity_eq]
  exact room.capacity

theorem set (room : cache.HasRoom keys) (member : key ∈ keys) (now : Nat)
    (response : CachedResponse) (lifetime : Nat) :
    (cache.set now key response lifetime).1.HasRoom keys := by
  refine ⟨?_, ?_⟩
  · intro other entry found
    rcases entry_of_entry_set found with ⟨_, same, _⟩ | ⟨_, before⟩
    · rw [same]
      exact member
    · exact room.known before
  · rw [capacity_set]
    exact room.capacity

/-- While one of the keys is absent, the cache is not full. -/
theorem size_lt (room : cache.HasRoom keys) (member : key ∈ keys)
    (absent : cache.entries[key]? = none) : cache.entries.size < cache.capacity := by
  have others : cache.entries.keys.toFinset ⊆ keys.erase key := by
    intro other present
    simp only [List.mem_toFinset, Std.TreeMap.mem_keys, Std.TreeMap.mem_iff_isSome_getElem?,
      Option.isSome_iff_exists] at present
    rcases present with ⟨entry, found⟩
    apply Finset.mem_erase.2
    refine ⟨?_, room.known found⟩
    intro same
    simp [same, absent] at found
  calc
    cache.entries.size = cache.entries.keys.toFinset.card := by
      rw [List.toFinset_card_of_nodup Std.TreeMap.nodup_keys, Std.TreeMap.length_keys]
    _ ≤ (keys.erase key).card := Finset.card_le_card others
    _ < keys.card := Finset.card_erase_lt_of_mem member
    _ ≤ cache.capacity := room.capacity

/-- Storing under one of the keys evicts nothing. -/
theorem exists_entries_set (room : cache.HasRoom keys) (member : key ∈ keys) {lifetime : Nat}
    (accepted : lifetime ≠ 0) (now : Nat) (response : CachedResponse) :
    ∃ sequence, (cache.set now key response lifetime).1.entries =
      cache.entries.insert key ⟨response, now + lifetime, sequence⟩ := by
  rw [ResponseCache.set, if_neg accepted, ResponseCache.store]
  cases found : cache.entries[key]? with
  | some entry => exact ⟨entry.sequence, rfl⟩
  | none =>
      refine ⟨cache.nextSequence, ?_⟩
      simp only [insertNew, makeRoom_of_room (room.size_lt member found)]

theorem unexpired?_set (room : cache.HasRoom keys) (member : key ∈ keys) {lifetime : Nat}
    (accepted : lifetime ≠ 0) (now : Nat) (response : CachedResponse) (other : String) :
    (cache.set now key response lifetime).1.unexpired? now other =
      if other = key then some (response, now + lifetime) else cache.unexpired? now other := by
  rcases room.exists_entries_set member accepted now response with ⟨sequence, stored⟩
  simp only [unexpired?, stored, Std.TreeMap.getElem?_insert]
  by_cases same : other = key
  · have lasting : now < now + lifetime := by omega
    simp [same, Option.filter_some, lasting]
  · simp [same, Ne.symm same]

end HasRoom

/-- That two caches with room for some keys hold the same, but for what has expired. -/
structure SameUnexpired (keys : Finset String) (now : Nat) (cache other : ResponseCache) :
    Prop where
  lifetime : cache.lifetime = other.lifetime
  room : cache.HasRoom keys
  otherRoom : other.HasRoom keys
  unexpired : ∀ key, cache.unexpired? now key = other.unexpired? now key

namespace SameUnexpired

variable {keys : Finset String} {now : Nat} {cache other : ResponseCache}

theorem valid? (same : SameUnexpired keys now cache other) (key : String) :
    cache.valid? now key = other.valid? now key := by
  rw [valid?_eq_map_unexpired?, valid?_eq_map_unexpired?, same.unexpired]

theorem later (same : SameUnexpired keys now cache other) (duration : Nat) :
    SameUnexpired keys (now + duration) cache other := by
  refine ⟨same.lifetime, same.room, same.otherRoom, ?_⟩
  intro key
  rw [unexpired?_add, unexpired?_add, same.unexpired]

theorem get (same : SameUnexpired keys now cache other) (key : String) :
    SameUnexpired keys now (cache.get now key).1 (other.get now key).1 := by
  refine ⟨?_, ?_, ?_, ?_⟩
  · rw [lifetime_get, lifetime_get]
    exact same.lifetime
  · exact same.room.of_sheds ((Sheds.refl cache).get (Nat.le_refl now) key)
  · exact same.otherRoom.of_sheds ((Sheds.refl other).get (Nat.le_refl now) key)
  · intro looked
    rw [unexpired?_get, unexpired?_get]
    exact same.unexpired looked

theorem set (same : SameUnexpired keys now cache other) {key : String} (member : key ∈ keys)
    (response : CachedResponse) (lifetime : Nat) :
    SameUnexpired keys now (cache.set now key response lifetime).1
      (other.set now key response lifetime).1 := by
  by_cases refused : lifetime = 0
  · rw [set_of_zero refused, set_of_zero refused]
    exact same
  · refine ⟨?_, same.room.set member .., same.otherRoom.set member .., ?_⟩
    · rw [lifetime_set, lifetime_set]
      exact same.lifetime
    · intro looked
      rw [same.room.unexpired?_set member refused, same.otherRoom.unexpired?_set member refused,
        same.unexpired]

/-- Purging one of the caches is not noticed. -/
theorem purge (same : SameUnexpired keys now cache other) :
    SameUnexpired keys now (cache.purge now).1 other := by
  refine ⟨same.lifetime, ?_, same.otherRoom, ?_⟩
  · exact same.room.of_sheds ((Sheds.refl cache).purge (Nat.le_refl now))
  · intro key
    rw [unexpired?_purge]
    exact same.unexpired key

end SameUnexpired

end ResponseCache

end DnsFilter
