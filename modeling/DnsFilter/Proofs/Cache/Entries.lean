import DnsFilter.Cache.Response
import Std.Data.TreeMap.Lemmas

/-!
# The entries of a response cache

What each operation does to the entries, whatever the queue beside them holds. Looking up and
purging only drop expired entries, and eviction only drops entries, so the one way for an entry to
come in is to be stored under its key.
-/

namespace DnsFilter

namespace ResponseCache

/-- The response under a key, if it is still valid. -/
def valid? (cache : ResponseCache) (now : Nat) (key : String) : Option CachedResponse :=
  (cache.entries[key]?.filter fun entry => now < entry.expiresAt).map CacheEntry.response

theorem valid?_eq_some_iff {cache : ResponseCache} {now : Nat} {key : String}
    {response : CachedResponse} :
    cache.valid? now key = some response ↔
      ∃ entry, cache.entries[key]? = some entry ∧ now < entry.expiresAt ∧
        entry.response = response := by
  simp [valid?, Option.filter_eq_some_iff, and_assoc]

@[simp]
theorem getElem?_entries_new (capacity lifetime : Nat) (key : String) :
    (new capacity lifetime).entries[key]? = none :=
  Std.TreeMap.getElem?_emptyc

/-- What a lookup finds is the valid response. -/
@[simp]
theorem get_snd (cache : ResponseCache) (now : Nat) (key : String) :
    (cache.get now key).2 = cache.valid? now key := by
  unfold get valid?
  cases found : cache.entries[key]? with
  | none => rfl
  | some entry =>
      by_cases unexpired : now < entry.expiresAt <;> simp [Option.filter_some, unexpired]

/-- A lookup drops the entry that it comes upon if that has expired, and no other. -/
theorem getElem?_entries_get (cache : ResponseCache) (now : Nat) (key other : String) :
    (cache.get now key).1.entries[other]? =
      cache.entries[other]?.filter fun entry => other ≠ key ∨ now < entry.expiresAt := by
  by_cases same : other = key
  · subst other
    unfold get
    cases found : cache.entries[key]? with
    | none => simp [found]
    | some entry =>
        by_cases unexpired : now < entry.expiresAt <;>
          simp [Option.filter_some, found, unexpired]
  · have keeps : (cache.get now key).1.entries[other]? = cache.entries[other]? := by
      unfold get
      split
      · rfl
      · split
        · rfl
        · simp [Std.TreeMap.getElem?_erase, Ne.symm same]
    rw [keeps]
    cases cache.entries[other]? <;> simp [Option.filter_some, same]

@[simp]
theorem lifetime_get (cache : ResponseCache) (now : Nat) (key : String) :
    (cache.get now key).1.lifetime = cache.lifetime := by
  unfold get
  split
  · rfl
  · split <;> rfl

@[simp]
theorem capacity_get (cache : ResponseCache) (now : Nat) (key : String) :
    (cache.get now key).1.capacity = cache.capacity := by
  unfold get
  split
  · rfl
  · split <;> rfl

@[simp]
theorem capacity_set (cache : ResponseCache) (now : Nat) (key : String)
    (response : CachedResponse) (lifetime : Nat) :
    (cache.set now key response lifetime).1.capacity = cache.capacity := by
  unfold set store
  split
  · rfl
  · dsimp only
    split <;> rfl

@[simp]
theorem lifetime_set (cache : ResponseCache) (now : Nat) (key : String)
    (response : CachedResponse) (lifetime : Nat) :
    (cache.set now key response lifetime).1.lifetime = cache.lifetime := by
  unfold set store
  split
  · rfl
  · dsimp only
    split <;> rfl

/-- Purging drops the expired entries and no others. -/
theorem getElem?_entries_purge (cache : ResponseCache) (now : Nat) (key : String) :
    (cache.purge now).1.entries[key]? =
      cache.entries[key]?.filter fun entry => now < entry.expiresAt :=
  Std.TreeMap.getElem?_filter'

/-- What can become of a cache until an instant as long as nothing is stored: it is looked up and
purged. -/
inductive Sheds (now : Nat) : ResponseCache → ResponseCache → Prop where
  | refl (cache : ResponseCache) : Sheds now cache cache
  | get {before after : ResponseCache} (sheds : Sheds now before after) {time : Nat}
      (past : time ≤ now) (key : String) : Sheds now before (after.get time key).1
  | purge {before after : ResponseCache} (sheds : Sheds now before after) {time : Nat}
      (past : time ≤ now) : Sheds now before (after.purge time).1

namespace Sheds

variable {now : Nat} {before middle after : ResponseCache}

theorem trans (first : Sheds now before middle) (second : Sheds now middle after) :
    Sheds now before after := by
  induction second with
  | refl => exact first
  | get _ past key ih => exact ih.get past key
  | purge _ past ih => exact ih.purge past

theorem mono {later : Nat} (sheds : Sheds now before after) (past : now ≤ later) :
    Sheds later before after := by
  induction sheds with
  | refl => exact .refl _
  | get _ earlier key ih => exact ih.get (Nat.le_trans earlier past) key
  | purge _ earlier ih => exact ih.purge (Nat.le_trans earlier past)

theorem lifetime_eq (sheds : Sheds now before after) : after.lifetime = before.lifetime := by
  induction sheds with
  | refl => rfl
  | get _ _ key ih => rw [lifetime_get, ih]
  | purge _ _ ih => exact ih

theorem capacity_eq (sheds : Sheds now before after) : after.capacity = before.capacity := by
  induction sheds with
  | refl => rfl
  | get _ _ key ih => rw [capacity_get, ih]
  | purge _ _ ih => exact ih

/-- Entries only go. -/
theorem entry_of_entry (sheds : Sheds now before after) {key : String} {entry : CacheEntry}
    (found : after.entries[key]? = some entry) : before.entries[key]? = some entry := by
  induction sheds with
  | refl => exact found
  | get _ _ _ ih =>
      rw [getElem?_entries_get, Option.filter_eq_some_iff] at found
      exact ih found.1
  | purge _ _ ih =>
      rw [getElem?_entries_purge, Option.filter_eq_some_iff] at found
      exact ih found.1

end Sheds

/-- Eviction only drops entries. -/
theorem entry_of_entry_evictOldest {entries : Std.TreeMap String CacheEntry}
    {order : List (String × Nat)} {key : String} {entry : CacheEntry}
    (found : (evictOldest entries order).1[key]? = some entry) : entries[key]? = some entry := by
  induction order with
  | nil => exact found
  | cons item order ih =>
      rw [evictOldest] at found
      split at found
      · rw [Std.TreeMap.getElem?_erase] at found
        split at found
        · contradiction
        · exact found
      · exact ih found

theorem entry_of_entry_makeRoom {capacity rounds : Nat} {entries : Std.TreeMap String CacheEntry}
    {order : List (String × Nat)} {key : String} {entry : CacheEntry}
    (found : (makeRoom capacity rounds entries order).1[key]? = some entry) :
    entries[key]? = some entry := by
  induction rounds generalizing entries order with
  | zero => exact found
  | succ rounds ih =>
      rw [makeRoom] at found
      split at found
      · exact found
      · split at found
        · next left rest evicted =>
            have kept : (evictOldest entries order).1 = left := by rw [evicted]
            exact entry_of_entry_evictOldest (kept ▸ ih found)
        · next left rest emptied =>
            have kept : (evictOldest entries order).1 = left := by rw [emptied]
            exact entry_of_entry_evictOldest (kept ▸ found)

theorem set_of_zero {lifetime : Nat} (refused : lifetime = 0) (cache : ResponseCache) (now : Nat)
    (key : String) (response : CachedResponse) :
    cache.set now key response lifetime = (cache, .error .zeroTtl) := by
  rw [set, if_pos refused]

/-- Whatever the state of a cache, only a lifetime of zero is refused. -/
theorem set_snd_of_ne_zero {lifetime : Nat} (accepted : lifetime ≠ 0) (cache : ResponseCache)
    (now : Nat) (key : String) (response : CachedResponse) :
    (cache.set now key response lifetime).2 = .ok () := by
  rw [set, if_neg accepted]

/-- After storing, an entry is the new one, or it was there before under another key. A refused
lifetime leaves everything as it was. -/
theorem entry_of_entry_set {cache : ResponseCache} {now : Nat} {key other : String}
    {response : CachedResponse} {lifetime : Nat} {entry : CacheEntry}
    (found : (cache.set now key response lifetime).1.entries[other]? = some entry) :
    (lifetime ≠ 0 ∧ other = key ∧ entry.response = response ∧ entry.expiresAt = now + lifetime) ∨
      ((lifetime = 0 ∨ other ≠ key) ∧ cache.entries[other]? = some entry) := by
  unfold set store at found
  split at found
  · next refused => exact Or.inr ⟨Or.inl refused, found⟩
  · next accepted =>
      by_cases same : other = key
      · subst other
        refine Or.inl ⟨accepted, rfl, ?_⟩
        split at found
        · rw [Std.TreeMap.getElem?_insert_self] at found
          cases found
          exact ⟨rfl, rfl⟩
        · simp only [insertNew, Std.TreeMap.getElem?_insert_self] at found
          cases found
          exact ⟨rfl, rfl⟩
      · refine Or.inr ⟨Or.inr same, ?_⟩
        split at found
        · simpa [Std.TreeMap.getElem?_insert, Ne.symm same] using found
        · apply entry_of_entry_makeRoom
          simpa [insertNew, Std.TreeMap.getElem?_insert, Ne.symm same] using found

/-- What is stored is valid at once. -/
theorem valid?_set_self {lifetime : Nat} (accepted : lifetime ≠ 0) (cache : ResponseCache)
    (now : Nat) (key : String) (response : CachedResponse) :
    (cache.set now key response lifetime).1.valid? now key = some response := by
  have stored : ∃ entry, (cache.set now key response lifetime).1.entries[key]? = some entry := by
    rw [set, if_neg accepted, store]
    split
    · exact ⟨_, Std.TreeMap.getElem?_insert_self⟩
    · exact ⟨_, Std.TreeMap.getElem?_insert_self⟩
  rcases stored with ⟨entry, found⟩
  rcases entry_of_entry_set found with ⟨_, _, sameResponse, expiry⟩ | ⟨spared, _⟩
  · exact valid?_eq_some_iff.2 ⟨entry, found, by omega, sameResponse⟩
  · rcases spared with zero | otherKey
    · exact absurd zero accepted
    · exact absurd rfl otherKey

end ResponseCache

end DnsFilter
