import Std.Data.TreeMap
import DnsFilter.Error
import DnsFilter.Message.Basic

/-!
# Response cache

A bounded cache whose entries expire. When it is full, storing under a new key evicts the key that
was stored first; storing under a key that is present keeps its turn. Expired entries stay until
they are asked for or purged.

Beside the entries stands the order in which their keys came in, as a queue of keys with sequence
numbers. Removing an entry leaves its item in the queue; an item whose number is not that of the
stored entry is stale. Stale items are skipped by eviction and dropped once the queue has grown
beyond twice the capacity. Times are in milliseconds.
-/

namespace DnsFilter

/-- A remembered outcome for a question. -/
inductive CachedResponse where
  | answer (message : Message)
  | failed
  deriving DecidableEq, Repr

structure CacheEntry where
  response : CachedResponse
  /-- The first instant at which the entry is no longer valid. -/
  expiresAt : Nat
  /-- The number that the entry got when its key came in. -/
  sequence : Nat
  deriving DecidableEq, Repr

/-- A bounded cache of responses. -/
structure ResponseCache where
  capacity : Nat
  capacity_pos : 0 < capacity := by omega
  /-- The lifetime of an entry for which no other is given. -/
  lifetime : Nat
  entries : Std.TreeMap String CacheEntry := ∅
  /-- Keys with sequence numbers, the first one in front. -/
  order : List (String × Nat) := []
  nextSequence : Nat := 0

namespace ResponseCache

/-- An empty cache. Its capacity is at least one. -/
def new (capacity lifetime : Nat) : ResponseCache :=
  { capacity := max capacity 1, lifetime }

/-- Number of entries, expired ones included. -/
def size (cache : ResponseCache) : Nat := cache.entries.size

def isEmpty (cache : ResponseCache) : Bool := cache.size == 0

/-- Whether an item of the queue belongs to a stored entry. -/
def isCurrent (entries : Std.TreeMap String CacheEntry) (item : String × Nat) : Bool :=
  (entries[item.1]?).any fun entry => entry.sequence == item.2

/-- Looks a key up. An expired entry is removed on the way. -/
def get (cache : ResponseCache) (now : Nat) (key : String) :
    ResponseCache × Option CachedResponse :=
  match cache.entries[key]? with
  | none => (cache, none)
  | some entry =>
      if now < entry.expiresAt then (cache, some entry.response)
      else ({ cache with entries := cache.entries.erase key }, none)

/-- Removes the entry whose key came in first, along with the items of the queue up to its own. The
result tells whether there was one. -/
def evictOldest (entries : Std.TreeMap String CacheEntry) :
    List (String × Nat) → Std.TreeMap String CacheEntry × List (String × Nat) × Bool
  | [] => (entries, [], false)
  | item :: order =>
      if isCurrent entries item then (entries.erase item.1, order, true)
      else evictOldest entries order

/-- Evicts until there is room for one more entry or nothing is left to evict, at most `rounds`
times. Each round removes one entry, so as many rounds as there are entries suffice. -/
def makeRoom (capacity : Nat) : (rounds : Nat) → Std.TreeMap String CacheEntry →
    List (String × Nat) → Std.TreeMap String CacheEntry × List (String × Nat)
  | 0, entries, order => (entries, order)
  | rounds + 1, entries, order =>
      if entries.size < capacity then (entries, order)
      else
        match evictOldest entries order with
        | (entries, order, true) => makeRoom capacity rounds entries order
        | (entries, order, false) => (entries, order)

/-- Drops the stale items of the queue once it has outgrown the cache. -/
def compact (capacity : Nat) (entries : Std.TreeMap String CacheEntry)
    (order : List (String × Nat)) : List (String × Nat) :=
  if capacity * 2 < order.length then order.filter (isCurrent entries) else order

/-- Adds an entry under a key that is absent, after making room. -/
def insertNew (cache : ResponseCache) (key : String) (response : CachedResponse)
    (expiresAt : Nat) : ResponseCache :=
  let (entries, order) := makeRoom cache.capacity cache.entries.size cache.entries cache.order
  let entries := entries.insert key ⟨response, expiresAt, cache.nextSequence⟩
  { cache with
    entries
    order := compact cache.capacity entries (order ++ [(key, cache.nextSequence)])
    nextSequence := cache.nextSequence + 1 }

/-- Stores a response under a key until the given instant. -/
def store (cache : ResponseCache) (key : String) (response : CachedResponse) (expiresAt : Nat) :
    ResponseCache :=
  match cache.entries[key]? with
  | some entry =>
      { cache with entries := cache.entries.insert key { entry with response, expiresAt } }
  | none => cache.insertNew key response expiresAt

/-- Stores a response under a key for the given lifetime. A lifetime of zero is refused; being full
never is a reason to refuse. Numbers have no bounds here; on a machine that cannot hold the instant
or the length that storing takes, `setOn` breaks off instead. -/
def set (cache : ResponseCache) (now : Nat) (key : String) (response : CachedResponse)
    (lifetime : Nat) : ResponseCache × Except Error Unit :=
  if lifetime = 0 then (cache, .error .zeroTtl)
  else (cache.store key response (now + lifetime), .ok ())

/-- Removes every expired entry. The result tells how many there were. -/
def purge (cache : ResponseCache) (now : Nat) : ResponseCache × Nat :=
  let entries := cache.entries.filter fun _ entry => now < entry.expiresAt
  ({ cache with entries }, cache.entries.size - entries.size)

end ResponseCache

end DnsFilter
