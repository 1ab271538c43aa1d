import DnsFilter.Cache.Operation

/-!
# First in, first out

The rule that a response cache keeps, as a plain list: items stand in the order in which their keys
came in, no key stands twice, and no more items stand than the capacity allows. There is no queue
beside the items, so nothing can go stale.
-/

namespace DnsFilter

/-- A remembered outcome in a list. -/
structure FifoItem where
  key : String
  response : CachedResponse
  /-- The first instant at which the item is no longer valid. -/
  expiresAt : Nat
  deriving DecidableEq, Repr

/-- A bounded list of remembered outcomes, the one that came in first in front. -/
structure FifoCache where
  capacity : Nat
  items : List FifoItem := []
  deriving DecidableEq, Repr

namespace FifoCache

/-- An empty list. Its capacity is at least one. -/
def new (capacity : Nat) : FifoCache := { capacity := max capacity 1 }

def item? (cache : FifoCache) (key : String) : Option FifoItem :=
  cache.items.find? fun item => item.key == key

/-- Looks a key up. An expired item is removed on the way. -/
def get (cache : FifoCache) (now : Nat) (key : String) : FifoCache × Option CachedResponse :=
  match cache.item? key with
  | none => (cache, none)
  | some item =>
      if now < item.expiresAt then (cache, some item.response)
      else ({ cache with items := cache.items.filter fun item => item.key != key }, none)

/-- The items with one of them renewed at its place. -/
def renew (items : List FifoItem) (renewed : FifoItem) : List FifoItem :=
  items.map fun item => if item.key = renewed.key then renewed else item

/-- The items with one more at the end. At capacity it takes the place of the front. -/
def append (capacity : Nat) (items : List FifoItem) (added : FifoItem) : List FifoItem :=
  (if items.length < capacity then items else items.drop 1) ++ [added]

/-- Stores a response under a key until the given instant. -/
def store (cache : FifoCache) (key : String) (response : CachedResponse) (expiresAt : Nat) :
    FifoCache :=
  let item : FifoItem := { key, response, expiresAt }
  { cache with
    items :=
      if (cache.item? key).isSome then renew cache.items item
      else append cache.capacity cache.items item }

/-- Stores a response under a key for the given lifetime. -/
def set (cache : FifoCache) (now : Nat) (key : String) (response : CachedResponse)
    (lifetime : Nat) : FifoCache × Except Error Unit :=
  if lifetime = 0 then (cache, .error .zeroTtl)
  else (cache.store key response (now + lifetime), .ok ())

def purge (cache : FifoCache) (now : Nat) : FifoCache × Nat :=
  ({ cache with items := cache.items.filter fun item => now < item.expiresAt },
    cache.items.countP fun item => item.expiresAt ≤ now)

def perform (state : Timed FifoCache) : CacheOperation → Timed FifoCache × CacheResult
  | .set key response lifetime =>
      let (cache, outcome) := state.cache.set state.now key response lifetime
      ({ state with cache }, .stored outcome)
  | .get key =>
      let (cache, response) := state.cache.get state.now key
      ({ state with cache }, .found response)
  | .purge =>
      let (cache, count) := state.cache.purge state.now
      ({ state with cache }, .removed count)
  | .size => (state, .size state.cache.items.length)
  | .advance duration => ({ state with now := state.now + duration }, .passed)

end FifoCache

end DnsFilter
