import DnsFilter.Cache.Response

/-!
# Operations on a cache

What can be done with a cache while time passes, and what each operation shows. Two caches are told
apart by nothing but the results of operations.
-/

namespace DnsFilter

inductive CacheOperation where
  | set (key : String) (response : CachedResponse) (lifetime : Nat)
  | get (key : String)
  | purge
  | size
  | advance (duration : Nat)
  deriving DecidableEq, Repr

inductive CacheResult where
  | stored (outcome : Except Error Unit)
  | found (response : Option CachedResponse)
  | removed (count : Nat)
  | size (count : Nat)
  | passed

structure Timed (Cache : Type) where
  cache : Cache
  now : Nat := 0

/-- The results of operations, one after the other. -/
def CacheOperation.results {State : Type}
    (perform : State → CacheOperation → State × CacheResult) :
    State → List CacheOperation → List CacheResult
  | _, [] => []
  | state, operation :: operations =>
      let (next, result) := perform state operation
      result :: results perform next operations

def CacheOperation.after {State : Type}
    (perform : State → CacheOperation → State × CacheResult) (state : State)
    (operations : List CacheOperation) : State :=
  operations.foldl (fun state operation => (perform state operation).1) state

def ResponseCache.perform (state : Timed ResponseCache) :
    CacheOperation → Timed ResponseCache × CacheResult
  | .set key response lifetime =>
      let (cache, outcome) := state.cache.set state.now key response lifetime
      ({ state with cache }, .stored outcome)
  | .get key =>
      let (cache, response) := state.cache.get state.now key
      ({ state with cache }, .found response)
  | .purge =>
      let (cache, count) := state.cache.purge state.now
      ({ state with cache }, .removed count)
  | .size => (state, .size state.cache.size)
  | .advance duration => ({ state with now := state.now + duration }, .passed)

end DnsFilter
