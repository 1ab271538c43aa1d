import DnsFilter.Cache.Fifo

/-!
# Limits of a cache

Storing a response takes two numbers that a machine may not be able to hold: the instant at which
the response expires, and the length beyond which the queue is compacted, which is twice the
capacity. On a machine, storing breaks off at the first of them that is too large.
-/

namespace DnsFilter

/-- A number that a machine cannot hold. -/
inductive Overflow where
  /-- An instant beyond the end of the clock. -/
  | instant
  /-- A size beyond the largest one. -/
  | size
  deriving DecidableEq, Repr

/-- The machine that the program runs on. Its clock counts on from a reading of its own, and a size
that it cannot hold breaks the program off. -/
structure Machine where
  /-- What the clock shows at the start, in milliseconds. -/
  clock : Nat
  deriving DecidableEq, Repr

namespace Machine

/-- The end of the clock, in milliseconds: its seconds are signed numbers of 64 bits. -/
def clockEnd : Nat := 9223372036854775808 * 1000

/-- The end of the sizes, which are unsigned numbers of 64 bits. -/
def sizeEnd : Nat := 18446744073709551616

/-- An instant, if the clock can show it. -/
def instant (machine : Machine) (time : Nat) : Except Overflow Nat :=
  if machine.clock + time < clockEnd then .ok time else .error .instant

/-- A size, if it can be held. -/
def size (count : Nat) : Except Overflow Nat :=
  if count < sizeEnd then .ok count else .error .size

/-- The instant at which what is stored now expires. The length beyond which the queue is compacted
only matters when a key comes in. -/
def expiry (machine : Machine) (now lifetime capacity : Nat) (present : Bool) :
    Except Overflow Nat := do
  let expiresAt ← machine.instant (now + lifetime)
  if !present then
    let _ ← size (capacity * 2)
  return expiresAt

end Machine

/-- Stores a response on a machine. -/
def ResponseCache.setOn (machine : Machine) (cache : ResponseCache) (now : Nat) (key : String)
    (response : CachedResponse) (lifetime : Nat) :
    Except Overflow (ResponseCache × Except Error Unit) :=
  if lifetime = 0 then .ok (cache, .error .zeroTtl)
  else do
    let present := cache.entries[key]?.isSome
    let expiresAt ← machine.expiry now lifetime cache.capacity present
    return (cache.store key response expiresAt, .ok ())

def ResponseCache.performOn (machine : Machine) (state : Timed ResponseCache) :
    CacheOperation → Except Overflow (Timed ResponseCache × CacheResult)
  | .set key response lifetime => do
      let (cache, outcome) ← state.cache.setOn machine state.now key response lifetime
      return ({ state with cache }, .stored outcome)
  | operation => .ok (perform state operation)

namespace FifoCache

/-- Stores a response in a list on a machine. The list has no queue to be compacted; that twice the
capacity is a size is part of the rule for a key that comes in. -/
def setOn (machine : Machine) (cache : FifoCache) (now : Nat) (key : String)
    (response : CachedResponse) (lifetime : Nat) :
    Except Overflow (FifoCache × Except Error Unit) :=
  if lifetime = 0 then .ok (cache, .error .zeroTtl)
  else do
    let expiresAt ← machine.expiry now lifetime cache.capacity (cache.item? key).isSome
    return (cache.store key response expiresAt, .ok ())

def performOn (machine : Machine) (state : Timed FifoCache) :
    CacheOperation → Except Overflow (Timed FifoCache × CacheResult)
  | .set key response lifetime => do
      let (cache, outcome) ← state.cache.setOn machine state.now key response lifetime
      return ({ state with cache }, .stored outcome)
  | operation => .ok (perform state operation)

end FifoCache

namespace CacheOperation

/-- The results of operations up to the one that breaks off, if one does, and why it does. -/
def resultsOn {State : Type}
    (perform : State → CacheOperation → Except Overflow (State × CacheResult)) :
    State → List CacheOperation → List CacheResult × Option Overflow
  | _, [] => ([], none)
  | state, operation :: operations =>
      match perform state operation with
      | .error overflow => ([], some overflow)
      | .ok (next, result) =>
          let (results, overflow) := resultsOn perform next operations
          (result :: results, overflow)

/-- Where operations lead to, up to the one that breaks off. -/
def reachedOn {State : Type}
    (perform : State → CacheOperation → Except Overflow (State × CacheResult)) :
    State → List CacheOperation → State
  | state, [] => state
  | state, operation :: operations =>
      match perform state operation with
      | .error _ => state
      | .ok (next, _) => reachedOn perform next operations

end CacheOperation

end DnsFilter
