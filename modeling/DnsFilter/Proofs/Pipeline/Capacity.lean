import DnsFilter.Proofs.Cache.Queue
import DnsFilter.Proofs.Pipeline.Steps

/-!
# Order in the caches

Whatever happens to a pipeline, the queues of its caches stay in step with their entries, and the
caches never hold more than the configured capacity.
-/

namespace DnsFilter

theorem Config.cacheCapacity_pos (config : Config) : 0 < config.cacheCapacity := by
  unfold cacheCapacity
  split
  · decide
  · omega

namespace Pipeline

/-- That both caches of a pipeline are consistent, with the configured capacity. -/
structure Orderly (config : Config) (pipeline : Pipeline) : Prop where
  consistent : ∀ side, (pipeline.cache side).Consistent
  capacity : ∀ side, (pipeline.cache side).capacity = config.cacheCapacity

namespace Orderly

variable {config : Config} {pipeline shed : Pipeline}

theorem start (config : Config) (channelDepth : Nat) (names : NameSet) :
    Orderly config (Pipeline.start config channelDepth names) where
  consistent side := by
    cases side <;> exact ResponseCache.consistent_new _ _
  capacity side := by
    have positive := config.cacheCapacity_pos
    cases side <;> exact Nat.max_eq_left positive

theorem of_sheds (orderly : Orderly config pipeline) (sheds : Sheds pipeline shed) :
    Orderly config shed where
  consistent side := (orderly.consistent side).of_sheds (sheds.caches side)
  capacity side := (sheds.caches side).capacity_eq.trans (orderly.capacity side)

theorem remember (orderly : Orderly config pipeline) (write : Option CacheWrite) :
    Orderly config (pipeline.remember write) where
  consistent side := by
    rcases cache_remember_cases pipeline write side with ⟨new, _, _, stored⟩ | ⟨same, _⟩
    · rw [stored]
      exact (orderly.consistent side).set _ _ _ _
    · rw [same]
      exact orderly.consistent side
  capacity side := by
    rcases cache_remember_cases pipeline write side with ⟨new, _, _, stored⟩ | ⟨same, _⟩
    · rw [stored, ResponseCache.capacity_set]
      exact orderly.capacity side
    · rw [same]
      exact orderly.capacity side

theorem step (orderly : Orderly config pipeline) (step : Step) :
    Orderly config (pipeline.step step).1 := by
  rcases exists_sheds_step pipeline step with ⟨shed, write, sheds, next⟩
  rw [next]
  exact (orderly.of_sheds sheds).remember write

theorem after (orderly : Orderly config pipeline) (steps : List Step) :
    Orderly config (pipeline.after steps) := by
  induction steps generalizing pipeline with
  | nil => exact orderly
  | cons step steps ih => exact ih (orderly.step step)

theorem size_le (orderly : Orderly config pipeline) (side : CacheSide) :
    (pipeline.cache side).size ≤ config.cacheCapacity := by
  rw [← orderly.capacity side]
  exact (orderly.consistent side).bounded

end Orderly

end Pipeline

end DnsFilter
