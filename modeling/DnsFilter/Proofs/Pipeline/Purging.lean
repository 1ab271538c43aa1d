import DnsFilter.Proofs.Cache.Unexpired
import DnsFilter.Proofs.Pipeline.Capacity
import DnsFilter.Proofs.Pipeline.Likeness

/-!
# Purging is not noticed

Expired entries are removed in the background, whenever it is convenient. Nobody notices as long as
the caches have room for all keys that are asked for: an entry that has expired is as good as none,
and the queue beside the entries only matters for eviction, which never happens then.
-/

namespace DnsFilter

namespace Pipeline

/-- Removes expired entries from one of the caches. -/
def purgeSide (pipeline : Pipeline) (side : CacheSide) : Pipeline :=
  pipeline.withCache side ((pipeline.cache side).purge pipeline.now).1

/-- A pipeline is purged one cache after the other. -/
theorem purge_fst (pipeline : Pipeline) :
    pipeline.purge.1 = (pipeline.purgeSide .positive).purgeSide .negative := rfl

/-- The keys under which the steps of a run look something up. -/
def addressKeys (steps : List Step) : List String := steps.filterMap Step.addressKey?

theorem isLikeness_sameUnexpired (keys : Finset String) :
    ResponseCache.IsLikeness (· ∈ keys) (ResponseCache.SameUnexpired keys) where
  lifetime same := same.lifetime
  valid same key := same.valid? key
  later same duration := same.later duration
  get same key := same.get key
  set same _ member response lifetime := same.set member response lifetime

@[simp]
theorem withCache_cache (pipeline : Pipeline) (side : CacheSide) :
    pipeline.withCache side (pipeline.cache side) = pipeline := by
  cases side <;> rfl

theorem Alike.purgeSide {keys : Finset String} {pipeline other : Pipeline}
    (alike : Alike True (ResponseCache.SameUnexpired keys) pipeline other) (side : CacheSide) :
    Alike True (ResponseCache.SameUnexpired keys) (pipeline.purgeSide side) other := by
  have purged := alike.withCache side (alike.caches side).purge
  rw [withCache_cache] at purged
  exact purged

theorem hasRoom_start {config : Config} {keys : Finset String}
    (few : keys.card ≤ config.cacheCapacity) (channelDepth : Nat) (names : NameSet)
    (side : CacheSide) : ((start config channelDepth names).cache side).HasRoom keys := by
  refine ⟨?_, ?_⟩
  · intro key entry found
    simp at found
  · rw [(Orderly.start config channelDepth names).capacity side]
    exact few

/-- Either cache may be purged at any time in a run which purges neither itself and asks for no more
addresses than a cache can hold: all that can be seen of the run's steps stays the same, and so does
the question log. -/
theorem purging_is_not_noticed (config : Config) (channelDepth : Nat) (names : NameSet)
    (parts : List (Part CacheSide))
    (unpurged : ∀ step ∈ ownSteps parts, step ≠ .change .purge)
    (few : (addressKeys (ownSteps parts)).toFinset.card ≤ config.cacheCapacity) :
    let begun := start config channelDepth names
    let last := afterParts purgeSide begun parts
    let ownLast := begun.after (ownSteps parts)
    ownTrace purgeSide begun parts = begun.trace (ownSteps parts) ∧
    last.channel = ownLast.channel ∧ last.log = ownLast.log := by
  intro begun last ownLast
  generalize named : (addressKeys (ownSteps parts)).toFinset = keys at few
  have asked (step : Step) (member : step ∈ ownSteps parts) (key : String)
      (looked : step.addressKey? = some key) : key ∈ keys := by
    rw [← named, List.mem_toFinset]
    exact List.mem_filterMap.2 ⟨step, member, looked⟩
  have room := hasRoom_start few channelDepth names
  have same (side : CacheSide) :
      ResponseCache.SameUnexpired keys begun.now (begun.cache side) (begun.cache side) :=
    ⟨rfl, room side, room side, fun _ => rfl⟩
  rcases ownTrace_eq_trace purgeSide (Alike True (ResponseCache.SameUnexpired keys))
    (fun step member _ _ alike =>
      alike.step (isLikeness_sameUnexpired keys) (asked step member) (unpurged step member)
        (.inl trivial))
    (fun side _ _ _ alike => alike.purgeSide side) (.refl begun same) with ⟨seen, alike⟩
  exact ⟨seen, alike.channel trivial, alike.log trivial⟩

/-- An answer expires and is purged, and then the same address is asked for again. -/
def purgedParts : List (Part CacheSide) :=
  [.own (.resolve sampleInquiry), .extra .positive, .own (.change (.advance 60000)),
    .extra .positive, .extra .negative, .own (.resolve sampleInquiry), .own (.change .settle)]

theorem sample_purging_is_not_noticed :
    let begun := start {} 2 ∅
    (begun.after [.resolve sampleInquiry, .change (.advance 60000)]).positive.size = 1 ∧
    (afterParts purgeSide begun (purgedParts.take 4)).positive.size = 0 ∧
    ownTrace purgeSide begun purgedParts =
      begun.trace
        [.resolve sampleInquiry, .change (.advance 60000), .resolve sampleInquiry,
          .change .settle] := by
  intro begun
  have unpurged : ∀ step ∈ ownSteps purgedParts, step ≠ .change .purge := by
    simp [purgedParts]
  have few : (addressKeys (ownSteps purgedParts)).toFinset.card ≤
      ({} : Config).cacheCapacity :=
    (List.toFinset_card_le _).trans (by decide)
  exact ⟨rfl, by decide +kernel, (purging_is_not_noticed {} 2 ∅ purgedParts unpurged few).1⟩

end Pipeline

end DnsFilter
