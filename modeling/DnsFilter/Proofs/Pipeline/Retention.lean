import DnsFilter.Proofs.Cache.Retention
import DnsFilter.Proofs.Pipeline.Capacity
import DnsFilter.Proofs.Pipeline.Exclusion

/-!
# Retention of outcomes

What was stored for a query is served to every later message about it until it expires, unless as
many other keys as the cache has room for were stored there since. A query is only stored when its
key is absent, so its entry comes in last, and the entry of another key comes in behind it.
-/

namespace DnsFilter

namespace Pipeline

/-- The keys other than a given one under which something was stored in a cache. -/
def Stored.otherKeys (history : List Stored) (side : CacheSide) (key : String) : Finset String :=
  ((history.filter fun stored => stored.write.side = side ∧ stored.write.key ≠ key).map
    fun stored => stored.write.key).toFinset

theorem Stored.otherKeys_append (earlier later : List Stored) (side : CacheSide) (key : String) :
    otherKeys (earlier ++ later) side key =
      otherKeys earlier side key ∪ otherKeys later side key := by
  simp [otherKeys]

theorem Stored.otherKeys_singleton {stored : Stored} {key : String}
    (other : stored.write.key ≠ key) :
    otherKeys [stored] stored.write.side key = {stored.write.key} := by
  simp [otherKeys, other]

/-- What a stored outcome is in a cache. -/
def Stored.fifoItem (stored : Stored) : FifoItem :=
  { key := stored.write.key
    response := stored.write.response
    expiresAt := stored.time + stored.write.lifetime }

section

variable {config : Config} {events : List Event} {pipeline : Pipeline} {side : CacheSide}
  {item : FifoItem} {newer : Finset String}

/-- What a message leaves to be remembered comes in last. -/
theorem retains_of_stored? {step : Step} {answered : Answered} {stored : Stored}
    (traced : Traced config events pipeline) (orderly : Orderly config pipeline)
    (seen : (pipeline.step step).2.answered? = some answered)
    (left : answered.stored? = some stored) :
    ((pipeline.step step).1.cache stored.write.side).Retains stored.fifoItem ∅ := by
  rcases traced.exists_answers seen with ⟨shed, answers, remembered⟩
  have time := answers.time_of_stored? left
  rcases Answered.stored?_eq_some_iff.1 left with ⟨query, write, _, written, accepted, rfl⟩
  have absent := answers.vacant write written write.side
  have consistent := (orderly.of_sheds answers.sheds).consistent write.side
  rcases cache_remember_cases shed answered.resolution.write write.side with
    ⟨new, sameWrite, _, changed⟩ | ⟨_, other⟩
  · cases written.symm.trans sameWrite
    rw [remembered, changed, Stored.fifoItem, time, ← answers.now]
    exact ResponseCache.retains_set_of_absent consistent accepted absent
  · exact absurd rfl (other write written)

/-- An item stays over a step before it expires, and the key that the step stores under comes in
behind it. -/
theorem retains_step (traced : Traced config events pipeline)
    (capacity : (pipeline.cache side).capacity = config.cacheCapacity)
    (retains : (pipeline.cache side).Retains item newer) (step : Step)
    (unexpired : (pipeline.step step).1.now < item.expiresAt)
    (fewer : (newer ∪ Stored.otherKeys (Event.history [(pipeline.step step).2]) side
      item.key).card < config.cacheCapacity) :
    ((pipeline.step step).1.cache side).Retains item
      (newer ∪ Stored.otherKeys (Event.history [(pipeline.step step).2]) side item.key) := by
  cases seen : (pipeline.step step).2.answered? with
  | none =>
      have sheds := sheds_of_answered?_eq_none seen
      exact (retains.of_sheds (sheds.caches side) unexpired).mono Finset.subset_union_left
  | some answered =>
      rcases traced.exists_answers seen with ⟨shed, answers, remembered⟩
      rw [remembered] at unexpired ⊢
      rw [now_remember] at unexpired
      have stays := retains.of_sheds (answers.sheds.caches side) unexpired
      rcases cache_remember_cases shed answered.resolution.write side with
        ⟨new, written, rfl, changed⟩ | ⟨same, _⟩
      · rw [changed]
        by_cases refused : new.lifetime = 0
        · rw [ResponseCache.set_of_zero refused]
          exact stays.mono Finset.subset_union_left
        · have absent := answers.vacant new written new.side
          have other : new.key ≠ item.key := by
            intro same
            rcases stays.exists_entry with ⟨entry, found, _⟩
            rw [← same, absent] at found
            contradiction
          rcases answers.exists_stored written refused with ⟨stored, left, rfl⟩
          have history : Event.history [(pipeline.step step).2] = [stored] := by
            simp [Event.history, Event.stored?_of_answered? seen, left]
          rw [history, Stored.otherKeys_singleton other, Finset.union_comm,
            ← Finset.insert_eq] at fewer ⊢
          rw [← capacity, ← (answers.sheds.caches _).capacity_eq] at fewer
          exact stays.set_of_absent refused absent fewer
      · rw [same]
        exact stays.mono Finset.subset_union_left

/-- An item stays over a run before it expires. -/
theorem retains_after (traced : Traced config events pipeline) (orderly : Orderly config pipeline)
    (retains : (pipeline.cache side).Retains item newer) (steps : List Step)
    (unexpired : (pipeline.after steps).now < item.expiresAt)
    (fewer : (newer ∪ Stored.otherKeys (Event.history (pipeline.trace steps)) side
      item.key).card < config.cacheCapacity) :
    ((pipeline.after steps).cache side).Retains item
      (newer ∪ Stored.otherKeys (Event.history (pipeline.trace steps)) side item.key) := by
  induction steps generalizing events pipeline newer with
  | nil => exact retains.mono Finset.subset_union_left
  | cons step steps ih =>
      have history : Event.history (pipeline.trace (step :: steps)) =
          Event.history [(pipeline.step step).2] ++
            Event.history ((pipeline.step step).1.trace steps) :=
        Event.history_append [_] _
      rw [history, Stored.otherKeys_append, ← Finset.union_assoc] at fewer ⊢
      have first := retains_step traced (orderly.capacity side) retains step
        (Nat.lt_of_le_of_lt (now_le_after _ steps) unexpired)
        (Nat.lt_of_le_of_lt (Finset.card_le_card Finset.subset_union_left) fewer)
      exact ih (traced.step step) (orderly.step step) first unexpired fewer

end

/-- A message about an address query gets what is valid for it in the positive cache. -/
theorem Resolves.of_answer {pipeline : Pipeline} {inquiry : Inquiry} {resolution : Resolution}
    {query : Query} {family : AddressFamily} {message : Message}
    (resolves : Resolves pipeline inquiry resolution) (first : inquiry.query? = some query)
    (address : query.family? = some family)
    (valid : pipeline.positive.valid? pipeline.now query.key = some (.answer message)) :
    resolution =
      { source := .positiveCache, response := message.withId inquiry.request.id } := by
  cases resolves with
  | malformed absent => exact absurd (absent.symm.trans first) (by simp)
  | passedOn sameFirst other =>
      cases first.symm.trans sameFirst
      exact absurd (other.symm.trans address) (by simp)
  | remembered sameFirst _ found =>
      cases first.symm.trans sameFirst
      cases valid.symm.trans found
      rfl
  | refused sameFirst _ unanswered
  | blocked sameFirst _ unanswered
  | forwarded sameFirst _ unanswered =>
      cases first.symm.trans sameFirst
      exact absurd valid (unanswered message)

/-- A message about an address query that failed is refused if the positive cache has nothing. -/
theorem Resolves.of_failure {pipeline : Pipeline} {inquiry : Inquiry} {resolution : Resolution}
    {query : Query} {family : AddressFamily} {response : CachedResponse}
    (resolves : Resolves pipeline inquiry resolution) (first : inquiry.query? = some query)
    (address : query.family? = some family)
    (unanswered : pipeline.positive.valid? pipeline.now query.key = none)
    (valid : pipeline.negative.valid? pipeline.now query.key = some response) :
    resolution =
      { source := .negativeCache, response := inquiry.request.failure .serverFailure } := by
  cases resolves with
  | malformed absent => exact absurd (absent.symm.trans first) (by simp)
  | passedOn sameFirst other =>
      cases first.symm.trans sameFirst
      exact absurd (other.symm.trans address) (by simp)
  | remembered sameFirst _ found =>
      cases first.symm.trans sameFirst
      exact absurd (unanswered.symm.trans found) (by simp)
  | refused => rfl
  | blocked sameFirst _ _ unrefused
  | forwarded sameFirst _ _ unrefused =>
      cases first.symm.trans sameFirst
      exact absurd (unrefused.symm.trans valid) (by simp)

/-- What is remembered as an answer is the response that was given. -/
theorem Resolves.response_eq {pipeline : Pipeline} {inquiry : Inquiry} {resolution : Resolution}
    {write : CacheWrite} {message : Message} (resolves : Resolves pipeline inquiry resolution)
    (written : resolution.write = some write) (stores : write.response = .answer message) :
    resolution.response = message := by
  cases resolves with
  | malformed | remembered | refused => contradiction
  | passedOn _ other => simp [outcomeResolution, other] at written
  | blocked =>
      cases written
      cases stores
      rfl
  | forwarded _ address =>
      cases said : inquiry.outcome with
      | error error =>
          simp only [outcomeResolution, address, said, Except.map, outcomeWrite?,
            Option.isSome_some, if_true, Option.some.injEq] at written
          rw [← written] at stores
          contradiction
      | ok answer =>
          simp only [outcomeResolution, address, said, Except.map, outcomeWrite?,
            Option.isSome_some, if_true, Option.map_eq_some_iff] at written
          rcases written with ⟨lifetime, _, rfl⟩
          cases stores
          rfl

/-- Once an outcome was stored for a query, every later message about it is answered with that
outcome without a lookup, until it expires or as many other keys as the capacity have been stored in
the same cache: with the same message but for the id, or as a failure under its own id and queries.
-/
theorem stored_outcome_is_retained (config : Config) (channelDepth : Nat) (names : NameSet)
    (earlier : List Step) (step : Step) (later : List Step) (again : Step)
    (first second : Answered) (stored : Stored)
    (seen : (((start config channelDepth names).after earlier).step step).2.answered? = some first)
    (left : first.stored? = some stored)
    (seenAgain : (((start config channelDepth names).after (earlier ++ step :: later)).step
      again).2.answered? = some second)
    (asked : second.inquiry.query? = some stored.query)
    (unexpired : second.time < stored.time + stored.write.lifetime)
    (fewer : (Stored.otherKeys
      (Event.history ((((start config channelDepth names).after earlier).step step).1.trace later))
      stored.write.side stored.write.key).card < config.cacheCapacity) :
    second.lookup? = none ∧
      match stored.write.response with
      | .answer message =>
          first.resolution.response = message ∧
            second.resolution.response = message.withId second.inquiry.request.id
      | .failed => second.resolution.response = second.inquiry.request.failure .serverFailure := by
  have traced := Traced.run config channelDepth names earlier
  have orderly := (Orderly.start config channelDepth names).after earlier
  have exclusive := Exclusive.run config channelDepth names (earlier ++ step :: later)
  have resolves := resolves_of_answered? seenAgain
  rw [(inquire_of_answered? seenAgain).1] at unexpired
  rw [after_append, after_cons] at exclusive resolves unexpired
  have retains := retains_after (traced.step step) (orderly.step step)
    (retains_of_stored? traced orderly seen left) later unexpired
    (by rwa [Finset.empty_union])
  have valid := retains.valid?_eq unexpired
  rcases traced.exists_answers seen with ⟨shed, answers, _⟩
  have warrants := answers.warrants_of_stored? left
  rcases warrants.exists_family with ⟨family, address⟩
  rw [Stored.fifoItem, warrants.key_eq] at valid
  cases side : stored.write.side with
  | positive =>
      rcases warrants.exists_answer side with ⟨message, stores⟩
      rw [side, stores] at valid
      have resolution := resolves.of_answer asked address valid
      rw [stores]
      refine ⟨Answered.lookup?_eq_none ?_, ?_, ?_⟩
      · rw [resolution]
        rfl
      · rcases Answered.stored?_eq_some_iff.1 left with ⟨_, write, _, written, _, rfl⟩
        exact (resolves_of_answered? seen).response_eq written stores
      · rw [resolution]
  | negative =>
      have stores := warrants.response_eq_failed side
      rw [side, stores] at valid
      -- The positive cache is looked up first, but the key is not in both.
      have unanswered := (exclusive.valid?_eq_none _ stored.query.key).resolve_right
        (Option.ne_none_iff_exists'.2 ⟨_, valid⟩)
      have resolution := resolves.of_failure asked address unanswered valid
      rw [stores]
      refine ⟨Answered.lookup?_eq_none ?_, ?_⟩
      · rw [resolution]
        rfl
      · rw [resolution]

/-- A message about the address of the name `b`. -/
def otherInquiry : Inquiry where
  request := { queries := [{ name := ⟨[[0x62]], by decide⟩ }] }
  transport := .udp
  client := sampleInquiry.client
  outcome := sampleInquiry.outcome

/-- In caches with room for two, the sample answer outlasts a purge, another answer and a reload. -/
theorem sample_answer_is_retained :
    ∃ second : Answered,
      (((start { maxCount := 2 } 1 ∅).after ([] ++ .resolve sampleInquiry ::
        [.resolve otherInquiry, .change .purge, .change (.reload (.ofList ["a"])),
          .change (.advance 59999)])).step (.resolve failingInquiry)).2.answered? = some second ∧
      second.lookup? = none ∧
      second.resolution.response.answers.length = 1 := by
  have retained := stored_outcome_is_retained { maxCount := 2 } 1 ∅ [] (.resolve sampleInquiry)
    [.resolve otherInquiry, .change .purge, .change (.reload (.ofList ["a"])),
      .change (.advance 59999)] (.resolve failingInquiry) _ _ _ rfl rfl rfl rfl (by decide)
      (by decide)
  exact ⟨_, rfl, retained.1, by rw [retained.2.2]; rfl⟩

end Pipeline

end DnsFilter
