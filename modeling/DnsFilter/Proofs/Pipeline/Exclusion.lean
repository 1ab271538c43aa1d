import DnsFilter.Proofs.Pipeline.History

/-!
# Success and failure exclude each other

An outcome is only stored under a key that neither cache holds by then, since the query came to be
answered after both were looked up in vain. So no key is ever in both caches, and a failure that is
served is what the last lookup came to.
-/

namespace DnsFilter

namespace Pipeline

/-- That a key is in one of the two caches at most, be its entry expired or not. -/
structure Exclusive (pipeline : Pipeline) : Prop where
  side_eq : ∀ {side other : CacheSide} {key : String} {entry otherEntry : CacheEntry},
    (pipeline.cache side).entries[key]? = some entry →
    (pipeline.cache other).entries[key]? = some otherEntry → side = other

namespace Exclusive

variable {pipeline shed : Pipeline}

theorem start (config : Config) (channelDepth : Nat) (names : NameSet) :
    (Pipeline.start config channelDepth names).Exclusive where
  side_eq := by
    intro side other key entry otherEntry found _
    rw [getElem?_entries_start] at found
    contradiction

theorem of_sheds (exclusive : pipeline.Exclusive) (sheds : Sheds pipeline shed) :
    shed.Exclusive where
  side_eq found otherFound := exclusive.side_eq (sheds.entries found) (sheds.entries otherFound)

theorem remember (exclusive : pipeline.Exclusive) {write : Option CacheWrite}
    (vacant : ∀ new, write = some new →
      ∀ side, (pipeline.cache side).entries[new.key]? = none) :
    (pipeline.remember write).Exclusive where
  side_eq := by
    intro side other key entry otherEntry found otherFound
    rcases entry_of_entry_remember found with
      ⟨new, written, _, newSide, rfl, _⟩ | ⟨present, _⟩
    · rcases entry_of_entry_remember otherFound with
        ⟨again, writtenAgain, _, otherSide, _⟩ | ⟨otherPresent, _⟩
      · cases written.symm.trans writtenAgain
        rw [newSide, otherSide]
      · rw [vacant new written other] at otherPresent
        contradiction
    · rcases entry_of_entry_remember otherFound with
        ⟨new, written, _, _, rfl, _⟩ | ⟨otherPresent, _⟩
      · rw [vacant new written side] at present
        contradiction
      · exact exclusive.side_eq present otherPresent

theorem step {config : Config} {events : List Event} (exclusive : pipeline.Exclusive)
    (traced : Traced config events pipeline) (step : Step) :
    (pipeline.step step).1.Exclusive := by
  cases seen : (pipeline.step step).2.answered? with
  | none => exact exclusive.of_sheds (sheds_of_answered?_eq_none seen)
  | some answered =>
      rcases traced.exists_answers seen with ⟨shed, answers, remembered⟩
      rw [remembered]
      exact (exclusive.of_sheds answers.sheds).remember answers.vacant

theorem after {config : Config} {events : List Event} (exclusive : pipeline.Exclusive)
    (traced : Traced config events pipeline) (steps : List Step) :
    (pipeline.after steps).Exclusive := by
  induction steps generalizing events pipeline with
  | nil => exact exclusive
  | cons step steps ih => exact ih (exclusive.step traced step) (traced.step step)

theorem run (config : Config) (channelDepth : Nat) (names : NameSet) (steps : List Step) :
    ((Pipeline.start config channelDepth names).after steps).Exclusive :=
  (start config channelDepth names).after (Traced.start config channelDepth names) steps

theorem valid?_eq_none (exclusive : pipeline.Exclusive) (time : Nat) (key : String) :
    pipeline.positive.valid? time key = none ∨ pipeline.negative.valid? time key = none := by
  cases answers : pipeline.positive.valid? time key with
  | none => exact Or.inl rfl
  | some answer =>
      cases fails : pipeline.negative.valid? time key with
      | none => exact Or.inr rfl
      | some failure =>
          rcases ResponseCache.valid?_eq_some_iff.1 answers with ⟨entry, found, _⟩
          rcases ResponseCache.valid?_eq_some_iff.1 fails with ⟨otherEntry, otherFound, _⟩
          have same : CacheSide.positive = .negative := exclusive.side_eq found otherFound
          contradiction

end Exclusive

theorem exists_error_of_map_eq_error {outcome : Except Error Message}
    {change : Message → Message} {error : Error} (mapped : outcome.map change = .error error) :
    outcome = .error error := by
  cases outcome with
  | ok message => contradiction
  | error other =>
      cases mapped
      rfl

/-- At any time of a run the positive cache holds answers only, the negative cache failures only,
and no key is valid in both. A message is answered from the negative cache only if the last lookup
for its query failed, less than half of the time for answers ago. -/
theorem success_and_failure_exclude_each_other (config : Config) (channelDepth : Nat)
    (names : NameSet) (steps : List Step) :
    let pipeline := (start config channelDepth names).after steps
    (∀ (key : String) (entry : CacheEntry), pipeline.positive.entries[key]? = some entry →
      ∃ message, entry.response = CachedResponse.answer message) ∧
    (∀ (key : String) (entry : CacheEntry), pipeline.negative.entries[key]? = some entry →
      entry.response = CachedResponse.failed) ∧
    (∀ time key,
      pipeline.positive.valid? time key = none ∨ pipeline.negative.valid? time key = none) ∧
    ∀ step answered, (pipeline.step step).2.answered? = some answered →
      answered.resolution.source = .negativeCache →
      ∃ query lookup error,
        answered.inquiry.query? = some query ∧
        Event.lastLookup? ((start config channelDepth names).trace steps) query = some lookup ∧
        lookup.outcome = .error error ∧
        lookup.time ≤ answered.time ∧ answered.time < lookup.time + config.expire * 500 := by
  intro pipeline
  have traced : Traced config ((start config channelDepth names).trace steps) pipeline :=
    Traced.run config channelDepth names steps
  refine ⟨fun key entry found => traced.holdsAnswers found, ?_, ?_, ?_⟩
  · intro key entry found
    rcases traced.explained .negative key entry found with ⟨stored, current, _, response, _⟩
    have member := Stored.mem_of_last? current.last
    rw [response]
    exact (traced.warranted stored member).response_eq_failed (Stored.side_of_last? current.last)
  · exact (Exclusive.run config channelDepth names steps).valid?_eq_none
  · intro step answered seen source
    rcases traced.exists_servedFrom seen (Or.inr source) with
      ⟨stored, side, current, served, unexpired⟩
    have warrants := traced.warranted stored served.mem
    have past := traced.punctual stored served.mem
    rw [← (inquire_of_answered? seen).1] at past
    cases served with
    | answer _ _ _ otherSource =>
        rw [source] at otherSource
        contradiction
    | failure asked _ failed =>
        rcases current.looked with blocked | ⟨lookup, last, isOf⟩
        · rw [blocked] at warrants
          exact absurd failed warrants.response_ne_failed
        · rw [isOf.source] at warrants
          rcases warrants.exists_error failed with ⟨⟨error, mapped⟩, lifetime⟩
          have outcome := exists_error_of_map_eq_error mapped
          rw [lifetime, isOf.time] at unexpired
          rw [isOf.time] at past
          exact ⟨stored.query, lookup, error, asked, last, outcome, past, unexpired⟩

/-- The sample message at a time when the servers fail. -/
def failingInquiry : Inquiry := { sampleInquiry with outcome := .error (.serversExhausted 1) }

/-- A failure is served in the last moment in which it is valid. -/
theorem sample_failure_is_served :
    ∃ (answered : Answered) (lookup : Lookup) (error : Error),
      (((start {} 1 ∅).after [.resolve failingInquiry, .change (.advance 299999)]).step
        (.resolve sampleInquiry)).2.answered? = some answered ∧
      answered.resolution.source = .negativeCache ∧
      lookup.outcome = .error error ∧
      answered.time < lookup.time + 600 * 500 := by
  have exclude := success_and_failure_exclude_each_other {} 1 ∅
    [.resolve failingInquiry, .change (.advance 299999)]
  rcases exclude.2.2.2 (.resolve sampleInquiry) _ rfl rfl with
    ⟨_, lookup, error, _, _, outcome, _, unexpired⟩
  exact ⟨_, lookup, error, rfl, rfl, outcome, unexpired⟩

end Pipeline

end DnsFilter
