import DnsFilter.Proofs.Pipeline.Remembering
import DnsFilter.Proofs.Pipeline.Steps

/-!
# What the caches hold after a run

Everything in the caches after a run goes back to a message that was answered in it: an entry is
what was stored last for its query, and no lookup for that query came after the one it was stored
for. The invariant is kept by each step because a query is only forwarded once its entries are gone.
-/

namespace DnsFilter

namespace Pipeline

/-- That an outcome was stored for a lookup. -/
structure Stored.IsOf (stored : Stored) (lookup : Lookup) : Prop where
  time : stored.time = lookup.time
  source : stored.source =
    .servers (lookup.outcome.map fun message => message.withId lookup.request.id)

namespace Answered

variable {answered : Answered}

theorem stored?_eq_some_iff {stored : Stored} :
    answered.stored? = some stored ↔
      ∃ query write, answered.inquiry.query? = some query ∧
        answered.resolution.write = some write ∧ write.lifetime ≠ 0 ∧
        stored = ⟨answered.time, query, answered.resolution.source, write⟩ :=
  Resolution.stored?_eq_some_iff

theorem lookup?_eq_some_iff {lookup : Lookup} :
    answered.lookup? = some lookup ↔
      ∃ query, answered.inquiry.query? = some query ∧ answered.resolution.isForwarded = true ∧
        lookup =
          ⟨answered.time, query, answered.inquiry.transport, answered.inquiry.request,
            answered.inquiry.outcome⟩ := by
  unfold lookup?
  cases answered.inquiry.query? <;> simp [@eq_comm _ lookup]

theorem lookup?_eq_none (unasked : answered.resolution.isForwarded = false) :
    answered.lookup? = none := by
  rw [Option.eq_none_iff_forall_ne_some]
  intro lookup made
  rcases lookup?_eq_some_iff.1 made with ⟨_, _, asked, _⟩
  rw [unasked] at asked
  contradiction

theorem ServedFrom.query?_eq {history : List Stored} {stored : Stored}
    (served : answered.ServedFrom history stored) :
    answered.inquiry.query? = some stored.query := by
  cases served with
  | answer asked | failure asked => exact asked

theorem ServedFrom.mem {history : List Stored} {stored : Stored}
    (served : answered.ServedFrom history stored) : stored ∈ history := by
  cases served with
  | answer _ last | failure _ last => exact Stored.mem_of_last? last

/-- What a message was served from is determined by the history. -/
theorem ServedFrom.unique {history : List Stored} {stored other : Stored}
    (served : answered.ServedFrom history stored)
    (otherServed : answered.ServedFrom history other) :
    stored = other := by
  cases served with
  | answer asked last _ source =>
      cases otherServed with
      | answer otherAsked otherLast =>
          rw [Option.some.inj (asked.symm.trans otherAsked)] at last
          exact Option.some.inj (last.symm.trans otherLast)
      | failure _ _ _ otherSource => exact absurd (source.symm.trans otherSource) (by simp)
  | failure asked last _ source =>
      cases otherServed with
      | answer _ _ _ otherSource => exact absurd (source.symm.trans otherSource) (by simp)
      | failure otherAsked otherLast =>
          rw [Option.some.inj (asked.symm.trans otherAsked)] at last
          exact Option.some.inj (last.symm.trans otherLast)

theorem ServedFrom.source_eq {history : List Stored} {stored : Stored}
    (served : answered.ServedFrom history stored) :
    answered.resolution.source = .positiveCache ∨
      answered.resolution.source = .negativeCache := by
  cases served with
  | answer _ _ _ source => exact Or.inl source
  | failure _ _ _ source => exact Or.inr source

end Answered

namespace Event

variable {events : List Event} {event : Event} {query : Query}

theorem stored?_of_answered? {answered : Answered} (seen : event.answered? = some answered) :
    event.stored? = answered.stored? := by
  simp [stored?, seen]

theorem lookup?_of_answered? {answered : Answered} (seen : event.answered? = some answered) :
    event.lookup? = answered.lookup? := by
  simp [lookup?, seen]

theorem history_append (earlier later : List Event) :
    history (earlier ++ later) = history earlier ++ history later :=
  List.filterMap_append

theorem history_append_of_stored? {stored : Stored} (left : event.stored? = some stored) :
    history (events ++ [event]) = history events ++ [stored] :=
  filterMap_append_of_some left events

theorem history_append_of_stored?_eq_none (left : event.stored? = none) :
    history (events ++ [event]) = history events :=
  filterMap_append_of_none left events

theorem lastLookup?_append_self (events : List Event) {lookup : Lookup}
    (made : event.lookup? = some lookup) :
    lastLookup? (events ++ [event]) lookup.query = some lookup := by
  simp [lastLookup?, made]

theorem lastLookup?_append_of_ne
    (other : ∀ lookup, event.lookup? = some lookup → lookup.query ≠ query) :
    lastLookup? (events ++ [event]) query = lastLookup? events query := by
  cases made : event.lookup? with
  | none => simp [lastLookup?, made]
  | some lookup => simp [lastLookup?, made, other lookup made]

end Event

/-- That an outcome is what was stored last for its query, and that it was stored for the last
lookup for its query if it was stored for a lookup. -/
structure Current (events : List Event) (side : CacheSide) (stored : Stored) : Prop where
  last : Stored.last? (Event.history events) side stored.query = some stored
  looked : stored.source = .nullRoute ∨
    ∃ lookup, Event.lastLookup? events stored.query = some lookup ∧ stored.IsOf lookup

theorem Current.append {events : List Event} {event : Event} {side : CacheSide}
    {stored : Stored} (current : Current events side stored)
    (otherStored : ∀ new, event.stored? = some new →
      new.write.side = side → new.query ≠ stored.query)
    (otherLookup : ∀ lookup, event.lookup? = some lookup → lookup.query ≠ stored.query) :
    Current (events ++ [event]) side stored where
  last := by
    cases left : event.stored? with
    | none =>
        rw [Event.history_append_of_stored?_eq_none left]
        exact current.last
    | some new =>
        rw [Event.history_append_of_stored? left,
          Stored.last?_append_of_ne (otherStored new left)]
        exact current.last
  looked := by
    rw [Event.lastLookup?_append_of_ne otherLookup]
    exact current.looked

/-- That a message was answered, with `shed` as what was left of the pipeline when its outcome was
to be remembered: the outcome is warranted, it names what the servers said, and nothing was left for
the query if the servers were asked for an address or an outcome is remembered. -/
structure Answers (config : Config) (pipeline shed : Pipeline) (answered : Answered) : Prop where
  time : answered.time = pipeline.now
  sheds : Sheds pipeline shed
  now : shed.now = pipeline.now
  warranted : ∀ write, answered.resolution.write = some write →
    ∃ query, answered.inquiry.query? = some query ∧
      Warrants config query answered.resolution.source write
  named : ∀ outcome, answered.resolution.source = .servers outcome →
    outcome =
      answered.inquiry.outcome.map fun message => message.withId answered.inquiry.request.id
  gone : ∀ lookup family, answered.lookup? = some lookup →
    lookup.query.family? = some family →
    ∀ side, (shed.cache side).entries[lookup.query.key]? = none
  vacant : ∀ write, answered.resolution.write = some write →
    ∀ side, (shed.cache side).entries[write.key]? = none

namespace Answers

variable {config : Config} {events : List Event} {event : Event} {pipeline shed : Pipeline}
  {answered : Answered} {stored : Stored}

theorem warrants_of_stored? (answers : Answers config pipeline shed answered)
    (left : answered.stored? = some stored) :
    Warrants config stored.query stored.source stored.write := by
  rcases Answered.stored?_eq_some_iff.1 left with ⟨query, write, first, written, _, rfl⟩
  rcases answers.warranted write written with ⟨other, sameFirst, warrants⟩
  cases first.symm.trans sameFirst
  exact warrants

theorem time_of_stored? (answers : Answers config pipeline shed answered)
    (left : answered.stored? = some stored) : stored.time = pipeline.now := by
  rcases Answered.stored?_eq_some_iff.1 left with ⟨query, write, _, _, _, rfl⟩
  exact answers.time

theorem exists_stored {write : CacheWrite} (answers : Answers config pipeline shed answered)
    (written : answered.resolution.write = some write) (accepted : write.lifetime ≠ 0) :
    ∃ stored, answered.stored? = some stored ∧ stored.write = write := by
  rcases answers.warranted write written with ⟨query, first, _⟩
  exact ⟨_, Answered.stored?_eq_some_iff.2 ⟨query, write, first, written, accepted, rfl⟩, rfl⟩

/-- What was just stored is what was stored last, for what was just looked up. -/
theorem current_of_stored? (answers : Answers config pipeline shed answered)
    (seen : event.answered? = some answered) (left : answered.stored? = some stored) :
    Current (events ++ [event]) stored.write.side stored where
  last := by
    rw [Event.history_append_of_stored? ((Event.stored?_of_answered? seen).trans left)]
    exact Stored.last?_append_self _ _
  looked := by
    have warrants := answers.warrants_of_stored? left
    rcases Answered.stored?_eq_some_iff.1 left with ⟨query, write, first, _, _, rfl⟩
    cases source : answered.resolution.source with
    | nullRoute => exact Or.inl rfl
    | malformed | positiveCache | negativeCache =>
        rw [source] at warrants
        contradiction
    | servers outcome =>
        have asked : answered.resolution.isForwarded = true := by
          simp [Resolution.isForwarded, source]
        have made := Answered.lookup?_eq_some_iff.2 ⟨query, first, asked, rfl⟩
        have last := Event.lastLookup?_append_self events
          ((Event.lookup?_of_answered? seen).trans made)
        refine Or.inr ⟨_, last, rfl, ?_⟩
        exact congrArg Source.servers (answers.named outcome source)

/-- What was stored last for another query stays so. A query whose entry is still there was not
looked up, or the entry would have gone. -/
theorem current_append {side : CacheSide} {entry : CacheEntry}
    (answers : Answers config pipeline shed answered) (seen : event.answered? = some answered)
    (current : Current events side stored)
    (warrants : Warrants config stored.query stored.source stored.write)
    (present : (shed.cache side).entries[stored.query.key]? = some entry)
    (spared : ∀ new, answered.resolution.write = some new →
      new.lifetime = 0 ∨ side ≠ new.side ∨ stored.query.key ≠ new.key) :
    Current (events ++ [event]) side stored := by
  apply current.append
  · intro new left sameSide sameQuery
    rw [Event.stored?_of_answered? seen] at left
    have sameKey := (answers.warrants_of_stored? left).key_eq
    rcases Answered.stored?_eq_some_iff.1 left with ⟨query, write, _, written, accepted, rfl⟩
    rcases spared write written with refused | otherSide | otherKey
    · exact accepted refused
    · exact otherSide sameSide.symm
    · exact otherKey (sameQuery ▸ sameKey.symm)
  · intro lookup made sameQuery
    rw [Event.lookup?_of_answered? seen] at made
    rcases warrants.exists_family with ⟨family, address⟩
    rw [← sameQuery] at address present
    rw [answers.gone lookup family made address side] at present
    contradiction

end Answers

/-- What is known of a pipeline after the events of a run. -/
structure Traced (config : Config) (events : List Event) (pipeline : Pipeline) : Prop where
  configured : Configured config pipeline
  warranted : ∀ stored ∈ Event.history events,
    Warrants config stored.query stored.source stored.write
  punctual : ∀ stored ∈ Event.history events, stored.time ≤ pipeline.now
  explained : Explained (Current events) pipeline

namespace Traced

variable {config : Config} {events : List Event} {pipeline : Pipeline}

theorem start (config : Config) (channelDepth : Nat) (names : NameSet) :
    Traced config [] (start config channelDepth names) where
  configured := .start config channelDepth names
  warranted := by simp [Event.history]
  punctual := by simp [Event.history]
  explained := .start _ config channelDepth names

theorem holdsAnswers (traced : Traced config events pipeline) : pipeline.HoldsAnswers := by
  intro key entry found
  rcases traced.explained .positive key entry found with ⟨stored, current, _, response, _⟩
  rw [response]
  have member := Stored.mem_of_last? current.last
  exact (traced.warranted stored member).exists_answer (Stored.side_of_last? current.last)

/-- A valid entry for an address query is what was stored last for that very query. -/
theorem exists_current_of_valid? (traced : Traced config events pipeline) (side : CacheSide)
    {query : Query} {family : AddressFamily} {response : CachedResponse}
    (address : query.family? = some family)
    (found : (pipeline.cache side).valid? pipeline.now query.key = some response) :
    ∃ stored, Current events side stored ∧ stored.query = query ∧
      stored.write.response = response ∧
      pipeline.now < stored.time + stored.write.lifetime := by
  apply traced.explained.exists_of_valid? _ address found
  intro side stored current
  exact (traced.warranted stored (Stored.mem_of_last? current.last)).exists_family

/-- A message that is answered from a cache gets what was stored there last for its query. -/
theorem exists_servedFrom (traced : Traced config events pipeline) {step : Step}
    {answered : Answered} (seen : (pipeline.step step).2.answered? = some answered)
    (cached : answered.resolution.source = .positiveCache ∨
      answered.resolution.source = .negativeCache) :
    ∃ stored side, Current events side stored ∧
      answered.ServedFrom (Event.history events) stored ∧
      answered.time < stored.time + stored.write.lifetime := by
  rw [(inquire_of_answered? seen).1]
  rcases answered with ⟨time, inquiry, resolution⟩
  have resolves : Resolves pipeline inquiry resolution := resolves_of_answered? seen
  cases resolves with
  | malformed | blocked | passedOn | forwarded =>
      rcases cached with absurdly | absurdly <;> contradiction
  | remembered first address found =>
      rcases traced.exists_current_of_valid? .positive address found with
        ⟨stored, current, rfl, stores, unexpired⟩
      exact ⟨stored, .positive, current, .answer first current.last stores rfl rfl, unexpired⟩
  | refused first address _ found =>
      rcases traced.exists_current_of_valid? .negative address found with
        ⟨stored, current, rfl, _, unexpired⟩
      have member := Stored.mem_of_last? current.last
      have stores := (traced.warranted stored member).response_eq_failed
        (Stored.side_of_last? current.last)
      exact ⟨stored, .negative, current, .failure first current.last stores rfl rfl, unexpired⟩

/-- A step that answers no message leaves everything explained. -/
theorem append_of_silent (traced : Traced config events pipeline) {event : Event}
    {next : Pipeline} (silent : event.answered? = none) (sheds : Sheds pipeline next)
    (later : pipeline.now ≤ next.now) : Traced config (events ++ [event]) next := by
  have unstored : event.stored? = none := by simp [Event.stored?, silent]
  have unasked : event.lookup? = none := by simp [Event.lookup?, silent]
  have same := @Event.history_append_of_stored?_eq_none events event unstored
  refine ⟨traced.configured.of_sheds sheds, ?_, ?_, ?_⟩
  · rw [same]
    exact traced.warranted
  · intro stored member
    rw [same] at member
    exact Nat.le_trans (traced.punctual stored member) later
  · intro side key entry found
    rcases traced.explained.of_sheds sheds side key entry found with ⟨stored, current, rest⟩
    refine ⟨stored, current.append ?_ ?_, rest⟩
    · simp [unstored]
    · simp [unasked]

/-- Answering a message leaves everything explained. -/
theorem append_of_answers (traced : Traced config events pipeline) {event : Event}
    {answered : Answered} {shed : Pipeline} (answers : Answers config pipeline shed answered)
    (seen : event.answered? = some answered) :
    Traced config (events ++ [event]) (shed.remember answered.resolution.write) := by
  have left := Event.stored?_of_answered? seen
  have new {stored : Stored} (member : stored ∈ Event.history (events ++ [event])) :
      stored ∈ Event.history events ∨ answered.stored? = some stored := by
    simpa [Event.history, left] using member
  refine ⟨(traced.configured.of_sheds answers.sheds).remember _, ?_, ?_, ?_⟩
  · intro stored member
    rcases new member with old | left
    · exact traced.warranted stored old
    · exact answers.warrants_of_stored? left
  · intro stored member
    rw [now_remember, answers.now]
    rcases new member with old | left
    · exact traced.punctual stored old
    · exact Nat.le_of_eq (answers.time_of_stored? left)
  · apply (traced.explained.of_sheds answers.sheds).remember
    · intro side stored entry present current spared
      have member := Stored.mem_of_last? current.last
      exact answers.current_append seen current (traced.warranted stored member) present spared
    · intro write written accepted
      rcases answers.exists_stored written accepted with ⟨stored, left, rfl⟩
      have warrants := answers.warrants_of_stored? left
      have time := answers.time_of_stored? left
      exact ⟨stored, answers.current_of_stored? seen left, warrants.key_eq.symm, rfl,
        time.trans answers.now.symm⟩

/-- A step that answers a message makes entries go, and then remembers the outcome. -/
theorem exists_answers (traced : Traced config events pipeline) {step : Step}
    {answered : Answered} (seen : (pipeline.step step).2.answered? = some answered) :
    ∃ shed, Answers config pipeline shed answered ∧
      (pipeline.step step).1 = shed.remember answered.resolution.write := by
  rcases inquire_of_answered? seen with ⟨time, sameNext, sameResolution⟩
  have named (outcome : Except Error Message)
      (source : answered.resolution.source = .servers outcome) :=
    (resolves_of_answered? seen).outcome_of_servers source
  rw [sameNext]
  rcases inquire_cases pipeline answered.inquiry with
    ⟨next, resolution, begun, same⟩ | ⟨next, pending, begun, same⟩
  · rw [same] at sameResolution ⊢
    subst sameResolution
    rcases begun.exists_sheds_of_answered with ⟨shed, sheds, now, remembered, vacant⟩
    refine ⟨shed, ⟨time, sheds, now, ?_, named, ?_, vacant traced.holdsAnswers⟩, remembered⟩
    · intro write written
      exact begun.warrants traced.configured written
    · intro lookup family made
      rw [Answered.lookup?_eq_none begun.isForwarded_eq_false_of_answered] at made
      contradiction
  · simp only [same, finish] at sameResolution ⊢
    rcases begun.sheds_of_forwarded with ⟨sheds, now⟩
    rcases begun.pending_of_forwarded with ⟨_, first⟩
    have configured := traced.configured.of_sheds sheds
    refine ⟨next, ⟨time, sheds, now, ?_, named, ?_, ?_⟩, by rw [sameResolution]⟩
    · intro write written
      rw [sameResolution] at written ⊢
      exact ⟨pending.query, first, warrants_outcomeResolution configured written⟩
    · intro lookup family made address side
      rcases Answered.lookup?_eq_some_iff.1 made with ⟨query, sameFirst, _, rfl⟩
      cases first.symm.trans sameFirst
      exact begun.absent_of_forwarded address traced.holdsAnswers side
    · intro write written side
      rw [sameResolution] at written
      have warrants := warrants_outcomeResolution configured written
      rcases warrants.exists_family with ⟨family, address⟩
      rw [warrants.key_eq]
      exact begun.absent_of_forwarded address traced.holdsAnswers side

/-- Each step leaves everything explained. -/
theorem step (traced : Traced config events pipeline) (step : Step) :
    Traced config (events ++ [(pipeline.step step).2]) (pipeline.step step).1 := by
  cases seen : (pipeline.step step).2.answered? with
  | none =>
      exact traced.append_of_silent seen (sheds_of_answered?_eq_none seen)
        (now_le_step pipeline step)
  | some answered =>
      rcases traced.exists_answers seen with ⟨shed, answers, remembered⟩
      rw [remembered]
      exact traced.append_of_answers answers seen

/-- A run leaves everything explained. -/
theorem after (traced : Traced config events pipeline) (steps : List Step) :
    Traced config (events ++ pipeline.trace steps) (pipeline.after steps) := by
  induction steps generalizing events pipeline with
  | nil => simpa using traced
  | cons step steps ih => simpa using ih (traced.step step)

theorem run (config : Config) (channelDepth : Nat) (names : NameSet) (steps : List Step) :
    Traced config ((Pipeline.start config channelDepth names).trace steps)
      ((Pipeline.start config channelDepth names).after steps) :=
  (start config channelDepth names).after steps

end Traced

end Pipeline

end DnsFilter
