import DnsFilter.Proofs.Pipeline.History

/-!
# Enforcement of the block set

While a name is blocked no lookup is made for it, and while it is not no null route is made up for
it. What was remembered from before the block set came to be so can be served until it expires, and
no longer.
-/

namespace DnsFilter

namespace Pipeline

/-- Whether a name is blocked. -/
def Blocks (pipeline : Pipeline) (name : DomainName) : Prop :=
  pipeline.blocked.blocks (normalizeName name.toText) = true

/-- The response for a blocked name: no error, and a single record that leads nowhere. -/
structure IsNullRoute (config : Config) (query : Query) (family : AddressFamily)
    (response : Message) : Prop where
  rcode : response.rcode = .noError
  answers : response.answers =
    [{ owner := query.name
       recordType := addressType family
       ttl := config.ttl
       data := some (nullRoute config family) }]
  authorities : response.authorities = []
  additionals : response.additionals = []

theorem IsNullRoute.blockedResponse (config : Config) (request : Message) (query : Query)
    (family : AddressFamily) :
    IsNullRoute config query family (blockedResponse config request query family) :=
  ⟨rfl, rfl, rfl, rfl⟩

theorem IsNullRoute.withId {config : Config} {query : Query} {family : AddressFamily}
    {response : Message} (isNullRoute : IsNullRoute config query family response) (id : UInt16) :
    IsNullRoute config query family (response.withId id) :=
  ⟨isNullRoute.rcode, isNullRoute.answers, isNullRoute.authorities, isNullRoute.additionals⟩

namespace Warrants

variable {config : Config} {query : Query} {source : Source} {write : CacheWrite}

theorem lifetime_le (warrants : Warrants config query source write)
    (looked : source ≠ .nullRoute) : write.lifetime ≤ config.expire * 1000 := by
  cases warrants with
  | block => exact absurd rfl looked
  | answer => exact Nat.min_le_left _ _
  | failure => exact Nat.mul_le_mul_left config.expire (by decide)

theorem isNullRoute {family : AddressFamily} {template : Message}
    (warrants : Warrants config query .nullRoute write) (address : query.family? = some family)
    (stores : write.response = .answer template) :
    IsNullRoute config query family template := by
  cases warrants with
  | @block other sameAddress request =>
      cases stores
      cases address.symm.trans sameAddress
      exact .blockedResponse config request query family

end Warrants

theorem IsNullRoute.of_servedFrom {config : Config} {family : AddressFamily}
    {answered : Answered} {history : List Stored} {stored : Stored}
    (warrants : Warrants config stored.query .nullRoute stored.write)
    (served : answered.ServedFrom history stored)
    (address : stored.query.family? = some family) :
    IsNullRoute config stored.query family answered.resolution.response := by
  cases served with
  | answer _ _ stores _ response =>
      rw [response]
      exact (warrants.isNullRoute address stores).withId _
  | failure _ _ stores => exact absurd stores warrants.response_ne_failed

/-- What is stored for a name that is blocked is its null route, and for any other name it is not.
-/
theorem nullRoute_iff_blocks {pipeline : Pipeline} {step : Step} {answered : Answered}
    {stored : Stored} (seen : (pipeline.step step).2.answered? = some answered)
    (left : answered.stored? = some stored) :
    stored.source = .nullRoute ↔ pipeline.Blocks stored.query.name := by
  rcases Answered.stored?_eq_some_iff.1 left with ⟨query, write, first, written, _, rfl⟩
  rcases answered with ⟨time, inquiry, resolution⟩
  have resolves : Resolves pipeline inquiry resolution := resolves_of_answered? seen
  cases resolves with
  | malformed | remembered | refused => contradiction
  | passedOn sameFirst other => simp [outcomeResolution, other] at written
  | blocked sameFirst _ _ _ blocked =>
      cases first.symm.trans sameFirst
      exact iff_of_true rfl blocked
  | forwarded sameFirst _ _ _ unblocked =>
      cases first.symm.trans sameFirst
      exact iff_of_false (by simp [outcomeResolution]) (Bool.eq_false_iff.1 unblocked)

/-- What a run stored was left by a step of it, in the state after the steps before it. -/
theorem exists_step_of_mem_history {pipeline : Pipeline} {steps : List Step} {stored : Stored}
    (member : stored ∈ Event.history (pipeline.trace steps)) :
    ∃ front step back answered, steps = front ++ step :: back ∧
      ((pipeline.after front).step step).2.answered? = some answered ∧
      answered.stored? = some stored := by
  rcases List.mem_filterMap.1 member with ⟨event, traced, left⟩
  rcases exists_step_of_mem_trace traced with ⟨front, step, back, split, rfl⟩
  rcases Option.bind_eq_some_iff.1 left with ⟨answered, seen, stored?⟩
  exact ⟨front, step, back, answered, split, seen, stored?⟩

/-- What was stored against the block set of the later part of a run was stored before that part. -/
theorem mem_history_of_not_iff {pipeline : Pipeline} {earlier later : List Step} {stored : Stored}
    (member : stored ∈ Event.history (pipeline.trace (earlier ++ later)))
    (against : ∀ part, part <+: later →
      ¬(stored.source = .nullRoute ↔
        (pipeline.after (earlier ++ part)).Blocks stored.query.name)) :
    stored ∈ Event.history (pipeline.trace earlier) := by
  rw [trace_append, Event.history_append, List.mem_append] at member
  refine member.resolve_right fun recent => ?_
  rcases exists_step_of_mem_history recent with
    ⟨front, step, back, answered, split, seen, left⟩
  apply against front (split ▸ List.prefix_append front (step :: back))
  rw [after_append]
  exact nullRoute_iff_blocks seen left

/-- A message about a blocked name is answered from a cache, or with the null route. -/
theorem cached_or_nullRoute_of_blocks {pipeline : Pipeline} {step : Step} {answered : Answered}
    {query : Query} {family : AddressFamily}
    (seen : (pipeline.step step).2.answered? = some answered)
    (first : answered.inquiry.query? = some query) (address : query.family? = some family)
    (blocked : pipeline.Blocks query.name) :
    (answered.resolution.source = .positiveCache ∨
        answered.resolution.source = .negativeCache) ∨
      answered.resolution =
        blockResolution pipeline.config answered.inquiry.request query family := by
  rcases answered with ⟨time, inquiry, resolution⟩
  have resolves : Resolves pipeline inquiry resolution := resolves_of_answered? seen
  cases resolves with
  | malformed absent => exact absurd (absent.symm.trans first) (by simp)
  | passedOn sameFirst other =>
      cases first.symm.trans sameFirst
      exact absurd (other.symm.trans address) (by simp)
  | remembered => exact Or.inl (Or.inl rfl)
  | refused => exact Or.inl (Or.inr rfl)
  | blocked sameFirst sameAddress =>
      cases first.symm.trans sameFirst
      cases address.symm.trans sameAddress
      exact Or.inr rfl
  | forwarded sameFirst _ _ _ unblocked =>
      cases first.symm.trans sameFirst
      exact absurd (unblocked.symm.trans blocked) (by simp)

theorem source_ne_nullRoute_of_not_blocks {pipeline : Pipeline} {step : Step}
    {answered : Answered} {query : Query}
    (seen : (pipeline.step step).2.answered? = some answered)
    (first : answered.inquiry.query? = some query) (unblocked : ¬pipeline.Blocks query.name) :
    answered.resolution.source ≠ .nullRoute := by
  rcases answered with ⟨time, inquiry, resolution⟩
  have resolves : Resolves pipeline inquiry resolution := resolves_of_answered? seen
  cases resolves with
  | malformed | passedOn | remembered | refused | forwarded => nofun
  | blocked sameFirst _ _ _ blocked =>
      cases first.symm.trans sameFirst
      exact absurd blocked unblocked

section

variable {config : Config} {channelDepth : Nat} {names : NameSet} {earlier later : List Step}
  {step : Step} {answered : Answered} {query : Query} {family : AddressFamily}

/-- What is served although the block set speaks against it was stored before that came to be so. -/
theorem served_against_blocks {stored : Stored}
    (seen : (((start config channelDepth names).after (earlier ++ later)).step step).2.answered? =
      some answered)
    (served : answered.ServedFrom
      (Event.history ((start config channelDepth names).trace (earlier ++ later))) stored)
    (against : ∀ part, part <+: later →
      ¬(stored.source = .nullRoute ↔
        ((start config channelDepth names).after (earlier ++ part)).Blocks stored.query.name)) :
    stored ∈ Event.history ((start config channelDepth names).trace earlier) ∧
      answered.time <
        ((start config channelDepth names).after earlier).now + stored.write.lifetime := by
  have traced := Traced.run config channelDepth names (earlier ++ later)
  rcases traced.exists_servedFrom seen served.source_eq with
    ⟨other, side, current, otherServed, unexpired⟩
  rcases served.unique otherServed with rfl
  have member := mem_history_of_not_iff (Stored.mem_of_last? current.last) against
  have past := (Traced.run config channelDepth names earlier).punctual stored member
  exact ⟨member, Nat.lt_of_lt_of_le unexpired (Nat.add_le_add_right past _)⟩

theorem nullRoute_or_served_of_blocks
    (seen : (((start config channelDepth names).after (earlier ++ later)).step step).2.answered? =
      some answered)
    (first : answered.inquiry.query? = some query) (address : query.family? = some family)
    (blocked : ∀ part, part <+: later →
      ((start config channelDepth names).after (earlier ++ part)).Blocks query.name) :
    answered.lookup? = none ∧
      (IsNullRoute config query family answered.resolution.response ∨
        ∃ stored ∈ Event.history ((start config channelDepth names).trace earlier),
          answered.ServedFrom
            (Event.history ((start config channelDepth names).trace (earlier ++ later))) stored ∧
          stored.source ≠ .nullRoute ∧
          answered.time <
            ((start config channelDepth names).after earlier).now + config.expire * 1000) := by
  have traced := Traced.run config channelDepth names (earlier ++ later)
  rcases cached_or_nullRoute_of_blocks seen first address (blocked later (List.prefix_refl later))
    with cached | resolution
  · rcases traced.exists_servedFrom seen cached with ⟨stored, _, _, served, _⟩
    have warrants := traced.warranted stored served.mem
    rcases Option.some.inj (served.query?_eq.symm.trans first) with rfl
    constructor
    · apply Answered.lookup?_eq_none
      rcases cached with source | source <;> simp [Resolution.isForwarded, source]
    · by_cases source : stored.source = .nullRoute
      · rw [source] at warrants
        exact Or.inl (.of_servedFrom warrants served address)
      · rcases served_against_blocks seen served fun part front agree =>
            source (agree.2 (blocked part front)) with ⟨member, bound⟩
        have lifetime := warrants.lifetime_le source
        exact Or.inr ⟨stored, member, served, source, by omega⟩
  · constructor
    · apply Answered.lookup?_eq_none
      rw [resolution]
      rfl
    · rw [resolution, traced.configured.settings]
      exact Or.inl (.blockedResponse config answered.inquiry.request query family)

end

/-- What holds of queries for a name from the moment on at which it is blocked for good, or
unblocked for good. Blocked, an address query makes no lookup and gets the null route, unless an
answer of the servers or a failure from before that moment is served, which ends once the time for
answers has passed. Unblocked, no null route is made up, and one from before that moment is only
served until its TTL has passed. -/
theorem block_set_is_enforced (config : Config) (channelDepth : Nat) (names : NameSet)
    (earlier later : List Step) (step : Step) (answered : Answered) (query : Query)
    (seen : (((start config channelDepth names).after (earlier ++ later)).step step).2.answered? =
      some answered)
    (first : answered.inquiry.query? = some query) :
    ((∀ part, part <+: later →
        ((start config channelDepth names).after (earlier ++ part)).Blocks query.name) →
      ∀ family, query.family? = some family →
        answered.lookup? = none ∧
        (IsNullRoute config query family answered.resolution.response ∨
          ∃ stored ∈ Event.history ((start config channelDepth names).trace earlier),
            answered.ServedFrom
              (Event.history ((start config channelDepth names).trace (earlier ++ later)))
              stored ∧
            stored.source ≠ .nullRoute ∧
            answered.time <
              ((start config channelDepth names).after earlier).now + config.expire * 1000) ∧
        (earlier = [] → IsNullRoute config query family answered.resolution.response)) ∧
    ((∀ part, part <+: later →
        ¬((start config channelDepth names).after (earlier ++ part)).Blocks query.name) →
      answered.resolution.source ≠ .nullRoute ∧
      ∀ stored,
        answered.ServedFrom
          (Event.history ((start config channelDepth names).trace (earlier ++ later))) stored →
        stored.source = .nullRoute →
        stored ∈ Event.history ((start config channelDepth names).trace earlier) ∧
        answered.time <
          ((start config channelDepth names).after earlier).now + config.ttl.toNat * 1000) := by
  constructor
  · intro blocked family address
    rcases nullRoute_or_served_of_blocks seen first address blocked with ⟨unasked, response⟩
    refine ⟨unasked, response, ?_⟩
    rintro rfl
    exact response.resolve_right (by simp [Event.history])
  · intro unblocked
    have source := source_ne_nullRoute_of_not_blocks seen first
      (unblocked later (List.prefix_refl later))
    refine ⟨source, fun stored served source => ?_⟩
    rcases Option.some.inj (served.query?_eq.symm.trans first) with rfl
    have warrants :=
      (Traced.run config channelDepth names (earlier ++ later)).warranted stored served.mem
    rw [source] at warrants
    rw [← warrants.lifetime_eq_of_nullRoute]
    exact served_against_blocks seen served fun part front agree =>
      unblocked part front (agree.1 source)

/-- The null route of the sample query under the default configuration. -/
def sampleNullRoute : Stored where
  time := 0
  query := sampleQuery
  source := .nullRoute
  write :=
    { side := .positive
      key := sampleQuery.key
      response := .answer (blockedResponse {} sampleInquiry.request sampleQuery .v4)
      lifetime := 600000 }

/-- A name that is blocked from the start, and then unblocked while its null route is remembered. -/
theorem block_set_is_enforced_on_sample :
    (∃ answered : Answered,
      ((start {} 1 (.ofList ["a"])).step (.resolve sampleInquiry)).2.answered? = some answered ∧
      answered.lookup? = none ∧
      IsNullRoute {} sampleQuery .v4 answered.resolution.response) ∧
    ∃ answered stored,
      (((start {} 1 (.ofList ["a"])).after
        [.resolve sampleInquiry, .change (.reload ∅), .change (.advance 599999)]).step
          (.resolve sampleInquiry)).2.answered? = some answered ∧
      answered.ServedFrom
        (Event.history ((start {} 1 (.ofList ["a"])).trace
          [.resolve sampleInquiry, .change (.reload ∅), .change (.advance 599999)])) stored ∧
      stored.source = .nullRoute ∧
      answered.time < 600 * 1000 := by
  constructor
  · have enforced := block_set_is_enforced {} 1 (.ofList ["a"]) [] [] (.resolve sampleInquiry) _
      sampleQuery rfl rfl
    have blocked (part : List Step) (front : part <+: []) :
        ((start {} 1 (.ofList ["a"])).after ([] ++ part)).Blocks sampleQuery.name := by
      rw [List.prefix_nil.1 front]
      rfl
    rcases enforced.1 blocked .v4 rfl with ⟨unasked, _, response⟩
    exact ⟨_, rfl, unasked, response rfl⟩
  · have enforced := block_set_is_enforced {} 1 (.ofList ["a"])
      [.resolve sampleInquiry, .change (.reload ∅)] [.change (.advance 599999)]
      (.resolve sampleInquiry) _ sampleQuery rfl rfl
    have unblocked (part : List Step) (front : part <+: [.change (.advance 599999)]) :
        ¬((start {} 1 (.ofList ["a"])).after
          ([.resolve sampleInquiry, .change (.reload ∅)] ++ part)).Blocks sampleQuery.name := by
      rcases List.prefix_cons_iff.1 front with rfl | ⟨rest, rfl, tail⟩
      · nofun
      · rw [List.prefix_nil.1 tail]
        nofun
    have bound :=
      ((enforced.2 unblocked).2 sampleNullRoute (.answer rfl rfl rfl rfl rfl) rfl).2
    exact ⟨_, sampleNullRoute, rfl, .answer rfl rfl rfl rfl rfl, rfl, bound⟩

end Pipeline

end DnsFilter
