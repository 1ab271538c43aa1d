import DnsFilter.Proofs.Pipeline.Blocking

/-!
# Transparency of the caches

As long as the servers always say the same about the same query, and the block set stays, no client
can tell whether the caches are there: each receives what an empty pipeline would have answered.
-/

namespace DnsFilter

namespace Pipeline

/-- That a step neither replaces the block set nor asks servers that go back on their word: what
they say depends on the query alone, be it that they fail or which message they send. -/
def Step.IsStationary (servers : Query → Option Message) : Step → Prop
  | .resolve inquiry | .handle inquiry _ =>
      ∀ query, inquiry.query? = some query → inquiry.outcome.toOption = servers query
  | .change made => ∀ names, made ≠ .reload names

/-- What a request is answered without caches. -/
def uncachedResponse (config : Config) (blocked : BlockSet) (servers : Query → Option Message)
    (request : Message) : Message :=
  match request.queries.head? with
  | none => request.failure .formatError
  | some query =>
      let asked :=
        match servers query with
        | some message => message.withId request.id
        | none => request.failure .serverFailure
      match query.family? with
      | none => asked
      | some family =>
          if blocked.blocks (Question.ofQuery query).name then
            blockedResponse config request query family
          else asked

theorem blocked_step_of_isStationary {servers : Query → Option Message} {step : Step}
    (stationary : step.IsStationary servers) (pipeline : Pipeline) :
    (pipeline.step step).1.blocked = pipeline.blocked := by
  cases step with
  | resolve inquiry => exact blocked_inquire pipeline inquiry
  | handle inquiry delivered =>
      cases ordinary : inquiry.request.isOrdinaryQuery with
      | true => rw [step_handle_of_ordinary ordinary, blocked_inquire]
      | false => rw [step_handle_of_extraordinary ordinary]
  | change change =>
      cases change with
      | reload names => exact absurd rfl (stationary names)
      | advance | purge | settle => rfl

theorem blocked_after_of_isStationary {servers : Query → Option Message} {steps : List Step}
    (stationary : ∀ step ∈ steps, step.IsStationary servers) (pipeline : Pipeline) :
    (pipeline.after steps).blocked = pipeline.blocked := by
  induction steps generalizing pipeline with
  | nil => rfl
  | cons step steps ih =>
      rw [after_cons, ih fun later member => stationary later (.tail step member),
        blocked_step_of_isStationary (stationary step (.head steps))]

/-- What the servers say to a message of a stationary step. -/
theorem Step.IsStationary.outcome {servers : Query → Option Message} {step : Step}
    (stationary : step.IsStationary servers) {pipeline : Pipeline} {answered : Answered}
    {query : Query} (seen : (pipeline.step step).2.answered? = some answered)
    (first : answered.inquiry.query? = some query) :
    answered.inquiry.outcome.toOption = servers query := by
  rcases Step.eq_of_answered? seen with rfl | ⟨inquiry, delivered, rfl, same⟩
  · exact stationary query first
  · rw [same] at first ⊢
    exact stationary query (inquiry.query?_forwardable ▸ first)

/-- That a stored outcome comes from where a block set and servers that stay the same say. -/
structure AgreesWith (blocked : BlockSet) (servers : Query → Option Message) (query : Query)
    (source : Source) : Prop where
  blocks : source = .nullRoute ↔ blocked.blocks (Question.ofQuery query).name = true
  said : ∀ outcome, source = .servers outcome →
    ∃ id, outcome.toOption = (servers query).map fun message => message.withId id

theorem AgreesWith.unblocked {blocked : BlockSet} {servers : Query → Option Message}
    {query : Query} {source : Source} (agrees : AgreesWith blocked servers query source)
    (looked : source ≠ .nullRoute) : blocked.blocks (Question.ofQuery query).name = false := by
  rw [Bool.eq_false_iff]
  intro blocks
  exact looked (agrees.blocks.2 blocks)

theorem agreesWith_of_mem_history {servers : Query → Option Message} {steps : List Step}
    (stationary : ∀ step ∈ steps, step.IsStationary servers) {pipeline : Pipeline}
    {stored : Stored} (member : stored ∈ Event.history (pipeline.trace steps)) :
    AgreesWith pipeline.blocked servers stored.query stored.source := by
  rcases exists_step_of_mem_history member with ⟨front, step, back, answered, rfl, seen, left⟩
  have sameBlocked : (pipeline.after front).blocked = pipeline.blocked :=
    blocked_after_of_isStationary (fun step member => stationary step (by simp [member])) pipeline
  constructor
  · rw [← sameBlocked]
    exact nullRoute_iff_blocks seen left
  · intro outcome source
    rcases Answered.stored?_eq_some_iff.1 left with ⟨query, write, first, _, _, rfl⟩
    have named := (resolves_of_answered? seen).outcome_of_servers source
    refine ⟨answered.inquiry.request.id, ?_⟩
    rw [← (stationary step (by simp)).outcome seen first, named]
    cases answered.inquiry.outcome <;> rfl

section

variable {config : Config} {blocked : BlockSet} {servers : Query → Option Message}
  {query : Query} {family : AddressFamily} {source : Source} {write : CacheWrite}
  {original : Message}

/-- What a query that is not blocked is answered without caches is what the servers say. -/
theorem uncachedResponse_of_unblocked (first : original.queries.head? = some query)
    (unblocked : query.family? = none ∨ blocked.blocks (Question.ofQuery query).name = false) :
    uncachedResponse config blocked servers original =
      match servers query with
      | some message => message.withId original.id
      | none => original.failure .serverFailure := by
  unfold uncachedResponse
  rcases unblocked with noAddress | unblocked
  · simp [first, noAddress]
  · cases address : query.family? <;> simp [first, address, unblocked]

/-- A remembered answer reaches a client as if it had been given to the client's own request. -/
theorem response_withId_eq_uncached {template : Message}
    (warrants : Warrants config query source write)
    (agrees : AgreesWith blocked servers query source)
    (stores : write.response = .answer template)
    (address : query.family? = some family) (first : original.queries.head? = some query)
    (request : Message) (id : UInt16) :
    request.response (template.withId id) =
      request.response (uncachedResponse config blocked servers original) := by
  cases warrants with
  | block sameAddress =>
      cases stores
      cases address.symm.trans sameAddress
      simp only [uncachedResponse, first, address, agrees.blocks.1 rfl, if_true]
      rfl
  | answer =>
      cases stores
      have unblocked := agrees.unblocked nofun
      rcases agrees.said _ rfl with ⟨otherId, given⟩
      rcases Option.map_eq_some_iff.1 given.symm with ⟨answer, answers, rfl⟩
      rw [uncachedResponse_of_unblocked first (Or.inr unblocked), answers]
      rfl
  | failure => contradiction

/-- A remembered failure is what the servers would come to again. -/
theorem failure_eq_uncached (warrants : Warrants config query source write)
    (agrees : AgreesWith blocked servers query source) (stores : write.response = .failed)
    (first : original.queries.head? = some query) :
    original.failure .serverFailure = uncachedResponse config blocked servers original := by
  cases warrants with
  | block | answer => contradiction
  | failure =>
      have unblocked := agrees.unblocked nofun
      rcases agrees.said _ rfl with ⟨otherId, given⟩
      have fails : servers query = none := Option.map_eq_none_iff.1 given.symm
      rw [uncachedResponse_of_unblocked first (Or.inr unblocked), fails]

theorem response_outcomeResolution (pipeline : Pipeline) (pending : Pending)
    {outcome : Except Error Message} (said : outcome.toOption = servers pending.query) :
    (pipeline.outcomeResolution pending outcome).response =
      match servers pending.query with
      | some message => message.withId pending.request.id
      | none => pending.request.failure .serverFailure := by
  rw [← said]
  cases outcome <;> rfl

/-- What a client is given in a stationary run does not depend on the caches. -/
theorem response_inquire_eq_uncached {events : List Event} {pipeline : Pipeline}
    (traced : Traced config events pipeline)
    (agrees : ∀ stored ∈ Event.history events,
      AgreesWith pipeline.blocked servers stored.query stored.source)
    {inquiry : Inquiry}
    (said : ∀ query, inquiry.query? = some query → inquiry.outcome.toOption = servers query)
    (request : Message) :
    request.response (pipeline.inquire inquiry).2.response =
      request.response
        (uncachedResponse config pipeline.blocked servers inquiry.request) := by
  have resolves := resolves_inquire pipeline inquiry
  generalize (pipeline.inquire inquiry).2 = resolution at resolves
  cases resolves with
  | malformed absent =>
      have noQuery : inquiry.request.queries.head? = none := absent
      simp only [uncachedResponse, noQuery]
  | remembered first address found =>
      rcases traced.exists_current_of_valid? .positive address found with
        ⟨stored, current, rfl, stores, _⟩
      have member := Stored.mem_of_last? current.last
      exact response_withId_eq_uncached (traced.warranted stored member)
        (agrees stored member) stores address first request inquiry.request.id
  | refused first address _ found =>
      rcases traced.exists_current_of_valid? .negative address found with
        ⟨stored, current, rfl, _, _⟩
      have member := Stored.mem_of_last? current.last
      have warrants := traced.warranted stored member
      have stores := warrants.response_eq_failed (Stored.side_of_last? current.last)
      rw [failure_eq_uncached warrants (agrees stored member) stores first]
  | @blocked query _ first address _ _ blocked =>
      have firstQuery : inquiry.request.queries.head? = some query := first
      simp only [uncachedResponse, firstQuery, address, blocked, if_true, traced.configured.settings]
      rfl
  | passedOn first other =>
      rw [uncachedResponse_of_unblocked first (Or.inl other),
        response_outcomeResolution pipeline _ (said _ first)]
  | forwarded first _ _ _ unblocked =>
      rw [uncachedResponse_of_unblocked first (Or.inr unblocked),
        response_outcomeResolution pipeline _ (said _ first)]

/-- What the client of a request receives in a stationary run does not depend on the caches. -/
theorem received?_step_eq {events otherEvents : List Event} {pipeline other : Pipeline}
    (traced : Traced config events pipeline) (otherTraced : Traced config otherEvents other)
    (agrees : ∀ stored ∈ Event.history events,
      AgreesWith pipeline.blocked servers stored.query stored.source)
    (otherAgrees : ∀ stored ∈ Event.history otherEvents,
      AgreesWith other.blocked servers stored.query stored.source)
    (sameBlocked : pipeline.blocked = other.blocked) {step : Step}
    (stationary : step.IsStationary servers) :
    (pipeline.step step).2.received? = (other.step step).2.received? := by
  cases step with
  | resolve inquiry => rfl
  | change made => rfl
  | handle inquiry delivered =>
      cases ordinary : inquiry.request.isOrdinaryQuery with
      | false => simp only [step_handle_of_extraordinary ordinary, Event.received?]
      | true =>
          have said (query : Query) (first : inquiry.forwardable.query? = some query) :
              inquiry.forwardable.outcome.toOption = servers query :=
            stationary query (inquiry.query?_forwardable ▸ first)
          have response := response_inquire_eq_uncached traced agrees said inquiry.request
          rw [sameBlocked, ← response_inquire_eq_uncached otherTraced otherAgrees said] at response
          simp only [step_handle_of_ordinary ordinary, Event.received?, Handling.received?,
            Handling.sent?, response]

/-- A trace tells of each step the same as another account of the steps if that holds in each state
that the run comes through. -/
theorem map_trace_eq_map {α : Type} {pipeline : Pipeline} {steps : List Step} {view : Event → α}
    {account : Step → α}
    (same : ∀ front step back, steps = front ++ step :: back →
      view ((pipeline.after front).step step).2 = account step) :
    (pipeline.trace steps).map view = steps.map account := by
  induction steps generalizing pipeline with
  | nil => rfl
  | cons step steps ih =>
      have here : view (pipeline.step step).2 = account step := same [] step steps rfl
      rw [trace_cons, List.map_cons, List.map_cons, here]
      refine congrArg (account step :: ·) (ih fun front later back split => ?_)
      exact same (step :: front) later back (by rw [split, List.cons_append])

/-- As long as the block set stays and the servers keep saying the same about the same query, each
client receives what an empty pipeline gives to its request, whatever was remembered, has expired or
was evicted. -/
theorem caches_are_transparent (config : Config) (channelDepth : Nat) (names : NameSet)
    (servers : Query → Option Message) (steps : List Step)
    (stationary : ∀ step ∈ steps, step.IsStationary servers) :
    ((start config channelDepth names).trace steps).map Event.received? =
      steps.map fun step => ((start config channelDepth names).step step).2.received? := by
  apply map_trace_eq_map
  rintro front step back rfl
  have frontStationary (earlier : Step) (member : earlier ∈ front) :
      earlier.IsStationary servers := stationary earlier (by simp [member])
  have sameBlocked :=
    blocked_after_of_isStationary frontStationary (start config channelDepth names)
  apply received?_step_eq (Traced.run config channelDepth names front)
    (Traced.start config channelDepth names) ?_ ?_ sameBlocked (stationary step (by simp))
  · intro stored member
    rw [sameBlocked]
    exact agreesWith_of_mem_history frontStationary member
  · simp [Event.history]

end

/-- Handled once more, the sample gets the same response from the cache. -/
theorem caches_are_transparent_on_sample :
    ((start {} 1 ∅).trace [.handle sampleInquiry true, .handle sampleInquiry true]).map
        Event.received? =
      [((start {} 1 ∅).step (.handle sampleInquiry true)).2.received?,
        ((start {} 1 ∅).step (.handle sampleInquiry true)).2.received?] := by
  have stationary (step : Step)
      (member : step ∈ [.handle sampleInquiry true, .handle sampleInquiry true]) :
      step.IsStationary fun _ => sampleInquiry.outcome.toOption := by
    simp only [List.mem_cons, List.not_mem_nil, or_false, or_self] at member
    subst member
    intro query first
    rfl
  exact caches_are_transparent {} 1 ∅ (fun _ => sampleInquiry.outcome.toOption) _ stationary

end Pipeline

end DnsFilter
