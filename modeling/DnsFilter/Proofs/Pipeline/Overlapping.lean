import DnsFilter.Pipeline.Overlap
import DnsFilter.Proofs.Pipeline.Capacity
import DnsFilter.Proofs.Pipeline.Remembering

/-!
# Overlapping queries

Between the two parts of a query others may store under its key, so the key can be present when the
servers' outcome comes in, and then the outcome replaces what is there. An entry is still what was
stored last for its query: whatever stores under its key takes its place.
-/

namespace DnsFilter

/-- What resolving a message stores, with the time and the reason, as it goes into a cache. -/
inductive Pipeline.Leaves (config : Config) (pipeline : Pipeline) :
    Option CacheWrite → Option Stored → Prop where
  | nothing : Leaves config pipeline none none
  | refused {write : CacheWrite} (zero : write.lifetime = 0) :
      Leaves config pipeline (some write) none
  | stored {query : Query} {source : Source} {write : CacheWrite} (accepted : write.lifetime ≠ 0)
      (warrants : Warrants config query source write) :
      Leaves config pipeline (some write) (some { time := pipeline.now, query, source, write })

theorem Resolution.leaves {config : Config} {pipeline : Pipeline} {request : Message}
    {resolution : Resolution}
    (warranted : ∀ write, resolution.write = some write →
      ∃ query, request.queries.head? = some query ∧
        Pipeline.Warrants config query resolution.source write) :
    Pipeline.Leaves config pipeline resolution.write
      (resolution.stored? pipeline.now request) := by
  cases written : resolution.write with
  | none =>
      have unstored : resolution.stored? pipeline.now request = none := by
        simp [stored?, written]
      rw [unstored]
      exact .nothing
  | some write =>
      rcases warranted write written with ⟨query, first, warrants⟩
      by_cases zero : write.lifetime = 0
      · have unstored : resolution.stored? pipeline.now request = none := by
          simp [stored?, written, first, zero]
        rw [unstored]
        exact .refused zero
      · rw [stored?_eq_some_iff.2 ⟨query, write, first, written, zero, rfl⟩]
        exact .stored zero warrants

theorem Pipeline.Begins.response_id_eq {pipeline next : Pipeline} {request : Message}
    {transport : Transport} {client : IPAddress} {resolution : Resolution}
    (begun : pipeline.Begins request transport client next (.answered resolution)) :
    resolution.response.id = request.id := by
  cases begun <;> rfl

theorem Pipeline.outcomeResolution_response_id (pipeline : Pipeline) (pending : Pending)
    (outcome : Except Error Message) :
    (pipeline.outcomeResolution pending outcome).response.id = pending.request.id := by
  cases outcome <;> rfl

namespace Overlap

/-- The ways in which a step can go. -/
inductive Happens (state : Overlap) : Step → Overlap → Event → Prop where
  | answered {request : Message} {transport : Transport} {client : IPAddress}
      {pipeline : Pipeline} {resolution : Resolution}
      (begun : state.pipeline.Begins request transport client pipeline (.answered resolution)) :
      Happens state (.begin request transport client)
        { state with pipeline, nextTicket := state.nextTicket + 1 }
        (.answered state.nextTicket state.pipeline.now request resolution)
  | forwarded {request : Message} {transport : Transport} {client : IPAddress}
      {pipeline : Pipeline} {pending : Pending}
      (begun : state.pipeline.Begins request transport client pipeline (.forwarded pending)) :
      Happens state (.begin request transport client)
        { pipeline
          waiting := state.waiting ++ [(state.nextTicket, pending)]
          nextTicket := state.nextTicket + 1 }
        (.forwarded state.nextTicket state.pipeline.now pending)
  | finished {ticket : Nat} {pending : Pending} (waits : (ticket, pending) ∈ state.waiting)
      (outcome : Except Error Message) :
      Happens state (.finish ticket outcome)
        { state with
          pipeline :=
            state.pipeline.remember (state.pipeline.outcomeResolution pending outcome).write
          waiting := state.waiting.filter fun entry => entry.1 != ticket }
        (.answered ticket state.pipeline.now pending.request
          (state.pipeline.outcomeResolution pending outcome))
  | unknown (ticket : Nat) (outcome : Except Error Message) :
      Happens state (.finish ticket outcome) state (.unknownTicket ticket)
  | changed (change : Pipeline.Change) :
      Happens state (.change change)
        { state with pipeline := (state.pipeline.undergo change).1 }
        (.changed state.pipeline.now (state.pipeline.undergo change).2)

theorem happens_step (state : Overlap) (step : Step) :
    Happens state step (state.step step).1 (state.step step).2 := by
  cases step with
  | begin request transport client =>
      have begun := Pipeline.begins_begin state.pipeline request transport client
      rw [Overlap.step]
      revert begun
      rcases state.pipeline.begin request transport client with ⟨pipeline, progress⟩
      intro begun
      cases progress with
      | answered resolution => exact .answered begun
      | forwarded pending => exact .forwarded begun
  | finish ticket outcome =>
      rw [Overlap.step]
      cases found : state.waiting.lookup ticket with
      | none => exact .unknown ticket outcome
      | some pending =>
          rcases List.lookup_eq_some_iff.1 found with ⟨front, back, waiting, _⟩
          exact .finished (by simp [waiting]) outcome
  | change change => exact .changed change

theorem now_le_step (state : Overlap) (step : Step) :
    state.pipeline.now ≤ (state.step step).1.pipeline.now := by
  have happens := happens_step state step
  revert happens
  rcases state.step step with ⟨next, event⟩
  intro happens
  cases happens with
  | answered begun =>
      rcases begun.exists_sheds_of_answered with ⟨shed, _, now, rfl, _⟩
      exact Nat.le_of_eq (by rw [Pipeline.now_remember, now])
  | forwarded begun => exact begun.sheds_of_forwarded.1.past
  | finished => exact Nat.le_of_eq (Pipeline.now_remember _ _).symm
  | unknown => exact Nat.le_refl _
  | changed change => exact (Pipeline.Sheds.undergo _ change).past

theorem now_le_after (state : Overlap) (steps : List Step) :
    state.pipeline.now ≤ (state.after steps).pipeline.now := by
  induction steps generalizing state with
  | nil => exact Nat.le_refl _
  | cons step steps ih => exact Nat.le_trans (now_le_step state step) (ih _)

/-- What the tickets stand for: each message has its place among those that began, what waits was
asked for by its message, and the servers are asked once for a ticket. -/
structure Ticketed (requests : List Message) (events : List Event) (state : Overlap) : Prop where
  issued : state.nextTicket = requests.length
  waiting : ∀ ticket pending, (ticket, pending) ∈ state.waiting →
    requests[ticket]? = some pending.request ∧
      pending.request.queries.head? = some pending.query
  once : (events.filterMap Event.asked?).Nodup
  earlier : ∀ ticket ∈ events.filterMap Event.asked?, ticket < state.nextTicket

namespace Ticketed

variable {requests : List Message} {events : List Event} {state : Overlap}

theorem start (config : Config) (channelDepth : Nat) (names : NameSet) :
    Ticketed [] [] (start config channelDepth names) where
  issued := rfl
  waiting := by
    intro ticket pending waits
    contradiction
  once := List.nodup_nil
  earlier := by simp

/-- The place of a message stays when others begin. -/
theorem waiting_append (ticketed : Ticketed requests events state) (later : List Message)
    {ticket : Nat} {pending : Pending} (waits : (ticket, pending) ∈ state.waiting) :
    (requests ++ later)[ticket]? = some pending.request ∧
      pending.request.queries.head? = some pending.query := by
  rcases ticketed.waiting ticket pending waits with ⟨place, first⟩
  rcases List.getElem?_eq_some_iff.1 place with ⟨below, _⟩
  rw [List.getElem?_append_left below]
  exact ⟨place, first⟩

/-- As long as the servers are not asked, messages may begin and what waits may be dropped. -/
theorem of_silent {next : Overlap} {event : Event} (ticketed : Ticketed requests events state)
    (silent : event.asked? = none) {later : List Message}
    (issued : next.nextTicket = state.nextTicket + later.length)
    (waiting : ∀ entry ∈ next.waiting, entry ∈ state.waiting) :
    Ticketed (requests ++ later) (events ++ [event]) next where
  issued := by rw [issued, ticketed.issued, List.length_append]
  waiting ticket pending waits := ticketed.waiting_append later (waiting _ waits)
  once := by
    rw [filterMap_append_of_none silent]
    exact ticketed.once
  earlier := by
    rw [filterMap_append_of_none silent]
    intro ticket asked
    exact Nat.lt_of_lt_of_le (ticketed.earlier ticket asked) (by omega)

theorem step (ticketed : Ticketed requests events state) {step : Step} {next : Overlap}
    {event : Event} (happens : Happens state step next event) :
    Ticketed (requests ++ step.begun?.toList) (events ++ [event]) next := by
  cases happens with
  | answered => exact ticketed.of_silent rfl rfl fun entry waits => waits
  | @forwarded request _ _ pipeline pending begun =>
      have asked : (Event.forwarded state.nextTicket state.pipeline.now pending).asked? =
          some state.nextTicket := rfl
      refine ⟨by simp [Step.begun?, ticketed.issued], ?_, ?_, ?_⟩
      · intro ticket other waits
        rcases List.mem_append.1 waits with old | new
        · exact ticketed.waiting_append [request] old
        · cases List.mem_singleton.1 new
          rcases begun.pending_of_forwarded with ⟨rfl, first⟩
          refine ⟨?_, first⟩
          simp [Step.begun?, ticketed.issued]
      · rw [filterMap_append_of_some asked, List.nodup_append]
        refine ⟨ticketed.once, by simp, ?_⟩
        -- The new ticket is above all that were issued.
        intro ticket before other new same
        cases List.mem_singleton.1 new
        exact Nat.lt_irrefl _ (same ▸ ticketed.earlier ticket before)
      · rw [filterMap_append_of_some asked]
        intro ticket member
        rcases List.mem_append.1 member with old | new
        · exact Nat.lt_succ_of_lt (ticketed.earlier ticket old)
        · cases List.mem_singleton.1 new
          exact Nat.lt_succ_self _
  | finished =>
      exact ticketed.of_silent rfl rfl fun entry waits => (List.mem_filter.1 waits).1
  | unknown => exact ticketed.of_silent rfl rfl fun entry waits => waits
  | changed => exact ticketed.of_silent rfl rfl fun entry waits => waits

end Ticketed

/-- What is known of the pipeline after the events of overlapping queries. -/
structure Recalled (config : Config) (events : List Event) (pipeline : Pipeline) : Prop where
  configured : pipeline.Configured config
  orderly : pipeline.Orderly config
  warranted : ∀ stored ∈ Event.history events,
    Pipeline.Warrants config stored.query stored.source stored.write
  punctual : ∀ stored ∈ Event.history events, stored.time ≤ pipeline.now
  explained : pipeline.Explained fun side stored =>
    Pipeline.Stored.last? (Event.history events) side stored.query = some stored

/-- A step makes entries go, and then remembers what it leaves. -/
theorem Happens.exists_leaves {config : Config} {requests : List Message} {events : List Event}
    {state next : Overlap} {step : Step} {event : Event} (happens : Happens state step next event)
    (ticketed : Ticketed requests events state)
    (configured : state.pipeline.Configured config) :
    ∃ shed write, state.pipeline.Sheds shed ∧ next.pipeline = shed.remember write ∧
      Pipeline.Leaves config shed write event.stored? := by
  cases happens with
  | @answered request _ _ _ resolution begun =>
      rcases begun.exists_sheds_of_answered with ⟨shed, sheds, now, remembered, _⟩
      refine ⟨shed, resolution.write, sheds, remembered, ?_⟩
      rw [Event.stored?, ← now]
      exact resolution.leaves fun write written => begun.warrants configured written
  | forwarded begun =>
      exact ⟨_, none, begun.sheds_of_forwarded.1, rfl, .nothing⟩
  | finished waits outcome =>
      rcases ticketed.waiting _ _ waits with ⟨_, first⟩
      refine ⟨_, _, .refl _, rfl, ?_⟩
      apply Resolution.leaves
      intro write written
      exact ⟨_, first, Pipeline.warrants_outcomeResolution configured written⟩
  | unknown => exact ⟨_, none, .refl _, rfl, .nothing⟩
  | changed change => exact ⟨_, none, .undergo _ change, rfl, .nothing⟩

namespace Recalled

variable {config : Config} {events : List Event} {pipeline : Pipeline}

theorem start (config : Config) (channelDepth : Nat) (names : NameSet) :
    Recalled config [] (Pipeline.start config channelDepth names) where
  configured := .start config channelDepth names
  orderly := .start config channelDepth names
  warranted := by simp [Event.history]
  punctual := by simp [Event.history]
  explained := .start _ config channelDepth names

/-- Nothing is stored, or it is refused: the entries that stay are explained as before. -/
theorem of_unstored {shed : Pipeline} {write : Option CacheWrite} {event : Event}
    (recalled : Recalled config events pipeline) (sheds : pipeline.Sheds shed)
    (unstored : event.stored? = none) (refused : ∀ new, write = some new → new.lifetime = 0) :
    Recalled config (events ++ [event]) (shed.remember write) := by
  have history : Event.history (events ++ [event]) = Event.history events :=
    filterMap_append_of_none unstored events
  refine ⟨(recalled.configured.of_sheds sheds).remember write,
    (recalled.orderly.of_sheds sheds).remember write, ?_, ?_, ?_⟩
  · rw [history]
    exact recalled.warranted
  · rw [history, Pipeline.now_remember]
    intro stored member
    exact Nat.le_trans (recalled.punctual stored member) sheds.past
  · rw [history]
    apply (recalled.explained.of_sheds sheds).remember
    · intro side stored entry _ last _
      exact last
    · intro new written accepted
      exact absurd (refused new written) accepted

/-- What is stored takes the place of what was stored last for its query, be that still there or
not. -/
theorem of_stored {shed : Pipeline} {event : Event} {new : Pipeline.Stored}
    (recalled : Recalled config events pipeline) (sheds : pipeline.Sheds shed)
    (left : event.stored? = some new) (accepted : new.write.lifetime ≠ 0)
    (time : new.time = shed.now)
    (warrants : Pipeline.Warrants config new.query new.source new.write) :
    Recalled config (events ++ [event]) (shed.remember (some new.write)) := by
  have history : Event.history (events ++ [event]) = Event.history events ++ [new] :=
    filterMap_append_of_some left events
  refine ⟨(recalled.configured.of_sheds sheds).remember _,
    (recalled.orderly.of_sheds sheds).remember _, ?_, ?_, ?_⟩
  · rw [history]
    intro stored member
    rcases List.mem_append.1 member with old | latest
    · exact recalled.warranted stored old
    · cases List.mem_singleton.1 latest
      exact warrants
  · rw [history, Pipeline.now_remember]
    intro stored member
    rcases List.mem_append.1 member with old | latest
    · exact Nat.le_trans (recalled.punctual stored old) sheds.past
    · cases List.mem_singleton.1 latest
      exact Nat.le_of_eq time
  · rw [history]
    apply (recalled.explained.of_sheds sheds).remember
    -- An entry that stays is another query's: what is stored has just replaced that of its own.
    · intro side stored entry _ last spared
      rw [Pipeline.Stored.last?_append_of_ne]
      · exact last
      · intro sameSide sameQuery
        rcases spared new.write rfl with refused | otherSide | otherKey
        · exact accepted refused
        · exact otherSide sameSide.symm
        · exact otherKey (sameQuery ▸ warrants.key_eq.symm)
    · intro write written _
      cases written
      exact ⟨new, Pipeline.Stored.last?_append_self _ _, warrants.key_eq.symm, rfl, time⟩

theorem step {requests : List Message} {state next : Overlap} {step : Step} {event : Event}
    (recalled : Recalled config events state.pipeline)
    (ticketed : Ticketed requests events state) (happens : Happens state step next event) :
    Recalled config (events ++ [event]) next.pipeline := by
  rcases happens.exists_leaves ticketed recalled.configured with
    ⟨shed, write, sheds, remembered, leaves⟩
  rw [remembered]
  generalize left : event.stored? = stored? at leaves
  cases leaves with
  | nothing =>
      apply recalled.of_unstored sheds left
      intro new written
      contradiction
  | refused zero =>
      apply recalled.of_unstored sheds left
      intro new written
      cases written
      exact zero
  | stored accepted warrants => exact recalled.of_stored sheds left accepted rfl warrants

/-- What is valid for an address query was stored last for that very query. -/
theorem exists_last (recalled : Recalled config events pipeline) {side : CacheSide}
    {query : Query} {family : AddressFamily} {response : CachedResponse}
    (address : query.family? = some family)
    (found : (pipeline.cache side).valid? pipeline.now query.key = some response) :
    ∃ stored, Pipeline.Stored.last? (Event.history events) side stored.query = some stored ∧
      stored.query = query ∧ stored.write.response = response ∧
      pipeline.now < stored.time + stored.write.lifetime := by
  apply recalled.explained.exists_of_valid? _ address found
  intro side stored last
  exact (recalled.warranted stored (Pipeline.Stored.mem_of_last? last)).exists_family

end Recalled

theorem begun_cons (step : Step) (steps : List Step) :
    begun (step :: steps) = step.begun?.toList ++ begun steps := by
  cases begins : step.begun? <;> simp [begun, begins]

theorem begun_append (earlier later : List Step) :
    begun (earlier ++ later) = begun earlier ++ begun later :=
  List.filterMap_append

/-- Steps keep the tickets in order and the caches explained. -/
theorem recalled_after {config : Config} {requests : List Message} {events : List Event}
    {state : Overlap} (ticketed : Ticketed requests events state)
    (recalled : Recalled config events state.pipeline) (steps : List Step) :
    Ticketed (requests ++ begun steps) (events ++ state.trace steps) (state.after steps) ∧
      Recalled config (events ++ state.trace steps) (state.after steps).pipeline := by
  induction steps generalizing requests events state with
  | nil =>
      rw [trace_nil, after_nil, List.append_nil]
      exact ⟨by simpa [begun] using ticketed, recalled⟩
  | cons step steps ih =>
      have happens := happens_step state step
      have rest := ih (ticketed.step happens) (recalled.step ticketed happens)
      rw [begun_cons, trace_cons, after_cons]
      simpa using rest

theorem recalled_run (config : Config) (channelDepth : Nat) (names : NameSet)
    (steps : List Step) :
    Ticketed (begun steps) ((start config channelDepth names).trace steps)
        ((start config channelDepth names).after steps) ∧
      Recalled config ((start config channelDepth names).trace steps)
        ((start config channelDepth names).after steps).pipeline :=
  recalled_after (.start config channelDepth names) (.start config channelDepth names) steps

/-- Each event was left by a step, after the steps that left the events before it. -/
theorem exists_step_of_trace_eq {state : Overlap} {steps : List Step} {front back : List Event}
    {event : Event} (same : state.trace steps = front ++ event :: back) :
    ∃ earlier step later, steps = earlier ++ step :: later ∧
      state.trace earlier = front ∧ ((state.after earlier).step step).2 = event := by
  induction steps generalizing state front with
  | nil => simp at same
  | cons step steps ih =>
      rw [trace_cons] at same
      cases front with
      | nil =>
          rw [List.nil_append, List.cons.injEq] at same
          exact ⟨[], step, steps, rfl, rfl, same.1⟩
      | cons first front =>
          rw [List.cons_append, List.cons.injEq] at same
          rcases ih same.2 with ⟨earlier, middle, later, rfl, rfl, seen⟩
          refine ⟨step :: earlier, middle, later, rfl, ?_, seen⟩
          rw [trace_cons, same.1]

/-- A message is answered under its own id, be it at once or when the servers' outcome comes in. -/
theorem Happens.own_id {requests : List Message} {events : List Event} {state next : Overlap}
    {step : Step} {ticket time : Nat} {request : Message} {resolution : Resolution}
    (happens : Happens state step next (.answered ticket time request resolution))
    (ticketed : Ticketed requests events state) :
    (requests ++ step.begun?.toList)[ticket]? = some request ∧
      resolution.response.id = request.id := by
  cases happens with
  | answered begun =>
      refine ⟨?_, begun.response_id_eq⟩
      simp [Step.begun?, ticketed.issued]
  | finished waits outcome =>
      exact ⟨(ticketed.waiting_append _ waits).1, Pipeline.outcomeResolution_response_id _ _ _⟩

/-- Only a query that begins is answered from the positive cache. -/
theorem Happens.exists_valid {state next : Overlap} {step : Step} {ticket time : Nat}
    {request : Message} {resolution : Resolution}
    (happens : Happens state step next (.answered ticket time request resolution))
    (source : resolution.source = .positiveCache) :
    time = state.pipeline.now ∧ ∃ query family template,
      request.queries.head? = some query ∧ query.family? = some family ∧
      (state.pipeline.cache .positive).valid? state.pipeline.now query.key =
        some (.answer template) ∧
      resolution.response = template.withId request.id := by
  cases happens with
  | answered begun =>
      refine ⟨rfl, ?_⟩
      cases begun with
      | malformed | refused | blocked => contradiction
      | @remembered query family template first address found =>
          exact ⟨query, family, template, first, address, found, rfl⟩
  | finished => contradiction

/-- Whatever overlaps, the caches keep to their capacity, the servers are asked at most once for a
message, each response has the id of its own request, and an answer from the positive cache is what
was stored there last for the same query, within its lifetime: that of an answer for a blocked name,
or as long as the longest time for answers and the TTLs that the servers gave allow. -/
theorem overlapping_answers_are_current (config : Config) (channelDepth : Nat) (names : NameSet)
    (steps : List Step) :
    let state := (start config channelDepth names).after steps
    let events := (start config channelDepth names).trace steps
    (∀ side, (state.pipeline.cache side).size ≤ config.cacheCapacity) ∧
    (events.filterMap Event.asked?).Nodup ∧
    ∀ front ticket time request resolution back,
      events = front ++ .answered ticket time request resolution :: back →
      (begun steps)[ticket]? = some request ∧
      resolution.response.id = request.id ∧
      (resolution.source = .positiveCache →
        ∃ stored template,
          request.queries.head? = some stored.query ∧
          Pipeline.Stored.last? (Event.history front) .positive stored.query = some stored ∧
          stored.write.response = .answer template ∧
          resolution.response = template.withId request.id ∧
          stored.time ≤ time ∧ time < stored.time + stored.write.lifetime ∧
          ((stored.source = .nullRoute ∧ stored.write.lifetime = config.ttl.toNat * 1000) ∨
            (stored.source = .servers (.ok template) ∧
              template.KeptFor config.expire stored.write.lifetime))) := by
  intro state events
  rcases recalled_run config channelDepth names steps with ⟨ticketed, recalled⟩
  refine ⟨recalled.orderly.size_le, ticketed.once, ?_⟩
  intro front ticket time request resolution back split
  rcases exists_step_of_trace_eq split with ⟨earlier, step, later, rfl, rfl, seen⟩
  rcases recalled_run config channelDepth names earlier with ⟨ticketedThen, recalledThen⟩
  have happens := happens_step ((start config channelDepth names).after earlier) step
  rw [seen] at happens
  rcases happens.own_id ticketedThen with ⟨place, ownId⟩
  refine ⟨?_, ownId, ?_⟩
  · rcases List.getElem?_eq_some_iff.1 place with ⟨below, _⟩
    rw [begun_append, begun_cons, ← List.append_assoc, List.getElem?_append_left below]
    exact place
  · intro source
    rcases happens.exists_valid source with
      ⟨now, query, family, template, first, address, found, response⟩
    rcases recalledThen.exists_last address found with ⟨stored, last, rfl, stores, unexpired⟩
    have member := Pipeline.Stored.mem_of_last? last
    have past := recalledThen.punctual stored member
    have warrants := recalledThen.warranted stored member
    rw [← now] at past unexpired
    refine ⟨stored, template, first, last, stores, response, past, unexpired, ?_⟩
    cases reason : stored.source with
    | malformed | positiveCache | negativeCache =>
        rw [reason] at warrants
        contradiction
    | nullRoute =>
        rw [reason] at warrants
        exact Or.inl ⟨rfl, warrants.lifetime_eq_of_nullRoute⟩
    | servers outcome =>
        rw [reason] at warrants
        rcases warrants.exists_least stores with ⟨rfl, least, leastTtl, _, lifetime⟩
        rw [lifetime]
        exact Or.inr ⟨rfl, Message.keptFor_of_leastAnswerTtl? leastTtl config.expire⟩

/-- Two messages ask for the same address before the servers answer. The later answer comes in
first, and the earlier one replaces it. -/
def overlappingSteps : List Step :=
  [.begin (Pipeline.sampleInquiry.request.withId 1) .udp Pipeline.sampleInquiry.client,
    .begin (Pipeline.sampleInquiry.request.withId 2) .tcp Pipeline.sampleInquiry.client,
    .finish 1 (.ok {
      answers :=
        [{ owner := Pipeline.sampleQuery.name
           recordType := .a
           ttl := 10
           data := some (.ipv4 ⟨192, 0, 2, 3⟩) }] }),
    .change (.advance 9999),
    .finish 0 Pipeline.sampleInquiry.outcome,
    .change (.advance 59999),
    .begin (Pipeline.sampleInquiry.request.withId 3) .udp Pipeline.sampleInquiry.client]

theorem sample_overlapping_answer_is_current :
    ∃ front resolution stored template,
      (start {} 1 ∅).trace overlappingSteps =
        front ++ [.answered 2 69998 (Pipeline.sampleInquiry.request.withId 3) resolution] ∧
      resolution.source = .positiveCache ∧
      Pipeline.Stored.last? (Event.history front) .positive Pipeline.sampleQuery = some stored ∧
      stored.write.response = .answer template ∧
      resolution.response = template.withId 3 ∧
      stored.time = 9999 ∧ 69998 < 9999 + stored.write.lifetime ∧
      template.KeptFor 600 stored.write.lifetime := by
  have current := (overlapping_answers_are_current {} 1 ∅ overlappingSteps).2.2
    ((start {} 1 ∅).trace overlappingSteps.dropLast) 2 69998 _ _ [] rfl
  rcases current.2.2 rfl with
    ⟨stored, template, first, last, stores, response, _, unexpired, reason⟩
  rw [← Option.some.inj first] at last
  have found := last
  cases last
  refine ⟨_, _, _, template, rfl, rfl, found, stores, response, rfl, unexpired, ?_⟩
  rcases reason with ⟨source, _⟩ | ⟨_, kept⟩
  · contradiction
  · exact kept

end Overlap

end DnsFilter
