import DnsFilter.Pipeline.Run
import DnsFilter.Proofs.Pipeline.Resolving

/-!
# Steps and runs of a pipeline

What a step of a run does, told from what it leaves to be seen: a step that answers a message
resolves it, and all others only make entries go.
-/

namespace DnsFilter

namespace Pipeline

/-- The servers need the query that is looked at. -/
@[simp]
theorem Inquiry.query?_forwardable (inquiry : Inquiry) :
    inquiry.forwardable.query? = inquiry.query? := by
  simp [query?, forwardable, Message.forwardable, List.head?_take]

/-- A message is answered at once, or with what the servers say. -/
theorem inquire_cases (pipeline : Pipeline) (inquiry : Inquiry) :
    (∃ next resolution,
        Begins pipeline inquiry.request inquiry.transport inquiry.client next
          (.answered resolution) ∧
        pipeline.inquire inquiry = (next, resolution)) ∨
      ∃ next pending,
        Begins pipeline inquiry.request inquiry.transport inquiry.client next
          (.forwarded pending) ∧
        pipeline.inquire inquiry = next.finish pending inquiry.outcome := by
  have begun := begins_begin pipeline inquiry.request inquiry.transport inquiry.client
  cases progress : (pipeline.begin inquiry.request inquiry.transport inquiry.client).2 with
  | answered resolution =>
      rw [progress] at begun
      refine Or.inl ⟨_, resolution, begun, ?_⟩
      simp only [inquire, resolve, progress, conclude]
  | forwarded pending =>
      rw [progress] at begun
      refine Or.inr ⟨_, pending, begun, ?_⟩
      simp only [inquire, resolve, progress, conclude]

/-- The servers are asked about nothing but the message itself, the way it came. -/
theorem resolve_eq_inquire (pipeline : Pipeline) (request : Message) (transport : Transport)
    (client : IPAddress) (ask : Transport → Message → Except Error Message) :
    pipeline.resolve request transport client ask =
      pipeline.inquire { request, transport, client, outcome := ask transport request } := by
  have begun := begins_begin pipeline request transport client
  unfold inquire resolve
  cases progress : (pipeline.begin request transport client).2 with
  | answered resolution => simp only [progress, conclude]
  | forwarded pending =>
      rw [progress] at begun
      simp only [progress, conclude, begun.pending_of_forwarded.1, begun.transport_of_forwarded]

/-- The ways in which a message can be answered. -/
inductive Resolves (pipeline : Pipeline) (inquiry : Inquiry) : Resolution → Prop where
  | malformed (absent : inquiry.query? = none) :
      Resolves pipeline inquiry {
        source := .malformed
        response := inquiry.request.failure .formatError }
  | passedOn {query : Query} (first : inquiry.query? = some query)
      (other : query.family? = none) :
      Resolves pipeline inquiry
        (pipeline.outcomeResolution ⟨inquiry.request, query, inquiry.transport⟩ inquiry.outcome)
  | remembered {query : Query} {family : AddressFamily} {message : Message}
      (first : inquiry.query? = some query) (address : query.family? = some family)
      (found : pipeline.positive.valid? pipeline.now query.key = some (.answer message)) :
      Resolves pipeline inquiry {
        source := .positiveCache
        response := message.withId inquiry.request.id }
  | refused {query : Query} {family : AddressFamily} {response : CachedResponse}
      (first : inquiry.query? = some query) (address : query.family? = some family)
      (unanswered : ∀ message,
        pipeline.positive.valid? pipeline.now query.key ≠ some (.answer message))
      (found : pipeline.negative.valid? pipeline.now query.key = some response) :
      Resolves pipeline inquiry {
        source := .negativeCache
        response := inquiry.request.failure .serverFailure }
  | blocked {query : Query} {family : AddressFamily}
      (first : inquiry.query? = some query) (address : query.family? = some family)
      (unanswered : ∀ message,
        pipeline.positive.valid? pipeline.now query.key ≠ some (.answer message))
      (unrefused : pipeline.negative.valid? pipeline.now query.key = none)
      (blocked : pipeline.blocked.blocks (Question.ofQuery query).name = true) :
      Resolves pipeline inquiry (blockResolution pipeline.config inquiry.request query family)
  | forwarded {query : Query} {family : AddressFamily}
      (first : inquiry.query? = some query) (address : query.family? = some family)
      (unanswered : ∀ message,
        pipeline.positive.valid? pipeline.now query.key ≠ some (.answer message))
      (unrefused : pipeline.negative.valid? pipeline.now query.key = none)
      (unblocked : pipeline.blocked.blocks (Question.ofQuery query).name = false) :
      Resolves pipeline inquiry
        (pipeline.outcomeResolution ⟨inquiry.request, query, inquiry.transport⟩ inquiry.outcome)

theorem resolves_inquire (pipeline : Pipeline) (inquiry : Inquiry) :
    Resolves pipeline inquiry (pipeline.inquire inquiry).2 := by
  rcases inquire_cases pipeline inquiry with
    ⟨next, resolution, begun, same⟩ | ⟨next, pending, begun, same⟩
  · rw [same]
    cases begun with
    | malformed absent => exact .malformed absent
    | remembered first address found => exact .remembered first address found
    | refused first address unanswered found => exact .refused first address unanswered found
    | blocked first address unanswered unrefused blocked =>
        exact .blocked first address unanswered unrefused blocked
  · rw [same, finish, outcomeResolution_of_sheds begun.sheds_of_forwarded.1]
    cases begun with
    | passedOn first other => exact .passedOn first other
    | forwarded first address unanswered unrefused unblocked =>
        exact .forwarded first address unanswered unrefused unblocked

/-- Handling an ordinary query is resolving what the servers need of it. -/
theorem handle_of_ordinary {request : Message} (ordinary : request.isOrdinaryQuery = true)
    (pipeline : Pipeline) (transport : Transport) (client : IPAddress)
    (ask : Transport → Message → Except Error Message) (delivered : Bool) :
    pipeline.handle request transport client ask delivered =
      ((pipeline.resolve request.forwardable transport client ask).1,
        { resolution := (pipeline.resolve request.forwardable transport client ask).2
          forwarded :=
            if (pipeline.resolve request.forwardable transport client ask).2.isForwarded then
              some (transport, request.forwardable)
            else none
          response :=
            request.response
              (pipeline.resolve request.forwardable transport client ask).2.response
          delivered }) := by
  simp only [handle, ordinary, if_true]

theorem handle_of_extraordinary {request : Message}
    (extraordinary : request.isOrdinaryQuery = false) (pipeline : Pipeline)
    (transport : Transport) (client : IPAddress)
    (ask : Transport → Message → Except Error Message) (delivered : Bool) :
    pipeline.handle request transport client ask delivered =
      (pipeline,
        { resolution := none
          forwarded := none
          response := request.notImplemented
          delivered }) := by
  simp only [handle, extraordinary, Bool.false_eq_true, if_false]

theorem step_handle_of_ordinary {inquiry : Inquiry}
    (ordinary : inquiry.request.isOrdinaryQuery = true) (pipeline : Pipeline)
    (delivered : Bool) :
    pipeline.step (.handle inquiry delivered) =
      ((pipeline.inquire inquiry.forwardable).1,
        .handled pipeline.now inquiry {
          resolution := (pipeline.inquire inquiry.forwardable).2
          forwarded :=
            if (pipeline.inquire inquiry.forwardable).2.isForwarded then
              some (inquiry.transport, inquiry.request.forwardable)
            else none
          response := inquiry.request.response (pipeline.inquire inquiry.forwardable).2.response
          delivered }) := by
  simp only [step, handle_of_ordinary ordinary]
  rfl

theorem step_handle_of_extraordinary {inquiry : Inquiry}
    (extraordinary : inquiry.request.isOrdinaryQuery = false) (pipeline : Pipeline)
    (delivered : Bool) :
    pipeline.step (.handle inquiry delivered) =
      (pipeline,
        .handled pipeline.now inquiry {
          resolution := none
          forwarded := none
          response := inquiry.request.notImplemented
          delivered }) := by
  simp only [step, handle_of_extraordinary extraordinary]

/-- A step that answers a message resolves that message; any other is a change, or handles what is
no ordinary query. -/
theorem answered?_step_cases (pipeline : Pipeline) (step : Step) :
    (∃ inquiry,
        (pipeline.step step).1 = (pipeline.inquire inquiry).1 ∧
          (pipeline.step step).2.answered? =
            some ⟨pipeline.now, inquiry, (pipeline.inquire inquiry).2⟩) ∨
      ((pipeline.step step).2.answered? = none ∧
        ((pipeline.step step).1 = pipeline ∨
          ∃ change, (pipeline.step step).1 = (pipeline.undergo change).1)) := by
  cases step with
  | resolve inquiry => exact Or.inl ⟨inquiry, rfl, rfl⟩
  | handle inquiry delivered =>
      cases ordinary : inquiry.request.isOrdinaryQuery with
      | true =>
          rw [step_handle_of_ordinary ordinary]
          exact Or.inl ⟨inquiry.forwardable, rfl, rfl⟩
      | false =>
          rw [step_handle_of_extraordinary ordinary]
          exact Or.inr ⟨rfl, Or.inl rfl⟩
  | change change => exact Or.inr ⟨rfl, Or.inr ⟨change, rfl⟩⟩

/-- A message is answered on its own, or as what the servers need of a request. -/
theorem Step.eq_of_answered? {pipeline : Pipeline} {step : Step} {answered : Answered}
    (seen : (pipeline.step step).2.answered? = some answered) :
    step = .resolve answered.inquiry ∨
      ∃ inquiry delivered,
        step = .handle inquiry delivered ∧ answered.inquiry = inquiry.forwardable := by
  cases step with
  | resolve inquiry =>
      cases seen
      exact Or.inl rfl
  | handle inquiry delivered =>
      cases ordinary : inquiry.request.isOrdinaryQuery with
      | true =>
          rw [step_handle_of_ordinary ordinary] at seen
          cases seen
          exact Or.inr ⟨inquiry, delivered, rfl, rfl⟩
      | false =>
          rw [step_handle_of_extraordinary ordinary] at seen
          contradiction
  | change change => contradiction

theorem inquire_of_answered? {pipeline : Pipeline} {step : Step} {answered : Answered}
    (seen : (pipeline.step step).2.answered? = some answered) :
    answered.time = pipeline.now ∧
      (pipeline.step step).1 = (pipeline.inquire answered.inquiry).1 ∧
      answered.resolution = (pipeline.inquire answered.inquiry).2 := by
  rcases answered?_step_cases pipeline step with ⟨inquiry, next, answers⟩ | ⟨silent, _⟩
  · rw [answers, Option.some.injEq] at seen
    subst seen
    exact ⟨rfl, next, rfl⟩
  · rw [silent] at seen
    contradiction

theorem resolves_of_answered? {pipeline : Pipeline} {step : Step} {answered : Answered}
    (seen : (pipeline.step step).2.answered? = some answered) :
    Resolves pipeline answered.inquiry answered.resolution := by
  rw [(inquire_of_answered? seen).2.2]
  exact resolves_inquire pipeline answered.inquiry

/-- What the servers said is given under the id of the request. -/
theorem Resolves.outcome_of_servers {pipeline : Pipeline} {inquiry : Inquiry}
    {resolution : Resolution} {outcome : Except Error Message}
    (resolves : Resolves pipeline inquiry resolution)
    (source : resolution.source = .servers outcome) :
    outcome = inquiry.outcome.map fun message => message.withId inquiry.request.id := by
  cases resolves with
  | malformed | remembered | refused | blocked => contradiction
  | passedOn | forwarded =>
      cases source
      rfl

theorem Sheds.undergo (pipeline : Pipeline) (change : Change) :
    Sheds pipeline (pipeline.undergo change).1 := by
  cases change with
  | advance duration =>
      refine ⟨rfl, Nat.le_add_right _ _, fun side => ?_⟩
      cases side <;> exact .refl _
  | purge =>
      refine ⟨rfl, Nat.le_refl _, fun side => ?_⟩
      cases side <;> exact (ResponseCache.Sheds.refl _).purge (Nat.le_refl _)
  | reload | settle =>
      refine ⟨rfl, Nat.le_refl _, fun side => ?_⟩
      cases side <;> exact .refl _

/-- A step that answers no message only makes entries go. -/
theorem sheds_of_answered?_eq_none {pipeline : Pipeline} {step : Step}
    (silent : (pipeline.step step).2.answered? = none) :
    Sheds pipeline (pipeline.step step).1 := by
  rcases answered?_step_cases pipeline step with
    ⟨inquiry, _, answers⟩ | ⟨_, same | ⟨change, changed⟩⟩
  · rw [answers] at silent
    contradiction
  · rw [same]
    exact .refl pipeline
  · rw [changed]
    exact .undergo pipeline change

@[simp]
theorem now_inquire (pipeline : Pipeline) (inquiry : Inquiry) :
    (pipeline.inquire inquiry).1.now = pipeline.now := by
  rcases inquire_cases pipeline inquiry with
    ⟨next, resolution, begun, answered⟩ | ⟨next, pending, begun, finished⟩
  · rcases begun.exists_sheds_of_answered with ⟨shed, _, now, rfl, _⟩
    rw [answered, now_remember, now]
  · rw [finished, now_finish, begun.sheds_of_forwarded.2]

@[simp]
theorem blocked_inquire (pipeline : Pipeline) (inquiry : Inquiry) :
    (pipeline.inquire inquiry).1.blocked = pipeline.blocked := by
  rcases inquire_cases pipeline inquiry with
    ⟨next, resolution, begun, answered⟩ | ⟨next, pending, begun, finished⟩
  · rw [answered, begun.blocked_eq]
  · rw [finished, finish, blocked_remember, begun.blocked_eq]

theorem now_le_step (pipeline : Pipeline) (step : Step) :
    pipeline.now ≤ (pipeline.step step).1.now := by
  rcases answered?_step_cases pipeline step with
    ⟨inquiry, next, _⟩ | ⟨_, same | ⟨change, changed⟩⟩
  · exact Nat.le_of_eq (by rw [next, now_inquire])
  · exact Nat.le_of_eq (by rw [same])
  · rw [changed]
    cases change with
    | advance duration => exact Nat.le_add_right pipeline.now duration
    | purge | reload | settle => exact Nat.le_refl pipeline.now

theorem now_le_after (pipeline : Pipeline) (steps : List Step) :
    pipeline.now ≤ (pipeline.after steps).now := by
  induction steps generalizing pipeline with
  | nil => exact Nat.le_refl _
  | cons step steps ih => exact Nat.le_trans (now_le_step pipeline step) (ih _)

/-- A step makes entries go, and then remembers an outcome if there is one. -/
theorem exists_sheds_step (pipeline : Pipeline) (step : Step) :
    ∃ shed write, Sheds pipeline shed ∧ (pipeline.step step).1 = shed.remember write := by
  rcases answered?_step_cases pipeline step with ⟨inquiry, next, _⟩ | ⟨silent, _⟩
  · rw [next]
    rcases inquire_cases pipeline inquiry with
      ⟨next, resolution, begun, same⟩ | ⟨next, pending, begun, same⟩
    · rcases begun.exists_sheds_of_answered with ⟨shed, sheds, _, remembered, _⟩
      refine ⟨shed, resolution.write, sheds, ?_⟩
      rw [same, remembered]
    · rw [same, finish]
      exact ⟨next, _, begun.sheds_of_forwarded.1, rfl⟩
  · exact ⟨_, none, sheds_of_answered?_eq_none silent, rfl⟩

/-- Each event of a run was left by a step, in the state after the steps before it. -/
theorem exists_step_of_mem_trace {pipeline : Pipeline} {steps : List Step} {event : Event}
    (member : event ∈ pipeline.trace steps) :
    ∃ front step back, steps = front ++ step :: back ∧
      event = ((pipeline.after front).step step).2 := by
  induction steps generalizing pipeline with
  | nil => contradiction
  | cons step steps ih =>
      rw [trace_cons, List.mem_cons] at member
      rcases member with rfl | later
      · exact ⟨[], step, steps, rfl, rfl⟩
      · rcases ih later with ⟨front, middle, back, rfl, rfl⟩
        exact ⟨step :: front, middle, back, rfl, rfl⟩

/-- A query for the address of the name `a`. -/
def sampleQuery : Query := { name := ⟨[[0x61]], by decide⟩ }

/-- A message with the sample query, which the servers answer for a minute. -/
def sampleInquiry : Inquiry where
  request := { flags := { recursionDesired := true }, queries := [sampleQuery] }
  transport := .udp
  client := .v4 ⟨192, 0, 2, 1⟩
  outcome := .ok {
    queries := [sampleQuery]
    answers :=
      [{ owner := sampleQuery.name
         recordType := .a
         ttl := 60
         data := some (.ipv4 ⟨192, 0, 2, 2⟩) }] }

end Pipeline

end DnsFilter
