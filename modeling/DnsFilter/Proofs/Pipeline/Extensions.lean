import DnsFilter.Proofs.Pipeline.Freshness
import DnsFilter.Proofs.Pipeline.Responding

/-!
# Extension records in responses

What a response says to a client that sent no extension record, when servers only send one in
answer to one. Nothing that is made up here has an extension record, and neither has what the
servers say to such a client. But the positive cache repeats an answer with all that is in it, also
to clients that did not ask for it.
-/

namespace DnsFilter

namespace Message

theorem extension?_eq_none_iff {message : Message} :
    message.extension? = none ↔
      message.edns = none ∧ ∀ record ∈ message.additionals, record.isExtension = false := by
  cases given : message.edns <;> simp [extension?, given]

/-- Leaving out parts of a message puts no extension record into it. -/
theorem IsFrontOf.extension?_eq_none {sent message : Message} (front : sent.IsFrontOf message)
    (absent : message.extension? = none) : sent.extension? = none := by
  rw [extension?_eq_none_iff] at absent ⊢
  rcases absent with ⟨noEdns, noRecords⟩
  constructor
  · rcases front.edns with left | same
    · exact left
    · exact same.trans noEdns
  · intro record member
    exact noRecords record (front.additionals.subset member)

theorem extension?_failure (request : Message) (rcode : Rcode) :
    (request.failure rcode).extension? = none := rfl

theorem extension?_withId (message : Message) (id : UInt16) :
    (message.withId id).extension? = message.extension? := rfl

end Message

/-- The client receives no extension record if the response has none. -/
theorem Handling.edns_received {handling : Handling} {response : Message}
    (received : handling.received? = some response)
    (absent : handling.response.extension? = none) : response.edns = none := by
  rcases Option.map_eq_some_iff.1 received with ⟨sent, sends, rfl⟩
  rw [sent?, Option.ite_none_right_eq_some] at sends
  exact (Message.isFrontOf_of_fitted? sends.2).1.extension?_eq_none absent

namespace Pipeline

/-- That the servers only send an extension record in answer to one. -/
def Inquiry.IsReserved (inquiry : Inquiry) : Prop :=
  ∀ message, inquiry.outcome = .ok message → message.extension? ≠ none →
    inquiry.request.edns ≠ none

def Step.IsReserved : Step → Prop
  | .resolve inquiry | .handle inquiry _ => inquiry.IsReserved
  | .change _ => True

theorem Step.IsReserved.inquiry {step : Step} {pipeline : Pipeline} {answered : Answered}
    (reserved : step.IsReserved)
    (seen : (pipeline.step step).2.answered? = some answered) :
    answered.inquiry.IsReserved := by
  rcases Step.eq_of_answered? seen with rfl | ⟨inquiry, delivered, rfl, same⟩
  · exact reserved
  · rw [same]
    exact reserved

/-- Each lookup of a run was made by a step of it, in the state after the steps before it. -/
theorem exists_step_of_lastLookup? {pipeline : Pipeline} {steps : List Step} {query : Query}
    {lookup : Lookup} (found : Event.lastLookup? (pipeline.trace steps) query = some lookup) :
    ∃ front step back answered, steps = front ++ step :: back ∧
      ((pipeline.after front).step step).2.answered? = some answered ∧
      answered.lookup? = some lookup := by
  have member := List.mem_reverse.1 (List.mem_of_find?_eq_some found)
  rcases List.mem_filterMap.1 member with ⟨event, traced, made⟩
  rcases exists_step_of_mem_trace traced with ⟨front, step, back, split, rfl⟩
  rcases Option.bind_eq_some_iff.1 made with ⟨answered, seen, lookup?⟩
  exact ⟨front, step, back, answered, split, seen, lookup?⟩

/-- Reserved servers answered the last lookup with an extension record only if it came with one. -/
theorem edns_ne_none_of_lastLookup? {pipeline : Pipeline} {steps : List Step} {query : Query}
    {lookup : Lookup} {message : Message} (reserved : ∀ step ∈ steps, step.IsReserved)
    (found : Event.lastLookup? (pipeline.trace steps) query = some lookup)
    (said : lookup.outcome = .ok message) (extended : message.extension? ≠ none) :
    lookup.request.edns ≠ none := by
  rcases exists_step_of_lastLookup? found with
    ⟨front, step, back, answered, rfl, seen, made⟩
  rcases Answered.lookup?_eq_some_iff.1 made with ⟨_, _, _, rfl⟩
  exact (reserved step (by simp)).inquiry seen message said extended

/-- Only the positive cache gives an extension record to a message that came without one. -/
theorem Resolves.source_of_extension? {pipeline : Pipeline} {inquiry : Inquiry}
    {resolution : Resolution} (resolves : Resolves pipeline inquiry resolution)
    (reserved : inquiry.IsReserved) (plain : inquiry.request.edns = none)
    (extended : resolution.response.extension? ≠ none) :
    resolution.source = .positiveCache := by
  have hidden (query : Query) : (pipeline.outcomeResolution
      ⟨inquiry.request, query, inquiry.transport⟩ inquiry.outcome).response.extension? = none := by
    by_contra shown
    cases said : inquiry.outcome with
    | error error =>
        rw [said] at shown
        exact shown (Message.extension?_failure _ _)
    | ok message =>
        rw [said] at shown
        exact reserved message said shown plain
  cases resolves with
  | remembered => rfl
  | malformed | refused => exact absurd (Message.extension?_failure _ _) extended
  | passedOn | forwarded => exact absurd (hidden _) extended
  | blocked => exact absurd rfl extended

theorem Warrants.extension?_of_nullRoute {config : Config} {query : Query} {write : CacheWrite}
    {template : Message} (warrants : Warrants config query .nullRoute write)
    (stores : write.response = .answer template) : template.extension? = none := by
  cases warrants with
  | block =>
      cases stores
      rfl

theorem Event.query_of_lastLookup? {events : List Event} {query : Query} {lookup : Lookup}
    (found : lastLookup? events query = some lookup) : lookup.query = query := by
  simpa using List.find?_some found

/-- That a request was answered from the positive cache with what the servers said to the last
lookup for its query, which had an extension record in it, as had the request of that lookup. -/
structure RepeatsExtension (events : List Event) (inquiry : Inquiry) (handling : Handling)
    (lookup : Lookup) (template : Message) : Prop where
  asked : inquiry.query? = some lookup.query
  source : handling.resolution.map Resolution.source = some .positiveCache
  last : Event.lastLookup? events lookup.query = some lookup
  said : lookup.outcome = .ok template
  offered : lookup.request.edns ≠ none
  extended : template.extension? ≠ none
  carries : handling.response.Carries template

/-- An extension record that the positive cache gives to a message was in what the servers said to
the last lookup for its query. -/
theorem Traced.exists_lookup_of_extension? {config : Config} {events : List Event}
    {pipeline : Pipeline} {step : Step} {answered : Answered}
    (traced : Traced config events pipeline)
    (seen : (pipeline.step step).2.answered? = some answered)
    (source : answered.resolution.source = .positiveCache)
    (extended : answered.resolution.response.extension? ≠ none) :
    ∃ lookup template, answered.inquiry.query? = some lookup.query ∧
      Event.lastLookup? events lookup.query = some lookup ∧ lookup.outcome = .ok template ∧
      answered.resolution.response = template.withId answered.inquiry.request.id := by
  rcases traced.exists_servedFrom seen (Or.inl source) with ⟨stored, side, current, served, _⟩
  have warrants := traced.warranted stored served.mem
  cases served with
  | failure _ _ _ otherSource => exact absurd (source.symm.trans otherSource) nofun
  | answer asked _ stores _ response =>
      rw [response, Message.extension?_withId] at extended
      rcases current.looked with blocked | ⟨lookup, last, isOf⟩
      · rw [blocked] at warrants
        exact absurd (warrants.extension?_of_nullRoute stores) extended
      · rw [isOf.source] at warrants
        rcases exists_ok_of_map_eq_ok (warrants.exists_least stores).1 with
          ⟨template, said, rfl⟩
        have sameQuery := Event.query_of_lastLookup? last
        rw [← sameQuery] at asked last
        exact ⟨lookup, template, asked, last, said, response⟩

/-- With servers that only send an extension record in answer to one, a client whose request has no
extension record receives none, whatever others asked before, unless its request is answered from
the positive cache: then it receives the record of an answer that was given to a request with one.
-/
theorem extension_is_only_repeated_from_cache (config : Config) (channelDepth : Nat)
    (names : NameSet) (steps : List Step) (inquiry : Inquiry) (delivered : Bool) (time : Nat)
    (handling : Handling) (response : Message)
    (reserved : ∀ step ∈ .handle inquiry delivered :: steps, step.IsReserved)
    (seen : (((start config channelDepth names).after steps).step
      (.handle inquiry delivered)).2 = .handled time inquiry handling)
    (received : handling.received? = some response) (plain : inquiry.request.edns = none) :
    response.edns = none ∨
      ∃ lookup template,
        RepeatsExtension ((start config channelDepth names).trace steps) inquiry handling lookup
          template := by
  have traced := Traced.run config channelDepth names steps
  generalize (start config channelDepth names).after steps = pipeline at seen traced
  cases ordinary : inquiry.request.isOrdinaryQuery with
  | false =>
      rw [step_handle_of_extraordinary ordinary] at seen
      cases seen
      exact Or.inl (Handling.edns_received received rfl)
  | true =>
      rw [step_handle_of_ordinary ordinary] at seen
      cases seen
      by_cases hidden : (pipeline.inquire inquiry.forwardable).2.response.extension? = none
      · exact Or.inl (Handling.edns_received received hidden)
      · right
        have own : inquiry.forwardable.IsReserved := reserved _ (.head _)
        have source := (resolves_inquire pipeline inquiry.forwardable).source_of_extension? own
          plain hidden
        have answers : (pipeline.step (.handle inquiry delivered)).2.answered? =
            some ⟨pipeline.now, inquiry.forwardable, (pipeline.inquire inquiry.forwardable).2⟩ := by
          rw [step_handle_of_ordinary ordinary]
          rfl
        rcases traced.exists_lookup_of_extension? answers source hidden with
          ⟨lookup, template, asked, last, said, sameResponse⟩
        simp only at sameResponse
        rw [sameResponse] at hidden
        have offered := edns_ne_none_of_lastLookup? (fun step member =>
          reserved step (.tail _ member)) last said hidden
        refine ⟨lookup, template, inquiry.query?_forwardable ▸ asked, congrArg some source, last,
          said, offered, hidden, ?_⟩
        rw [sameResponse]
        constructor <;> rfl

/-- The sample message from a client with an extension record, which the servers answer with one. -/
def extendedInquiry : Inquiry :=
  { sampleInquiry with
    request := { sampleInquiry.request with edns := some { payload := 1232 } }
    outcome := sampleInquiry.outcome.map fun message =>
      { message with edns := some { payload := 4096 } } }

theorem isReserved_of_mem_sample :
    ∀ step ∈ [Step.handle sampleInquiry true, .handle extendedInquiry true], step.IsReserved := by
  simp only [List.forall_mem_cons]
  refine ⟨?_, fun _ _ _ => nofun, by simp⟩
  intro message said extended
  cases said
  exact absurd rfl extended

/-- A client without an extension record receives the one that was given to another client. -/
theorem extension_reaches_another_client :
    (∀ step ∈ [Step.handle sampleInquiry true, .handle extendedInquiry true],
      step.IsReserved) ∧
    sampleInquiry.request.edns = none ∧
    ∃ response,
      (((start {} 1 ∅).after [.handle extendedInquiry true]).step
        (.handle sampleInquiry true)).2.received? = some response ∧
      response.edns = some { payload := 4096 } :=
  ⟨isReserved_of_mem_sample, rfl, _, rfl, rfl⟩

/-- What that client receives is the answer to the other client's request. -/
theorem sample_extension_is_repeated :
    ∃ handling lookup template,
      (((start {} 1 ∅).after [.handle extendedInquiry true]).step
        (.handle sampleInquiry true)).2 = .handled 0 sampleInquiry handling ∧
      RepeatsExtension ((start {} 1 ∅).trace [.handle extendedInquiry true]) sampleInquiry handling
        lookup template := by
  rcases extension_is_only_repeated_from_cache {} 1 ∅ [.handle extendedInquiry true] sampleInquiry
    true 0 _ _ isReserved_of_mem_sample rfl rfl rfl with absent | ⟨lookup, template, repeats⟩
  · contradiction
  · exact ⟨_, lookup, template, rfl, repeats⟩

end Pipeline

end DnsFilter
