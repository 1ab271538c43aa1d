import DnsFilter.Proofs.Pipeline.Blocking

/-!
# Which answers are kept

Whether an answer of the servers is kept is up to its records, whatever it reports. An answer
without records, or with a record that may not be kept, leaves nothing behind: its query was
forwarded because nothing was cached for it, and nothing comes to be cached for it before it is
asked again.
-/

namespace DnsFilter

namespace Message

/-- That a message reports that a server failed, or refused to answer. -/
def ReportsFailure (message : Message) : Prop :=
  message.rcode = .serverFailure ∨ message.rcode = .refused

/-- That a message has answers, all of which may be kept for a while. -/
structure IsKeepable (message : Message) : Prop where
  nonempty : message.answers ≠ []
  lasting : ∀ record ∈ message.answers, record.ttl ≠ 0

/-- A message whose answers may be kept for some time is keepable. -/
theorem isKeepable_of_leastAnswerTtl? {message : Message} {least : Nat}
    (found : message.leastAnswerTtl? = some least) (lasting : 0 < least) : message.IsKeepable := by
  rcases ttl_ne_zero_of_leastAnswerTtl? found lasting with ⟨nonempty, keepable⟩
  exact ⟨nonempty, keepable⟩

end Message

namespace Pipeline

/-- Only an answer that may be kept is remembered as an answer of the servers. -/
theorem Warrants.isKeepable {config : Config} {query : Query} {message : Message}
    {write : CacheWrite} (warrants : Warrants config query (.servers (.ok message)) write) :
    message.IsKeepable := by
  cases warrants with
  | answer _ found lasting => exact Message.isKeepable_of_leastAnswerTtl? found lasting

/-- What is remembered of a message that reports a failure may be kept: it cannot be the answer for
a blocked name. -/
theorem Warrants.isKeepable_of_reportsFailure {config : Config} {query : Query} {source : Source}
    {message : Message} {write : CacheWrite} (warrants : Warrants config query source write)
    (stores : write.response = .answer message) (reports : message.ReportsFailure) :
    message.IsKeepable := by
  cases warrants with
  | block =>
      cases stores
      rcases reports with failed | refused
      · exact absurd (show Rcode.noError = .serverFailure from failed) (by decide)
      · exact absurd (show Rcode.noError = .refused from refused) (by decide)
  | answer _ found lasting =>
      cases stores
      exact Message.isKeepable_of_leastAnswerTtl? found lasting
  | failure => contradiction

/-- That the caches hold nothing for a query, not even an entry that has expired. -/
def Lacks (pipeline : Pipeline) (query : Query) : Prop :=
  ∀ side, (pipeline.cache side).entries[query.key]? = none

namespace Lacks

variable {config : Config} {events : List Event} {pipeline shed : Pipeline} {query : Query}

theorem of_sheds (lacks : pipeline.Lacks query) (sheds : Sheds pipeline shed) :
    shed.Lacks query := by
  intro side
  rw [Option.eq_none_iff_forall_ne_some]
  intro entry left
  have present := sheds.entries left
  rw [lacks side] at present
  contradiction

/-- Answering a message about another query stores nothing under the key of an address query. -/
theorem step {family : AddressFamily} (lacks : pipeline.Lacks query)
    (address : query.family? = some family) (traced : Traced config events pipeline)
    (step : Step)
    (other : ∀ answered, (pipeline.step step).2.answered? = some answered →
      answered.inquiry.query? ≠ some query) :
    (pipeline.step step).1.Lacks query := by
  cases seen : (pipeline.step step).2.answered? with
  | none => exact lacks.of_sheds (sheds_of_answered?_eq_none seen)
  | some answered =>
      rcases traced.exists_answers seen with ⟨shed, answers, remembered⟩
      intro side
      rw [remembered, Option.eq_none_iff_forall_ne_some]
      intro entry found
      rcases entry_of_entry_remember found with
        ⟨write, written, _, _, sameKey, _⟩ | ⟨present, _⟩
      · rcases answers.warranted write written with ⟨asked, first, warrants⟩
        rcases warrants.exists_family with ⟨_, otherAddress⟩
        have same := Query.eq_of_key_eq otherAddress address
          (warrants.key_eq.symm.trans sameKey.symm)
        exact other answered seen (same ▸ first)
      · rw [lacks.of_sheds answers.sheds side] at present
        contradiction

/-- Nothing comes to be cached for an address query over a run that does not ask about it. -/
theorem after {family : AddressFamily} (lacks : pipeline.Lacks query)
    (address : query.family? = some family) (traced : Traced config events pipeline)
    (steps : List Step)
    (others : ∀ event ∈ pipeline.trace steps, ∀ answered, event.answered? = some answered →
      answered.inquiry.query? ≠ some query) :
    (pipeline.after steps).Lacks query := by
  induction steps generalizing events pipeline with
  | nil => exact lacks
  | cons step steps ih =>
      rw [trace_cons, List.forall_mem_cons] at others
      exact ih (lacks.step address traced step others.1) (traced.step step) others.2

theorem valid?_eq_none (lacks : pipeline.Lacks query) (side : CacheSide) (time : Nat) :
    (pipeline.cache side).valid? time query.key = none := by
  rw [Option.eq_none_iff_forall_ne_some]
  intro response found
  rcases ResponseCache.valid?_eq_some_iff.1 found with ⟨entry, present, _⟩
  rw [lacks side] at present
  contradiction

end Lacks

/-- A message is forwarded if its query is no address query, or nothing is cached for it, unless its
name is blocked. -/
theorem Resolves.isForwarded_or_blocked {pipeline : Pipeline} {inquiry : Inquiry}
    {resolution : Resolution} {query : Query} (resolves : Resolves pipeline inquiry resolution)
    (first : inquiry.query? = some query)
    (uncached : ∀ family, query.family? = some family → pipeline.Lacks query) :
    resolution.isForwarded = true ∨
      resolution.source = .nullRoute ∧ pipeline.Blocks query.name := by
  cases resolves with
  | malformed absent => exact absurd (absent.symm.trans first) (by simp)
  | passedOn | forwarded => exact Or.inl rfl
  | remembered sameFirst address found =>
      cases first.symm.trans sameFirst
      have missing := (uncached _ address).valid?_eq_none .positive pipeline.now
      exact absurd (missing.symm.trans found) (by simp)
  | refused sameFirst address _ found =>
      cases first.symm.trans sameFirst
      have missing := (uncached _ address).valid?_eq_none .negative pipeline.now
      exact absurd (missing.symm.trans found) (by simp)
  | blocked sameFirst _ _ _ blocked =>
      cases first.symm.trans sameFirst
      exact Or.inr ⟨rfl, blocked⟩

/-- An answer of the servers that may not be kept leaves nothing in the caches for its query. -/
theorem Traced.lacks_of_not_isKeepable {config : Config} {events : List Event}
    {pipeline : Pipeline} {step : Step} {answered : Answered} {query : Query}
    {family : AddressFamily} {message : Message} (traced : Traced config events pipeline)
    (seen : (pipeline.step step).2.answered? = some answered)
    (first : answered.inquiry.query? = some query) (address : query.family? = some family)
    (source : answered.resolution.source = .servers (.ok message))
    (unkept : ¬message.IsKeepable) : (pipeline.step step).1.Lacks query := by
  rcases traced.exists_answers seen with ⟨shed, answers, remembered⟩
  have unwritten : answered.resolution.write = none := by
    rw [Option.eq_none_iff_forall_ne_some]
    intro write written
    rcases answers.warranted write written with ⟨_, _, warrants⟩
    rw [source] at warrants
    exact unkept warrants.isKeepable
  have asked : answered.resolution.isForwarded = true := by
    simp [Resolution.isForwarded, source]
  have made := Answered.lookup?_eq_some_iff.2 ⟨query, first, asked, rfl⟩
  rw [remembered, unwritten]
  intro side
  exact answers.gone _ family made address side

/-- A message that reports the failure or the refusal of a server is in the positive cache only if
it has answers that may all be kept. After an answer of the servers that may not be kept, whatever
it reports, the next message about the same query is forwarded, unless its name is blocked by then.
-/
theorem reported_failure_is_kept_only_with_answers (config : Config) (channelDepth : Nat)
    (names : NameSet) (steps : List Step) :
    let pipeline := (start config channelDepth names).after steps
    (∀ (key : String) (entry : CacheEntry) (message : Message),
      pipeline.positive.entries[key]? = some entry → entry.response = .answer message →
      message.ReportsFailure → message.IsKeepable) ∧
    ∀ (step : Step) (later : List Step) (again : Step) (first second : Answered) (query : Query)
      (message : Message),
      (pipeline.step step).2.answered? = some first →
      first.inquiry.query? = some query →
      first.resolution.source = .servers (.ok message) →
      ¬message.IsKeepable →
      (∀ event ∈ (pipeline.step step).1.trace later, ∀ answered,
        event.answered? = some answered → answered.inquiry.query? ≠ some query) →
      let next := (pipeline.step step).1.after later
      (next.step again).2.answered? = some second →
      second.inquiry.query? = some query →
      second.resolution.isForwarded = true ∨
        second.resolution.source = .nullRoute ∧ next.Blocks query.name := by
  intro pipeline
  have traced : Traced config ((start config channelDepth names).trace steps) pipeline :=
    Traced.run config channelDepth names steps
  constructor
  · intro key entry message found answer reports
    rcases traced.explained .positive key entry found with ⟨stored, current, _, response, _⟩
    have warrants := traced.warranted stored (Stored.mem_of_last? current.last)
    exact warrants.isKeepable_of_reportsFailure (response.symm.trans answer) reports
  · intro step later again first second query message seen asked source unkept others next
      seenAgain askedAgain
    apply (resolves_of_answered? seenAgain).isForwarded_or_blocked askedAgain
    intro family address
    have lacks := traced.lacks_of_not_isKeepable seen asked address source unkept
    exact lacks.after address (traced.step step) later others

/-- The sample message at a time when the servers know nothing but an alias, and report a failure
along with it. -/
def partlyFailingInquiry : Inquiry :=
  { sampleInquiry with
    outcome := .ok {
      rcode := .serverFailure
      queries := [sampleQuery]
      answers :=
        [{ owner := sampleQuery.name
           recordType := .cname
           ttl := 60
           data := some (.name ⟨[[0x63]], by decide⟩) }] } }

/-- A reported failure that comes with an answer is kept, and served although no name is blocked. -/
theorem partial_failure_is_kept :
    let pipeline := (start {} 1 ∅).after [.resolve partlyFailingInquiry]
    (∃ entry message, pipeline.positive.entries[sampleQuery.key]? = some entry ∧
      entry.response = .answer message ∧ message.ReportsFailure) ∧
    ¬pipeline.Blocks sampleQuery.name ∧
    (pipeline.inquire sampleInquiry).2.isForwarded = false :=
  ⟨⟨_, _, rfl, rfl, Or.inl rfl⟩, nofun, rfl⟩

/-- What is kept of a reported failure has answers, and of one without answers nothing is kept. -/
theorem reported_failure_is_kept_on_sample :
    (∃ entry message,
      ((start {} 1 ∅).after [.resolve partlyFailingInquiry]).positive.entries[sampleQuery.key]? =
        some entry ∧
      entry.response = .answer message ∧ message.ReportsFailure ∧ message.IsKeepable) ∧
    ∃ second : Answered,
      (((start {} 1 ∅).step (.resolve {
        sampleInquiry with
        outcome := .ok { rcode := .refused, queries := [sampleQuery] } })).1.step
          (.resolve sampleInquiry)).2.answered? = some second ∧
      second.resolution.isForwarded = true := by
  constructor
  · have kept := (reported_failure_is_kept_only_with_answers {} 1 ∅
      [.resolve partlyFailingInquiry]).1 sampleQuery.key _ _ rfl rfl (Or.inl rfl)
    exact ⟨_, _, rfl, rfl, Or.inl rfl, kept⟩
  · have forwarded := (reported_failure_is_kept_only_with_answers {} 1 ∅ []).2
      (.resolve {
        sampleInquiry with outcome := .ok { rcode := .refused, queries := [sampleQuery] } }) []
      (.resolve sampleInquiry) _ _ sampleQuery _ rfl rfl rfl
      (fun keepable => keepable.nonempty rfl) (by simp) rfl rfl
    rcases forwarded with forwarded | ⟨source, _⟩
    · exact ⟨_, rfl, forwarded⟩
    · contradiction

end Pipeline

end DnsFilter
