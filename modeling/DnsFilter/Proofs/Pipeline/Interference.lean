import DnsFilter.Proofs.Pipeline.History
import DnsFilter.Proofs.Pipeline.Likeness

/-!
# Queries that do not interfere

A message that does not ask for an address leaves no trace but in the question log. It can be
inserted anywhere in a run without being noticed by those who do ask for one.
-/

namespace DnsFilter

namespace Pipeline

/-- That a message does not ask for an address, be it that it asks for nothing at all. -/
def Inquiry.AsksNoAddress (inquiry : Inquiry) : Prop :=
  ∀ query, inquiry.query? = some query → query.family? = none

section

variable {inquiry : Inquiry} {query : Query}

theorem inquire_of_malformed (absent : inquiry.query? = none) (pipeline : Pipeline) :
    pipeline.inquire inquiry =
      (pipeline,
        { source := .malformed, response := inquiry.request.failure .formatError }) := by
  have noQuery : inquiry.request.queries.head? = none := absent
  simp only [inquire, resolve, begin, noQuery, conclude]

theorem inquire_of_passedOn (first : inquiry.query? = some query) (other : query.family? = none)
    (pipeline : Pipeline) :
    pipeline.inquire inquiry =
      (pipeline.record inquiry.client (.ofQuery query) false,
        pipeline.outcomeResolution ⟨inquiry.request, query, inquiry.transport⟩
          inquiry.outcome) := by
  have firstQuery : inquiry.request.queries.head? = some query := first
  have unremembered : (pipeline.outcomeResolution
      ⟨inquiry.request, query, inquiry.transport⟩ inquiry.outcome).write = none := by
    simp [outcomeResolution, other]
  simp only [inquire, resolve, begin, firstQuery, other, forward, conclude, finish]
  rw [outcomeResolution_of_sheds (Sheds.record pipeline inquiry.client _ false), unremembered]
  rfl

end

def afterInquiry (pipeline : Pipeline) (inquiry : Inquiry) : Pipeline :=
  (pipeline.inquire inquiry).1

/-- Caches that are the same are alike. -/
theorem isLikeness_eq : ResponseCache.IsLikeness (fun _ => True) fun _ => Eq where
  lifetime same := congrArg ResponseCache.lifetime same
  valid same key := congrArg (ResponseCache.valid? · _ key) same
  later same _ := same
  get same key := congrArg (fun cache => (ResponseCache.get cache _ key).1) same
  set same _ _ response lifetime :=
    congrArg (fun cache => (ResponseCache.set cache _ _ response lifetime).1) same

theorem step_purge (pipeline : Pipeline) :
    pipeline.step (.change .purge) =
      ({ pipeline with
          positive := (pipeline.positive.purge pipeline.now).1
          negative := (pipeline.negative.purge pipeline.now).1 },
        .changed pipeline.now .purge
          (.purged (pipeline.positive.purge pipeline.now).2
            (pipeline.negative.purge pipeline.now).2)) := rfl

namespace Alike

variable {pipeline other : Pipeline}

theorem of_asksNoAddress {inquiry : Inquiry} (noAddress : inquiry.AsksNoAddress)
    (alike : Alike False (fun _ => Eq) pipeline other) :
    Alike False (fun _ => Eq) (pipeline.afterInquiry inquiry) other := by
  unfold afterInquiry
  cases asked : inquiry.query? with
  | none =>
      rw [inquire_of_malformed asked]
      exact alike
  | some query =>
      rw [inquire_of_passedOn asked (noAddress query asked)]
      refine ⟨alike.config, alike.blocked, alike.now, alike.startDate, nofun, nofun, ?_⟩
      intro side
      have same := alike.caches side
      cases side <;> exact same

/-- Purging the same caches at the same time removes the same. -/
theorem purge (alike : Alike False (fun _ => Eq) pipeline other) :
    Alike False (fun _ => Eq) (pipeline.step (.change .purge)).1
        (other.step (.change .purge)).1 ∧
      (pipeline.step (.change .purge)).2 = (other.step (.change .purge)).2 := by
  have positive : pipeline.positive = other.positive := alike.caches .positive
  have negative : pipeline.negative = other.negative := alike.caches .negative
  rw [step_purge, step_purge, positive, negative, alike.now]
  refine ⟨⟨alike.config, alike.blocked, rfl, alike.startDate, nofun, nofun, ?_⟩, rfl⟩
  intro side
  cases side <;> rfl

theorem step_of_eq (alike : Alike False (fun _ => Eq) pipeline other) {step : Step}
    (unsettled : step ≠ .change .settle) :
    Alike False (fun _ => Eq) (pipeline.step step).1 (other.step step).1 ∧
      (pipeline.step step).2 = (other.step step).2 := by
  by_cases purges : step = .change .purge
  · subst step
    exact alike.purge
  · exact alike.step isLikeness_eq (fun _ _ => trivial) purges (.inr unsettled)

end Alike

/-- Messages that do not ask for an address may be inserted anywhere in a run: all that can be seen
of the run's own steps stays the same, and so do the caches and the block set in the end. Each of
the messages asks the servers once on its own, or is refused as malformed if it asks nothing. -/
theorem other_queries_do_not_interfere (config : Config) (channelDepth : Nat) (names : NameSet)
    (parts : List (Part Inquiry))
    (unsettled : ∀ step ∈ ownSteps parts, step ≠ .change .settle)
    (noAddress : ∀ inquiry, .extra inquiry ∈ parts → inquiry.AsksNoAddress) :
    let begun := start config channelDepth names
    let last := afterParts afterInquiry begun parts
    let ownLast := begun.after (ownSteps parts)
    ownTrace afterInquiry begun parts = begun.trace (ownSteps parts) ∧
    (∀ side, last.cache side = ownLast.cache side) ∧ last.blocked = ownLast.blocked ∧
    ∀ front inquiry back, parts = front ++ .extra inquiry :: back →
      let pipeline := afterParts afterInquiry begun front
      let event := (pipeline.step (.resolve inquiry)).2
      (∀ query, inquiry.query? = some query →
        event.lookup? =
          some ⟨pipeline.now, query, inquiry.transport, inquiry.request, inquiry.outcome⟩) ∧
      (inquiry.query? = none →
        event.lookup? = none ∧
          (pipeline.inquire inquiry).2.response = inquiry.request.failure .formatError) := by
  intro begun last ownLast
  rcases ownTrace_eq_trace afterInquiry (Alike False fun _ => Eq)
    (fun step member _ _ alike => alike.step_of_eq (unsettled step member))
    (fun inquiry member _ _ alike => alike.of_asksNoAddress (noAddress inquiry member))
    (.refl begun fun _ => rfl) with ⟨seen, alike⟩
  refine ⟨seen, alike.caches, alike.blocked, ?_⟩
  rintro front inquiry back rfl pipeline event
  have other : inquiry.AsksNoAddress := noAddress inquiry (by simp)
  constructor
  · intro query first
    have resolved : event.answered? =
        some ⟨pipeline.now, inquiry, (pipeline.inquire inquiry).2⟩ := rfl
    rw [Event.lookup?_of_answered? resolved, inquire_of_passedOn first (other query first),
      Answered.lookup?_eq_some_iff]
    exact ⟨query, first, rfl, rfl⟩
  · intro absent
    have resolved : event.answered? =
        some ⟨pipeline.now, inquiry, (pipeline.inquire inquiry).2⟩ := rfl
    rw [Event.lookup?_of_answered? resolved, inquire_of_malformed absent]
    exact ⟨Answered.lookup?_eq_none rfl, rfl⟩

/-- The sample message, asking for the mail servers of the name. -/
def mailInquiry : Inquiry where
  request := { id := 1, queries := [{ sampleQuery with recordType := .mx }] }
  transport := .tcp
  client := sampleInquiry.client
  outcome := sampleInquiry.outcome

/-- Between two queries for an address come one for mail servers and a message without a query. -/
def mixedParts : List (Part Inquiry) :=
  [.own (.resolve sampleInquiry), .extra mailInquiry, .own (.change (.advance 59999)),
    .extra { mailInquiry with request := { id := 2 } }, .own (.resolve sampleInquiry)]

theorem mail_query_does_not_interfere :
    let begun := start {} 1 ∅
    ownTrace afterInquiry begun mixedParts =
        begun.trace
          [.resolve sampleInquiry, .change (.advance 59999), .resolve sampleInquiry] ∧
      ∃ lookup,
        ((begun.after [.resolve sampleInquiry]).step (.resolve mailInquiry)).2.lookup? =
          some lookup ∧
        lookup.query.recordType = .mx ∧ lookup.transport = .tcp := by
  intro begun
  have unsettled : ∀ step ∈ ownSteps mixedParts, step ≠ .change .settle := by
    simp [mixedParts]
  have noAddress (inquiry : Inquiry) (member : .extra inquiry ∈ mixedParts) :
      inquiry.AsksNoAddress := by
    simp only [mixedParts, List.mem_cons, List.not_mem_nil, or_false, reduceCtorEq, false_or,
      Part.extra.injEq] at member
    rcases member with rfl | rfl
    · intro query first
      cases first
      rfl
    · nofun
  rcases other_queries_do_not_interfere {} 1 ∅ mixedParts unsettled noAddress with
    ⟨seen, _, _, asked⟩
  have mail := asked [.own (.resolve sampleInquiry)] mailInquiry _ rfl
  exact ⟨seen, _, mail.1 _ rfl, rfl, rfl⟩

end Pipeline

end DnsFilter
