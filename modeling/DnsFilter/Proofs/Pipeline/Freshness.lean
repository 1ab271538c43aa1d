import DnsFilter.Proofs.Pipeline.History

/-!
# Freshness of remembered answers

Where an answer from the positive cache comes from, and how old it can be.
-/

namespace DnsFilter

namespace Pipeline

theorem exists_ok_of_map_eq_ok {outcome : Except Error Message} {change : Message → Message}
    {changed : Message} (mapped : outcome.map change = .ok changed) :
    ∃ message, outcome = .ok message ∧ change message = changed := by
  cases outcome with
  | error error => contradiction
  | ok message => exact ⟨message, rfl, by simpa [Except.map] using mapped⟩

/-- A message is answered from the positive cache with what was stored there last for its query. If
that was no answer for a blocked name, then the last lookup for the query succeeded with this very
answer, which may be kept, and neither the longest time for answers nor the TTL of any of its
records has passed since. -/
theorem positiveCache_answer_is_fresh (config : Config) (channelDepth : Nat) (names : NameSet)
    (steps : List Step) (step : Step) (answered : Answered)
    (seen : (((start config channelDepth names).after steps).step step).2.answered? =
      some answered)
    (source : answered.resolution.source = .positiveCache) :
    ∃ stored,
      answered.ServedFrom (Event.history ((start config channelDepth names).trace steps))
        stored ∧
      (stored.source ≠ .nullRoute →
        ∃ lookup message,
          Event.lastLookup? ((start config channelDepth names).trace steps) stored.query =
            some lookup ∧
          lookup.time ≤ answered.time ∧
          lookup.outcome = .ok message ∧
          message.answers ≠ [] ∧ (∀ record ∈ message.answers, record.ttl ≠ 0) ∧
          answered.resolution.response = message.withId answered.inquiry.request.id ∧
          answered.time < lookup.time + config.expire * 1000 ∧
          ∀ record ∈ message.answers,
            answered.time < lookup.time + record.ttl.toNat * 1000) := by
  have traced := Traced.run config channelDepth names steps
  rcases traced.exists_servedFrom seen (Or.inl source) with
    ⟨stored, side, current, served, unexpired⟩
  refine ⟨stored, served, fun looked => ?_⟩
  rcases current.looked.resolve_left looked with ⟨lookup, last, isOf⟩
  have member := Stored.mem_of_last? current.last
  have warrants := traced.warranted stored member
  have past := traced.punctual stored member
  rw [← (inquire_of_answered? seen).1] at past
  cases served with
  | failure _ _ _ otherSource =>
      rw [source] at otherSource
      contradiction
  | answer _ _ stores _ response =>
      rw [isOf.source] at warrants
      rcases warrants.exists_least stores with ⟨outcome, least, leastTtl, lasting, lifetime⟩
      rcases exists_ok_of_map_eq_ok outcome with ⟨message, succeeded, rfl⟩
      rw [Message.leastAnswerTtl?_withId] at leastTtl
      have keepable := (Message.ttl_ne_zero_of_leastAnswerTtl? leastTtl lasting).2
      have kept : message.KeptFor config.expire stored.write.lifetime := by
        rw [lifetime]
        exact Message.keptFor_of_leastAnswerTtl? leastTtl config.expire
      rw [isOf.time] at past unexpired
      refine ⟨lookup, message, last, past, succeeded, kept.answers, keepable, response, ?_, ?_⟩
      · have bound := kept.within
        omega
      · intro record isAnswer
        have bound := kept.records record isAnswer
        omega

/-- Two records for the sample name, the second of which may be kept for a minute only. -/
def minuteInquiry : Inquiry :=
  let record : Record := { owner := sampleQuery.name, recordType := .a, ttl := 300, data := none }
  { sampleInquiry with outcome := .ok { answers := [record, { record with ttl := 60 }] } }

/-- The minute after the lookup is over with its last millisecond, long before the longest time for
answers is. -/
theorem sample_answer_is_fresh :
    let asked (time : Nat) := (((start {} 1 ∅).after
      [.resolve minuteInquiry, .change (.advance time)]).step (.resolve sampleInquiry)).2.answered?
    (∃ (answered : Answered) (lookup : Lookup) (message : Message),
      asked 59999 = some answered ∧
      answered.resolution.source = .positiveCache ∧
      lookup.outcome = .ok message ∧
      answered.resolution.response = message.withId answered.inquiry.request.id ∧
      answered.time < lookup.time + 600 * 1000 ∧
      ∃ record ∈ message.answers,
        record.ttl = 60 ∧ answered.time < lookup.time + record.ttl.toNat * 1000) ∧
    (asked 60000).map (·.resolution.isForwarded) = some true := by
  intro asked
  refine ⟨?_, rfl⟩
  rcases positiveCache_answer_is_fresh {} 1 ∅ [.resolve minuteInquiry, .change (.advance 59999)]
    (.resolve sampleInquiry) _ rfl rfl with ⟨stored, served, fresh⟩
  cases served with
  | failure _ _ _ source => contradiction
  | answer first last =>
      rw [← Option.some.inj first] at last
      cases last
      rcases fresh nofun with
        ⟨lookup, message, looked, _, succeeded, _, _, response, within, unexpired⟩
      have said : minuteInquiry.outcome = lookup.outcome :=
        Option.some.inj (congrArg (Option.map Lookup.outcome) looked)
      cases said.trans succeeded
      refine ⟨_, lookup, _, rfl, rfl, succeeded, response, within, _, .tail _ (.head _), rfl, ?_⟩
      exact unexpired _ (.tail _ (.head _))

end Pipeline

end DnsFilter
