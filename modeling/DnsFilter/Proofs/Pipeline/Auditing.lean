import DnsFilter.Proofs.Pipeline.Steps

/-!
# The audit of questions

Every message about which the servers are asked leaves one entry in the channel to the question log,
and so does every message that gets a null route which was not remembered. No other exit of the
pipeline records anything.
-/

namespace DnsFilter

@[simp]
theorem QuestionChannel.isOpen_record (channel : QuestionChannel) (entry : QuestionEntry) :
    (channel.record entry).isOpen = channel.isOpen := by
  unfold record
  split <;> rfl

theorem QuestionChannel.waiting_record {channel : QuestionChannel}
    (opened : channel.isOpen = true) (room : channel.waiting.length < channel.depth)
    (entry : QuestionEntry) : (channel.record entry).waiting = channel.waiting ++ [entry] := by
  simp [record, admits, opened, room]

namespace Pipeline

@[simp]
theorem channel_remember (pipeline : Pipeline) (write : Option CacheWrite) :
    (pipeline.remember write).channel = pipeline.channel := by
  cases write with
  | none => rfl
  | some write =>
      rw [remember_some]
      cases write.side <;> rfl

@[simp]
theorem startDate_remember (pipeline : Pipeline) (write : Option CacheWrite) :
    (pipeline.remember write).startDate = pipeline.startDate := by
  cases write with
  | none => rfl
  | some write =>
      rw [remember_some]
      cases write.side <;> rfl

/-- The channel after an entry was recorded, if there was one. -/
def channelAfter (pipeline : Pipeline) (entry : Option QuestionEntry) : QuestionChannel :=
  entry.elim pipeline.channel pipeline.channel.record

section

variable {pipeline : Pipeline} {inquiry : Inquiry}

/-- A message that is answered at once is recorded if it gets a null route. -/
theorem channel_of_answered {next : Pipeline} {resolution : Resolution}
    (begun : Begins pipeline inquiry.request inquiry.transport inquiry.client next
      (.answered resolution)) :
    next.channel =
      pipeline.channelAfter
        (Answered.recorded? pipeline.startDate ⟨pipeline.now, inquiry, resolution⟩) := by
  cases begun with
  | malformed absent => simp [Answered.recorded?, Inquiry.query?, absent, channelAfter]
  | remembered first | refused first =>
      have unrecorded (source : Source) (response : Message)
          (cached : source = .positiveCache ∨ source = .negativeCache) :
          Answered.recorded? pipeline.startDate
            ⟨pipeline.now, inquiry, { source, response }⟩ = none := by
        rcases cached with rfl | rfl <;> simp [Answered.recorded?]
      rw [unrecorded _ _ (by simp)]
      rfl
  | blocked first =>
      have asked : inquiry.query? = some _ := first
      rw [channel_remember, Answered.recorded?, asked]
      rfl

/-- A message that is forwarded is recorded, whatever the servers say. -/
theorem channel_of_forwarded {next : Pipeline} {pending : Pending}
    (begun : Begins pipeline inquiry.request inquiry.transport inquiry.client next
      (.forwarded pending)) (outcome : Except Error Message) :
    (next.finish pending outcome).1.channel =
      pipeline.channelAfter
        (Answered.recorded? pipeline.startDate
          ⟨pipeline.now, inquiry, (next.finish pending outcome).2⟩) := by
  rw [finish, channel_remember]
  cases begun with
  | passedOn first | forwarded first =>
      have asked : inquiry.query? = some _ := first
      rw [Answered.recorded?, asked]
      rfl

theorem channel_inquire (pipeline : Pipeline) (inquiry : Inquiry) :
    (pipeline.inquire inquiry).1.channel =
      pipeline.channelAfter
        (Answered.recorded? pipeline.startDate
          ⟨pipeline.now, inquiry, (pipeline.inquire inquiry).2⟩) := by
  rcases inquire_cases pipeline inquiry with
    ⟨next, resolution, begun, same⟩ | ⟨next, pending, begun, same⟩
  · rw [same]
    exact channel_of_answered begun
  · rw [same]
    exact channel_of_forwarded begun inquiry.outcome

theorem startDate_inquire (pipeline : Pipeline) (inquiry : Inquiry) :
    (pipeline.inquire inquiry).1.startDate = pipeline.startDate := by
  rcases inquire_cases pipeline inquiry with
    ⟨next, resolution, begun, same⟩ | ⟨next, pending, begun, same⟩
  · rw [same]
    cases begun with
    | malformed | remembered | refused => rfl
    | blocked => exact startDate_remember _ _
  · rw [same, finish, startDate_remember]
    cases begun with
    | passedOn | forwarded => rfl

end

/-- What a step leaves to be recorded goes into the channel, unless the log catches up. -/
theorem channel_step_cases (pipeline : Pipeline) (step : Step) :
    ((pipeline.step step).2.logged = [] ∧
        (pipeline.step step).1.channel =
          pipeline.channelAfter ((pipeline.step step).2.recorded? pipeline.startDate)) ∨
      ((pipeline.step step).2.logged = pipeline.channel.waiting ∧
        (pipeline.step step).1.channel = { pipeline.channel with waiting := [] } ∧
        (pipeline.step step).2.recorded? pipeline.startDate = none) := by
  cases step with
  | resolve inquiry => exact .inl ⟨rfl, channel_inquire pipeline inquiry⟩
  | handle inquiry delivered =>
      left
      cases ordinary : inquiry.request.isOrdinaryQuery with
      | true =>
          rw [step_handle_of_ordinary ordinary]
          exact ⟨rfl, channel_inquire pipeline inquiry.forwardable⟩
      | false =>
          rw [step_handle_of_extraordinary ordinary]
          exact ⟨rfl, rfl⟩
  | change change =>
      cases change with
      | advance | purge | reload => exact .inl ⟨rfl, rfl⟩
      | settle => exact .inr ⟨rfl, rfl, rfl⟩

theorem startDate_step (pipeline : Pipeline) (step : Step) :
    (pipeline.step step).1.startDate = pipeline.startDate := by
  rcases answered?_step_cases pipeline step with
    ⟨inquiry, next, _⟩ | ⟨_, same | ⟨change, changed⟩⟩
  · rw [next, startDate_inquire]
  · rw [same]
  · rw [changed]
    cases change <;> rfl

theorem isOpen_channelAfter (pipeline : Pipeline) (entry : Option QuestionEntry) :
    (pipeline.channelAfter entry).isOpen = pipeline.channel.isOpen := by
  cases entry with
  | none => rfl
  | some entry => exact QuestionChannel.isOpen_record _ entry

theorem isOpen_channel_step (pipeline : Pipeline) (step : Step) :
    (pipeline.step step).1.channel.isOpen = pipeline.channel.isOpen := by
  rcases channel_step_cases pipeline step with ⟨_, recorded⟩ | ⟨_, settled, _⟩
  · rw [recorded, isOpen_channelAfter]
  · rw [settled]

/-- Whether a message comes in. -/
def Step.hasMessage : Step → Bool
  | resolve _ | handle _ _ => true
  | change _ => false

/-- With room in the channel, what waits and what is recorded in a step is what reaches the log and
what then waits. -/
theorem waiting_append_recorded_step {pipeline : Pipeline} {step : Step}
    (opened : pipeline.channel.isOpen = true)
    (room : step.hasMessage = true →
      pipeline.channel.waiting.length < pipeline.channel.depth) :
    pipeline.channel.waiting ++
        ((pipeline.step step).2.recorded? pipeline.startDate).toList =
      (pipeline.step step).2.logged ++ (pipeline.step step).1.channel.waiting := by
  rcases channel_step_cases pipeline step with ⟨silent, recorded⟩ | ⟨logged, settled, unrecorded⟩
  · rw [silent, recorded]
    cases entry : (pipeline.step step).2.recorded? pipeline.startDate with
    | none => simp [channelAfter]
    | some entry =>
        cases step with
        | change => contradiction
        | resolve | handle =>
            simp [channelAfter, QuestionChannel.waiting_record opened (room rfl)]
  · simp [logged, settled, unrecorded]

/-- That the channel to the question log has room whenever a message comes in. -/
def NeverFull (pipeline : Pipeline) (steps : List Step) : Prop :=
  ∀ front step back, steps = front ++ step :: back → step.hasMessage = true →
    (pipeline.after front).channel.waiting.length < (pipeline.after front).channel.depth

theorem neverFull_nil (pipeline : Pipeline) : pipeline.NeverFull [] := by
  intro front step back split
  simp at split

theorem neverFull_cons {pipeline : Pipeline} {step : Step} {steps : List Step} :
    pipeline.NeverFull (step :: steps) ↔
      (step.hasMessage = true → pipeline.channel.waiting.length < pipeline.channel.depth) ∧
        (pipeline.step step).1.NeverFull steps := by
  constructor
  · intro never
    refine ⟨never [] step steps rfl, ?_⟩
    rintro front other back rfl
    exact never (step :: front) other back rfl
  · rintro ⟨room, later⟩ front other back split
    rcases front with _ | ⟨first, front⟩
    · cases split
      exact room
    · cases split
      exact later front other back rfl

/-- What waits at first and what is recorded in a run is what reaches the log and what waits in the
end. -/
theorem waiting_append_recorded {pipeline : Pipeline} (opened : pipeline.channel.isOpen = true)
    {steps : List Step} (roomy : pipeline.NeverFull steps) :
    pipeline.channel.waiting ++
        (pipeline.trace steps).filterMap (Event.recorded? pipeline.startDate) =
      (pipeline.trace steps).flatMap Event.logged ++
        (pipeline.after steps).channel.waiting := by
  induction steps generalizing pipeline with
  | nil => simp
  | cons step steps ih =>
      rcases neverFull_cons.1 roomy with ⟨room, later⟩
      have first := waiting_append_recorded_step opened room
      have rest := ih ((isOpen_channel_step pipeline step).trans opened) later
      rw [startDate_step] at rest
      have split : (pipeline.trace (step :: steps)).filterMap
            (Event.recorded? pipeline.startDate) =
          ((pipeline.step step).2.recorded? pipeline.startDate).toList ++
            ((pipeline.step step).1.trace steps).filterMap
              (Event.recorded? pipeline.startDate) := by
        rw [trace_cons, List.filterMap_cons]
        cases (pipeline.step step).2.recorded? pipeline.startDate <;> rfl
      rw [split, ← List.append_assoc, first, List.append_assoc, rest, trace_cons, after_cons,
        List.flatMap_cons, List.append_assoc]

/-- The servers are asked exactly about the messages that are recorded as not blocked. -/
theorem isSome_lookup?_eq (startDate : Int) (event : Event) :
    event.lookup?.isSome =
      ((event.recorded? startDate).filter fun entry => !entry.blocked).isSome := by
  unfold Event.lookup? Event.recorded?
  cases event.answered? with
  | none => rfl
  | some answered =>
      cases asked : answered.inquiry.query? with
      | none => simp [Answered.lookup?, Answered.recorded?, asked]
      | some query =>
          cases source : answered.resolution.source <;>
            simp [Answered.lookup?, Answered.recorded?, Resolution.isForwarded, asked, source]

theorem length_filter_recorded (startDate : Int) (events : List Event) :
    ((events.filterMap (Event.recorded? startDate)).filter fun entry => !entry.blocked).length =
      (events.filterMap Event.lookup?).length := by
  rw [List.filter_filterMap, List.length_filterMap_eq_countP, List.length_filterMap_eq_countP]
  apply List.countP_congr
  intro event _
  rw [isSome_lookup?_eq startDate event]

/-- From empty caches on, and with a channel that never fills up, what is recorded in a run is, in
order, one entry for each message about which the servers were asked and one for each message that
got a fresh null route, and none for any other: as many entries that are not blocked as there were
lookups, whatever these came to. -/
theorem questions_are_audited (config : Config) (channelDepth : Nat) (names : NameSet)
    (steps : List Step) (roomy : (start config channelDepth names).NeverFull steps) :
    let begun := start config channelDepth names
    let events := begun.trace steps
    let records := events.flatMap Event.logged ++ (begun.after steps).channel.waiting
    records = events.filterMap (Event.recorded? begun.startDate) ∧
      (records.filter fun entry => !entry.blocked).length =
        (events.filterMap Event.lookup?).length := by
  intro begun events records
  have audited : records = events.filterMap (Event.recorded? begun.startDate) :=
    (waiting_append_recorded rfl roomy).symm
  refine ⟨audited, ?_⟩
  rw [audited]
  exact length_filter_recorded begun.startDate events

/-- The sample address is asked for twice, then a blocked one, and then nothing at all. -/
def auditedSteps : List Step :=
  [.resolve sampleInquiry, .change .settle, .resolve sampleInquiry, .change (.advance 1000),
    .handle { sampleInquiry with request := { queries := [{ name := ⟨[[0x42]], by decide⟩ }] } } true,
    .change .settle, .resolve { sampleInquiry with request := {} }]

/-- The second query for the sample address is answered from the cache and not recorded. -/
theorem sample_questions_are_audited :
    let begun := start {} 1 (.ofList ["b"])
    let records := (begun.trace auditedSteps).flatMap Event.logged ++
      (begun.after auditedSteps).channel.waiting
    begun.NeverFull auditedSteps ∧
      records.map (fun entry => (entry.date, entry.question.name, entry.blocked)) =
        [(0, "a", false), (1, "B", true)] ∧
      ((begun.trace auditedSteps).filterMap Event.lookup?).length = 1 := by
  intro begun records
  have roomy : begun.NeverFull auditedSteps := by
    unfold auditedSteps
    repeat rw [neverFull_cons]
    simp only [neverFull_nil, and_true]
    decide +kernel
  have audited := questions_are_audited {} 1 (.ofList ["b"]) auditedSteps roomy
  refine ⟨roomy, ?_, ?_⟩
  · exact (congrArg (List.map _) audited.1).trans rfl
  · exact audited.2.symm.trans rfl

end Pipeline

end DnsFilter
