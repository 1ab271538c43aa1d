import DnsFilter.Proofs.Config.Validity
import DnsFilter.Proofs.Pipeline.Limits
import DnsFilter.Proofs.Pipeline.Overlapping

/-!
# Reach of a machine

How far the numbers of a machine reach is told by the configuration: by the longest lifetime that it
can give to an outcome, and by the capacity of the caches. A usable configuration bounds neither.
-/

namespace DnsFilter

/-- The longest time for which an outcome is remembered, in milliseconds. The servers can give no
longer TTL than 32 bits hold. -/
def Config.longestLifetime (config : Config) : Nat :=
  max config.negativeLifetime
    (max config.blockLifetime (min config.positiveLifetime (4294967295 * 1000)))

/-- That a machine holds whatever storing takes until some time, if outcomes are remembered as a
configuration says. -/
structure Machine.Holds (machine : Machine) (config : Config) (last : Nat) : Prop where
  instants : machine.clock + last + config.longestLifetime < Machine.clockEnd
  sizes : config.cacheCapacity * 2 < Machine.sizeEnd

theorem Message.leastAnswerTtl?_le {message : Message} {least : Nat}
    (found : message.leastAnswerTtl? = some least) : least ≤ 4294967295 := by
  rcases List.mem_map.1 (List.min?_mem found) with ⟨record, _, rfl⟩
  exact Nat.le_of_lt_succ record.ttl.toNat_lt

namespace Pipeline

variable {machine : Machine} {config : Config} {pipeline : Pipeline} {last : Nat}

theorem Warrants.le_longestLifetime {query : Query} {source : Source} {write : CacheWrite}
    (warrants : Warrants config query source write) :
    write.lifetime ≤ config.longestLifetime := by
  unfold Config.longestLifetime
  cases warrants with
  | block => exact Nat.le_trans (Nat.le_max_left _ _) (Nat.le_max_right _ _)
  | @answer _ _ least _ found _ =>
      have bound := Message.leastAnswerTtl?_le found
      show min config.positiveLifetime (least * 1000) ≤ _
      omega
  | failure => exact Nat.le_max_left _ _

theorem Configured.after (configured : Configured config pipeline) (steps : List Step) :
    Configured config (pipeline.after steps) := by
  induction steps generalizing pipeline with
  | nil => exact configured
  | cons step steps ih =>
      rcases exists_sheds_step pipeline step with ⟨shed, write, sheds, remembered⟩
      rw [after_cons, remembered]
      exact ih ((configured.of_sheds sheds).remember write)

/-- What resolving a message leaves to be remembered is warranted. -/
theorem exists_warrants_inquire (configured : Configured config pipeline) {inquiry : Inquiry}
    {write : CacheWrite} (written : (pipeline.inquire inquiry).2.write = some write) :
    ∃ query source, Warrants config query source write := by
  rcases inquire_cases pipeline inquiry with
    ⟨next, resolution, begun, same⟩ | ⟨next, pending, begun, same⟩
  · rw [same] at written
    rcases begun.warrants configured written with ⟨query, _, warrants⟩
    exact ⟨query, _, warrants⟩
  · rw [same] at written
    have settled := configured.of_sheds begun.sheds_of_forwarded.1
    exact ⟨_, _, warrants_outcomeResolution settled written⟩

theorem fits_of_holds (holds : machine.Holds config last) (orderly : Orderly config pipeline)
    (past : pipeline.now ≤ last) {write? : Option CacheWrite}
    (warranted : ∀ write, write? = some write →
      ∃ query source, Warrants config query source write) :
    pipeline.Fits machine write? := by
  intro write written _
  rcases warranted write written with ⟨query, source, warrants⟩
  have instants := holds.instants
  have lifetime := warrants.le_longestLifetime
  refine ⟨by omega, fun _ => ?_⟩
  rw [orderly.capacity]
  exact holds.sizes

theorem fits_asked_of_holds (holds : machine.Holds config last)
    (orderly : Orderly config pipeline) (past : pipeline.now ≤ last) (request : Message)
    {write? : Option CacheWrite}
    (warranted : ∀ write, write? = some write →
      ∃ query source, Warrants config query source write) :
    (pipeline.asked request).Fits machine write? := by
  rcases sheds_asked pipeline request with ⟨sheds, now⟩
  exact fits_of_holds holds (orderly.of_sheds sheds) (now ▸ past) warranted

section

variable (holds : machine.Holds config last) (configured : Configured config pipeline)
  (orderly : Orderly config pipeline) (past : pipeline.now ≤ last)

include holds configured orderly past

theorem beginOn_of_holds (request : Message) (transport : Transport) (client : IPAddress) :
    pipeline.beginOn machine request transport client =
      .ok (pipeline.begin request transport client) := by
  refine beginOn_eq_ok_iff.2 ⟨?_, rfl⟩
  apply fits_asked_of_holds holds orderly past
  intro write written
  have begun := begins_begin pipeline request transport client
  cases progress : (pipeline.begin request transport client).2 with
  | answered resolution =>
      rw [progress] at begun written
      rcases begun.warrants configured written with ⟨query, _, warrants⟩
      exact ⟨query, _, warrants⟩
  | forwarded pending =>
      rw [progress] at written
      contradiction

theorem finishOn_of_holds (pending : Pending) (outcome : Except Error Message) :
    pipeline.finishOn machine pending outcome = .ok (pipeline.finish pending outcome) := by
  refine finishOn_eq_ok_iff.2 ⟨?_, rfl⟩
  apply fits_of_holds holds orderly past
  intro write written
  exact ⟨_, _, warrants_outcomeResolution configured written⟩

theorem inquireOn_of_holds (inquiry : Inquiry) :
    pipeline.inquireOn machine inquiry = .ok (pipeline.inquire inquiry) := by
  refine inquireOn_eq_ok_iff.2 ⟨?_, rfl⟩
  apply fits_asked_of_holds holds orderly past
  exact fun write written => exists_warrants_inquire configured written

theorem stepOn_of_holds (step : Step) :
    pipeline.stepOn machine step = .ok (pipeline.step step) := by
  refine stepOn_eq_ok_iff.2 ⟨?_, rfl⟩
  intro inquiry _
  exact (inquireOn_eq_ok_iff.1 (inquireOn_of_holds holds configured orderly past inquiry)).1

end

/-- Each step of the run starts from a pipeline that is set up as it was, at a time before the end
of the run. -/
theorem afterOn_of_holds (holds : machine.Holds config last)
    (configured : Configured config pipeline) (orderly : Orderly config pipeline)
    (steps : List Step) (past : (pipeline.after steps).now ≤ last) :
    pipeline.afterOn machine steps = .ok (pipeline.after steps) := by
  apply foldlM_eq_ok
  rintro front step back rfl
  rw [after_append] at past
  have reached := Nat.le_trans (now_le_after (pipeline.after front) (step :: back)) past
  show (return (← (pipeline.after front).stepOn machine step).1) = _
  rw [stepOn_of_holds holds (configured.after front) (orderly.after front) reached]
  rfl

theorem afterOn_cons_eq_ok_iff {next : Pipeline} {step : Step} {steps : List Step} :
    pipeline.afterOn machine (step :: steps) = .ok next ↔
      ∃ stepped, pipeline.stepOn machine step = .ok stepped ∧
        stepped.1.afterOn machine steps = .ok next := by
  simp [afterOn, bind_eq_ok_iff, pure, Except.pure]

theorem exists_inquireOn_of_resolve {inquiry : Inquiry} {next : Pipeline}
    (went : pipeline.afterOn machine [.resolve inquiry] = .ok next) :
    ∃ result, pipeline.inquireOn machine inquiry = .ok result := by
  rcases afterOn_cons_eq_ok_iff.1 went with ⟨_, stepped, _⟩
  rcases bind_eq_ok_iff.1 stepped with ⟨result, inquired, _⟩
  exact ⟨result, inquired⟩

end Pipeline

namespace Overlap

variable {machine : Machine} {config : Config} {last : Nat}

theorem stepOn_of_holds {state : Overlap} (holds : machine.Holds config last)
    (configured : state.pipeline.Configured config) (orderly : state.pipeline.Orderly config)
    (past : state.pipeline.now ≤ last) (step : Step) :
    state.stepOn machine step = .ok (state.step step) := by
  cases step with
  | begin request transport client =>
      have same := pipeline_step_begin state request transport client
      rw [stepOn, Pipeline.beginOn_of_holds holds configured orderly past]
      simp [bind, Except.bind, pure, Except.pure, ← same]
  | finish ticket outcome =>
      rw [stepOn]
      split
      · rfl
      · next pending waits =>
          have same := pipeline_step_finish waits outcome
          rw [Pipeline.finishOn_of_holds holds configured orderly past]
          simp [bind, Except.bind, pure, Except.pure, ← same]
  | change change => rfl

theorem afterOn_of_holds (holds : machine.Holds config last) (channelDepth : Nat)
    (names : NameSet) (steps : List Step)
    (past : ((start config channelDepth names).after steps).pipeline.now ≤ last) :
    (start config channelDepth names).afterOn machine steps =
      .ok ((start config channelDepth names).after steps) := by
  apply foldlM_eq_ok
  rintro front step back rfl
  rcases recalled_run config channelDepth names front with ⟨_, recalled⟩
  have reached : ((start config channelDepth names).after front).pipeline.now ≤ last := by
    rw [after, List.foldl_append] at past
    exact Nat.le_trans (now_le_after _ (step :: back)) past
  show (return (← ((start config channelDepth names).after front).stepOn machine step).1) = _
  rw [stepOn_of_holds holds recalled.configured recalled.orderly reached]
  rfl

theorem afterOn_cons_eq_ok_iff {state next : Overlap} {step : Step} {steps : List Step} :
    state.afterOn machine (step :: steps) = .ok next ↔
      ∃ stepped, state.stepOn machine step = .ok stepped ∧
        stepped.1.afterOn machine steps = .ok next := by
  simp [afterOn, bind_eq_ok_iff, pure, Except.pure]

/-- The steps of a message between whose parts nothing happens. -/
def atOnce (inquiry : Pipeline.Inquiry) : List Step :=
  [.begin inquiry.request inquiry.transport inquiry.client, .finish 0 inquiry.outcome]

theorem pipeline_after_atOnce (pipeline : Pipeline) (inquiry : Pipeline.Inquiry) :
    (({ pipeline } : Overlap).after (atOnce inquiry)).pipeline = (pipeline.inquire inquiry).1 := by
  simp only [atOnce, after_cons, after_nil, step, Pipeline.inquire, Pipeline.resolve]
  rcases pipeline.begin inquiry.request inquiry.transport inquiry.client with ⟨next, progress⟩
  cases progress <;> rfl

/-- If both parts of a message go through, so does resolving it. -/
theorem exists_inquireOn_of_atOnce {pipeline : Pipeline} {inquiry : Pipeline.Inquiry}
    {next : Overlap}
    (went : ({ pipeline } : Overlap).afterOn machine (atOnce inquiry) = .ok next) :
    ∃ result, pipeline.inquireOn machine inquiry = .ok result := by
  rcases afterOn_cons_eq_ok_iff.1 went with ⟨_, began, ended⟩
  rcases bind_eq_ok_iff.1 began with ⟨⟨middle, progress⟩, begun, same⟩
  cases same
  unfold Pipeline.inquireOn Pipeline.resolveOn
  rw [begun]
  cases progress with
  | answered resolution => exact ⟨_, rfl⟩
  | forwarded pending =>
      have begins := (Pipeline.beginOn_eq_ok_iff.1 begun).2
      simp only [step, begins] at ended
      rcases afterOn_cons_eq_ok_iff.1 ended with ⟨_, finished, _⟩
      rcases bind_eq_ok_iff.1 finished with ⟨result, concluded, _⟩
      exact ⟨result, concluded⟩

end Overlap

namespace Pipeline

variable {machine : Machine} {config : Config} {channelDepth : Nat} {names : NameSet} {last : Nat}

/-- A pipeline that has waited since its start, with other names blocked. -/
def waited (config : Config) (channelDepth : Nat) (names : NameSet) (last : Nat)
    (blocked : NameSet) : Pipeline :=
  ((start config channelDepth names).advance last).reload blocked

theorem now_inquire_waited (blocked : NameSet) (inquiry : Inquiry) :
    ((waited config channelDepth names last blocked).inquire inquiry).1.now ≤ last := by
  rw [now_inquire]
  exact Nat.le_of_eq (Nat.zero_add last)

/-- An answer to the sample query that may be kept for as long as any. -/
def lastingAnswer : Message where
  answers :=
    [{ owner := sampleQuery.name
       recordType := .a
       ttl := 4294967295
       data := some (.ipv4 ⟨192, 0, 2, 2⟩) }]

/-- A machine on which a failure, an answer and the answer for a blocked name can be remembered late
for as long as possible holds whatever storing takes until then. -/
theorem holds_of_inquires (valid : config.validate = .ok ())
    (goes : ∀ blocked inquiry, ∃ result,
      (waited config channelDepth names last blocked).inquireOn machine inquiry = .ok result) :
    machine.Holds config last := by
  have negative : 0 < config.negativeLifetime :=
    Nat.lt_of_lt_of_le (by decide) (Config.le_negativeLifetime valid)
  have positive : 0 < min config.positiveLifetime (4294967295 * 1000) :=
    Nat.lt_min.2 ⟨Nat.lt_of_lt_of_le (by decide) (Config.le_positiveLifetime valid), by decide⟩
  have block : 0 < config.blockLifetime :=
    Nat.lt_of_lt_of_le (by decide) (Config.le_blockLifetime valid)
  rcases goes ∅ { sampleInquiry with outcome := .error .io } with ⟨_, failing⟩
  rcases goes ∅ { sampleInquiry with outcome := .ok lastingAnswer } with ⟨_, answering⟩
  rcases goes {"a"} sampleInquiry with ⟨_, blocking⟩
  have failure : ((start config channelDepth names).cache .negative).Fits machine (0 + last)
      sampleQuery.key config.negativeLifetime :=
    (inquireOn_eq_ok_iff.1 failing).1 _ rfl (Nat.ne_of_gt negative)
  have answer : ((start config channelDepth names).cache .positive).Fits machine (0 + last)
      sampleQuery.key (min config.positiveLifetime (4294967295 * 1000)) :=
    (inquireOn_eq_ok_iff.1 answering).1 _ rfl (Nat.ne_of_gt positive)
  have blocked : ((start config channelDepth names).cache .positive).Fits machine (0 + last)
      sampleQuery.key config.blockLifetime :=
    (inquireOn_eq_ok_iff.1 blocking).1 _ rfl (Nat.ne_of_gt block)
  constructor
  · have failed := failure.instant
    have answered := answer.instant
    have routed := blocked.instant
    unfold Config.longestLifetime
    omega
  · rw [← (Orderly.start config channelDepth names).capacity .negative]
    exact failure.size (getElem?_entries_start config channelDepth names .negative _)

/-- All runs that end by some time go through if and only if the machine holds what storing takes
until then. -/
theorem forall_afterOn_iff_holds (valid : config.validate = .ok ()) :
    (∀ steps,
        let pipeline := start config channelDepth names
        (pipeline.after steps).now ≤ last →
        pipeline.afterOn machine steps = .ok (pipeline.after steps)) ↔
      machine.Holds config last := by
  constructor
  · intro goes
    apply holds_of_inquires valid
    intro blocked inquiry
    apply exists_inquireOn_of_resolve
    exact goes [.change (.advance last), .change (.reload blocked), .resolve inquiry]
      (now_inquire_waited blocked inquiry)
  · intro holds steps _ past
    exact afterOn_of_holds holds (.start _ _ _) (.start _ _ _) steps past

end Pipeline

namespace Overlap

/-- Messages that overlap reach as far as messages one after another. -/
theorem forall_afterOn_iff_holds {machine : Machine} {config : Config} {channelDepth : Nat}
    {names : NameSet} {last : Nat} (valid : config.validate = .ok ()) :
    (∀ steps,
        let state := start config channelDepth names
        (state.after steps).pipeline.now ≤ last →
        state.afterOn machine steps = .ok (state.after steps)) ↔
      machine.Holds config last := by
  constructor
  · intro goes
    apply Pipeline.holds_of_inquires valid
    intro blocked inquiry
    apply exists_inquireOn_of_atOnce
    refine goes (.change (.advance last) :: .change (.reload blocked) :: atOnce inquiry) ?_
    show (after { pipeline := .waited config channelDepth names last blocked } _).pipeline.now ≤
      last
    rw [pipeline_after_atOnce]
    exact Pipeline.now_inquire_waited blocked inquiry
  · intro holds steps _ past
    exact afterOn_of_holds holds channelDepth names steps past

end Overlap

/-- Under a usable configuration all runs that end by some time go through, be it with messages one
after another or with messages that overlap, if and only if the machine can show the latest instant
at which something remembered until then expires, and can hold twice the capacity of the caches. -/
theorem runs_go_through_iff_machine_holds (machine : Machine) (config : Config)
    (valid : config.validate = .ok ()) (channelDepth : Nat) (names : NameSet) (last : Nat) :
    ((∀ steps,
        let pipeline := Pipeline.start config channelDepth names
        (pipeline.after steps).now ≤ last →
        pipeline.afterOn machine steps = .ok (pipeline.after steps)) ↔
      machine.Holds config last) ∧
    ((∀ steps,
        let state := Overlap.start config channelDepth names
        (state.after steps).pipeline.now ≤ last →
        state.afterOn machine steps = .ok (state.after steps)) ↔
      machine.Holds config last) :=
  ⟨Pipeline.forall_afterOn_iff_holds valid, Overlap.forall_afterOn_iff_holds valid⟩

/-- With a clock at one second and the defaults for all other settings, the greatest `expire` with
which all messages go through at the start. -/
theorem greatest_expire_goes_through :
    let goes (expire : Nat) : Prop := ∀ steps,
      let pipeline := Pipeline.start { expire } 1 ∅
      (pipeline.after steps).now ≤ 0 →
      pipeline.afterOn { clock := 1000 } steps = .ok (pipeline.after steps)
    goes 18446744073709551613 ∧ ¬goes 18446744073709551614 := by
  intro goes
  constructor
  · exact (runs_go_through_iff_machine_holds { clock := 1000 } { expire := 18446744073709551613 }
      rfl 1 ∅ 0).1.2 ⟨by decide, by decide⟩
  · intro all
    have holds := (runs_go_through_iff_machine_holds { clock := 1000 }
      { expire := 18446744073709551614 } rfl 1 ∅ 0).1.1 all
    exact absurd holds.instants (by decide)

/-- Configurations that can be used, and yet a message breaks the run off: because the servers
failed and the failure would be kept beyond the end of the clock, or because twice the capacity is
too large. -/
theorem usable_configuration_breaks_off :
    let lasting : Config := { expire := 18446744073709551615 }
    let large : Config := { maxCount := 9223372036854775808 }
    let failing : Pipeline.Inquiry :=
      { Pipeline.sampleInquiry with outcome := .error (.serversExhausted 1) }
    (lasting.validate = .ok () ∧
        (Pipeline.start lasting 1 ∅).afterOn { clock := 1000 } [.resolve failing] =
          .error .instant) ∧
      large.validate = .ok () ∧
        (Pipeline.start large 1 ∅).afterOn { clock := 1000 } [.resolve Pipeline.sampleInquiry] =
          .error .size :=
  ⟨⟨rfl, rfl⟩, rfl, rfl⟩

end DnsFilter
