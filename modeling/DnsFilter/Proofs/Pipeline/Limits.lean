import DnsFilter.Pipeline.Limits
import DnsFilter.Proofs.Cache.Limits
import DnsFilter.Proofs.Pipeline.Steps

/-!
# Limits of a pipeline

A step on a machine goes through if and only if the machine holds the numbers that storing what is
to be remembered takes, and then it does what it does without a machine. So whatever holds of all
runs holds of those that go through on a machine.
-/

namespace DnsFilter

/-- A run whose steps may break off does what it does otherwise if it goes through. -/
theorem foldl_of_foldlM {ε α β : Type} {checked : β → α → Except ε β} {step : β → α → β}
    (agrees : ∀ {state next} (one : α), checked state one = .ok next → step state one = next)
    {start last : β} {steps : List α} (went : steps.foldlM checked start = .ok last) :
    steps.foldl step start = last := by
  induction steps generalizing start with
  | nil => exact Except.ok.inj went
  | cons first rest ih =>
      rw [List.foldlM_cons] at went
      rcases bind_eq_ok_iff.1 went with ⟨next, begun, went⟩
      rw [List.foldl_cons, agrees first begun]
      exact ih went

/-- A run whose steps may break off does not, if none of its steps does. -/
theorem foldlM_eq_ok {ε α β : Type} {checked : β → α → Except ε β} {step : β → α → β}
    {start : β} {steps : List α}
    (goes : ∀ front last back, steps = front ++ last :: back →
      checked (front.foldl step start) last = .ok (step (front.foldl step start) last)) :
    steps.foldlM checked start = .ok (steps.foldl step start) := by
  induction steps generalizing start with
  | nil => rfl
  | cons first rest ih =>
      have begins : checked start first = .ok (step start first) := goes [] first rest rfl
      rw [List.foldlM_cons, begins]
      apply ih
      rintro front last back rfl
      exact goes (first :: front) last back rfl

namespace Pipeline

variable {machine : Machine} {pipeline : Pipeline}

/-- That a machine holds the numbers that remembering an outcome takes. -/
def Fits (machine : Machine) (pipeline : Pipeline) (write? : Option CacheWrite) : Prop :=
  ∀ write, write? = some write → write.lifetime ≠ 0 →
    (pipeline.cache write.side).Fits machine pipeline.now write.key write.lifetime

theorem fits_none (machine : Machine) (pipeline : Pipeline) : pipeline.Fits machine none := by
  intro write written
  contradiction

/-- Which numbers it takes to remember an outcome depends on the caches and on the time. -/
theorem fits_congr {other : Pipeline} (caches : ∀ side, pipeline.cache side = other.cache side)
    (now : pipeline.now = other.now) (write? : Option CacheWrite) :
    pipeline.Fits machine write? ↔ other.Fits machine write? := by
  simp only [Fits, caches, now]

theorem rememberOn_eq_ok_iff {write? : Option CacheWrite} {next : Pipeline} :
    pipeline.rememberOn machine write? = .ok next ↔
      pipeline.Fits machine write? ∧ pipeline.remember write? = next := by
  cases write? with
  | none => simp [rememberOn, remember, Fits]
  | some write =>
      rw [remember_some]
      rcases stored : (pipeline.cache write.side).set pipeline.now write.key write.response
        write.lifetime with ⟨cache, outcome⟩
      simp [rememberOn, Fits, bind_eq_ok_iff, ResponseCache.setOn_eq_ok_iff, stored, pure,
        Except.pure, and_assoc]

/-- Asking the caches takes no time and only makes entries go. -/
theorem sheds_asked (pipeline : Pipeline) (request : Message) :
    Sheds pipeline (pipeline.asked request) ∧ (pipeline.asked request).now = pipeline.now := by
  unfold asked
  split
  · exact ⟨.refl pipeline, rfl⟩
  · next query _ =>
      split
      · by_cases answered : ∃ message,
            pipeline.positive.valid? pipeline.now query.key = some (.answer message)
        · rcases answered with ⟨message, found⟩
          rw [cached_of_answer found]
          exact ⟨.lookUp pipeline .positive query.key, rfl⟩
        · rw [cached_of_unanswered (not_exists.1 answered)]
          exact ⟨.missed pipeline query.key, rfl⟩
      · exact ⟨.refl pipeline, rfl⟩

/-- The caches after the first part are those that were asked, with what is remembered then. -/
theorem cache_begin (pipeline : Pipeline) (request : Message) (transport : Transport)
    (client : IPAddress) (side : CacheSide) :
    (pipeline.begin request transport client).1.cache side =
      ((pipeline.asked request).remember
        (pipeline.begin request transport client).2.write?).cache side := by
  have begun := begins_begin pipeline request transport client
  revert begun
  rcases pipeline.begin request transport client with ⟨next, progress⟩
  intro begun
  unfold asked
  cases begun with
  | malformed absent =>
      simp only [absent]
      rfl
  | passedOn first other =>
      simp only [first, other]
      cases side <;> rfl
  | remembered first address found =>
      simp only [first, address, cached_of_answer found]
      rfl
  | refused first address unanswered | blocked first address unanswered
  | forwarded first address unanswered =>
      simp only [first, address, cached_of_unanswered unanswered]
      cases side <;> rfl

theorem beginOn_eq_ok_iff {request : Message} {transport : Transport} {client : IPAddress}
    {result : Pipeline × Progress} :
    pipeline.beginOn machine request transport client = .ok result ↔
      (pipeline.asked request).Fits machine
          (pipeline.begin request transport client).2.write? ∧
        pipeline.begin request transport client = result := by
  have positive := cache_begin pipeline request transport client .positive
  have negative := cache_begin pipeline request transport client .negative
  simp only [cache] at positive negative
  simp [beginOn, bind_eq_ok_iff, rememberOn_eq_ok_iff, ← positive, ← negative, pure, Except.pure,
    and_assoc]

theorem finishOn_eq_ok_iff {pending : Pending} {outcome : Except Error Message}
    {result : Pipeline × Resolution} :
    pipeline.finishOn machine pending outcome = .ok result ↔
      pipeline.Fits machine (pipeline.outcomeResolution pending outcome).write ∧
        pipeline.finish pending outcome = result := by
  simp [finishOn, finish, bind_eq_ok_iff, rememberOn_eq_ok_iff, pure, Except.pure, and_assoc]

/-- Resolving a message takes the numbers for what is remembered of it, be it before the servers are
asked or afterwards: either way it is stored in the caches as they were asked. -/
theorem resolveOn_eq_ok_iff {request : Message} {transport : Transport} {client : IPAddress}
    {ask : Transport → Message → Except Error Message} {result : Pipeline × Resolution} :
    pipeline.resolveOn machine request transport client ask = .ok result ↔
      (pipeline.asked request).Fits machine
          (pipeline.resolve request transport client ask).2.write ∧
        pipeline.resolve request transport client ask = result := by
  have begun := begins_begin pipeline request transport client
  have caches := cache_begin pipeline request transport client
  have now := (sheds_asked pipeline request).2
  simp only [resolveOn, bind_eq_ok_iff, beginOn_eq_ok_iff, resolve]
  generalize pipeline.begin request transport client = parted at begun caches ⊢
  rcases parted with ⟨next, progress⟩
  cases progress with
  | answered resolution =>
      constructor
      · rintro ⟨_, ⟨fits, rfl⟩, same⟩
        exact ⟨fits, Except.ok.inj same⟩
      · rintro ⟨fits, same⟩
        exact ⟨_, ⟨fits, rfl⟩, congrArg Except.ok same⟩
  | forwarded pending =>
      have sameNow : next.now = (pipeline.asked request).now :=
        begun.sheds_of_forwarded.2.trans now.symm
      have fits : next.Fits machine _ ↔ (pipeline.asked request).Fits machine _ :=
        fits_congr caches sameNow
          (next.outcomeResolution pending (ask pending.transport pending.request)).write
      have unwritten := fits_none machine (pipeline.asked request)
      simpa [concludeOn, conclude, finishOn_eq_ok_iff, finish, Progress.write?, unwritten]
        using fun _ => fits

theorem inquireOn_eq_ok_iff {inquiry : Inquiry} {result : Pipeline × Resolution} :
    pipeline.inquireOn machine inquiry = .ok result ↔
      (pipeline.asked inquiry.request).Fits machine (pipeline.inquire inquiry).2.write ∧
        pipeline.inquire inquiry = result :=
  resolveOn_eq_ok_iff

/-- Handling a request takes the numbers for what is remembered of an ordinary query. -/
theorem handleOn_eq_ok_iff {request : Message} {transport : Transport} {client : IPAddress}
    {ask : Transport → Message → Except Error Message} {delivered : Bool}
    {result : Pipeline × Handling} :
    pipeline.handleOn machine request transport client ask delivered = .ok result ↔
      (request.isOrdinaryQuery = true →
        (pipeline.asked request.forwardable).Fits machine
          (pipeline.resolve request.forwardable transport client ask).2.write) ∧
        pipeline.handle request transport client ask delivered = result := by
  cases ordinary : request.isOrdinaryQuery with
  | true =>
      simp [handleOn, handle, ordinary, bind_eq_ok_iff, resolveOn_eq_ok_iff, pure, Except.pure,
        and_assoc]
  | false => simp [handleOn, ordinary]

/-- A step that resolves an inquiry leaves what resolving it leaves. -/
theorem step_of_inquiry? {step : Step} {inquiry : Inquiry}
    (resolves : step.inquiry? = some inquiry) :
    (pipeline.step step).1 = (pipeline.inquire inquiry).1 := by
  cases step with
  | resolve own =>
      cases resolves
      rfl
  | handle own delivered =>
      simp only [Step.inquiry?, Option.ite_none_right_eq_some] at resolves
      rcases resolves with ⟨ordinary, same⟩
      cases same
      rw [step_handle_of_ordinary ordinary]
  | change => contradiction

theorem stepOn_eq_ok_iff {step : Step} {result : Pipeline × Event} :
    pipeline.stepOn machine step = .ok result ↔
      (∀ inquiry, step.inquiry? = some inquiry →
        (pipeline.asked inquiry.request).Fits machine (pipeline.inquire inquiry).2.write) ∧
        pipeline.step step = result := by
  unfold stepOn
  cases resolves : step.inquiry? with
  | none => simp
  | some inquiry =>
      have next : (pipeline.step step).1 = (pipeline.inquire inquiry).1 :=
        step_of_inquiry? resolves
      simp [bind_eq_ok_iff, inquireOn_eq_ok_iff, pure, Except.pure, ← next, and_assoc]

/-- A run that goes through on a machine does what it does without one. -/
theorem after_of_afterOn {next : Pipeline} {steps : List Step}
    (went : pipeline.afterOn machine steps = .ok next) : pipeline.after steps = next := by
  apply foldl_of_foldlM _ went
  intro state next step stepped
  rcases bind_eq_ok_iff.1 stepped with ⟨result, goes, same⟩
  rw [(stepOn_eq_ok_iff.1 goes).2]
  exact Except.ok.inj same

end Pipeline

namespace Overlap

variable {machine : Machine}

theorem pipeline_step_begin (state : Overlap) (request : Message) (transport : Transport)
    (client : IPAddress) :
    (state.step (.begin request transport client)).1.pipeline =
      (state.pipeline.begin request transport client).1 := by
  rw [step]
  rcases state.pipeline.begin request transport client with ⟨next, progress⟩
  cases progress <;> rfl

theorem pipeline_step_finish {state : Overlap} {ticket : Nat} {pending : Pending}
    (waits : state.waiting.lookup ticket = some pending) (outcome : Except Error Message) :
    (state.step (.finish ticket outcome)).1.pipeline =
      (state.pipeline.finish pending outcome).1 := by
  simp only [step, waits]

theorem step_of_stepOn {state : Overlap} {step : Step} {result : Overlap × Event}
    (went : state.stepOn machine step = .ok result) : state.step step = result := by
  cases step with
  | begin request transport client =>
      rcases bind_eq_ok_iff.1 went with ⟨⟨next, progress⟩, begun, went⟩
      have same : (state.step (.begin request transport client)).1.pipeline = next := by
        rw [pipeline_step_begin, (Pipeline.beginOn_eq_ok_iff.1 begun).2]
      subst same
      exact Except.ok.inj went
  | finish ticket outcome =>
      unfold stepOn at went
      cases waits : state.waiting.lookup ticket with
      | none =>
          simp only [waits] at went
          exact Except.ok.inj went
      | some pending =>
          simp only [waits] at went
          rcases bind_eq_ok_iff.1 went with ⟨⟨next, resolution⟩, finished, went⟩
          have same : (state.step (.finish ticket outcome)).1.pipeline = next := by
            rw [pipeline_step_finish waits, (Pipeline.finishOn_eq_ok_iff.1 finished).2]
          subst same
          exact Except.ok.inj went
  | change change => exact Except.ok.inj went

/-- Messages that overlap and go through on a machine do what they do without one. -/
theorem after_of_afterOn {state next : Overlap} {steps : List Step}
    (went : state.afterOn machine steps = .ok next) : state.after steps = next := by
  apply foldl_of_foldlM _ went
  intro state next step stepped
  rcases bind_eq_ok_iff.1 stepped with ⟨result, goes, same⟩
  rw [step_of_stepOn goes]
  exact Except.ok.inj same

end Overlap

end DnsFilter
