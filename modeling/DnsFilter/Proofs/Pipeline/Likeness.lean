import DnsFilter.Proofs.Pipeline.Steps

/-!
# Pipelines that cannot be told apart

Two pipelines whose caches are alike answer alike. What being alike means for caches is left open:
it is any relation that lookups and storing keep. Runs are compared with one another when something
is inserted between the steps of one of them.
-/

namespace DnsFilter

/-- The key under which a query is looked up, if it is an address query. -/
def Query.addressKey? (query : Query) : Option String := query.family?.map fun _ => query.key

def Message.addressKey? (request : Message) : Option String :=
  request.queries.head?.bind Query.addressKey?

theorem Message.addressKey?_of_head? {request : Message} {query : Query} {family : AddressFamily}
    (first : request.queries.head? = some query) (address : query.family? = some family) :
    request.addressKey? = some query.key := by
  simp [addressKey?, Query.addressKey?, first, address]

/-- A relation of caches at an instant that is kept by what is done under some keys, and by time.
Caches that are so related show the same. -/
structure ResponseCache.IsLikeness (keys : String → Prop)
    (like : Nat → ResponseCache → ResponseCache → Prop) : Prop where
  lifetime : ∀ {now cache other}, like now cache other → cache.lifetime = other.lifetime
  valid : ∀ {now cache other}, like now cache other →
    ∀ key, cache.valid? now key = other.valid? now key
  later : ∀ {now cache other}, like now cache other →
    ∀ duration, like (now + duration) cache other
  get : ∀ {now cache other}, like now cache other →
    ∀ key, like now (cache.get now key).1 (other.get now key).1
  set : ∀ {now cache other}, like now cache other → ∀ {key}, keys key → ∀ response lifetime,
    like now (cache.set now key response lifetime).1 (other.set now key response lifetime).1

namespace Pipeline

theorem addressKey?_of_write {pipeline : Pipeline} {pending : Pending}
    {outcome : Except Error Message} {write : CacheWrite}
    (written : (pipeline.outcomeResolution pending outcome).write = some write) :
    pending.query.addressKey? = some write.key := by
  simp only [outcomeResolution, Option.ite_none_right_eq_some, Option.isSome_iff_exists] at written
  rcases written with ⟨⟨family, address⟩, written⟩
  simp only [Query.addressKey?, address, Option.map_some]
  cases outcome with
  | error error =>
      cases written
      rfl
  | ok message =>
      rcases Option.map_eq_some_iff.1 written with ⟨lifetime, _, rfl⟩
      rfl

/-- That two pipelines only differ in their caches, which are alike, and perhaps in their logs. -/
structure Alike (logged : Prop) (like : Nat → ResponseCache → ResponseCache → Prop)
    (pipeline other : Pipeline) : Prop where
  config : pipeline.config = other.config
  blocked : pipeline.blocked = other.blocked
  now : pipeline.now = other.now
  startDate : pipeline.startDate = other.startDate
  channel : logged → pipeline.channel = other.channel
  log : logged → pipeline.log = other.log
  caches : ∀ side, like pipeline.now (pipeline.cache side) (other.cache side)

namespace Alike

variable {logged : Prop} {keys : String → Prop}
  {like : Nat → ResponseCache → ResponseCache → Prop} {pipeline other : Pipeline}

theorem refl (pipeline : Pipeline)
    (same : ∀ side, like pipeline.now (pipeline.cache side) (pipeline.cache side)) :
    Alike logged like pipeline pipeline :=
  ⟨rfl, rfl, rfl, rfl, fun _ => rfl, fun _ => rfl, same⟩

theorem withCache (alike : Alike logged like pipeline other) (side : CacheSide)
    {cache otherCache : ResponseCache} (caches : like pipeline.now cache otherCache) :
    Alike logged like (pipeline.withCache side cache) (other.withCache side otherCache) := by
  have others := alike.caches
  cases side with
  | positive =>
      refine ⟨alike.config, alike.blocked, alike.now, alike.startDate, alike.channel, alike.log, ?_⟩
      rintro (_ | _)
      · exact caches
      · exact others .negative
  | negative =>
      refine ⟨alike.config, alike.blocked, alike.now, alike.startDate, alike.channel, alike.log, ?_⟩
      rintro (_ | _)
      · exact others .positive
      · exact caches

theorem record (alike : Alike logged like pipeline other) (client : IPAddress)
    (question : Question) (blocked : Bool) :
    Alike logged like (pipeline.record client question blocked)
      (other.record client question blocked) := by
  refine ⟨alike.config, alike.blocked, alike.now, alike.startDate, ?_, alike.log, ?_⟩
  · intro isLogged
    simp only [Pipeline.record, date, alike.now, alike.startDate, alike.channel isLogged]
  · intro side
    have same := alike.caches side
    cases side <;> exact same

theorem reload (alike : Alike logged like pipeline other) (names : NameSet) :
    Alike logged like (pipeline.reload names) (other.reload names) := by
  refine ⟨alike.config, congrArg (BlockSet.reload · names) alike.blocked, alike.now,
    alike.startDate, alike.channel, alike.log, ?_⟩
  intro side
  have same := alike.caches side
  cases side <;> exact same

theorem settle (alike : Alike logged like pipeline other) (isLogged : logged) :
    Alike logged like pipeline.settle other.settle := by
  have sameChannel := alike.channel isLogged
  have sameLog := alike.log isLogged
  refine ⟨alike.config, alike.blocked, alike.now, alike.startDate, ?_, ?_, ?_⟩
  · intro _
    simp only [Pipeline.settle, QuestionChannel.settle, sameChannel]
  · intro _
    simp only [Pipeline.settle, QuestionChannel.settle, sameChannel, sameLog]
  · intro side
    have same := alike.caches side
    cases side <;> exact same

variable (likeness : ResponseCache.IsLikeness keys like)
include likeness

theorem advance (alike : Alike logged like pipeline other) (duration : Nat) :
    Alike logged like (pipeline.advance duration) (other.advance duration) := by
  refine ⟨alike.config, alike.blocked, congrArg (· + duration) alike.now, alike.startDate,
    alike.channel, alike.log, ?_⟩
  intro side
  have later := likeness.later (alike.caches side) duration
  cases side <;> exact later

theorem lookUp (alike : Alike logged like pipeline other) (side : CacheSide) (key : String) :
    Alike logged like (pipeline.lookUp side key).1 (other.lookUp side key).1 := by
  rw [lookUp_fst, lookUp_fst, ← alike.now]
  exact alike.withCache side (likeness.get (alike.caches side) key)

theorem valid? (alike : Alike logged like pipeline other) (side : CacheSide) (key : String) :
    (pipeline.cache side).valid? pipeline.now key = (other.cache side).valid? other.now key := by
  rw [← alike.now]
  exact likeness.valid (alike.caches side) key

theorem missed (alike : Alike logged like pipeline other) (key : String) :
    Alike logged like (pipeline.missed key) (other.missed key) :=
  (alike.lookUp likeness .positive key).lookUp likeness .negative key

theorem remember (alike : Alike logged like pipeline other) {write : Option CacheWrite}
    (admitted : ∀ new, write = some new → keys new.key) :
    Alike logged like (pipeline.remember write) (other.remember write) := by
  cases write with
  | none => exact alike
  | some write =>
      rw [remember_some, remember_some, ← alike.now]
      apply alike.withCache
      exact likeness.set (alike.caches write.side) (admitted write rfl) _ _

/-- Both pipelines find the same in their caches. -/
theorem cached (alike : Alike logged like pipeline other) (request : Message) (key : String) :
    Alike logged like (pipeline.cached request key).1 (other.cached request key).1 ∧
      (pipeline.cached request key).2 = (other.cached request key).2 := by
  have samePositive := alike.valid? likeness .positive key
  have sameNegative := alike.valid? likeness .negative key
  by_cases answered : ∃ message,
      pipeline.positive.valid? pipeline.now key = some (.answer message)
  · rcases answered with ⟨message, found⟩
    rw [cached_of_answer found, cached_of_answer (samePositive.symm.trans found)]
    exact ⟨alike.lookUp likeness .positive key, rfl⟩
  · have unanswered := not_exists.1 answered
    have otherUnanswered (message : Message) :
        other.positive.valid? other.now key ≠ some (.answer message) := by
      intro found
      exact unanswered message (samePositive.trans found)
    rw [cached_of_unanswered unanswered, cached_of_unanswered otherUnanswered]
    refine ⟨alike.missed likeness key, ?_⟩
    exact congrArg (Option.map _) sameNegative

/-- Both pipelines answer a message at once with the same, or both forward it. -/
theorem begin (alike : Alike logged like pipeline other) {request : Message}
    (admitted : ∀ key, request.addressKey? = some key → keys key) (transport : Transport)
    (client : IPAddress) :
    Alike logged like (pipeline.begin request transport client).1
        (other.begin request transport client).1 ∧
      (pipeline.begin request transport client).2 =
        (other.begin request transport client).2 := by
  unfold Pipeline.begin
  split
  · exact ⟨alike, rfl⟩
  · next query first =>
      split
      · exact ⟨alike.record client _ false, rfl⟩
      · next family address =>
          -- From here on, only what the caches gave decides, and that is the same on both sides.
          have looked := alike.cached likeness request query.key
          revert looked
          rcases pipeline.cached request query.key with ⟨middle, found⟩
          rcases other.cached request query.key with ⟨otherMiddle, otherFound⟩
          rintro ⟨next, rfl⟩
          cases found with
          | some resolution => exact ⟨next, rfl⟩
          | none =>
              have sameBlocked : middle.blocked = otherMiddle.blocked := next.blocked
              have sameConfig : middle.config = otherMiddle.config := next.config
              simp only [sameBlocked]
              split
              · simp only [block, sameConfig]
                refine ⟨?_, trivial⟩
                apply (next.record client _ true).remember likeness
                intro new written
                cases written
                exact admitted _ (Message.addressKey?_of_head? first address)
              · exact ⟨next.record client _ false, rfl⟩

/-- Both pipelines make the same of an outcome. -/
theorem finish (alike : Alike logged like pipeline other) {pending : Pending}
    (admitted : ∀ key, pending.query.addressKey? = some key → keys key)
    (outcome : Except Error Message) :
    Alike logged like (pipeline.finish pending outcome).1 (other.finish pending outcome).1 ∧
      (pipeline.finish pending outcome).2 = (other.finish pending outcome).2 := by
  have same : other.outcomeResolution pending outcome =
      pipeline.outcomeResolution pending outcome := by
    apply outcomeResolution_congr
    intro side
    exact (likeness.lifetime (alike.caches side)).symm
  simp only [Pipeline.finish, same, and_true]
  apply alike.remember likeness
  intro new written
  exact admitted new.key (addressKey?_of_write written)

theorem inquire (alike : Alike logged like pipeline other) {inquiry : Inquiry}
    (admitted : ∀ key, inquiry.request.addressKey? = some key → keys key) :
    Alike logged like (pipeline.inquire inquiry).1 (other.inquire inquiry).1 ∧
      (pipeline.inquire inquiry).2 = (other.inquire inquiry).2 := by
  have begun := begins_begin pipeline inquiry.request inquiry.transport inquiry.client
  rcases alike.begin likeness admitted inquiry.transport inquiry.client with ⟨next, same⟩
  unfold Pipeline.inquire resolve
  cases progress : (pipeline.begin inquiry.request inquiry.transport inquiry.client).2 with
  | answered resolution =>
      simp only [← same, progress, conclude]
      exact ⟨next, trivial⟩
  | forwarded pending =>
      rw [progress] at begun
      simp only [← same, progress, conclude]
      apply next.finish likeness
      intro key asked
      apply admitted
      rw [Message.addressKey?, begun.pending_of_forwarded.2, Option.bind_some, asked]

end Alike

/-- The key under which a step looks something up. -/
def Step.addressKey? : Step → Option String
  | .resolve inquiry => inquiry.request.addressKey?
  | .handle inquiry _ =>
      if inquiry.request.isOrdinaryQuery then inquiry.request.addressKey? else none
  | .change _ => none

@[simp]
theorem addressKey?_forwardable (request : Message) :
    request.forwardable.addressKey? = request.addressKey? := by
  simp [Message.addressKey?, Message.forwardable, List.head?_take]

/-- A step leaves two pipelines alike and shows the same of both. What a purge removes and what is
logged may well differ. -/
theorem Alike.step {logged : Prop} {keys : String → Prop}
    {like : Nat → ResponseCache → ResponseCache → Prop} {pipeline other : Pipeline}
    (alike : Alike logged like pipeline other) (likeness : ResponseCache.IsLikeness keys like)
    {step : Step} (admitted : ∀ key, step.addressKey? = some key → keys key)
    (unpurged : step ≠ .change .purge) (unsettled : logged ∨ step ≠ .change .settle) :
    Alike logged like (pipeline.step step).1 (other.step step).1 ∧
      (pipeline.step step).2 = (other.step step).2 := by
  cases step with
  | resolve inquiry =>
      rcases alike.inquire likeness admitted with ⟨next, same⟩
      simp only [Pipeline.step, same, alike.now]
      exact ⟨next, trivial⟩
  | handle inquiry delivered =>
      cases ordinary : inquiry.request.isOrdinaryQuery with
      | true =>
          have admittedForwardable (key : String)
              (asked : inquiry.forwardable.request.addressKey? = some key) : keys key := by
            apply admitted
            rw [Step.addressKey?, if_pos ordinary, ← asked]
            exact (addressKey?_forwardable inquiry.request).symm
          rcases alike.inquire likeness admittedForwardable with ⟨next, same⟩
          rw [step_handle_of_ordinary ordinary, step_handle_of_ordinary ordinary, same, alike.now]
          exact ⟨next, rfl⟩
      | false =>
          rw [step_handle_of_extraordinary ordinary, step_handle_of_extraordinary ordinary,
            alike.now]
          exact ⟨alike, rfl⟩
  | change change =>
      cases change with
      | advance duration =>
          refine ⟨alike.advance likeness duration, ?_⟩
          simp only [Pipeline.step, undergo, alike.now]
      | purge => contradiction
      | reload names =>
          refine ⟨alike.reload names, ?_⟩
          simp only [Pipeline.step, undergo, alike.now]
      | settle =>
          rcases unsettled with isLogged | settled
          · refine ⟨alike.settle isLogged, ?_⟩
            simp only [Pipeline.step, undergo, alike.now, alike.channel isLogged]
          · contradiction

/-- A part of a run: a step of its own, or something that is inserted. -/
inductive Part (Extra : Type) where
  | own (step : Step)
  | extra (inserted : Extra)

section

variable {Extra : Type} (perform : Pipeline → Extra → Pipeline)

def Part.own? : Part Extra → Option Step
  | .own step => some step
  | .extra _ => none

/-- What a run is without all that is inserted. -/
def ownSteps (parts : List (Part Extra)) : List Step := parts.filterMap Part.own?

@[simp]
theorem ownSteps_nil : ownSteps ([] : List (Part Extra)) = [] := rfl

@[simp]
theorem ownSteps_own (step : Step) (parts : List (Part Extra)) :
    ownSteps (.own step :: parts) = step :: ownSteps parts := rfl

@[simp]
theorem ownSteps_extra (inserted : Extra) (parts : List (Part Extra)) :
    ownSteps (.extra inserted :: parts) = ownSteps parts := rfl

def afterPart (pipeline : Pipeline) : Part Extra → Pipeline
  | .own step => (pipeline.step step).1
  | .extra inserted => perform pipeline inserted

def afterParts (pipeline : Pipeline) (parts : List (Part Extra)) : Pipeline :=
  parts.foldl (afterPart perform) pipeline

/-- What the steps of a run leave to be seen if something is inserted between them. -/
def ownTrace : Pipeline → List (Part Extra) → List Event
  | _, [] => []
  | pipeline, .own step :: parts => (pipeline.step step).2 :: ownTrace (pipeline.step step).1 parts
  | pipeline, .extra inserted :: parts => ownTrace (perform pipeline inserted) parts

/-- If a step shows the same of related pipelines, and they stay related under steps and whatever is
inserted, then nothing of what is inserted is seen. -/
theorem ownTrace_eq_trace (related : Pipeline → Pipeline → Prop) {parts : List (Part Extra)}
    (owns : ∀ step ∈ ownSteps parts, ∀ {pipeline other}, related pipeline other →
      related (pipeline.step step).1 (other.step step).1 ∧
        (pipeline.step step).2 = (other.step step).2)
    (inserts : ∀ inserted, .extra inserted ∈ parts → ∀ {pipeline other},
      related pipeline other → related (perform pipeline inserted) other)
    {pipeline other : Pipeline} (start : related pipeline other) :
    ownTrace perform pipeline parts = other.trace (ownSteps parts) ∧
      related (afterParts perform pipeline parts) (other.after (ownSteps parts)) := by
  -- The pipelines stay related, and only own steps move both of them.
  induction parts generalizing pipeline other with
  | nil => exact ⟨rfl, start⟩
  | cons part parts ih =>
      cases part with
      | own step =>
          rcases owns step List.mem_cons_self start with ⟨next, same⟩
          rcases ih (fun later member => owns later (List.mem_cons_of_mem _ member))
            (fun inserted member => inserts inserted (List.mem_cons_of_mem _ member)) next with
            ⟨rest, last⟩
          refine ⟨?_, last⟩
          simp only [ownTrace, ownSteps_own, trace_cons, same, rest]
      | extra inserted =>
          have next := inserts inserted List.mem_cons_self start
          exact ih owns (fun other member => inserts other (List.mem_cons_of_mem _ member)) next

end

end Pipeline

end DnsFilter
