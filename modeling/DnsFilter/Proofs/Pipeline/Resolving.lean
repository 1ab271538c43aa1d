import DnsFilter.Pipeline.Resolve
import DnsFilter.Proofs.Cache.Entries

/-!
# How a query is resolved

The ways in which the two parts of resolving a query can go, each with its reason, and what they do
to the caches: all but the outcome that is to be remembered only makes entries go.
-/

namespace DnsFilter

namespace Pipeline

@[simp]
theorem cache_withCache_self (pipeline : Pipeline) (side : CacheSide) (cache : ResponseCache) :
    (pipeline.withCache side cache).cache side = cache := by
  cases side <;> rfl

theorem cache_withCache_of_ne {side other : CacheSide} (different : other ≠ side)
    (pipeline : Pipeline) (cache : ResponseCache) :
    (pipeline.withCache side cache).cache other = pipeline.cache other := by
  cases side <;> cases other <;> first | rfl | contradiction

@[simp]
theorem config_withCache (pipeline : Pipeline) (side : CacheSide) (cache : ResponseCache) :
    (pipeline.withCache side cache).config = pipeline.config := by
  cases side <;> rfl

@[simp]
theorem blocked_withCache (pipeline : Pipeline) (side : CacheSide) (cache : ResponseCache) :
    (pipeline.withCache side cache).blocked = pipeline.blocked := by
  cases side <;> rfl

@[simp]
theorem now_withCache (pipeline : Pipeline) (side : CacheSide) (cache : ResponseCache) :
    (pipeline.withCache side cache).now = pipeline.now := by
  cases side <;> rfl

theorem remember_some (pipeline : Pipeline) (write : CacheWrite) :
    pipeline.remember (some write) =
      pipeline.withCache write.side
        ((pipeline.cache write.side).set pipeline.now write.key write.response
          write.lifetime).1 := rfl

@[simp]
theorem config_remember (pipeline : Pipeline) (write : Option CacheWrite) :
    (pipeline.remember write).config = pipeline.config := by
  cases write with
  | none => rfl
  | some write => rw [remember_some, config_withCache]

@[simp]
theorem blocked_remember (pipeline : Pipeline) (write : Option CacheWrite) :
    (pipeline.remember write).blocked = pipeline.blocked := by
  cases write with
  | none => rfl
  | some write => rw [remember_some, blocked_withCache]

@[simp]
theorem now_remember (pipeline : Pipeline) (write : Option CacheWrite) :
    (pipeline.remember write).now = pipeline.now := by
  cases write with
  | none => rfl
  | some write => rw [remember_some, now_withCache]

@[simp]
theorem now_finish (pipeline : Pipeline) (pending : Pending) (outcome : Except Error Message) :
    (pipeline.finish pending outcome).1.now = pipeline.now :=
  now_remember pipeline _

@[simp]
theorem getElem?_entries_start (config : Config) (channelDepth : Nat) (names : NameSet)
    (side : CacheSide) (key : String) :
    ((start config channelDepth names).cache side).entries[key]? = none := by
  cases side <;> exact ResponseCache.getElem?_entries_new _ _ key

/-- Remembering an outcome stores it in its cache, and leaves the other one as it is. -/
theorem cache_remember_cases (pipeline : Pipeline) (write : Option CacheWrite)
    (side : CacheSide) :
    (∃ new, write = some new ∧ new.side = side ∧
        (pipeline.remember write).cache side =
          ((pipeline.cache side).set pipeline.now new.key new.response new.lifetime).1) ∨
      ((pipeline.remember write).cache side = pipeline.cache side ∧
        ∀ new, write = some new → side ≠ new.side) := by
  cases write with
  | none =>
      right
      refine ⟨rfl, ?_⟩
      intro new written
      contradiction
  | some write =>
      rw [remember_some]
      by_cases same : side = write.side
      · left
        subst side
        rw [cache_withCache_self]
        exact ⟨write, rfl, rfl, rfl⟩
      · right
        rw [cache_withCache_of_ne same]
        refine ⟨rfl, ?_⟩
        intro new written
        cases written
        exact same

@[simp]
theorem lifetime_remember (pipeline : Pipeline) (write : Option CacheWrite) (side : CacheSide) :
    ((pipeline.remember write).cache side).lifetime = (pipeline.cache side).lifetime := by
  rcases cache_remember_cases pipeline write side with ⟨new, _, _, stored⟩ | ⟨same, _⟩
  · rw [stored, ResponseCache.lifetime_set]
  · rw [same]

/-- An entry after an outcome was to be remembered is the outcome itself, or it was there before and
the outcome is another key's or was refused. -/
theorem entry_of_entry_remember {pipeline : Pipeline} {write : Option CacheWrite}
    {side : CacheSide} {key : String} {entry : CacheEntry}
    (found : ((pipeline.remember write).cache side).entries[key]? = some entry) :
    (∃ new, write = some new ∧ new.lifetime ≠ 0 ∧ side = new.side ∧ key = new.key ∧
        entry.response = new.response ∧ entry.expiresAt = pipeline.now + new.lifetime) ∨
      ((pipeline.cache side).entries[key]? = some entry ∧
        ∀ new, write = some new → new.lifetime = 0 ∨ side ≠ new.side ∨ key ≠ new.key) := by
  rcases cache_remember_cases pipeline write side with ⟨new, rfl, rfl, stored⟩ | ⟨same, other⟩
  · rw [stored] at found
    rcases ResponseCache.entry_of_entry_set found with
      ⟨accepted, sameKey, response, expiry⟩ | ⟨spared, kept⟩
    · left
      exact ⟨new, rfl, accepted, rfl, sameKey, response, expiry⟩
    · right
      refine ⟨kept, ?_⟩
      intro again written
      cases written
      exact spared.imp_right Or.inr
  · right
    rw [same] at found
    exact ⟨found, fun new written => Or.inr (Or.inl (other new written))⟩

theorem lookUp_fst (pipeline : Pipeline) (side : CacheSide) (key : String) :
    (pipeline.lookUp side key).1 =
      pipeline.withCache side ((pipeline.cache side).get pipeline.now key).1 := rfl

/-- What a lookup finds is what is valid. -/
@[simp]
theorem lookUp_snd (pipeline : Pipeline) (side : CacheSide) (key : String) :
    (pipeline.lookUp side key).2 = (pipeline.cache side).valid? pipeline.now key :=
  (pipeline.cache side).get_snd pipeline.now key

/-- What can become of a pipeline as long as nothing is stored in its caches. -/
structure Sheds (before after : Pipeline) : Prop where
  config : after.config = before.config
  past : before.now ≤ after.now
  caches : ∀ side, ResponseCache.Sheds after.now (before.cache side) (after.cache side)

namespace Sheds

variable {before middle after : Pipeline}

theorem refl (pipeline : Pipeline) : Sheds pipeline pipeline :=
  ⟨rfl, Nat.le_refl _, fun side => .refl (pipeline.cache side)⟩

theorem trans (first : Sheds before middle) (second : Sheds middle after) :
    Sheds before after where
  config := second.config.trans first.config
  past := Nat.le_trans first.past second.past
  caches side := ((first.caches side).mono second.past).trans (second.caches side)

theorem lifetime (sheds : Sheds before after) (side : CacheSide) :
    (after.cache side).lifetime = (before.cache side).lifetime :=
  (sheds.caches side).lifetime_eq

theorem entries (sheds : Sheds before after) {side : CacheSide} {key : String}
    {entry : CacheEntry} (found : (after.cache side).entries[key]? = some entry) :
    (before.cache side).entries[key]? = some entry :=
  (sheds.caches side).entry_of_entry found

theorem lookUp (pipeline : Pipeline) (side : CacheSide) (key : String) :
    Sheds pipeline (pipeline.lookUp side key).1 where
  config := config_withCache pipeline side _
  past := Nat.le_of_eq (now_withCache pipeline side _).symm
  caches other := by
    rw [lookUp_fst, now_withCache]
    by_cases same : other = side
    · subst other
      rw [cache_withCache_self]
      exact (ResponseCache.Sheds.refl _).get (Nat.le_refl _) key
    · rw [cache_withCache_of_ne same]
      exact .refl _

theorem record (pipeline : Pipeline) (client : IPAddress) (question : Question) (blocked : Bool) :
    Sheds pipeline (pipeline.record client question blocked) where
  config := rfl
  past := Nat.le_refl _
  caches side := by cases side <;> exact .refl _

end Sheds

/-- The pipeline after both caches were looked up in vain. -/
def missed (pipeline : Pipeline) (key : String) : Pipeline :=
  ((pipeline.lookUp .positive key).1.lookUp .negative key).1

@[simp]
theorem blocked_missed (pipeline : Pipeline) (key : String) :
    (pipeline.missed key).blocked = pipeline.blocked := rfl

theorem Sheds.missed (pipeline : Pipeline) (key : String) :
    Sheds pipeline (pipeline.missed key) :=
  (Sheds.lookUp pipeline .positive key).trans (Sheds.lookUp _ .negative key)

/-- What is left under a key after both caches were looked up is valid. -/
theorem valid?_of_entry_missed {pipeline : Pipeline} {side : CacheSide} {key : String}
    {entry : CacheEntry}
    (found : ((pipeline.missed key).cache side).entries[key]? = some entry) :
    (pipeline.cache side).valid? pipeline.now key = some entry.response := by
  have looked : ((pipeline.missed key).cache side).entries =
      ((pipeline.cache side).get pipeline.now key).1.entries := by
    cases side <;> rfl
  rw [looked, ResponseCache.getElem?_entries_get, Option.filter_eq_some_iff] at found
  rcases found with ⟨present, kept⟩
  have unexpired : pipeline.now < entry.expiresAt := by simpa using kept
  exact ResponseCache.valid?_eq_some_iff.2 ⟨entry, present, unexpired, rfl⟩

/-- That no failures are in the positive cache. -/
def HoldsAnswers (pipeline : Pipeline) : Prop :=
  ∀ {key : String} {entry : CacheEntry}, pipeline.positive.entries[key]? = some entry →
    ∃ message, entry.response = .answer message

/-- Nothing is left under a key for which both caches were looked up in vain. -/
theorem HoldsAnswers.absent_missed {pipeline : Pipeline} {key : String}
    (answers : pipeline.HoldsAnswers)
    (unanswered : ∀ message,
      pipeline.positive.valid? pipeline.now key ≠ some (.answer message))
    (unrefused : pipeline.negative.valid? pipeline.now key = none) (side : CacheSide) :
    ((pipeline.missed key).cache side).entries[key]? = none := by
  rw [Option.eq_none_iff_forall_ne_some]
  intro entry left
  have valid := valid?_of_entry_missed left
  cases side with
  | positive =>
      rcases answers ((Sheds.missed pipeline key).entries left) with ⟨message, answer⟩
      exact unanswered message (answer ▸ valid)
  | negative =>
      have invalid : (pipeline.cache .negative).valid? pipeline.now key = none := unrefused
      rw [invalid] at valid
      contradiction

/-- The ways in which the first part of resolving a query can go. -/
inductive Begins (pipeline : Pipeline) (request : Message) (transport : Transport)
    (client : IPAddress) : Pipeline → Progress → Prop where
  | malformed (absent : request.queries.head? = none) :
      Begins pipeline request transport client pipeline
        (.answered { source := .malformed, response := request.failure .formatError })
  | passedOn {query : Query} (first : request.queries.head? = some query)
      (other : query.family? = none) :
      Begins pipeline request transport client
        (pipeline.record client (.ofQuery query) false)
        (.forwarded { request, query, transport })
  | remembered {query : Query} {family : AddressFamily} {message : Message}
      (first : request.queries.head? = some query) (address : query.family? = some family)
      (found : pipeline.positive.valid? pipeline.now query.key = some (.answer message)) :
      Begins pipeline request transport client (pipeline.lookUp .positive query.key).1
        (.answered { source := .positiveCache, response := message.withId request.id })
  | refused {query : Query} {family : AddressFamily} {response : CachedResponse}
      (first : request.queries.head? = some query) (address : query.family? = some family)
      (unanswered : ∀ message,
        pipeline.positive.valid? pipeline.now query.key ≠ some (.answer message))
      (found : pipeline.negative.valid? pipeline.now query.key = some response) :
      Begins pipeline request transport client (pipeline.missed query.key)
        (.answered { source := .negativeCache, response := request.failure .serverFailure })
  | blocked {query : Query} {family : AddressFamily}
      (first : request.queries.head? = some query) (address : query.family? = some family)
      (unanswered : ∀ message,
        pipeline.positive.valid? pipeline.now query.key ≠ some (.answer message))
      (unrefused : pipeline.negative.valid? pipeline.now query.key = none)
      (blocked : pipeline.blocked.blocks (Question.ofQuery query).name = true) :
      Begins pipeline request transport client
        (((pipeline.missed query.key).record client (.ofQuery query) true).remember
          (blockResolution pipeline.config request query family).write)
        (.answered (blockResolution pipeline.config request query family))
  | forwarded {query : Query} {family : AddressFamily}
      (first : request.queries.head? = some query) (address : query.family? = some family)
      (unanswered : ∀ message,
        pipeline.positive.valid? pipeline.now query.key ≠ some (.answer message))
      (unrefused : pipeline.negative.valid? pipeline.now query.key = none)
      (unblocked : pipeline.blocked.blocks (Question.ofQuery query).name = false) :
      Begins pipeline request transport client
        ((pipeline.missed query.key).record client (.ofQuery query) false)
        (.forwarded { request, query, transport })

theorem cached_of_answer {pipeline : Pipeline} {key : String} {message : Message}
    (found : pipeline.positive.valid? pipeline.now key = some (.answer message))
    (request : Message) :
    pipeline.cached request key =
      ((pipeline.lookUp .positive key).1,
        some { source := .positiveCache, response := message.withId request.id }) := by
  have answered : pipeline.lookUp .positive key =
      ((pipeline.lookUp .positive key).1, some (.answer message)) :=
    Prod.ext rfl ((pipeline.lookUp_snd .positive key).trans found)
  unfold cached
  rw [answered]

/-- Without an answer in the positive cache, the negative cache decides. -/
theorem cached_of_unanswered {pipeline : Pipeline} {key : String}
    (unanswered : ∀ message,
      pipeline.positive.valid? pipeline.now key ≠ some (.answer message))
    (request : Message) :
    pipeline.cached request key =
      (pipeline.missed key,
        (pipeline.negative.valid? pipeline.now key).map fun _ =>
          { source := .negativeCache, response := request.failure .serverFailure }) := by
  have failure : ((pipeline.lookUp .positive key).1.lookUp .negative key).2 =
      pipeline.negative.valid? pipeline.now key :=
    (pipeline.lookUp .positive key).1.lookUp_snd .negative key
  unfold cached missed
  rw [← failure]
  split
  · next next message looked =>
      have answer := pipeline.lookUp_snd .positive key
      rw [looked] at answer
      exact absurd answer.symm (unanswered message)
  · next next answer _ looked =>
      rw [looked]
      rcases next.lookUp .negative key with ⟨last, found⟩
      cases found <;> rfl

theorem begins_begin (pipeline : Pipeline) (request : Message) (transport : Transport)
    (client : IPAddress) :
    Begins pipeline request transport client (pipeline.begin request transport client).1
      (pipeline.begin request transport client).2 := by
  unfold begin
  split
  · next absent => exact .malformed absent
  · next query first =>
      split
      · next other => exact .passedOn first other
      · next family address =>
          by_cases answered : ∃ message,
              pipeline.positive.valid? pipeline.now query.key = some (.answer message)
          · rcases answered with ⟨message, found⟩
            rw [cached_of_answer found]
            exact .remembered first address found
          · have unanswered := not_exists.1 answered
            rw [cached_of_unanswered unanswered]
            cases found : pipeline.negative.valid? pipeline.now query.key with
            | some response => exact .refused first address unanswered found
            | none =>
                by_cases blocked : pipeline.blocked.blocks (Question.ofQuery query).name
                · simp only [Option.map_none, blocked_missed, blocked, if_true]
                  exact .blocked first address unanswered found blocked
                · simp only [Option.map_none, blocked_missed, blocked]
                  exact .forwarded first address unanswered found (by simpa using blocked)

/-- That a message asks for an address that is neither cached nor blocked. -/
structure NeedsLookup (pipeline : Pipeline) (request : Message) (query : Query) : Prop where
  first : request.queries.head? = some query
  address : ∃ family, query.family? = some family
  uncached : ∀ side, (pipeline.cache side).valid? pipeline.now query.key = none
  unblocked : pipeline.blocked.blocks (Question.ofQuery query).name = false

theorem NeedsLookup.begin_eq {pipeline : Pipeline} {request : Message} {query : Query}
    (needs : pipeline.NeedsLookup request query) (transport : Transport) (client : IPAddress) :
    pipeline.begin request transport client =
      ((pipeline.missed query.key).record client (.ofQuery query) false,
        .forwarded { request, query, transport }) := by
  rcases needs with ⟨first, ⟨family, address⟩, uncached, unblocked⟩
  have begun := begins_begin pipeline request transport client
  revert begun
  rcases pipeline.begin request transport client with ⟨next, progress⟩
  intro begun
  cases begun with
  | malformed absent =>
      rw [absent] at first
      contradiction
  | passedOn sameFirst other =>
      cases first.symm.trans sameFirst
      rw [other] at address
      contradiction
  | remembered sameFirst _ found =>
      cases first.symm.trans sameFirst
      have missing := uncached .positive
      rw [show (pipeline.cache .positive).valid? _ _ = _ from found] at missing
      contradiction
  | refused sameFirst _ _ found =>
      cases first.symm.trans sameFirst
      have missing := uncached .negative
      rw [show (pipeline.cache .negative).valid? _ _ = _ from found] at missing
      contradiction
  | blocked sameFirst _ _ _ blocked =>
      cases first.symm.trans sameFirst
      rw [blocked] at unblocked
      contradiction
  | forwarded sameFirst =>
      cases first.symm.trans sameFirst
      rfl

/-- Nothing is left under the key of a query that needs a lookup. -/
theorem NeedsLookup.absent_missed {pipeline : Pipeline} {request : Message} {query : Query}
    (needs : pipeline.NeedsLookup request query) (side : CacheSide) :
    ((pipeline.missed query.key).cache side).entries[query.key]? = none := by
  rw [Option.eq_none_iff_forall_ne_some]
  intro entry left
  have valid := valid?_of_entry_missed left
  rw [needs.uncached] at valid
  contradiction

/-- What an exchange comes to only depends on settings. -/
theorem outcomeResolution_congr {pipeline other : Pipeline}
    (same : ∀ side, (other.cache side).lifetime = (pipeline.cache side).lifetime)
    (pending : Pending) (outcome : Except Error Message) :
    other.outcomeResolution pending outcome = pipeline.outcomeResolution pending outcome := by
  have positive : other.positive.lifetime = pipeline.positive.lifetime := same .positive
  have negative : other.negative.lifetime = pipeline.negative.lifetime := same .negative
  cases outcome with
  | error error => simp only [outcomeResolution, outcomeWrite?, Except.map, negative]
  | ok message =>
      simp only [outcomeResolution, outcomeWrite?, Except.map, answerLifetime?, positive]

theorem outcomeResolution_of_sheds {pipeline shed : Pipeline} (sheds : Sheds pipeline shed)
    (pending : Pending) (outcome : Except Error Message) :
    shed.outcomeResolution pending outcome = pipeline.outcomeResolution pending outcome :=
  outcomeResolution_congr sheds.lifetime pending outcome

namespace Begins

variable {pipeline next : Pipeline} {request : Message} {transport : Transport}
  {client : IPAddress}

/-- Nothing is left in the caches for an address query that is forwarded. -/
theorem absent_of_forwarded {pending : Pending} {family : AddressFamily}
    (begun : Begins pipeline request transport client next (.forwarded pending))
    (address : pending.query.family? = some family) (answers : pipeline.HoldsAnswers)
    (side : CacheSide) : (next.cache side).entries[pending.query.key]? = none := by
  cases begun with
  | @passedOn query _ other =>
      rw [show query.family? = none from other] at address
      contradiction
  | @forwarded query _ _ _ unanswered unrefused _ =>
      have absent := answers.absent_missed unanswered unrefused side
      cases side <;> exact absent

theorem blocked_eq {progress : Progress}
    (begun : Begins pipeline request transport client next progress) :
    next.blocked = pipeline.blocked := by
  cases begun with
  | blocked => exact blocked_remember _ _
  | malformed | passedOn | remembered | refused | forwarded => rfl

theorem sheds_of_forwarded {pending : Pending}
    (begun : Begins pipeline request transport client next (.forwarded pending)) :
    Sheds pipeline next ∧ next.now = pipeline.now := by
  cases begun with
  | passedOn => exact ⟨.record pipeline client _ false, rfl⟩
  | forwarded => exact ⟨(Sheds.missed pipeline _).trans (.record _ client _ false), rfl⟩

theorem pending_of_forwarded {pending : Pending}
    (begun : Begins pipeline request transport client next (.forwarded pending)) :
    pending.request = request ∧ request.queries.head? = some pending.query := by
  cases begun with
  | passedOn first | forwarded first => exact ⟨rfl, first⟩

theorem transport_of_forwarded {pending : Pending}
    (begun : Begins pipeline request transport client next (.forwarded pending)) :
    pending.transport = transport := by
  cases begun with
  | passedOn | forwarded => rfl

theorem isForwarded_eq_false_of_answered {resolution : Resolution}
    (begun : Begins pipeline request transport client next (.answered resolution)) :
    resolution.isForwarded = false := by
  cases begun <;> rfl

/-- Answering a message makes entries go, and then what is to be remembered is remembered. Nothing
is left under its key by then. -/
theorem exists_sheds_of_answered {resolution : Resolution}
    (begun : Begins pipeline request transport client next (.answered resolution)) :
    ∃ shed, Sheds pipeline shed ∧ shed.now = pipeline.now ∧
      next = shed.remember resolution.write ∧
      (pipeline.HoldsAnswers → ∀ write, resolution.write = some write →
        ∀ side, (shed.cache side).entries[write.key]? = none) := by
  cases begun with
  | malformed =>
      refine ⟨pipeline, .refl pipeline, rfl, rfl, ?_⟩
      intro _ write written
      contradiction
  | remembered =>
      refine ⟨_, .lookUp pipeline .positive _, rfl, rfl, ?_⟩
      intro _ write written
      contradiction
  | refused =>
      refine ⟨_, .missed pipeline _, rfl, rfl, ?_⟩
      intro _ write written
      contradiction
  | blocked _ _ unanswered unrefused =>
      refine ⟨_, (Sheds.missed pipeline _).trans (.record _ client _ true), rfl, rfl, ?_⟩
      intro answers write written side
      cases written
      have absent := answers.absent_missed unanswered unrefused side
      cases side <;> exact absent

end Begins

end Pipeline

end DnsFilter
