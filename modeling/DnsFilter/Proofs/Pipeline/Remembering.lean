import DnsFilter.Pipeline.Run
import DnsFilter.Proofs.Pipeline.Resolving
import DnsFilter.Proofs.Question.Key

/-!
# What is remembered

The three reasons for which an outcome is remembered, and for how long it then is. An entry of the
caches is explained by what was stored; remembering an outcome keeps all entries explained.
-/

namespace DnsFilter

theorem filterMap_append_of_some {α β : Type} {select : α → Option β} {last : α} {value : β}
    (selected : select last = some value) (front : List α) :
    (front ++ [last]).filterMap select = front.filterMap select ++ [value] := by
  simp [selected]

theorem filterMap_append_of_none {α β : Type} {select : α → Option β} {last : α}
    (passed : select last = none) (front : List α) :
    (front ++ [last]).filterMap select = front.filterMap select := by
  simp [passed]

theorem Message.leastAnswerTtl?_withId (message : Message) (id : UInt16) :
    (message.withId id).leastAnswerTtl? = message.leastAnswerTtl? := rfl

/-- A positive least TTL is that of an answer without a TTL of zero. -/
theorem Message.ttl_ne_zero_of_leastAnswerTtl? {message : Message} {least : Nat}
    (found : message.leastAnswerTtl? = some least) (lasting : 0 < least) :
    message.answers ≠ [] ∧ ∀ record ∈ message.answers, record.ttl ≠ 0 := by
  unfold leastAnswerTtl? at found
  constructor
  · intro empty
    simp [empty] at found
  · intro record member zero
    have bound := (List.min?_eq_some_iff.1 found).2 _
      (List.mem_map_of_mem (f := fun record : Record => record.ttl.toNat) member)
    rw [zero] at bound
    exact absurd (Nat.lt_of_lt_of_le lasting bound) (by decide)

/-- That an answer is kept for a lifetime, in milliseconds: for as long as a number of seconds and
the TTL of each of its records allow, and no less. -/
structure Message.KeptFor (message : Message) (longest lifetime : Nat) : Prop where
  answers : message.answers ≠ []
  within : lifetime ≤ longest * 1000
  records : ∀ record ∈ message.answers, lifetime ≤ record.ttl.toNat * 1000
  exhausted : lifetime = longest * 1000 ∨
    ∃ record ∈ message.answers, lifetime = record.ttl.toNat * 1000

theorem Message.keptFor_of_leastAnswerTtl? {message : Message} {least : Nat}
    (found : message.leastAnswerTtl? = some least) (longest : Nat) :
    message.KeptFor longest (min (longest * 1000) (least * 1000)) := by
  have answers : message.answers ≠ [] := by
    intro empty
    simp [leastAnswerTtl?, empty] at found
  rcases List.min?_eq_some_iff.1 found with ⟨member, smallest⟩
  rcases List.mem_map.1 member with ⟨shortest, isAnswer, rfl⟩
  refine ⟨answers, Nat.min_le_left _ _, ?_, ?_⟩
  · intro record member
    have bound := smallest _ (List.mem_map_of_mem member)
    omega
  · rcases Nat.le_total (longest * 1000) (shortest.ttl.toNat * 1000) with long | short
    · exact Or.inl (Nat.min_eq_left long)
    · exact Or.inr ⟨shortest, isAnswer, Nat.min_eq_right short⟩

theorem Resolution.stored?_eq_some_iff {resolution : Resolution} {time : Nat} {request : Message}
    {stored : Pipeline.Stored} :
    resolution.stored? time request = some stored ↔
      ∃ query write, request.queries.head? = some query ∧ resolution.write = some write ∧
        write.lifetime ≠ 0 ∧ stored = ⟨time, query, resolution.source, write⟩ := by
  unfold stored?
  cases request.queries.head? <;> cases resolution.write <;> simp [@eq_comm _ stored]

namespace Pipeline

/-- Why an outcome may be remembered: as the answer for a blocked name, as an answer of the servers
that may be kept, or because the servers failed. -/
inductive Warrants (config : Config) (query : Query) : Source → CacheWrite → Prop where
  | block {family : AddressFamily} (address : query.family? = some family) (request : Message) :
      Warrants config query .nullRoute {
        side := .positive
        key := query.key
        response := .answer (blockedResponse config request query family)
        lifetime := config.blockLifetime }
  | answer {family : AddressFamily} {message : Message} {least : Nat}
      (address : query.family? = some family) (found : message.leastAnswerTtl? = some least)
      (lasting : 0 < least) :
      Warrants config query (.servers (.ok message)) {
        side := .positive
        key := query.key
        response := .answer message
        lifetime := min config.positiveLifetime (least * 1000) }
  | failure {family : AddressFamily} (address : query.family? = some family) (error : Error) :
      Warrants config query (.servers (.error error)) {
        side := .negative
        key := query.key
        response := .failed
        lifetime := config.negativeLifetime }

namespace Warrants

variable {config : Config} {query : Query} {source : Source} {write : CacheWrite}

theorem key_eq (warrants : Warrants config query source write) : write.key = query.key := by
  cases warrants <;> rfl

theorem exists_family (warrants : Warrants config query source write) :
    ∃ family, query.family? = some family := by
  cases warrants with
  | block address | answer address | failure address => exact ⟨_, address⟩

theorem response_eq_failed (warrants : Warrants config query source write)
    (negative : write.side = .negative) : write.response = .failed := by
  cases warrants with
  | block | answer => contradiction
  | failure => rfl

theorem exists_answer (warrants : Warrants config query source write)
    (positive : write.side = .positive) : ∃ message, write.response = .answer message := by
  cases warrants with
  | block | answer => exact ⟨_, rfl⟩
  | failure => contradiction

/-- What is remembered as an answer of the servers is their answer, as long as it may be kept. -/
theorem exists_least {outcome : Except Error Message} {message : Message}
    (warrants : Warrants config query (.servers outcome) write)
    (answer : write.response = .answer message) :
    outcome = .ok message ∧ ∃ least, message.leastAnswerTtl? = some least ∧ 0 < least ∧
      write.lifetime = min config.positiveLifetime (least * 1000) := by
  cases warrants with
  | @answer _ _ least address found lasting =>
      cases answer
      exact ⟨rfl, least, found, lasting, rfl⟩
  | failure => contradiction

/-- What is remembered as a failure is that the servers failed. -/
theorem exists_error {outcome : Except Error Message}
    (warrants : Warrants config query (.servers outcome) write)
    (failed : write.response = .failed) :
    (∃ error, outcome = .error error) ∧ write.lifetime = config.negativeLifetime := by
  cases warrants with
  | answer => contradiction
  | failure _ error => exact ⟨⟨error, rfl⟩, rfl⟩

theorem lifetime_eq_of_nullRoute (warrants : Warrants config query .nullRoute write) :
    write.lifetime = config.ttl.toNat * 1000 := by
  cases warrants
  rfl

theorem response_ne_failed (warrants : Warrants config query .nullRoute write) :
    write.response ≠ .failed := by
  cases warrants
  simp

end Warrants

/-- What the configuration says of a pipeline. -/
structure Configured (config : Config) (pipeline : Pipeline) : Prop where
  settings : pipeline.config = config
  positive : (pipeline.cache .positive).lifetime = config.positiveLifetime
  negative : (pipeline.cache .negative).lifetime = config.negativeLifetime

namespace Configured

variable {config : Config} {pipeline : Pipeline}

theorem start (config : Config) (channelDepth : Nat) (names : NameSet) :
    Configured config (start config channelDepth names) :=
  ⟨rfl, rfl, rfl⟩

theorem of_sheds {shed : Pipeline} (configured : Configured config pipeline)
    (sheds : Sheds pipeline shed) : Configured config shed where
  settings := sheds.config.trans configured.settings
  positive := (sheds.lifetime .positive).trans configured.positive
  negative := (sheds.lifetime .negative).trans configured.negative

theorem remember (configured : Configured config pipeline) (write : Option CacheWrite) :
    Configured config (pipeline.remember write) where
  settings := (config_remember pipeline write).trans configured.settings
  positive := (lifetime_remember pipeline write .positive).trans configured.positive
  negative := (lifetime_remember pipeline write .negative).trans configured.negative

end Configured

/-- What the outcome of an exchange leaves to be remembered is warranted. -/
theorem warrants_outcomeResolution {config : Config} {pipeline : Pipeline} {pending : Pending}
    {outcome : Except Error Message} {write : CacheWrite}
    (configured : Configured config pipeline)
    (written : (pipeline.outcomeResolution pending outcome).write = some write) :
    Warrants config pending.query (pipeline.outcomeResolution pending outcome).source write := by
  simp only [outcomeResolution, Option.ite_none_right_eq_some, Option.isSome_iff_exists] at written
  rcases written with ⟨⟨family, address⟩, written⟩
  cases outcome with
  | error error =>
      cases written
      rw [show pipeline.negative.lifetime = _ from configured.negative]
      exact .failure address error
  | ok message =>
      simp only [Except.map, outcomeWrite?, answerLifetime?, Option.map_map,
        Option.map_eq_some_iff, Option.filter_eq_some_iff] at written
      rcases written with ⟨least, ⟨found, lasting⟩, rfl⟩
      rw [Function.comp_apply, show pipeline.positive.lifetime = _ from configured.positive]
      exact .answer address found (by simpa using lasting)

section

variable {config : Config} {pipeline : Pipeline} {family : AddressFamily}

/-- The failure of an exchange about an address query is to be remembered. -/
theorem write_outcomeResolution_error (pending : Pending)
    (configured : pipeline.Configured config) (address : pending.query.family? = some family)
    (error : Error) :
    (pipeline.outcomeResolution pending (.error error)).write =
      some ⟨.negative, pending.query.key, .failed, config.negativeLifetime⟩ := by
  rw [← configured.negative]
  simp only [outcomeResolution, address, Except.map, outcomeWrite?, Option.isSome_some, if_true]
  rfl

theorem valid?_of_finish_error (pending : Pending) (configured : pipeline.Configured config)
    (lasting : config.negativeLifetime ≠ 0) (address : pending.query.family? = some family)
    (error : Error) :
    ((pipeline.finish pending (.error error)).1.cache .negative).valid? pipeline.now
      pending.query.key = some .failed := by
  rw [finish, write_outcomeResolution_error pending configured address, remember_some,
    cache_withCache_self]
  exact ResponseCache.valid?_set_self lasting _ _ _ _

/-- An answer leaves nothing in the negative cache. -/
theorem valid?_of_finish_ok (pending : Pending) (configured : pipeline.Configured config)
    (absent : (pipeline.cache .negative).entries[pending.query.key]? = none)
    (message : Message) :
    ((pipeline.finish pending (.ok message)).1.cache .negative).valid? pipeline.now
      pending.query.key = none := by
  rw [Option.eq_none_iff_forall_ne_some]
  intro response found
  rcases ResponseCache.valid?_eq_some_iff.1 found with ⟨entry, present, _⟩
  rcases entry_of_entry_remember present with ⟨write, written, _, side, _⟩ | ⟨before, _⟩
  · have warrants : Warrants config pending.query
        (.servers (.ok (message.withId pending.request.id))) write :=
      warrants_outcomeResolution configured written
    cases warrants
    contradiction
  · rw [absent] at before
    contradiction

end

/-- What answering a message leaves to be remembered is warranted. -/
theorem Begins.warrants {config : Config} {pipeline next : Pipeline} {request : Message}
    {transport : Transport} {client : IPAddress} {resolution : Resolution} {write : CacheWrite}
    (begun : Begins pipeline request transport client next (.answered resolution))
    (configured : Configured config pipeline) (written : resolution.write = some write) :
    ∃ query, request.queries.head? = some query ∧
      Warrants config query resolution.source write := by
  cases begun with
  | malformed | remembered | refused => contradiction
  | @blocked query family first address _ _ _ =>
      cases written
      rw [configured.settings]
      exact ⟨query, first, .block address request⟩

namespace Stored

variable {history : List Stored} {side : CacheSide} {query : Query} {stored : Stored}

theorem last?_append_self (history : List Stored) (stored : Stored) :
    last? (history ++ [stored]) stored.write.side stored.query = some stored := by
  simp [last?]

theorem last?_append_of_ne (other : stored.write.side = side → stored.query ≠ query) :
    last? (history ++ [stored]) side query = last? history side query := by
  have differs : ¬(stored.write.side = side ∧ stored.query = query) := fun same =>
    other same.1 same.2
  simp [last?, differs]

theorem mem_of_last? (found : last? history side query = some stored) : stored ∈ history :=
  List.mem_reverse.1 (List.mem_of_find?_eq_some found)

theorem side_of_last? (found : last? history side query = some stored) :
    stored.write.side = side := by
  have selected := List.find?_some found
  simp only [Bool.and_eq_true, beq_iff_eq] at selected
  exact selected.1

end Stored

/-- That each entry of a pipeline's caches was stored, for a reason. -/
def Explained (reason : CacheSide → Stored → Prop) (pipeline : Pipeline) : Prop :=
  ∀ side key entry, (pipeline.cache side).entries[key]? = some entry →
    ∃ stored : Stored, reason side stored ∧ stored.query.key = key ∧
      entry.response = stored.write.response ∧
      entry.expiresAt = stored.time + stored.write.lifetime

namespace Explained

variable {reason after : CacheSide → Stored → Prop} {pipeline : Pipeline}

theorem start (reason : CacheSide → Stored → Prop) (config : Config) (channelDepth : Nat)
    (names : NameSet) : Explained reason (start config channelDepth names) := by
  intro side key entry found
  rw [getElem?_entries_start] at found
  contradiction

theorem of_sheds {shed : Pipeline} (explained : Explained reason pipeline)
    (sheds : Sheds pipeline shed) : Explained reason shed := by
  intro side key entry found
  exact explained side key entry (sheds.entries found)

/-- Remembering an outcome keeps entries explained if the reasons for the entries that stay and for
the outcome hold afterwards. -/
theorem remember {write : Option CacheWrite} (explained : Explained reason pipeline)
    (stays : ∀ {side stored entry},
      (pipeline.cache side).entries[stored.query.key]? = some entry → reason side stored →
      (∀ new, write = some new →
        new.lifetime = 0 ∨ side ≠ new.side ∨ stored.query.key ≠ new.key) → after side stored)
    (comes : ∀ {new}, write = some new → new.lifetime ≠ 0 →
      ∃ stored : Stored, after new.side stored ∧ stored.query.key = new.key ∧
        stored.write = new ∧ stored.time = pipeline.now) :
    Explained after (pipeline.remember write) := by
  intro side key entry found
  rcases entry_of_entry_remember found with
    ⟨new, written, accepted, rfl, rfl, response, expiry⟩ | ⟨present, spared⟩
  · rcases comes written accepted with ⟨stored, reason, sameKey, rfl, time⟩
    exact ⟨stored, reason, sameKey, response, time ▸ expiry⟩
  · rcases explained side key entry present with ⟨stored, reason, rfl, response, expiry⟩
    exact ⟨stored, stays present reason spared, rfl, response, expiry⟩

/-- What is valid for an address query was stored for that very query. -/
theorem exists_of_valid? (explained : Explained reason pipeline)
    (addressed : ∀ side stored, reason side stored →
      ∃ family, stored.query.family? = some family)
    {side : CacheSide} {query : Query} {family : AddressFamily} {response : CachedResponse}
    (address : query.family? = some family)
    (found : (pipeline.cache side).valid? pipeline.now query.key = some response) :
    ∃ stored, reason side stored ∧ stored.query = query ∧ stored.write.response = response ∧
      pipeline.now < stored.time + stored.write.lifetime := by
  rcases ResponseCache.valid?_eq_some_iff.1 found with ⟨entry, present, unexpired, rfl⟩
  rcases explained side query.key entry present with ⟨stored, why, sameKey, response, expiry⟩
  rcases addressed side stored why with ⟨_, storedAddress⟩
  exact ⟨stored, why, Query.eq_of_key_eq storedAddress address sameKey, response.symm,
    expiry ▸ unexpired⟩

end Explained

end Pipeline

end DnsFilter
