import DnsFilter.Forwarder.Lookup
import DnsFilter.Proofs.Pipeline.Reach

/-!
# What a usable configuration stores

Under a configuration that can be used nothing that is to be remembered is refused: each lifetime is
at least a second. So failed lookups, answers for blocked names and answers of the servers that may
be kept are in the caches afterwards, as far as the machine reaches.
-/

namespace DnsFilter

theorem Forwarder.exists_new {servers : List SocketAddress} (nonempty : servers ≠ [])
    (timeout : Nat) : ∃ forwarder, Forwarder.new servers timeout = .ok forwarder := by
  simp [Forwarder.new, nonempty]

/-- An answer with records, none of them with a TTL of zero, may be kept for a while. -/
theorem Message.exists_leastAnswerTtl? {message : Message} (answers : message.answers ≠ [])
    (keepable : ∀ record ∈ message.answers, record.ttl ≠ 0) :
    ∃ least, message.leastAnswerTtl? = some least ∧ 0 < least := by
  cases found : message.leastAnswerTtl? with
  | none => simp [leastAnswerTtl?, answers] at found
  | some least =>
      refine ⟨least, rfl, ?_⟩
      rcases List.mem_map.1 (List.min?_mem found) with ⟨record, member, rfl⟩
      have positive := keepable record member
      rwa [Nat.pos_iff_ne_zero, ne_eq, ← UInt32.toNat_zero, UInt32.toNat_inj]

namespace Pipeline

theorem Warrants.le_lifetime {config : Config} {query : Query} {source : Source}
    {write : CacheWrite} (warrants : Warrants config query source write)
    (valid : config.validate = .ok ()) : 1000 ≤ write.lifetime := by
  cases warrants with
  | block => exact Config.le_blockLifetime valid
  | answer _ _ lasting =>
      apply Nat.le_min.2
      exact ⟨Config.le_positiveLifetime valid, by omega⟩
  | failure => exact Config.le_negativeLifetime valid

theorem valid?_remember_self {write : CacheWrite} (accepted : write.lifetime ≠ 0)
    (pipeline : Pipeline) :
    ((pipeline.remember (some write)).cache write.side).valid?
      (pipeline.remember (some write)).now write.key = some write.response := by
  rw [now_remember, remember_some, cache_withCache_self]
  exact ResponseCache.valid?_set_self accepted _ _ _ _

theorem perform_of_ne_zero {write : CacheWrite} (accepted : write.lifetime ≠ 0)
    (pipeline : Pipeline) :
    pipeline.perform write = (pipeline.remember (some write), .ok ()) :=
  Prod.ext rfl (ResponseCache.set_snd_of_ne_zero accepted _ _ _ _)

/-- That what resolving a message leaves to be remembered is stored when the resolution takes a
pipeline to the next. -/
structure Stores (before next : Pipeline) (request : Message) (resolution : Resolution) : Prop where
  accepted : ∀ write, resolution.write = some write →
    1000 ≤ write.lifetime ∧
      ∃ shed, Sheds before shed ∧ shed.perform write = (next, .ok ())
  failure : ∀ query family error, request.queries.head? = some query →
    query.family? = some family → resolution.source = .servers (.error error) →
    (next.cache .negative).valid? next.now query.key = some .failed
  block : ∀ query, request.queries.head? = some query → resolution.source = .nullRoute →
    (next.cache .positive).valid? next.now query.key = some (.answer resolution.response)
  answer : ∀ query family message, request.queries.head? = some query →
    query.family? = some family → resolution.source = .servers (.ok message) →
    message.answers ≠ [] → (∀ record ∈ message.answers, record.ttl ≠ 0) →
    (next.cache .positive).valid? next.now query.key = some (.answer message)

section

variable {config : Config} {before pipeline next : Pipeline} {request : Message}

theorem accepted_of_warrants {query : Query} {source : Source} {write : CacheWrite}
    (valid : config.validate = .ok ()) (sheds : Sheds before pipeline)
    (warrants : Warrants config query source write) :
    1000 ≤ write.lifetime ∧
      ∃ shed, Sheds before shed ∧
        shed.perform write = (pipeline.remember (some write), .ok ()) := by
  have bound := warrants.le_lifetime valid
  exact ⟨bound, pipeline, sheds, perform_of_ne_zero (by omega) pipeline⟩

theorem Stores.of_unwritten {resolution : Resolution} (unwritten : resolution.write = none)
    (unforwarded : resolution.isForwarded = false)
    (unblocked : resolution.source ≠ .nullRoute) :
    Stores before next request resolution := by
  have notServers (outcome : Except Error Message) : resolution.source ≠ .servers outcome := by
    intro source
    simp [Resolution.isForwarded, source] at unforwarded
  constructor
  · simp [unwritten]
  · intro query family error _ _ source
    exact absurd source (notServers _)
  · intro query _ source
    exact absurd source unblocked
  · intro query family message _ _ source
    exact absurd source (notServers _)

/-- A message that is answered at once leaves nothing to be remembered, or it gets the null route.
-/
theorem Begins.stores {transport : Transport} {client : IPAddress} {resolution : Resolution}
    (valid : config.validate = .ok ()) (configured : Configured config before)
    (begun : Begins before request transport client next (.answered resolution)) :
    Stores before next request resolution := by
  have unforwarded := begun.isForwarded_eq_false_of_answered
  cases begun with
  | malformed | remembered | refused => exact .of_unwritten rfl unforwarded (by simp)
  | @blocked query family first address =>
      rcases configured.settings with rfl
      have warrants : Warrants before.config query .nullRoute _ := .block address request
      have bound := warrants.le_lifetime valid
      constructor
      · intro write written
        cases written
        apply accepted_of_warrants valid _ warrants
        exact (Sheds.missed before _).trans (.record _ client _ true)
      · intro other family error _ _ source
        contradiction
      · intro other same _
        cases first.symm.trans same
        apply valid?_remember_self
        intro zero
        rw [zero] at bound
        contradiction
      · intro other family message _ _ source
        contradiction

/-- An answer to an address query that may be kept is in the positive cache afterwards. -/
theorem valid?_of_finish_answer {pending : Pending} {family : AddressFamily} {message : Message}
    (valid : config.validate = .ok ()) (configured : Configured config pipeline)
    (address : pending.query.family? = some family) (answers : message.answers ≠ [])
    (keepable : ∀ record ∈ message.answers, record.ttl ≠ 0) :
    ((pipeline.finish pending (.ok message)).1.cache .positive).valid? pipeline.now
      pending.query.key = some (.answer (message.withId pending.request.id)) := by
  rcases message.exists_leastAnswerTtl? answers keepable with ⟨least, found, lasting⟩
  have written : (pipeline.outcomeResolution pending (.ok message)).write =
      some ⟨.positive, pending.query.key, .answer (message.withId pending.request.id),
        min pipeline.positive.lifetime (least * 1000)⟩ := by
    simp [outcomeResolution, address, Except.map, outcomeWrite?, answerLifetime?,
      Message.leastAnswerTtl?_withId, found, lasting]
  have bound := (warrants_outcomeResolution configured written).le_lifetime valid
  rw [finish, written, remember_some, cache_withCache_self]
  exact ResponseCache.valid?_set_self (Nat.ne_of_gt (Nat.lt_of_lt_of_le (by decide) bound)) _ _ _ _

/-- The outcome of an exchange is stored, unless it is an answer that may not be kept. -/
theorem stores_finish {pending : Pending} (valid : config.validate = .ok ())
    (configured : Configured config before) (sheds : Sheds before pipeline)
    (first : pending.request.queries.head? = some pending.query)
    (outcome : Except Error Message) :
    Stores before (pipeline.finish pending outcome).1 pending.request
      (pipeline.finish pending outcome).2 := by
  have settled := configured.of_sheds sheds
  constructor
  · intro write written
    have remembered : (pipeline.finish pending outcome).1 = pipeline.remember (some write) :=
      congrArg pipeline.remember written
    rw [remembered]
    exact accepted_of_warrants valid sheds (warrants_outcomeResolution settled written)
  · intro query family error same address source
    cases first.symm.trans same
    cases outcome with
    | ok message => cases source
    | error error =>
        have bound := Config.le_negativeLifetime valid
        rw [now_finish]
        exact valid?_of_finish_error pending settled (by omega) address error
  · intro query _ source
    contradiction
  · intro query family message same address source answers keepable
    cases first.symm.trans same
    cases outcome with
    | error error => cases source
    | ok message =>
        cases source
        rw [now_finish]
        exact valid?_of_finish_answer valid settled address answers keepable

theorem stores_inquire (valid : config.validate = .ok ())
    (configured : Configured config before) (inquiry : Inquiry) :
    Stores before (before.inquire inquiry).1 inquiry.request (before.inquire inquiry).2 := by
  rcases inquire_cases before inquiry with
    ⟨next, resolution, begun, same⟩ | ⟨next, pending, begun, same⟩
  · rw [same]
    exact begun.stores valid configured
  · rcases begun.pending_of_forwarded with ⟨own, first⟩
    rw [same, ← own]
    rw [← own] at first
    exact stores_finish valid configured begun.sheds_of_forwarded.1 first inquiry.outcome

end

end Pipeline

theorem Overlap.Happens.stores {config : Config} {requests : List Message} {events : List Event}
    {state next : Overlap} {step : Step} {ticket time : Nat} {request : Message}
    {resolution : Resolution} (valid : config.validate = .ok ())
    (configured : state.pipeline.Configured config) (ticketed : Ticketed requests events state)
    (happens : Happens state step next (.answered ticket time request resolution)) :
    state.pipeline.Stores next.pipeline request resolution := by
  cases happens with
  | answered begun => exact begun.stores valid configured
  | finished waits outcome =>
      exact Pipeline.stores_finish valid configured (.refl _) (ticketed.waiting _ _ waits).2 outcome

/-- With a configuration that was read from a file a forwarder can be made, and in every run from
empty caches, be it with messages one after another or with messages that overlap, what resolving a
message leaves to be remembered has a lifetime that no cache refuses, and each step that goes
through stores it. All of them go through until some time if and only if the machine holds what
storing takes until then. -/
theorem usable_configuration_stores (files : FileView) (path : String) (config : Config)
    (read : Config.ofFile files path = .ok config) (machine : Machine) (channelDepth : Nat)
    (names : NameSet) (last : Nat) :
    (∃ forwarder,
      Forwarder.new config.servers (config.serverTimeout * 1000) = .ok forwarder) ∧
    (∀ steps step ticket time request resolution,
      let state := (Overlap.start config channelDepth names).after steps
      (state.step step).2 = .answered ticket time request resolution →
      (∀ write, resolution.write = some write → 1000 ≤ write.lifetime) ∧
      ∀ next event, state.stepOn machine step = .ok (next, event) →
        state.pipeline.Stores next.pipeline request resolution) ∧
    (∀ steps step answered,
      let pipeline := (Pipeline.start config channelDepth names).after steps
      (pipeline.step step).2.answered? = some answered →
      (∀ write, answered.resolution.write = some write → 1000 ≤ write.lifetime) ∧
      ∀ next event, pipeline.stepOn machine step = .ok (next, event) →
        pipeline.Stores next answered.inquiry.request answered.resolution) ∧
    ((∀ steps inquiry,
        ((Pipeline.start config channelDepth names).after steps).now ≤ last →
        ∃ pipeline next resolution,
          (Pipeline.start config channelDepth names).afterOn machine steps = .ok pipeline ∧
          pipeline.inquireOn machine inquiry = .ok (next, resolution) ∧
          pipeline.Stores next inquiry.request resolution) ↔
      machine.Holds config last) ∧
    ((∀ steps,
        ((Overlap.start config channelDepth names).after steps).pipeline.now ≤ last →
        ∃ state, (Overlap.start config channelDepth names).afterOn machine steps = .ok state) ↔
      machine.Holds config last) := by
  have valid := Config.validate_of_ofFile read
  refine ⟨Forwarder.exists_new (Config.servers_ne_nil valid) _, ?_, ?_, ⟨?_, ?_⟩, ?_⟩
  · intro steps step ticket time request resolution state seen
    rcases Overlap.recalled_run config channelDepth names steps with ⟨ticketed, recalled⟩
    have happens := Overlap.happens_step state step
    rw [seen] at happens
    have stores := happens.stores valid recalled.configured ticketed
    refine ⟨fun write written => (stores.accepted write written).1, ?_⟩
    intro next event goes
    rw [Overlap.step_of_stepOn goes] at stores
    exact stores
  · intro steps step answered pipeline seen
    have configured := (Pipeline.Configured.start config channelDepth names).after steps
    have stores := Pipeline.stores_inquire valid configured answered.inquiry
    rcases Pipeline.inquire_of_answered? seen with ⟨_, same, resolution⟩
    rw [← same, ← resolution] at stores
    refine ⟨fun write written => (stores.accepted write written).1, ?_⟩
    intro next event goes
    rw [(Pipeline.stepOn_eq_ok_iff.1 goes).2] at stores
    exact stores
  · intro stores
    apply Pipeline.holds_of_inquires valid
    intro blocked inquiry
    rcases stores [.change (.advance last), .change (.reload blocked)] inquiry
      (Nat.le_of_eq (Nat.zero_add last)) with ⟨pipeline, next, resolution, went, goes, _⟩
    cases Pipeline.after_of_afterOn went
    exact ⟨_, goes⟩
  · intro holds steps inquiry past
    have configured := (Pipeline.Configured.start config channelDepth names).after steps
    have orderly := (Pipeline.Orderly.start config channelDepth names).after steps
    exact ⟨_, _, _,
      Pipeline.afterOn_of_holds holds (.start _ _ _) (.start _ _ _) steps past,
      Pipeline.inquireOn_of_holds holds configured orderly past inquiry,
      Pipeline.stores_inquire valid configured inquiry⟩
  · rw [← @Overlap.forall_afterOn_iff_holds machine config channelDepth names last valid]
    refine forall₂_congr fun steps _ => ⟨?_, fun goes => ⟨_, goes⟩⟩
    rintro ⟨state, went⟩
    rw [went, Overlap.after_of_afterOn went]

/-- The content of a configuration file, in which the number of seconds is filled in. -/
def lifetimeContent (expire : String) : ByteArray :=
  ("\x7b\"expire\":" ++ expire ++ ",\"ttl\":1\x7d").toByteArray

/-- The shortest lifetimes that a configuration can give. -/
theorem sample_configuration_stores :
    let config : Config := { expire := 2, ttl := 1 }
    let pipeline := Pipeline.start config 1 ∅
    let failing : Pipeline.Inquiry := { Pipeline.sampleInquiry with outcome := .error .io }
    (∃ forwarder,
        Forwarder.new config.servers (config.serverTimeout * 1000) = .ok forwarder) ∧
      ∃ next resolution,
        pipeline.inquireOn { clock := 1000 } failing = .ok (next, resolution) ∧
        pipeline.Stores next failing.request resolution := by
  intro config pipeline failing
  have parsed : (Json.parse? (lifetimeContent "2").toList).bind Config.ofJson? = some config := by
    decide +kernel
  have read : Config.ofFile (fun _ => some (.file (lifetimeContent "2"))) "config.json" =
      .ok config := Config.ofFile_eq_ok_iff.2 ⟨_, rfl, parsed, rfl⟩
  have stores := usable_configuration_stores _ "config.json" config read { clock := 1000 } 1 ∅ 0
  rcases stores.2.2.2.1.2 ⟨by decide, by decide⟩ [] failing (Nat.le_refl 0) with
    ⟨_, next, resolution, went, goes, stored⟩
  cases went
  exact ⟨stores.1, next, resolution, goes, stored⟩

/-- A configuration that is read from a file, and yet a failed lookup breaks the run off instead of
being stored: it would expire beyond the end of the clock. -/
theorem failed_lookup_is_not_stored :
    let config : Config := { expire := 18446744073709551615, ttl := 1 }
    let failing : Pipeline.Inquiry := { Pipeline.sampleInquiry with outcome := .error .io }
    Config.ofFile (fun _ => some (.file (lifetimeContent "18446744073709551615")))
        "config.json" = .ok config ∧
      (Pipeline.start config 1 ∅).inquireOn { clock := 1000 } failing = .error .instant := by
  refine ⟨?_, rfl⟩
  have parsed : (Json.parse? (lifetimeContent "18446744073709551615").toList).bind
      Config.ofJson? = some { expire := 18446744073709551615, ttl := 1 } := by
    decide +kernel
  exact Config.ofFile_eq_ok_iff.2 ⟨_, rfl, parsed, rfl⟩

end DnsFilter
