import DnsFilter.Proofs.Config.Validity
import DnsFilter.Proofs.Forwarder.Failover
import DnsFilter.Proofs.Pipeline.Limits
import DnsFilter.Proofs.Pipeline.Overlapping
import DnsFilter.Service

/-!
# Failures of the servers

When an address query that is neither cached nor blocked comes to be remembered as failed: if and
only if every server failed on it, and the machine holds what storing the failure takes. An answer
that reports a failure is an answer like any other.
-/

namespace DnsFilter

theorem Config.negativeLifetime_ne_zero {config : Config} (valid : config.validate = .ok ()) :
    config.negativeLifetime ≠ 0 := by
  have bound := le_negativeLifetime valid
  omega

/-- That a machine holds what it takes to store a failure under a new key at some time. -/
structure Machine.HoldsFailure (machine : Machine) (config : Config) (time : Nat) : Prop where
  instant : machine.clock + (time + config.negativeLifetime) < Machine.clockEnd
  size : config.cacheCapacity * 2 < Machine.sizeEnd

namespace Service

section

variable (service : Service) (request : Message) (query : Query) (transport : Transport)
  (client : IPAddress)

/-- The pipeline that the servers' outcome for a query comes in to. -/
def awaiting : Pipeline :=
  ((service.pipeline.missed query.key).record client (.ofQuery query) false).advance
    (service.forwarder.lookup service.network transport request).elapsed

theorem sheds_awaiting :
    service.pipeline.Sheds (service.awaiting request query transport client) := by
  have missed := Pipeline.Sheds.missed service.pipeline query.key
  exact (missed.trans (.record _ client _ false)).trans (.undergo _ (.advance _))

end

variable {service : Service} {config : Config} {request : Message} {query : Query}
  {transport : Transport} {client : IPAddress} {machine : Machine}

theorem absent_awaiting (needs : service.pipeline.NeedsLookup request query) :
    ((service.awaiting request query transport client).cache .negative).entries[query.key]? =
      none :=
  needs.absent_missed .negative

/-- A query that needs a lookup is resolved with what comes of it. -/
theorem resolve_of_needsLookup (needs : service.pipeline.NeedsLookup request query) :
    let exchange := service.forwarder.lookup service.network transport request
    let finished := (service.awaiting request query transport client).finish
      { request, query, transport } exchange.outcome
    service.resolve request transport client =
      ({ service with pipeline := finished.1, network := exchange.network },
        finished.2.response, exchange.hits) := by
  rw [resolve, needs.begin_eq transport client]
  rfl

/-- When the servers fail, the client is told so under the id of its request, and the failure is
remembered. -/
theorem resolve_of_lookup_error (configured : service.pipeline.Configured config)
    (lasting : config.negativeLifetime ≠ 0)
    (needs : service.pipeline.NeedsLookup request query) {error : Error}
    (failed : (service.forwarder.lookup service.network transport request).outcome =
      .error error) :
    let resolved := service.resolve request transport client
    let next := resolved.1.pipeline
    resolved.2.1 = request.failure .serverFailure ∧
      (next.cache .negative).valid? next.now query.key = some .failed := by
  rcases needs.address with ⟨family, address⟩
  rw [resolve_of_needsLookup needs, failed]
  refine ⟨rfl, ?_⟩
  dsimp only
  rw [Pipeline.now_finish]
  exact Pipeline.valid?_of_finish_error ⟨request, query, transport⟩
    (configured.of_sheds (sheds_awaiting ..)) lasting address error

/-- When a server answers, the client gets the answer under the id of its request, and no failure is
remembered. -/
theorem resolve_of_lookup_ok (configured : service.pipeline.Configured config)
    (needs : service.pipeline.NeedsLookup request query) {message : Message}
    (answered : (service.forwarder.lookup service.network transport request).outcome =
      .ok message) :
    let resolved := service.resolve request transport client
    let next := resolved.1.pipeline
    resolved.2.1 = message.withId request.id ∧
      (next.cache .negative).valid? next.now query.key = none := by
  rw [resolve_of_needsLookup needs, answered]
  refine ⟨rfl, ?_⟩
  dsimp only
  rw [Pipeline.now_finish]
  exact Pipeline.valid?_of_finish_ok ⟨request, query, transport⟩
    (configured.of_sheds (sheds_awaiting ..)) (absent_awaiting needs) message

/-- A query that needs a lookup is stored nowhere before the servers were asked, so it depends on
their outcome alone whether it goes through. -/
theorem resolveOn_eq_ok_iff (needs : service.pipeline.NeedsLookup request query)
    {result : Service × Message × List Network.Hit} :
    let awaiting := service.awaiting request query transport client
    service.resolveOn machine request transport client = .ok result ↔
      awaiting.Fits machine
          (awaiting.outcomeResolution { request, query, transport }
            (service.forwarder.lookup service.network transport request).outcome).write ∧
        service.resolve request transport client = result := by
  intro awaiting
  have begins : service.pipeline.beginOn machine request transport client =
      .ok ((service.pipeline.missed query.key).record client (.ofQuery query) false,
        .forwarded { request, query, transport }) := by
    rw [Pipeline.beginOn_eq_ok_iff, needs.begin_eq transport client]
    exact ⟨Pipeline.fits_none _ _, rfl⟩
  rw [resolveOn, begins, resolve_of_needsLookup needs]
  show (awaiting.finishOn machine _ _ >>= fun finished => pure (_, finished.2.response, _)) = _ ↔ _
  simp [bind_eq_ok_iff, Pipeline.finishOn_eq_ok_iff, pure, Except.pure, and_assoc, awaiting]

/-- What goes through on a machine is what comes of it without one. -/
theorem resolve_of_resolveOn (needs : service.pipeline.NeedsLookup request query)
    {result : Service × Message × List Network.Hit}
    (goes : service.resolveOn machine request transport client = .ok result) :
    service.resolve request transport client = result :=
  ((resolveOn_eq_ok_iff needs).1 goes).2

/-- A failure goes through if and only if the machine holds what it takes to store it. -/
theorem exists_resolveOn_iff_of_error (configured : service.pipeline.Configured config)
    (orderly : service.pipeline.Orderly config) (lasting : config.negativeLifetime ≠ 0)
    (needs : service.pipeline.NeedsLookup request query) {error : Error}
    (failed : (service.forwarder.lookup service.network transport request).outcome =
      .error error) :
    (∃ result, service.resolveOn machine request transport client = .ok result) ↔
      machine.HoldsFailure config (service.pipeline.now +
        (service.forwarder.lookup service.network transport request).elapsed) := by
  have sheds := service.sheds_awaiting request query transport client
  have settled := configured.of_sheds sheds
  have capacity := (orderly.of_sheds sheds).capacity .negative
  rcases needs.address with ⟨family, address⟩
  simp only [resolveOn_eq_ok_iff needs, exists_and_left, exists_eq', and_true, failed,
    Pipeline.write_outcomeResolution_error ⟨request, query, transport⟩ settled address]
  constructor
  · intro fits
    have stored := fits _ rfl lasting
    exact ⟨stored.instant, capacity ▸ stored.size (absent_awaiting needs)⟩
  · rintro holds write written _
    cases written
    exact ⟨holds.instant, fun _ => capacity ▸ holds.size⟩

/-- On a machine, a query that needs a lookup comes to be remembered as failed, with the client told
so, if and only if all servers fail and the machine holds what it takes to store that. -/
theorem remembers_failure_iff (configured : service.pipeline.Configured config)
    (orderly : service.pipeline.Orderly config) (lasting : config.negativeLifetime ≠ 0)
    (needs : service.pipeline.NeedsLookup request query) :
    (∃ resolved, service.resolveOn machine request transport client = .ok resolved ∧
        resolved.2.1 = request.failure .serverFailure ∧
        (resolved.1.pipeline.cache .negative).valid? resolved.1.pipeline.now query.key =
          some .failed) ↔
      (∃ hits after, service.forwarder.FailInTurn transport request service.network
        service.forwarder.servers hits after) ∧
      machine.HoldsFailure config (service.pipeline.now +
        (service.forwarder.lookup service.network transport request).elapsed) := by
  constructor
  · rintro ⟨resolved, goes, _, marked⟩
    cases resolve_of_resolveOn needs goes
    cases outcome : (service.forwarder.lookup service.network transport request).outcome with
    | ok message =>
        rw [(resolve_of_lookup_ok configured needs outcome).2] at marked
        contradiction
    | error error =>
        exact ⟨(Forwarder.lookup_eq_error_iff.1 outcome).2,
          (exists_resolveOn_iff_of_error configured orderly lasting needs outcome).1 ⟨_, goes⟩⟩
  · rintro ⟨⟨hits, after, fails⟩, holds⟩
    have outcome := fails.lookup_eq_exhausted
    rcases (exists_resolveOn_iff_of_error configured orderly lasting needs outcome).2 holds with
      ⟨resolved, goes⟩
    cases resolve_of_resolveOn needs goes
    exact ⟨_, goes, resolve_of_lookup_error configured lasting needs outcome⟩

end Service

namespace Forwarder

theorem servers_of_new {servers : List SocketAddress} {timeout : Nat} {forwarder : Forwarder}
    (built : Forwarder.new servers timeout = .ok forwarder) : forwarder.servers = servers := by
  unfold new at built
  split at built
  · contradiction
  · cases built
    rfl

/-- Whatever the servers do, a lookup ends with the message of the first one that yields a message,
and no others are reached; it fails if and only if none yields one, and then it says that they are
exhausted. So, as configured, an address query that is neither cached nor blocked is remembered as
failed, and a failure is made up for it, if and only if every server failed on it and the machine
holds what it takes to store the failure. -/
theorem lookup_fails_over (forwarder : Forwarder) (network : Network) (transport : Transport)
    (request : Message) :
    let exchange := forwarder.lookup network transport request
    (∀ before server,
      (∀ message, (forwarder.ask before transport server request).outcome = .ok message ↔
        forwarder.Yields before server request transport message) ∧
      ∀ error, (forwarder.ask before transport server request).outcome = .error error →
        error.isTransport = true) ∧
    (∀ message, exchange.outcome = .ok message ↔
      ∃ earlier server later hits between,
        forwarder.servers = earlier ++ server :: later ∧
        forwarder.FailInTurn transport request network earlier hits between ∧
        (forwarder.ask between transport server request).outcome = .ok message ∧
        exchange.hits = hits ++ (forwarder.ask between transport server request).hits ∧
        exchange.network = (forwarder.ask between transport server request).network ∧
        ∀ other, other ∉ earlier → other ≠ server →
          (∀ hit ∈ exchange.hits, hit.server ≠ other) ∧
          exchange.network.server other = network.server other) ∧
    (∀ error, exchange.outcome = .error error ↔
      error = .serversExhausted forwarder.servers.length ∧
        ∃ hits after,
          forwarder.FailInTurn transport request network forwarder.servers hits after) ∧
    ∀ (machine : Machine) (config : Config) (channelDepth : Nat) (names : NameSet)
      (steps : List Overlap.Step) (client : IPAddress) (query : Query),
      config.validate = .ok () →
      Forwarder.new config.servers (config.serverTimeout * 1000) = .ok forwarder →
      let pipeline := ((Overlap.start config channelDepth names).after steps).pipeline
      pipeline.NeedsLookup request query →
      let resolving := Service.resolveOn machine { pipeline, forwarder, network } request transport
        client
      let marked? (next : Pipeline) := (next.cache .negative).valid? next.now query.key
      ((∃ resolved, resolving = .ok resolved ∧ resolved.2.1 = request.failure .serverFailure ∧
          marked? resolved.1.pipeline = some .failed) ↔
        (∃ hits after,
          forwarder.FailInTurn transport request network config.servers hits after) ∧
        machine.HoldsFailure config (pipeline.now + exchange.elapsed)) ∧
      ∀ resolved, resolving = .ok resolved →
        match exchange.outcome with
        | .ok message =>
            resolved.2.1 = message.withId request.id ∧ marked? resolved.1.pipeline = none
        | .error _ =>
            resolved.2.1 = request.failure .serverFailure ∧
              marked? resolved.1.pipeline = some .failed := by
  intro exchange
  refine ⟨?_, ?_, fun error => lookup_eq_error_iff, ?_⟩
  · intro before server
    exact ⟨fun message => ask_eq_ok_iff,
      (isAttempt_ask forwarder before transport server request).transport⟩
  · intro message
    constructor
    · intro succeeded
      rcases lookup_eq_ok_iff.1 succeeded with
        ⟨earlier, server, later, hits, between, listed, fails, ok⟩
      rcases fails.lookup_of_ok listed ok with ⟨_, sameHits, sameNetwork⟩
      refine ⟨earlier, server, later, hits, between, listed, fails, ok, sameHits, sameNetwork, ?_⟩
      intro other unlisted different
      exact fails.lookup_spares listed ok unlisted different
    · rintro ⟨earlier, server, later, hits, between, listed, fails, ok, _⟩
      exact lookup_eq_ok_iff.2 ⟨earlier, server, later, hits, between, listed, fails, ok⟩
  · intro machine config channelDepth names steps client query valid built pipeline needs resolving
      marked?
    have lasting := Config.negativeLifetime_ne_zero valid
    have recalled := (Overlap.recalled_run config channelDepth names steps).2
    rw [← servers_of_new built]
    refine ⟨Service.remembers_failure_iff recalled.configured recalled.orderly lasting needs, ?_⟩
    intro resolved goes
    rw [← Service.resolve_of_resolveOn needs goes]
    cases outcome : exchange.outcome with
    | ok message => exact Service.resolve_of_lookup_ok recalled.configured needs outcome
    | error error =>
        exact Service.resolve_of_lookup_error recalled.configured lasting needs outcome

/-- Of the servers of the default configuration, the first one garbles its answer, and nothing
listens at the second one. -/
def garbledNetwork : Network :=
  Network.unreachable.put (.v4 ⟨8, 8, 8, 8⟩ 53)
    { datagramReplies := some [fun _ => [{ content := none }]], streamReplies := none }

/-- The first server garbles its answer. From the second one comes a garbled datagram, one under
another id, the refusal of the request, and more. -/
def refusingNetwork : Network :=
  garbledNetwork.put (.v4 ⟨8, 8, 4, 4⟩ 53)
    { datagramReplies := some [fun request =>
        [{ content := none },
          { content := some { id := request.id + 1 } },
          { delay := 20, content := some { id := request.id, rcode := .refused } },
          { delay := 20, content := some { id := request.id } }]]
      streamReplies := none }

/-- Whatever a server says is passed on, and is no failure. When all servers fail, the client is
told so, and the failure is remembered. -/
theorem garbled_lookup_fails_over :
    let forwarder : Forwarder := ⟨Config.default.servers, 5000⟩
    let request := Pipeline.sampleInquiry.request
    let resolve (network : Network) := Service.resolveOn { clock := 1000 }
      { pipeline := .start {} 1 ∅, forwarder, network } request .udp Pipeline.sampleInquiry.client
    let marked? (next : Pipeline) := (next.cache .negative).valid? next.now Pipeline.sampleQuery.key
    (∃ resolved, resolve garbledNetwork = .ok resolved ∧
      resolved.2.1 = request.failure .serverFailure ∧
      resolved.2.2 = [⟨.v4 ⟨8, 8, 8, 8⟩ 53, .udp⟩] ∧
      marked? resolved.1.pipeline = some .failed) ∧
    ∃ resolved between, resolve refusingNetwork = .ok resolved ∧
      forwarder.Yields between (.v4 ⟨8, 8, 4, 4⟩ 53) request .udp
        { id := request.id, rcode := .refused } ∧
      resolved.2.1 = { id := request.id, rcode := .refused } ∧
      resolved.2.2 = [⟨.v4 ⟨8, 8, 8, 8⟩ 53, .udp⟩, ⟨.v4 ⟨8, 8, 4, 4⟩ 53, .udp⟩] ∧
      marked? resolved.1.pipeline = none := by
  have needs : (Pipeline.start {} 1 ∅).NeedsLookup Pipeline.sampleInquiry.request
      Pipeline.sampleQuery := by
    refine ⟨rfl, ⟨.v4, rfl⟩, ?_, rfl⟩
    intro side
    cases side <;> rfl
  constructor
  · have overall := lookup_fails_over ⟨Config.default.servers, 5000⟩ garbledNetwork .udp
      Pipeline.sampleInquiry.request
    have fails := (overall.2.2.1 (.serversExhausted 2)).1 rfl
    have marks := overall.2.2.2 { clock := 1000 } {} 1 ∅ [] Pipeline.sampleInquiry.client
      Pipeline.sampleQuery rfl rfl needs
    rcases marks.1.2 ⟨fails.2, by decide, by decide⟩ with ⟨resolved, goes, response, marked⟩
    refine ⟨resolved, goes, response, ?_, marked⟩
    cases goes
    rfl
  · have overall := lookup_fails_over ⟨Config.default.servers, 5000⟩ refusingNetwork .udp
      Pipeline.sampleInquiry.request
    have passes := (overall.2.2.2 { clock := 1000 } {} 1 ∅ [] Pipeline.sampleInquiry.client
      Pipeline.sampleQuery rfl rfl needs).2 _ rfl
    have yields := ((overall.1
      (Forwarder.ask ⟨Config.default.servers, 5000⟩ refusingNetwork .udp (.v4 ⟨8, 8, 8, 8⟩ 53)
        Pipeline.sampleInquiry.request).network (.v4 ⟨8, 8, 4, 4⟩ 53)).1 _).1 rfl
    exact ⟨_, _, rfl, yields, passes.1, rfl, passes.2⟩

/-- Under a configuration that can be used, all servers fail on a query that is neither cached nor
blocked, and yet neither is that remembered nor is the client told so. -/
theorem failure_of_servers_breaks_off :
    let config : Config := { expire := 18446744073709551615 }
    let forwarder : Forwarder := ⟨Config.default.servers, 5000⟩
    let request := Pipeline.sampleInquiry.request
    config.validate = .ok () ∧
    Forwarder.new config.servers (config.serverTimeout * 1000) = .ok forwarder ∧
    (forwarder.lookup .unreachable .udp request).outcome = .error (.serversExhausted 2) ∧
    (Pipeline.start config 1 ∅).NeedsLookup request Pipeline.sampleQuery ∧
    Service.resolveOn { clock := 1000 }
      { pipeline := .start config 1 ∅, forwarder, network := .unreachable } request .udp
      Pipeline.sampleInquiry.client = .error .instant := by
  refine ⟨rfl, rfl, rfl, ⟨rfl, ⟨.v4, rfl⟩, ?_, rfl⟩, rfl⟩
  intro side
  cases side <;> rfl

end Forwarder

end DnsFilter
