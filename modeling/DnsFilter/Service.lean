import DnsFilter.Forwarder.Lookup
import DnsFilter.Pipeline.Limits

/-!
# The DNS service

The query pipeline in front of a forwarder. A request comes in as a message; what cannot be used
beyond its header is refused without reaching the pipeline. Time passes while servers are asked.
-/

namespace DnsFilter

/-- A running service with the network around it. -/
structure Service where
  pipeline : Pipeline
  forwarder : Forwarder
  network : Network

namespace Service

/-- The depth of the channel to the question log: as many entries may wait as the log can hold. -/
def channelDepth (config : Config) : Nat := config.questionCapacity

/-- A service over a network, as configured and with nothing cached. -/
def new (config : Config) (blocked : NameSet) (network : Network) : Except Error Service := do
  let forwarder ← Forwarder.new config.servers (config.serverTimeout * 1000)
  return { pipeline := .start config (channelDepth config) blocked, forwarder, network }

structure Served where
  service : Service
  /-- The response, if there is one. -/
  response : Option Message
  hits : List Network.Hit := []

/-- Resolves a forwardable message, asking the servers where that is needed. -/
def resolve (service : Service) (request : Message) (transport : Transport)
    (client : IPAddress) : Service × Message × List Network.Hit :=
  match service.pipeline.begin request transport client with
  | (pipeline, .answered resolution) => ({ service with pipeline }, resolution.response, [])
  | (pipeline, .forwarded pending) =>
      let exchange :=
        service.forwarder.lookup service.network pending.transport pending.request
      let (pipeline, resolution) :=
        (pipeline.advance exchange.elapsed).finish pending exchange.outcome
      ({ service with pipeline, network := exchange.network }, resolution.response, exchange.hits)

/-- Resolves a forwardable message on a machine. -/
def resolveOn (machine : Machine) (service : Service) (request : Message) (transport : Transport)
    (client : IPAddress) : Except Overflow (Service × Message × List Network.Hit) := do
  match ← service.pipeline.beginOn machine request transport client with
  | (pipeline, .answered resolution) =>
      return ({ service with pipeline }, resolution.response, [])
  | (pipeline, .forwarded pending) =>
      let exchange :=
        service.forwarder.lookup service.network pending.transport pending.request
      let (pipeline, resolution) ←
        (pipeline.advance exchange.elapsed).finishOn machine pending exchange.outcome
      return ({ service with pipeline, network := exchange.network }, resolution.response,
        exchange.hits)

def serveRequest (service : Service) (request : Message) (transport : Transport)
    (client : IPAddress) : Served :=
  if request.isOrdinaryQuery then
    let (service, resolved, hits) := service.resolve request.forwardable transport client
    { service, response := some (request.response resolved), hits }
  else { service, response := some request.notImplemented }

def serve (service : Service) (intake : Intake) (transport : Transport) (client : IPAddress) :
    Served :=
  match intake with
  | .unreadable => { service, response := none }
  | .headerOnly head =>
      { service, response := some { head.responseHead with rcode := .formatError } }
  | .request request => service.serveRequest request transport client

def Served.received? (served : Served) : Option Message :=
  served.response.bind Message.transmitted?

end Service

end DnsFilter
