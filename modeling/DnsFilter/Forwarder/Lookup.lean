import DnsFilter.Forwarder.Network
import DnsFilter.Message.Transit

/-!
# Forwarding a query

Servers are tried in order, each attempt within its own time. A server that cannot be reached,
stays silent or breaks off makes way for the next; the first message wins, whatever it says. An
answer by datagram that is marked as truncated is asked for again over a connection to the same
server and never returned. Datagrams that are garbled or carry another id are passed over; they end
nothing. A request that cannot be encoded reaches no server.
-/

namespace DnsFilter

/-- Forwards queries to a fixed list of servers. -/
structure Forwarder where
  servers : List SocketAddress
  /-- Milliseconds that one attempt may take. -/
  timeout : Nat
  deriving DecidableEq, Repr

/-- What came of asking: the outcome, the network afterwards, which servers were asked in order,
which of these requests reached them, and the milliseconds that passed. -/
structure Exchange where
  outcome : Except Error Message
  network : Network
  asked : List Network.Hit := []
  hits : List Network.Hit := []
  elapsed : Nat := 0

namespace Forwarder

/-- A forwarder to the given servers, at least one. -/
def new (servers : List SocketAddress) (timeout : Nat) : Except Error Forwarder :=
  if servers.isEmpty then .error .noServers else .ok { servers, timeout }

/-- Whether a datagram can be the answer to a request, when attempts may take `timeout`. -/
def isAnswer (request : Message) (timeout : Nat) (datagram : Datagram) : Bool :=
  datagram.delay < timeout && datagram.content.any fun message => message.id == request.id

/-- The answer among the datagrams that come back, in order of arrival, and when it arrives. -/
def answerIn? (request : Message) (timeout : Nat) (datagrams : List Datagram) :
    Option (Message × Nat) :=
  (datagrams.find? (isAnswer request timeout)).bind fun datagram =>
    datagram.content.map fun message => (message, datagram.delay)

/-- An attempt whose time passed without an answer. -/
def timedOut (forwarder : Forwarder) (server : SocketAddress) (network : Network)
    (hits : List Network.Hit) : Exchange :=
  { outcome := .error (.serverTimeout server)
    network
    asked := hits
    hits
    elapsed := forwarder.timeout }

def askByDatagram (forwarder : Forwarder) (network : Network) (server : SocketAddress)
    (request : Message) : Exchange :=
  match request.transmitted? with
  | none => { outcome := .error .malformedMessage, network }
  | some sent =>
      match network.sendDatagram server sent with
      | (network, none) => { outcome := .error .io, network, asked := [⟨server, .udp⟩] }
      | (network, some datagrams) =>
          let hits := [⟨server, .udp⟩]
          match answerIn? request forwarder.timeout datagrams with
          | some (message, elapsed) =>
              { outcome := .ok message, network, asked := hits, hits, elapsed }
          | none => forwarder.timedOut server network hits

/-- What a frame amounts to: a message under the id of the request, or the reason why not. -/
def checkFrame (server : SocketAddress) (request : Message) :
    Option Message → Except Error Message
  | none => .error .malformedMessage
  | some message =>
      if message.id = request.id then .ok message else .error (.serverIdMismatch server)

def askByStream (forwarder : Forwarder) (network : Network) (server : SocketAddress)
    (request : Message) : Exchange :=
  match request.transmitted? with
  | none => { outcome := .error .malformedMessage, network }
  | some sent =>
      match network.openStream server sent with
      | (network, none) => { outcome := .error .io, network, asked := [⟨server, .tcp⟩] }
      | (network, some reply) =>
          let hits := [⟨server, .tcp⟩]
          match reply with
          | .silent => forwarder.timedOut server network hits
          | .closed => { outcome := .error .io, network, asked := hits, hits }
          | .frame elapsed content =>
              if elapsed < forwarder.timeout then
                { outcome := checkFrame server request content
                  network
                  asked := hits
                  hits
                  elapsed }
              else forwarder.timedOut server network hits

/-- Asks one server. A truncated answer by datagram is asked for again over a connection. -/
def ask (forwarder : Forwarder) (network : Network) (transport : Transport)
    (server : SocketAddress) (request : Message) : Exchange :=
  match transport with
  | .tcp => forwarder.askByStream network server request
  | .udp =>
      let first := forwarder.askByDatagram network server request
      match first.outcome with
      | .error _ => first
      | .ok message =>
          if message.flags.truncated then
            let second := forwarder.askByStream first.network server request
            { second with
              asked := first.asked ++ second.asked
              hits := first.hits ++ second.hits
              elapsed := first.elapsed + second.elapsed }
          else first

/-- Asks servers in order until one produces a message. -/
def askInTurn (forwarder : Forwarder) (transport : Transport) (request : Message) :
    List SocketAddress → Network → Exchange
  | [], network => { outcome := .error (.serversExhausted forwarder.servers.length), network }
  | server :: later, network =>
      let exchange := forwarder.ask network transport server request
      match exchange.outcome with
      | .ok _ => exchange
      | .error error =>
          if error.isTransport then
            let rest := forwarder.askInTurn transport request later exchange.network
            { rest with
              asked := exchange.asked ++ rest.asked
              hits := exchange.hits ++ rest.hits
              elapsed := exchange.elapsed + rest.elapsed }
          else exchange

def lookup (forwarder : Forwarder) (network : Network) (transport : Transport)
    (request : Message) : Exchange :=
  forwarder.askInTurn transport request forwarder.servers network

end Forwarder

end DnsFilter
