import DnsFilter.Address.Basic
import DnsFilter.Message.Decode
import DnsFilter.Pipeline.Basic

/-!
# The network as a forwarder meets it

Servers at their addresses, each with what it does in turn with the datagrams and with the
connections that reach it. Where nothing listens, or no way leads, an attempt fails at once. A
server that has come to the end of its script stays silent.
-/

namespace DnsFilter

structure Datagram where
  /-- Milliseconds from the request to the arrival. -/
  delay : Nat := 0
  /-- The message that its bytes encode, if they encode one. -/
  content : Option Message
  deriving DecidableEq, Repr

inductive StreamReply where
  /-- Nothing complete comes. -/
  | silent
  /-- The connection ends before a whole message has come. -/
  | closed
  /-- A whole frame comes after `delay` milliseconds; `content` is the message that it encodes, if
  it encodes one. -/
  | frame (delay : Nat) (content : Option Message)
  deriving DecidableEq, Repr

/-- What comes of bytes that are sent over a connection that is then closed: a frame starts with its
length. -/
def StreamReply.ofBytes : List UInt8 → StreamReply
  | high :: low :: rest =>
      let length := high.toNat * 256 + low.toNat
      if rest.length < length then .closed else .frame 0 (Message.decode? (rest.take length))
  | _ => .closed

/-- A server. Each list holds what it does with the requests that reach it, one after the other;
`none` means that nothing listens. -/
structure Server where
  datagramReplies : Option (List (Message → List Datagram))
  streamReplies : Option (List (Message → StreamReply))

/-- A host that cannot be reached at all. -/
def Server.unreachable : Server := { datagramReplies := none, streamReplies := none }

structure Network where
  server : SocketAddress → Server

namespace Network

/-- The network without any server that can be reached. -/
def unreachable : Network := ⟨fun _ => .unreachable⟩

def put (network : Network) (address : SocketAddress) (server : Server) : Network :=
  ⟨fun other => if other = address then server else network.server other⟩

structure Hit where
  server : SocketAddress
  transport : Transport
  deriving DecidableEq, Repr

/-- Sends a datagram and gives what comes back, or nothing where none can be sent. -/
def sendDatagram (network : Network) (address : SocketAddress) (request : Message) :
    Network × Option (List Datagram) :=
  let server := network.server address
  match server.datagramReplies with
  | none => (network, none)
  | some [] => (network, some [])
  | some (reply :: later) =>
      (network.put address { server with datagramReplies := some later }, some (reply request))

/-- Opens a connection, sends a request and gives what comes back, or nothing where no connection
can be opened. -/
def openStream (network : Network) (address : SocketAddress) (request : Message) :
    Network × Option StreamReply :=
  let server := network.server address
  match server.streamReplies with
  | none => (network, none)
  | some [] => (network, some .silent)
  | some (reply :: later) =>
      (network.put address { server with streamReplies := some later }, some (reply request))

end Network

end DnsFilter
