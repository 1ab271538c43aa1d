import DnsFilter.Message.Transit
import DnsFilter.Pipeline.Resolve

/-!
# Handling a request

What happens to a message that a client sent. An ordinary query is resolved and the result is sent
in a response under the client's own header; any other message is answered with "not implemented"
and changes nothing. Losing the client while sending, or a response that cannot be encoded, changes
only the report of what was sent.
-/

namespace DnsFilter

namespace Message

/-- What the servers need of a request. -/
def forwardable (request : Message) : Message :=
  { id := request.id
    flags :=
      { recursionDesired := request.flags.recursionDesired
        checkingDisabled := request.flags.checkingDisabled
        authenticData := request.flags.authenticData }
    opcode := request.opcode
    queries := request.queries.take 1
    edns := request.edns }

/-- Whether a message asks an ordinary question. -/
def isOrdinaryQuery (message : Message) : Bool :=
  message.opcode == .query && !message.flags.response

/-- The head of a response to a request: the request's id, opcode, recursion-desired and
checking-disabled flags, and queries. -/
def responseHead (request : Message) : Message :=
  { id := request.id
    flags :=
      { response := true
        recursionDesired := request.flags.recursionDesired
        checkingDisabled := request.flags.checkingDisabled }
    opcode := request.opcode
    queries := request.queries }

/-- The response that hands a resolved message to the client. -/
def response (request resolved : Message) : Message :=
  let head := request.responseHead
  { head with
    flags :=
      { head.flags with
        authoritative := resolved.flags.authoritative
        recursionAvailable := resolved.flags.recursionAvailable
        authenticData := resolved.flags.authenticData }
    rcode := resolved.rcode
    answers := resolved.answers
    authorities := resolved.authorities
    additionals := resolved.additionals
    edns := resolved.edns }

/-- The response to a request that is no ordinary query. -/
def notImplemented (request : Message) : Message :=
  { request.responseHead with rcode := .notImplemented }

end Message

structure ResponseInfo where
  id : UInt16
  rcode : Rcode
  answerCount : Nat
  deriving DecidableEq, Repr

namespace ResponseInfo

/-- The report of a response that was sent. -/
def ofResponse (response : Message) : ResponseInfo :=
  { id := response.id, rcode := response.rcode, answerCount := response.answers.length }

def unsent : ResponseInfo := { id := 0, rcode := .serverFailure, answerCount := 0 }

end ResponseInfo

/-- What handling a request came to. -/
structure Handling where
  /-- What the query came to, if the request was an ordinary query. -/
  resolution : Option Resolution
  /-- The message that was forwarded, if one was. -/
  forwarded : Option (Transport × Message)
  response : Message
  /-- Whether the client was there to take it. -/
  delivered : Bool

namespace Handling

/-- The part of the response that was sent, unless the client was gone or the response cannot be
encoded. -/
def sent? (handling : Handling) : Option Message :=
  if handling.delivered then handling.response.fitted? else none

def received? (handling : Handling) : Option Message := handling.sent?.map Message.received

def info (handling : Handling) : ResponseInfo :=
  (handling.sent?.map ResponseInfo.ofResponse).getD .unsent

end Handling

namespace Pipeline

/-- Handles a decoded request. `ask` is what the servers say to a forwarded message, `delivered`
whether the client is still there. -/
def handle (pipeline : Pipeline) (request : Message) (transport : Transport)
    (client : IPAddress) (ask : Transport → Message → Except Error Message) (delivered : Bool) :
    Pipeline × Handling :=
  if request.isOrdinaryQuery then
    let forwardable := request.forwardable
    let (pipeline, resolution) := pipeline.resolve forwardable transport client ask
    (pipeline,
      { resolution
        forwarded := if resolution.isForwarded then some (transport, forwardable) else none
        response := request.response resolution.response
        delivered })
  else
    (pipeline,
      { resolution := none, forwarded := none, response := request.notImplemented, delivered })

end Pipeline

end DnsFilter
