import DnsFilter.Proofs.Message.Sending
import DnsFilter.Proofs.Pipeline.Limits

/-!
# What a client is sent

A response is put together from the header of the request, its question, and the message that the
request was resolved to, which may have been made for another client. The parts that belong to the
request always come from it, whichever way it was resolved.
-/

namespace DnsFilter

namespace Message

/-- That a message is addressed as the response to a request. -/
structure IsResponseTo (response request : Message) : Prop where
  id : response.id = request.id
  isResponse : response.flags.response = true
  recursionDesired : response.flags.recursionDesired = request.flags.recursionDesired
  checkingDisabled : response.flags.checkingDisabled = request.flags.checkingDisabled
  opcode : response.opcode = request.opcode
  queries : response.queries = request.queries

/-- That a response says what a resolved message says. -/
structure Carries (response resolved : Message) : Prop where
  authoritative : response.flags.authoritative = resolved.flags.authoritative
  recursionAvailable : response.flags.recursionAvailable = resolved.flags.recursionAvailable
  authenticData : response.flags.authenticData = resolved.flags.authenticData
  rcode : response.rcode = resolved.rcode
  answers : response.answers = resolved.answers
  authorities : response.authorities = resolved.authorities
  additionals : response.additionals = resolved.additionals
  edns : response.edns = resolved.edns

theorem IsResponseTo.received {response request : Message}
    (isResponse : response.IsResponseTo request) : response.received.IsResponseTo request := by
  rcases isResponse with ⟨id, isResponse, desired, disabled, opcode, queries⟩
  exact ⟨id, isResponse, desired, disabled, opcode, queries⟩

theorem IsFrontOf.isResponseTo {sent response request : Message} (front : sent.IsFrontOf response)
    (isResponse : response.IsResponseTo request) : sent.IsResponseTo request := by
  rcases front.flags with ⟨mark, flags⟩
  refine ⟨front.id.trans isResponse.id, ?_, ?_, ?_, front.opcode.trans isResponse.opcode,
    front.queries.trans isResponse.queries⟩
  · rw [flags]
    exact isResponse.isResponse
  · rw [flags]
    exact isResponse.recursionDesired
  · rw [flags]
    exact isResponse.checkingDisabled

/-- A response is put together for its own request, whatever it says. -/
theorem isResponseTo_response (request resolved : Message) :
    (request.response resolved).IsResponseTo request := by
  constructor <;> rfl

theorem isResponseTo_notImplemented (request : Message) :
    request.notImplemented.IsResponseTo request := by
  constructor <;> rfl

theorem rcode_received_notImplemented (request : Message) :
    request.notImplemented.received.rcode = .notImplemented := by
  rw [rcode_received]
  · exact congrArg Rcode.mk (by decide : (4 : UInt16) &&& 0xf = 4)
  · intro _ record member
    contradiction

theorem carries_response (request resolved : Message) :
    (request.response resolved).Carries resolved := by
  constructor <;> rfl

/-- The receiver gets twelve bits of the response code of what a response carries with an extension
record, and four without one. -/
theorem Carries.rcode_received {response resolved : Message} (carries : response.Carries resolved)
    (extensionless : resolved.edns = none →
      ∀ record ∈ resolved.additionals, record.isExtension = false) :
    response.received.rcode =
      ⟨resolved.rcode.code &&& if resolved.edns.isSome then 0xfff else 0xf⟩ := by
  rw [← carries.edns, ← carries.additionals] at extensionless
  rw [← carries.edns, ← carries.rcode]
  exact response.rcode_received extensionless

/-- What is sent of an unmarked message is marked as truncated unless it is all of the message. -/
theorem unmarked_iff_of_fitted? {message sent : Message}
    (unmarked : message.flags.truncated = false) (fits : message.fitted? = some sent) :
    sent.flags.truncated = false ↔ sent = message := by
  constructor
  · exact (isFrontOf_of_fitted? fits).2
  · intro whole
    rw [whole]
    exact unmarked

end Message

namespace Pipeline

theorem Resolves.source_ne_malformed {pipeline : Pipeline} {inquiry : Inquiry} {query : Query}
    {resolution : Resolution} (resolves : Resolves pipeline inquiry resolution)
    (first : inquiry.query? = some query) : resolution.source ≠ .malformed := by
  intro malformed
  cases resolves with
  | malformed absent => exact absurd (first.symm.trans absent) nofun
  | passedOn | remembered | refused | blocked | forwarded => contradiction

variable (pipeline : Pipeline) (request : Message) (transport : Transport) (client : IPAddress)
  (ask : Transport → Message → Except Error Message)

/-- Whatever a request is, it is responded to in its own name, and the response is not marked as
truncated before it is sent. -/
theorem isResponseTo_handle (delivered : Bool) :
    let response := (pipeline.handle request transport client ask delivered).2.response
    response.IsResponseTo request ∧ response.flags.truncated = false := by
  unfold handle
  split
  · exact ⟨request.isResponseTo_response _, rfl⟩
  · exact ⟨request.isResponseTo_notImplemented, rfl⟩

theorem delivered_handle (delivered : Bool) :
    (pipeline.handle request transport client ask delivered).2.delivered = delivered := by
  unfold handle
  split <;> rfl

/-- Losing the client changes nothing but whether something is sent. -/
theorem handle_eq_of_lost (delivered other : Bool) :
    pipeline.handle request transport client ask other =
      ((pipeline.handle request transport client ask delivered).1,
        { (pipeline.handle request transport client ask delivered).2 with
          delivered := other }) := by
  unfold handle
  split <;> rfl

/-- A request with a single query gets its response if and only if the machine holds what storing
takes of what is remembered of it, if it is an ordinary query. It is one response, in the request's
own name, and marked as truncated exactly if something was left out of it. The response to an
ordinary query carries the message that the query was resolved to, in whichever way that was, but
for the upper bits of the response code, which need an extension record. Any other request is told
that it is not implemented, and changes nothing. Nothing else depends on whether the response can be
delivered. -/
theorem request_gets_its_response (machine : Machine) (query : Query)
    (single : request.queries = [query]) (delivered : Bool) :
    let resolved := pipeline.resolve request.forwardable transport client ask
    ((∃ handled,
        pipeline.handleOn machine request transport client ask delivered = .ok handled) ↔
      (request.isOrdinaryQuery = true →
        (pipeline.asked request.forwardable).Fits machine resolved.2.write)) ∧
    ∀ handled, pipeline.handleOn machine request transport client ask delivered = .ok handled →
      (∀ sent, handled.2.response.fitted? = some sent →
        handled.2.sent? = (if delivered then some sent else none) ∧
        sent.IsResponseTo request ∧ sent.received.IsResponseTo request ∧
        (sent.flags.truncated = false ↔ sent = handled.2.response)) ∧
      (request.isOrdinaryQuery = true →
        handled.1 = resolved.1 ∧
        handled.2.forwarded =
          (if resolved.2.isForwarded then some (transport, request.forwardable) else none) ∧
        resolved.2.source ≠ .malformed ∧
        Resolves pipeline
          ⟨request.forwardable, transport, client, ask transport request.forwardable⟩
          resolved.2 ∧
        handled.2.response.Carries resolved.2.response ∧
        ((resolved.2.response.edns = none →
            ∀ record ∈ resolved.2.response.additionals, record.isExtension = false) →
          handled.2.response.received.rcode =
            ⟨resolved.2.response.rcode.code &&&
              if resolved.2.response.edns.isSome then 0xfff else 0xf⟩)) ∧
      (request.isOrdinaryQuery = false →
        handled.1 = pipeline ∧ handled.2.forwarded = none ∧
        handled.2.response = { request.responseHead with rcode := .notImplemented } ∧
        handled.2.response.received.rcode = .notImplemented) ∧
      ∀ other,
        pipeline.handleOn machine request transport client ask other =
          .ok (handled.1, { handled.2 with delivered := other }) := by
  intro resolved
  refine ⟨⟨?_, ?_⟩, ?_⟩
  · rintro ⟨handled, goes⟩
    exact (handleOn_eq_ok_iff.1 goes).1
  · intro fits
    exact ⟨_, handleOn_eq_ok_iff.2 ⟨fits, rfl⟩⟩
  intro handled goes
  rcases handleOn_eq_ok_iff.1 goes with ⟨fits, rfl⟩
  refine ⟨?_, ?_, ?_, ?_⟩
  · intro sent fitted
    rcases pipeline.isResponseTo_handle request transport client ask delivered with
      ⟨isResponse, unmarked⟩
    have front := (Message.isFrontOf_of_fitted? fitted).1
    have isSentTo := front.isResponseTo isResponse
    refine ⟨?_, isSentTo, isSentTo.received, Message.unmarked_iff_of_fitted? unmarked fitted⟩
    rw [Handling.sent?, delivered_handle, fitted]
  · intro ordinary
    have resolves : Resolves pipeline
        ⟨request.forwardable, transport, client, ask transport request.forwardable⟩
        resolved.2 := by
      simp only [resolved, resolve_eq_inquire]
      exact resolves_inquire pipeline _
    have carries := request.carries_response resolved.2.response
    have first : request.forwardable.queries.head? = some query := by
      simp [Message.forwardable, single]
    simp only [handle_of_ordinary ordinary]
    exact ⟨rfl, rfl, resolves.source_ne_malformed first, resolves, carries,
      carries.rcode_received⟩
  · intro extraordinary
    simp only [handle_of_extraordinary extraordinary]
    exact ⟨trivial, trivial, rfl, request.rcode_received_notImplemented⟩
  · intro other
    exact handleOn_eq_ok_iff.2 ⟨fits, handle_eq_of_lost _ _ _ _ _ delivered other⟩

/-- A request for the sample address with its own id and flags. -/
def sampleRequest : Message :=
  { id := 7, flags := { checkingDisabled := true }, queries := [sampleQuery] }

/-- The sample request is responded to from the cache. When the servers fail, it is responded to as
long as the clock can show when the failure expires. -/
theorem cached_request_gets_its_response :
    let handle (pipeline : Pipeline) := pipeline.handleOn { clock := 1000 } sampleRequest .tcp
      sampleInquiry.client (fun _ _ => .error .io) true
    (∃ handled sent template,
      handle ((start {} 1 ∅).after [.resolve sampleInquiry]) = .ok handled ∧
      handled.2.sent? = some sent ∧
      sent.IsResponseTo sampleRequest ∧ sent.flags.truncated = false ∧
      sampleInquiry.outcome = .ok template ∧ sent.answers = template.answers) ∧
    (∃ handled, handle (start { expire := 18446744073709551613 } 1 ∅) = .ok handled) ∧
    handle (start { expire := 18446744073709551614 } 1 ∅) = .error .instant := by
  refine ⟨?_, ?_, rfl⟩
  · rcases ((start {} 1 ∅).after [.resolve sampleInquiry]).request_gets_its_response
      sampleRequest .tcp sampleInquiry.client (fun _ _ => .error .io) { clock := 1000 } sampleQuery
      rfl true with ⟨_, responds⟩
    rcases responds _ rfl with ⟨sends, resolves, _, _⟩
    rcases sends _ rfl with ⟨sent, isResponse, _, unmarked⟩
    have carries := (resolves rfl).2.2.2.2.1
    exact ⟨_, _, _, rfl, sent, isResponse, unmarked.2 rfl, rfl, carries.answers⟩
  · apply ((start { expire := 18446744073709551613 } 1 ∅).request_gets_its_response
      sampleRequest .tcp sampleInquiry.client (fun _ _ => .error .io) { clock := 1000 } sampleQuery
      rfl true).1.2
    rintro _ write written _
    cases written
    refine ⟨?_, fun _ => by decide⟩
    show 1000 + (0 + Config.negativeLifetime { expire := 18446744073709551613 }) < _
    decide

/-- Under a configuration that can be used, a request gets no response at all: the servers failed on
it, and the failure would be remembered beyond the end of the clock. -/
theorem failed_request_gets_no_response :
    let config : Config := { expire := 18446744073709551615 }
    config.validate = .ok () ∧
      (start config 1 ∅).handleOn { clock := 1000 } sampleRequest .udp sampleInquiry.client
        (fun _ _ => .error (.serversExhausted 1)) true = .error .instant :=
  ⟨rfl, rfl⟩

end Pipeline

end DnsFilter
