import DnsFilter.Forwarder.Lookup

/-!
# Exchanges with a server

What one attempt at a server can come to. It reaches no other server, and whatever goes wrong in it
is laid to the transport. It succeeds if and only if the server brings a whole message under the id
of the request in time.
-/

namespace DnsFilter

namespace Network

variable {network after : Network} {address other : SocketAddress} {request : Message}

theorem server_put_of_ne (different : other ≠ address) (network : Network) (server : Server) :
    (network.put address server).server other = network.server other :=
  if_neg different

/-- A datagram changes nothing but the server that it is sent to. -/
theorem server_of_sendDatagram {replies : Option (List Datagram)}
    (sent : network.sendDatagram address request = (after, replies))
    (different : other ≠ address) : after.server other = network.server other := by
  simp only [sendDatagram] at sent
  split at sent
  · cases sent
    rfl
  · cases sent
    rfl
  · cases sent
    exact server_put_of_ne different network _

/-- A connection changes nothing but the server that it is opened to. -/
theorem server_of_openStream {reply : Option StreamReply}
    (opened : network.openStream address request = (after, reply))
    (different : other ≠ address) : after.server other = network.server other := by
  simp only [openStream] at opened
  split at opened
  · cases opened
    rfl
  · cases opened
    rfl
  · cases opened
    exact server_put_of_ne different network _

end Network

/-- Two exchanges, one after the other, as one that comes to what the second one comes to. -/
def Exchange.followedBy (first second : Exchange) : Exchange :=
  { second with
    asked := first.asked ++ second.asked
    hits := first.hits ++ second.hits
    elapsed := first.elapsed + second.elapsed }

/-- That an exchange is an attempt at one server: it reaches no other, and it can only fail as
transport does. -/
structure Exchange.IsAttempt (exchange : Exchange) (before : Network) (server : SocketAddress) :
    Prop where
  reached : ∀ hit ∈ exchange.hits, hit.server = server
  others : ∀ other, other ≠ server → exchange.network.server other = before.server other
  transport : ∀ error, exchange.outcome = .error error → error.isTransport = true

/-- Two attempts at the same server, one after the other, are an attempt at it. -/
theorem Exchange.IsAttempt.again {first second : Exchange} {before : Network}
    {server : SocketAddress} (attempt : first.IsAttempt before server)
    (again : second.IsAttempt first.network server) :
    (first.followedBy second).IsAttempt before server where
  reached := by
    intro hit member
    rcases List.mem_append.1 member with early | late
    · exact attempt.reached hit early
    · exact again.reached hit late
  others := by
    intro other different
    rw [followedBy, again.others other different, attempt.others other different]
  transport := again.transport

namespace Forwarder

variable {forwarder : Forwarder} {network : Network} {server : SocketAddress}
  {request message : Message} {exchange : Exchange}

/-- The ways in which asking by datagram can go. -/
inductive ByDatagram (forwarder : Forwarder) (network : Network) (server : SocketAddress)
    (request : Message) : Exchange → Prop where
  | unencodable (unsent : request.transmitted? = none) :
      ByDatagram forwarder network server request { outcome := .error .malformedMessage, network }
  | refused {sent : Message} {after : Network} (encoded : request.transmitted? = some sent)
      (refused : network.sendDatagram server sent = (after, none)) :
      ByDatagram forwarder network server request
        { outcome := .error .io, network := after, asked := [⟨server, .udp⟩] }
  | answered {sent message : Message} {after : Network} {datagrams : List Datagram} {delay : Nat}
      (encoded : request.transmitted? = some sent)
      (replied : network.sendDatagram server sent = (after, some datagrams))
      (found : answerIn? request forwarder.timeout datagrams = some (message, delay)) :
      ByDatagram forwarder network server request
        { outcome := .ok message
          network := after
          asked := [⟨server, .udp⟩]
          hits := [⟨server, .udp⟩]
          elapsed := delay }
  | timedOut {sent : Message} {after : Network} {datagrams : List Datagram}
      (encoded : request.transmitted? = some sent)
      (replied : network.sendDatagram server sent = (after, some datagrams))
      (missing : answerIn? request forwarder.timeout datagrams = none) :
      ByDatagram forwarder network server request
        (forwarder.timedOut server after [⟨server, .udp⟩])

theorem byDatagram_askByDatagram (forwarder : Forwarder) (network : Network)
    (server : SocketAddress) (request : Message) :
    ByDatagram forwarder network server request
      (forwarder.askByDatagram network server request) := by
  unfold askByDatagram
  split
  · next unsent => exact .unencodable unsent
  · next sent encoded =>
      split
      · next after refused => exact .refused encoded refused
      · next after datagrams replied =>
          dsimp only
          split
          · next message delay found => exact .answered encoded replied found
          · next missing => exact .timedOut encoded replied missing

theorem ByDatagram.isAttempt (attempt : ByDatagram forwarder network server request exchange) :
    exchange.IsAttempt network server := by
  cases attempt with
  | unencodable =>
      refine ⟨by simp, fun _ _ => rfl, ?_⟩
      intro error failed
      cases failed
      rfl
  | refused _ refused =>
      refine ⟨by simp, fun _ => Network.server_of_sendDatagram refused, ?_⟩
      intro error failed
      cases failed
      rfl
  | answered _ replied =>
      refine ⟨by simp, fun _ => Network.server_of_sendDatagram replied, ?_⟩
      intro error failed
      contradiction
  | timedOut _ replied =>
      refine ⟨by simp [Forwarder.timedOut], fun _ => Network.server_of_sendDatagram replied, ?_⟩
      intro error failed
      cases failed
      rfl

/-- The ways in which asking over a connection can go. -/
inductive ByStream (forwarder : Forwarder) (network : Network) (server : SocketAddress)
    (request : Message) : Exchange → Prop where
  | unencodable (unsent : request.transmitted? = none) :
      ByStream forwarder network server request { outcome := .error .malformedMessage, network }
  | refused {sent : Message} {after : Network} (encoded : request.transmitted? = some sent)
      (refused : network.openStream server sent = (after, none)) :
      ByStream forwarder network server request
        { outcome := .error .io, network := after, asked := [⟨server, .tcp⟩] }
  | closed {sent : Message} {after : Network} (encoded : request.transmitted? = some sent)
      (replied : network.openStream server sent = (after, some .closed)) :
      ByStream forwarder network server request
        { outcome := .error .io
          network := after
          asked := [⟨server, .tcp⟩]
          hits := [⟨server, .tcp⟩] }
  | framed {sent : Message} {after : Network} {delay : Nat} {content : Option Message}
      (encoded : request.transmitted? = some sent)
      (replied : network.openStream server sent = (after, some (.frame delay content)))
      (inTime : delay < forwarder.timeout) :
      ByStream forwarder network server request
        { outcome := checkFrame server request content
          network := after
          asked := [⟨server, .tcp⟩]
          hits := [⟨server, .tcp⟩]
          elapsed := delay }
  | timedOut {sent : Message} {after : Network} {reply : StreamReply}
      (encoded : request.transmitted? = some sent)
      (replied : network.openStream server sent = (after, some reply)) :
      ByStream forwarder network server request (forwarder.timedOut server after [⟨server, .tcp⟩])

theorem byStream_askByStream (forwarder : Forwarder) (network : Network)
    (server : SocketAddress) (request : Message) :
    ByStream forwarder network server request (forwarder.askByStream network server request) := by
  unfold askByStream
  split
  · next unsent => exact .unencodable unsent
  · next sent encoded =>
      split
      · next after refused => exact .refused encoded refused
      · next after reply replied =>
          dsimp only
          split
          · exact .timedOut encoded replied
          · exact .closed encoded replied
          · split
            · next inTime => exact .framed encoded replied inTime
            · exact .timedOut encoded replied

theorem isTransport_of_checkFrame {content : Option Message} {error : Error}
    (failed : checkFrame server request content = .error error) : error.isTransport = true := by
  unfold checkFrame at failed
  split at failed
  · cases failed
    rfl
  · split at failed
    · contradiction
    · cases failed
      rfl

theorem ByStream.isAttempt (attempt : ByStream forwarder network server request exchange) :
    exchange.IsAttempt network server := by
  cases attempt with
  | unencodable =>
      refine ⟨by simp, fun _ _ => rfl, ?_⟩
      intro error failed
      cases failed
      rfl
  | refused _ replied | closed _ replied =>
      refine ⟨by simp, fun _ => Network.server_of_openStream replied, ?_⟩
      intro error failed
      cases failed
      rfl
  | framed _ replied =>
      refine ⟨by simp, fun _ => Network.server_of_openStream replied, ?_⟩
      intro error failed
      exact isTransport_of_checkFrame failed
  | timedOut _ replied =>
      refine ⟨by simp [Forwarder.timedOut], fun _ => Network.server_of_openStream replied, ?_⟩
      intro error failed
      cases failed
      rfl

/-- Whatever a server does, asking it reaches no other server, and only fails as transport does. -/
theorem isAttempt_ask (forwarder : Forwarder) (network : Network) (transport : Transport)
    (server : SocketAddress) (request : Message) :
    (forwarder.ask network transport server request).IsAttempt network server := by
  have first := (byDatagram_askByDatagram forwarder network server request).isAttempt
  cases transport with
  | tcp => exact (byStream_askByStream forwarder network server request).isAttempt
  | udp =>
      simp only [ask]
      split
      · exact first
      · split
        · exact first.again (byStream_askByStream forwarder _ server request).isAttempt
        · exact first

/-- That a datagram answers a request with a message: it comes in time, and it is that message,
under the id of the request. -/
structure Answers (request : Message) (timeout : Nat) (datagram : Datagram) (message : Message) :
    Prop where
  inTime : datagram.delay < timeout
  content : datagram.content = some message
  sameId : message.id = request.id

/-- That a message is in the first of several datagrams that answers a request. -/
def AnswersFirst (request : Message) (timeout : Nat) (datagrams : List Datagram)
    (message : Message) : Prop :=
  ∃ front datagram back, datagrams = front ++ datagram :: back ∧
    (∀ earlier ∈ front, ∀ other, ¬Answers request timeout earlier other) ∧
    Answers request timeout datagram message

theorem isAnswer_iff {timeout : Nat} {datagram : Datagram} :
    isAnswer request timeout datagram = true ↔
      ∃ message, Answers request timeout datagram message := by
  simp only [isAnswer, Bool.and_eq_true, decide_eq_true_eq, Option.any_eq_true, beq_iff_eq]
  constructor
  · rintro ⟨inTime, message, content, sameId⟩
    exact ⟨message, inTime, content, sameId⟩
  · rintro ⟨message, inTime, content, sameId⟩
    exact ⟨inTime, message, content, sameId⟩

theorem answersFirst_iff {timeout : Nat} {datagrams : List Datagram} :
    AnswersFirst request timeout datagrams message ↔
      ∃ delay, answerIn? request timeout datagrams = some (message, delay) := by
  simp only [answerIn?, Option.bind_eq_some_iff, Option.map_eq_some_iff, Prod.mk.injEq,
    List.find?_eq_some_iff_append, Bool.not_eq_true', ← Bool.not_eq_true, isAnswer_iff,
    not_exists]
  constructor
  · rintro ⟨front, datagram, back, split, passed, answers⟩
    exact ⟨datagram.delay, datagram, ⟨⟨message, answers⟩, front, back, split, passed⟩, message,
      answers.content, rfl, rfl⟩
  · rintro ⟨_, datagram, ⟨⟨other, answers⟩, front, back, split, passed⟩, _, content, rfl, _⟩
    cases answers.content.symm.trans content
    exact ⟨front, datagram, back, split, passed, answers⟩

/-- What makes the exchange with a server yield a message: a datagram in time that is not truncated,
or a frame in time, which is asked for at once or after a truncated datagram. -/
inductive Yields (forwarder : Forwarder) (network : Network) (server : SocketAddress)
    (request : Message) : Transport → Message → Prop where
  | datagram {sent message : Message} {after : Network} {datagrams : List Datagram}
      (encoded : request.transmitted? = some sent)
      (replied : network.sendDatagram server sent = (after, some datagrams))
      (first : AnswersFirst request forwarder.timeout datagrams message)
      (whole : message.flags.truncated = false) :
      Yields forwarder network server request .udp message
  | retried {sent cut message : Message} {between after : Network} {datagrams : List Datagram}
      {delay : Nat} (encoded : request.transmitted? = some sent)
      (replied : network.sendDatagram server sent = (between, some datagrams))
      (first : AnswersFirst request forwarder.timeout datagrams cut)
      (truncated : cut.flags.truncated = true)
      (framed : between.openStream server sent = (after, some (.frame delay (some message))))
      (inTime : delay < forwarder.timeout) (sameId : message.id = request.id) :
      Yields forwarder network server request .udp message
  | stream {sent message : Message} {after : Network} {delay : Nat}
      (encoded : request.transmitted? = some sent)
      (framed : network.openStream server sent = (after, some (.frame delay (some message))))
      (inTime : delay < forwarder.timeout) (sameId : message.id = request.id) :
      Yields forwarder network server request .tcp message

theorem checkFrame_eq_ok_iff {content : Option Message} :
    checkFrame server request content = .ok message ↔
      content = some message ∧ message.id = request.id := by
  cases content with
  | none => simp [checkFrame]
  | some found =>
      by_cases sameId : found.id = request.id
      · simp only [checkFrame, sameId, if_true, Except.ok.injEq, Option.some.injEq, iff_self_and]
        rintro rfl
        exact sameId
      · simp only [checkFrame, sameId, if_false, reduceCtorEq, Option.some.injEq, false_iff,
          not_and]
        rintro rfl
        exact sameId

theorem ByStream.yields (attempt : ByStream forwarder network server request exchange)
    (succeeded : exchange.outcome = .ok message) :
    ∃ sent after delay, request.transmitted? = some sent ∧
      network.openStream server sent = (after, some (.frame delay (some message))) ∧
      delay < forwarder.timeout ∧ message.id = request.id := by
  cases attempt with
  | unencodable | refused | closed | timedOut => contradiction
  | framed encoded replied inTime =>
      rcases checkFrame_eq_ok_iff.1 succeeded with ⟨rfl, sameId⟩
      exact ⟨_, _, _, encoded, replied, inTime, sameId⟩

theorem askByStream_of_frame {sent : Message} {after : Network} {delay : Nat}
    (encoded : request.transmitted? = some sent)
    (framed : network.openStream server sent = (after, some (.frame delay (some message))))
    (inTime : delay < forwarder.timeout) (sameId : message.id = request.id) :
    (forwarder.askByStream network server request).outcome = .ok message := by
  simp only [askByStream, encoded, framed, inTime, if_true]
  exact checkFrame_eq_ok_iff.2 ⟨rfl, sameId⟩

/-- Asking a server succeeds with the messages that the exchange yields. -/
theorem ask_eq_ok_iff {transport : Transport} :
    (forwarder.ask network transport server request).outcome = .ok message ↔
      forwarder.Yields network server request transport message := by
  constructor
  · intro succeeded
    cases transport with
    | tcp =>
        rcases (byStream_askByStream forwarder network server request).yields succeeded with
          ⟨sent, after, delay, encoded, framed, inTime, sameId⟩
        exact .stream encoded framed inTime sameId
    | udp =>
        have first := byDatagram_askByDatagram forwarder network server request
        simp only [ask] at succeeded
        generalize forwarder.askByDatagram network server request = exchange at first succeeded
        cases first with
        | unencodable | refused | timedOut => contradiction
        | @answered sent cut after _ _ encoded replied found =>
            cases truncated : cut.flags.truncated with
            | false =>
                simp only [truncated, Bool.false_eq_true, if_false] at succeeded
                cases succeeded
                exact .datagram encoded replied (answersFirst_iff.2 ⟨_, found⟩) truncated
            | true =>
                simp only [truncated, if_true] at succeeded
                rcases (byStream_askByStream forwarder after server request).yields succeeded with
                  ⟨again, last, delay, encodedAgain, framed, inTime, sameId⟩
                cases encoded.symm.trans encodedAgain
                exact .retried encoded replied (answersFirst_iff.2 ⟨_, found⟩) truncated framed
                  inTime sameId
  · intro yields
    cases yields with
    | datagram encoded replied first whole =>
        rcases answersFirst_iff.1 first with ⟨delay, found⟩
        simp [ask, askByDatagram, encoded, replied, found, whole]
    | retried encoded replied first truncated framed inTime sameId =>
        rcases answersFirst_iff.1 first with ⟨delay, found⟩
        simp only [ask, askByDatagram, encoded, replied, found, truncated, if_true]
        exact askByStream_of_frame encoded framed inTime sameId
    | stream encoded framed inTime sameId =>
        exact askByStream_of_frame encoded framed inTime sameId

end Forwarder

end DnsFilter
