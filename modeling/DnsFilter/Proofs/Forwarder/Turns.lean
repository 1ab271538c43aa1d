import DnsFilter.Proofs.Forwarder.Failover

/-!
# The turns of a lookup

Which servers a lookup asks, over which transports, and what it takes for an answer. Servers take
turns in the order in which they are listed, each after the one before it failed. In its turn a
server is asked once over each transport at most: over a connection alone if the request came over
one, and otherwise by datagram, and over a connection right after if its answer was truncated.
-/

namespace DnsFilter

namespace Network

variable {network after : Network} {address : SocketAddress} {request : Message}

/-- Whether a server takes requests over a transport. -/
def listens (network : Network) (hit : Hit) : Bool :=
  match hit.transport with
  | .udp => (network.server hit.server).datagramReplies.isSome
  | .tcp => (network.server hit.server).streamReplies.isSome

/-- A server that replaces another one in what it has left to say listens as that one did. -/
theorem listens_put {server : Server}
    (datagrams : server.datagramReplies.isSome =
      (network.server address).datagramReplies.isSome)
    (streams : server.streamReplies.isSome = (network.server address).streamReplies.isSome) :
    (network.put address server).listens = network.listens := by
  funext hit
  by_cases same : hit.server = address
  · cases kind : hit.transport <;> simp [listens, put, kind, same, datagrams, streams]
  · cases kind : hit.transport <;> simp [listens, put, kind, same]

theorem listens_of_sendDatagram {replies : Option (List Datagram)}
    (sent : network.sendDatagram address request = (after, replies)) :
    after.listens = network.listens ∧ network.listens ⟨address, .udp⟩ = replies.isSome := by
  simp only [sendDatagram] at sent
  split at sent
  · next closed =>
      cases sent
      exact ⟨rfl, by simp [listens, closed]⟩
  · next silent =>
      cases sent
      exact ⟨rfl, by simp [listens, silent]⟩
  · next reply later scripted =>
      cases sent
      exact ⟨listens_put (by simp [scripted]) rfl, by simp [listens, scripted]⟩

theorem listens_of_openStream {reply : Option StreamReply}
    (opened : network.openStream address request = (after, reply)) :
    after.listens = network.listens ∧ network.listens ⟨address, .tcp⟩ = reply.isSome := by
  simp only [openStream] at opened
  split at opened
  · next closed =>
      cases opened
      exact ⟨rfl, by simp [listens, closed]⟩
  · next silent =>
      cases opened
      exact ⟨rfl, by simp [listens, silent]⟩
  · next reply later scripted =>
      cases opened
      exact ⟨listens_put rfl (by simp [scripted]), by simp [listens, scripted]⟩

end Network

/-- That the requests of an exchange reach those servers that listen, which stay the same. -/
structure Exchange.IsHeard (exchange : Exchange) (before : Network) : Prop where
  listens : exchange.network.listens = before.listens
  hits : exchange.hits = exchange.asked.filter before.listens

theorem Exchange.IsHeard.again {first second : Exchange} {before : Network}
    (heard : first.IsHeard before) (again : second.IsHeard first.network) :
    (first.followedBy second).IsHeard before where
  listens := again.listens.trans heard.listens
  hits := by
    rw [followedBy, List.filter_append, ← heard.hits, ← heard.listens, ← again.hits]

namespace Forwarder

variable {forwarder : Forwarder} {network : Network} {transport : Transport}
  {server : SocketAddress} {request message : Message} {exchange : Exchange}

theorem ByDatagram.isHeard (attempt : ByDatagram forwarder network server request exchange) :
    exchange.IsHeard network := by
  cases attempt with
  | unencodable => exact ⟨rfl, rfl⟩
  | refused _ refused =>
      rcases Network.listens_of_sendDatagram refused with ⟨same, deaf⟩
      exact ⟨same, by simp [deaf]⟩
  | answered _ replied | timedOut _ replied =>
      rcases Network.listens_of_sendDatagram replied with ⟨same, listens⟩
      exact ⟨same, by simp [Forwarder.timedOut, listens]⟩

theorem ByStream.isHeard (attempt : ByStream forwarder network server request exchange) :
    exchange.IsHeard network := by
  cases attempt with
  | unencodable => exact ⟨rfl, rfl⟩
  | refused _ refused =>
      rcases Network.listens_of_openStream refused with ⟨same, deaf⟩
      exact ⟨same, by simp [deaf]⟩
  | closed _ replied | framed _ replied | timedOut _ replied =>
      rcases Network.listens_of_openStream replied with ⟨same, listens⟩
      exact ⟨same, by simp [Forwarder.timedOut, listens]⟩

theorem isHeard_ask (forwarder : Forwarder) (network : Network) (transport : Transport)
    (server : SocketAddress) (request : Message) :
    (forwarder.ask network transport server request).IsHeard network := by
  have first := (byDatagram_askByDatagram forwarder network server request).isHeard
  cases transport with
  | tcp => exact (byStream_askByStream forwarder network server request).isHeard
  | udp =>
      simp only [ask]
      split
      · exact first
      · split
        · exact first.again (byStream_askByStream forwarder _ server request).isHeard
        · exact first

/-- The answer of a server by datagram: the first datagram in time that is a message under the id
of the request. -/
def datagramAnswer? (forwarder : Forwarder) (network : Network) (server : SocketAddress)
    (request : Message) : Option Message := do
  let sent ← request.transmitted?
  let datagrams ← (network.sendDatagram server sent).2
  datagrams.findSome? fun datagram =>
    datagram.content.filter fun message =>
      datagram.delay < forwarder.timeout ∧ message.id = request.id

theorem findSome?_datagrams (request : Message) (timeout : Nat) (datagrams : List Datagram) :
    (datagrams.findSome? fun datagram =>
        datagram.content.filter fun message =>
          datagram.delay < timeout ∧ message.id = request.id) =
      (answerIn? request timeout datagrams).map Prod.fst := by
  induction datagrams with
  | nil => rfl
  | cons datagram later ih =>
      rw [answerIn?] at ih ⊢
      rw [List.findSome?_cons, List.find?_cons, ih]
      cases content : datagram.content with
      | none => simp [isAnswer, content]
      | some message =>
          by_cases accepted : datagram.delay < timeout ∧ message.id = request.id
          · simp [isAnswer, content, Option.filter_some, accepted]
          · have passed : isAnswer request timeout datagram = false := by
              simpa [isAnswer, content] using accepted
            simp [passed, Option.filter_some, accepted]

theorem ByDatagram.outcome (attempt : ByDatagram forwarder network server request exchange) :
    exchange.outcome.toOption = forwarder.datagramAnswer? network server request := by
  unfold datagramAnswer?
  cases attempt with
  | unencodable unsent => simp [unsent, Except.toOption]
  | refused encoded refused => simp [encoded, refused, Except.toOption]
  | answered encoded replied found =>
      simp only [encoded, replied, Option.bind_eq_bind, Option.bind_some, findSome?_datagrams,
        found]
      rfl
  | timedOut encoded replied missing =>
      simp only [encoded, replied, Option.bind_eq_bind, Option.bind_some, findSome?_datagrams,
        missing]
      rfl

/-- The requests that a server is sent when its answer by datagram is as given. -/
def course (server : SocketAddress) (answer : Option Message) : Transport → List Network.Hit
  | .tcp => [⟨server, .tcp⟩]
  | .udp =>
      if answer.any fun message => message.flags.truncated then
        [⟨server, .udp⟩, ⟨server, .tcp⟩]
      else [⟨server, .udp⟩]

theorem ByDatagram.asked (attempt : ByDatagram forwarder network server request exchange) :
    exchange.asked = if request.transmitted?.isSome then [⟨server, .udp⟩] else [] := by
  cases attempt with
  | unencodable unsent => simp [unsent]
  | refused encoded | answered encoded | timedOut encoded =>
      simp [Forwarder.timedOut, encoded]

theorem ByStream.asked (attempt : ByStream forwarder network server request exchange) :
    exchange.asked = if request.transmitted?.isSome then [⟨server, .tcp⟩] else [] := by
  cases attempt with
  | unencodable unsent => simp [unsent]
  | refused encoded | closed encoded | framed encoded | timedOut encoded =>
      simp [Forwarder.timedOut, encoded]

/-- A server is sent a request that can be encoded, and no other. -/
theorem asked_ask (forwarder : Forwarder) (network : Network) (transport : Transport)
    (server : SocketAddress) (request : Message) :
    (forwarder.ask network transport server request).asked =
      if request.transmitted?.isSome then
        course server (forwarder.datagramAnswer? network server request) transport
      else [] := by
  have first := byDatagram_askByDatagram forwarder network server request
  cases transport with
  | tcp => exact (byStream_askByStream forwarder network server request).asked
  | udp =>
      rw [← first.outcome]
      simp only [ask]
      cases outcome : (forwarder.askByDatagram network server request).outcome with
      | error error => simp [first.asked, course, Except.toOption]
      | ok message =>
          have second := byStream_askByStream forwarder
            (forwarder.askByDatagram network server request).network server request
          cases truncated : message.flags.truncated with
          | false => simp [first.asked, course, Except.toOption, truncated]
          | true =>
              cases encodable : request.transmitted?.isSome <;>
                simp [first.asked, second.asked, course, Except.toOption, truncated, encodable]

/-- What comes of asking by datagram is the answer, or what comes of asking again over a connection
if the answer is truncated. -/
theorem outcome_ask_udp (forwarder : Forwarder) (network : Network) (server : SocketAddress)
    (request : Message) :
    match forwarder.datagramAnswer? network server request with
    | none => ∃ error, (forwarder.ask network .udp server request).outcome = .error error
    | some answer =>
        (forwarder.ask network .udp server request).outcome =
          if answer.flags.truncated then
            (forwarder.askByStream (forwarder.askByDatagram network server request).network server
              request).outcome
          else .ok answer := by
  have first := byDatagram_askByDatagram forwarder network server request
  rw [← first.outcome]
  simp only [ask]
  cases outcome : (forwarder.askByDatagram network server request).outcome with
  | error error => exact ⟨error, outcome⟩
  | ok message =>
      cases truncated : message.flags.truncated <;> simp [Except.toOption, outcome, truncated]

theorem Yields.id_eq (yields : forwarder.Yields network server request transport message) :
    message.id = request.id := by
  cases yields with
  | datagram _ _ first =>
      rcases first with ⟨_, _, _, _, _, answers⟩
      exact answers.sameId
  | retried _ _ _ _ _ _ sameId | stream _ _ _ sameId => exact sameId

/-- A server's turn in a lookup: the network that it is asked in, and what comes of it. -/
structure Turn where
  server : SocketAddress
  network : Network
  exchange : Exchange

/-- The turn of a server that is asked in a network. -/
def turn (forwarder : Forwarder) (transport : Transport) (request : Message) (network : Network)
    (server : SocketAddress) : Turn :=
  { server, network, exchange := forwarder.ask network transport server request }

/-- The turns of servers that are asked in order until one of them produces a message. -/
def turns (forwarder : Forwarder) (transport : Transport) (request : Message) :
    List SocketAddress → Network → List Turn
  | [], _ => []
  | server :: later, network =>
      let turn := forwarder.turn transport request network server
      turn ::
        match turn.exchange.outcome with
        | .ok _ => []
        | .error _ => forwarder.turns transport request later turn.exchange.network

theorem turns_cons_of_ok {later : List SocketAddress}
    (succeeded : (forwarder.ask network transport server request).outcome = .ok message) :
    forwarder.turns transport request (server :: later) network =
      [forwarder.turn transport request network server] := by
  simp [turns, turn, succeeded]

theorem turns_cons_of_error {later : List SocketAddress} {error : Error}
    (failed : (forwarder.ask network transport server request).outcome = .error error) :
    forwarder.turns transport request (server :: later) network =
      forwarder.turn transport request network server ::
        forwarder.turns transport request later
          (forwarder.ask network transport server request).network := by
  simp [turns, turn, failed]

theorem askInTurn_cons_of_error {later : List SocketAddress} {error : Error}
    (failed : (forwarder.ask network transport server request).outcome = .error error) :
    forwarder.askInTurn transport request (server :: later) network =
      (forwarder.ask network transport server request).followedBy
        (forwarder.askInTurn transport request later
          (forwarder.ask network transport server request).network) := by
  have fault := (isAttempt_ask forwarder network transport server request).transport error failed
  simp only [askInTurn, failed, fault, if_true, Exchange.followedBy]

theorem asked_askInTurn (forwarder : Forwarder) (transport : Transport) (request : Message)
    (servers : List SocketAddress) (network : Network) :
    (forwarder.askInTurn transport request servers network).asked =
      (forwarder.turns transport request servers network).flatMap
        fun turn => turn.exchange.asked := by
  induction servers generalizing network with
  | nil => rfl
  | cons server later ih =>
      cases outcome : (forwarder.ask network transport server request).outcome with
      | ok message =>
          rw [askInTurn_cons_of_ok outcome, turns_cons_of_ok outcome]
          exact (List.append_nil _).symm
      | error error =>
          rw [askInTurn_cons_of_error outcome, turns_cons_of_error outcome, List.flatMap_cons, ← ih]
          rfl

theorem isHeard_askInTurn (forwarder : Forwarder) (transport : Transport) (request : Message)
    (servers : List SocketAddress) (network : Network) :
    (forwarder.askInTurn transport request servers network).IsHeard network := by
  induction servers generalizing network with
  | nil => exact ⟨rfl, rfl⟩
  | cons server later ih =>
      have first := isHeard_ask forwarder network transport server request
      cases outcome : (forwarder.ask network transport server request).outcome with
      | ok message =>
          rw [askInTurn_cons_of_ok outcome]
          exact first
      | error error =>
          rw [askInTurn_cons_of_error outcome]
          exact first.again (ih _)

theorem turns_getElem?_zero (servers : List SocketAddress) (network : Network) :
    (forwarder.turns transport request servers network)[0]? =
      servers[0]?.map (forwarder.turn transport request network) := by
  cases servers <;> rfl

/-- Each turn is that of the server at its place. It ends the lookup if it produces a message, and
otherwise it is followed by that of the next server, in the network that it leaves. -/
theorem turn_at_place {servers : List SocketAddress} {place : Nat} {turn : Turn}
    (found : (forwarder.turns transport request servers network)[place]? = some turn) :
    servers[place]? = some turn.server ∧
      turn = forwarder.turn transport request turn.network turn.server ∧
      match turn.exchange.outcome with
      | .ok message =>
          (forwarder.turns transport request servers network).length = place + 1 ∧
            (forwarder.askInTurn transport request servers network).outcome = .ok message
      | .error _ =>
          (forwarder.turns transport request servers network)[place + 1]? =
            servers[place + 1]?.map (forwarder.turn transport request turn.exchange.network) := by
  induction servers generalizing network place with
  | nil => contradiction
  | cons server later ih =>
      cases outcome : (forwarder.ask network transport server request).outcome with
      | ok message =>
          rw [turns_cons_of_ok outcome] at found ⊢
          rw [askInTurn_cons_of_ok outcome]
          cases place with
          | zero =>
              cases found
              simp [Forwarder.turn, outcome]
          | succ place => contradiction
      | error error =>
          rw [turns_cons_of_error outcome] at found ⊢
          rw [askInTurn_cons_of_error outcome]
          cases place with
          | zero =>
              cases found
              simp [Forwarder.turn, outcome, turns_getElem?_zero]
          | succ place =>
              -- The turns after a failure are those of the later servers in what it leaves.
              rcases ih found with ⟨listed, same, after⟩
              refine ⟨listed, same, ?_⟩
              cases ended : turn.exchange.outcome with
              | ok message =>
                  rw [ended] at after
                  exact ⟨congrArg (· + 1) after.1, after.2⟩
              | error error =>
                  rw [ended] at after
                  exact after

theorem nodup_course (server : SocketAddress) (answer : Option Message) (transport : Transport) :
    (course server answer transport).Nodup := by
  cases transport with
  | tcp => simp [course]
  | udp =>
      simp only [course]
      split <;> simp

theorem server_of_mem_course {answer : Option Message} {hit : Network.Hit}
    (member : hit ∈ course server answer transport) : hit.server = server := by
  cases transport with
  | tcp => rw [List.mem_singleton.1 member]
  | udp =>
      simp only [course] at member
      split at member
      · simp only [List.mem_cons, List.not_mem_nil, or_false] at member
        rcases member with rfl | rfl <;> rfl
      · rw [List.mem_singleton.1 member]

/-- In its turn a server is asked at most once over each transport, and no other server is. -/
theorem count_course_le (server : SocketAddress) (answer : Option Message) (transport : Transport)
    (hit : Network.Hit) :
    (course server answer transport).count hit ≤ [server].count hit.server := by
  by_cases same : hit.server = server
  · rw [same, List.count_singleton_self]
    exact List.nodup_iff_count.1 (nodup_course server answer transport) hit
  · have absent : hit ∉ course server answer transport := fun member =>
      same (server_of_mem_course member)
    rw [List.count_eq_zero.2 absent]
    exact Nat.zero_le _

theorem count_asked_ask_le (forwarder : Forwarder) (network : Network) (transport : Transport)
    (server : SocketAddress) (request : Message) (hit : Network.Hit) :
    (forwarder.ask network transport server request).asked.count hit ≤
      [server].count hit.server := by
  rw [asked_ask]
  split
  · exact count_course_le server _ transport hit
  · exact Nat.zero_le _

/-- A server is asked over a transport at most as often as it is listed. -/
theorem count_asked_askInTurn_le (forwarder : Forwarder) (transport : Transport)
    (request : Message) (servers : List SocketAddress) (network : Network) (hit : Network.Hit) :
    (forwarder.askInTurn transport request servers network).asked.count hit ≤
      servers.count hit.server := by
  induction servers generalizing network with
  | nil => exact Nat.zero_le _
  | cons server later ih =>
      have first := count_asked_ask_le forwarder network transport server request hit
      rw [← List.singleton_append, List.count_append]
      cases outcome : (forwarder.ask network transport server request).outcome with
      | ok message =>
          rw [List.singleton_append, askInTurn_cons_of_ok outcome]
          exact Nat.le_add_right_of_le first
      | error error =>
          rw [List.singleton_append, askInTurn_cons_of_error outcome, Exchange.followedBy,
            List.count_append]
          exact Nat.add_le_add first (ih _)

theorem transport_of_mem_asked_askInTurn {servers : List SocketAddress} {hit : Network.Hit}
    (asked : hit ∈ (forwarder.askInTurn .tcp request servers network).asked) :
    hit.transport = .tcp := by
  rw [asked_askInTurn, List.mem_flatMap] at asked
  rcases asked with ⟨turn, taken, asked⟩
  rcases List.mem_iff_getElem?.1 taken with ⟨place, found⟩
  rw [(turn_at_place found).2.1, Forwarder.turn, asked_ask] at asked
  split at asked
  · rw [List.mem_singleton.1 asked]
  · contradiction

theorem id_eq_of_lookup
    (succeeded : (forwarder.lookup network transport request).outcome = .ok message) :
    message.id = request.id := by
  rcases lookup_eq_ok_iff.1 succeeded with ⟨_, _, _, _, _, _, _, answered⟩
  exact (ask_eq_ok_iff.1 answered).id_eq

/-- A lookup returns a message under the id of its request only. It asks the servers in their turns,
and over each transport at most as often as they are listed; a lookup over a connection asks over
connections alone. In its turn a server is asked as its answer by datagram calls for, and what comes
of its turn is that answer, or what it says over the connection if the answer is truncated. A turn
that fails is followed by that of the next server. -/
theorem lookup_goes_by_turns (forwarder : Forwarder) (network : Network) (transport : Transport)
    (request : Message) :
    let exchange := forwarder.lookup network transport request
    let turns := forwarder.turns transport request forwarder.servers network
    (∀ message, exchange.outcome = .ok message → message.id = request.id) ∧
    (exchange.asked = turns.flatMap fun turn => turn.exchange.asked) ∧
    exchange.hits = exchange.asked.filter network.listens ∧
    (∀ hit, exchange.asked.count hit ≤ forwarder.servers.count hit.server) ∧
    (transport = .tcp → ∀ hit ∈ exchange.asked, hit.transport = .tcp) ∧
    turns[0]? = forwarder.servers[0]?.map (forwarder.turn transport request network) ∧
    ∀ place turn, turns[place]? = some turn →
      let answer := forwarder.datagramAnswer? turn.network turn.server request
      forwarder.servers[place]? = some turn.server ∧
      turn = forwarder.turn transport request turn.network turn.server ∧
      turn.exchange.asked =
        (if request.transmitted?.isSome then course turn.server answer transport else []) ∧
      (transport = .udp →
        match answer with
        | none => ∃ error, turn.exchange.outcome = .error error
        | some first =>
            turn.exchange.outcome =
              if first.flags.truncated then
                (forwarder.askByStream
                  (forwarder.askByDatagram turn.network turn.server request).network
                  turn.server request).outcome
              else .ok first) ∧
      match turn.exchange.outcome with
      | .ok message => turns.length = place + 1 ∧ exchange.outcome = .ok message
      | .error _ =>
          turns[place + 1]? = forwarder.servers[place + 1]?.map
            (forwarder.turn transport request turn.exchange.network) := by
  intro exchange turns
  refine ⟨fun message => id_eq_of_lookup, asked_askInTurn .., (isHeard_askInTurn ..).hits,
    count_asked_askInTurn_le forwarder transport request _ network, ?_, turns_getElem?_zero .., ?_⟩
  · rintro rfl hit asked
    exact transport_of_mem_asked_askInTurn asked
  · intro place turn found
    rcases turn_at_place found with ⟨listed, same, after⟩
    have asks : turn.exchange = forwarder.ask turn.network transport turn.server request :=
      congrArg Turn.exchange same
    refine ⟨listed, same, ?_, ?_, after⟩
    · rw [asks]
      exact asked_ask ..
    · rintro rfl
      rw [asks]
      exact outcome_ask_udp ..

/-- Of the servers of the default configuration, the first one cuts its answer by datagram short and
takes no connections, and the second one answers. -/
def cuttingNetwork : Network :=
  (Network.unreachable.put (.v4 ⟨8, 8, 8, 8⟩ 53)
    { datagramReplies := some [fun request =>
        [{ content := some { id := request.id, flags := { truncated := true } } }]]
      streamReplies := none }).put (.v4 ⟨8, 8, 4, 4⟩ 53)
    { datagramReplies := some [fun request => [{ content := some { id := request.id } }]]
      streamReplies := none }

theorem cut_lookup_goes_by_turns :
    let forwarder : Forwarder := ⟨Config.default.servers, 5000⟩
    let exchange := forwarder.lookup cuttingNetwork .udp { id := 7 }
    exchange.asked =
      [⟨.v4 ⟨8, 8, 8, 8⟩ 53, .udp⟩, ⟨.v4 ⟨8, 8, 8, 8⟩ 53, .tcp⟩, ⟨.v4 ⟨8, 8, 4, 4⟩ 53, .udp⟩] ∧
    exchange.hits = [⟨.v4 ⟨8, 8, 8, 8⟩ 53, .udp⟩, ⟨.v4 ⟨8, 8, 4, 4⟩ 53, .udp⟩] ∧
    ∃ message, exchange.outcome = .ok message ∧ message.id = 7 := by
  have overall := lookup_goes_by_turns ⟨Config.default.servers, 5000⟩ cuttingNetwork .udp
    { id := 7 }
  exact ⟨rfl, overall.2.2.1, _, rfl, overall.1 _ rfl⟩

end Forwarder

end DnsFilter
