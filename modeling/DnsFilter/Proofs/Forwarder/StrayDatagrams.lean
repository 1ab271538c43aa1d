import DnsFilter.Proofs.Forwarder.Exchange
import DnsFilter.Proofs.Message.Sending

/-!
# Stray datagrams

A datagram that is no message, or a message under another id than that of the request, is passed
over: it is not the answer, and what is the answer, and when it arrives, is the same with and
without it. So two networks whose servers send the same but for such datagrams are the same to a
lookup, and a server that sends nothing else might as well be silent.
-/

namespace DnsFilter

namespace Datagram

/-- Whether a datagram is no message under an id. -/
def isStray (id : UInt16) (datagram : Datagram) : Bool :=
  !datagram.content.any fun message => message.id == id

/-- That datagrams are the same, but for stray ones anywhere among them. -/
inductive SameButStray (id : UInt16) : List Datagram → List Datagram → Prop where
  | nil : SameButStray id [] []
  | both (datagram : Datagram) {first second : List Datagram}
      (rest : SameButStray id first second) :
      SameButStray id (datagram :: first) (datagram :: second)
  | first {datagram : Datagram} {first second : List Datagram} (stray : datagram.isStray id)
      (rest : SameButStray id first second) : SameButStray id (datagram :: first) second
  | second {datagram : Datagram} {first second : List Datagram} (stray : datagram.isStray id)
      (rest : SameButStray id first second) : SameButStray id first (datagram :: second)

namespace SameButStray

variable {id : UInt16} {request : Message} {first second : List Datagram}

theorem refl (id : UInt16) (datagrams : List Datagram) : SameButStray id datagrams datagrams := by
  induction datagrams with
  | nil => exact .nil
  | cons datagram datagrams ih => exact ih.both datagram

/-- Any number of stray datagrams anywhere make no difference. -/
theorem append_strays {strays : List Datagram} (stray : ∀ datagram ∈ strays, datagram.isStray id)
    (before after : List Datagram) :
    SameButStray id (before ++ strays ++ after) (before ++ after) := by
  induction before with
  | nil =>
      induction strays with
      | nil => exact .refl id after
      | cons datagram strays ih =>
          rw [List.forall_mem_cons] at stray
          exact (ih stray.2).first stray.1
  | cons datagram before ih => exact ih.both datagram

theorem isAnswer_of_isStray {datagram : Datagram} (stray : datagram.isStray request.id)
    (timeout : Nat) : Forwarder.isAnswer request timeout datagram = false := by
  rw [isStray, Bool.not_eq_true'] at stray
  rw [Forwarder.isAnswer, stray, Bool.and_false]

/-- The answer is the same, with or without stray datagrams. -/
theorem answerIn?_eq (same : SameButStray request.id first second) (timeout : Nat) :
    Forwarder.answerIn? request timeout first = Forwarder.answerIn? request timeout second := by
  unfold Forwarder.answerIn?
  congr 1
  induction same with
  | nil => rfl
  | both datagram _ ih => rw [List.find?_cons, List.find?_cons, ih]
  | first stray _ ih => rw [List.find?_cons, isAnswer_of_isStray stray, ih]
  | second stray _ ih => rw [List.find?_cons, isAnswer_of_isStray stray, ih]

end SameButStray

end Datagram

namespace Server

/-- The datagrams that come back from a server for the datagram that reaches it in its turn. -/
def datagramsAt (server : Server) (turn : Nat) (request : Message) : List Datagram :=
  match (server.datagramReplies.getD [])[turn]? with
  | some reply => reply request
  | none => []

/-- A server after a datagram has reached it. -/
def afterDatagram (server : Server) : Server :=
  { server with datagramReplies := server.datagramReplies.map List.tail }

theorem afterDatagram_of_mute {server : Server}
    (mute : ∀ replies, server.datagramReplies = some replies → replies = []) :
    server.afterDatagram = server := by
  rcases server with ⟨_ | replies, streams⟩
  · rfl
  · cases mute replies rfl
    rfl

theorem datagramsAt_afterDatagram (server : Server) (turn : Nat) :
    server.afterDatagram.datagramsAt turn = server.datagramsAt (turn + 1) := by
  funext request
  cases scripted : server.datagramReplies <;> simp [datagramsAt, afterDatagram, scripted]

/-- A server that takes datagrams and never answers one. -/
def silenced (server : Server) : Server :=
  { server with datagramReplies := some [] }

/-- That servers do the same, but for stray datagrams that they send for requests under an id. -/
structure SameButStray (id : UInt16) (first second : Server) : Prop where
  streams : first.streamReplies = second.streamReplies
  listens : first.datagramReplies.isSome = second.datagramReplies.isSome
  datagrams : ∀ turn request, request.id = id →
    Datagram.SameButStray id (first.datagramsAt turn request) (second.datagramsAt turn request)

namespace SameButStray

variable {id : UInt16} {first second : Server}

theorem refl (id : UInt16) (server : Server) : SameButStray id server server :=
  ⟨rfl, rfl, fun _ _ _ => .refl id _⟩

theorem afterDatagram (same : SameButStray id first second) :
    SameButStray id first.afterDatagram second.afterDatagram where
  streams := same.streams
  listens := by
    rw [Server.afterDatagram, Server.afterDatagram, Option.isSome_map, Option.isSome_map,
      same.listens]
  datagrams := by
    intro turn request
    rw [datagramsAt_afterDatagram, datagramsAt_afterDatagram]
    exact same.datagrams (turn + 1) request

/-- A server that sends nothing but stray datagrams is the same as a silent one. -/
theorem silenced {server : Server} (listens : server.datagramReplies.isSome)
    (strays : ∀ turn request, request.id = id →
      ∀ datagram ∈ server.datagramsAt turn request, datagram.isStray id) :
    SameButStray id server server.silenced where
  streams := rfl
  listens := listens
  datagrams := by
    intro turn request sameId
    have same := Datagram.SameButStray.append_strays (strays turn request sameId) [] []
    rw [List.append_nil] at same
    exact same

end SameButStray

end Server

namespace Network

/-- That the servers do the same, but for stray datagrams that they send for requests under an id.
-/
def SameButStray (id : UInt16) (first second : Network) : Prop :=
  ∀ address, Server.SameButStray id (first.server address) (second.server address)

theorem put_server (network : Network) (address : SocketAddress) :
    network.put address (network.server address) = network := by
  rw [put]
  congr
  funext other
  split
  · next same => rw [same]
  · rfl

theorem sendDatagram_eq (network : Network) (address : SocketAddress) (request : Message) :
    network.sendDatagram address request =
      let server := network.server address
      (network.put address server.afterDatagram,
        server.datagramReplies.map fun _ => server.datagramsAt 0 request) := by
  simp only [sendDatagram]
  split
  · next closed =>
      rw [Server.afterDatagram_of_mute (by simp [closed]), put_server, closed]
      rfl
  · next silent =>
      rw [Server.afterDatagram_of_mute (by simp [silent]), put_server, silent]
      simp [Server.datagramsAt, silent]
  · next reply later scripted => simp [Server.afterDatagram, Server.datagramsAt, scripted]

namespace SameButStray

variable {id : UInt16} {first second : Network}

theorem put {firstServer secondServer : Server} (same : SameButStray id first second)
    (sameServer : Server.SameButStray id firstServer secondServer) (address : SocketAddress) :
    SameButStray id (first.put address firstServer) (second.put address secondServer) := by
  intro other
  simp only [Network.put]
  split
  · exact sameServer
  · exact same other

/-- A server that only sends stray datagrams may as well be silenced. -/
theorem silenced {network : Network} {address : SocketAddress}
    (listens : (network.server address).datagramReplies.isSome)
    (strays : ∀ turn request, request.id = id →
      ∀ datagram ∈ (network.server address).datagramsAt turn request, datagram.isStray id) :
    SameButStray id network (network.put address (network.server address).silenced) := by
  intro other
  by_cases same : other = address
  · cases same
    simpa [Network.put] using Server.SameButStray.silenced listens strays
  · rw [server_put_of_ne same]
    exact .refl id _

theorem sendDatagram (same : SameButStray id first second) (address : SocketAddress)
    {request : Message} (sameId : request.id = id) :
    SameButStray id (first.sendDatagram address request).1
        (second.sendDatagram address request).1 ∧
      Option.Rel (Datagram.SameButStray id) (first.sendDatagram address request).2
        (second.sendDatagram address request).2 := by
  rw [sendDatagram_eq, sendDatagram_eq]
  have sameServer := same address
  refine ⟨same.put sameServer.afterDatagram address, ?_⟩
  dsimp only
  have listens := sameServer.listens
  cases firstScript : (first.server address).datagramReplies with
  | none =>
      cases secondScript : (second.server address).datagramReplies with
      | none => exact .none
      | some _ => simp [firstScript, secondScript] at listens
  | some _ =>
      cases secondScript : (second.server address).datagramReplies with
      | none => simp [firstScript, secondScript] at listens
      | some _ => exact .some (sameServer.datagrams 0 request sameId)

theorem openStream (same : SameButStray id first second) (address : SocketAddress)
    (request : Message) :
    SameButStray id (first.openStream address request).1 (second.openStream address request).1 ∧
      (first.openStream address request).2 = (second.openStream address request).2 := by
  have sameServer := same address
  simp only [Network.openStream, ← sameServer.streams]
  split
  · exact ⟨same, rfl⟩
  · exact ⟨same, rfl⟩
  · next reply later _ =>
      refine ⟨same.put ?_ address, rfl⟩
      exact ⟨rfl, sameServer.listens, sameServer.datagrams⟩

end SameButStray

end Network

/-- That exchanges come to the same, in networks that are left the same but for stray datagrams. -/
structure Exchange.SameButStray (id : UInt16) (first second : Exchange) : Prop where
  outcome : first.outcome = second.outcome
  asked : first.asked = second.asked
  hits : first.hits = second.hits
  elapsed : first.elapsed = second.elapsed
  network : Network.SameButStray id first.network second.network

theorem Exchange.SameButStray.again {id : UInt16} {first second later laterSecond : Exchange}
    (same : SameButStray id first second) (again : SameButStray id later laterSecond) :
    SameButStray id (first.followedBy later) (second.followedBy laterSecond) where
  outcome := again.outcome
  asked := by rw [followedBy, followedBy, same.asked, again.asked]
  hits := by rw [followedBy, followedBy, same.hits, again.hits]
  elapsed := by rw [followedBy, followedBy, same.elapsed, again.elapsed]
  network := again.network

namespace Forwarder

variable {request : Message} {first second : Network}

theorem id_eq_of_transmitted? {sent : Message} (encoded : request.transmitted? = some sent) :
    sent.id = request.id := by
  rcases Option.map_eq_some_iff.1 encoded with ⟨fitted, fits, rfl⟩
  exact (Message.isFrontOf_of_fitted? fits).1.id

theorem sameButStray_askByDatagram (forwarder : Forwarder)
    (same : Network.SameButStray request.id first second) (server : SocketAddress) :
    Exchange.SameButStray request.id (forwarder.askByDatagram first server request)
      (forwarder.askByDatagram second server request) := by
  unfold askByDatagram
  cases encoded : request.transmitted? with
  | none => exact ⟨rfl, rfl, rfl, rfl, same⟩
  | some sent =>
      dsimp only
      rcases same.sendDatagram server (id_eq_of_transmitted? encoded) with ⟨after, replies⟩
      generalize first.sendDatagram server sent = firstSent at after replies ⊢
      generalize second.sendDatagram server sent = secondSent at after replies ⊢
      rcases firstSent with ⟨firstAfter, firstReplies⟩
      rcases secondSent with ⟨secondAfter, secondReplies⟩
      cases replies with
      | none => exact ⟨rfl, rfl, rfl, rfl, after⟩
      | some datagrams =>
          -- From here on only the answer counts.
          have answers := datagrams.answerIn?_eq forwarder.timeout
          simp only [answers]
          split <;> exact ⟨rfl, rfl, rfl, rfl, after⟩

theorem sameButStray_askByStream (forwarder : Forwarder)
    (same : Network.SameButStray request.id first second) (server : SocketAddress) :
    Exchange.SameButStray request.id (forwarder.askByStream first server request)
      (forwarder.askByStream second server request) := by
  unfold askByStream
  cases encoded : request.transmitted? with
  | none => exact ⟨rfl, rfl, rfl, rfl, same⟩
  | some sent =>
      dsimp only
      rcases same.openStream server sent with ⟨after, sameReply⟩
      generalize first.openStream server sent = firstOpened at after sameReply ⊢
      generalize second.openStream server sent = secondOpened at after sameReply ⊢
      rcases firstOpened with ⟨firstAfter, reply⟩
      rcases secondOpened with ⟨secondAfter, _⟩
      cases sameReply
      rcases reply with _ | _ | _ | ⟨delay, content⟩
      · exact ⟨rfl, rfl, rfl, rfl, after⟩
      · exact ⟨rfl, rfl, rfl, rfl, after⟩
      · exact ⟨rfl, rfl, rfl, rfl, after⟩
      · dsimp only
        split <;> exact ⟨rfl, rfl, rfl, rfl, after⟩

theorem sameButStray_ask (forwarder : Forwarder)
    (same : Network.SameButStray request.id first second) (transport : Transport)
    (server : SocketAddress) :
    Exchange.SameButStray request.id (forwarder.ask first transport server request)
      (forwarder.ask second transport server request) := by
  cases transport with
  | tcp => exact sameButStray_askByStream forwarder same server
  | udp =>
      have once := sameButStray_askByDatagram forwarder same server
      have again := sameButStray_askByStream forwarder once.network server
      simp only [ask, ← once.outcome]
      split
      · exact once
      · split
        · exact once.again again
        · exact once

theorem sameButStray_askInTurn (forwarder : Forwarder)
    (same : Network.SameButStray request.id first second) (transport : Transport)
    (servers : List SocketAddress) :
    Exchange.SameButStray request.id (forwarder.askInTurn transport request servers first)
      (forwarder.askInTurn transport request servers second) := by
  induction servers generalizing first second with
  | nil => exact ⟨rfl, rfl, rfl, rfl, same⟩
  | cons server later ih =>
      have once := sameButStray_ask forwarder same transport server
      simp only [askInTurn, ← once.outcome]
      split
      · exact once
      · split
        · exact once.again (ih once.network)
        · exact once

/-- A lookup comes to the same, and asks the same servers, whatever stray datagrams they send along
with the others, and a server that sends nothing else might as well be silent. -/
theorem stray_datagrams_are_not_noticed (forwarder : Forwarder) (transport : Transport)
    (request : Message) :
    (∀ first second, Network.SameButStray request.id first second →
      Exchange.SameButStray request.id (forwarder.lookup first transport request)
        (forwarder.lookup second transport request)) ∧
    ∀ (network : Network) (address : SocketAddress),
      (network.server address).datagramReplies.isSome →
      (∀ turn sent, sent.id = request.id →
        ∀ datagram ∈ (network.server address).datagramsAt turn sent,
          datagram.isStray request.id) →
      Exchange.SameButStray request.id (forwarder.lookup network transport request)
        (forwarder.lookup (network.put address (network.server address).silenced) transport
          request) := by
  constructor
  · intro first second same
    exact sameButStray_askInTurn forwarder same transport forwarder.servers
  · intro network address listens strays
    exact sameButStray_askInTurn forwarder (.silenced listens strays) transport forwarder.servers

/-- The network in which the first server of the default configuration says something once, and no
other server can be reached. -/
def networkSaying (datagrams : List Datagram) : Network :=
  Network.unreachable.put (.v4 ⟨8, 8, 8, 8⟩ 53)
    { datagramReplies := some [fun _ => datagrams], streamReplies := none }

theorem garbled_and_foreign_datagrams_are_not_noticed :
    let garbled : Datagram := { content := none }
    let foreign : Datagram := { content := some { id := 9, flags := { truncated := true } } }
    let answer : Datagram := { content := some { id := 7 } }
    let lookup (datagrams : List Datagram) :=
      lookup ⟨Config.default.servers, 5000⟩ (networkSaying datagrams) .udp { id := 7 }
    (lookup [garbled, foreign, answer]).outcome = .ok { id := 7 } ∧
    (lookup [garbled, foreign, answer]).asked = [⟨.v4 ⟨8, 8, 8, 8⟩ 53, .udp⟩] ∧
    (lookup [garbled, foreign]).elapsed = 5000 := by
  intro garbled foreign answer
  have overall := stray_datagrams_are_not_noticed ⟨Config.default.servers, 5000⟩ .udp { id := 7 }
  have strays : ∀ datagram ∈ [garbled, foreign], datagram.isStray 7 := by decide
  have same : Network.SameButStray 7 (networkSaying [garbled, foreign, answer])
      (networkSaying [answer]) := by
    apply Network.SameButStray.put (fun _ => .refl 7 _)
    refine ⟨rfl, rfl, ?_⟩
    intro turn request _
    cases turn with
    | zero => exact .append_strays strays [] [answer]
    | succ turn => exact .nil
  have answered := overall.1 _ _ same
  have unanswered := overall.2 (networkSaying [garbled, foreign]) (.v4 ⟨8, 8, 8, 8⟩ 53) rfl (by
    intro turn sent _
    cases turn with
    | zero => exact strays
    | succ turn => exact fun _ absent => absurd absent List.not_mem_nil)
  exact ⟨answered.outcome, answered.asked, unanswered.elapsed⟩

end Forwarder

end DnsFilter
