import DnsFilter.Proofs.Forwarder.Exchange

/-!
# Failing over

Servers are asked in turn as long as they fail, each in the network that the ones before it left. As
a server can only fail as transport does, no failure ends the lookup early: it ends with the first
message, or with all servers exhausted.
-/

namespace DnsFilter

namespace Forwarder

/-- That servers fail one after the other, with the requests that reached them and the network that
they leave. -/
inductive FailInTurn (forwarder : Forwarder) (transport : Transport) (request : Message) :
    Network → List SocketAddress → List Network.Hit → Network → Prop where
  | nil (network : Network) : FailInTurn forwarder transport request network [] [] network
  | cons {network after : Network} {server : SocketAddress} {later : List SocketAddress}
      {hits : List Network.Hit} {error : Error}
      (failed : (forwarder.ask network transport server request).outcome = .error error)
      (fault : error.isTransport = true)
      (rest : FailInTurn forwarder transport request
        (forwarder.ask network transport server request).network later hits after) :
      FailInTurn forwarder transport request network (server :: later)
        ((forwarder.ask network transport server request).hits ++ hits) after

variable {forwarder : Forwarder} {transport : Transport} {request : Message}
  {network after between : Network} {server : SocketAddress}
  {servers earlier later : List SocketAddress} {hits : List Network.Hit}

namespace FailInTurn

/-- Only the servers that fail are reached. -/
theorem reached (fails : FailInTurn forwarder transport request network servers hits after) :
    ∀ hit ∈ hits, hit.server ∈ servers := by
  induction fails with
  | nil => simp
  | @cons network _ server _ _ _ _ _ _ ih =>
      intro hit member
      rcases List.mem_append.1 member with early | late
      · rw [(isAttempt_ask forwarder network transport server request).reached hit early]
        exact List.mem_cons_self
      · exact List.mem_cons_of_mem _ (ih hit late)

theorem others (fails : FailInTurn forwarder transport request network servers hits after)
    {other : SocketAddress} (unlisted : other ∉ servers) :
    after.server other = network.server other := by
  induction fails with
  | nil => rfl
  | @cons network _ server _ _ _ _ _ _ ih =>
      rw [List.mem_cons, not_or] at unlisted
      rw [ih unlisted.2]
      exact (isAttempt_ask forwarder network transport server request).others other unlisted.1

/-- Servers that fail are passed over. -/
theorem askInTurn_append
    (fails : FailInTurn forwarder transport request network earlier hits between)
    (later : List SocketAddress) :
    (forwarder.askInTurn transport request (earlier ++ later) network).outcome =
        (forwarder.askInTurn transport request later between).outcome ∧
      (forwarder.askInTurn transport request (earlier ++ later) network).hits =
        hits ++ (forwarder.askInTurn transport request later between).hits ∧
      (forwarder.askInTurn transport request (earlier ++ later) network).network =
        (forwarder.askInTurn transport request later between).network := by
  induction fails with
  | nil => exact ⟨rfl, rfl, rfl⟩
  | cons failed fault _ ih =>
      rw [List.cons_append, askInTurn]
      simp only [failed, fault, if_true, List.append_assoc, ih, and_self]

end FailInTurn

/-- A server that produces a message ends the lookup, whoever comes after it. -/
theorem askInTurn_cons_of_ok {message : Message}
    (succeeded : (forwarder.ask network transport server request).outcome = .ok message) :
    forwarder.askInTurn transport request (server :: later) network =
      forwarder.ask network transport server request := by
  rw [askInTurn]
  simp only [succeeded]

/-- Either all servers fail, or one after some that fail produces a message. -/
theorem failInTurn_or_answers (forwarder : Forwarder) (transport : Transport) (request : Message)
    (servers : List SocketAddress) (network : Network) :
    (∃ hits after, FailInTurn forwarder transport request network servers hits after) ∨
      ∃ earlier server later hits between message, servers = earlier ++ server :: later ∧
        FailInTurn forwarder transport request network earlier hits between ∧
        (forwarder.ask between transport server request).outcome = .ok message := by
  induction servers generalizing network with
  | nil => exact Or.inl ⟨[], network, .nil network⟩
  | cons server servers ih =>
      cases outcome : (forwarder.ask network transport server request).outcome with
      | ok message =>
          exact Or.inr ⟨[], server, servers, [], network, message, rfl, .nil network, outcome⟩
      | error error =>
          have fault := (isAttempt_ask forwarder network transport server request).transport error
            outcome
          rcases ih (forwarder.ask network transport server request).network with
            ⟨hits, after, fails⟩ | ⟨earlier, next, later, hits, between, message, rfl, fails, ok⟩
          · exact Or.inl ⟨_, after, .cons outcome fault fails⟩
          · exact Or.inr ⟨server :: earlier, next, later, _, between, message, rfl,
              .cons outcome fault fails, ok⟩

/-- A lookup is over with the first server that produces a message. -/
theorem FailInTurn.lookup_of_ok {message : Message}
    (listed : forwarder.servers = earlier ++ server :: later)
    (fails : FailInTurn forwarder transport request network earlier hits between)
    (succeeded : (forwarder.ask between transport server request).outcome = .ok message) :
    (forwarder.lookup network transport request).outcome = .ok message ∧
      (forwarder.lookup network transport request).hits =
        hits ++ (forwarder.ask between transport server request).hits ∧
      (forwarder.lookup network transport request).network =
        (forwarder.ask between transport server request).network := by
  have passed := fails.askInTurn_append (server :: later)
  rw [askInTurn_cons_of_ok succeeded, succeeded] at passed
  rw [lookup, listed]
  exact passed

/-- A server that is neither the one that answers nor before it is not reached. -/
theorem FailInTurn.lookup_spares {message : Message} {other : SocketAddress}
    (listed : forwarder.servers = earlier ++ server :: later)
    (fails : FailInTurn forwarder transport request network earlier hits between)
    (succeeded : (forwarder.ask between transport server request).outcome = .ok message)
    (unlisted : other ∉ earlier) (different : other ≠ server) :
    (∀ hit ∈ (forwarder.lookup network transport request).hits, hit.server ≠ other) ∧
      (forwarder.lookup network transport request).network.server other =
        network.server other := by
  rcases fails.lookup_of_ok listed succeeded with ⟨_, sameHits, sameNetwork⟩
  have attempt := isAttempt_ask forwarder between transport server request
  rw [sameHits, sameNetwork]
  constructor
  · intro hit member reached
    rcases List.mem_append.1 member with early | last
    · exact unlisted (reached ▸ fails.reached hit early)
    · exact different (reached ▸ attempt.reached hit last)
  · rw [attempt.others other different, fails.others unlisted]

/-- A lookup whose servers all fail says so. -/
theorem FailInTurn.lookup_eq_exhausted
    (fails : FailInTurn forwarder transport request network forwarder.servers hits after) :
    (forwarder.lookup network transport request).outcome =
      .error (.serversExhausted forwarder.servers.length) := by
  have passed := (fails.askInTurn_append []).1
  rw [List.append_nil] at passed
  exact passed

/-- A lookup fails if and only if all servers do, and then it says that they are exhausted. -/
theorem lookup_eq_error_iff {error : Error} :
    (forwarder.lookup network transport request).outcome = .error error ↔
      error = .serversExhausted forwarder.servers.length ∧
        ∃ hits after,
          FailInTurn forwarder transport request network forwarder.servers hits after := by
  constructor
  · intro failed
    rcases failInTurn_or_answers forwarder transport request forwarder.servers network with
      ⟨hits, after, fails⟩ | ⟨earlier, server, later, hits, between, message, listed, fails, ok⟩
    · rw [fails.lookup_eq_exhausted] at failed
      cases failed
      exact ⟨rfl, hits, after, fails⟩
    · rw [(fails.lookup_of_ok listed ok).1] at failed
      contradiction
  · rintro ⟨rfl, hits, after, fails⟩
    exact fails.lookup_eq_exhausted

/-- A lookup ends with a message if and only if it is that of the first server that produces one.
-/
theorem lookup_eq_ok_iff {message : Message} :
    (forwarder.lookup network transport request).outcome = .ok message ↔
      ∃ earlier server later hits between, forwarder.servers = earlier ++ server :: later ∧
        FailInTurn forwarder transport request network earlier hits between ∧
        (forwarder.ask between transport server request).outcome = .ok message := by
  constructor
  · intro succeeded
    rcases failInTurn_or_answers forwarder transport request forwarder.servers network with
      ⟨hits, after, fails⟩ | ⟨earlier, server, later, hits, between, said, listed, fails, ok⟩
    · rw [fails.lookup_eq_exhausted] at succeeded
      contradiction
    · rw [(fails.lookup_of_ok listed ok).1] at succeeded
      cases succeeded
      exact ⟨earlier, server, later, hits, between, listed, fails, ok⟩
  · rintro ⟨earlier, server, later, hits, between, listed, fails, ok⟩
    exact (fails.lookup_of_ok listed ok).1

end Forwarder

end DnsFilter
