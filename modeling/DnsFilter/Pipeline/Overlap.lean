import DnsFilter.Pipeline.Run

/-!
# Overlapping queries

While a query waits for the servers, others may begin and end, time may pass, and the caches and the
block set may change. Here a query is two steps: it begins, and if it was forwarded it ends when the
servers' outcome comes in. Each query has a ticket, under which it waits.
-/

namespace DnsFilter

/-- A pipeline with the queries that wait for the servers. -/
structure Overlap where
  pipeline : Pipeline
  /-- Tickets with what waits under them. -/
  waiting : List (Nat × Pending) := []
  nextTicket : Nat := 0

namespace Overlap

inductive Step where
  | begin (request : Message) (transport : Transport) (client : IPAddress)
  /-- The outcome of the exchange with the servers comes in for a ticket. -/
  | finish (ticket : Nat) (outcome : Except Error Message)
  | change (change : Pipeline.Change)

inductive Event where
  /-- The query with this ticket asks the servers. -/
  | forwarded (ticket time : Nat) (pending : Pending)
  | answered (ticket time : Nat) (request : Message) (resolution : Resolution)
  | changed (time : Nat) (report : Pipeline.ChangeReport)
  | unknownTicket (ticket : Nat)

/-- Nothing waits, and the caches are empty. -/
def start (config : Config) (channelDepth : Nat) (names : NameSet) : Overlap :=
  { pipeline := .start config channelDepth names }

/-- The state after a step, and what can be seen of the step. -/
def step (state : Overlap) : Step → Overlap × Event
  | .begin request transport client =>
      let ticket := state.nextTicket
      let state := { state with nextTicket := ticket + 1 }
      match state.pipeline.begin request transport client with
      | (pipeline, .answered resolution) =>
          ({ state with pipeline },
            .answered ticket state.pipeline.now request resolution)
      | (pipeline, .forwarded pending) =>
          ({ state with pipeline, waiting := state.waiting ++ [(ticket, pending)] },
            .forwarded ticket state.pipeline.now pending)
  | .finish ticket outcome =>
      match state.waiting.lookup ticket with
      | none => (state, .unknownTicket ticket)
      | some pending =>
          let (pipeline, resolution) := state.pipeline.finish pending outcome
          ({ state with
              pipeline
              waiting := state.waiting.filter fun entry => entry.1 != ticket },
            .answered ticket state.pipeline.now pending.request resolution)
  | .change change =>
      let (pipeline, report) := state.pipeline.undergo change
      ({ state with pipeline }, .changed state.pipeline.now report)

def after (state : Overlap) (steps : List Step) : Overlap :=
  steps.foldl (fun state step => (state.step step).1) state

/-- The events of several steps, the first one in front. -/
def trace : Overlap → List Step → List Event
  | _, [] => []
  | state, step :: steps =>
      let (next, event) := state.step step
      event :: next.trace steps

@[simp]
theorem after_nil (state : Overlap) : state.after [] = state := rfl

@[simp]
theorem after_cons (state : Overlap) (step : Step) (steps : List Step) :
    state.after (step :: steps) = (state.step step).1.after steps := rfl

@[simp]
theorem trace_nil (state : Overlap) : state.trace [] = [] := rfl

@[simp]
theorem trace_cons (state : Overlap) (step : Step) (steps : List Step) :
    state.trace (step :: steps) =
      (state.step step).2 :: (state.step step).1.trace steps := rfl

def Step.begun? : Step → Option Message
  | .begin request _ _ => some request
  | _ => none

/-- The messages that begin to be resolved. The place of a message is its ticket. -/
def begun (steps : List Step) : List Message := steps.filterMap Step.begun?

namespace Event

/-- The ticket of the query about which the servers are asked. -/
def asked? : Event → Option Nat
  | .forwarded ticket _ _ => some ticket
  | _ => none

def stored? : Event → Option Pipeline.Stored
  | .answered _ time request resolution => resolution.stored? time request
  | _ => none

def history (events : List Event) : List Pipeline.Stored := events.filterMap stored?

end Event

end Overlap

end DnsFilter
