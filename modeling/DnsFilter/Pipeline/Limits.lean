import DnsFilter.Cache.Limits
import DnsFilter.Pipeline.Overlap

/-!
# Limits of a pipeline

Runs on a machine. They do what runs do without one, but a step that stores an outcome breaks off,
and the run with it, if storing takes a number that the machine cannot hold.
-/

namespace DnsFilter

/-- What is remembered before the servers are asked. -/
def Progress.write? : Progress → Option CacheWrite
  | .answered resolution => resolution.write
  | .forwarded _ => none

namespace Pipeline

/-- Stores an outcome on a machine, if there is one to be remembered. -/
def rememberOn (machine : Machine) (pipeline : Pipeline) :
    Option CacheWrite → Except Overflow Pipeline
  | none => .ok pipeline
  | some write => do
      let (cache, _) ← (pipeline.cache write.side).setOn machine pipeline.now write.key
        write.response write.lifetime
      return pipeline.withCache write.side cache

/-- The pipeline once its caches have been asked about a message. They are only asked about address
queries. -/
def asked (pipeline : Pipeline) (request : Message) : Pipeline :=
  match request.queries.head? with
  | none => pipeline
  | some query =>
      if query.family?.isSome then (pipeline.cached request query.key).1 else pipeline

/-- The first part of resolving a query. What is remembered then is stored once the caches were
asked. -/
def beginOn (machine : Machine) (pipeline : Pipeline) (request : Message) (transport : Transport)
    (client : IPAddress) : Except Overflow (Pipeline × Progress) := do
  let begun := pipeline.begin request transport client
  let stored ← (pipeline.asked request).rememberOn machine begun.2.write?
  return ({ begun.1 with positive := stored.positive, negative := stored.negative }, begun.2)

/-- The second part of resolving a query. -/
def finishOn (machine : Machine) (pipeline : Pipeline) (pending : Pending)
    (outcome : Except Error Message) : Except Overflow (Pipeline × Resolution) := do
  let resolution := pipeline.outcomeResolution pending outcome
  let next ← pipeline.rememberOn machine resolution.write
  return (next, resolution)

def concludeOn (machine : Machine) (pipeline : Pipeline)
    (ask : Transport → Message → Except Error Message) :
    Progress → Except Overflow (Pipeline × Resolution)
  | .answered resolution => .ok (pipeline, resolution)
  | .forwarded pending =>
      pipeline.finishOn machine pending (ask pending.transport pending.request)

/-- Resolves a message. -/
def resolveOn (machine : Machine) (pipeline : Pipeline) (request : Message)
    (transport : Transport) (client : IPAddress)
    (ask : Transport → Message → Except Error Message) :
    Except Overflow (Pipeline × Resolution) := do
  let (next, progress) ← pipeline.beginOn machine request transport client
  next.concludeOn machine ask progress

/-- Resolves a message whose exchange with the servers, if it comes to that, has a known outcome.
-/
def inquireOn (machine : Machine) (pipeline : Pipeline) (inquiry : Inquiry) :
    Except Overflow (Pipeline × Resolution) :=
  pipeline.resolveOn machine inquiry.request inquiry.transport inquiry.client
    fun _ _ => inquiry.outcome

/-- Handles a decoded request. Nothing is sent for one that breaks the program off. -/
def handleOn (machine : Machine) (pipeline : Pipeline) (request : Message)
    (transport : Transport) (client : IPAddress)
    (ask : Transport → Message → Except Error Message) (delivered : Bool) :
    Except Overflow (Pipeline × Handling) :=
  if request.isOrdinaryQuery then do
    let forwardable := request.forwardable
    let (next, resolution) ← pipeline.resolveOn machine forwardable transport client ask
    return (next,
      { resolution
        forwarded := if resolution.isForwarded then some (transport, forwardable) else none
        response := request.response resolution.response
        delivered })
  else .ok (pipeline.handle request transport client ask delivered)

/-- The inquiry that is resolved in a step. What is no ordinary query is not resolved. -/
def Step.inquiry? : Step → Option Inquiry
  | .resolve inquiry => some inquiry
  | .handle inquiry _ =>
      if inquiry.request.isOrdinaryQuery then some inquiry.forwardable else none
  | .change _ => none

/-- A step of a run. Only resolving a message stores anything. -/
def stepOn (machine : Machine) (pipeline : Pipeline) (step : Step) :
    Except Overflow (Pipeline × Event) :=
  match step.inquiry? with
  | none => .ok (pipeline.step step)
  | some inquiry => do
      let (next, _) ← pipeline.inquireOn machine inquiry
      return (next, (pipeline.step step).2)

def afterOn (machine : Machine) (pipeline : Pipeline) (steps : List Step) :
    Except Overflow Pipeline :=
  steps.foldlM (fun pipeline step => return (← pipeline.stepOn machine step).1) pipeline

end Pipeline

namespace Overlap

/-- A step of overlapping queries. -/
def stepOn (machine : Machine) (state : Overlap) (step : Step) :
    Except Overflow (Overlap × Event) :=
  match step with
  | .begin request transport client => do
      let (pipeline, _) ← state.pipeline.beginOn machine request transport client
      return ({ (state.step step).1 with pipeline }, (state.step step).2)
  | .finish ticket outcome =>
      match state.waiting.lookup ticket with
      | none => .ok (state.step step)
      | some pending => do
          let (pipeline, _) ← state.pipeline.finishOn machine pending outcome
          return ({ (state.step step).1 with pipeline }, (state.step step).2)
  | .change _ => .ok (state.step step)

def afterOn (machine : Machine) (state : Overlap) (steps : List Step) : Except Overflow Overlap :=
  steps.foldlM (fun state step => return (← state.stepOn machine step).1) state

end Overlap

end DnsFilter
