import DnsFilter.Pipeline.Handle

/-!
# Runs of a pipeline

A run is a list of steps that happen one after the other: messages are resolved, requests are
handled, and between them time passes, expired entries are purged, the block set is replaced and the
question log catches up. Each step leaves an event, and the events of a run are its trace. What can
be said about a whole history, such as which lookup for a question was the last, is read off the
trace.
-/

namespace DnsFilter

namespace Pipeline

/-- A message from a client, with what the servers say in case they are asked about it. -/
structure Inquiry where
  request : Message
  transport : Transport
  client : IPAddress
  outcome : Except Error Message

inductive Change where
  | advance (duration : Nat)
  | purge
  | reload (names : NameSet)
  /-- The question log catches up with its channel. -/
  | settle

inductive ChangeReport where
  | unremarkable
  /-- Entries were removed from the positive and from the negative cache. -/
  | purged (answers failures : Nat)
  | logged (entries : List QuestionEntry)

/-- A step of a run. -/
inductive Step where
  | resolve (inquiry : Inquiry)
  /-- A request is handled; `delivered` tells whether its client is still there. -/
  | handle (inquiry : Inquiry) (delivered : Bool)
  | change (change : Change)

/-- What a step leaves to be seen. -/
inductive Event where
  | resolved (time : Nat) (inquiry : Inquiry) (resolution : Resolution)
  | handled (time : Nat) (inquiry : Inquiry) (handling : Handling)
  | changed (time : Nat) (change : Change) (report : ChangeReport)

def undergo (pipeline : Pipeline) : Change → Pipeline × ChangeReport
  | .advance duration => (pipeline.advance duration, .unremarkable)
  | .purge =>
      let (pipeline, answers, failures) := pipeline.purge
      (pipeline, .purged answers failures)
  | .reload names => (pipeline.reload names, .unremarkable)
  | .settle => (pipeline.settle, .logged pipeline.channel.waiting)

/-- Resolves a message whose exchange with the servers, if it comes to that, has a known outcome.
-/
def inquire (pipeline : Pipeline) (inquiry : Inquiry) : Pipeline × Resolution :=
  pipeline.resolve inquiry.request inquiry.transport inquiry.client fun _ _ => inquiry.outcome

/-- The pipeline after a step, and what can be seen of the step. -/
def step (pipeline : Pipeline) : Step → Pipeline × Event
  | .resolve inquiry =>
      let (next, resolution) := pipeline.inquire inquiry
      (next, .resolved pipeline.now inquiry resolution)
  | .handle inquiry delivered =>
      let (next, handling) :=
        pipeline.handle inquiry.request inquiry.transport inquiry.client
          (fun _ _ => inquiry.outcome) delivered
      (next, .handled pipeline.now inquiry handling)
  | .change change =>
      let (next, report) := pipeline.undergo change
      (next, .changed pipeline.now change report)

def after (pipeline : Pipeline) (steps : List Step) : Pipeline :=
  steps.foldl (fun pipeline step => (pipeline.step step).1) pipeline

/-- The events of a run, the first one in front. -/
def trace : Pipeline → List Step → List Event
  | _, [] => []
  | pipeline, step :: steps =>
      let (next, event) := pipeline.step step
      event :: next.trace steps

@[simp]
theorem after_nil (pipeline : Pipeline) : pipeline.after [] = pipeline := rfl

@[simp]
theorem after_cons (pipeline : Pipeline) (step : Step) (steps : List Step) :
    pipeline.after (step :: steps) = (pipeline.step step).1.after steps := rfl

@[simp]
theorem after_append (pipeline : Pipeline) (earlier later : List Step) :
    pipeline.after (earlier ++ later) = (pipeline.after earlier).after later :=
  List.foldl_append

@[simp]
theorem trace_nil (pipeline : Pipeline) : pipeline.trace [] = [] := rfl

@[simp]
theorem trace_cons (pipeline : Pipeline) (step : Step) (steps : List Step) :
    pipeline.trace (step :: steps) =
      (pipeline.step step).2 :: (pipeline.step step).1.trace steps := rfl

/-- The trace of a run in two parts is the trace of the one followed by the trace of the other. -/
@[simp]
theorem trace_append (pipeline : Pipeline) (earlier later : List Step) :
    pipeline.trace (earlier ++ later) =
      pipeline.trace earlier ++ (pipeline.after earlier).trace later := by
  induction earlier generalizing pipeline with
  | nil => rfl
  | cons step steps ih => simp [ih]

/-- The query of an inquiry. Only the first one of a message is looked at. -/
def Inquiry.query? (inquiry : Inquiry) : Option Query := inquiry.request.queries.head?

/-- The inquiry that is resolved for a request. -/
def Inquiry.forwardable (inquiry : Inquiry) : Inquiry :=
  { inquiry with request := inquiry.request.forwardable }

/-- A message that was resolved. -/
structure Answered where
  time : Nat
  inquiry : Inquiry
  resolution : Resolution

/-- The exchange with the servers about a resolved query. -/
structure Lookup where
  time : Nat
  query : Query
  transport : Transport
  request : Message
  outcome : Except Error Message

/-- An outcome that was stored, and when. -/
structure Stored where
  time : Nat
  query : Query
  source : Source
  write : CacheWrite

/-- What was stored last for a query in a cache. -/
def Stored.last? (history : List Stored) (side : CacheSide) (query : Query) : Option Stored :=
  history.reverse.find? fun stored => stored.write.side == side && stored.query == query

namespace Answered

/-- The lookup for a resolved message, if the servers were asked. -/
def lookup? (answered : Answered) : Option Lookup :=
  match answered.inquiry.query? with
  | some query =>
      if answered.resolution.isForwarded then
        some {
          time := answered.time
          query
          transport := answered.inquiry.transport
          request := answered.inquiry.request
          outcome := answered.inquiry.outcome }
      else none
  | none => none

/-- What a resolved message left in a cache. A lifetime of zero is refused there. -/
def stored? (answered : Answered) : Option Stored :=
  match answered.inquiry.query?, answered.resolution.write with
  | some query, some write =>
      if write.lifetime = 0 then none
      else some { time := answered.time, query, source := answered.resolution.source, write }
  | _, _ => none

/-- What is recorded of a message about which the servers were asked, or which got a null route.
Other messages are not recorded. -/
def recorded? (startDate : Int) (answered : Answered) : Option QuestionEntry :=
  let entry (query : Query) (blocked : Bool) : QuestionEntry :=
    { date := startDate + answered.time / 1000
      client := answered.inquiry.client
      blocked
      question := .ofQuery query }
  match answered.inquiry.query?, answered.resolution.source with
  | some query, .servers _ => some (entry query false)
  | some query, .nullRoute => some (entry query true)
  | _, _ => none

/-- That a resolved message was answered from a cache, with what had been stored there last for its
query. -/
inductive ServedFrom (answered : Answered) (history : List Stored) (stored : Stored) : Prop where
  | answer {template : Message} (asked : answered.inquiry.query? = some stored.query)
      (last : Stored.last? history .positive stored.query = some stored)
      (stores : stored.write.response = .answer template)
      (source : answered.resolution.source = .positiveCache)
      (response : answered.resolution.response = template.withId answered.inquiry.request.id)
  | failure (asked : answered.inquiry.query? = some stored.query)
      (last : Stored.last? history .negative stored.query = some stored)
      (stores : stored.write.response = .failed)
      (source : answered.resolution.source = .negativeCache)
      (response : answered.resolution.response =
        answered.inquiry.request.failure .serverFailure)

end Answered

namespace Event

/-- The message that was resolved in an event, on its own or for a request. -/
def answered? : Event → Option Answered
  | resolved time inquiry resolution => some { time, inquiry, resolution }
  | handled time inquiry handling =>
      handling.resolution.map fun resolution =>
        { time, inquiry := inquiry.forwardable, resolution }
  | changed .. => none

def lookup? (event : Event) : Option Lookup := event.answered?.bind Answered.lookup?

def stored? (event : Event) : Option Stored := event.answered?.bind Answered.stored?

def recorded? (startDate : Int) (event : Event) : Option QuestionEntry :=
  event.answered?.bind (Answered.recorded? startDate)

/-- The entries that reached the question log. -/
def logged : Event → List QuestionEntry
  | changed _ _ (.logged entries) => entries
  | _ => []

/-- What the client of a handled request received, as it decodes it. -/
def received? : Event → Option Message
  | handled _ _ handling => handling.received?
  | _ => none

/-- The last lookup for a query in a trace. -/
def lastLookup? (events : List Event) (query : Query) : Option Lookup :=
  (events.filterMap lookup?).reverse.find? fun lookup => lookup.query == query

def history (events : List Event) : List Stored := events.filterMap stored?

end Event

end Pipeline

/-- What resolving a message left in a cache. A lifetime of zero is refused there. -/
def Resolution.stored? (resolution : Resolution) (time : Nat) (request : Message) :
    Option Pipeline.Stored :=
  match request.queries.head?, resolution.write with
  | some query, some write =>
      if write.lifetime = 0 then none
      else some { time, query, source := resolution.source, write }
  | _, _ => none

end DnsFilter
