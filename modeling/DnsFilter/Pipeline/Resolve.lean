import DnsFilter.Pipeline.Basic

/-!
# Resolving a query

Address queries are looked up in the positive cache, the negative cache and the block set before the
servers are asked; all others are forwarded at once and never remembered. A query is resolved in two
parts, with the exchange with the servers between them: `begin` answers it or decides to forward it,
`finish` takes the outcome of the exchange. `resolve` is the one after the other, with nothing in
between.
-/

namespace DnsFilter

namespace Message

/-- A response skeleton for a request: same id, opcode, recursion-desired flag and queries. -/
def reply (request : Message) : Message :=
  { id := request.id
    flags := { response := true, recursionDesired := request.flags.recursionDesired }
    opcode := request.opcode
    queries := request.queries }

def failure (request : Message) (rcode : Rcode) : Message :=
  let response := request.reply
  { response with flags := { response.flags with recursionAvailable := true }, rcode }

/-- The smallest TTL of the answers, in seconds. -/
def leastAnswerTtl? (message : Message) : Option Nat :=
  (message.answers.map fun record => record.ttl.toNat).min?

end Message

/-- Where the response to a query comes from. -/
inductive Source where
  | malformed
  | positiveCache
  | negativeCache
  | nullRoute
  /-- The servers, with what they said, under the id of the request. -/
  | servers (outcome : Except Error Message)

structure Pending where
  request : Message
  query : Query
  transport : Transport

/-- What a query came to. -/
structure Resolution where
  source : Source
  response : Message
  /-- What is remembered of it. -/
  write : Option CacheWrite := none

def Resolution.isForwarded (resolution : Resolution) : Bool :=
  match resolution.source with
  | .servers _ => true
  | _ => false

/-- What the first part of resolving a query leads to. -/
inductive Progress where
  | answered (resolution : Resolution)
  | forwarded (pending : Pending)

/-- The key under which answers to a query are cached. -/
def Query.key (query : Query) : String := (Question.ofQuery query).key

namespace Pipeline

def nullRoute (config : Config) : AddressFamily → RecordData
  | .v4 => .ipv4 config.nullRoute
  | .v6 => .ipv6 config.nullRouteV6

def addressType : AddressFamily → RecordType
  | .v4 => .a
  | .v6 => .aaaa

/-- The answer for a blocked name: a single record that leads nowhere. -/
def blockedResponse (config : Config) (request : Message) (query : Query)
    (family : AddressFamily) : Message :=
  let response := request.reply
  { response with
    flags := { response.flags with recursionAvailable := true }
    answers :=
      [{ owner := query.name
         recordType := addressType family
         ttl := config.ttl
         data := some (nullRoute config family) }] }

/-- What a query for a blocked name comes to. -/
def blockResolution (config : Config) (request : Message) (query : Query)
    (family : AddressFamily) : Resolution :=
  let response := blockedResponse config request query family
  { source := .nullRoute
    response
    write :=
      some {
        side := .positive
        key := query.key
        response := .answer response
        lifetime := config.blockLifetime } }

/-- Looks a query up in both caches. A remembered answer is given under the id of the request. -/
def cached (pipeline : Pipeline) (request : Message) (key : String) :
    Pipeline × Option Resolution :=
  match pipeline.lookUp .positive key with
  | (pipeline, some (.answer response)) =>
      (pipeline, some { source := .positiveCache, response := response.withId request.id })
  | (pipeline, _) =>
      match pipeline.lookUp .negative key with
      | (pipeline, some _) =>
          (pipeline,
            some { source := .negativeCache, response := request.failure .serverFailure })
      | (pipeline, none) => (pipeline, none)

/-- Answers a query for a blocked name and remembers the answer. -/
def block (pipeline : Pipeline) (request : Message) (query : Query) (family : AddressFamily)
    (client : IPAddress) : Pipeline × Resolution :=
  let resolution := blockResolution pipeline.config request query family
  ((pipeline.record client (.ofQuery query) true).remember resolution.write, resolution)

def forward (pipeline : Pipeline) (request : Message) (query : Query) (transport : Transport)
    (client : IPAddress) : Pipeline × Progress :=
  (pipeline.record client (.ofQuery query) false, .forwarded { request, query, transport })

/-- The first part of resolving a query, up to the exchange with the servers. Only the first query
of a request is looked at. -/
def begin (pipeline : Pipeline) (request : Message) (transport : Transport)
    (client : IPAddress) : Pipeline × Progress :=
  match request.queries.head? with
  | none =>
      (pipeline, .answered { source := .malformed, response := request.failure .formatError })
  | some query =>
      match query.family? with
      | none => pipeline.forward request query transport client
      | some family =>
          match pipeline.cached request query.key with
          | (pipeline, some resolution) => (pipeline, .answered resolution)
          | (pipeline, none) =>
              if pipeline.blocked.blocks (Question.ofQuery query).name then
                let (pipeline, resolution) := pipeline.block request query family client
                (pipeline, .answered resolution)
              else pipeline.forward request query transport client

/-- How long an answer of the servers is kept, in milliseconds: no longer than any of its records
may be. An answer without records, or with one that may not be kept, is not kept at all. -/
def answerLifetime? (pipeline : Pipeline) (response : Message) : Option Nat :=
  (response.leastAnswerTtl?.filter (0 < ·)).map fun ttl =>
    min pipeline.positive.lifetime (ttl * 1000)

/-- What is remembered of the outcome of an exchange about an address query: an answer that may be
kept, or that the servers failed. -/
def outcomeWrite? (pipeline : Pipeline) (query : Query) :
    Except Error Message → Option CacheWrite
  | .error _ =>
      some {
        side := .negative
        key := query.key
        response := .failed
        lifetime := pipeline.negative.lifetime }
  | .ok response =>
      (pipeline.answerLifetime? response).map fun lifetime =>
        { side := .positive, key := query.key, response := .answer response, lifetime }

def outcomeResolution (pipeline : Pipeline) (pending : Pending)
    (outcome : Except Error Message) : Resolution :=
  let outcome := outcome.map fun response => response.withId pending.request.id
  { source := .servers outcome
    response :=
      match outcome with
      | .ok response => response
      | .error _ => pending.request.failure .serverFailure
    write :=
      if pending.query.family?.isSome then pipeline.outcomeWrite? pending.query outcome
      else none }

/-- The second part of resolving a query, with the outcome of the exchange with the servers. -/
def finish (pipeline : Pipeline) (pending : Pending) (outcome : Except Error Message) :
    Pipeline × Resolution :=
  let resolution := pipeline.outcomeResolution pending outcome
  (pipeline.remember resolution.write, resolution)

/-- What the first part of resolving a query comes to once the servers have said what they say to a
forwarded message. -/
def conclude (pipeline : Pipeline) (ask : Transport → Message → Except Error Message) :
    Progress → Pipeline × Resolution
  | .answered resolution => (pipeline, resolution)
  | .forwarded pending => pipeline.finish pending (ask pending.transport pending.request)

/-- Resolves a query. `ask` is what the servers say to a forwarded message. Failures inside become
responses that report a server failure. -/
def resolve (pipeline : Pipeline) (request : Message) (transport : Transport)
    (client : IPAddress) (ask : Transport → Message → Except Error Message) :
    Pipeline × Resolution :=
  let (pipeline, progress) := pipeline.begin request transport client
  pipeline.conclude ask progress

end Pipeline

end DnsFilter
