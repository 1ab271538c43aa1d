import DnsFilter.Cache.QuestionLog
import DnsFilter.Cache.Response
import DnsFilter.Config.Basic
import DnsFilter.NameSet

/-!
# State of the query pipeline

Everything that a query can read or change: the positive cache of answers, the negative cache of
failures, the block set, and the question log with the channel that feeds it. Time is a count of
milliseconds that only the surroundings move.
-/

namespace DnsFilter

/-- How a query reached the program, and so how it is first forwarded. -/
inductive Transport where
  | udp
  | tcp
  deriving DecidableEq, Repr

inductive CacheSide where
  /-- Answers to address queries. -/
  | positive
  /-- Address queries that recently failed. -/
  | negative
  deriving DecidableEq, Repr

structure CacheWrite where
  side : CacheSide
  key : String
  response : CachedResponse
  /-- Milliseconds for which it is valid. -/
  lifetime : Nat
  deriving DecidableEq, Repr

/-- State of the query pipeline. -/
structure Pipeline where
  config : Config
  positive : ResponseCache
  negative : ResponseCache
  blocked : BlockSet := {}
  channel : QuestionChannel
  log : QuestionLog
  /-- Milliseconds since the start. -/
  now : Nat := 0
  /-- Unix time at the start, in seconds. -/
  startDate : Int := 0

namespace Pipeline

/-- Empty caches, sized and timed by the configuration. Nothing is blocked until names are loaded.
-/
def new (config : Config) (channelDepth : Nat) : Pipeline :=
  { config
    positive := .new config.cacheCapacity config.positiveLifetime
    negative := .new config.cacheCapacity config.negativeLifetime
    channel := .new channelDepth
    log := .new config.questionCapacity }

def cache (pipeline : Pipeline) : CacheSide → ResponseCache
  | .positive => pipeline.positive
  | .negative => pipeline.negative

/-- Puts another cache in the place of one of the two. -/
def withCache (pipeline : Pipeline) (side : CacheSide) (cache : ResponseCache) : Pipeline :=
  match side with
  | .positive => { pipeline with positive := cache }
  | .negative => { pipeline with negative := cache }

def lookUp (pipeline : Pipeline) (side : CacheSide) (key : String) :
    Pipeline × Option CachedResponse :=
  let (cache, found) := (pipeline.cache side).get pipeline.now key
  (pipeline.withCache side cache, found)

def perform (pipeline : Pipeline) (write : CacheWrite) : Pipeline × Except Error Unit :=
  let (cache, outcome) :=
    (pipeline.cache write.side).set pipeline.now write.key write.response write.lifetime
  (pipeline.withCache write.side cache, outcome)

/-- Stores an outcome if there is one to be remembered. That a cache refuses it is passed over. -/
def remember (pipeline : Pipeline) (write : Option CacheWrite) : Pipeline :=
  match write with
  | none => pipeline
  | some write => (pipeline.perform write).1

/-- Unix time in seconds. -/
def date (pipeline : Pipeline) : Int := pipeline.startDate + pipeline.now / 1000

def advance (pipeline : Pipeline) (duration : Nat) : Pipeline :=
  { pipeline with now := pipeline.now + duration }

/-- Replaces the block set. Answers already cached stay until they expire. -/
def reload (pipeline : Pipeline) (names : NameSet) : Pipeline :=
  { pipeline with blocked := pipeline.blocked.reload names }

def start (config : Config) (channelDepth : Nat) (names : NameSet) : Pipeline :=
  (new config channelDepth).reload names

/-- Removes expired entries from both caches, and counts them. -/
def purge (pipeline : Pipeline) : Pipeline × Nat × Nat :=
  let (positive, answers) := pipeline.positive.purge pipeline.now
  let (negative, failures) := pipeline.negative.purge pipeline.now
  ({ pipeline with positive, negative }, answers, failures)

def record (pipeline : Pipeline) (client : IPAddress) (question : Question) (blocked : Bool) :
    Pipeline :=
  let entry : QuestionEntry := { date := pipeline.date, client, blocked, question }
  { pipeline with channel := pipeline.channel.record entry }

/-- Lets the consumer of the question channel catch up. -/
def settle (pipeline : Pipeline) : Pipeline :=
  let (channel, log) := pipeline.channel.settle pipeline.log
  { pipeline with channel, log }

end Pipeline

end DnsFilter
