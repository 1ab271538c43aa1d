import DnsFilter.Address.Basic
import DnsFilter.Question

/-!
# Question log

A ring of the most recent questions, and the channel through which they reach it. Recording never
waits: an entry that finds the channel full or its consumer gone is dropped.
-/

namespace DnsFilter

/-- A question that a client asked. -/
structure QuestionEntry where
  /-- Unix time in seconds. -/
  date : Int
  client : IPAddress
  blocked : Bool
  question : Question
  deriving DecidableEq, Repr

/-- A ring of entries, the oldest in front. -/
structure QuestionLog where
  capacity : Nat
  entries : List QuestionEntry := []
  deriving DecidableEq, Repr

namespace QuestionLog

/-- An empty log. Its capacity is at least one. -/
def new (capacity : Nat) : QuestionLog := { capacity := max capacity 1 }

def size (log : QuestionLog) : Nat := log.entries.length

def isEmpty (log : QuestionLog) : Bool := log.size == 0

/-- Appends an entry; in a full log it takes the place of the oldest. -/
def add (log : QuestionLog) (entry : QuestionEntry) : QuestionLog :=
  let kept := if log.size = log.capacity then log.entries.drop 1 else log.entries
  { log with entries := kept ++ [entry] }

/-- The most recent entries, oldest first; all of them without a limit. -/
def recent (log : QuestionLog) (limit : Option Nat) : List QuestionEntry :=
  match limit with
  | none => log.entries
  | some count => log.entries.drop (log.size - count)

end QuestionLog

/-- A bounded channel of entries, the next one to be received in front. -/
structure QuestionChannel where
  depth : Nat
  waiting : List QuestionEntry := []
  isOpen : Bool := true
  deriving DecidableEq, Repr

namespace QuestionChannel

/-- An empty channel. It has room for at least one entry. -/
def new (depth : Nat) : QuestionChannel := { depth := max depth 1 }

/-- Whether there are a consumer and room for one more entry. -/
def admits (channel : QuestionChannel) : Bool :=
  channel.isOpen && channel.waiting.length < channel.depth

/-- Hands an entry over, or drops it when there is no room or no consumer. -/
def record (channel : QuestionChannel) (entry : QuestionEntry) : QuestionChannel :=
  if channel.admits then { channel with waiting := channel.waiting ++ [entry] } else channel

def receive (channel : QuestionChannel) : QuestionChannel × Option QuestionEntry :=
  match channel.waiting with
  | [] => (channel, none)
  | entry :: waiting => ({ channel with waiting }, some entry)

/-- The consumer goes away; what waits for it is lost. -/
def close (channel : QuestionChannel) : QuestionChannel :=
  { channel with waiting := [], isOpen := false }

/-- The consumer moves everything that waits to the log. -/
def settle (channel : QuestionChannel) (log : QuestionLog) : QuestionChannel × QuestionLog :=
  ({ channel with waiting := [] }, channel.waiting.foldl QuestionLog.add log)

end QuestionChannel

end DnsFilter
