import DnsFilter.Cache.QuestionLog

/-!
# Delivery of questions

The question log together with the channel that feeds it, entry by entry: questions are recorded,
the consumer takes the next one over, entries are added past the channel, the log is read, and the
consumer may go away. What became of the entries in a run is collected step by step.
-/

namespace DnsFilter

/-- A question log and the channel to it. -/
structure Delivery where
  channel : QuestionChannel
  log : QuestionLog
  deriving DecidableEq, Repr

namespace Delivery

/-- Something that happens to a log or its channel. -/
inductive Step where
  | record (entry : QuestionEntry)
  /-- The consumer appends the next waiting entry to the log. -/
  | consume
  /-- An entry is appended to the log directly. -/
  | add (entry : QuestionEntry)
  /-- The most recent entries are read, as many as the limit allows. -/
  | recent (limit : Option Nat)
  | close
  deriving DecidableEq, Repr

def new (capacity depth : Nat) : Delivery := { channel := .new depth, log := .new capacity }

def step (delivery : Delivery) : Step → Delivery
  | .record entry => { delivery with channel := delivery.channel.record entry }
  | .consume =>
      match delivery.channel.receive with
      | (channel, some entry) => { channel, log := delivery.log.add entry }
      | (channel, none) => { delivery with channel }
  | .add entry => { delivery with log := delivery.log.add entry }
  | .recent _ => delivery
  | .close => { delivery with channel := delivery.channel.close }

def after (delivery : Delivery) (steps : List Step) : Delivery := steps.foldl step delivery

/-- The entry that a step lets into the channel. -/
def admitted (delivery : Delivery) : Step → List QuestionEntry
  | .record entry => if delivery.channel.admits then [entry] else []
  | _ => []

/-- The entry that the consumer appends to the log in a step. -/
def consumed (delivery : Delivery) : Step → List QuestionEntry
  | .consume => delivery.channel.receive.2.toList
  | _ => []

/-- The entry that is appended to the log in a step, by whomever. -/
def appended (delivery : Delivery) : Step → List QuestionEntry
  | .add entry => [entry]
  | step => delivery.consumed step

/-- The entries that wait for a consumer who goes away in a step. -/
def lost (delivery : Delivery) : Step → List QuestionEntry
  | .close => delivery.channel.waiting
  | _ => []

/-- The entries to which something happens in each of the steps, in order. -/
def collect (part : Delivery → Step → List QuestionEntry) :
    Delivery → List Step → List QuestionEntry
  | _, [] => []
  | delivery, step :: steps => part delivery step ++ collect part (delivery.step step) steps

@[simp]
theorem after_nil (delivery : Delivery) : delivery.after [] = delivery := rfl

@[simp]
theorem after_cons (delivery : Delivery) (step : Step) (steps : List Step) :
    delivery.after (step :: steps) = (delivery.step step).after steps := rfl

@[simp]
theorem collect_nil (part : Delivery → Step → List QuestionEntry) (delivery : Delivery) :
    delivery.collect part [] = [] := rfl

@[simp]
theorem collect_cons (part : Delivery → Step → List QuestionEntry) (delivery : Delivery)
    (step : Step) (steps : List Step) :
    delivery.collect part (step :: steps) =
      part delivery step ++ (delivery.step step).collect part steps := rfl

end Delivery

end DnsFilter
