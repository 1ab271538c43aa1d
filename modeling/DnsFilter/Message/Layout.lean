import DnsFilter.Message.Basic

/-!
# Room in a message

How much of a message can be sent. A message has a greatest size, and names in it are shortened: the
end of a name that was written before becomes a pointer to its earlier place. Each section keeps the
records in front of the first one that does not fit, and a message that lost records is marked as
truncated. Some data cannot be encoded at all; a message with it is not sent.
-/

namespace DnsFilter

structure Layout where
  size : Nat := 0
  /-- The names that a later name may point to, as their labels. -/
  known : List (List Label) := []
  deriving DecidableEq, Repr

namespace Layout

def maxSize : Nat := 65535

/-- A pointer has room for the places below this one. -/
def maxPointer : Nat := 0x3fff

/-- The greatest length of a string in a record. -/
def maxStringLength : Nat := 255

/-- Why a part of a message cannot be written. -/
inductive Obstacle where
  /-- The message would become too large. -/
  | noRoom
  /-- The part has no encoding. -/
  | unencodable
  deriving DecidableEq, Repr

/-- Writes a part of a message, as far as its size is concerned. -/
abbrev Writer := StateT Layout (Except Obstacle)

def bytes (count : Nat) : Writer Unit := do
  let layout ← get
  if maxSize < layout.size + count then throw .noRoom
  set { layout with size := layout.size + count }

/-- The layout after labels that may point to an earlier name. The longest end of the name that is
known becomes a pointer of two bytes; the longer ends become known themselves. -/
def afterLabels (layout : Layout) : List Label → Layout
  | [] => { layout with size := layout.size + 1 }
  | label :: labels =>
      if layout.known.contains (label :: labels) then { layout with size := layout.size + 2 }
      else
        afterLabels
          { size := layout.size + label.length + 1
            known :=
              if layout.size < maxPointer then (label :: labels) :: layout.known
              else layout.known }
          labels

def fullName (name : DomainName) : Writer Unit := do
  if DomainName.maxSize < name.size then throw .unencodable
  bytes name.size

/-- Writes a name that may end in a pointer. There must be room for all of its labels. -/
def name (name : DomainName) : Writer Unit := do
  let before ← get
  if DomainName.maxSize < name.size then throw .unencodable
  bytes (name.size - 1)
  set before
  let after := before.afterLabels name.labels
  bytes (after.size - before.size)
  modify fun layout => { layout with known := after.known }

def string (content : List UInt8) : Writer Unit := do
  if maxStringLength < content.length then throw .unencodable
  bytes (content.length + 1)

/-- Writes the data of a record. The target of a service is written in full. -/
def data : RecordData → Writer Unit
  | .ipv4 _ => bytes 4
  | .ipv6 _ => bytes 16
  | .name target => name target
  | .mailExchange _ exchange => do
      bytes 2
      name exchange
  | .service _ _ _ target => do
      bytes 6
      fullName target
  | .authority zone => do
      name zone.primary
      name zone.mailbox
      bytes 20
  | .strings parts => parts.forM string
  | .bytes content => bytes content.length

/-- Writes a record: its owner, ten bytes, and its data. -/
def record (record : Record) : Writer Unit := do
  name record.owner
  bytes 10
  record.data.forM data

def edns (edns : Edns) : Writer Unit :=
  bytes (edns.options.foldl (fun size option => size + 4 + option.content.length) 11)

/-- Writes a query: its name and four bytes. -/
def query (query : Query) : Writer Unit := do
  fullName query.name
  bytes 4

/-- Writes the header and the query section. Only the name of the first query becomes known. -/
def head (queries : List Query) : Writer Unit := do
  bytes 12
  queries.forM query
  let known := (queries.take 1).map fun query => query.name.labels
  modify fun layout => { layout with known := known.filter fun labels => !labels.isEmpty }

/-- The parts in front of the first one that does not fit, with the layout after them. -/
def fitting {α : Type} (write : α → Writer Unit) (layout : Layout) :
    List α → Option (List α × Layout)
  | [] => some ([], layout)
  | part :: parts =>
      match (write part).run layout with
      | .error .unencodable => none
      | .error .noRoom => some ([], layout)
      | .ok ((), next) => (fitting write next parts).map fun (kept, last) => (part :: kept, last)

/-- What fits are the first ones of the parts. -/
theorem isPrefix_of_fitting {α : Type} {write : α → Writer Unit} {layout last : Layout}
    {parts kept : List α} (fits : fitting write layout parts = some (kept, last)) :
    kept <+: parts := by
  induction parts generalizing layout kept with
  | nil =>
      obtain ⟨rfl, rfl⟩ : [] = kept ∧ layout = last := by simpa [fitting] using fits
      exact List.prefix_rfl
  | cons part parts ih =>
      rw [fitting] at fits
      split at fits
      · contradiction
      · obtain ⟨rfl, rfl⟩ : [] = kept ∧ layout = last := by simpa using fits
        exact List.nil_prefix
      · obtain ⟨⟨others, final⟩, fitsNext, equal⟩ := Option.map_eq_some_iff.1 fits
        obtain ⟨rfl, rfl⟩ : part :: others = kept ∧ final = last := by simpa using equal
        exact List.prefix_cons_inj part |>.2 (ih fitsNext)

end Layout

/-- The part of a message that is sent, if the message can be encoded. -/
def Message.fitted? (message : Message) : Option Message := do
  let (_, layout) ← ((Layout.head message.queries).run {}).toOption
  let (answers, layout) ← Layout.fitting Layout.record layout message.answers
  let (authorities, layout) ← Layout.fitting Layout.record layout message.authorities
  let (additionals, layout) ← Layout.fitting Layout.record layout message.additionals
  let (extensions, _) ← Layout.fitting Layout.edns layout message.edns.toList
  let isWhole :=
    answers.length == message.answers.length &&
      authorities.length == message.authorities.length &&
      additionals.length == message.additionals.length &&
      extensions.length == message.edns.toList.length
  return {
    message with
    flags := { message.flags with truncated := message.flags.truncated || !isWhole }
    answers
    authorities
    additionals
    edns := extensions.head? }

end DnsFilter
