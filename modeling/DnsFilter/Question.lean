import DnsFilter.Message.Basic

/-!
# Questions

The normalized form of a query: three texts that serve as cache key and as payload of the question
log. Letter case is kept, a final dot is not.
-/

namespace DnsFilter

/-- Drops one final dot, if there is one. -/
def dropFinalDot (characters : List Char) : List Char :=
  if characters.getLast? = some '.' then characters.dropLast else characters

/-- A domain name's text without its final dot. The root becomes the empty text. -/
def normalizeName (name : String) : String := String.ofList (dropFinalDot name.toList)

inductive AddressFamily where
  | v4
  | v6
  deriving DecidableEq, Repr

/-- The address family that a query asks for. Only `A` and `AAAA` queries of the internet class are
address queries; all others bypass caching and blocking. -/
def AddressFamily.ofQuery? (recordType : RecordType) (recordClass : RecordClass) :
    Option AddressFamily :=
  if recordClass ≠ .internet then none
  else if recordType = .a then some .v4
  else if recordType = .aaaa then some .v6
  else none

def Query.family? (query : Query) : Option AddressFamily :=
  AddressFamily.ofQuery? query.recordType query.recordClass

/-- Name, type and class of a query as texts. -/
structure Question where
  name : String
  recordType : String
  recordClass : String
  deriving DecidableEq, Repr, Inhabited

namespace Question

/-- The question for a name given as text. -/
def ofName (name : String) (recordType : RecordType) (recordClass : RecordClass) : Question :=
  { name := normalizeName name
    recordType := recordType.toText
    recordClass := recordClass.toText }

/-- The question of a query, with its name in written form. -/
def ofQuery (query : Query) : Question :=
  ofName query.name.toText query.recordType query.recordClass

/-- The text of a question: name, class and type, separated by spaces. -/
def toText (question : Question) : String :=
  question.name ++ " " ++ question.recordClass ++ " " ++ question.recordType

/-- The key under which answers to a question are cached. -/
def key (question : Question) : String := question.toText

end Question

end DnsFilter
