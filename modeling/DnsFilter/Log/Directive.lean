import DnsFilter.Log.Event
import DnsFilter.Text.Pattern.Validity
import DnsFilter.Text.Places
import DnsFilter.Text.Words

/-!
# Log directives

A directive is a threshold, or a target, a span in brackets and a threshold after an equals sign, of
which each may be left out. Behind the name of a span a field may stand in braces, with a value
after an equals sign. Without a threshold a directive lets everything through.

The blanks around a directive do not count when its parts are looked for, but the parts are then cut
out of the directive as it was given, at the places where they were found.
-/

namespace DnsFilter

inductive LogDirectiveError where
  /-- It has not the form of a directive. -/
  | form
  /-- Its threshold is not one. -/
  | level
  /-- The value of its field is neither a number nor a pattern. -/
  | field (reason : PatternError)
  /-- One of its parts starts or ends inside a character. -/
  | split
  deriving DecidableEq, Repr

def LogDirectiveError.message : LogDirectiveError → String
  | form => "invalid filter directive"
  | level =>
      "error parsing level filter: expected one of \"off\", \"error\", \"warn\", \"info\", " ++
        "\"debug\", \"trace\", or a number 0-5"
  | field reason => "invalid field filter: " ++ reason.message
  | split => "a part of a filter directive starts or ends inside a character"

structure LogField where
  name : String
  /-- The value or the pattern that it must have. -/
  value : Option String := none
  deriving DecidableEq, Repr

namespace LogField

/-- Checks the value of a field. Every number without a plus sign in front is a pattern too. -/
def checkValue (text : List Char) : Except LogDirectiveError Unit :=
  if text.head? = some '+' ∧ Text.isNumeral (text.drop 1) then .ok ()
  else (Pattern.check text).mapError .field

/-- Reads a field. What follows a second equals sign does not count. -/
def parse (text : List Char) : Except LogDirectiveError LogField :=
  match text.splitOn '=' with
  | name :: value :: _ => do
      checkValue value
      return { name := String.ofList name, value := some (String.ofList value) }
  | _ => .ok { name := String.ofList text }

end LogField

structure LogDirective where
  /-- The start of the targets that the directive is about. -/
  target : Option String := none
  span : Option String := none
  field : Option LogField := none
  /-- The highest rank that is let through. -/
  threshold : Nat := LogLevel.trace.rank
  deriving DecidableEq, Repr

namespace LogDirective

/-- Names of thresholds with the highest rank that they let through. -/
def thresholds : List (String × Nat) :=
  [("off", 0), ("error", 1), ("warn", 2), ("info", 3), ("debug", 4), ("trace", 5)]

/-- The threshold that a text names, by number or in any letter case. -/
def threshold? (text : List Char) : Option Nat :=
  match (Text.unsigned? text).filter (· ≤ 5) with
  | some rank => some rank
  | none => thresholds.lookup (String.ofList (text.map Char.toLower))

/-- Reads what follows the last equals sign; without a text it lets everything through. -/
def parseThreshold (text : List Char) : Except LogDirectiveError Nat :=
  if text.isEmpty then .ok LogLevel.trace.rank
  else
    match threshold? text with
    | some rank => .ok rank
    | none => .error .level

/-- Characters that may start a directive without a span in front. -/
def isStart (character : Char) : Bool :=
  Text.isAlphanumeric character || character == '-' || character == ':' || character == '_'

inductive Place where
  | start
  /-- In a threshold or a target. -/
  | head
  /-- In the name of a span that begins at a place. -/
  | span (start : Nat)
  /-- In a field that begins at a place. -/
  | field (start : Nat)
  /-- After a field. -/
  | fieldEnd
  /-- After a span. -/
  | spanEnd
  /-- In a threshold that begins at a place. -/
  | threshold (start : Nat)
  deriving DecidableEq, Repr

structure Reading where
  place : Place := .start
  directive : LogDirective := {}
  deriving DecidableEq, Repr

/-- A part of a directive, cut out of its text. -/
def cut (text : List Char) (start stop : Nat) : Except LogDirectiveError (List Char) :=
  match Text.cut? text start stop with
  | some part => .ok part
  | none => .error .split

/-- Goes on reading the directive with the given text at a character and its place. -/
def Reading.step (text : List Char) (reading : Reading) :
    Nat × Char → Except LogDirectiveError Reading
  | (place, character) =>
    let directive := reading.directive
    match reading.place with
    | .start =>
        if character == '[' then .ok { reading with place := .span (place + 1) }
        else if isStart character then .ok { reading with place := .head }
        else .error .form
    | .head =>
        if character == '=' || character == '[' then do
          let target := some (String.ofList (← cut text 0 place))
          return {
            place := if character == '=' then .threshold (place + 1) else .span (place + 1)
            directive := { directive with target } }
        else .ok reading
    | .span start =>
        if character == ']' then do
          let span := some (String.ofList (← cut text start place))
          return { place := .spanEnd, directive := { directive with span } }
        else if character == '\x7b' then do
          let name ← cut text start place
          let span := if name.isEmpty then none else some (String.ofList name)
          return { place := .field (place + 1), directive := { directive with span } }
        else .ok reading
    | .field start =>
        if character == '\x7d' then do
          let part ← cut text start place
          if part.isEmpty then throw .form
          let field := some (← LogField.parse part)
          return { place := .fieldEnd, directive := { directive with field } }
        else .ok reading
    | .fieldEnd =>
        if character == ']' then .ok { reading with place := .spanEnd } else .error .form
    | .spanEnd =>
        if character == '=' then .ok { reading with place := .threshold (place + 1) }
        else .error .form
    | .threshold _ => .ok reading

/-- The directive with the given text when everything was read. -/
def Reading.finish (text : List Char) (reading : Reading) : Except LogDirectiveError LogDirective :=
  match reading.place with
  | .head =>
      match threshold? text with
      | some threshold => .ok { threshold }
      | none => .ok { target := some (String.ofList text) }
  | .spanEnd => .ok reading.directive
  | .threshold start =>
      match Text.from? text start with
      | none => .error .split
      | some part => do return { reading.directive with threshold := ← parseThreshold part }
  | _ => .error .form

def parse (text : List Char) : Except LogDirectiveError LogDirective := do
  (← (Text.placed 0 (Text.trim text)).foldlM (Reading.step text) {}).finish text

/-- Whether the directive is about single events: it asks for no span and for no value. -/
def isAboutEvents (directive : LogDirective) : Bool :=
  directive.span.isNone && directive.field.all fun field => field.value.isNone

def covers (directive : LogDirective) (event : LogEvent) : Bool :=
  directive.isAboutEvents &&
    (directive.target.all fun target => target.toList.isPrefixOf event.target.toList) &&
    directive.field.all fun field => LogEvent.fields.contains field.name

/-- Whether a directive is at least as special as another one: it has a longer target, or one that
is as long and as many fields. -/
def isAsSpecialAs (directive other : LogDirective) : Bool :=
  let length := fun directive : LogDirective =>
    (directive.target.map fun target => target.length + 1).getD 0
  length other < length directive ||
    (length other == length directive && (directive.field.isSome || other.field.isNone))

end LogDirective

end DnsFilter
