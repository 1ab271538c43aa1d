import DnsFilter.Log.Directive

/-!
# Log filters

A filter is a list of directives separated by commas. Among the directives that are about an event,
the most special one decides, and the last one of equally special directives. Without directives
only errors are logged.
-/

namespace DnsFilter

structure LogFilter where
  directives : List LogDirective
  deriving DecidableEq, Repr

namespace LogFilter

/-- The texts of the directives of a filter; empty ones do not count. -/
def pieces (text : String) : List (List Char) :=
  (text.toList.splitOn ',').filter fun piece => !piece.isEmpty

/-- The filter with the given directives, or the one for errors if there are none. -/
def ofDirectives (directives : List LogDirective) : LogFilter :=
  if directives.isEmpty then ⟨[{ threshold := LogLevel.error.rank }]⟩ else ⟨directives⟩

/-- Reads a filter all of whose directives must be right. -/
def parse (text : String) : Except LogDirectiveError LogFilter := do
  return ofDirectives (← (pieces text).mapM LogDirective.parse)

/-- A directive that was left out, with the reason. -/
def complaint (piece : List Char) (error : LogDirectiveError) : String :=
  "ignoring " ++ "`" ++ String.ofList piece ++ "`: " ++ error.message

/-- What came of reading a filter that may have wrong directives. -/
structure LooseReading where
  /-- The filter, unless a directive could not be cut into its parts. -/
  filter : Option LogFilter
  complaints : List String
  deriving DecidableEq, Repr

/-- Reads directives, leaving out those that are wrong and complaining about them. A directive that
cannot be cut into its parts is the end of it. -/
def readLoosely : List (List Char) → Option (List LogDirective) × List String
  | [] => (some [], [])
  | piece :: pieces =>
      match LogDirective.parse piece with
      | .error .split => (none, [])
      | .error error =>
          let (directives, complaints) := readLoosely pieces
          (directives, complaint piece error :: complaints)
      | .ok directive =>
          let (directives, complaints) := readLoosely pieces
          (directives.map (directive :: ·), complaints)

/-- Reads a filter, leaving out the directives that are wrong. -/
def parseLoosely (text : String) : LooseReading :=
  let (directives, complaints) := readLoosely (pieces text)
  { filter := directives.map ofDirectives, complaints }

/-- The more special one of the directive chosen so far and the next one, which is chosen if they
are equally special. -/
def choose (chosen : Option LogDirective) (next : LogDirective) : Option LogDirective :=
  match chosen with
  | none => some next
  | some directive => if next.isAsSpecialAs directive then some next else some directive

def decisive? (filter : LogFilter) (event : LogEvent) : Option LogDirective :=
  (filter.directives.filter fun directive => directive.covers event).foldl choose none

def allows (filter : LogFilter) (event : LogEvent) : Bool :=
  (filter.decisive? event).any fun directive => event.level.rank ≤ directive.threshold

end LogFilter

end DnsFilter
