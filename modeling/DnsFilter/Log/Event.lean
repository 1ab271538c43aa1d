/-!
# Log events

What the program writes while it runs: a text with a severity and the part of the program it comes
from.
-/

namespace DnsFilter

/-- Severities, the worst one first. -/
inductive LogLevel where
  | error
  | warn
  | info
  | debug
  | trace
  deriving DecidableEq, Repr

namespace LogLevel

def all : List LogLevel := [error, warn, info, debug, trace]

/-- The rank of a severity, one for the worst. -/
def rank : LogLevel → Nat
  | error => 1
  | warn => 2
  | info => 3
  | debug => 4
  | trace => 5

def toText : LogLevel → String
  | error => "ERROR"
  | warn => "WARN"
  | info => "INFO"
  | debug => "DEBUG"
  | trace => "TRACE"

end LogLevel

/-- What is logged, without its time. -/
structure LogEvent where
  level : LogLevel
  target : String
  text : String
  deriving DecidableEq, Repr

namespace LogEvent

/-- The fields of every event: its text. -/
def fields : List String := ["message"]

/-- Characters that could act on a terminal: some control characters of ASCII, and all those above
it. -/
def isActing (character : Char) : Bool :=
  ['\x07', '\x08', '\x0c', '\x1b', '\x7f'].contains character ||
    (0x80 ≤ character.toNat && character.toNat ≤ 0x9f)

/-- The two hexadecimal digits of a number below 256. -/
def hexadecimal (value : Nat) : List Char :=
  [Nat.digitChar (value / 16), Nat.digitChar (value % 16)]

/-- A character as it is written to the log: characters that could act on a terminal as their code
points. -/
def escape (character : Char) : List Char :=
  if !isActing character then [character]
  else if character.toNat < 0x80 then ['\\', 'x'] ++ hexadecimal character.toNat
  else ['\\', 'u', '\x7b'] ++ hexadecimal character.toNat ++ ['\x7d']

/-- The lines that are written after the time. Only a line break in the text makes them more than
one. -/
def lines (event : LogEvent) : List String :=
  let text := event.text.toList.flatMap escape
  let whole := (event.level.toText ++ " " ++ event.target ++ ": ").toList ++ text
  (whole.splitOn '\n').map String.ofList

end LogEvent

end DnsFilter
