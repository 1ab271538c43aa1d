import DnsFilter.Text.Alphanumeric
import DnsFilter.Text.Number
import DnsFilter.Text.Pattern.Basic
import DnsFilter.Text.Words

/-!
# Reading patterns

The usual notation for regular expressions, without back references, looking around, counted
repetitions and properties of characters; a pattern here stands between braces itself, so it could
not use them. While the flag `x` is set, blanks and comments do not count.
-/

namespace DnsFilter

namespace Pattern

/-- What is left to be read, and what was met before. -/
structure Cursor where
  rest : List Char
  skipping : Bool := false
  names : List (List Char) := []

abbrev Reader := StateT Cursor Option

/-- A text without the blanks and comments in front. A comment goes from a number sign to the end of
its line; `inComment` tells whether the text starts in one. -/
def dropBlanks (inComment : Bool) : List Char → List Char
  | [] => []
  | character :: rest =>
      if inComment then dropBlanks (character != '\n') rest
      else if Text.isBlank character then dropBlanks false rest
      else if character == '#' then dropBlanks true rest
      else character :: rest

namespace Reader

/-- Passes over blanks and comments, if they do not count. -/
def skip : Reader Unit :=
  modify fun cursor =>
    if cursor.skipping then { cursor with rest := dropBlanks false cursor.rest } else cursor

def goOn (rest : List Char) : Reader Unit := modify fun cursor => { cursor with rest }

def setSkipping (skipping : Bool) : Reader Unit := modify fun cursor => { cursor with skipping }

/-- What is left to be read. -/
def rest : Reader (List Char) := return (← get).rest

def take : Reader Char := do
  match ← rest with
  | [] => failure
  | character :: rest =>
      goOn rest
      return character

def expect (expected : Char) : Reader Unit := do
  if (← take) ≠ expected then failure

/-- Reads a given character if it is there. -/
def skipOver (character : Char) : Reader Bool := do
  if (← rest).head? = some character then
    let _ ← take
    return true
  return false

/-- Reads the hexadecimal digits of a character, with skipping in between. -/
def coded (count : Nat) : Reader Char := do
  skip
  let digits ← (List.replicate count ()).mapM fun _ => do
    let digit ← take
    if (NumberForm.digitValue? 16 digit).isNone then failure
    skip
    return digit
  let code := NumberForm.valueOf 16 digits
  if code.isValidChar then return .ofNat code else failure

/-- What an escaped character other than a letter or a digit stands for. Only ASCII characters can
be escaped, and angle brackets have a meaning then. -/
def escapedSign (character : Char) : Reader PatternAtom := do
  if character == '<' || character == '>' then return .wordEdge
  if 0x80 ≤ character.toNat || character.isAlphanum then failure
  return .letter { character }

def escape : Reader PatternAtom := do
  let character ← take
  match character with
  | 'x' => return .letter { character := ← coded 2, isByte := true }
  | 'u' => return .letter { character := ← coded 4 }
  | 'U' => return .letter { character := ← coded 8 }
  | 'd' | 's' | 'w' => return .kind false
  | 'D' | 'S' | 'W' => return .kind true
  | 'A' | 'z' => return .textEdge
  | 'b' | 'B' => return .wordEdge
  | 'a' => return .letter { character := '\x07' }
  | 'f' => return .letter { character := '\x0c' }
  | 't' => return .letter { character := '\t' }
  | 'n' => return .letter { character := '\n' }
  | 'r' => return .letter { character := '\r' }
  | 'v' => return .letter { character := '\x0b' }
  | _ => escapedSign character

/-! ## Sets of characters -/

def setNames : List String :=
  ["alnum", "alpha", "ascii", "blank", "cntrl", "digit", "graph", "lower", "print", "punct",
    "space", "upper", "word", "xdigit"]

/-- The text after the name of a set, a colon and a bracket, if it starts with them. -/
def afterSetName? (text : List Char) : Option (List Char) :=
  let name := text.takeWhile (· != ':')
  match text.drop name.length with
  | ':' :: ']' :: rest => if setNames.contains (String.ofList name) then some rest else none
  | _ => none

/-- The set with a name in colons that follows a bracket, if there is one, and the text after it. -/
def named? : List Char → Option (SetMember × List Char)
  | ':' :: '^' :: text => (afterSetName? text).map fun rest => (.named true, rest)
  | ':' :: text => (afterSetName? text).map fun rest => (.named false, rest)
  | _ => none

/-- Reads a character of a set or an escape. -/
def setAtom : Reader PatternAtom := do
  let character ← take
  if character == '\\' then escape else return .letter { character }

/-- The character after a hyphen, blanks before it and the number sign of a comment not counted if
they are skipped. -/
def afterHyphen (cursor : Cursor) : Option Char :=
  let text := cursor.rest.drop 1
  if !cursor.skipping then text.head?
  else
    match text.dropWhile Text.isBlank with
    | '#' :: comment => (comment.dropWhile Text.isBlank).head?
    | text => text.head?

/-- Reads a member of a set that is no set itself: a character, an escape or a range. A hyphen makes
no range when a bracket or another hyphen follows. -/
def member : Reader SetMember := do
  let first ← setAtom
  skip
  let cursor ← get
  let next := afterHyphen cursor
  if cursor.rest.head? = some '-' ∧ next ≠ some ']' ∧ next ≠ some '-' then
    expect '-'
    skip
    match first, ← setAtom with
    | .letter first, .letter last =>
        if first.character ≤ last.character then return .range first last else failure
    | _, _ => failure
  else
    match first with
    | .letter letter => return .letter letter
    | .kind negated => return .kind negated
    | _ => failure

/-- Reads hyphens at the start of a set. -/
def hyphens : (steps : Nat) → Reader (List SetMember)
  | 0 => return []
  | steps + 1 => do
      if ← skipOver '-' then
        skip
        return .letter { character := '-' } :: (← hyphens steps)
      return []

/-- Reads the start of a set after its bracket: whether it is negated, and the hyphens or the
bracket that are members there. -/
def setStart : Reader (Bool × List SetMember) := do
  skip
  let negated ← skipOver '^'
  skip
  let first ← hyphens (← rest).length
  if first.isEmpty then
    if ← skipOver ']' then return (negated, [.letter { character := ']' }])
  return (negated, first)

/-- The set of some members, combined with the one before it. The members are given in reverse. -/
def combine (before : Option CharacterSet) (members : List SetMember) : CharacterSet :=
  match before with
  | none => .members members.reverse
  | some left => .combined left (.members members.reverse)

/-- Reads a set up to its closing bracket. `before` is the set in front of the last operator,
`members` are those read since, the last one first. -/
def setRest : (steps : Nat) → Option CharacterSet → List SetMember → Reader CharacterSet
  | 0, _, _ => failure
  | steps + 1, before, members => do
      skip
      match ← rest with
      | ']' :: rest =>
          goOn rest
          return combine before members
      | '&' :: '&' :: rest | '-' :: '-' :: rest | '~' :: '~' :: rest =>
          goOn rest
          setRest steps (combine before members) []
      | '[' :: rest =>
          match named? rest with
          | some (member, rest) =>
              goOn rest
              setRest steps before (member :: members)
          | none =>
              goOn rest
              let (negated, first) ← setStart
              let set ← setRest steps none first.reverse
              setRest steps before (.nested negated set :: members)
      | _ => setRest steps before ((← member) :: members)

/-! ## Groups -/

def flagLetters : List Char := ['i', 'm', 's', 'U', 'u', 'R', 'x']

/-- Reads flags up to a colon or a closing parenthesis. Each is given once; those after a hyphen are
switched off, and there is at least one of them. -/
def flags (change : FlagChange) (negates : Bool) (dangling : Bool) :
    List Char → Option (FlagChange × Char × List Char)
  | [] => none
  | character :: rest =>
      if character == ':' || character == ')' then
        if dangling then none else some (change, character, rest)
      else if character == '-' then
        if negates then none else flags change true true rest
      else if flagLetters.contains character && (change.state? character).isNone then
        let change :=
          if negates then { change with off := character :: change.off }
          else { change with on := character :: change.on }
        flags change negates false rest
      else none

/-- Whether a text can be the name of a group. -/
def isGroupName : List Char → Bool
  | [] => false
  | first :: rest =>
      (first == '_' || Text.isAlphabetic first) &&
        rest.all fun character =>
          ['_', '.', '[', ']'].contains character || Text.isAlphanumeric character

/-- Reads the name of a group with its closing angle bracket. Groups have different names. -/
def groupName : Reader Unit := do
  let name := (← rest).takeWhile (· != '>')
  goOn ((← rest).drop name.length)
  expect '>'
  if !isGroupName name || (← get).names.contains name then failure
  modify fun cursor => { cursor with names := name :: cursor.names }

/-- What follows an opening parenthesis: a change of flags, and whether a group begins. -/
def groupStart : Reader (FlagChange × Bool) := do
  skip
  match ← rest with
  | '?' :: 'P' :: '<' :: rest | '?' :: '<' :: rest =>
      goOn rest
      groupName
      return ({}, true)
  | '?' :: rest =>
      let (change, last, rest) ← flags {} false false rest
      goOn rest
      if last = ')' ∧ change = {} then failure
      return (change, last = ':')
  | _ => return ({}, true)

/-! ## Whole patterns -/

/-- The pattern of some branches, each a list of parts. All are given in reverse. -/
def ofBranches (branches : List Pattern) (parts : List Pattern) : Pattern :=
  let last := .sequence parts.reverse
  if branches.isEmpty then last else .choice (last :: branches).reverse

/-- Reads parts up to the end of a group or of the text. `branches` are the branches before, `parts`
the parts of this one, the last one first. -/
def parts : (steps : Nat) → (branches parts : List Pattern) → Reader Pattern
  | 0, _, _ => failure
  | steps + 1, branches, read => do
      skip
      match ← rest with
      | [] | ')' :: _ => return ofBranches branches read
      | '|' :: rest =>
          goOn rest
          parts steps (.sequence read.reverse :: branches) []
      | '(' :: rest =>
          goOn rest
          let (change, opens) ← groupStart
          let skipping := (← get).skipping
          setSkipping ((change.state? 'x').getD skipping)
          if opens then
            let inner ← parts steps [] []
            expect ')'
            setSkipping skipping
            parts steps branches (.group change inner :: read)
          else parts steps branches (.flags change :: read)
      | '[' :: rest =>
          goOn rest
          let (negated, first) ← setStart
          let set ← setRest steps none first.reverse
          parts steps branches (.atom (.set negated set) :: read)
      | '*' :: rest | '+' :: rest | '?' :: rest =>
          goOn rest
          let _ ← skipOver '?'
          match read with
          | [] | .flags _ :: _ => failure
          | operand :: read => parts steps branches (.repeated operand :: read)
      | '\x7b' :: _ => failure
      | '.' :: rest =>
          goOn rest
          parts steps branches (.atom .anyCharacter :: read)
      | '^' :: rest | '$' :: rest =>
          goOn rest
          parts steps branches (.atom .textEdge :: read)
      | '\\' :: rest =>
          goOn rest
          parts steps branches (.atom (← escape) :: read)
      | character :: rest =>
          goOn rest
          parts steps branches (.atom (.letter { character }) :: read)

end Reader

/-- Reads a pattern. Every step takes a character, so the number of steps is bounded. -/
def ofText? (text : List Char) : Option Pattern := do
  let (pattern, cursor) ← (Reader.parts (text.length + 1) [] []).run { rest := text }
  if cursor.rest.isEmpty then return pattern else none

end Pattern

end DnsFilter
