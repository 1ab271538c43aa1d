/-!
# Patterns

Regular expressions as trees. A pattern may change flags, for a group or for the rest of one; what
its parts mean depends on the flags that are set where they stand. Nothing is matched here.
-/

namespace DnsFilter

structure PatternLetter where
  character : Char
  /-- Whether it was written as the two hexadecimal digits of a byte. -/
  isByte : Bool := false
  deriving DecidableEq, Repr

mutual

inductive SetMember where
  | letter (letter : PatternLetter)
  | range (first last : PatternLetter)
  /-- A set of ASCII characters with a name, such as the letters, or all but those. -/
  | named (negated : Bool)
  /-- Digits, blanks or characters of words, or all but those. -/
  | kind (negated : Bool)
  | nested (negated : Bool) (set : CharacterSet)

inductive CharacterSet where
  | members (members : List SetMember)
  /-- What two sets have in common, what only the first has or what only one of them has. -/
  | combined (left right : CharacterSet)

end

/-- A part of a pattern without parts of its own that could change flags. -/
inductive PatternAtom where
  | letter (letter : PatternLetter)
  | anyCharacter
  /-- The start or the end of the text or of a line. -/
  | textEdge
  /-- The start or the end of a word, or a place that is neither. -/
  | wordEdge
  /-- Digits, blanks or characters of words, or all but those. -/
  | kind (negated : Bool)
  | set (negated : Bool) (set : CharacterSet)

/-- Flags that are switched on and off, by their letters. -/
structure FlagChange where
  on : List Char := []
  off : List Char := []
  deriving DecidableEq, Repr

/-- The state of a flag after a change, if the change concerns it. -/
def FlagChange.state? (change : FlagChange) (flag : Char) : Option Bool :=
  if change.on.contains flag then some true
  else if change.off.contains flag then some false
  else none

inductive Pattern where
  | atom (atom : PatternAtom)
  /-- A change of flags for the rest of the group. -/
  | flags (change : FlagChange)
  | repeated (pattern : Pattern)
  /-- A group, with a change of flags for what is in it. -/
  | group (change : FlagChange) (pattern : Pattern)
  | sequence (patterns : List Pattern)
  | choice (branches : List Pattern)

/-- The height of a list of parts with the given greatest height: a list of less than two adds
nothing. -/
def heightOfList (count greatest : Nat) : Nat := if 1 < count then greatest + 1 else greatest

mutual

/-- How deep sets are nested in a member. -/
def SetMember.height : SetMember → Nat
  | .nested _ set => set.height + 1
  | _ => 0

/-- How deep sets, lists and operations are nested in a set. -/
def CharacterSet.height : CharacterSet → Nat
  | .members members => heightOfList members.length (SetMember.greatestHeight members)
  | .combined left right => max left.height right.height + 1

def SetMember.greatestHeight : List SetMember → Nat
  | [] => 0
  | member :: members => max member.height (SetMember.greatestHeight members)

end

/-- How deep sets are nested in an atom. -/
def PatternAtom.height : PatternAtom → Nat
  | .set _ content => content.height + 1
  | _ => 0

mutual

/-- How deep sets, repetitions, groups and lists are nested in a pattern. -/
def Pattern.height : Pattern → Nat
  | .atom single => single.height
  | .flags _ => 0
  | .repeated pattern => pattern.height + 1
  | .group _ pattern => pattern.height + 1
  | .sequence patterns => heightOfList patterns.length (Pattern.greatestHeight patterns)
  | .choice branches => heightOfList branches.length (Pattern.greatestHeight branches)

def Pattern.greatestHeight : List Pattern → Nat
  | [] => 0
  | pattern :: patterns => max pattern.height (Pattern.greatestHeight patterns)

end

end DnsFilter
