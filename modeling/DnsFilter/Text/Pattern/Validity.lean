import DnsFilter.Text.Pattern.Reader

/-!
# Valid patterns

Which patterns can be built. A pattern works on characters while the flag `u` is set, as it is at
first, and on bytes otherwise. On characters nothing is available that needs a table of them: kinds
of characters, and letters in either case. On bytes a pattern must not match a part of a character.
And the edges of words can be told apart on bytes only.
-/

namespace DnsFilter

/-- The flags that decide what an atom means. -/
structure PatternFlags where
  unicode : Bool := true
  ignoresCase : Bool := false
  deriving DecidableEq, Repr

def PatternFlags.apply (flags : PatternFlags) (change : FlagChange) : PatternFlags :=
  { unicode := (change.state? 'u').getD flags.unicode
    ignoresCase := (change.state? 'i').getD flags.ignoresCase }

/-- Whether a character can be listed in a set. -/
def PatternLetter.isListable (letter : PatternLetter) (flags : PatternFlags) : Bool :=
  if flags.unicode then !flags.ignoresCase else letter.character.toNat < 0x80

mutual

/-- Whether a member of a set is available. -/
def SetMember.isAvailable (flags : PatternFlags) : SetMember → Bool
  | .letter sign => sign.isListable flags
  | .range first last => first.isListable flags && last.isListable flags
  | .named negated => if flags.unicode then !flags.ignoresCase else !negated
  | .kind negated => !flags.unicode && !negated
  | .nested negated set => (flags.unicode || !negated) && set.isAvailable flags

def CharacterSet.isAvailable (flags : PatternFlags) : CharacterSet → Bool
  | .members listed => SetMember.areAvailable flags listed
  | .combined left right => left.isAvailable flags && right.isAvailable flags

def SetMember.areAvailable (flags : PatternFlags) : List SetMember → Bool
  | [] => true
  | member :: members => member.isAvailable flags && SetMember.areAvailable flags members

end

namespace PatternAtom

def isAvailable (flags : PatternFlags) : PatternAtom → Bool
  | .letter sign =>
      if flags.unicode then !flags.ignoresCase
      else !sign.isByte || sign.character.toNat < 0x80
  | .anyCharacter => flags.unicode
  | .textEdge | .wordEdge => true
  | .kind negated => !flags.unicode && !negated
  | .set negated content => (flags.unicode || !negated) && content.isAvailable flags

/-- Whether an atom is the edge of a word, told apart by characters. -/
def isUnicodeWordEdge (flags : PatternFlags) : PatternAtom → Bool
  | .wordEdge => flags.unicode
  | _ => false

end PatternAtom

/-- What is wrong with the text of a pattern. -/
inductive PatternError where
  /-- It is not the text of a pattern, or the pattern has parts that are not available. -/
  | malformed
  /-- The pattern asks for edges of words among characters. -/
  | wordEdges
  deriving DecidableEq, Repr

def PatternError.message : PatternError → String
  | malformed => "error building NFA"
  | wordEdges =>
      "unsupported regex feature for DFAs: cannot build DFAs for regexes with Unicode word " ++
        "boundaries; switch to ASCII word boundaries, or heuristically enable Unicode word " ++
        "boundaries or use a different regex engine"

namespace Pattern

def maxHeight : Nat := 250

mutual

/-- The atoms of a pattern, each with the flags that are set where it stands, and the flags after
the pattern. A group restores the flags. -/
def atomsUnder (current : PatternFlags) : Pattern → List (PatternFlags × PatternAtom) × PatternFlags
  | .atom single => ([(current, single)], current)
  | .flags change => ([], current.apply change)
  | .repeated pattern => atomsUnder current pattern
  | .group change pattern => ((atomsUnder (current.apply change) pattern).1, current)
  | .sequence patterns => atomsOfAll current patterns
  | .choice branches => atomsOfAll current branches

/-- The atoms of some patterns that follow each other. -/
def atomsOfAll (current : PatternFlags) :
    List Pattern → List (PatternFlags × PatternAtom) × PatternFlags
  | [] => ([], current)
  | pattern :: patterns =>
      let (first, between) := atomsUnder current pattern
      let (others, last) := atomsOfAll between patterns
      (first ++ others, last)

end

/-- The atoms of a pattern under the flags that are set where they stand. -/
def atoms (pattern : Pattern) : List (PatternFlags × PatternAtom) := (pattern.atomsUnder {}).1

/-- Whether everything in a pattern is available and nothing is nested too deep. -/
def isBuildable (pattern : Pattern) : Bool :=
  pattern.height ≤ maxHeight &&
    pattern.atoms.all fun entry => entry.2.isAvailable entry.1

/-- Whether a pattern asks for edges of words among characters. -/
def hasUnicodeWordEdges (pattern : Pattern) : Bool :=
  pattern.atoms.any fun entry => entry.2.isUnicodeWordEdge entry.1

def check (text : List Char) : Except PatternError Unit :=
  match (ofText? text).filter isBuildable with
  | none => .error .malformed
  | some pattern => if pattern.hasUnicodeWordEdges then .error .wordEdges else .ok ()

end Pattern

end DnsFilter
