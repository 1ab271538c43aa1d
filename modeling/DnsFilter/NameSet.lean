import Std.Data.TreeSet
import DnsFilter.Question

/-!
# Sets of names and the block set

A set of names is ordered by code points. The block set holds names without a final dot and in lower
case; looking a name up ignores one final dot and the case of ASCII letters. Subdomains are blocked
only when they are members themselves.
-/

namespace DnsFilter

abbrev NameSet := Std.TreeSet String

/-- A name as the block set holds it: without one final dot, ASCII letters in lower case. -/
def foldName (name : String) : String :=
  String.ofList ((dropFinalDot name.toList).map Char.toLower)

/-- The names for which address queries get a null route. -/
structure BlockSet where
  names : NameSet := ∅

namespace BlockSet

def blocks (blocked : BlockSet) (name : String) : Bool := blocked.names.contains (foldName name)

def size (blocked : BlockSet) : Nat := blocked.names.size

def isEmpty (blocked : BlockSet) : Bool := blocked.size == 0

/-- Takes over a new set as a whole. -/
def reload (_previous : BlockSet) (names : NameSet) : BlockSet := ⟨names⟩

end BlockSet

end DnsFilter
