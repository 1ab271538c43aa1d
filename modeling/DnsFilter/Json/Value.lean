/-!
# JSON documents

A document keeps its strings and numbers as they were written, so that each reader decides how
closely to look at them: a value that nobody asks for is only checked for its outer form. The
members of an object keep their order and may repeat a key.
-/

namespace DnsFilter

/-- A JSON value. A string is the bytes between its quotes, escapes included; a number is its
literal. -/
inductive Json where
  | null
  | bool (value : Bool)
  | number (literal : List UInt8)
  | string (body : List UInt8)
  | array (items : List Json)
  | object (members : List (List UInt8 × Json))
  deriving Repr, Inhabited

namespace Json

def byteOf (character : Char) : UInt8 := character.toNat.toUInt8

def bytesOf (text : String) : List UInt8 := text.toUTF8.toList

def isDigit (byte : UInt8) : Bool := byteOf '0' ≤ byte && byte ≤ byteOf '9'

/-- The number that a literal stands for, when it is written with digits alone. -/
def natOf? (literal : List UInt8) : Option Nat :=
  if literal.isEmpty || !literal.all isDigit then none
  else some (literal.foldl (fun value digit => value * 10 + (digit - byteOf '0').toNat) 0)

def nat? : Json → Option Nat
  | number literal => natOf? literal
  | _ => none

end Json

end DnsFilter
