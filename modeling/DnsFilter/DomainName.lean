/-!
# Domain names

A domain name is its sequence of labels, from the host up to the top level; the root has none. A
label is a sequence of arbitrary bytes, and no label of a name is empty. The written form escapes
every byte that could be mistaken for something else, so that it determines the labels.
-/

namespace DnsFilter

/-- One label of a domain name, as bytes. Letter case is kept. -/
abbrev Label := List UInt8

/-- An absolute domain name. -/
structure DomainName where
  labels : List Label
  labels_nonempty : ∀ label ∈ labels, label ≠ []
  deriving DecidableEq, Repr

namespace Label

/-- Letters, digits and the underscore, which are written as they are everywhere. -/
def isPlain (byte : UInt8) : Bool :=
  let character := Char.ofUInt8 byte
  character.isAlphanum || character == '_'

/-- Printable bytes other than the space. -/
def isGraphic (byte : UInt8) : Bool := 0x21 ≤ byte && byte ≤ 0x7e

def octalDigit (value : UInt8) : Char := Nat.digitChar (value.toNat % 8)

/-- A byte as three octal digits. -/
def octal (byte : UInt8) : List Char :=
  [octalDigit (byte >>> 6), octalDigit (byte >>> 3), octalDigit byte]

/-- The written form of a byte. A hyphen stands for itself except at the start of its label, an
asterisk only there. Other printable bytes follow a backslash; the remaining ones are a backslash
and three octal digits. -/
def escapeByte (atStart : Bool) (byte : UInt8) : List Char :=
  if isPlain byte then [Char.ofUInt8 byte]
  else if Char.ofUInt8 byte == '-' && !atStart then ['-']
  else if Char.ofUInt8 byte == '*' && atStart then ['*']
  else if isGraphic byte then ['\\', Char.ofUInt8 byte]
  else '\\' :: octal byte

/-- The byte of the same letter in lower case, or of the same character. -/
def lowercaseByte (byte : UInt8) : UInt8 :=
  if 0x41 ≤ byte && byte ≤ 0x5a then byte + 0x20 else byte

def escape : Label → List Char
  | [] => []
  | byte :: bytes => escapeByte true byte ++ bytes.flatMap (escapeByte false)

end Label

namespace DomainName

def root : DomainName := ⟨[], by simp⟩

instance : Inhabited DomainName := ⟨root⟩

/-- The name with the given labels, unless one of them is empty. -/
def ofLabels? (labels : List Label) : Option DomainName :=
  if nonempty : ∀ label ∈ labels, label ≠ [] then some ⟨labels, nonempty⟩ else none

def maxSize : Nat := 255

/-- The number of bytes of a name in a message: each label with a byte for its length in front, and
one byte for the root. -/
def size (name : DomainName) : Nat :=
  name.labels.foldr (fun label size => label.length + 1 + size) 1

/-- The name with its ASCII letters in lower case. -/
def lowercase (name : DomainName) : DomainName where
  labels := name.labels.map (·.map Label.lowercaseByte)
  labels_nonempty := by simpa using name.labels_nonempty

/-- The characters of the written form: each label and a dot after it. The root is a lone dot. -/
def characters (name : DomainName) : List Char :=
  match name.labels with
  | [] => ['.']
  | labels => labels.flatMap fun label => label.escape ++ ['.']

/-- The written form of a name, with the final dot. -/
def toText (name : DomainName) : String := String.ofList name.characters

/-- The bytes of a text whose characters are all below U+0100. -/
def bytesOf? (text : List Char) : Option (List UInt8) :=
  text.mapM fun character => if character.toNat < 256 then some character.toNat.toUInt8 else none

/-- The name whose labels are the pieces of a text between dots, one byte for each character. One
final dot is dropped, so the empty text and a lone dot are the root. Other pieces must not be empty.
-/
def ofText? (text : String) : Option DomainName := do
  let characters := text.toList
  let body := if characters.getLast? = some '.' then characters.dropLast else characters
  if body.isEmpty then return root
  ofLabels? (← (body.splitOn '.').mapM bytesOf?)

end DomainName

end DnsFilter
