import DnsFilter.Text.Number

/-!
# Request targets

A request target is a path and, after a question mark, a query; a fragment is not part of it. Both
are percent-encoded. In a query a plus sign stands for a space, and bytes that are no text become
replacement characters.
-/

namespace DnsFilter.Admin

/-- The target of a request, still percent-encoded. -/
structure Target where
  path : List UInt8
  query : Option (List UInt8)
  deriving DecidableEq, Repr

def byteOf (character : Char) : UInt8 := character.toNat.toUInt8

/-- The value of a byte that is a hexadecimal digit. -/
def hexValue? (byte : UInt8) : Option Nat := NumberForm.digitValue? 16 (Char.ofUInt8 byte)

/-- Bytes that may stand in a path: the printable ones except angle brackets and the grave accent.
-/
def isPathByte (byte : UInt8) : Bool :=
  0x21 ≤ byte && byte ≤ 0x7e && !([byteOf '<', byteOf '>', 0x60].contains byte)

/-- Bytes that may stand in a query: the printable ones except angle brackets and the quote. -/
def isQueryByte (byte : UInt8) : Bool :=
  0x21 ≤ byte && byte ≤ 0x7e &&
    !([byteOf '"', byteOf '<', byteOf '>'].contains byte)

/-- Reads the target of a request. It starts with a slash. -/
def Target.ofText? (text : String) : Option Target :=
  let bytes := text.toUTF8.toList.takeWhile (· != byteOf '#')
  let path := bytes.takeWhile (· != byteOf '?')
  let query := (bytes.dropWhile (· != byteOf '?')).tail?
  if path.head? = some (byteOf '/') && path.all isPathByte &&
      (query.all fun query => query.all isQueryByte) then
    some { path, query }
  else none

/-- Replaces each percent sign and two hexadecimal digits by the byte that they stand for. -/
def percentDecode : List UInt8 → List UInt8
  | 0x25 :: high :: low :: rest =>
      match hexValue? high, hexValue? low with
      | some high, some low => (high * 16 + low).toUInt8 :: percentDecode rest
      | _, _ => 0x25 :: percentDecode (high :: low :: rest)
  | byte :: rest => byte :: percentDecode rest
  | [] => []

/-- The text of a piece of a path, if its bytes are well-formed UTF-8. -/
def pathText? (piece : List UInt8) : Option String :=
  String.fromUTF8? ⟨(percentDecode piece).toArray⟩

/-- The bytes of a piece of a query. -/
def queryBytes (piece : List UInt8) : List UInt8 :=
  percentDecode (piece.map fun byte => if byte == byteOf '+' then byteOf ' ' else byte)

/-- The names and values of a query, as bytes. A piece without an equals sign is a name without a
value, and an empty piece is none. -/
def queryPairs (query : List UInt8) : List (List UInt8 × List UInt8) :=
  ((query.splitOn (byteOf '&')).filter fun piece => !piece.isEmpty).map fun piece =>
    (queryBytes (piece.takeWhile (· != byteOf '=')),
      queryBytes ((piece.dropWhile (· != byteOf '=')).drop 1))

end DnsFilter.Admin
