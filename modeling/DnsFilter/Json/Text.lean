import DnsFilter.Json.Value

/-!
# Text of JSON strings

The text that the body of a string stands for. A code unit of a surrogate pair may only be written
together with its partner, and the bytes besides escapes must be well-formed UTF-8.
-/

namespace DnsFilter.Json

/-- The value of a hexadecimal digit of either case. -/
def hexDigitValue (byte : UInt8) : Nat :=
  if isDigit byte then (byte - byteOf '0').toNat
  else if byteOf 'a' ≤ byte then (byte - byteOf 'a').toNat + 10
  else (byte - byteOf 'A').toNat + 10

/-- The code unit of sixteen bits that four hexadecimal digits stand for. -/
def codeUnit (digits : List UInt8) : Nat :=
  digits.foldl (fun value digit => value * 16 + hexDigitValue digit) 0

/-- The first code unit of a surrogate pair. -/
def isHighSurrogate (unit : Nat) : Bool := 0xd800 ≤ unit && unit < 0xdc00

/-- The second code unit of a surrogate pair. -/
def isLowSurrogate (unit : Nat) : Bool := 0xdc00 ≤ unit && unit < 0xe000

/-- The character that a surrogate pair stands for. -/
def surrogatePair (high low : Nat) : Char :=
  Char.ofNat (0x10000 + (high - 0xd800) * 0x400 + (low - 0xdc00))

def characterBytes (character : Char) : List UInt8 := bytesOf (String.singleton character)

/-- The byte that a backslash and a letter stand for. -/
def simpleEscape (letter : UInt8) : UInt8 :=
  if letter == byteOf 'b' then 8
  else if letter == byteOf 'f' then 12
  else if letter == byteOf 'n' then 10
  else if letter == byteOf 'r' then 13
  else if letter == byteOf 't' then 9
  else letter

/-- The bytes that the body of a string stands for. Escapes are taken to have the form that the
grammar asks for. -/
def unescape? : List UInt8 → Option (List UInt8)
  | [] => some []
  | 0x5c :: 0x75 :: a :: b :: c :: d :: rest =>
      let unit := codeUnit [a, b, c, d]
      if isHighSurrogate unit then
        match rest with
        | 0x5c :: 0x75 :: e :: f :: g :: h :: rest =>
            let partner := codeUnit [e, f, g, h]
            if isLowSurrogate partner then
              (unescape? rest).map (characterBytes (surrogatePair unit partner) ++ ·)
            else none
        | _ => none
      else if isLowSurrogate unit then none
      else (unescape? rest).map (characterBytes (Char.ofNat unit) ++ ·)
  | 0x5c :: letter :: rest => (unescape? rest).map (simpleEscape letter :: ·)
  | byte :: rest => (unescape? rest).map (byte :: ·)

/-- The text that the body of a string stands for. -/
def textOf? (body : List UInt8) : Option String :=
  (unescape? body).bind fun bytes => String.fromUTF8? ⟨bytes.toArray⟩

def text? : Json → Option String
  | string body => textOf? body
  | _ => none

/-- The items of an array value, each read in the same way. -/
def list? {α : Type} (read? : Json → Option α) : Json → Option (List α)
  | array items => items.mapM read?
  | _ => none

end DnsFilter.Json
