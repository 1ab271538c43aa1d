import DnsFilter.Json.Value

/-!
# Reading JSON documents

The grammar of JSON over bytes. Strings are checked for control characters and for the outer form of
their escapes; whether they are well-formed text is up to their reader. Every reader here returns
what it found and the bytes after it, or nothing when the bytes do not fit.

Readers of values carry a measure of the bytes left, which every step lowers; a document is read
with one more than its length, so the measure never runs out first.
-/

namespace DnsFilter.Json

def isSpace (byte : UInt8) : Bool :=
  byte == byteOf ' ' || byte == byteOf '\t' || byte == byteOf '\n' || byte == byteOf '\r'

def skipSpace (bytes : List UInt8) : List UInt8 := bytes.dropWhile isSpace

def isHexDigit (byte : UInt8) : Bool :=
  isDigit byte || (byteOf 'a' ≤ byte && byte ≤ byteOf 'f') ||
    (byteOf 'A' ≤ byte && byte ≤ byteOf 'F')

/-- Characters that may follow a backslash alone. -/
def isSimpleEscape (byte : UInt8) : Bool := (bytesOf "\"\\/bfnrt").contains byte

/-- Reads the body of a string up to its closing quote. -/
def readString? : List UInt8 → Option (List UInt8 × List UInt8)
  | [] => none
  | byte :: rest =>
      if byte == byteOf '"' then some ([], rest)
      else if byte < 0x20 then none
      else if byte == byteOf '\\' then
        match rest with
        | escape :: rest =>
            if isSimpleEscape escape then
              (readString? rest).map fun (body, rest) => (byte :: escape :: body, rest)
            else if escape == byteOf 'u' then
              match rest with
              | a :: b :: c :: d :: rest =>
                  if isHexDigit a && isHexDigit b && isHexDigit c && isHexDigit d then
                    (readString? rest).map fun (body, rest) =>
                      (byte :: escape :: a :: b :: c :: d :: body, rest)
                  else none
              | _ => none
            else none
        | [] => none
      else (readString? rest).map fun (body, rest) => (byte :: body, rest)

def readDigits? (bytes : List UInt8) : Option (List UInt8 × List UInt8) :=
  let digits := bytes.takeWhile isDigit
  if digits.isEmpty then none else some (digits, bytes.dropWhile isDigit)

/-- Reads the digits before a fraction: a zero stands alone. -/
def readWhole? (bytes : List UInt8) : Option (List UInt8 × List UInt8) :=
  (readDigits? bytes).filter fun (digits, _) =>
    digits.head? != some (byteOf '0') || digits.length == 1

/-- Reads a fraction, if there is one. -/
def readFraction? : List UInt8 → Option (List UInt8 × List UInt8)
  | byte :: rest =>
      if byte == byteOf '.' then
        (readDigits? rest).map fun (digits, rest) => (byte :: digits, rest)
      else some ([], byte :: rest)
  | [] => some ([], [])

/-- Reads the sign of an exponent, if there is one. -/
def readSign : List UInt8 → List UInt8 × List UInt8
  | byte :: rest =>
      if byte == byteOf '+' || byte == byteOf '-' then ([byte], rest) else ([], byte :: rest)
  | [] => ([], [])

/-- Reads an exponent, if there is one. -/
def readExponent? : List UInt8 → Option (List UInt8 × List UInt8)
  | byte :: rest =>
      if byte == byteOf 'e' || byte == byteOf 'E' then
        let (sign, rest) := readSign rest
        (readDigits? rest).map fun (digits, rest) => (byte :: sign ++ digits, rest)
      else some ([], byte :: rest)
  | [] => some ([], [])

/-- Reads a minus sign, if there is one. -/
def readMinus : List UInt8 → List UInt8 × List UInt8
  | byte :: rest => if byte == byteOf '-' then ([byte], rest) else ([], byte :: rest)
  | [] => ([], [])

def readNumber? (bytes : List UInt8) : Option (List UInt8 × List UInt8) := do
  let (minus, bytes) := readMinus bytes
  let (whole, bytes) ← readWhole? bytes
  let (fraction, bytes) ← readFraction? bytes
  let (exponent, bytes) ← readExponent? bytes
  return (minus ++ whole ++ fraction ++ exponent, bytes)

def readLiteral? (literal bytes : List UInt8) : Option (List UInt8) :=
  if literal.isPrefixOf bytes then some (bytes.drop literal.length) else none

/-- Reads one of the names that stand for a value, or a number. -/
def readScalar? (bytes : List UInt8) : Option (Json × List UInt8) :=
  match readLiteral? (bytesOf "null") bytes with
  | some rest => some (null, rest)
  | none =>
      match readLiteral? (bytesOf "true") bytes with
      | some rest => some (bool true, rest)
      | none =>
          match readLiteral? (bytesOf "false") bytes with
          | some rest => some (bool false, rest)
          | none => (readNumber? bytes).map fun (literal, rest) => (number literal, rest)

/-- Reads the key of a member up to the value. -/
def readKey? (bytes : List UInt8) : Option (List UInt8 × List UInt8) := do
  let bytes ← readLiteral? [byteOf '"'] (skipSpace bytes)
  let (key, bytes) ← readString? bytes
  let bytes ← readLiteral? [byteOf ':'] (skipSpace bytes)
  return (key, bytes)

mutual

/-- Reads a value, after blanks. -/
def readValue? : Nat → List UInt8 → Option (Json × List UInt8)
  | 0, _ => none
  | measure + 1, bytes =>
      match skipSpace bytes with
      | [] => none
      | byte :: rest =>
          if byte == byteOf '"' then (readString? rest).map fun (body, rest) => (string body, rest)
          else if byte == byteOf '[' then
            match readLiteral? [byteOf ']'] (skipSpace rest) with
            | some rest => some (array [], rest)
            | none => (readItems? measure rest).map fun (items, rest) => (array items, rest)
          else if byte == byteOf '\x7b' then
            match readLiteral? [byteOf '\x7d'] (skipSpace rest) with
            | some rest => some (object [], rest)
            | none => (readMembers? measure rest).map fun (members, rest) => (object members, rest)
          else readScalar? (byte :: rest)

/-- Reads the items of an array, at least one, up to its end. -/
def readItems? : Nat → List UInt8 → Option (List Json × List UInt8)
  | 0, _ => none
  | measure + 1, bytes =>
      match readValue? measure bytes with
      | none => none
      | some (item, bytes) =>
          match skipSpace bytes with
          | [] => none
          | byte :: rest =>
              if byte == byteOf ']' then some ([item], rest)
              else if byte == byteOf ',' then
                (readItems? measure rest).map fun (items, rest) => (item :: items, rest)
              else none

/-- Reads the members of an object, at least one, up to its end. -/
def readMembers? : Nat → List UInt8 → Option (List (List UInt8 × Json) × List UInt8)
  | 0, _ => none
  | measure + 1, bytes =>
      match readKey? bytes with
      | none => none
      | some (key, bytes) =>
          match readValue? measure bytes with
          | none => none
          | some (value, bytes) =>
              match skipSpace bytes with
              | [] => none
              | byte :: rest =>
                  if byte == byteOf '\x7d' then some ([(key, value)], rest)
                  else if byte == byteOf ',' then
                    (readMembers? measure rest).map fun (members, rest) =>
                      ((key, value) :: members, rest)
                  else none

end

/-- Reads a whole document. Only blanks may surround its value. -/
def parse? (bytes : List UInt8) : Option Json :=
  match readValue? (bytes.length + 1) bytes with
  | some (value, rest) => if (skipSpace rest).isEmpty then some value else none
  | none => none

end DnsFilter.Json
