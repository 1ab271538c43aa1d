import DnsFilter.Json.Value

/-!
# Writing JSON documents

Documents are written without blanks. In a string the quote, the backslash and the control
characters are escaped and all else stands as it is.
-/

namespace DnsFilter.Json

def hexPair (byte : UInt8) : List UInt8 :=
  [byteOf (Nat.digitChar (byte.toNat / 16)), byteOf (Nat.digitChar (byte.toNat % 16))]

/-- The written form of a byte inside a string. -/
def escapeByte (byte : UInt8) : List UInt8 :=
  if byte == byteOf '"' || byte == byteOf '\\' then [byteOf '\\', byte]
  else if byte == 8 then bytesOf "\\b"
  else if byte == 9 then bytesOf "\\t"
  else if byte == 10 then bytesOf "\\n"
  else if byte == 12 then bytesOf "\\f"
  else if byte == 13 then bytesOf "\\r"
  else if byte < 0x20 then bytesOf "\\u00" ++ hexPair byte
  else [byte]

def ofText (text : String) : Json := string ((bytesOf text).flatMap escapeByte)

def ofNat (value : Nat) : Json := number (bytesOf (toString value))

def ofInt (value : Int) : Json := number (bytesOf (toString value))

def ofMembers (members : List (String × Json)) : Json :=
  object (members.map fun member => ((bytesOf member.1).flatMap escapeByte, member.2))

/-- The body of a string between its quotes. -/
def quoted (body : List UInt8) : List UInt8 := byteOf '"' :: body ++ [byteOf '"']

mutual

def render : Json → List UInt8
  | null => bytesOf "null"
  | bool value => bytesOf (if value then "true" else "false")
  | number literal => literal
  | string body => quoted body
  | array items => byteOf '[' :: renderItems items ++ [byteOf ']']
  | object members => byteOf '\x7b' :: renderMembers members ++ [byteOf '\x7d']

/-- The written form of items with commas between them. -/
def renderItems : List Json → List UInt8
  | [] => []
  | [item] => render item
  | item :: items => render item ++ byteOf ',' :: renderItems items

/-- The written form of members with commas between them. -/
def renderMembers : List (List UInt8 × Json) → List UInt8
  | [] => []
  | [(key, value)] => quoted key ++ byteOf ':' :: render value
  | (key, value) :: members =>
      quoted key ++ byteOf ':' :: render value ++ byteOf ',' :: renderMembers members

end

/-- The text of a document whose strings are well-formed. -/
def text (document : Json) : String := (String.fromUTF8? ⟨(render document).toArray⟩).getD ""

end DnsFilter.Json
