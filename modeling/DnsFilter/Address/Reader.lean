import DnsFilter.Address.Basic
import DnsFilter.Text.Number

/-!
# Reading addresses

The accepted texts are strict: an octet of an IPv4 address has at most three digits and no needless
zero in front, a group of an IPv6 address has at most four digits, `::` stands for at least one
group, and a dotted IPv4 tail may take the place of the last two groups. Socket numbers and scopes
are decimal numbers of any length. Nothing may surround an address.
-/

namespace DnsFilter

/-- An octet of an IPv4 address. -/
def NumberForm.octet : NumberForm := ⟨10, some 3, false, UInt8.size⟩

/-- A group of an IPv6 address. -/
def NumberForm.group : NumberForm := ⟨16, some 4, true, UInt16.size⟩

def NumberForm.socket : NumberForm := ⟨10, none, true, UInt16.size⟩

/-- A scope of an IPv6 socket address. -/
def NumberForm.scope : NumberForm := ⟨10, none, true, UInt32.size⟩

def expect? (expected : Char) : List Char → Option (List Char)
  | [] => none
  | character :: rest => if character = expected then some rest else none

/-- What a reader found, provided that nothing is left over. -/
def complete? {α : Type} : Option (α × List Char) → Option α
  | some (found, []) => some found
  | _ => none

namespace IPv4

/-- Reads an address at the front of a text. -/
def read? (text : List Char) : Option (IPv4 × List Char) := do
  let (first, text) ← NumberForm.octet.read? text
  let text ← expect? '.' text
  let (second, text) ← NumberForm.octet.read? text
  let text ← expect? '.' text
  let (third, text) ← NumberForm.octet.read? text
  let text ← expect? '.' text
  let (fourth, text) ← NumberForm.octet.read? text
  return (⟨first.toUInt8, second.toUInt8, third.toUInt8, fourth.toUInt8⟩, text)

def ofText? (text : String) : Option IPv4 := complete? (read? text.toList)

/-- The address as two groups of an IPv6 address. -/
def groups (address : IPv4) : List UInt16 :=
  [address.first.toUInt16 <<< 8 ||| address.second.toUInt16,
    address.third.toUInt16 <<< 8 ||| address.fourth.toUInt16]

end IPv4

namespace IPv6

/-- Groups read at the front of a text. -/
structure Groups where
  groups : List UInt16
  /-- Whether the last two groups were written as an IPv4 address. -/
  dotted : Bool
  rest : List Char

/-- Reads groups with colons between them until `room` groups are read or none follows. A dotted
address needs room for two groups and ends the sequence. -/
def readGroups : (room : Nat) → (atStart : Bool) → List Char → Groups
  | 0, _, text => ⟨[], false, text⟩
  | room + 1, atStart, text =>
      match if atStart then some text else expect? ':' text with
      | none => ⟨[], false, text⟩
      | some body =>
          match if 0 < room then IPv4.read? body else none with
          | some (address, rest) => ⟨address.groups, true, rest⟩
          | none =>
              match NumberForm.group.read? body with
              | none => ⟨[], false, text⟩
              | some (group, rest) =>
                  let more := readGroups room false rest
                  { more with groups := group.toUInt16 :: more.groups }

/-- Reads an address at the front of a text: eight groups, or fewer with one `::`. -/
def read? (text : List Char) : Option (IPv6 × List Char) :=
  let front := readGroups 8 true text
  if front.groups.length = 8 then some (ofList front.groups, front.rest)
  else if front.dotted then none
  else do
    let rest ← expect? ':' front.rest
    let rest ← expect? ':' rest
    let back := readGroups (7 - front.groups.length) true rest
    let zeros := List.replicate (8 - front.groups.length - back.groups.length) 0
    return (ofList (front.groups ++ zeros ++ back.groups), back.rest)

def ofText? (text : String) : Option IPv6 := complete? (read? text.toList)

end IPv6

def IPAddress.ofText? (text : String) : Option IPAddress :=
  match IPv4.ofText? text with
  | some address => some (.v4 address)
  | none => (IPv6.ofText? text).map .v6

namespace SocketAddress

/-- Reads `a.b.c.d:number`. -/
def readV4? (text : List Char) : Option (SocketAddress × List Char) := do
  let (address, text) ← IPv4.read? text
  let text ← expect? ':' text
  let (number, text) ← NumberForm.socket.read? text
  return (.v4 address number.toUInt16, text)

/-- Reads the scope of an IPv6 socket address; without a `%` it is zero. -/
def readScope? (text : List Char) : Option (Nat × List Char) :=
  match expect? '%' text with
  | some digits => NumberForm.scope.read? digits
  | none => some (0, text)

/-- Reads `[address]:number` or `[address%scope]:number`. -/
def readV6? (text : List Char) : Option (SocketAddress × List Char) := do
  let text ← expect? '[' text
  let (address, text) ← IPv6.read? text
  let (scope, text) ← readScope? text
  let text ← expect? ']' text
  let text ← expect? ':' text
  let (number, text) ← NumberForm.socket.read? text
  return (.v6 address number.toUInt16 scope.toUInt32, text)

def ofText? (text : String) : Option SocketAddress :=
  match complete? (readV4? text.toList) with
  | some socket => some socket
  | none => complete? (readV6? text.toList)

end SocketAddress

end DnsFilter
