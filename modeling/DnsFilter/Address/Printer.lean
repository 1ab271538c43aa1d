import DnsFilter.Address.Basic

/-!
# Written form of addresses

IPv4 addresses are dotted decimal. IPv6 addresses are in their canonical form: lower-case
hexadecimal groups without leading zeros, the longest run of two or more zero groups, the first one
on a tie, written `::`, and IPv4-mapped addresses with a dotted tail.
-/

namespace DnsFilter

/-- Four decimal octets with dots between them. -/
def IPv4.toText (address : IPv4) : String :=
  ".".intercalate (address.octets.map fun octet => toString octet.toNat)

namespace IPv6

def leadingZeros (groups : List UInt16) : Nat := (groups.takeWhile (· == 0)).length

/-- Start and length of the longest run of zero groups, the first one on a tie. -/
def longestZeroRun (groups : List UInt16) : Nat × Nat :=
  (List.range groups.length).foldl
    (fun best start =>
      let length := leadingZeros (groups.drop start)
      if best.2 < length then (start, length) else best)
    (0, 0)

/-- Groups in hexadecimal with colons between them. -/
def groupsText (groups : List UInt16) : String :=
  ":".intercalate (groups.map fun group => String.ofList (Nat.toDigits 16 group.toNat))

/-- The canonical text of an address. -/
def toText (address : IPv6) : String :=
  match address.toIPv4Mapped? with
  | some inner => "::ffff:" ++ inner.toText
  | none =>
      let groups := address.toList
      let (start, length) := longestZeroRun groups
      if length < 2 then groupsText groups
      else groupsText (groups.take start) ++ "::" ++ groupsText (groups.drop (start + length))

end IPv6

def IPAddress.toText : IPAddress → String
  | .v4 address => address.toText
  | .v6 address => address.toText

/-- The address and the socket's number; IPv6 addresses are bracketed, with their scope when it is
not zero. -/
def SocketAddress.toText : SocketAddress → String
  | .v4 address number => address.toText ++ ":" ++ toString number.toNat
  | .v6 address number scope =>
      let zone := if scope = 0 then "" else "%" ++ toString scope.toNat
      "[" ++ address.toText ++ zone ++ "]:" ++ toString number.toNat

end DnsFilter
