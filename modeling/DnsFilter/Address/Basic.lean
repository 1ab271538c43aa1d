/-!
# Network addresses

The two families of internet addresses, and socket addresses, which add the number that tells the
sockets of one host apart. An IPv6 socket address also names a zone, its scope, which is zero when
the address needs none.
-/

namespace DnsFilter

/-- An IPv4 address as its four octets. -/
structure IPv4 where
  first : UInt8
  second : UInt8
  third : UInt8
  fourth : UInt8
  deriving DecidableEq, Repr, Inhabited

namespace IPv4

/-- The octets in the order in which they are written. -/
def octets (address : IPv4) : List UInt8 :=
  [address.first, address.second, address.third, address.fourth]

/-- Addresses of the local host, `127.0.0.0/8`. -/
def isLoopback (address : IPv4) : Bool := address.first == 127

/-- Addresses set aside for private networks: `10.0.0.0/8`, `172.16.0.0/12` and
`192.168.0.0/16`. -/
def isPrivate (address : IPv4) : Bool :=
  address.first == 10 ||
    (address.first == 172 && 16 ≤ address.second && address.second ≤ 31) ||
    (address.first == 192 && address.second == 168)

end IPv4

/-- An IPv6 address as its eight groups of sixteen bits. -/
structure IPv6 where
  groups : Vector UInt16 8
  deriving DecidableEq, Repr, Inhabited

namespace IPv6

/-- The address with the given groups; a group that is missing is zero. -/
def ofList (groups : List UInt16) : IPv6 :=
  ⟨Vector.ofFn fun index => groups.getD index 0⟩

/-- The groups in the order in which they are written. -/
def toList (address : IPv6) : List UInt16 := address.groups.toList

/-- The address of the local host, `::1`. -/
def loopback : IPv6 := ofList [0, 0, 0, 0, 0, 0, 0, 1]

def isLoopback (address : IPv6) : Bool := address == loopback

/-- Unique local addresses, `fc00::/7`: the first seven bits are those of `fc00::`. -/
def isUniqueLocal (address : IPv6) : Bool :=
  address.groups[0] &&& 0xfe00 == 0xfc00

/-- The IPv4 address inside an IPv4-mapped address `::ffff:a.b.c.d`. -/
def toIPv4Mapped? (address : IPv6) : Option IPv4 :=
  match address.toList with
  | [0, 0, 0, 0, 0, 0xffff, high, low] =>
      some ⟨(high >>> 8).toUInt8, high.toUInt8, (low >>> 8).toUInt8, low.toUInt8⟩
  | _ => none

end IPv6

inductive IPAddress where
  | v4 (address : IPv4)
  | v6 (address : IPv6)
  deriving DecidableEq, Repr, Inhabited

/-- Where a socket is bound or a server listens. -/
inductive SocketAddress where
  | v4 (address : IPv4) (number : UInt16)
  | v6 (address : IPv6) (number : UInt16) (scope : UInt32)
  deriving DecidableEq, Repr, Inhabited

namespace SocketAddress

def ip : SocketAddress → IPAddress
  | v4 address _ => .v4 address
  | v6 address _ _ => .v6 address

/-- Whether only the local host or a private network can reach the address. -/
def isInternal (socket : SocketAddress) : Bool :=
  match socket.ip with
  | .v4 address => address.isLoopback || address.isPrivate
  | .v6 address => address.isLoopback || address.isUniqueLocal

end SocketAddress

end DnsFilter
