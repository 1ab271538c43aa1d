import DnsFilter.Address.Reader
import DnsFilter.Config.Basic
import DnsFilter.Json.Text

/-!
# Settings

What a configuration can be told: each setting has a key, the kind of its values, a reader for them
and the value that applies where none is given.
-/

namespace DnsFilter.Config

/-- What can be set, in the order in which an array sets it. -/
inductive Setting where
  | dnsUdpBind
  | dnsTcpBind
  | dnsTcpTimeout
  | apiBind
  | apiTimeout
  | servers
  | serverTimeout
  | expire
  | maxCount
  | questionCapacity
  | ttl
  | nullRoute
  | nullRouteV6
  | blocklists
  | blocklist
  | whitelist
  | logLevel
  deriving DecidableEq, Repr

/-- A number below a bound, written with digits alone. -/
def readBelow? (bound : Nat) (value : Json) : Option Nat := value.nat?.filter (· < bound)

/-- A number of 64 bits. -/
def readCount? : Json → Option Nat := readBelow? UInt64.size

def readSocket? (value : Json) : Option SocketAddress := value.text?.bind SocketAddress.ofText?

namespace Setting

def all : List Setting :=
  [dnsUdpBind, dnsTcpBind, dnsTcpTimeout, apiBind, apiTimeout, servers, serverTimeout, expire,
    maxCount, questionCapacity, ttl, nullRoute, nullRouteV6, blocklists, blocklist, whitelist,
    logLevel]

def key : Setting → String
  | dnsUdpBind => "dns_udp_bind_addr"
  | dnsTcpBind => "dns_tcp_bind_addr"
  | dnsTcpTimeout => "dns_tcp_timeout"
  | apiBind => "api_bind_addr"
  | apiTimeout => "api_timeout"
  | servers => "upstreams"
  | serverTimeout => "upstream_timeout"
  | expire => "expire"
  | maxCount => "max_count"
  | questionCapacity => "question_cache_cap"
  | ttl => "ttl"
  | nullRoute => "nullroute"
  | nullRouteV6 => "nullroute_v6"
  | blocklists => "blocklists"
  | blocklist => "blocklist"
  | whitelist => "whitelist"
  | logLevel => "log_level"

def ofKey? (key : String) : Option Setting := all.find? fun setting => setting.key == key

@[reducible]
def Value : Setting → Type
  | dnsUdpBind | dnsTcpBind | apiBind => SocketAddress
  | dnsTcpTimeout | apiTimeout | serverTimeout | expire | maxCount | questionCapacity => Nat
  | servers => List SocketAddress
  | ttl => UInt32
  | nullRoute => IPv4
  | nullRouteV6 => IPv6
  | blocklists | blocklist | whitelist => List String
  | logLevel => String

/-- The value of a setting that a document does not name. -/
def fallback : (setting : Setting) → setting.Value
  | dnsUdpBind | dnsTcpBind => .v4 ⟨127, 0, 0, 1⟩ 5353
  | dnsTcpTimeout => 5
  | apiBind => .v4 ⟨127, 0, 0, 1⟩ 8080
  | apiTimeout => 10
  | servers => [.v4 ⟨8, 8, 8, 8⟩ 53, .v4 ⟨8, 8, 4, 4⟩ 53]
  | serverTimeout => 5
  | expire => 600
  | maxCount => 0
  | questionCapacity => 5000
  | ttl => 600
  | nullRoute => ⟨0, 0, 0, 0⟩
  | nullRouteV6 => .ofList []
  | blocklists | blocklist | whitelist => []
  | logLevel => "info"

/-- Reads a value of the kind that a setting has. -/
def read? : (setting : Setting) → Json → Option setting.Value
  | dnsUdpBind | dnsTcpBind | apiBind => readSocket?
  | dnsTcpTimeout | apiTimeout | serverTimeout | expire | maxCount | questionCapacity => readCount?
  | servers => Json.list? readSocket?
  | ttl => fun value => (readBelow? UInt32.size value).map Nat.toUInt32
  | nullRoute => fun value => value.text?.bind IPv4.ofText?
  | nullRouteV6 => fun value => value.text?.bind IPv6.ofText?
  | blocklists | blocklist | whitelist => Json.list? Json.text?
  | logLevel => Json.text?

end Setting

/-- The configuration with the given values. -/
def ofValues (value : (setting : Setting) → setting.Value) : Config where
  dnsUdpBind := value .dnsUdpBind
  dnsTcpBind := value .dnsTcpBind
  dnsTcpTimeout := value .dnsTcpTimeout
  apiBind := value .apiBind
  apiTimeout := value .apiTimeout
  servers := value .servers
  serverTimeout := value .serverTimeout
  expire := value .expire
  maxCount := value .maxCount
  questionCapacity := value .questionCapacity
  ttl := value .ttl
  nullRoute := value .nullRoute
  nullRouteV6 := value .nullRouteV6
  blocklists := value .blocklists
  blocklist := value .blocklist
  whitelist := value .whitelist
  logLevel := value .logLevel

end DnsFilter.Config
