import DnsFilter.Error

/-!
# Configuration

The settings of the program, their defaults, the lifetimes and sizes derived from them, and the
check that a configuration can be used. Durations are in seconds here and in milliseconds where time
runs.
-/

namespace DnsFilter

structure Config where
  dnsUdpBind : SocketAddress := .v4 ⟨127, 0, 0, 1⟩ 5353
  dnsTcpBind : SocketAddress := .v4 ⟨127, 0, 0, 1⟩ 5353
  /-- Seconds that an idle stream client is kept. -/
  dnsTcpTimeout : Nat := 5
  apiBind : SocketAddress := .v4 ⟨127, 0, 0, 1⟩ 8080
  /-- Seconds that an admin request may take. -/
  apiTimeout : Nat := 10
  /-- The servers that queries are forwarded to, in the order in which they are tried. -/
  servers : List SocketAddress := [.v4 ⟨8, 8, 8, 8⟩ 53, .v4 ⟨8, 8, 4, 4⟩ 53]
  /-- Seconds that one attempt at a server may take. -/
  serverTimeout : Nat := 5
  /-- Seconds that an answer is kept; failures are kept half as long. -/
  expire : Nat := 600
  /-- Capacity of each response cache; zero selects the default. -/
  maxCount : Nat := 0
  questionCapacity : Nat := 5000
  /-- Seconds that the answer for a blocked name is kept, by its receiver too. -/
  ttl : UInt32 := 600
  nullRoute : IPv4 := ⟨0, 0, 0, 0⟩
  nullRouteV6 : IPv6 := .ofList []
  blocklists : List String := []
  /-- Names blocked besides those of the list files. -/
  blocklist : List String := []
  whitelist : List String := []
  /-- The least severe events that are logged. -/
  logLevel : String := "info"
  deriving DecidableEq, Repr

namespace Config

/-- The settings that apply when nothing is configured. -/
def default : Config := {}

instance : Inhabited Config := ⟨default⟩

/-- The capacity of a response cache when none is configured. -/
def defaultCapacity : Nat := 10000

def cacheCapacity (config : Config) : Nat :=
  if config.maxCount = 0 then defaultCapacity else config.maxCount

/-- Lifetime of an answer in the positive cache, in milliseconds. -/
def positiveLifetime (config : Config) : Nat := config.expire * 1000

/-- Lifetime of a failure in the negative cache, in milliseconds: half of an answer's. -/
def negativeLifetime (config : Config) : Nat := config.expire * 500

/-- Lifetime of the answer for a blocked name in the positive cache, in milliseconds. -/
def blockLifetime (config : Config) : Nat := config.ttl.toNat * 1000

/-- Refuses the first setting that the program cannot work with. -/
def validate (config : Config) : Except Error Unit :=
  if config.servers.isEmpty then .error .noServers
  else if config.serverTimeout = 0 then
    .error (.invalidConfig "upstream_timeout must be greater than 0")
  else if config.expire < 2 then .error (.invalidConfig "expire must be at least 2 seconds")
  else if config.ttl = 0 then .error (.invalidConfig "ttl must be greater than 0")
  else if config.questionCapacity = 0 then
    .error (.invalidConfig "question_cache_cap must be greater than 0")
  else if config.apiBind.isInternal then .ok ()
  else .error (.insecureApiBind config.apiBind.ip)

end Config

end DnsFilter
