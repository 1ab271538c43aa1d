import DnsFilter.Address.Printer

/-!
# Errors

Everything that can go wrong, as causes; `Error.message` words them.
-/

namespace DnsFilter

inductive Error where
  /-- A cache entry must be able to expire. -/
  | zeroTtl
  | noServers
  | serverTimeout (server : SocketAddress)
  | serverIdMismatch (server : SocketAddress)
  /-- No server produced a message. -/
  | serversExhausted (count : Nat)
  /-- The admin interface shows what clients asked, so it must not be public. -/
  | insecureApiBind (address : IPAddress)
  /-- A value of the configuration is out of its range. -/
  | invalidConfig (reason : String)
  | unreadableBlocklist (path : String)
  | io
  | invalidJson
  | malformedMessage
  deriving DecidableEq, Repr

namespace Error

def message : Error → String
  | zeroTtl => "cache TTL must be greater than zero"
  | noServers => "no upstream servers configured"
  | serverTimeout server => "upstream " ++ server.toText ++ " timed out"
  | serverIdMismatch server => "upstream " ++ server.toText ++ " answered with a mismatched id"
  | serversExhausted count => "all " ++ toString count ++ " upstream servers failed"
  | insecureApiBind address =>
      "API bind address (" ++ address.toText ++ ") must be a loopback or private IP"
  | invalidConfig reason => "invalid config: " ++ reason
  | unreadableBlocklist path => "can't read blocklist " ++ path
  | io => "an IO error occurred"
  | invalidJson => "invalid JSON"
  | malformedMessage => "DNS error"

/-- Whether the error arose from the exchange with a server. Only after these is the next server
asked. -/
def isTransport : Error → Bool
  | serverTimeout _ | serverIdMismatch _ | io | malformedMessage => true
  | _ => false

end Error

end DnsFilter
