import DnsFilter.Address.Basic
import DnsFilter.DomainName
import DnsFilter.RecordType

/-!
# DNS messages

Messages as the programs on both sides see them: header fields, the question section, three sections
of records, and the extension record (EDNS), which stands apart from the additional section.
-/

namespace DnsFilter

structure Query where
  name : DomainName
  recordType : RecordType := .a
  recordClass : RecordClass := .internet
  deriving DecidableEq, Repr, Inhabited

structure ZoneAuthority where
  primary : DomainName
  mailbox : DomainName
  serial : UInt32
  refresh : Int32
  retry : Int32
  expire : Int32
  minimum : UInt32
  deriving DecidableEq, Repr

/-- The data of a record. Its type decides which form applies. -/
inductive RecordData where
  | ipv4 (address : IPv4)
  | ipv6 (address : IPv6)
  /-- The target of an alias, a delegation or a pointer. -/
  | name (target : DomainName)
  | mailExchange (preference : UInt16) (exchange : DomainName)
  | service (priority weight number : UInt16) (target : DomainName)
  | authority (zone : ZoneAuthority)
  | strings (parts : List (List UInt8))
  /-- Data whose form is not known. -/
  | bytes (content : List UInt8)
  deriving DecidableEq, Repr

namespace RecordData

/-- Whether the data takes no room in a message. -/
def isVoid : RecordData → Bool
  | strings parts => parts.isEmpty
  | bytes content => content.isEmpty
  | _ => false

end RecordData

structure Record where
  owner : DomainName
  recordType : RecordType
  recordClass : RecordClass := .internet
  /-- How many seconds the record may be kept. -/
  ttl : UInt32
  data : Option RecordData
  deriving DecidableEq, Repr

/-- An option of the extension record: its code and its bytes. -/
structure EdnsOption where
  code : UInt16
  content : List UInt8
  deriving DecidableEq, Repr

structure Edns where
  /-- The largest datagram that the sender accepts, never below `minimumPayload`. -/
  payload : UInt16 := 512
  version : UInt8 := 0
  dnssecOk : Bool := false
  /-- Bits 4 to 11 of the response code. -/
  highRcode : UInt8 := 0
  /-- One option for each code, by ascending code. -/
  options : List EdnsOption := []
  deriving DecidableEq, Repr

namespace Edns

/-- Every resolver accepts datagrams of this size. -/
def minimumPayload : UInt16 := 512

/-- A payload size, raised to the one that every resolver accepts. -/
def clampPayload (size : UInt16) : UInt16 := max minimumPayload size

/-- Adds an option at its place; it replaces an earlier option with the same code. -/
def insertOption (added : EdnsOption) : List EdnsOption → List EdnsOption
  | [] => [added]
  | option :: options =>
      if added.code < option.code then added :: option :: options
      else if added.code = option.code then added :: options
      else option :: insertOption added options

/-- The options of a list, the last one of those with equal codes. -/
def collectOptions (options : List EdnsOption) : List EdnsOption :=
  options.foldl (fun collected option => insertOption option collected) []

end Edns

inductive Opcode where
  | query
  | status
  | notify
  | update
  deriving DecidableEq, Repr, Inhabited

namespace Opcode

def all : List Opcode := [query, status, notify, update]

def code : Opcode → Nat
  | query => 0
  | status => 2
  | notify => 4
  | update => 5

def ofCode? (code : Nat) : Option Opcode := all.find? fun known => known.code == code

end Opcode

/-- The outcome that a response reports, a number of twelve bits. -/
structure Rcode where
  code : UInt16
  deriving DecidableEq, Repr, Inhabited

namespace Rcode

def noError : Rcode := ⟨0⟩
def formatError : Rcode := ⟨1⟩
def serverFailure : Rcode := ⟨2⟩
def notImplemented : Rcode := ⟨4⟩
def refused : Rcode := ⟨5⟩

/-- The four bits that every header carries. -/
def low (rcode : Rcode) : UInt16 := rcode.code &&& 0xf

/-- The eight bits above them, which only an extension record carries. -/
def high (rcode : Rcode) : UInt8 := ((rcode.code &&& 0xff0) >>> 4).toUInt8

/-- The response code with the given upper and lower bits. -/
def ofParts (high : UInt8) (low : UInt16) : Rcode := ⟨high.toUInt16 <<< 4 ||| low⟩

end Rcode

structure Flags where
  response : Bool := false
  authoritative : Bool := false
  truncated : Bool := false
  recursionDesired : Bool := false
  recursionAvailable : Bool := false
  authenticData : Bool := false
  checkingDisabled : Bool := false
  deriving DecidableEq, Repr, Inhabited

/-- A DNS message. -/
structure Message where
  id : UInt16 := 0
  flags : Flags := {}
  opcode : Opcode := .query
  rcode : Rcode := .noError
  queries : List Query := []
  answers : List Record := []
  authorities : List Record := []
  additionals : List Record := []
  edns : Option Edns := none
  deriving DecidableEq, Repr, Inhabited

namespace Message

def withId (message : Message) (id : UInt16) : Message := { message with id }

end Message

end DnsFilter
