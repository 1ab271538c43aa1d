import DnsFilter.Message.Basic

/-!
# Decoding messages

Messages as bytes: a header of twelve bytes, queries and three sections of records. Names may end
in a pointer to an earlier place. Decoding fails on the first thing that is out of order; bytes
after the message are not looked at.
-/

namespace DnsFilter.Wire

/-- A reader over the bytes of a message. It starts at an offset and leaves the offset after what it
read. -/
abbrev Reader := ReaderT (Array UInt8) (StateT Nat Option)

def octet : Reader UInt8 := do
  let some byte := (← read)[← get]? | failure
  modify (· + 1)
  return byte

/-- A number of sixteen bits, the upper half first. -/
def word : Reader UInt16 := do
  let high ← octet
  let low ← octet
  return high.toUInt16 <<< 8 ||| low.toUInt16

/-- A number of 32 bits, the upper half first. -/
def doubleWord : Reader UInt32 := do
  let high ← word
  let low ← word
  return high.toUInt32 <<< 16 ||| low.toUInt32

def octets (count : Nat) : Reader (List UInt8) := do
  let bytes ← read
  let offset ← get
  if bytes.size < offset + count then failure
  set (offset + count)
  return (bytes.extract offset (offset + count)).toList

def counted : Reader (List UInt8) := do octets (← octet).toNat

/-- Reads labels from an offset up to the root or to a pointer, which leads to labels before `start`
that must end before it. `limit` is where labels reached by a pointer must end. Returns the labels
and the offset after the name's own bytes. Every step takes a label or follows a pointer back, so
the number of steps is bounded. -/
def labelsAt (bytes : Array UInt8) : (steps : Nat) → (start : Nat) → (limit : Option Nat) →
    (offset : Nat) → Option (List Label × Nat)
  | 0, _, _, _ => none
  | steps + 1, start, limit, offset =>
      if limit.any (· ≤ offset) then none
      else
        match bytes[offset]? with
        | none => none
        | some byte =>
            if byte = 0 then some ([], offset + 1)
            else if byte < 0x40 then
              let next := offset + 1 + byte.toNat
              if bytes.size < next then none
              else
                (labelsAt bytes steps start limit next).map fun (labels, rest) =>
                  ((bytes.extract (offset + 1) next).toList :: labels, rest)
            else if 0xc0 ≤ byte then
              match bytes[offset + 1]? with
              | none => none
              | some low =>
                  let target := (byte &&& 0x3f).toNat * 256 + low.toNat
                  if start ≤ target then none
                  else
                    (labelsAt bytes steps target (some start) target).map fun (labels, _) =>
                      (labels, offset + 2)
            else none

def name : Reader DomainName := do
  let bytes ← read
  let offset ← get
  let some (labels, rest) := labelsAt bytes (bytes.size + DomainName.maxSize) offset none offset
    | failure
  let some name := DomainName.ofLabels? labels | failure
  if DomainName.maxSize < name.size then failure
  set rest
  return name

def recordClass : Reader RecordClass := do
  let some known := RecordClass.ofCode? (← word) | failure
  return known

def query : Reader Query := do
  return { name := ← name, recordType := ⟨← word⟩, recordClass := ← recordClass }

/-- Strings up to an offset. Each takes at least one byte. -/
def stringsUntil (stop : Nat) : (steps : Nat) → Reader (List (List UInt8))
  | 0 => return []
  | steps + 1 => do
      if stop ≤ (← get) then return []
      let part ← counted
      return part :: (← stringsUntil stop steps)

/-- A number of 32 bits with a sign. -/
def signed : Reader Int32 := do return (← doubleWord).toInt32

def zoneAuthority : Reader ZoneAuthority := do
  return {
    primary := ← name
    mailbox := ← name
    serial := ← doubleWord
    refresh := ← signed
    retry := ← signed
    expire := ← signed
    minimum := ← doubleWord }

def ipv4 : Reader IPv4 := do return ⟨← octet, ← octet, ← octet, ← octet⟩

def ipv6 : Reader IPv6 := do
  return .ofList [← word, ← word, ← word, ← word, ← word, ← word, ← word, ← word]

/-- The data of a record of the given type and length. -/
def recordData (type : RecordType) (length : Nat) : Reader RecordData := do
  if type = .a then return .ipv4 (← ipv4)
  else if type = .aaaa then return .ipv6 (← ipv6)
  else if [RecordType.cname, .ns, .ptr].contains type then return .name (← name)
  else if type = .mx then return .mailExchange (← word) (← name)
  else if type = .srv then return .service (← word) (← word) (← word) (← name)
  else if type = .soa then return .authority (← zoneAuthority)
  else if type = .txt then return .strings (← stringsUntil ((← get) + length) length)
  else return .bytes (← octets length)

/-- The data of a record after its length; it must take up exactly that length. -/
def measuredData (type : RecordType) : Reader (Option RecordData) := do
  let length := (← word).toNat
  if length = 0 then return none
  let start ← get
  let data ← recordData type length
  if (← get) ≠ start + length then failure
  return some data

def record : Reader Record := do
  let owner ← name
  let type : RecordType := ⟨← word⟩
  return {
    owner
    recordType := type
    recordClass := ← recordClass
    ttl := ← doubleWord
    data := ← measuredData type }

/-- The options of an extension record. Options that are cut short leave none. -/
def options (content : List UInt8) : List EdnsOption :=
  let rec collect : (steps : Nat) → List UInt8 → Option (List EdnsOption)
    | _, [] => some []
    | steps + 1, codeHigh :: codeLow :: lengthHigh :: lengthLow :: rest =>
        let length := lengthHigh.toNat * 256 + lengthLow.toNat
        if rest.length < length then none
        else
          (collect steps (rest.drop length)).map fun later =>
            ⟨codeHigh.toUInt16 <<< 8 ||| codeLow.toUInt16, rest.take length⟩ :: later
    | _, _ => none
  Edns.collectOptions ((collect content.length content).getD [])

def extension : Reader Edns := do
  let payload ← word
  let highRcode ← octet
  let version ← octet
  let flags ← word
  let length ← word
  let content ← octets length.toNat
  return {
    payload := Edns.clampPayload payload
    version
    highRcode
    dnssecOk := flags &&& 0x8000 != 0
    options := options content }

def records : (count : Nat) → Reader (List Record)
  | 0 => return []
  | count + 1 => do return (← record) :: (← records count)

/-- Whether the record at the current offset is an extension record. -/
def isExtension : Reader Bool := do
  let start ← get
  let owner ← name
  let type ← word
  set start
  if type ≠ RecordType.opt.code then return false
  if owner ≠ .root then failure
  return true

/-- The additional section: records, and at most one extension record among them. -/
def additionals : (count : Nat) → Reader (List Record × Option Edns)
  | 0 => return ([], none)
  | count + 1 => do
      if ← isExtension then
        let _ ← name
        let _ ← word
        let edns ← extension
        let (later, other) ← additionals count
        if other.isSome then failure
        return (later, some edns)
      else
        let record ← record
        let (later, edns) ← additionals count
        return (record :: later, edns)

def queries : (count : Nat) → Reader (List Query)
  | 0 => return []
  | count + 1 => do return (← query) :: (← queries count)

/-- The fields of a header besides the numbers of entries. -/
structure Header where
  id : UInt16
  flags : Flags
  opcode : Opcode
  lowRcode : UInt16
  queryCount : Nat
  answerCount : Nat
  authorityCount : Nat
  additionalCount : Nat

def hasBit (bits mask : UInt16) : Bool := bits &&& mask != 0

def header : Reader Header := do
  let id ← word
  let bits ← word
  let some opcode := Opcode.ofCode? ((bits >>> 11) &&& 0xf).toNat | failure
  let flags : Flags :=
    { response := hasBit bits 0x8000
      authoritative := hasBit bits 0x0400
      truncated := hasBit bits 0x0200
      recursionDesired := hasBit bits 0x0100
      recursionAvailable := hasBit bits 0x0080
      authenticData := hasBit bits 0x0020
      checkingDisabled := hasBit bits 0x0010 }
  return {
    id
    flags
    opcode
    lowRcode := bits &&& 0xf
    queryCount := (← word).toNat
    answerCount := (← word).toNat
    authorityCount := (← word).toNat
    additionalCount := (← word).toNat }

def body (header : Header) : Reader Message := do
  let queries ← queries header.queryCount
  let answers ← records header.answerCount
  let authorities ← records header.authorityCount
  let (additionals, edns) ← additionals header.additionalCount
  return {
    id := header.id
    flags := header.flags
    opcode := header.opcode
    rcode := .ofParts ((edns.map Edns.highRcode).getD 0) header.lowRcode
    queries
    answers
    authorities
    additionals
    edns }

/-- What a reader finds at the start of some bytes. -/
def Reader.run? {α : Type} (reader : Reader α) (bytes : List UInt8) : Option α :=
  ((ReaderT.run reader bytes.toArray).run 0).map Prod.fst

end DnsFilter.Wire

namespace DnsFilter

def Message.decode? (bytes : List UInt8) : Option Message :=
  (do Wire.body (← Wire.header) : Wire.Reader Message).run? bytes

/-- What a server makes of the bytes of a request. -/
inductive Intake where
  /-- Not even the header can be decoded, so nobody can be answered. -/
  | unreadable
  /-- Only the header can be used: the rest cannot be decoded or has not exactly one query. -/
  | headerOnly (head : Message)
  | request (message : Message)

namespace Intake

def ofHeader (header : Wire.Header) : Intake :=
  .headerOnly { id := header.id, flags := header.flags, opcode := header.opcode }

/-- Takes in a decoded message: a request has exactly one query. -/
def ofMessage (message : Message) : Intake :=
  if message.queries.length = 1 then .request message
  else .headerOnly { id := message.id, flags := message.flags, opcode := message.opcode }

def ofBytes (bytes : List UInt8) : Intake :=
  match Wire.header.run? bytes with
  | none => .unreadable
  | some header => ((Message.decode? bytes).map ofMessage).getD (ofHeader header)

end Intake

end DnsFilter
