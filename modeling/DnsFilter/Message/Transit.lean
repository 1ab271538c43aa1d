import DnsFilter.Message.Decode
import DnsFilter.Message.Layout

/-!
# What encoding keeps of a message

A message that is encoded and decoded again arrives unchanged but for five things. The header has
room for the low four bits of the response code only; the upper bits travel in the extension record,
whose own field they replace, and are lost without one. A payload size below the least one arrives
as the least one. A record whose data takes no room arrives as a record without data. The target of
a service arrives in lower case. And a record in the additional section that has the form of an
extension record arrives as one. What does not fit into a message stays behind before all that.
-/

namespace DnsFilter

/-- The data of a record as its receiver sees it. -/
def RecordData.received : RecordData → RecordData
  | service priority weight number target => service priority weight number target.lowercase
  | data => data

def Record.received (record : Record) : Record :=
  { record with data := (record.data.filter fun data => !data.isVoid).map RecordData.received }

/-- The extension record of a message with response code `rcode`, as its receiver sees it. -/
def Edns.received (edns : Edns) (rcode : Rcode) : Edns :=
  { edns with payload := clampPayload edns.payload, highRcode := rcode.high }

/-- Whether a record of the additional section has the form of an extension record. -/
def Record.isExtension (record : Record) : Bool :=
  record.recordType == .opt && record.owner == .root

/-- The extension record that a record stands for. Its class is the payload size, and its time to
live has the upper bits of the response code, the version and a flag. -/
def Edns.ofRecord (record : Record) : Edns :=
  { payload := clampPayload record.recordClass.code
    version := (record.ttl >>> 16).toUInt8
    dnssecOk := record.ttl &&& 0x8000 != 0
    highRcode := (record.ttl >>> 24).toUInt8
    options :=
      match record.data with
      | some (.bytes content) => Wire.options content
      | _ => [] }

/-- The extension record of a message as its receiver sees it: the message's own, else a record of
the additional section. -/
def Message.extension? (message : Message) : Option Edns :=
  match message.edns with
  | some edns => some (edns.received message.rcode)
  | none => (message.additionals.find? Record.isExtension).map Edns.ofRecord

/-- The records of the additional section as their receiver sees them, the extension record left
out. -/
def Message.receivedAdditionals (message : Message) : List Record :=
  let records :=
    if message.edns.isSome then message.additionals
    else message.additionals.eraseP Record.isExtension
  records.map Record.received

/-- A message as its receiver sees it. The upper bits of the response code are those of the
extension record. -/
def Message.received (message : Message) : Message :=
  { message with
    rcode := .ofParts ((message.extension?.map Edns.highRcode).getD 0) message.rcode.low
    answers := message.answers.map Record.received
    authorities := message.authorities.map Record.received
    additionals := message.receivedAdditionals
    edns := message.extension? }

/-- What the receiver gets of a message that is to be sent, if it can be encoded. -/
def Message.transmitted? (message : Message) : Option Message :=
  message.fitted?.map Message.received

end DnsFilter
