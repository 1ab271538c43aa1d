/-!
# Record types and classes

A record type is a number of sixteen bits. The known ones have a mnemonic; all others are written
`Unknown`. Classes are the few that a message can carry.
-/

namespace DnsFilter

/-- The type of a resource record or of a query. -/
structure RecordType where
  code : UInt16
  deriving DecidableEq, Repr, Inhabited

namespace RecordType

def mnemonics : List (UInt16 × String) :=
  [(0, "ZERO"), (1, "A"), (2, "NS"), (5, "CNAME"), (6, "SOA"), (10, "NULL"), (12, "PTR"),
    (13, "HINFO"), (15, "MX"), (16, "TXT"), (24, "SIG"), (25, "KEY"), (28, "AAAA"), (33, "SRV"),
    (35, "NAPTR"), (41, "OPT"), (43, "DS"), (44, "SSHFP"), (46, "RRSIG"), (47, "NSEC"),
    (48, "DNSKEY"), (50, "NSEC3"), (51, "NSEC3PARAM"), (52, "TLSA"), (59, "CDS"), (60, "CDNSKEY"),
    (61, "OPENPGPKEY"), (62, "CSYNC"), (64, "SVCB"), (65, "HTTPS"), (250, "TSIG"), (251, "IXFR"),
    (252, "AXFR"), (255, "ANY"), (257, "CAA"), (65305, "ANAME")]

def mnemonic? (type : RecordType) : Option String := mnemonics.lookup type.code

/-- The text of a type; all unknown types share one. -/
def toText (type : RecordType) : String := type.mnemonic?.getD "Unknown"

def ofMnemonic? (text : String) : Option RecordType :=
  (mnemonics.find? fun known => known.2 == text).map fun known => ⟨known.1⟩

def a : RecordType := ⟨1⟩
def ns : RecordType := ⟨2⟩
def cname : RecordType := ⟨5⟩
def soa : RecordType := ⟨6⟩
def null : RecordType := ⟨10⟩
def ptr : RecordType := ⟨12⟩
def mx : RecordType := ⟨15⟩
def txt : RecordType := ⟨16⟩
def aaaa : RecordType := ⟨28⟩
def srv : RecordType := ⟨33⟩
def opt : RecordType := ⟨41⟩

end RecordType

/-- The class of a resource record or of a query. -/
inductive RecordClass where
  | internet
  | chaos
  | hesiod
  | none
  | any
  deriving DecidableEq, Repr, Inhabited

namespace RecordClass

def all : List RecordClass := [internet, chaos, hesiod, none, any]

def toText : RecordClass → String
  | internet => "IN"
  | chaos => "CH"
  | hesiod => "HS"
  | none => "NONE"
  | any => "ANY"

/-- The number of a class in a message. -/
def code : RecordClass → UInt16
  | internet => 1
  | chaos => 3
  | hesiod => 4
  | none => 254
  | any => 255

def ofText? (text : String) : Option RecordClass := all.find? fun known => known.toText == text

def ofCode? (code : UInt16) : Option RecordClass := all.find? fun known => known.code == code

end RecordClass

end DnsFilter
