import DnsFilter.Config.Basic
import DnsFilter.Files
import DnsFilter.NameSet
import DnsFilter.Text.Number
import DnsFilter.Text.Words

/-!
# Block lists

List files are read line by line. A line is either a name alone, or an entry of a hosts file that
points one or more names at a sink address. `#` starts a comment. Entries for other addresses, names
of the system and words that look like addresses are skipped. Names are kept without one final dot
and in lower case.
-/

namespace DnsFilter.Blocklist

/-- Names of the system itself, which hosts files contain but nobody wants blocked. -/
def systemNames : List String :=
  ["localhost", "localhost.localdomain", "local", "broadcasthost", "ip6-localhost",
    "ip6-loopback", "ip6-localnet", "ip6-mcastprefix", "ip6-allnodes", "ip6-allrouters",
    "ip6-allhosts"]

/-- The addresses that a hosts entry may point a blocked name at. -/
def sinkAddresses : List String := ["0.0.0.0", "127.0.0.1", "::", "::1"]

/-- A decimal number below 256, with any number of zeros and at most one plus sign in front. -/
def isOctet (text : List Char) : Bool := (Text.unsigned? text).any (· < 256)

/-- Whether a name looks like an address: it has a colon, or it has a dot and all its pieces between
dots are octets. -/
def isAddressLike (name : List Char) : Bool :=
  name.contains ':' || (name.contains '.' && (name.splitOn '.').all isOctet)

/-- A list entry as the block set holds it, unless it is empty, a name of the system or like an
address. -/
def canonical? (entry : String) : Option String :=
  let name := foldName (String.ofList (Text.trim entry.toList))
  if name.isEmpty || systemNames.contains name || isAddressLike name.toList then none
  else some name

/-- The part of a line before its comment. -/
def beforeComment (line : List Char) : List Char := line.takeWhile (· != '#')

/-- The words of a line that name something to block: the only word, or the words after a sink
address. -/
def listedWords (line : List Char) : List String :=
  match (Text.words (beforeComment line)).map String.ofList with
  | [] => []
  | [only] => [only]
  | address :: names => if sinkAddresses.contains address then names else []

def listedNames (contents : String) : List String :=
  (Text.lines contents.toList).flatMap fun line => (listedWords line).filterMap canonical?

/-- Adds the names that a text lists to a set. -/
def parse (contents : String) (names : NameSet) : NameSet := names.insertMany (listedNames contents)

/-- A list file that was read, and how many names it added. -/
structure ListRead where
  path : String
  added : Nat
  deriving DecidableEq, Repr

/-- Outcome of reading list files: what was read before the end or the first failure, and the names.
-/
structure Reading where
  reads : List ListRead
  outcome : Except Error NameSet

/-- Adds the names of list files to a set, in order, up to the first file that cannot be read. -/
def readLists (files : FileView) : List String → NameSet → Reading
  | [], names => ⟨[], .ok names⟩
  | path :: paths, names =>
      match files.text? path with
      | none => ⟨[], .error (.unreadableBlocklist path)⟩
      | some contents =>
          let extended := parse contents names
          let later := readLists files paths extended
          { later with reads := ⟨path, extended.size - names.size⟩ :: later.reads }

/-- Adds the names that a configuration blocks itself and removes those that it allows. -/
def adjust (config : Config) (names : NameSet) : NameSet :=
  (config.whitelist.filterMap canonical?).foldl (fun names name => names.erase name)
    (names.insertMany (config.blocklist.filterMap canonical?))

def read (config : Config) (files : FileView) : Reading :=
  let lists := readLists files config.blocklists ∅
  { lists with outcome := lists.outcome.map (adjust config) }

/-- The names that a configuration blocks, or the first list file that cannot be read. -/
def load (config : Config) (files : FileView) : Except Error NameSet := (read config files).outcome

end DnsFilter.Blocklist
