import DnsFilter.Blocklist
import DnsFilter.Config.Reader
import DnsFilter.Log.Filter

/-!
# Starting and stopping the program

What the command line does, as a function of its arguments, the files and the environment: read the
configuration, read the block lists, announce the sockets, and serve until it is told to stop. The
report says what was logged, what went to standard error, and with which code the program ends.
-/

namespace DnsFilter.Launch

/-- The target of events of the program itself. -/
def programTarget : String := "sinkhole"

/-- The target of events of the block lists. -/
def blocklistTarget : String := programTarget ++ "::blocklist"

inductive Ending where
  /-- The program served until it was told to stop. -/
  | stopped
  /-- The program could not start, for a reason that it tells. -/
  | failed (reason : String)
  /-- The program broke off at something that it makes no provision for. -/
  | brokenOff
  /-- The program was given no piece of memory of the size that it needs. -/
  | outOfMemory (size : Nat)
  deriving DecidableEq, Repr

namespace Ending

/-- The code with which the program ends, unless a signal ends it. -/
def exitCode : Ending → Option UInt32
  | stopped => some 0
  | failed _ => some 1
  | brokenOff => some 101
  | outOfMemory _ => none

/-- The signal that ends the program: that of a process that aborts itself. -/
def signal : Ending → Option Nat
  | outOfMemory _ => some 6
  | _ => none

/-- The last lines on standard error. What is told of a run that broke off begins with an empty
line. -/
def errorLines : Ending → List String
  | stopped => []
  | failed reason => ["Error: " ++ reason]
  | brokenOff => [""]
  | outOfMemory size => ["memory allocation of " ++ toString size ++ " bytes failed"]

end Ending

/-- The bytes that an entry of the question log takes. -/
def entrySize : Nat := 104

/-- How a run ends for want of memory for a question log of the given capacity. A piece of memory
has less than `2 ^ 63` bytes, and all the memory of a process has `2 ^ 47`. -/
def memoryEnding? (capacity : Nat) : Option Ending :=
  let size := capacity * entrySize
  if 1 <<< 63 ≤ size then some .brokenOff
  else if 1 <<< 47 ≤ size then some (.outOfMemory size)
  else none

structure Report where
  /-- What is logged until the program serves, or until it fails to. -/
  startup : List LogEvent := []
  /-- What is logged once the program is told to stop. -/
  farewell : List LogEvent := []
  complaints : List String := []
  ending : Ending
  deriving DecidableEq, Repr

namespace Report

def log (report : Report) : List LogEvent := report.startup ++ report.farewell

def errorLines (report : Report) : List String := report.complaints ++ report.ending.errorLines

/-- The code with which the program ends, unless a signal ends it. -/
def exitCode (report : Report) : Option UInt32 := report.ending.exitCode

end Report

/-- The filter that the environment asks for, else the one that the configuration asks for, with the
complaints about it. There is none if a directive cannot be cut into its parts. -/
def logFilter (environment : Option String) (config : Config) : LogFilter.LooseReading :=
  let configured := LogFilter.parseLoosely (programTarget ++ "=" ++ config.logLevel)
  match environment.map LogFilter.parse with
  | some (.ok filter) => { filter := some filter, complaints := [] }
  | some (.error .split) => { filter := none, complaints := [] }
  | _ => configured

/-- The event of a list file that was read. -/
def listEvent (read : Blocklist.ListRead) : LogEvent :=
  { level := .debug
    target := blocklistTarget
    text := "read " ++ toString read.added ++ " new names from " ++ read.path }

def announce (text : String) : LogEvent := { level := .info, target := programTarget, text }

/-- The events of serving, from the first to the last. -/
def servingEvents (config : Config) (names : NameSet) : List LogEvent :=
  [announce ("blocking " ++ toString names.size ++ " names"),
    announce ("DNS listening on UDP " ++ config.dnsUdpBind.toText),
    announce ("DNS listening on TCP " ++ config.dnsTcpBind.toText),
    announce ("API listening on " ++ config.apiBind.toText)]

def stoppingEvents : List LogEvent := [announce "quitting from signal", announce "goodbye"]

/-- A run under a configuration that can be used, with what is logged. -/
def runFiltered (config : Config) (files : FileView) (filter : LogFilter)
    (complaints : List String) : Report :=
  let reading := Blocklist.read config files
  let reads := reading.reads.map listEvent
  match reading.outcome with
  | .error error =>
      { startup := reads.filter filter.allows
        complaints
        ending := .failed error.message }
  | .ok names =>
      { startup := (reads ++ servingEvents config names).filter filter.allows
        farewell := stoppingEvents.filter filter.allows
        complaints
        ending := .stopped }

/-- A run under a configuration that can be used. It ends early when there is no filter and when
there is no memory for the question log. -/
def runWith (config : Config) (files : FileView) (environment : Option String) : Report :=
  let reading := logFilter environment config
  match reading.filter with
  | none => { complaints := reading.complaints, ending := .brokenOff }
  | some filter =>
      match memoryEnding? config.questionCapacity with
      | some ending => { complaints := reading.complaints, ending }
      | none => runFiltered config files filter reading.complaints

/-- A run that ends before anything can be logged. -/
def refused (reason : String) : Report := { ending := .failed reason }

/-- The list files that a run with these arguments reads. -/
def listPaths (arguments : List String) (files : FileView) : List String :=
  match arguments.head?.map (Config.ofFile files) with
  | some (.ok config) => config.blocklists
  | _ => []

/-- A run of the command line under the given program name. The first argument is the path of the
configuration; others are not looked at. -/
def run (program : String) (arguments : List String) (files : FileView)
    (environment : Option String) : Report :=
  match arguments with
  | [] => refused ("usage: " ++ program ++ " /path/to/config.json")
  | path :: _ =>
      match Config.ofFile files path with
      | .error error => refused error.message
      | .ok config => runWith config files environment

end DnsFilter.Launch
