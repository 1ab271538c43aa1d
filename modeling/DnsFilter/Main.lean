import DnsFilter.Launch

/-!
# Command line

Checks a configuration with its list files and starts up as far as files and environment decide it.
`Launch.run` says what happens; here its report is acted out: complaints and failures go to standard
error, events to standard output, and the end of standard input is the request to stop. Sockets are
the business of the surroundings, which pass what comes in to `Service.serve`.
-/

namespace DnsFilter.CommandLine

/-- What a path leads to at this moment. -/
def node? (path : String) : IO (Option FileNode) := do
  try
    let place ← IO.FS.realPath path
    if ← place.isDir then return some .directory
    return some (.file (← IO.FS.readBinFile place))
  catch _ => return none

/-- The files at some paths, as they are at this moment. -/
def snapshot (paths : List String) : IO FileView := do
  let nodes ← paths.mapM fun path => return (path, ← node? path)
  return fun path => (nodes.lookup path).join

partial def awaitEnd (input : IO.FS.Stream) : IO Unit := do
  unless (← input.getLine).isEmpty do awaitEnd input

/-- The code that stands for the end by a signal, which is that of an abort. -/
def abortedCode : UInt32 := 134

/-- Runs the program with the given arguments. -/
def run (arguments : List String) : IO UInt32 := do
  let configuration ← snapshot (arguments.take 1)
  let lists ← snapshot (Launch.listPaths arguments configuration)
  let files : FileView := fun path => configuration path <|> lists path
  let report := Launch.run Launch.programTarget arguments files (← IO.getEnv "RUST_LOG")
  for line in report.startup.flatMap LogEvent.lines do IO.println line
  for line in report.errorLines do IO.eprintln line
  if report.ending = .stopped then awaitEnd (← IO.getStdin)
  for line in report.farewell.flatMap LogEvent.lines do IO.println line
  return report.exitCode.getD abortedCode

end DnsFilter.CommandLine

def main (arguments : List String) : IO UInt32 := DnsFilter.CommandLine.run arguments
