import CpuCensus.CommandLine.Program
import CpuCensus.Text.Lossy
import Std.Time.DateTime.Timestamp

/-!
# The command line

Reads the host, the environment and the words, runs the program and prints what comes of it.
-/

namespace CpuCensus

/-- The environment file in the current directory or in the nearest one above it that has one. -/
def readEnvFile (path : String) : Nat → IO (Option String)
  | 0 => return none
  | depth + 1 => do
    try return some (← IO.FS.readFile (path ++ ".env"))
    catch _ => readEnvFile ("../" ++ path) depth

/-- The contents of a file that can be read. -/
def readBytes? (path : String) : IO (Option ByteArray) := do
  try return some (← IO.FS.readBinFile path)
  catch _ => return none

/-- The variables of the environment. -/
def readVariables : IO Variables := do
  let block := (← readBytes? "/proc/self/environ").getD ByteArray.empty
  return ((Text.ofBytesLossy block).splitOn "\x00").filterMap fun entry =>
    (Text.splitAtFirst? '=' entry.toList).map fun (name, value) =>
      (String.ofList name, String.ofList value)

/-- The part of a directory that lies at most so many levels deep. -/
def readTree (path : String) : Nat → IO (Option FileTree)
  | 0 => return none
  | depth + 1 => do
    try
      let place ← IO.FS.realPath path
      if ← place.isDir then
        let entries ← (← place.readDir).toList.mapM fun entry => do
          let node ← readTree (path ++ "/" ++ entry.fileName) depth
          return node.map fun node => (FileName.text entry.fileName, node)
        return some (.directory (entries.filterMap id))
      else return some (.file (← IO.FS.readBinFile path))
    catch _ => return none

/-- What the host lets the program read. -/
def readHost : IO Host := do
  let places : Host := {}
  let tree ← readTree places.treePath 4
  let cpuinfo ← readBytes? places.cpuinfoPath
  let architecture ← readBytes? "/proc/sys/kernel/arch"
  let summary := Cpuinfo.parse (Text.ofBytesLossy (cpuinfo.getD ByteArray.empty))
  let reported : ReportedCpu :=
    { vendor := summary.vendor.getD "", brand := summary.model.getD "" }
  return {
    processors := List.replicate summary.processors reported
    architecture := Text.ofBytesLossy (architecture.getD ByteArray.empty)
    tree
    cpuinfo }

/-- The clock of this run. -/
def readClock : IO Clock := do
  let now ← Std.Time.Timestamp.now
  let since := now.toDurationSinceUnixEpoch
  return Clock.startingAt { seconds := since.second.val, nanos := since.nano.val.toNat }

/-- How long the command keeps a recording running. -/
def CommandLine.Command.durationMs : CommandLine.Command → Nat
  | .sample _ => 0
  | .record _ options | .verify options => options.durationMs

/-- Print the notices that are important enough. -/
def printNotices (verbose : Bool) (notices : List Notice) : IO Unit :=
  notices.forM fun notice => do
    if verbose || notice.level != .debug then IO.eprintln notice.line

/-- Carry out a request, and wait as long as it takes. -/
def performInTime (request : CommandLine.Request) : IO CommandLine.Outcome := do
  let (outcome, notices) := request.perform (← readHost) (← readClock)
  match outcome, request.command with
  | .failed (.settings _), _ | _, none => pure ()
  | _, some command => IO.sleep (UInt32.ofNat (min command.durationMs (UInt32.size - 1)))
  printNotices request.verbose notices
  return outcome

end CpuCensus

open CpuCensus in
/-- The command line of the program. -/
def main (words : List String) : IO UInt32 := do
  let depth := (← IO.currentDir).components.length
  let envFile ← readEnvFile "" (depth + 1)
  let outcome ← match CommandLine.interpret (← readVariables) envFile words with
    | .error halt => pure (CommandLine.Outcome.halted halt)
    | .ok request => performInTime request
  IO.print outcome.output
  match outcome with
  | .halted (.misuse misuse) => IO.eprintln ("error: " ++ misuse.message)
  | .halted (.unsettable key) => IO.eprintln ("error: cannot set " ++ key)
  | _ => outcome.complaint?.forM fun line => IO.eprintln line
  return UInt32.ofNat outcome.exitCode
