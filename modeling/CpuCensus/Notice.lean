import CpuCensus.Probe.Fault
import CpuCensus.Recording.Phase
import CpuCensus.Simulation

/-!
# Notices

What the program reports about its work while it works. Operations return their notices in order;
whether and where they are shown is decided outside.
-/

namespace CpuCensus

/-- How much a notice matters. -/
inductive Level where
  | debug
  | info
  | warn
  deriving DecidableEq, Repr

/-- The word for a level. -/
def Level.word : Level → String
  | .debug => "DEBUG"
  | .info => "INFO"
  | .warn => "WARN"

/-- A report about work in progress. -/
inductive Notice where
  | recordingStarted (name : String)
  | snapshotFailed (fault : ProbeFault)
  | bufferFull (capacity : Nat)
  | recordingStopped (records dropped : Nat)
  | recorderStarted (name : String) (periodMs : Option Nat) (initialSnapshot : Bool)
  | recorderStopped (records dropped : Nat)
  | samplerStarted (periodMs : Nat)
  | samplerCancelled (taken : Nat)
  | samplerLeft (refusal : Refusal)
  | samplerBroken
  | periodicFailed (fault : ProbeFault)
  | initialFailed (fault : ProbeFault)
  | waiting (durationMs : Nat)
  | verified (events : Nat)
  | simulating (topology : Simulation)
  | processorSkipped (name : String)
  | treeUnavailable (fault : ProbeFault)
  | threadsDisagree (counted reported : Nat)
  | sampled (threads cores sockets : Nat) (cpu : String)
  deriving DecidableEq, Repr

namespace Notice

/-- How much the notice matters. -/
def level : Notice → Level
  | recorderStarted .. | recorderStopped .. | verified _ => .info
  | snapshotFailed _ | bufferFull _ | samplerBroken | periodicFailed _ | initialFailed _ => .warn
  | recordingStarted _ | recordingStopped .. | samplerStarted _ | samplerCancelled _
  | samplerLeft _ | waiting _ | simulating _ | processorSkipped _ | treeUnavailable _
  | threadsDisagree .. | sampled .. => .debug

/-- What the notice says. -/
def message : Notice → String
  | recordingStarted _ => "Recording started"
  | snapshotFailed _ => "CPU information snapshot failed"
  | bufferFull _ => "Recording buffer full, dropping oldest records"
  | recordingStopped .. => "Recording stopped"
  | recorderStarted .. => "Recording CPU information"
  | recorderStopped .. => "Recording stopped"
  | samplerStarted _ => "Starting periodic sampler"
  | samplerCancelled _ => "Periodic sampler cancelled"
  | samplerLeft _ => "Recording no longer started, sampler exiting"
  | samplerBroken => "Periodic sampler task failed"
  | periodicFailed _ => "Periodic snapshot failed"
  | initialFailed _ => "Initial CPU snapshot failed"
  | waiting _ => "Waiting before stopping recording"
  | verified _ => "CPU information verified"
  | simulating _ => "Using simulated topology"
  | processorSkipped _ => "Skipping processor without topology"
  | treeUnavailable _ => "sysfs topology unavailable, trying cpuinfo"
  | threadsDisagree .. => "Topology and sysinfo disagree on hardware threads, using topology"
  | sampled .. => "Sampled CPU information"

/-- The values that the notice carries, by name. -/
def fields : Notice → List (String × String)
  | recordingStarted name => [("name", name)]
  | snapshotFailed fault | periodicFailed fault | initialFailed fault | treeUnavailable fault =>
    [("error", fault.message)]
  | bufferFull capacity => [("max_records", Nat.repr capacity)]
  | recordingStopped records dropped | recorderStopped records dropped =>
    [("records", Nat.repr records), ("dropped", Nat.repr dropped)]
  | recorderStarted name periodMs initialSnapshot =>
    [("name", name)] ++ (periodMs.map fun ms => ("period_ms", Nat.repr ms)).toList ++
      [("initial_snapshot", if initialSnapshot then "true" else "false")]
  | samplerStarted periodMs => [("period_ms", Nat.repr periodMs)]
  | samplerCancelled taken => [("taken", Nat.repr taken)]
  | samplerLeft refusal => [("error", refusal.message)]
  | samplerBroken => [("error", "the period is zero")]
  | waiting durationMs => [("duration_ms", Nat.repr durationMs)]
  | verified events => [("events", Nat.repr events)]
  | simulating topology => [("topology", topology.text)]
  | processorSkipped name => [("processor", name)]
  | threadsDisagree counted reported =>
    [("topology_threads", Nat.repr counted), ("sysinfo_threads", Nat.repr reported)]
  | sampled threads cores sockets cpu =>
    [("hw_threads", Nat.repr threads), ("cores", Nat.repr cores), ("sockets", Nat.repr sockets),
      ("cpu", cpu)]

/-- The notice on one line: level, message, values. -/
def line (n : Notice) : String :=
  n.level.word ++ " " ++ n.message ++
    String.join (n.fields.map fun (name, value) => " " ++ name ++ "=" ++ value)

end Notice

end CpuCensus
