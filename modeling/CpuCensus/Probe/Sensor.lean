import CpuCensus.Notice
import CpuCensus.Platform
import CpuCensus.Snapshot

/-!
# Probes and sensors

A probe answers each call with a snapshot or a fault. The answer may depend on how many calls came
before and on when the call is made, so every sequence of answers is that of some probe. A sensor is
a probe together with the number of calls made so far.
-/

namespace CpuCensus

/-- What one call of a probe brings. -/
structure Reading where
  outcome : Except ProbeFault Snapshot
  notices : List Notice := []

/-- A probe answers call number `call`, made `now` milliseconds into the run. -/
structure Probe where
  respond : (call now : Nat) → Reading

namespace Probe

/-- A probe that answers every call with the same values, stamped by the clock. -/
def fixed (clock : Clock) (threads cores sockets : Nat) (cpu description : String) : Probe where
  respond _ now :=
    { outcome := Snapshot.checked
        { threads, cores, sockets, cpu, description, startTime := clock now } }

/-- A probe for a host that cannot be probed. -/
def unsupported (platform : Platform := .standard) : Probe where
  respond _ _ := { outcome := .error (.unsupportedSystem platform.system) }

/-- The probe that stands in for a simulated topology; its processor is described by its name. -/
def ofSimulation (clock : Clock) (simulation : Simulation) (platform : Platform := .standard) :
    Probe :=
  match simulation with
  | .fixed threads cores sockets cpu => fixed clock threads cores sockets cpu cpu
  | .unsupported => unsupported platform

/-- The values of a scripted answer, before they are stamped. -/
inductive Scripted where
  | values (threads cores sockets : Nat) (cpu description : String) (start : Instant)
  | failure (fault : ProbeFault)

/-- The reading that a scripted answer stands for. -/
def Scripted.reading (now : Nat) : Scripted → Reading
  | .values threads cores sockets cpu description start =>
    { outcome := Snapshot.checked
        { threads, cores, sockets, cpu, description, startTime := start.after now } }
  | .failure fault => { outcome := .error fault }

/-- A probe that answers from a script and repeats its last answer for ever. One that has no answers
stands for a host that cannot be probed. -/
def script (answers : List Scripted) (platform : Platform := .standard) : Probe where
  respond call now :=
    match answers[call]? <|> answers.getLast? with
    | some answer => answer.reading now
    | none => (unsupported platform).respond call now

end Probe

/-- A probe and the number of calls made so far. -/
structure Sensor where
  probe : Probe
  calls : Nat := 0

/-- Call the probe once. -/
def Sensor.ask (s : Sensor) (now : Nat) : Reading × Sensor :=
  (s.probe.respond s.calls now, { s with calls := s.calls + 1 })

end CpuCensus
