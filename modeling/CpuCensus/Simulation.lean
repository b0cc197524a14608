import CpuCensus.Text.Blank
import CpuCensus.Text.Letters
import CpuCensus.Text.Lines
import CpuCensus.Text.Numeral
import CpuCensus.Text.Quoted

/-!
# Simulated topologies

A topology that the user states instead of having the host probed: `THREADS:CORES:SOCKETS:CPU`, or
the word `unsupported` for a host that cannot be probed. The last part may itself hold colons.
-/

namespace CpuCensus

/-- A topology stated by the user. -/
inductive Simulation where
  | fixed (threads cores sockets : Nat) (cpu : String)
  | unsupported
  deriving DecidableEq, Repr

/-- Why a text states no topology. -/
inductive SimulationFault where
  | missing (part text : String)
  | invalid (part piece : String)
  deriving DecidableEq, Repr

/-- The wording of the fault. -/
def SimulationFault.message : SimulationFault → String
  | .missing part text => s!"missing {part} in '{text}'"
  | .invalid part piece => s!"invalid {part} '{piece}'"

namespace Simulation

/-- Read the count that a piece holds, and name it in the fault otherwise. -/
def readCount (whole part : String) : Option (List Char) → Except SimulationFault Nat
  | none => .error (.missing part whole)
  | some piece =>
    match Text.unsigned? Text.bound32 (Text.trim (String.ofList piece)) with
    | some n => .ok n
    | none => .error (.invalid part (String.ofList piece))

/-- The first three pieces between colons, as far as there are any, and all that follows them. -/
structure Pieces where
  threads : List Char
  cores : Option (List Char)
  sockets : Option (List Char)
  cpu : Option (List Char)

/-- Cut a text at its first three colons. -/
def pieces (s : String) : Pieces :=
  match Text.splitAtFirst? ':' s.toList with
  | none => { threads := s.toList, cores := none, sockets := none, cpu := none }
  | some (threads, rest) =>
    match Text.splitAtFirst? ':' rest with
    | none => { threads, cores := some rest, sockets := none, cpu := none }
    | some (cores, rest) =>
      match Text.splitAtFirst? ':' rest with
      | none => { threads, cores := some cores, sockets := some rest, cpu := none }
      | some (sockets, rest) =>
        { threads, cores := some cores, sockets := some sockets, cpu := some rest }

/-- Read the four parts in order; the first that is missing or invalid is reported. -/
def parseFixed (s : String) : Except SimulationFault Simulation :=
  let p := pieces s
  match readCount s "thread count" (some p.threads) with
  | .error e => .error e
  | .ok threads =>
    match readCount s "core count" p.cores with
    | .error e => .error e
    | .ok cores =>
      match readCount s "socket count" p.sockets with
      | .error e => .error e
      | .ok sockets =>
        let cpu := Text.trim (String.ofList (p.cpu.getD []))
        if cpu.isEmpty then .error (.missing "CPU name" s)
        else .ok (.fixed threads cores sockets cpu)

/-- Read a stated topology. -/
def parse (s : String) : Except SimulationFault Simulation :=
  if Text.sameLetters s "unsupported" then .ok .unsupported else parseFixed s

/-- The topology in the form in which notices show it. -/
def text : Simulation → String
  | .fixed threads cores sockets cpu =>
    "Fixed \x7b hw_threads: " ++ Nat.repr threads ++ ", cores: " ++ Nat.repr cores ++
      ", sockets: " ++ Nat.repr sockets ++ ", cpu: " ++ Text.quoted cpu ++ " \x7d"
  | .unsupported => "Unsupported"

end Simulation

end CpuCensus
