import CpuCensus.Text.Blank
import CpuCensus.Text.Lines
import CpuCensus.Topology.Counts

/-!
# Processor lists in text form

A text of `key : value` lines. A line with the key `processor` opens the block of a processor, which
ends at a blank line, at the next such line or with the text. The package and core identifiers that
have been read when a block ends are those of its processor; they are then forgotten.
-/

namespace CpuCensus.Cpuinfo

/-- What a line says. -/
inductive Line where
  | blank
  | processor
  | package (id : Option Nat)
  | core (id : Option Nat)
  | vendor (name : String)
  | model (name : String)
  | other
  deriving DecidableEq, Repr

/-- What a line with a key and a value says, both without surrounding blanks. -/
def Line.ofPair (key value : String) : Line :=
  match key with
  | "processor" => .processor
  | "physical id" => .package (Text.unsigned? Text.bound32 value)
  | "core id" => .core (Text.unsigned? Text.bound32 value)
  | "vendor_id" => .vendor value
  | "model name" | "cpu" => .model value
  | _ => .other

/-- What the characters of a line say; the key ends at the first colon. -/
def Line.ofChars (cs : List Char) : Line :=
  match Text.splitAtFirst? ':' cs with
  | some (key, value) =>
    .ofPair (String.ofList (Text.trimChars key)) (String.ofList (Text.trimChars value))
  | none => if (Text.trimChars cs).isEmpty then .blank else .other

/-- What a text tells about the processors. -/
structure Summary where
  /-- The number of processors. -/
  processors : Nat := 0
  /-- The identifiers of those processors that have both, in order. -/
  ids : List ProcessorId := []
  vendor : Option String := none
  model : Option String := none
  deriving DecidableEq, Repr

/-- A summary under way. -/
structure Progress where
  summary : Summary := {}
  package : Option Nat := none
  core : Option Nat := none
  inBlock : Bool := false
  deriving DecidableEq, Repr

namespace Progress

/-- End a block: its processor is listed if both identifiers are known, and both are forgotten. -/
def endBlock (p : Progress) : Progress :=
  let ids := match p.package, p.core with
    | some package, some core => p.summary.ids ++ [{ package, core }]
    | _, _ => p.summary.ids
  { summary := { p.summary with ids }, inBlock := false }

/-- End the block that is open, if one is. -/
def close (p : Progress) : Progress := if p.inBlock then p.endBlock else p

/-- Open the block of one more processor. -/
def openBlock (p : Progress) : Progress :=
  { p with
    summary := { p.summary with processors := p.summary.processors + 1 }
    inBlock := true }

/-- Keep the first name that is not empty. -/
def keepFirst (known : Option String) (name : String) : Option String :=
  known.or (if name.isEmpty then none else some name)

/-- Take in one line. -/
def take (p : Progress) : Line → Progress
  | .blank => p.close
  | .processor => p.close.openBlock
  | .package id => { p with package := id }
  | .core id => { p with core := id }
  | .vendor name =>
    { p with summary := { p.summary with vendor := keepFirst p.summary.vendor name } }
  | .model name =>
    { p with summary := { p.summary with model := keepFirst p.summary.model name } }
  | .other => p

end Progress

/-- Summarise a text. -/
def parse (text : String) : Summary :=
  (((Text.lines text).map Line.ofChars).foldl Progress.take {}).close.summary

namespace Summary

/-- Count the processors, which is possible if all of them have both identifiers. -/
def counts (s : Summary) : Except ProbeFault Counts :=
  if s.ids.isEmpty || s.ids.length != s.processors then
    .error (.undetermined "sockets" "/proc/cpuinfo lists no physical id for some processors")
  else Counts.ofProcessors "/proc/cpuinfo" s.ids

end Summary

end CpuCensus.Cpuinfo
