import CpuCensus.Probe.Fault
import CpuCensus.Text.Numeral

/-!
# Counting processors

A processor is identified by its package, die, cluster and core. The counts of a host are its
processors, its distinct cores and its distinct packages, each at most the largest 32-bit number.
-/

namespace CpuCensus

/-- Where a hardware thread sits. -/
structure ProcessorId where
  package : Nat
  die : Nat := 0
  cluster : Nat := 0
  core : Nat
  deriving DecidableEq, Repr

/-- How many hardware threads, cores and sockets a host has. -/
structure Counts where
  threads : Nat
  cores : Nat
  sockets : Nat
  deriving DecidableEq, Repr

/-- The number of different values in a list. -/
def distinctCount {α : Type} [DecidableEq α] : List α → Nat
  | [] => 0
  | a :: as => distinctCount as + if a ∈ as then 0 else 1

/-- A count as it is reported: at most the largest 32-bit number. -/
def capped (n : Nat) : Nat := min n (Text.bound32 - 1)

namespace Counts

/-- Count a list of processors that a source tells; a source that tells none is malformed. -/
def ofProcessors (source : String) (processors : List ProcessorId) : Except ProbeFault Counts :=
  if processors.isEmpty then .error (.malformed source "no processors listed")
  else .ok {
    threads := capped processors.length
    cores := capped (distinctCount processors)
    sockets := capped (distinctCount (processors.map ProcessorId.package)) }

end Counts

end CpuCensus
