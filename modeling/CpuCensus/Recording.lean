import CpuCensus.Recording.Ledger

/-!
# Recordings

A recording keeps the latest snapshots up to its capacity and numbers all that were captured. It is
a ledger whose phase, buffer and frozen events belong together, as they do from the beginning and
after every operation. The view is `events`.
-/

namespace CpuCensus

/-- A bounded record of snapshots. -/
structure Recording extends Ledger where
  tied : toLedger.Tied

/-- An idle recording. -/
def Recording.new (id : Nat) (settings : Settings) : Recording where
  toLedger := Ledger.new id settings
  tied := Ledger.tied_new id settings

end CpuCensus
