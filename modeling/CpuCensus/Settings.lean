import CpuCensus.Text.Blank

/-!
# Settings of a recorder

Each setting may be left out; what is then used is told by the `effective` functions. Settings are
valid when the period is not too short, the number of records is in range and the name is not blank.
-/

namespace CpuCensus

/-- What a user may set about a recording. -/
structure Settings where
  name : Option String := none
  periodMs : Option Nat := none
  maxRecords : Option Nat := none
  deriving DecidableEq, Repr

/-- Why settings cannot be used. -/
inductive SettingsFault where
  | periodTooShort (periodMs : Nat)
  | recordsOutOfRange (maxRecords : Nat)
  | blankName
  deriving DecidableEq, Repr

namespace Settings

/-- The name of a recording that is given none. -/
def defaultName : String := "cpu-information"

/-- The number of records that are kept when none is set. -/
def defaultMaxRecords : Nat := 10000

/-- The largest number of records that can be set. -/
def maxRecordsLimit : Nat := 100000

/-- The shortest period, in milliseconds. -/
def minPeriodMs : Nat := 10

/-- The settings of a user who sets nothing. -/
def standard : Settings := { maxRecords := some defaultMaxRecords }

/-- The name that is used. -/
def effectiveName (s : Settings) : String := s.name.getD defaultName

/-- The number of records that are kept. -/
def effectiveMaxRecords (s : Settings) : Nat := s.maxRecords.getD defaultMaxRecords

/-- The first fault of the settings: the period comes before the records, the name last. -/
def fault? (s : Settings) : Option SettingsFault :=
  (s.periodMs.bind fun ms => if ms < minPeriodMs then some (.periodTooShort ms) else none)
  <|> (s.maxRecords.bind fun n =>
    if n = 0 ∨ maxRecordsLimit < n then some (.recordsOutOfRange n) else none)
  <|> (s.name.bind fun name => if Text.isAllBlank name then some .blankName else none)

/-- Accept settings without fault. -/
def checked (s : Settings) : Except SettingsFault Settings :=
  match s.fault? with
  | some fault => .error fault
  | none => .ok s

end Settings

/-- The wording of the fault. -/
def SettingsFault.message : SettingsFault → String
  | .periodTooShort ms =>
    "Sampling period must be at least " ++ Nat.repr Settings.minPeriodMs ++ " ms, got " ++
      Nat.repr ms
  | .recordsOutOfRange n =>
    "Max records must be between 1 and " ++ Nat.repr Settings.maxRecordsLimit ++ ", got " ++
      Nat.repr n
  | .blankName => "Recording name cannot be empty"

end CpuCensus
