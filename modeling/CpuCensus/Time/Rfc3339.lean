import CpuCensus.Text.Numeral
import CpuCensus.Time.Instant

/-!
# Instants as text

The date and time format of RFC 3339, with as many fraction digits as the value needs, in groups of
three. Years outside 0 to 9999 carry a sign.
-/

namespace CpuCensus

/-- How the offset from universal time is written. -/
inductive OffsetMark where
  /-- `+00:00` -/
  | numeric
  /-- `Z` -/
  | letter
  deriving DecidableEq, Repr

/-- The written offset. -/
def OffsetMark.text : OffsetMark → String
  | .numeric => "+00:00"
  | .letter => "Z"

namespace Date

/-- The year in four digits, with a sign and more digits where four do not suffice. -/
def yearText (d : Date) : String :=
  if 0 ≤ d.year && d.year ≤ 9999 then Text.padded 4 d.year.toNat
  else if d.year < 0 then "-" ++ Text.padded 4 d.year.natAbs
  else "+" ++ Text.padded 4 d.year.natAbs

/-- Year, month and day. -/
def text (d : Date) : String :=
  d.yearText ++ "-" ++ Text.padded 2 d.month ++ "-" ++ Text.padded 2 d.day

end Date

namespace Instant

/-- The fraction of a second, in 0, 3, 6 or 9 digits: the fewest that are exact. -/
def fractionText (nanos : Nat) : String :=
  if nanos == 0 then ""
  else if nanos % 1000000 == 0 then "." ++ Text.padded 3 (nanos / 1000000)
  else if nanos % 1000 == 0 then "." ++ Text.padded 6 (nanos / 1000)
  else "." ++ Text.padded 9 nanos

/-- Hours, minutes and seconds; a leap second is second 60. -/
def timeText (t : Instant) : String :=
  let s := t.secondOfDay
  let second := s % 60 + if t.inLeapSecond then 1 else 0
  Text.padded 2 (s / 3600) ++ ":" ++ Text.padded 2 (s / 60 % 60) ++ ":" ++ Text.padded 2 second ++
    fractionText (t.nanos % nanosPerSecond)

/-- The instant in the format of RFC 3339. -/
def text (t : Instant) (offset : OffsetMark) : String :=
  t.date.text ++ "T" ++ t.timeText ++ offset.text

end Instant

end CpuCensus
