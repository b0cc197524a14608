import CpuCensus.Time.Date

/-!
# Instants

A point in universal time to the nanosecond, leap seconds included, and a clock that tells the
instant at which something happens during a run.
-/

namespace CpuCensus

/-- Nanoseconds in a second. -/
def nanosPerSecond : Nat := 1000000000

/-- A point in universal time.

Inside a leap second `seconds` stays at the second before it and `nanos` is at least a full
second. -/
structure Instant where
  /-- Seconds since 1970-01-01T00:00:00, leap seconds not counted. -/
  seconds : Int
  /-- Nanoseconds since that second began. -/
  nanos : Nat
  deriving DecidableEq, Repr, Inhabited

namespace Instant

/-- The day since 1970-01-01. -/
def day (t : Instant) : Int := t.seconds.fdiv 86400

/-- The second of the day, with a leap second counted as the one before it. -/
def secondOfDay (t : Instant) : Nat := (t.seconds.fmod 86400).toNat

/-- The date. -/
def date (t : Instant) : Date := Date.ofDay t.day

/-- The instant lies inside a leap second. -/
def inLeapSecond (t : Instant) : Bool := nanosPerSecond ≤ t.nanos

/-- The instants that can be written: years from -262143 to 262142, with leap seconds only at the
end of a minute. -/
def isValid (t : Instant) : Bool :=
  t.nanos < 2 * nanosPerSecond && (!t.inLeapSecond || t.secondOfDay % 60 == 59) &&
    -262143 ≤ t.date.year && t.date.year ≤ 262142

/-- The instant so many seconds and nanoseconds after 1970-01-01, if it can be written. -/
def ofUnix? (seconds : Int) (nanos : Nat) : Option Instant :=
  let t : Instant := { seconds, nanos }
  if t.isValid then some t else none

/-- The instant so many milliseconds later; a leap second is left only when its end is reached. -/
def after (t : Instant) (millis : Nat) : Instant :=
  let seconds := millis / 1000
  let nanos := millis % 1000 * 1000000
  if t.inLeapSecond && seconds == 0 && t.nanos + nanos < 2 * nanosPerSecond then
    { t with nanos := t.nanos + nanos }
  else
    let total := (if t.inLeapSecond then t.nanos - nanosPerSecond else t.nanos) + nanos
    { seconds := t.seconds + seconds + (total / nanosPerSecond : Nat)
      nanos := total % nanosPerSecond }

end Instant

/-- A clock tells the instant that lies so many milliseconds into a run. -/
abbrev Clock := Nat → Instant

/-- The clock of a run that begins at an instant. -/
def Clock.startingAt (start : Instant) : Clock := start.after

end CpuCensus
