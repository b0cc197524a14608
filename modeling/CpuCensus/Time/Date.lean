/-!
# Dates

The date of the proleptic Gregorian calendar that lies a number of days after 1970-01-01.
-/

namespace CpuCensus

/-- A date of the proleptic Gregorian calendar; the year before year 1 is year 0. -/
structure Date where
  year : Int
  month : Nat
  day : Nat
  deriving DecidableEq, Repr

namespace Date

/-- Days from 0000-03-01 to 1970-01-01. -/
def epochOffset : Int := 719468

/-- Days in 400 years, after which the calendar repeats. -/
def cycleDays : Int := 146097

/-- The date that lies so many days after 1970-01-01.

Years are counted from 1 March, so that the leap day is the last of its year and the lengths of
the months follow one linear rule. -/
def ofDay (day : Int) : Date :=
  let shifted := day + epochOffset
  let cycle := shifted.fdiv cycleDays
  let dayOfCycle := (shifted.fmod cycleDays).toNat
  let yearOfCycle :=
    (dayOfCycle - dayOfCycle / 1460 + dayOfCycle / 36524 - dayOfCycle / 146096) / 365
  let dayOfYear := dayOfCycle - (365 * yearOfCycle + yearOfCycle / 4 - yearOfCycle / 100)
  let monthFromMarch := (5 * dayOfYear + 2) / 153
  let month := if monthFromMarch < 10 then monthFromMarch + 3 else monthFromMarch - 9
  let year := cycle * 400 + yearOfCycle + (if month ≤ 2 then 1 else 0)
  { year, month, day := dayOfYear - (153 * monthFromMarch + 2) / 5 + 1 }

end Date

end CpuCensus
