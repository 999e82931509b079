import LatencyCurve.Journal.Entry

/-!
# Stamps from the clock

A clock counts nanoseconds since the beginning of 1970, in universal time. A stamp shows that count
as a time of day and as a date with time.

The date is found in the Gregorian calendar by eras of 400 years, all of the same length, whose
years begin in March. A leap day is then the last day of its year, so only the length of a year
depends on it, and where a month begins within a year does not.
-/

namespace LatencyCurve

/-- A day of the calendar. -/
structure Day where
  /-- The year -/
  year : Nat
  /-- The month, from one -/
  month : Nat
  /-- The day of the month, from one -/
  day : Nat
deriving DecidableEq, Repr

namespace Day

/-- The days between the first of March of the year zero and the beginning of 1970. -/
def daysBefore : Nat := 719468

/-- The days of an era. -/
def daysOfEra : Nat := 146097

/-- The day so many days after the beginning of 1970. -/
def ofCount (count : Nat) : Day :=
  let n := count + daysBefore
  let inEra := n % daysOfEra
  let year := (inEra - inEra / 1460 + inEra / 36524 - inEra / 146096) / 365
  let inYear := inEra - (365 * year + year / 4 - year / 100)
  let fromMarch := (5 * inYear + 2) / 153
  let month := if fromMarch < 10 then fromMarch + 3 else fromMarch - 9
  ⟨n / daysOfEra * 400 + year + (if month ≤ 2 then 1 else 0), month,
    inYear - (153 * fromMarch + 2) / 5 + 1⟩

end Day

namespace Stamp

/-- A number with zeros in front of it, up to some number of digits. -/
def zeroPadded (width n : Nat) : String :=
  let digits := Nat.toDigits 10 n
  String.ofList (List.replicate (width - digits.length) '0' ++ digits)

/-- Hours, minutes and seconds of so many seconds. -/
def clockText (seconds : Nat) : String :=
  zeroPadded 2 (seconds / 3600 % 24) ++ ":" ++ zeroPadded 2 (seconds / 60 % 60) ++ ":" ++
    zeroPadded 2 (seconds % 60)

/-- The date of so many seconds. -/
def dateText (seconds : Nat) : String :=
  let d := Day.ofCount (seconds / 86400)
  zeroPadded 4 d.year ++ "-" ++ zeroPadded 2 d.month ++ "-" ++ zeroPadded 2 d.day

/-- Nanoseconds behind a point, in as many groups of three digits as they need. -/
def fractionText (nanos : Nat) : String :=
  if nanos = 0 then ""
  else if nanos % 1000000 = 0 then "." ++ zeroPadded 3 (nanos / 1000000)
  else if nanos % 1000 = 0 then "." ++ zeroPadded 6 (nanos / 1000)
  else "." ++ zeroPadded 9 nanos

/-- The stamp of so many nanoseconds since the beginning of 1970. -/
def ofNanos (n : Nat) : Stamp :=
  let seconds := n / 1000000000
  let nanos := n % 1000000000
  let clock := clockText seconds
  ⟨clock ++ "." ++ zeroPadded 3 (nanos / 1000000),
    dateText seconds ++ "T" ++ clock ++ fractionText nanos ++ "Z"⟩

end Stamp

end LatencyCurve
