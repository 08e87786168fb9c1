/-
DoubleEntry/Time/Calendar.lean

The Gregorian calendar, without end in both directions.  Days are numbered
from 1 January 1970.

A year is counted from March here, so that the leap day is its last day; 400
such years are 146097 days.
-/

namespace DoubleEntry

/-- A day of the calendar. -/
structure Date where
  year : Int
  month : Nat
  day : Nat
  deriving DecidableEq, Repr

namespace Date

/-- Whether a year has a leap day. -/
def isLeapYear (year : Int) : Bool :=
  year % 4 = 0 && (year % 100 ≠ 0 || year % 400 = 0)

/-- The number of days of a month. -/
def daysInMonth (year : Int) (month : Nat) : Nat :=
  if month = 2 then if isLeapYear year then 29 else 28
  else if month = 4 ∨ month = 6 ∨ month = 9 ∨ month = 11 then 30
  else 31

/-- Whether there is such a day. -/
def isValid (d : Date) : Bool :=
  1 ≤ d.month && d.month ≤ 12 && 1 ≤ d.day && d.day ≤ daysInMonth d.year d.month

/-- The number of a day. -/
def number (d : Date) : Int :=
  let y := if d.month ≤ 2 then d.year - 1 else d.year
  let m : Int := if d.month ≤ 2 then d.month + 9 else d.month - 3
  365 * y + y / 4 - y / 100 + y / 400 + (153 * m + 2) / 5 + d.day - 719469

/-- The day with a number. -/
def ofNumber (n : Int) : Date :=
  let z := n + 719468
  let era := z / 146097
  let inEra := z % 146097
  let century := min (inEra / 36524) 3
  let inCentury := inEra - 36524 * century
  let quad := inCentury / 1461
  let inQuad := inCentury % 1461
  let inYears := min (inQuad / 365) 3
  let dayOfYear := inQuad - 365 * inYears
  let m := (5 * dayOfYear + 2) / 153
  let year := 400 * era + 100 * century + 4 * quad + inYears
  { year := if m < 10 then year else year + 1
    month := (if m < 10 then m + 3 else m - 9).toNat
    day := (dayOfYear - (153 * m + 2) / 5 + 1).toNat }

end Date

end DoubleEntry
