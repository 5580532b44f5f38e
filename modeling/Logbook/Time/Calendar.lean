/-!
# The calendar

Days of the Gregorian calendar, carried on backwards before its introduction, and counted from
1970-01-01. A year is taken to begin in March, so that its leap day is the last one, and four
hundred years are always 146097 days long.
-/

namespace Logbook

/-- A day of the calendar. -/
structure Date where
  /-- The year, where 0 is the year before 1. -/
  year : Int
  /-- The month, from 1 to 12. -/
  month : Nat
  /-- The day of the month, from 1. -/
  day : Nat
  deriving DecidableEq, Inhabited

namespace Date

/-- Whether a year has a leap day. -/
def isLeap (year : Int) : Bool :=
  year % 4 = 0 && (year % 100 ≠ 0 || year % 400 = 0)

/-- The length of a month in days. -/
def monthLength (year : Int) (month : Nat) : Nat :=
  match month with
  | 2 => if isLeap year then 29 else 28
  | 4 | 6 | 9 | 11 => 30
  | _ => 31

/-- The first and the last year that dates are reckoned in. -/
def minYear : Int :=
  -262143

@[inherit_doc minYear]
def maxYear : Int :=
  262142

/-- Whether there is such a day. -/
def isValid (d : Date) : Bool :=
  minYear ≤ d.year && d.year ≤ maxYear && 1 ≤ d.month && d.month ≤ 12 &&
    1 ≤ d.day && d.day ≤ monthLength d.year d.month

/-- The days in four hundred years. -/
def cycleDays : Int :=
  146097

/-- The number of 1970-01-01, where the 1st of March of the year 0 has the number 0. -/
def epochDay : Int :=
  719468

/-- The days from 1970-01-01 to this day. -/
def toDays (d : Date) : Int :=
  let year := if d.month ≤ 2 then d.year - 1 else d.year
  let inCycle := year % 400
  let month : Int := if d.month ≤ 2 then d.month + 9 else d.month - 3
  let inYear := (153 * month + 2) / 5 + d.day - 1
  year / 400 * cycleDays + (inCycle * 365 + inCycle / 4 - inCycle / 100 + inYear) - epochDay

/-- The day that lies a number of days after 1970-01-01. -/
def ofDays (days : Int) : Date :=
  let n := days + epochDay
  let inCycle := n % cycleDays
  let year := (inCycle - inCycle / 1460 + inCycle / 36524 - inCycle / 146096) / 365
  let inYear := inCycle - (365 * year + year / 4 - year / 100)
  let month := (5 * inYear + 2) / 153
  let day := inYear - (153 * month + 2) / 5 + 1
  let january := if 10 ≤ month then 1 else 0
  ⟨year + n / cycleDays * 400 + january,
    (if 10 ≤ month then month - 9 else month + 3).toNat, day.toNat⟩

end Date

end Logbook
