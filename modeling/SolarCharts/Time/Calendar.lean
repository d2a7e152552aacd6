/-!
# Dates

The proleptic Gregorian calendar, with a year zero and negative years before it. `Date.toDays` counts
the days since 1970-01-01 and `Date.ofDays` goes the other way. Both count years from March, so that
a leap day is the last day of its year, and in cycles of 400 years.
-/

namespace SolarCharts

/-- A day of the calendar. -/
structure Date where
  /-- The year; 0 is the year before 1. -/
  year : Int
  /-- The month, from 1. -/
  month : Nat
  /-- The day of the month, from 1. -/
  day : Nat
deriving DecidableEq

namespace Date

/-- Whether a year has a 29 February. -/
def isLeapYear (year : Int) : Bool :=
  year % 4 == 0 && (year % 100 != 0 || year % 400 == 0)

/-- The number of days in a month. -/
def daysInMonth (year : Int) (month : Nat) : Nat :=
  if month = 2 then (if isLeapYear year then 29 else 28)
  else if month ∈ [4, 6, 9, 11] then 30
  else 31

/-- Whether the calendar has the day. -/
def isValid (date : Date) : Bool :=
  decide (1 ≤ date.month) && decide (date.month ≤ 12) && decide (1 ≤ date.day)
    && decide (date.day ≤ daysInMonth date.year date.month)

/-- Days from 0000-03-01 to 1970-01-01. -/
def epochShift : Int := 719468

/-- Days in 400 years. -/
def daysInCycle : Int := 146097

/-- Days since 1970-01-01. -/
def toDays (date : Date) : Int :=
  -- January and February end the year that starts the March before
  let year := if date.month ≤ 2 then date.year - 1 else date.year
  let cycle := year / 400
  let yearOfCycle := year % 400
  let monthFromMarch : Int := (date.month + 9) % 12
  let dayOfYear := (153 * monthFromMarch + 2) / 5 + date.day - 1
  let dayOfCycle := yearOfCycle * 365 + yearOfCycle / 4 - yearOfCycle / 100 + dayOfYear
  cycle * daysInCycle + dayOfCycle - epochShift

/-- The date a number of days since 1970-01-01. -/
def ofDays (days : Int) : Date :=
  let shifted := days + epochShift
  let cycle := shifted / daysInCycle
  let dayOfCycle := shifted % daysInCycle
  -- without its leap days, every year of a cycle has 365 days
  let yearOfCycle :=
    (dayOfCycle - dayOfCycle / 1460 + dayOfCycle / 36524 - dayOfCycle / 146096) / 365
  let dayOfYear := dayOfCycle - (365 * yearOfCycle + yearOfCycle / 4 - yearOfCycle / 100)
  let monthFromMarch := (5 * dayOfYear + 2) / 153
  let day := dayOfYear - (153 * monthFromMarch + 2) / 5 + 1
  let month := if monthFromMarch < 10 then monthFromMarch + 3 else monthFromMarch - 9
  let year := yearOfCycle + cycle * 400 + (if month ≤ 2 then 1 else 0)
  ⟨year, month.toNat, day.toNat⟩

end Date

end SolarCharts
