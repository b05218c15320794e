import CompileService.Text.Basic

/-!
# The calendar

Days of the Gregorian calendar, reckoned forward and backward without end, counted from the first of
January 1970.

* `CalendarDay.ofDays` and `CalendarDay.toDays`: a day by its number and back.
* `CalendarDay.ofWeek?`: a day by year, week and weekday; the first week of a year is the one that
  holds its first Thursday, and a week begins on Monday.
-/

namespace CompileService

/-- A day of the calendar. -/
structure CalendarDay where
  year : Int
  month : Nat
  day : Nat
deriving DecidableEq

namespace CalendarDay

/-- The day that lies the given number of days after the first of January 1970. Years are counted
from March, so that the day added in a leap year is the last of its year. -/
def ofDays (days : Int) : CalendarDay :=
  let z := days + 719468
  let era := z.fdiv 146097
  let dayOfEra := (z - era * 146097).toNat
  let yearOfEra := (dayOfEra - dayOfEra / 1460 + dayOfEra / 36524 - dayOfEra / 146096) / 365
  let dayOfYear := dayOfEra - (365 * yearOfEra + yearOfEra / 4 - yearOfEra / 100)
  let fromMarch := (5 * dayOfYear + 2) / 153
  let month := if fromMarch < 10 then fromMarch + 3 else fromMarch - 9
  { year := yearOfEra + era * 400 + (if month ≤ 2 then 1 else 0)
    month := month
    day := dayOfYear - (153 * fromMarch + 2) / 5 + 1 }

/-- The number of days from the first of January 1970 to a day. -/
def toDays (d : CalendarDay) : Int :=
  let year := if d.month ≤ 2 then d.year - 1 else d.year
  let era := year.fdiv 400
  let yearOfEra := year - era * 400
  let fromMarch : Int := if d.month ≤ 2 then d.month + 9 else d.month - 3
  let dayOfYear := (153 * fromMarch + 2) / 5 + d.day - 1
  era * 146097 + (yearOfEra * 365 + yearOfEra / 4 - yearOfEra / 100 + dayOfYear) - 719468

/-- Whether a year has 366 days. -/
def isLeapYear (year : Int) : Bool := year % 4 = 0 && (year % 100 ≠ 0 || year % 400 = 0)

/-- The number of days of a month. -/
def monthLength (year : Int) (month : Nat) : Nat :=
  if month = 2 then (if isLeapYear year then 29 else 28)
  else if month = 4 ∨ month = 6 ∨ month = 9 ∨ month = 11 then 30
  else 31

/-- The weekday of a day by its number: 0 for Monday up to 6 for Sunday. -/
def weekday (days : Int) : Int := (days + 3) % 7

/-- The number of the Monday with which the first week of a year begins. -/
def firstMonday (year : Int) : Int :=
  let first := toDays ⟨year, 1, 1⟩
  let monday := first - weekday first
  if 3 < weekday first then monday + 7 else monday

/-- The day by year, week and weekday, the latter from 1 to 7. -/
def ofWeek? (year : Int) (week weekday : Nat) : Option CalendarDay :=
  let monday := firstMonday year + 7 * (week - 1)
  if week = 0 ∨ weekday = 0 ∨ 7 < weekday ∨ firstMonday (year + 1) ≤ monday then none
  else some (ofDays (monday + (weekday - 1)))

end CalendarDay

end CompileService
