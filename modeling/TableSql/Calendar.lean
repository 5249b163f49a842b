/-!
# The calendar

Days are counted from the first of January of the year 2000 in the Gregorian calendar, extended
to all years; the year before year 1 is year 0. `dayNumber` and `civilDate` are the two
directions between a day's number and its year, month and day of the month.

A year is taken to begin in March, so that the day of a leap year is its last.
-/

namespace TableSql.Calendar

/-- Whether a year has a 29th of February. -/
def isLeap (year : Int) : Bool := year % 4 == 0 && (year % 100 != 0 || year % 400 == 0)

/-- The number of days of a month. -/
def daysInMonth (year : Int) (month : Nat) : Nat :=
  if month = 2 then (if isLeap year then 29 else 28)
  else if month = 4 ∨ month = 6 ∨ month = 9 ∨ month = 11 then 30
  else 31

/-- The number of a date's day. -/
def dayNumber (year : Int) (month day : Nat) : Int :=
  let shifted := if month ≤ 2 then year - 1 else year
  let fromMarch : Int := if month ≤ 2 then month + 9 else month - 3
  let century := shifted / 400
  let yearOfCentury := shifted % 400
  let dayOfYear := (153 * fromMarch + 2) / 5 + day - 1
  century * 146097 + yearOfCentury * 365 + yearOfCentury / 4 - yearOfCentury / 100 + dayOfYear
    - 730425

/-- The year, month and day of the month of a day's number. -/
def civilDate (number : Int) : Int × Nat × Nat :=
  let fromZero := number + 730425
  let century := fromZero / 146097
  let dayOfCentury := fromZero % 146097
  let yearOfCentury :=
    (dayOfCentury - dayOfCentury / 1460 + dayOfCentury / 36524 - dayOfCentury / 146096) / 365
  let dayOfYear :=
    dayOfCentury - (365 * yearOfCentury + yearOfCentury / 4 - yearOfCentury / 100)
  let fromMarch := (5 * dayOfYear + 2) / 153
  let day := dayOfYear - (153 * fromMarch + 2) / 5 + 1
  let month := if fromMarch < 10 then fromMarch + 3 else fromMarch - 9
  let year := century * 400 + yearOfCentury
  (if month ≤ 2 then year + 1 else year, month.toNat, day.toNat)

/-- The number of the first day that a timestamp can name, in year -262143. -/
def firstDay : Int := dayNumber (-262143) 1 1

/-- The number of the last day that a timestamp can name, in year 262142. -/
def lastDay : Int := dayNumber 262142 12 31

end TableSql.Calendar
