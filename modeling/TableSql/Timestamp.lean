import TableSql.Calendar

/-!
# Timestamps without a time zone

A timestamp is a day, a second of that day and nanoseconds. A leap second is the second before it
with a nanosecond count of at least one thousand million, so only the last second of a minute can
be one.

* `Timestamp.toMicros` counts microseconds from midnight of the first of January 2000, dropping
  what is left of a microsecond towards zero;
* `Timestamp.ofMicros?` is its inverse where the day can be named.
-/

namespace TableSql

/-- Whether a count of nanoseconds can belong to a second of the day. -/
def IsNano (second nano : Nat) : Prop :=
  nano < 1000000000 ∨ (nano < 2000000000 ∧ second % 60 = 59)

instance (second nano : Nat) : Decidable (IsNano second nano) := by
  unfold IsNano; infer_instance

/-- A date and a time of day. -/
structure Timestamp where
  /-- Days since the first of January 2000. -/
  day : Int
  /-- Seconds since midnight. -/
  second : Nat
  nano : Nat
  firstDay_le : Calendar.firstDay ≤ day
  le_lastDay : day ≤ Calendar.lastDay
  second_lt : second < 86400
  isNano : IsNano second nano
deriving DecidableEq

namespace Timestamp

/-- The timestamp of a day, a second and nanoseconds, if there is one. -/
def ofDay? (day : Int) (second nano : Nat) : Option Timestamp :=
  if h : (Calendar.firstDay ≤ day ∧ day ≤ Calendar.lastDay) ∧ second < 86400 ∧ IsNano second nano
  then some ⟨day, second, nano, h.1.1, h.1.2, h.2.1, h.2.2⟩
  else none

/-- The timestamp of a date and a time of day, if they exist. -/
def ofFields? (year : Int) (month day hour minute second nano : Nat) : Option Timestamp :=
  if 1 ≤ month ∧ month ≤ 12 ∧ 1 ≤ day ∧ day ≤ Calendar.daysInMonth year month ∧
      hour < 24 ∧ minute < 60 ∧ second < 60 then
    ofDay? (Calendar.dayNumber year month day) (hour * 3600 + minute * 60 + second) nano
  else none

/-- The hour of the day. -/
def hour (t : Timestamp) : Nat := t.second / 3600

/-- The minute of the hour. -/
def minute (t : Timestamp) : Nat := t.second / 60 % 60

/-- Nanoseconds since midnight of the first of January 2000. -/
def toNanos (t : Timestamp) : Int := (t.day * 86400 + t.second) * 1000000000 + t.nano

/-- Whole microseconds since midnight of the first of January 2000, counted towards zero. -/
def toMicros (t : Timestamp) : Int := t.toNanos.tdiv 1000

/-- The timestamp a number of microseconds after midnight of the first of January 2000. -/
def ofMicros? (micros : Int) : Option Timestamp :=
  let ofDay := micros % 86400000000
  ofDay? (micros / 86400000000) (ofDay / 1000000).toNat (ofDay % 1000000 * 1000).toNat

/-! ## Text -/

/-- A number with zeros in front, up to a width. -/
def padded (width n : Nat) : String :=
  let digits := toString n
  String.ofList (List.replicate (width - digits.length) '0') ++ digits

/-- A year with four digits, and with a sign outside the years 0 to 9999. -/
def yearText (year : Int) : String :=
  if 0 ≤ year ∧ year ≤ 9999 then padded 4 year.toNat
  else (if year < 0 then "-" else "+") ++ padded 4 year.natAbs

/-- A fraction of a second with 3, 6 or 9 digits, the fewest that are exact. -/
def fractionText (nano : Nat) : String :=
  if nano = 0 then ""
  else if nano % 1000000 = 0 then "." ++ padded 3 (nano / 1000000)
  else if nano % 1000 = 0 then "." ++ padded 6 (nano / 1000)
  else "." ++ padded 9 nano

/-- The date and the time of day with a mark between them; a leap second reads as second 60. -/
def textWith (mark : String) (t : Timestamp) : String :=
  let date := Calendar.civilDate t.day
  let extra := t.nano / 1000000000
  yearText date.1 ++ "-" ++ padded 2 date.2.1 ++ "-" ++ padded 2 date.2.2 ++ mark ++
    padded 2 t.hour ++ ":" ++ padded 2 t.minute ++ ":" ++ padded 2 (t.second % 60 + extra) ++
    fractionText (t.nano % 1000000000)

end Timestamp

end TableSql
