/-!
The calendar: days counted from the first of January 1970, and the year, month and day that they
fall on. Years are counted in both directions without bounds, and the Gregorian rule for leap days
holds in all of them.
-/

namespace SqlRegexp.Time

def isLeap (year : Int) : Bool := year % 4 == 0 && (year % 100 != 0 || year % 400 == 0)

def daysIn (year : Int) (month : Nat) : Nat :=
  if month = 2 then (if isLeap year then 29 else 28)
  else if month = 4 ∨ month = 6 ∨ month = 9 ∨ month = 11 then 30 else 31

/-- A day of the calendar. -/
structure Day where
  year : Int
  /-- From 1 to 12. -/
  month : Nat
  /-- From 1 on. -/
  day : Nat
deriving DecidableEq, Repr

namespace Day

/-- The days of four hundred years, after which the calendar repeats. -/
def eraDays : Int := 146097

/-- The number, from 0 on, of a year within its four hundred years, given the number of one of its
days within them. Years start in March here, so that a leap day is the last of its year. -/
def yearOfEra (d : Nat) : Nat := (d - d / 1460 + d / 36524 - d / 146096) / 365

/-- The day that is some days after the first of January 1970. -/
def ofNumber (n : Int) : Day :=
  let shifted := n + 719468
  let era := shifted / eraDays
  let d := (shifted % eraDays).toNat
  let y := yearOfEra d
  let dayOfYear := d - (365 * y + y / 4 - y / 100)
  let m := (5 * dayOfYear + 2) / 153
  let month := if m < 10 then m + 3 else m - 9
  let year := era * 400 + y + (if month ≤ 2 then 1 else 0)
  ⟨year, month, dayOfYear - (153 * m + 2) / 5 + 1⟩

/-- How many days a day is after the first of January 1970. -/
def number (d : Day) : Int :=
  let y := if d.month ≤ 2 then d.year - 1 else d.year
  let era := y / 400
  let yearOfEra := y % 400
  let m : Int := if 2 < d.month then d.month - 3 else d.month + 9
  let dayOfYear := (153 * m + 2) / 5 + d.day - 1
  era * eraDays + (yearOfEra * 365 + yearOfEra / 4 - yearOfEra / 100 + dayOfYear) - 719468

/-- The day of the week, Sunday being 0. -/
def weekday (d : Day) : Nat := ((d.number + 4) % 7).toNat

/-- The day of the week, Monday being 0. -/
def weekdayFromMonday (d : Day) : Nat := (d.weekday + 6) % 7

/-- The number of the day within its year, from 0 on. -/
def ofYear (d : Day) : Nat := (d.number - (⟨d.year, 1, 1⟩ : Day).number).toNat

/-- The number of the week in the year, of weeks that start on a given day of the week; days before
the first such day are in week 0. -/
def week (daysSinceStart : Nat) (d : Day) : Nat := (d.ofYear + 7 - daysSinceStart) / 7

/-- The Thursday of the week of a day, where weeks start on Monday. The week belongs to its year. -/
def thursday (d : Day) : Day := ofNumber (d.number - d.weekdayFromMonday + 3)

/-- The number of the week, of which the first in a year holds its first Thursday. -/
def isoWeek (d : Day) : Nat := d.thursday.ofYear / 7 + 1

/-- The first days of two years and the last before a leap year. -/
example : ofNumber 0 = ⟨1970, 1, 1⟩ ∧ ofNumber (-1) = ⟨1969, 12, 31⟩ ∧
    ofNumber 11016 = ⟨2000, 2, 29⟩ := by decide

end Day

end SqlRegexp.Time
