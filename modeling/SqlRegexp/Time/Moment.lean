import SqlRegexp.Text.RealNumeral
import SqlRegexp.Time.Calendar

/-!
Moments, as seconds since the start of 1970 and a part of a second, and the moments that numbers
denote.
-/

namespace SqlRegexp.Time

structure Moment where
  /-- Whole seconds since the start of 1970. -/
  seconds : Int
  /-- Millionths of a second, toward zero; below zero for moments before 1970. -/
  millionths : Int := 0
deriving DecidableEq, Repr

/-- Why a number denotes no moment. -/
inductive MomentError where
  /-- There are more seconds than the clock counts. -/
  | outOfRange
  /-- The year has too many digits. -/
  | yearOutOfRange
  | notANumber
deriving DecidableEq, Repr

namespace MomentError

def message : MomentError → String
  | outOfRange => "timestamp out of range for platform time_t"
  | yearOutOfRange => "[Errno 75] Value too large for defined data type"
  | notANumber => "Invalid value NaN (not a number)"

end MomentError

namespace Moment

def day (m : Moment) : Day := .ofNumber (m.seconds / 86400)

/-- The second within its day. -/
def ofDay (m : Moment) : Nat := (m.seconds % 86400).toNat

/-- The hour within its day. -/
def hour (m : Moment) : Nat := m.ofDay / 3600

/-- The minute within its hour. -/
def minute (m : Moment) : Nat := m.ofDay / 60 % 60

/-- The second within its minute. -/
def second (m : Moment) : Nat := m.ofDay % 60

/-- A moment whose seconds and year are within their ranges. -/
def checked (m : Moment) : Except MomentError Moment :=
  if m.seconds < -0x8000000000000000 ∨ 0x8000000000000000 ≤ m.seconds then .error .outOfRange
  else if m.day.year < 1900 - 0x80000000 ∨ 0x80000000 ≤ m.day.year then .error .yearOutOfRange
  else .ok m

/-- The whole number that is a double without a fraction, as long as it has at most 63 bits. -/
def wholeOf (x : Float) : Int :=
  if x < 0.0 then -(((-x).toUInt64.toNat : Nat) : Int) else (x.toUInt64.toNat : Int)

/-- A double without its fraction. -/
def towardZero (x : Float) : Float := if x < 0.0 then x.ceil else x.floor

/-- The moment that a double denotes: the seconds are rounded down, and the part of a second is
computed in doubles and cut off. -/
def ofReal (x : Float) : Except MomentError Moment :=
  if x.isNaN then .error .notANumber
  else if x < -9223372036854775808.0 || 9223372036854775808.0 ≤ x then .error .outOfRange
  else
    let part := (x - towardZero x) * 1000000.0
    checked ⟨wholeOf x.floor, wholeOf (towardZero part)⟩

/-- The moment that a whole number denotes. -/
def ofInt (n : Int) : Except MomentError Moment := checked ⟨n, 0⟩

end Moment

end SqlRegexp.Time
