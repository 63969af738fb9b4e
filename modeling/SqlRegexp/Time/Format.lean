import SqlRegexp.Text.Padded
import SqlRegexp.Time.Moment

/-!
Moments in universal time, written as a format says: a per cent sign with a letter stands for a part
of the moment. Between them a width may be given and how it is filled.
-/

namespace SqlRegexp.Time

open SqlRegexp.Text

/-- The words that the names of days and months are in. -/
def dayNames : List String :=
  ["Sunday", "Monday", "Tuesday", "Wednesday", "Thursday", "Friday", "Saturday"]

def monthNames : List String :=
  ["January", "February", "March", "April", "May", "June", "July", "August", "September",
   "October", "November", "December"]

/-- What a letter stands for. -/
inductive Field where
  /-- A number with a least width, filled with a character. -/
  | number (n : Int) (width : Nat) (fill : Char)
  /-- A text. -/
  | text (cs : List Char)

/-- A way to write a field that the format asks for. -/
structure Manner where
  /-- A character to fill with, or none to fill with nothing. -/
  fill : Option (Option Char) := none
  upper : Bool := false
  width : Nat := 0

namespace Field

/-- A field in a manner. -/
def write (m : Manner) : Field → List Char
  | number n width fill =>
    let fill := m.fill.getD (some fill)
    let width := max width m.width
    match fill with
    | none => zeroPadded 0 n
    | some '0' => zeroPadded width n
    | some c => padLeft c width (zeroPadded 0 n)
  | text cs =>
    let cs := if m.upper then cs.map Char.toUpper else cs
    padLeft (if m.fill = some (some '0') then '0' else ' ') m.width cs

end Field

namespace Moment

/-- A number of at least two digits. -/
def two (n : Int) : List Char := zeroPadded 2 n

/-- The hour on a dial of twelve. -/
def dialHour (m : Moment) : Nat := if m.hour % 12 = 0 then 12 else m.hour % 12

/-- The hour, the minute and the second. -/
def clock (m : Moment) : List Char := two m.hour ++ ':' :: two m.minute ++ ':' :: two m.second

/-- The month, the day and the year of its century. -/
def shortDate (m : Moment) : List Char :=
  two m.day.month ++ '/' :: two m.day.day ++ '/' :: two (m.day.year % 100)

/-- The half of the day. -/
def half (m : Moment) : List Char := if m.hour < 12 then ['A', 'M'] else ['P', 'M']

def dayName (m : Moment) : List Char := (dayNames.getD m.day.weekday "").toList

def monthName (m : Moment) : List Char := (monthNames.getD (m.day.month - 1) "").toList

/-- What a letter stands for at a moment. -/
def field? (m : Moment) (c : Char) : Option Field :=
  let d := m.day
  match c with
  | 'Y' => some (.number d.year 0 '0')
  | 'm' => some (.number d.month 2 '0')
  | 'd' => some (.number d.day 2 '0')
  | 'H' => some (.number m.hour 2 '0')
  | 'M' => some (.number m.minute 2 '0')
  | 'S' => some (.number m.second 2 '0')
  | 'y' => some (.number (d.year % 100) 2 '0')
  | 'C' => some (.number (d.year / 100) 0 '0')
  | 'e' => some (.number d.day 2 ' ')
  | 'j' => some (.number (d.ofYear + 1) 3 '0')
  | 'I' => some (.number m.dialHour 2 '0')
  | 'k' => some (.number m.hour 2 ' ')
  | 'l' => some (.number m.dialHour 2 ' ')
  | 's' => some (.number m.seconds 0 '0')
  | 'u' => some (.number (d.weekdayFromMonday + 1) 1 '0')
  | 'w' => some (.number d.weekday 1 '0')
  | 'U' => some (.number (d.week d.weekday) 2 '0')
  | 'W' => some (.number (d.week d.weekdayFromMonday) 2 '0')
  | 'V' => some (.number d.isoWeek 2 '0')
  | 'G' => some (.number d.thursday.year 0 '0')
  | 'g' => some (.number (d.thursday.year % 100) 2 '0')
  | 'a' => some (.text (m.dayName.take 3))
  | 'A' => some (.text m.dayName)
  | 'b' | 'h' => some (.text (m.monthName.take 3))
  | 'B' => some (.text m.monthName)
  | 'p' => some (.text m.half)
  | 'P' => some (.text (m.half.map Char.toLower))
  | 'D' | 'x' => some (.text m.shortDate)
  | 'F' => some (.text (zeroPadded 0 d.year ++ '-' :: two d.month ++ '-' :: two d.day))
  | 'T' | 'X' => some (.text m.clock)
  | 'R' => some (.text (two m.hour ++ ':' :: two m.minute))
  | 'r' => some (.text (two m.dialHour ++ ':' :: two m.minute ++ ':' :: two m.second
      ++ ' ' :: m.half))
  | 'c' => some (.text (m.dayName.take 3 ++ ' ' :: m.monthName.take 3 ++ ' '
      :: padLeft ' ' 2 (zeroPadded 0 d.day) ++ ' ' :: m.clock ++ ' ' :: zeroPadded 0 d.year))
  | 'z' => some (.text "+0000".toList)
  | 'Z' => some (.text "GMT".toList)
  | 'n' => some (.text ['\n'])
  | 't' => some (.text ['\t'])
  | '%' => some (.text ['%'])
  | _ => none

/-- The manner that a sign asks for. -/
def manner? (m : Manner) : Char → Option Manner
  | '-' => some { m with fill := some none }
  | '_' => some { m with fill := some (some ' ') }
  | '0' => some { m with fill := some (some '0') }
  | '^' => some { m with upper := true }
  | _ => none

/-- What stands between a per cent sign and its letter: signs and then a width, and the rest. -/
def readManner (m : Manner) : List Char → Manner × List Char
  | [] => (m, [])
  | c :: cs =>
    match manner? m c with
    | some n => readManner n cs
    | none =>
      let ds := (c :: cs).takeWhile isDecimal
      ({ m with width := ofDigits 10 (ds.filterMap decimalValue?) }, (c :: cs).drop ds.length)

/-- A moment written as a format says; what has no meaning stays as it is, in its width. -/
def formatFrom (m : Moment) : (limit : Nat) → List Char → List Char
  | 0, _ => []
  | _, [] => []
  | limit + 1, '%' :: cs =>
    let (manner, rest) := readManner {} cs
    let shown := '%' :: cs.take (cs.length - rest.length + 1)
    let f := (rest.head?.bind m.field?).getD (.text shown)
    f.write manner ++ formatFrom m limit (rest.drop 1)
  | limit + 1, c :: cs => c :: formatFrom m limit cs

/-- A moment written as a format says. -/
def format (m : Moment) (cs : List Char) : List Char := m.formatFrom (cs.length + 1) cs

/-- The format of moments where none is given. -/
def plainFormat : List Char := "%Y-%m-%d %H:%M:%S".toList

/-- A moment as messages are stamped with it: in a format, or the plain one in place of an empty
one, and with its part of a second. -/
def stamp (m : Moment) (fmt : List Char) : List Char :=
  m.format (if fmt.isEmpty then plainFormat else fmt) ++ '.' :: zeroPadded 6 m.millionths ++ ['Z']

end Moment

end SqlRegexp.Time
