import SqlRegexp.Text.Radix
import SqlRegexp.Time.Calendar

/-!
Dates, with or without a time of day, as YAML writes them. Only their form and the bounds of their
parts matter here.
-/

namespace SqlRegexp.Yaml

open SqlRegexp.Text

/-- A time of day with a distance from universal time, in minutes, if one is given. -/
structure DayTime where
  hour : Nat
  minute : Nat
  second : Nat
  offset : Option Int
deriving DecidableEq, Repr

/-- A date as it is written. -/
structure Date where
  year : Nat
  month : Nat
  day : Nat
  /-- Whether month and day have two digits each. -/
  isPadded : Bool
  time : Option DayTime
deriving DecidableEq, Repr

/-- Why a date does not exist. -/
inductive DateFault where
  | year
  | month
  | day
  | hour
  | minute
  | second
  /-- The distance from universal time is a day or more. -/
  | offset (minutes : Int)
deriving DecidableEq, Repr

namespace DateFault

/-- A distance of a day or more, in days and the seconds above them. -/
def distance (minutes : Int) : String :=
  let days := minutes / 1440
  let seconds := minutes % 1440 * 60
  "datetime.timedelta(days=" ++ toString days
    ++ (if seconds = 0 then "" else ", seconds=" ++ toString seconds) ++ ")"

/-- The message about a date that does not exist. -/
def message : DateFault → String
  | year => "year 0 is out of range"
  | month => "month must be in 1..12"
  | day => "day is out of range for month"
  | hour => "hour must be in 0..23"
  | minute => "minute must be in 0..59"
  | second => "second must be in 0..59"
  | offset minutes =>
    "offset must be a timedelta strictly between -timedelta(hours=24) and timedelta(hours=24), not "
      ++ distance minutes

end DateFault

namespace Date

/-- The number written by a few digits at the start of a text, with their count, and the rest. -/
def digits? (least most : Nat) (cs : List Char) : Option (Nat × Nat × List Char) :=
  let ds := (cs.take most).takeWhile isDecimal
  if least ≤ ds.length then
    some (ofDigits 10 (ds.filterMap decimalValue?), ds.length, cs.drop ds.length)
  else none

/-- The rest of a text after a sign that has to be there. -/
def after? (c : Char) : List Char → Option (List Char)
  | d :: cs => if d = c then some cs else none
  | [] => none

def isBlankChar (c : Char) : Bool := c == ' ' || c == '\t'

/-- A distance from universal time at the end of a text, with blanks before it. -/
def offset? (cs : List Char) : Option (Option Int) :=
  if cs.isEmpty then some none
  else
    match cs.dropWhile isBlankChar with
    | ['Z'] => some (some 0)
    | c :: rest =>
      if c == '+' || c == '-' then do
        let (hour, _, rest) ← digits? 1 2 rest
        let minute ←
          if rest.isEmpty then pure 0
          else do
            let (minute, _, rest) ← digits? 2 2 (← after? ':' rest)
            if rest.isEmpty then pure minute else none
        let size : Int := hour * 60 + minute
        return some (if c == '-' then -size else size)
      else none
    | [] => none

/-- A fraction of a second that may come next, left out. -/
def dropFraction : List Char → List Char
  | '.' :: cs => cs.dropWhile isDecimal
  | cs => cs

/-- What separates a time of day from its date, left out. -/
def afterDay? : List Char → Option (List Char)
  | 'T' :: cs | 't' :: cs => some cs
  | c :: cs => if isBlankChar c then some (cs.dropWhile isBlankChar) else none
  | [] => none

/-- A time of day at the end of a text, after the separator. -/
def time? (cs : List Char) : Option DayTime := do
  let (hour, _, cs) ← digits? 1 2 cs
  let (minute, _, cs) ← digits? 2 2 (← after? ':' cs)
  let (second, _, cs) ← digits? 2 2 (← after? ':' cs)
  return ⟨hour, minute, second, ← offset? (dropFraction cs)⟩

/-- The date that a text denotes. -/
def read? (cs : List Char) : Option Date := do
  let (year, _, cs) ← digits? 4 4 cs
  let (month, m, cs) ← digits? 1 2 (← after? '-' cs)
  let (day, d, cs) ← digits? 1 2 (← after? '-' cs)
  let isPadded := m == 2 && d == 2
  if cs.isEmpty then return ⟨year, month, day, isPadded, none⟩
  return ⟨year, month, day, isPadded, some (← time? (← afterDay? cs))⟩

/-- Whether a date is recognised without being announced as one. -/
def isPlain (d : Date) : Bool := d.isPadded || d.time.isSome

/-- The first fault of a date; the distance from universal time is looked at first. -/
def fault? (d : Date) : Option DateFault :=
  let offset := (d.time.bind DayTime.offset).getD 0
  if 1440 ≤ offset.natAbs then some (.offset offset)
  else if d.year = 0 then some .year
  else if d.month = 0 ∨ 12 < d.month then some .month
  else if d.day = 0 ∨ Time.daysIn d.year d.month < d.day then some .day
  else
    d.time.bind fun t =>
      if 24 ≤ t.hour then some .hour
      else if 60 ≤ t.minute then some .minute
      else if 60 ≤ t.second then some .second
      else none

end Date

end SqlRegexp.Yaml
