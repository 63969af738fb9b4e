import SqlRegexp.Text.Quoted
import SqlRegexp.Text.Radix
import SqlRegexp.Unicode.Digit
import SqlRegexp.Unicode.Space

/-!
Whole numbers in text. A numeral may have blanks around it, a sign in front and single underscores
between its digits, and the digits may belong to any script. A numeral of more than 4300 digits is
neither read nor written.
-/

namespace SqlRegexp.Text

open SqlRegexp.Unicode

/-- Why a numeral could not be read or written. -/
inductive NumeralError where
  /-- The text is no numeral of a base. -/
  | malformed (base : Nat) (text : List Char)
  /-- The numeral read has too many digits. -/
  | tooLong (digits : Nat)
  /-- The number to write has too many digits. -/
  | tooLarge
deriving DecidableEq, Repr

def digitLimit : Nat := 4300

namespace NumeralError

/-- The message of a failure. A malformed numeral is shown quoted, up to 200 characters. -/
def message : NumeralError → String
  | malformed base text =>
    "invalid literal for int() with base " ++ toString base ++ ": "
      ++ String.ofList ((quoted text).take 200)
  | tooLong n =>
    "Exceeds the limit (4300 digits) for integer string conversion: value has " ++ toString n
      ++ " digits; use sys.set_int_max_str_digits() to increase the limit"
  | tooLarge =>
    "Exceeds the limit (4300 digits) for integer string conversion; "
      ++ "use sys.set_int_max_str_digits() to increase the limit"

end NumeralError

/-- The value of a character as a decimal digit of some script. -/
def digitOf? (c : Char) : Option Nat := decimalDigit? c.toNat

/-- A text without the blanks at its ends. -/
def trimBlanks (cs : List Char) : List Char :=
  let blank := fun (c : Char) => isBlank c.toNat
  ((cs.dropWhile blank).reverse.dropWhile blank).reverse

def startsWithDigit (cs : List Char) : Bool := cs.head?.any (fun c => (digitOf? c).isSome)

/-- A text without the underscores that stand between two digits. -/
def dropJoiners : (afterDigit : Bool) → List Char → List Char
  | _, [] => []
  | afterDigit, c :: cs =>
    if c = '_' && afterDigit && startsWithDigit cs then dropJoiners false cs
    else c :: dropJoiners (digitOf? c).isSome cs

/-- The magnitude written by digits that make up a whole text; `shown` is the text to complain
about. -/
def readMagnitude (shown cs : List Char) : Except NumeralError Nat :=
  let plain := dropJoiners false cs
  let digits := plain.takeWhile (fun c => (digitOf? c).isSome)
  if digitLimit < digits.length then .error (.tooLong digits.length)
  else if digits.isEmpty || digits.length != plain.length then .error (.malformed 10 shown)
  else .ok (ofDigits 10 (digits.filterMap digitOf?))

/-- The whole number that a text denotes. -/
def readInteger (cs : List Char) : Except NumeralError Int :=
  match trimBlanks cs with
  | '-' :: ds => (readMagnitude cs ds).map (fun n => -(n : Int))
  | '+' :: ds => (readMagnitude cs ds).map (fun n => (n : Int))
  | ds => (readMagnitude cs ds).map (fun n => (n : Int))

/-! ### Bases that are powers of two -/

/-- The value of a character as a digit of a base up to sixteen. -/
def digitIn? (base : Nat) (c : Char) : Option Nat :=
  (digitOf? c <|> hexValue? c).bind fun d => if d < base then some d else none

/-- The letter that may mark the base after a zero. -/
def baseMark (base : Nat) : Char := if base = 2 then 'b' else if base = 8 then 'o' else 'x'

/-- Digits without the mark of their base. -/
def dropMark (base : Nat) : List Char → List Char
  | '0' :: c :: ds => if c.toLower = baseMark base then ds else '0' :: c :: ds
  | ds => ds

/-- The whole number that a text without underscores denotes in the base two, eight or sixteen. Such
numerals may have any length. -/
def readIntegerIn (base : Nat) (cs : List Char) : Except NumeralError Int :=
  let read := fun (ds : List Char) =>
    let ds := dropMark base ds
    let digits := ds.filterMap (digitIn? base)
    if ds.isEmpty || digits.length != ds.length then .error (.malformed base cs)
    else .ok (ofDigits base digits : Int)
  match trimBlanks cs with
  | '-' :: ds => (read ds).map (- ·)
  | '+' :: ds => read ds
  | ds => read ds

/-! ### Natural numbers -/

/-- The natural number that a text denotes. -/
def readNatural (cs : List Char) : Except NumeralError Nat := (readInteger cs).map Int.toNat

/-- The decimal digits of a number. -/
def writeNatural (n : Nat) : Except NumeralError (List Char) :=
  let ds := Nat.toDigits 10 n
  if digitLimit < ds.length then .error .tooLarge else .ok ds

/-- Whether a text consists of digit characters, and is not empty. -/
def isAllDigits (cs : List Char) : Bool :=
  !cs.isEmpty && cs.all (fun c => isDigitChar c.toNat)

end SqlRegexp.Text
