import SqlRegexp.Text.Radix
import SqlRegexp.Unicode.Space

/-!
Real numbers in text: a sign, digits with a point and an exponent, or the words for infinity and for
what is no number.
-/

namespace SqlRegexp.Text

open SqlRegexp.Unicode

def infinity : Float := 1.0 / 0.0

/-- The double that is no number. -/
def notANumber : Float := 0.0 / 0.0

/-- The double nearest to `mantissa * 10 ^ exponent`. Powers of ten far outside the range of doubles
are not computed. -/
def nearestDouble (mantissa : Nat) (exponent : Int) : Float :=
  let lead : Int := (Nat.toDigits 10 mantissa).length + exponent
  if mantissa = 0 ∨ lead < -400 then 0.0
  else if 400 < lead then infinity
  else if 0 ≤ exponent then Float.ofScientific mantissa false exponent.toNat
  else Float.ofScientific mantissa true (-exponent).toNat

/-- A sign at the start of a text, and what follows it; whether the sign is a minus. -/
def splitSign : List Char → Bool × List Char
  | '-' :: cs => (true, cs)
  | '+' :: cs => (false, cs)
  | cs => (false, cs)

/-- The number written by Western digits, if there is at least one and nothing else. -/
def plainDigits? (cs : List Char) : Option Nat :=
  if !cs.isEmpty && cs.all isDecimal then some (ofDigits 10 (cs.filterMap decimalValue?)) else none

/-- An exponent, signed or not, after its letter. -/
def readExponent? : List Char → Option Int
  | [] => some 0
  | c :: cs =>
    if c == 'e' || c == 'E' then
      let signed := splitSign cs
      (plainDigits? signed.2).map fun n => if signed.1 then -(n : Int) else n
    else none

/-- A number without a sign: digits, perhaps a point among them or at either end, and perhaps an
exponent. -/
def readMagnitude? (cs : List Char) : Option Float :=
  let whole := cs.takeWhile isDecimal
  let rest := cs.drop whole.length
  let fraction := match rest with
    | '.' :: ds => ds.takeWhile isDecimal
    | _ => []
  let rest := match rest with
    | '.' :: ds => ds.drop fraction.length
    | ds => ds
  match plainDigits? (whole ++ fraction), readExponent? rest with
  | some m, some e => some (nearestDouble m (e - fraction.length))
  | _, _ => none

/-- The real number that a text denotes; words are read in either case. -/
def readReal? (cs : List Char) : Option Float :=
  let signed := splitSign cs
  let word := signed.2.map Char.toLower
  let size :=
    if word == "inf".toList || word == "infinity".toList then some infinity
    else if word == "nan".toList then some notANumber
    else readMagnitude? signed.2
  size.map fun x => if signed.1 then -x else x

end SqlRegexp.Text
