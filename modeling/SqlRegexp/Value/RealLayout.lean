import SqlRegexp.Text.Padded
import SqlRegexp.Text.ShortestDecimal
import SqlRegexp.Value.Shown

/-!
Real numbers with a given number of digits. A double is rounded to the nearest decimal with so many
digits, of two that are as near to the one whose last digit is even; it is written out, or with an
exponent, or whichever of the two suits its size.
-/

namespace SqlRegexp

open SqlRegexp.Text

/-- The whole number nearest to a fraction. -/
def nearestWhole (num den : Nat) : Nat :=
  let whole := num / den
  let part := num % den
  if den < 2 * part ∨ (2 * part = den ∧ whole % 2 = 1) then whole + 1 else whole

namespace Text.Rounding

/-- How many units of a power of ten a real is, nearly. -/
def unitsOf (r : Rounding) (power : Int) : Nat :=
  nearestWhole (r.num * Nat.pow 10 (-power).toNat) (r.den * Nat.pow 10 power.toNat)

/-- The digits of a real, `places` of them after the leading one, and the power of ten of that. -/
def leading (r : Rounding) (places : Nat) : Nat × Int :=
  if r.num = 0 then (0, 0)
  else
    let power := r.leadingPower 700 309
    let n := r.unitsOf (power - places)
    if n = Nat.pow 10 (places + 1) then (Nat.pow 10 places, power + 1) else (n, power)

end Text.Rounding

/-- How a real number is laid out: the number of digits, and whether a point and zeros stay that say
nothing. -/
structure RealLayout where
  digits : Nat
  keep : Bool

namespace RealLayout

/-- The digits of a number with a point before the last of them. -/
def withPoint (keep : Bool) (places n : Nat) : List Char :=
  let ds := padLeft '0' (places + 1) (Nat.toDigits 10 n)
  let whole := ds.length - places
  ds.take whole ++ if places = 0 && !keep then [] else '.' :: ds.drop whole

/-- A text without the zeros at the end of its fraction, and without a point in last place. -/
def trimmed (cs : List Char) : List Char :=
  if cs.contains '.' then
    let kept := cs.reverse.dropWhile (· == '0')
    (if kept.head? == some '.' then kept.drop 1 else kept).reverse
  else cs

/-- Written out, with so many digits after the point. -/
def writeOut (l : RealLayout) (r : Rounding) : List Char :=
  withPoint l.keep l.digits (r.unitsOf (-l.digits))

/-- With an exponent, and so many digits after the point. -/
def writePower (l : RealLayout) (r : Rounding) : List Char :=
  let (n, power) := r.leading l.digits
  withPoint l.keep l.digits n ++ 'e' :: RealFormat.exponent power

/-- With so many digits in all, written out if the exponent is small. -/
def writeShort (l : RealLayout) (r : Rounding) : List Char :=
  let places := l.digits - 1
  let (n, power) := r.leading places
  let clean := fun cs => if l.keep then cs else trimmed cs
  if -4 ≤ power ∧ power < max l.digits 1 then clean (withPoint l.keep (places - power).toNat n)
  else clean (withPoint l.keep places n) ++ 'e' :: RealFormat.exponent power

/-- The size of a double in a layout; infinity and what is no number are words. -/
def write (layout : Rounding → List Char) (x : Float) : List Char :=
  let size := x.toBits.toNat % 0x8000000000000000
  if 0x7FF0000000000000 < size then "nan".toList
  else if size = 0x7FF0000000000000 then "inf".toList
  else layout (.ofBits size)

end RealLayout

end SqlRegexp
