/-!
The shortest decimal that reads back as a given double. A finite double is `m * 2 ^ q`; the reals
that round to it form an interval around it, to which the ends belong when `m` is even. Of the
decimals in that interval those with the fewest digits are taken, and of these the nearest.
-/

namespace SqlRegexp.Text

/-- A positive real as a fraction, with the distances from it, in the same unit, to the ends of the
interval of reals that round to it. -/
structure Rounding where
  num : Nat
  below : Nat
  above : Nat
  den : Nat
  /-- Whether the ends round to it as well. -/
  closedEnds : Bool

/-- A decimal: its digits as a number, and the power of ten of the last digit. -/
structure Decimal where
  digits : Nat
  exponent : Int
deriving DecidableEq, Repr

namespace Rounding

/-- The bits of a double hold its fraction below this unit, two to the 52nd, and its power above. -/
def fractionUnit : Nat := 0x10000000000000

/-- The interval of a positive finite double, given its bits without the sign. -/
def ofBits (bits : Nat) : Rounding :=
  let fraction := bits % fractionUnit
  let power := bits / fractionUnit
  let m := if power = 0 then fraction else fraction + fractionUnit
  let e := if power = 0 then 1 else power
  -- a quarter of the gap below a power of two is a half of the smaller gap there
  let narrow := fraction = 0 ∧ 1 < power
  let up := Nat.pow 2 (e - 1075)
  let down := Nat.pow 2 (1075 - e)
  ⟨4 * m * up, (if narrow then 1 else 2) * up, 2 * up, 4 * down, m % 2 == 0⟩

/-- Whether `k / 10 ^ j`, or `k * 10 ^ j`, lies in the interval, given both scales. -/
def contains (r : Rounding) (k scaleUp scaleDown : Nat) : Bool :=
  let point := k * scaleUp * r.den
  let low := (r.num - r.below) * scaleDown
  let high := (r.num + r.above) * scaleDown
  if r.closedEnds then decide (low ≤ point ∧ point ≤ high) else decide (low < point ∧ point < high)

/-- The power of ten of the leading digit: the last of the powers from `e` on down that is not above
the real. -/
def leadingPower (r : Rounding) : (limit : Nat) → (e : Int) → Int
  | 0, e => e
  | limit + 1, e =>
    if Nat.pow 10 e.toNat * r.den ≤ r.num * Nat.pow 10 (-e).toNat then e
    else leadingPower r limit (e - 1)

/-- The decimal nearest to the real on the grid of a power of ten, if one of the two neighbours on
that grid lies in the interval. -/
def onGrid? (r : Rounding) (e : Int) : Option Decimal :=
  let up := Nat.pow 10 e.toNat
  let down := Nat.pow 10 (-e).toNat
  let unit := up * r.den
  let scaled := r.num * down
  let k := scaled / unit
  let part := scaled % unit
  let lower := r.contains k up down
  let upper := r.contains (k + 1) up down
  -- of two that are as near the even one
  if lower ∧ (¬ upper ∨ 2 * part < unit ∨ (2 * part = unit ∧ k % 2 = 0)) then some ⟨k, e⟩
  else if upper then some ⟨k + 1, e⟩
  else none

/-- The first decimal found on the grids from a power of ten on down. -/
def firstDecimal (r : Rounding) : (limit : Nat) → (e : Int) → Decimal
  | 0, e => ⟨r.num * Nat.pow 10 (-e).toNat / (Nat.pow 10 e.toNat * r.den), e⟩
  | limit + 1, e => (r.onGrid? e).getD (firstDecimal r limit (e - 1))

end Rounding

/-- The shortest decimal of a positive finite double, given its bits without the sign. -/
def shortestDecimal (bits : Nat) : Decimal :=
  let r := Rounding.ofBits bits
  r.firstDecimal 17 (r.leadingPower 700 309)

end SqlRegexp.Text
