/-!
The values of the Western digits in the bases that patterns and tables are written in.
-/

namespace SqlRegexp.Text

/-- The value of a decimal digit `0` to `9`. -/
def decimalValue? (c : Char) : Option Nat :=
  if '0' ≤ c ∧ c ≤ '9' then some (c.toNat - '0'.toNat) else none

/-- The value of an octal digit `0` to `7`. -/
def octalValue? (c : Char) : Option Nat :=
  if '0' ≤ c ∧ c ≤ '7' then some (c.toNat - '0'.toNat) else none

/-- The value of a hexadecimal digit of either case. -/
def hexValue? (c : Char) : Option Nat :=
  if '0' ≤ c ∧ c ≤ '9' then some (c.toNat - '0'.toNat)
  else if 'a' ≤ c ∧ c ≤ 'f' then some (c.toNat - 'a'.toNat + 10)
  else if 'A' ≤ c ∧ c ≤ 'F' then some (c.toNat - 'A'.toNat + 10)
  else none

/-- Whether a character is one of the ten Western digits. -/
def isDecimal (c : Char) : Bool := (decimalValue? c).isSome

/-- Whether a character is one of the eight octal digits. -/
def isOctal (c : Char) : Bool := (octalValue? c).isSome

/-- Whether a character is a Latin letter without marks. -/
def isLatinLetter (c : Char) : Bool := ('a' ≤ c ∧ c ≤ 'z') || ('A' ≤ c ∧ c ≤ 'Z')

/-- The number that a list of digit values denotes, most significant digit first. -/
def ofDigits (base : Nat) (ds : List Nat) : Nat := ds.foldl (fun n d => n * base + d) 0

end SqlRegexp.Text
