import SqlRegexp.Text.Pieces
import SqlRegexp.Text.Radix

/-!
Sets of code points as sorted lists of ranges, and their written form in the tables of this
library: hexadecimal bounds, `41-5A`, or a single point, `AA`, separated by blanks and line
feeds.
-/

namespace SqlRegexp.Unicode

open SqlRegexp.Text

/-- The code points from `low` to `high`, both included. -/
structure Range where
  low : Nat
  high : Nat
deriving Repr, DecidableEq, Inhabited

namespace Range

/-- Whether a code point lies in the range. -/
def contains (r : Range) (n : Nat) : Bool := decide (r.low ≤ n ∧ n ≤ r.high)

end Range

/-- The number written by hexadecimal digits; other characters count nothing. -/
def readHex (cs : List Char) : Nat := ofDigits 16 (cs.filterMap hexValue?)

/-- The words of a table. -/
def words (s : String) : List (List Char) := wordsOf s.toList

/-- The range written as `41-5A` or as `AA`. -/
def readRange (cs : List Char) : Range :=
  match pieces '-' cs with
  | [low, high] => ⟨readHex low, readHex high⟩
  | _ => ⟨readHex cs, readHex cs⟩

def readRanges (s : String) : Array Range := ((words s).map readRange).toArray

/-- The last element whose key is at most `n`, in an array sorted by key: the part from `lo`
to `hi` is still open, all keys before it are at most `n` and all keys after it are above. -/
def lastAtMost {α : Type} (xs : Array α) (key : α → Nat) (n : Nat) :
    (fuel lo hi : Nat) → Option α
  | 0, lo, _ => if lo = 0 then none else xs[lo - 1]?
  | fuel + 1, lo, hi =>
    if lo < hi then
      let mid := (lo + hi) / 2
      match xs[mid]? with
      | some x =>
        if key x ≤ n then lastAtMost xs key n fuel (mid + 1) hi
        else lastAtMost xs key n fuel lo mid
      | none => none
    else if lo = 0 then none else xs[lo - 1]?

/-- The element of a sorted array that governs `n`: the last whose key is at most `n`. -/
def governing? {α : Type} (xs : Array α) (key : α → Nat) (n : Nat) : Option α :=
  lastAtMost xs key n (xs.size + 1) 0 xs.size

/-- Whether a code point lies in one of the sorted ranges. -/
def inRanges (rs : Array Range) (n : Nat) : Bool :=
  match governing? rs Range.low n with
  | some r => r.contains n
  | none => false

end SqlRegexp.Unicode
