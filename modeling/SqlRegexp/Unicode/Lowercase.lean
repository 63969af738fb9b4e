import SqlRegexp.Unicode.CaseFolding
import SqlRegexp.Unicode.Letter

/-!
Small letters. A letter that is not small already becomes what it folds to, but for the capitals
that small letters fold to, and for the dotted capital, which becomes two characters. The small
sigma is the same at the end of a word as within it.
-/

namespace SqlRegexp.Unicode

/-- The code points of a code point in small letters. -/
def lowercase (n : Nat) : List Nat :=
  if n = 0x130 then [0x69, 0x307]
  else if 0x13A0 ≤ n ∧ n ≤ 0x13EF then [n + 0x97D0]
  else if 0x13F0 ≤ n ∧ n ≤ 0x13F5 then [n + 8]
  else if isLowercase n then [n]
  else [simpleFold n]

/-- A text in small letters. -/
def lowered (cs : List Char) : List Char :=
  cs.flatMap fun c => (lowercase c.toNat).map Char.ofNat

end SqlRegexp.Unicode
