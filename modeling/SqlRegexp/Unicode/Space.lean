import SqlRegexp.Unicode.Repertoire

/-!
Two sets of blank code points: white space as the standard has it, and the wider set that also
counts the four information separators.
-/

namespace SqlRegexp.Unicode

/-- White space: the 25 code points of the standard's property. -/
def isWhiteSpace (n : Nat) : Bool :=
  decide (0x09 ≤ n ∧ n ≤ 0x0D) || n == 0x20 || n == 0x85 || n == 0xA0 || n == 0x1680
    || decide (0x2000 ≤ n ∧ n ≤ 0x200A) || n == 0x2028 || n == 0x2029 || n == 0x202F
    || n == 0x205F || n == 0x3000

/-- White space or one of the information separators `\x1c` to `\x1f`. -/
def isBlank (n : Nat) : Bool := isWhiteSpace n || decide (0x1C ≤ n ∧ n ≤ 0x1F)

/-- The code points that end a line: line feed to carriage return, next line, and the line and
paragraph separators, as far as they belong to the repertoire. -/
def isLineEnd (r : Repertoire) (n : Nat) : Bool :=
  r.contains n && (decide (0x0A ≤ n ∧ n ≤ 0x0D) || n == 0x85 || n == 0x2028 || n == 0x2029)

end SqlRegexp.Unicode
