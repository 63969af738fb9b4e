import SqlRegexp.Unicode.Category

/-!
Which characters a quoted text shows as they are.
-/

namespace SqlRegexp.Unicode

/-- Printable: neither a control, a format character nor a separator, apart from the space, and
assigned to a character at all. -/
def isPrintable (n : Nat) : Bool :=
  if n < 0x80 then decide (0x20 ≤ n ∧ n < 0x7F)
  else !((category n).isMajor 'C' || (category n).isMajor 'Z')

end SqlRegexp.Unicode
