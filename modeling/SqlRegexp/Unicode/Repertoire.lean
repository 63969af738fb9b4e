/-!
The repertoires that classes of characters and letters of either case range over.
-/

namespace SqlRegexp.Unicode

/-- The characters that classes and cases range over. -/
inductive Repertoire where
  /-- The Western characters, those below 128. -/
  | western
  /-- The characters of all scripts. -/
  | worldwide
deriving DecidableEq, Repr

namespace Repertoire

/-- Whether a code point belongs to a repertoire. -/
def contains : Repertoire → Nat → Bool
  | western, n => decide (n < 0x80)
  | worldwide, _ => true

end Repertoire

end SqlRegexp.Unicode
