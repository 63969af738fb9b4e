import SqlRegexp.Unicode.Letter

/-!
Identifiers: a letter or `_`, then letters, digits, marks and connectors. Like the standard's
identifiers that survive normalisation, a few letters are left out because their compatibility
forms are not identifiers.
-/

namespace SqlRegexp.Unicode

/-- Letters that no identifier starts with. -/
def notIdentifierStart : Array Range := readRanges
  "37A E33 EB3 2E2F FC5E-FC63 FDFA-FDFB FE70 FE72 FE74 FE76 FE78 FE7A FE7C FE7E FF9E-FF9F"

/-- Letters that stand nowhere in an identifier. -/
def notIdentifierPart : Array Range := readRanges
  "37A 2E2F FC5E-FC63 FDFA-FDFB FE70 FE72 FE74 FE76 FE78 FE7A FE7C FE7E"

/-- Whether a code point is a letter or a letter number. -/
def isLetterLike (n : Nat) : Bool :=
  (category n).isMajor 'L' || category n == .letterNumber

/-- Whether an identifier may start with a code point. -/
def isIdentifierStart (n : Nat) : Bool :=
  if n < 0x80 then isAlphabetic n || n == 0x5F
  else (isLetterLike n && !inRanges notIdentifierStart n) || n == 0x1885 || n == 0x1886
    || n == 0x2118 || n == 0x212E

/-- Whether a code point may stand in an identifier after its start. -/
def isIdentifierPart (n : Nat) : Bool :=
  if n < 0x80 then isWordChar n
  else ((isLetterLike n || category n == .nonspacingMark || category n == .spacingMark
      || category n == .decimalNumber || category n == .connectorPunctuation)
      && !inRanges notIdentifierPart n)
    || n == 0xB7 || n == 0x387 || decide (0x1369 ≤ n ∧ n ≤ 0x1371) || n == 0x19DA || n == 0x2118
    || n == 0x212E

def isIdentifier : List Char → Bool
  | [] => false
  | c :: cs => isIdentifierStart c.toNat && cs.all (fun d => isIdentifierPart d.toNat)

end SqlRegexp.Unicode
