import SqlRegexp.Text.Utf8
import SqlRegexp.Yaml.Content

/-!
Reading YAML, as far as others rely on it: bytes give the value of the document in them, or fail in
one of three ways. Whatever reads documents may be used, with failures of its own. The reference
reader takes the bytes as UTF-8 as a whole, checks all characters and only then looks for a document,
which may be nested as deep as it likes.
-/

namespace SqlRegexp.Yaml

open SqlRegexp.Text

/-- Why bytes are unusable, by a rule that has words for it. -/
inductive ReadFault where
  | encoding (e : Utf8Error)
  /-- An escape denotes a number beyond the last character. -/
  | noCharacter
  | numeral (e : NumeralError)
  | notReal (text : List Char)
  | date (f : DateFault)
  | other (message : String)
deriving DecidableEq, Repr

namespace ReadFault

def message : ReadFault → String
  | encoding e => e.message
  | noCharacter => "chr() arg not in range(0x110000)"
  | numeral e => e.message
  | notReal cs => "could not convert string to float: " ++ quotedString cs
  | date f => f.message
  | other m => m

end ReadFault

/-- Faults of a document that no rule foresees. -/
inductive Stray where
  /-- The text of a number is empty. -/
  | emptyNumber
  /-- A word is no truth value. -/
  | unknownTruth (word : List Char)
  /-- A text has not the form of a date. -/
  | notADate
  /-- The weight of a part of a number in sixtieths is out of range. -/
  | weightTooLarge
  /-- An escape denotes a number that is out of all range. -/
  | codeTooLarge
  /-- The document is nested too deep, or without an end. -/
  | tooDeep
  | other (kind message : String)
deriving DecidableEq, Repr

namespace Stray

def message : Stray → String
  | emptyNumber => "string index out of range"
  | unknownTruth word => quotedString word
  | notADate => "'NoneType' object has no attribute 'groupdict'"
  | weightTooLarge => "int too large to convert to float"
  | codeTooLarge => "Python int too large to convert to C int"
  | tooDeep => "maximum recursion depth exceeded"
  | other _ m => m

/-- The word for the kind of a fault, as reports show it. -/
def kindName : Stray → String
  | emptyNumber => "IndexError"
  | unknownTruth _ => "KeyError"
  | notADate => "AttributeError"
  | weightTooLarge | codeTooLarge => "OverflowError"
  | tooDeep => "RecursionError"
  | other kind _ => kind

end Stray

inductive ReadError where
  /-- The text is no YAML, or holds a node of an unknown kind. -/
  | malformed
  | unusable (f : ReadFault)
  | stray (f : Stray)
deriving DecidableEq, Repr

namespace ReadError

/-- The failure that a flaw of a text is. -/
def ofFlaw : Flaw → ReadError
  | .malformed => malformed
  | .noCharacter code => if code < 0x80000000 then unusable .noCharacter else stray .codeTooLarge

/-- The failure that a node without a value is. -/
def ofContent : ContentError → ReadError
  | .malformed => malformed
  | .numeral e => unusable (.numeral e)
  | .notReal cs => unusable (.notReal cs)
  | .date f => unusable (.date f)
  | .emptyNumber => stray .emptyNumber
  | .unknownTruth word => stray (.unknownTruth word)
  | .notADate => stray .notADate
  | .weightTooLarge => stray .weightTooLarge
  | .endless => stray .tooDeep

end ReadError

class Reader where
  /-- The value of the document in bytes, null if there is none. What lies in it deeper than its
  entries' entries need not be told. -/
  read : List UInt8 → Except ReadError Value

/-! ### The reference -/

/-- How deep a document is unfolded: down to the values in a mapping within a mapping. -/
def depth : Nat := 2

/-- Carriage returns before line feeds are dropped and others count as line feeds. -/
def settleLineEnds : List Char → List Char
  | '\r' :: '\n' :: cs => '\n' :: settleLineEnds cs
  | '\r' :: cs => '\n' :: settleLineEnds cs
  | c :: cs => c :: settleLineEnds cs
  | [] => []

/-- Whether a character may stand in a YAML text. -/
def isTextChar (c : Char) : Bool :=
  let n := c.toNat
  n == 9 || n == 10 || n == 13 || (0x20 ≤ n && n ≤ 0x7E) || n == 0x85
    || (0xA0 ≤ n && n ≠ 0xFFFE && n ≠ 0xFFFF)

/-- The value of a document; null if there is none. -/
def valueOf? : Option Document → Except ReadError Value
  | none => .ok .null
  | some d => (d.value depth).mapError .ofContent

def valueOfText (cs : List Char) : Except ReadError Value := do
  if !cs.all isTextChar then throw .malformed
  valueOf? (← (Document.ofText? cs).mapError .ofFlaw)

def valueOfBytes (bs : List UInt8) : Except ReadError Value := do
  let cs ← (Utf8.decode bs).mapError fun e => .unusable (.encoding e)
  valueOfText (settleLineEnds cs)

@[reducible] def Reader.reference : Reader := ⟨valueOfBytes⟩

end SqlRegexp.Yaml
