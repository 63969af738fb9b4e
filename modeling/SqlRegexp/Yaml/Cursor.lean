/-!
A place in the text of a YAML document, with its line and column, and the steps by which the text is
read. Line feeds, next-line characters and the two Unicode separators end a line.
-/

namespace SqlRegexp.Yaml

/-- Why a text is not read. -/
inductive Flaw where
  /-- It breaks the rules of the format. -/
  | malformed
  /-- An escape denotes a number beyond the last character. -/
  | noCharacter (code : Nat)
deriving DecidableEq, Repr

/-- Whether a character ends a line. -/
def isBreak (c : Char) : Bool :=
  c == '\n' || c == Char.ofNat 0x85 || c == Char.ofNat 0x2028 || c == Char.ofNat 0x2029

/-- Whether a character is a blank within a line. -/
def isGap (c : Char) : Bool := c == ' ' || c == '\t'

/-- Whether a character may stand in the names of anchors, handles and directives. -/
def isNameChar (c : Char) : Bool := c.isAlphanum || c == '-' || c == '_'

/-- The mark that may stand at the start of a text and takes no column. -/
def byteOrderMark : Char := Char.ofNat 0xFEFF

/-- A place in a text. -/
structure Cursor where
  rest : List Char
  index : Nat := 0
  line : Nat := 0
  column : Nat := 0

namespace Cursor

/-- The place after the next character. -/
def next (k : Cursor) : Cursor :=
  match k.rest with
  | [] => k
  | c :: rest =>
    if isBreak c then ⟨rest, k.index + 1, k.line + 1, 0⟩
    else ⟨rest, k.index + 1, k.line, if c = byteOrderMark then k.column else k.column + 1⟩

/-- The place some characters further. -/
def advance : (count : Nat) → Cursor → Cursor
  | 0, k => k
  | count + 1, k => advance count k.next

end Cursor

abbrev Reading := StateT Cursor (Except Flaw)

namespace Reading

/-- The character that is some places ahead. -/
def ahead (count : Nat) : Reading (Option Char) := return (← get).rest[count]?

def peek : Reading (Option Char) := ahead 0

/-- Whether the character some places ahead has a property, which the end of the text has not. -/
def isAhead (count : Nat) (p : Char → Bool) : Reading Bool := return (← ahead count).any p

/-- Passes characters. -/
def skip (count : Nat) : Reading Unit := modify (Cursor.advance count)

/-- Passes and gives the characters up to the first that has not a property. -/
def takeWhile (p : Char → Bool) : Reading (List Char) := do
  let cs := (← get).rest.takeWhile p
  skip cs.length
  return cs

/-- Passes the characters up to the first that has not a property. -/
def skipWhile (p : Char → Bool) : Reading Unit := do
  let _ ← takeWhile p

def refuse {α : Type} : Reading α := throw .malformed

def demand (b : Bool) : Reading Unit := if b then pure () else refuse

/-- Passes a line end, if there is one, and gives what it stands for: the separators of Unicode for
themselves and all else for a line feed. -/
def lineBreak : Reading (List Char) := do
  match (← peek) with
  | some c =>
    if isBreak c then
      skip 1
      return [if c == Char.ofNat 0x85 then '\n' else c]
    else return []
  | none => return []

/-- Whether the character some places ahead ends a word: a blank, a line end or the end of the
text. -/
def wordEnds (count : Nat) : Reading Bool := do
  return (← ahead count).all fun c => isGap c || isBreak c

/-- Whether the character some places ahead is a space, a line end or the end of the text. -/
def spaceEnds (count : Nat) : Reading Bool := do
  return (← ahead count).all fun c => c == ' ' || isBreak c

def lineEnds : Reading Bool := return (← peek).all isBreak

/-- Whether three given marks and the end of a word come next. -/
def isFence (mark : Char) : Reading Bool := do
  return (← get).rest.take 3 == [mark, mark, mark] && (← wordEnds 3)

/-- Whether a mark between documents comes next. -/
def isDocumentFence : Reading Bool := return (← isFence '-') || (← isFence '.')

def skipComment : Reading Unit := do
  if (← isAhead 0 (· == '#')) then skipWhile fun c => !isBreak c

/-- Passes the rest of a line on which only blanks and a comment may come. -/
def restOfLine : Reading Unit := do
  skipWhile (· == ' ')
  skipComment
  demand (← lineEnds)
  let _ ← lineBreak

end Reading

end SqlRegexp.Yaml
