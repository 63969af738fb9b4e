import SqlRegexp.Yaml.Block
import SqlRegexp.Yaml.Plain
import SqlRegexp.Yaml.Properties

/-!
The tokens of a YAML text. Block collections are marked by tokens at their start and end, which come
from the indentation. That a word is a key shows only at the colon after it, so the places where a
key may have started are remembered, one for each level of brackets; a key ends within its line and
within 1024 characters.
-/

namespace SqlRegexp.Yaml

inductive Token where
  | directive (d : Directive)
  | documentStart
  | documentEnd
  | blockSequence
  | blockMapping
  | blockEnd
  | flowSequence
  | flowSequenceEnd
  | flowMapping
  | flowMappingEnd
  /-- The hyphen before an entry of a block sequence. -/
  | entry
  /-- The comma between entries within brackets. -/
  | comma
  | key
  | value
  | alias (name : List Char)
  | anchor (name : List Char)
  | tag (t : TagText)
  | scalar (isPlain : Bool) (text : List Char)
deriving DecidableEq, Repr

/-- A place where a key may have started. -/
structure KeyPlace where
  /-- How many tokens come before it. -/
  before : Nat
  /-- Whether only a key may stand there. -/
  isRequired : Bool
  index : Nat
  line : Nat
  column : Nat

/-- A reader of tokens in the midst of its work. -/
structure Lexer where
  cursor : Cursor
  tokens : Array Token := #[]
  /-- How many brackets are open. -/
  level : Nat := 0
  /-- The column of the innermost block collection; -1 outside of all. -/
  indent : Int := -1
  /-- The columns of the block collections around it. -/
  outer : List Int := []
  /-- Whether a key may start here. -/
  keyAllowed : Bool := true
  /-- The places where keys may have started, by level. -/
  places : List (Nat × KeyPlace) := []

namespace Lexer

abbrev Step := StateT Lexer (Except Flaw)

def reading {α : Type} (r : Reading α) : Step α := do
  let s ← get
  let (a, k) ← r.run s.cursor
  set { s with cursor := k }
  return a

def demand (b : Bool) : Step Unit := if b then pure () else throw .malformed

def emit (t : Token) : Step Unit := modify fun s => { s with tokens := s.tokens.push t }

/-- Says whether a key may start after this. -/
def allowKey (b : Bool) : Step Unit := modify fun s => { s with keyAllowed := b }

/-! ### Places of keys -/

/-- The longest key, in characters. -/
def keyLimit : Nat := 1024

/-- Whether a key that started at a place can still end here. -/
def isFresh (k : Cursor) (p : KeyPlace) : Bool :=
  p.line == k.line && k.index - p.index ≤ keyLimit

/-- Forgets the places whose keys cannot end any more; none of them may be required. -/
def dropStale : Step Unit := do
  let s ← get
  let stale := s.places.filter fun p => !isFresh s.cursor p.2
  demand (stale.all fun p => !p.2.isRequired)
  set { s with places := s.places.filter fun p => isFresh s.cursor p.2 }

/-- Forgets the place on this level, which must not be required. -/
def dropPlace : Step Unit := do
  let s ← get
  demand ((s.places.lookup s.level).all fun p => !p.isRequired)
  set { s with places := s.places.filter fun p => p.1 != s.level }

/-- Remembers that a key may start here, if it may. -/
def savePlace : Step Unit := do
  let s ← get
  if s.keyAllowed then
    dropPlace
    let k := s.cursor
    let isRequired := s.level == 0 && s.indent == k.column
    let place : KeyPlace := ⟨s.tokens.size, isRequired, k.index, k.line, k.column⟩
    modify fun s => { s with places := (s.level, place) :: s.places }

/-! ### Indentation -/

/-- Ends block collections that are indented further than a column. -/
def unwindTo (column : Int) : (outer : List Int) → (indent : Int) → Nat × Int × List Int
  | [], indent => (0, indent, [])
  | i :: outer, indent =>
    if column < indent then
      let (n, r) := unwindTo column outer i
      (n + 1, r)
    else (0, indent, i :: outer)

/-- Ends the block collections that a token at a column does not belong to. Within brackets
indentation says nothing. -/
def unwind (column : Int) : Step Unit := modify fun s =>
  if s.level ≠ 0 then s
  else
    let (n, indent, outer) := unwindTo column s.outer s.indent
    { s with tokens := s.tokens ++ Array.replicate n Token.blockEnd, indent, outer }

/-- Starts a block collection at a column, if it is indented further than the one around it; the
token is put after the first `before` tokens. -/
def indentTo (column : Int) (before : Nat) (t : Token) : Step Unit := modify fun s =>
  if s.level = 0 ∧ s.indent < column then
    { s with
      tokens := s.tokens.insertIdxIfInBounds before t
      indent := column, outer := s.indent :: s.outer }
  else s

/-! ### Tokens -/

/-- Passes what says nothing, up to the next token. After a line end a key may start, outside of
brackets. -/
def skipToToken : (limit : Nat) → Step Unit
  | 0 => throw .malformed
  | limit + 1 => do
    reading do
      if (← get).index = 0 && (← Reading.isAhead 0 (· == byteOrderMark)) then Reading.skip 1
      Reading.skipWhile (· == ' ')
      Reading.skipComment
    match (← reading Reading.lineBreak) with
    | [] => return
    | _ => do
      modify fun s => { s with keyAllowed := s.keyAllowed || s.level == 0 }
      skipToToken limit

/-- Ends all block collections, before a mark of a document or the end. -/
def endBlocks : Step Unit := do
  unwind (-1)
  dropPlace
  allowKey false

/-- An opening bracket, which may start a key. -/
def openBracket (t : Token) : Step Unit := do
  savePlace
  modify fun s => { s with level := s.level + 1, keyAllowed := true }
  reading (Reading.skip 1)
  emit t

def closeBracket (t : Token) : Step Unit := do
  dropPlace
  modify fun s => { s with level := s.level - 1, keyAllowed := false }
  reading (Reading.skip 1)
  emit t

def comma : Step Unit := do
  allowKey true
  dropPlace
  reading (Reading.skip 1)
  emit .comma

/-- A sign that starts an entry of a block collection, of a sequence or a mapping. -/
def blockSign (collection sign : Token) (keyAfter : Bool) : Step Unit := do
  let s ← get
  demand (s.level ≠ 0 || s.keyAllowed)
  indentTo s.cursor.column s.tokens.size collection
  allowKey keyAfter
  dropPlace
  reading (Reading.skip 1)
  emit sign

/-- A hyphen before an entry. -/
def entrySign : Step Unit := blockSign .blockSequence .entry true

/-- A question mark before a key. -/
def keySign : Step Unit := do blockSign .blockMapping .key ((← get).level == 0)

/-- A colon before a value. If a key may have started on this level, then it did. -/
def valueSign : Step Unit := do
  let s ← get
  match s.places.lookup s.level with
  | some p =>
    set { s with
      places := s.places.filter fun q => q.1 != s.level
      tokens := s.tokens.insertIdxIfInBounds p.before .key }
    indentTo p.column p.before .blockMapping
    allowKey false
    reading (Reading.skip 1)
    emit .value
  | none => blockSign .blockMapping .value (s.level == 0)

/-- A token that may start a key and after which none may start. -/
def word (r : Reading Token) : Step Unit := do
  savePlace
  allowKey false
  emit (← reading r)

/-- A plain scalar; after it a key may start if a line has ended. -/
def plain : Step Unit := do
  savePlace
  let s ← get
  let (text, lineEnded) ← reading (Reading.plainScalar (s.level != 0) s.indent)
  allowKey lineEnded
  emit (.scalar true text)

def block (isFolded : Bool) : Step Unit := do
  allowKey true
  dropPlace
  emit (.scalar false (← reading (Reading.blockScalar isFolded (← get).indent)))

/-- A mark of a document. -/
def fence (t : Token) : Step Unit := do
  endBlocks
  reading (Reading.skip 3)
  emit t

/-- The signs that no plain scalar starts with. -/
def reservedSigns : List Char := "-?:,[]\x7b\x7d#&*!|>'\"%@".toList ++ [Char.ofNat 0x60]

/-- Whether a plain scalar starts at a character. -/
def startsPlain (c : Char) (wordEnds inFlow : Bool) : Bool :=
  !(isGap c || isBreak c || reservedSigns.contains c)
    || (!wordEnds && (c == '-' || (!inFlow && (c == '?' || c == ':'))))

def tokenAt (c : Char) : Step Unit := do
  let s ← get
  let inFlow := s.level != 0
  let atMargin := s.cursor.column == 0
  let wordEnds ← reading (Reading.wordEnds 1)
  if c == '%' && atMargin then
    endBlocks
    emit (.directive (← reading Reading.directive))
  else if atMargin && (← reading (Reading.isFence '-')) then fence .documentStart
  else if atMargin && (← reading (Reading.isFence '.')) then fence .documentEnd
  else if c == '[' then openBracket .flowSequence
  else if c == '\x7b' then openBracket .flowMapping
  else if c == ']' then closeBracket .flowSequenceEnd
  else if c == '\x7d' then closeBracket .flowMappingEnd
  else if c == ',' then comma
  else if c == '-' && wordEnds then entrySign
  else if c == '?' && (inFlow || wordEnds) then keySign
  else if c == ':' && (inFlow || wordEnds) then valueSign
  else if c == '*' then word (Token.alias <$> Reading.anchorName)
  else if c == '&' then word (Token.anchor <$> Reading.anchorName)
  else if c == '!' then word (Token.tag <$> Reading.tag)
  else if c == '|' && !inFlow then block false
  else if c == '>' && !inFlow then block true
  else if c == '\'' || c == '"' then word (Token.scalar false <$> Reading.quotedScalar c)
  else if startsPlain c wordEnds inFlow then plain
  else throw .malformed

/-- Reads on to the end of the text. -/
def run : (limit : Nat) → Step Unit
  | 0 => throw .malformed
  | limit + 1 => do
    skipToToken (limit + 1)
    dropStale
    unwind (← get).cursor.column
    match (← get).cursor.rest with
    | [] => endBlocks
    | c :: _ => do
      tokenAt c
      run limit

end Lexer

def tokens (cs : List Char) : Except Flaw (List Token) := do
  let (_, s) ← (Lexer.run (cs.length + 1)).run { cursor := { rest := cs } }
  return s.tokens.toList

end SqlRegexp.Yaml
