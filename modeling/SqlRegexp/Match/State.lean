import SqlRegexp.Match.Found
import SqlRegexp.Pattern.Node
import SqlRegexp.Unicode.WordBreak
import Std.Data.TreeSet.Basic

/-!
What a match is made of: the text with what the pattern needs to know about it, the state that a
match has reached, and the tests on a place of the text. Places count characters from 0.
-/

namespace SqlRegexp.Match

open SqlRegexp.Pattern SqlRegexp.Unicode

/-- What stays the same during a match. -/
structure Setting where
  /-- The text searched. -/
  text : Array Char
  /-- The place where the search began. -/
  searchStart : Nat
  /-- The groups that the pattern asks for. -/
  referenced : List Nat
  /-- The repertoire of the pattern. -/
  repertoire : Repertoire
  /-- Whether a way through depends on the place alone, so that dead ends are worth remembering. -/
  remembers : Bool

/-- A place from which a repeat cannot go on to a match: the entry into the repeat, the rounds done
there as far as they count, and the place of the text. -/
structure DeadEnd where
  entry : Nat
  count : Nat
  pos : Nat
deriving DecidableEq, Ord, Repr

/-- What a way leaves behind when it is given up. -/
structure Trail where
  /-- Where a reported match starts. -/
  start : Nat
  /-- How many repeats have been entered. -/
  entries : Nat := 0
  /-- The dead ends met. -/
  deadEnds : Std.TreeSet DeadEnd := {}

/-- How far a match has come. -/
structure State where
  /-- The place reached. -/
  pos : Nat
  /-- The extents of the groups, the first group first. -/
  groups : List (Option Span)
  /-- How often a group that the pattern asks for has got a new extent. -/
  changes : Nat
  /-- What has been left behind on the way here. -/
  trail : Trail

/-- Which way a pattern moves through the text. -/
inductive Direction where
  | forward | backward
deriving DecidableEq, Repr

namespace State

/-- The state at the start of an attempt, before any group has matched. -/
def initial (pos groupCount : Nat) : State :=
  ⟨pos, List.replicate groupCount none, 0, { start := pos }⟩

/-- The extent of a group, if it has matched. -/
def span? (s : State) (number : Nat) : Option Span :=
  if number = 0 then none else (s.groups[number - 1]?).join

/-- Keeps the text between two places as the extent of a group. There is no group 0 to keep. -/
def capture (s : State) (referenced : List Nat) (number a b : Nat) : State :=
  if number = 0 then s
  else
    let extent : Span := ⟨min a b, max a b⟩
    { s with
      groups := s.groups.set (number - 1) (some extent)
      changes :=
        if referenced.contains number && s.span? number != some extent then s.changes + 1
        else s.changes }

end State

namespace Setting

/-- The code point of the character at a place. -/
def code? (cx : Setting) (pos : Nat) : Option Nat := (cx.text[pos]?).map Char.toNat

/-- The code point of the character before a place. -/
def codeBefore? (cx : Setting) (pos : Nat) : Option Nat :=
  if pos = 0 then none else cx.code? (pos - 1)

/-- The code point that a step in a direction passes over. -/
def next? (cx : Setting) : Direction → Nat → Option Nat
  | .forward, pos => cx.code? pos
  | .backward, pos => cx.codeBefore? pos

/-- The code points of a stretch of text. -/
def codes (cx : Setting) (s : Span) : List Nat :=
  ((cx.text.toList.drop s.start).take (s.stop - s.start)).map Char.toNat

/-- Whether a code point belongs to words within a repertoire. -/
def isWord (r : Repertoire) (n : Nat) : Bool := r.contains n && isWordChar n

/-- Whether a place touches words the way an edge asks for. -/
def atWordEdge (edge : WordEdge) (before after : Bool) : Bool :=
  match edge with
  | .either => before != after
  | .start => !before && after
  | .stop => before && !after

/-- Whether a line starts at a place; a carriage return and line feed are not parted. -/
def atLineStart (cx : Setting) (allEnds : Bool) (pos : Nat) : Bool :=
  match cx.codeBefore? pos with
  | none => true
  | some n =>
    if !allEnds then n == 0x0A
    else if n = 0x0D then cx.code? pos != some 0x0A
    else isLineEnd cx.repertoire n

/-- Whether a line ends at a place; a carriage return and line feed are not parted. -/
def atLineEnd (cx : Setting) (allEnds : Bool) (pos : Nat) : Bool :=
  match cx.code? pos with
  | none => true
  | some n =>
    if !allEnds then n == 0x0A
    else if n = 0x0A then cx.codeBefore? pos != some 0x0D
    else isLineEnd cx.repertoire n

/-- The place where the line end that ends the text begins, if one does. -/
def lastLineEnd? (cx : Setting) (allEnds : Bool) : Option Nat :=
  let size := cx.text.size
  match cx.codeBefore? size with
  | none => none
  | some n =>
    if n = 0x0A then
      if allEnds && cx.codeBefore? (size - 1) == some 0x0D then some (size - 2)
      else some (size - 1)
    else if allEnds && isLineEnd cx.repertoire n then some (size - 1)
    else none

/-- Whether a place is a boundary of a word within a repertoire. -/
def atWordBoundary (cx : Setting) (edge : WordEdge) (r : Repertoire) (pos : Nat) : Bool :=
  atWordEdge edge ((cx.codeBefore? pos).any (isWord r)) ((cx.code? pos).any (isWord r))

/-- Whether a place is a boundary by the default rules of the standard. -/
def atDefaultBoundary (cx : Setting) (edge : WordEdge) (pos : Nat) : Bool :=
  let before := ((cx.text.toList.take pos).reverse).map Char.toNat
  let after := (cx.text.toList.drop pos).map Char.toNat
  isDefaultBoundary before after
    && (edge == .either || atWordEdge edge (before.head?.any isWordChar)
      (after.head?.any isWordChar))

/-- Whether a place is what an assertion says. The default rules say nothing special of Western
words. -/
def satisfies (cx : Setting) (a : Assertion) (pos : Nat) : Bool :=
  match a with
  | .startOfText => pos == 0
  | .endOfText => pos == cx.text.size
  | .endOfLastLine allEnds => pos == cx.text.size || cx.lastLineEnd? allEnds == some pos
  | .startOfLine allEnds => cx.atLineStart allEnds pos
  | .endOfLine allEnds => cx.atLineEnd allEnds pos
  | .searchStart => pos == cx.searchStart
  | .wordBoundary edge scope => cx.atWordBoundary edge (scope.getD cx.repertoire) pos
  | .defaultBoundary edge =>
    match cx.repertoire with
    | .western => cx.atWordBoundary edge .western pos
    | .worldwide => cx.atDefaultBoundary edge pos

end Setting

end SqlRegexp.Match
