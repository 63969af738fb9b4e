import SqlRegexp.Match.Found

/-!
Walks through the matches of a text. A walk searches from a cursor and goes on at the end of the
match it meets, or one character further if that match is empty, until there is no match or the
cursor is past the end of the text.

A pattern may put the start of its match before the cursor. If such a match ends at the cursor, the
walk meets it again and again. A walk that ends meets no cursor twice, hence at most one match more
than there are characters; so one more match tells that the walk has no end.
-/

namespace SqlRegexp.Match

/-- What a walk goes by. -/
structure Walk where
  /-- The number of characters of the text. -/
  size : Nat
  /-- The first match from a place on. -/
  search : Nat → Option Found

namespace Found

/-- Where a walk goes on after a match. -/
def next (m : Found) : Nat := if m.start < m.stop then m.stop else m.stop + 1

end Found

namespace Walk

/-- The match that a walk meets at a cursor. -/
def met? (w : Walk) (cursor : Nat) : Option Found :=
  if cursor ≤ w.size then w.search cursor else none

/-- The matches met from a cursor on, if the walk ends after at most `limit` of them. -/
def upTo? (w : Walk) : (limit cursor : Nat) → Option (List Found)
  | 0, cursor => if (w.met? cursor).isSome then none else some []
  | limit + 1, cursor =>
    match w.met? cursor with
    | some m => (m :: ·) <$> w.upTo? limit m.next
    | none => some []

/-- The matches met from the start of the text on; nothing if the walk has no end. -/
def all? (w : Walk) : Option (List Found) := w.upTo? (w.size + 1) 0

end Walk

end SqlRegexp.Match
