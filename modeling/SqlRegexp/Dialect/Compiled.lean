import SqlRegexp.Dialect.Narrated
import SqlRegexp.Dialect.PatternText
import SqlRegexp.Unicode.Space

/-!
Patterns as a mode has them compiled.
-/

namespace SqlRegexp

open SqlRegexp.Pattern SqlRegexp.Unicode

/-! ### Literal patterns -/

/-- The signs that a literal pattern puts a backslash before. -/
def specialSigns : List Char := "()[]\x7b\x7d?*+|^$\\.-#&~".toList

/-- Whether a character of a literal pattern gets a backslash. -/
def needsEscape (c : Char) : Bool := specialSigns.contains c || isBlank c.toNat

/-- A pattern that matches a text and nothing else. -/
def escapeLiteral (cs : List Char) : List Char :=
  cs.flatMap fun c => if needsEscape c then ['\\', c] else [c]

namespace Mode

/-- The pattern that a mode makes of the caller's: a literal one where the mode asks for it. -/
def literalOr (m : Mode) (pattern : List Char) : List Char :=
  if m.isLiteral then escapeLiteral pattern else pattern

/-- The pattern that is compiled: under the boundary default its end anchors are pinned. -/
def pinned (m : Mode) (pattern : List Char) : List Char :=
  if m.boundary then PatternText.pinEnds pattern else pattern

/-- The options of a mode; an extra letter without a meaning is an error of the call. -/
def callOptions (m : Mode) : Except CallError Options := m.options.mapError .letter

def compile [Engine] (m : Mode) (pattern : List Char) : Narrated Engine.Program := do
  let pattern := m.pinned pattern
  Narrated.tell (.compiling pattern m)
  let options ← Narrated.ofResult m.callOptions
  Narrated.ofResult ((Engine.compile pattern options).mapError .pattern)

end Mode

end SqlRegexp
