import SqlRegexp.Pattern.Options
import SqlRegexp.Text.Quoted

/-!
The mode of a match: what the letters of the match parameter ask for, and which options of the
pattern engine that means. With neither `n` nor `m` the boundary default holds: `.` stops at line
feeds, and `^` and `$` stand for the ends of the subject.
-/

namespace SqlRegexp

open SqlRegexp.Pattern SqlRegexp.Text

/-- When the boundary default holds. -/
inductive NewlinePolicy where
  /-- Whenever neither `n` nor `m` is given. -/
  | uniform
  /-- Only when no match parameter is given at all. -/
  | legacy
deriving DecidableEq, Repr

namespace NewlinePolicy

/-- The name of a policy in settings and messages. -/
def label : NewlinePolicy → String
  | uniform => "uniform"
  | legacy => "legacy"

end NewlinePolicy

/-- The mode of a match. -/
structure Mode where
  /-- Letters match in either case. -/
  ignoreCase : Bool := false
  /-- `.` matches a line feed too. -/
  dotAll : Bool := false
  /-- `^` and `$` match at every line. -/
  multiline : Bool := false
  /-- Blanks and comments in the pattern are ignored. -/
  extended : Bool := false
  /-- The boundary default holds. -/
  boundary : Bool := false
  /-- Every match is wanted instead of the first one. -/
  everyMatch : Bool := false
  /-- Letters that the engine itself gives a meaning. -/
  extra : List (List Char) := []
  /-- The boundary default excludes the modes that would undo it. -/
  consistent : (boundary && (dotAll || multiline)) = false := by rfl
deriving DecidableEq

/-- The flags of a mode, before it is known that they go together. -/
structure ModeFlags where
  ignoreCase : Bool := false
  dotAll : Bool := false
  multiline : Bool := false
  extended : Bool := false
  boundary : Bool := false
  everyMatch : Bool := false
  extra : List (List Char) := []

namespace ModeFlags

/-- The mode of flags that go together. -/
def toMode? (f : ModeFlags) : Option Mode :=
  if h : (f.boundary && (f.dotAll || f.multiline)) = false then
    some ⟨f.ignoreCase, f.dotAll, f.multiline, f.extended, f.boundary, f.everyMatch, f.extra, h⟩
  else none

end ModeFlags

namespace Mode

/-- The message for flags that do not go together. -/
def conflictMessage : String :=
  "The boundary default cannot be combined with dot-all or multiline mode."

/-! ### Letters -/

/-- What the letters of a match parameter add up to. -/
structure Letters where
  ignoreCase : Bool := false
  dotAll : Bool := false
  multiline : Bool := false
  extended : Bool := false
  extra : List (List Char) := []
deriving DecidableEq, Repr

namespace Letters

/-- One more letter: of `i` and `c` the last counts, and a letter without a meaning here is kept
once. -/
def add (l : Letters) (c : Char) : Letters :=
  match c with
  | 'i' => { l with ignoreCase := true }
  | 'c' => { l with ignoreCase := false }
  | 'n' => { l with dotAll := true }
  | 'm' => { l with multiline := true }
  | 'x' => { l with extended := true }
  | c => if l.extra.contains [c] then l else { l with extra := l.extra ++ [[c]] }

/-- What several letters add up to. -/
def ofList (cs : List Char) : Letters := cs.foldl add {}

end Letters

/-- Whether the boundary default holds for a match parameter. -/
def boundaryHolds (policy : NewlinePolicy) (parameter : Option (List Char)) (l : Letters) : Bool :=
  match policy with
  | .uniform => !(l.dotAll || l.multiline)
  | .legacy => parameter.isNone

/-- The boundary default never holds together with a mode that would undo it. -/
theorem boundaryHolds_consistent (policy : NewlinePolicy) (parameter : Option (List Char)) :
    let l := Letters.ofList (parameter.getD [])
    (boundaryHolds policy parameter l && (l.dotAll || l.multiline)) = false := by
  cases policy with
  | uniform => simp [boundaryHolds]
  | legacy =>
    cases parameter with
    | none => simp [boundaryHolds, Letters.ofList]
    | some cs => simp [boundaryHolds]

def ofParameter (parameter : Option (List Char)) (everyMatch : Bool) (policy : NewlinePolicy) :
    Mode :=
  let l := Letters.ofList (parameter.getD [])
  ⟨l.ignoreCase, l.dotAll, l.multiline, l.extended, boundaryHolds policy parameter l, everyMatch,
    l.extra, boundaryHolds_consistent policy parameter⟩

/-- The letters of a mode, or `-` when there are none. -/
def letters (m : Mode) : List Char :=
  let flags := [('i', m.ignoreCase), ('n', m.dotAll), ('m', m.multiline), ('x', m.extended),
    ('p', m.boundary), ('g', m.everyMatch)]
  let all := (flags.filter Prod.snd).map Prod.fst ++ m.extra.flatten
  if all.isEmpty then ['-'] else all

/-! ### Options of the engine -/

/-- The letter that asks for the pattern to be taken literally. -/
def literalLetter : List Char := ['q']

/-- Whether the pattern is to be taken literally. -/
def isLiteral (m : Mode) : Bool := m.extra.contains literalLetter

def extraOption? (letter : List Char) : Option Options :=
  match letter with
  | ['a'] => some { ascii := true }
  | ['b'] => some { bestMatch := true }
  | ['e'] => some { enhanceMatch := true }
  | ['f'] => some { fullCase := true }
  | ['p'] => some { posix := true }
  | ['s'] => some { dotAll := true }
  | ['u'] => some { unicode := true }
  | ['w'] => some { word := true }
  | ['q'] => some {}
  | _ => none

/-- The options of a mode without its extra letters. With no newline mode at all, `.` matches line
feeds too. -/
def ownOptions (m : Mode) : Options where
  ignoreCase := m.ignoreCase
  dotAll := m.dotAll || !(m.boundary || m.dotAll || m.multiline)
  multiline := m.multiline
  verbose := m.extended

/-- Adds the options of extra letters; the first letter without a meaning is refused. -/
def addExtras : Options → List (List Char) → Except (List Char) Options
  | o, [] => .ok o
  | o, letter :: rest =>
    match extraOption? letter with
    | some p => addExtras (o.union p) rest
    | none => .error letter

/-- The options of a mode, or its first extra letter that means nothing. -/
def options (m : Mode) : Except (List Char) Options := addExtras m.ownOptions m.extra

/-- The message for a letter that means nothing. -/
def unknownLetterMessage (letter : List Char) : String :=
  "invalid regular expression option: " ++ quotedString letter

end Mode

end SqlRegexp
