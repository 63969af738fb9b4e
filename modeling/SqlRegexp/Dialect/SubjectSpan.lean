/-!
Stretches of a subject in the coordinates of SQL: the first character is number 1.
-/

namespace SqlRegexp

/-- Why there is no span to report. -/
inductive SpanError where
  /-- The start is before the first character. -/
  | startTooSmall (start : Int)
  /-- The length is below 0. -/
  | negativeLength (length : Int)
  /-- The pattern that was matched does not have the group. -/
  | noSuchGroup
deriving DecidableEq, Repr

namespace SpanError

def message : SpanError → String
  | startTooSmall n => "MatchSpan start must be 1-based, got " ++ toString n
  | negativeLength n => "MatchSpan length cannot be negative, got " ++ toString n
  | noSuchGroup => "no such group"

end SpanError

/-- A stretch of a subject. -/
structure SubjectSpan where
  start : Nat
  length : Nat
  start_pos : 1 ≤ start := by omega
deriving DecidableEq, Repr

namespace SubjectSpan

/-- The span of a start and a length that are in range. -/
def ofInts (start length : Int) : Except SpanError SubjectSpan :=
  if h : 1 ≤ start then
    if 0 ≤ length then .ok ⟨start.toNat, length.toNat, by omega⟩
    else .error (.negativeLength length)
  else .error (.startTooSmall start)

/-- The number of the character after the span. -/
def stop (s : SubjectSpan) : Nat := s.start + s.length

/-- The text of a subject that the span covers. -/
def extract (s : SubjectSpan) (subject : List Char) : List Char :=
  (subject.drop (s.start - 1)).take s.length

end SubjectSpan

end SqlRegexp
