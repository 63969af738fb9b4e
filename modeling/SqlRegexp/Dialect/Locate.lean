import SqlRegexp.Dialect.Compiled

/-!
Finding an occurrence: the matches of the enclosed pattern are walked through until the occurrence
asked for, and there the pattern itself is matched to read a group. The search runs over the part
of the subject from the position on, so `^` matches at the position.
-/

namespace SqlRegexp

open SqlRegexp.Match

/-- A checked request for an occurrence. A subject or a pattern that is missing stands for NULL. -/
structure Request where
  subject : Option (List Char)
  pattern : Option (List Char)
  position : Nat := 1
  occurrence : Nat := 1
  group : Nat := 0
  mode : Mode := {}

namespace Request

/-- The request of unchecked numbers. -/
def check (subject pattern : Option (List Char)) (position occurrence group : Value) (mode : Mode) :
    Except ArgumentError Request := do
  let position ← Argument.position.check position
  let occurrence ← Argument.occurrence.check occurrence
  let group ← Argument.group.check group
  return ⟨subject, pattern, position, occurrence, group, mode⟩

end Request

/-- The pattern and the group that read a group of a pattern. -/
def forGroup (pattern : List Char) (group : Nat) : Narrated (List Char × Nat) :=
  Narrated.ofResult ((PatternText.forGroup pattern group).mapError .numeral)

/-- The start and the end of a group in a match; -1 stands for both where the group took no
part. -/
def bounds (m : Found) (group : Nat) : Except SpanError (Int × Int) :=
  match m.span? group with
  | some (some s) => .ok (s.start, s.stop)
  | some none => .ok (-1, -1)
  | none => .error .noSuchGroup

/-- Walks from a cursor to the occurrence asked for; `passed` matches are behind, and `ahead` others
come first. -/
def walkTo (request : Request) (pattern : List Char) (group : Nat) (w : Walk) :
    (ahead passed cursor : Nat) → Narrated (Option SubjectSpan)
  | ahead, passed, cursor =>
    match w.met? cursor with
    | none => do
      Narrated.tell (.occurrencesExhausted passed pattern request.position)
      return none
    | some m => do
      let (start, stop) ← Narrated.ofResult ((bounds m group).mapError .span)
      match ahead with
      | 0 =>
        Narrated.tell (.occurrenceFound (passed + 1) (start + 1) (stop - start))
        let span ←
          Narrated.ofResult ((SubjectSpan.ofInts (start + 1) (stop - start)).mapError .span)
        return some span
      | ahead + 1 =>
        Narrated.tell (.occurrencePassed (passed + 1) (stop + 1))
        walkTo request pattern group w ahead (passed + 1) m.next

variable [Engine]

/-- The span of the whole occurrence within a window of the subject. -/
def findOccurrence (window pattern : List Char) (request : Request) :
    Narrated (Option SubjectSpan) := do
  let (enclosed, group) ← forGroup pattern 0
  let program ← request.mode.compile enclosed
  walkTo request pattern group (Engine.walk program window.toArray) (request.occurrence - 1) 0 0

/-- Matches a pattern where an occurrence has been found in a window of the subject, and reads a
group there. -/
def readGroup (request : Request) (program : Engine.Program) (group : Nat) (window : List Char)
    (whole : SubjectSpan) : Narrated (Option SubjectSpan) := do
  match Engine.matchAt program window.toArray (whole.start - 1) with
  | none => return none
  | some m =>
    let (start, stop) ← Narrated.ofResult ((bounds m group).mapError .span)
    if start < 0 then
      Narrated.tell (.groupUnmatched request.group request.occurrence)
      return none
    let offset := request.position - 1
    let span ← Narrated.ofResult
      ((SubjectSpan.ofInts (offset + start + 1) (stop - start)).mapError .span)
    return some span

/-- The span of the group asked for in the occurrence asked for; nothing if there is no such
occurrence or group, or if the group took no part in the match. -/
def locate (request : Request) : Narrated (Option SubjectSpan) := do
  match request.subject, request.pattern with
  | some subject, some given =>
    let pattern := request.mode.literalOr given
    let (effective, group) ← forGroup pattern request.group
    let program ← request.mode.compile effective
    -- a group that the pattern lacks is missing before anything is searched
    if Engine.groupCount program < group then
      Narrated.tell (.groupMissing request.group given (Engine.groupCount program))
      return none
    let window := subject.drop (request.position - 1)
    match (← findOccurrence window pattern request) with
    | none => return none
    | some whole => readGroup request program group window whole
  | _, _ => return none

end SqlRegexp
