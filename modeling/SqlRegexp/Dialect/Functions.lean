import SqlRegexp.Dialect.Locate

/-!
The four functions of the dialect. A missing subject or pattern stands for NULL and gives the result
of a pattern that is not found; numbers are checked first all the same.
-/

namespace SqlRegexp

variable [Engine]

/-- Whether a pattern matches anywhere in a subject. -/
def like (policy : NewlinePolicy) (subject pattern parameter : Option (List Char)) :
    Narrated Bool := do
  match subject, pattern with
  | some subject, some pattern =>
    let mode := Mode.ofParameter parameter false policy
    Narrated.tell (.parameterRead parameter policy mode)
    let program ← mode.compile (mode.literalOr pattern)
    return (Engine.search program subject.toArray 0).isSome
  | _, _ => return false

/-- A check of an argument as a step of a call. -/
def checked (a : Argument) (v : Value) : Narrated Nat :=
  Narrated.ofResult ((a.checkOptional v).mapError .argument)

/-- How many matches a walk from a position on meets. -/
def count (policy : NewlinePolicy) (subject pattern : Option (List Char)) (position : Value)
    (parameter : Option (List Char)) : Narrated Nat := do
  let position ← checked .position position
  match subject, pattern with
  | some subject, some pattern =>
    let mode := Mode.ofParameter parameter true policy
    Narrated.tell (.parameterRead parameter policy mode)
    let program ← mode.compile (mode.literalOr pattern)
    match (Engine.walk program (subject.drop (position - 1)).toArray).all? with
    | some ms => return ms.length
    | none => throw .endless
  | _, _ => return 0

/-- The number of the first character of an occurrence, or of one of its groups, or of the character
after it; 0 if there is none. -/
def instr (policy : NewlinePolicy) (subject pattern : Option (List Char))
    (position occurrence returnOption : Value) (parameter : Option (List Char)) (group : Value) :
    Narrated Nat := do
  let position ← checked .position position
  let occurrence ← checked .occurrence occurrence
  let group ← checked .group group
  let returnOption ← checked .returnOption returnOption
  let mode := Mode.ofParameter parameter true policy
  Narrated.tell (.parameterRead parameter policy mode)
  match (← locate ⟨subject, pattern, position, occurrence, group, mode⟩) with
  | none => return 0
  | some span => return if returnOption = 1 then span.stop else span.start

/-- The text of an occurrence, or of one of its groups; nothing if there is none. Where the first
group of a pattern without groups is asked for, nothing is searched. -/
def substr (policy : NewlinePolicy) (subject pattern : Option (List Char))
    (position occurrence : Value) (parameter : Option (List Char)) (group : Value) :
    Narrated (Option (List Char)) := do
  let position ← checked .position position
  let occurrence ← checked .occurrence occurrence
  let group ← checked .group group
  match subject, pattern with
  | some subject, some pattern =>
    let mode := Mode.ofParameter parameter true policy
    Narrated.tell (.parameterRead parameter policy mode)
    if group = 1 then
      let program ← mode.compile (mode.literalOr pattern)
      if Engine.groupCount program = 0 then
        Narrated.tell (.noGroup pattern)
        return none
    match (← locate ⟨subject, pattern, position, occurrence, group, mode⟩) with
    | none => return none
    | some span => return some (span.extract subject)
  | _, _ => return none

end SqlRegexp
