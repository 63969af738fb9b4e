import SqlRegexp.Yaml.Quoted

/-!
Plain scalars: text without quotes, which ends before a comment, before a colon at the end of a word
and, within brackets, before the signs that structure them. It may go on in further lines.
-/

namespace SqlRegexp.Yaml

namespace Reading

/-- The signs that end a plain scalar within brackets. -/
def flowSigns : List Char := [',', '?', '[', ']', '\x7b', '\x7d']

/-- The signs before which a colon ends a plain scalar within brackets. -/
def flowEnds : List Char := [',', '[', ']', '\x7b', '\x7d']

/-- The characters of a text that belong to the word of a plain scalar at its start. -/
def plainWord (inFlow : Bool) : List Char → List Char
  | [] => []
  | c :: cs =>
    let colonEnds := c == ':' && (cs.head?.all fun d => isGap d || isBreak d ||
      (inFlow && flowEnds.contains d))
    if isGap c || isBreak c || colonEnds || (inFlow && flowSigns.contains c) then []
    else c :: plainWord inFlow cs

/-- Passes spaces and further line ends after a line end; gives the line ends, or nothing if a mark
between documents stops them. -/
def plainBreaks : (limit : Nat) → Reading (Option (List Char))
  | 0 => refuse
  | limit + 1 => do
    skipWhile (· == ' ')
    match (← lineBreak) with
    | [] => return some []
    | b =>
      if (← isDocumentFence) then return none
      return (← plainBreaks limit).map (b ++ ·)

/-- What stands between two words of a plain scalar. -/
inductive PlainGap where
  /-- The scalar cannot go on. -/
  | none
  /-- Spaces within a line. -/
  | spaces (cs : List Char)
  /-- Line ends, as what they count for. -/
  | lines (cs : List Char)

/-- Passes the gap after a word; whether a line has ended is a part of the answer. -/
def plainGap (limit : Nat) : Reading (Bool × PlainGap) := do
  let spaces ← takeWhile (· == ' ')
  match (← lineBreak) with
  | [] => return (false, if spaces.isEmpty then .none else .spaces spaces)
  | b =>
    if (← isDocumentFence) then return (true, .none)
    match (← plainBreaks limit) with
    | none => return (true, .none)
    | some more => return (true, .lines (folded b more))

/-- The words of a plain scalar from a word on, with the gap before it; `lineEnded` is whether the
gap held a line end. The answer says so about the last gap. -/
def plainFrom (inFlow : Bool) (column : Int) :
    (limit : Nat) → (lineEnded : Bool) → (gap : List Char) → Reading (List Char × Bool)
  | 0, _, _ => refuse
  | limit + 1, lineEnded, gap => do
    if (← isAhead 0 (· == '#')) then return ([], lineEnded)
    match plainWord inFlow (← get).rest with
    | [] => return ([], lineEnded)
    | word =>
      skip word.length
      let (ended, next) ← plainGap (limit + 1)
      let goesOn := inFlow || column ≤ (← get).column
      match next with
      | .none => return (gap ++ word, ended)
      | .spaces cs | .lines cs =>
        if goesOn then
          let (text, last) ← plainFrom inFlow column limit ended cs
          return (gap ++ word ++ text, last)
        else return (gap ++ word, ended)

/-- A plain scalar, in the indentation of the collection around it, and whether a line has ended
after its last word. -/
def plainScalar (inFlow : Bool) (around : Int) : Reading (List Char × Bool) := do
  plainFrom inFlow (around + 1) ((← get).rest.length + 1) false []

end Reading

end SqlRegexp.Yaml
