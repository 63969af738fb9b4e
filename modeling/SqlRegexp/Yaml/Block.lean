import SqlRegexp.Text.Radix
import SqlRegexp.Yaml.Cursor

/-!
Block scalars: the lines that are indented below a header, kept as they are or folded. The header
may give the indentation and says what becomes of the line ends at the end.
-/

namespace SqlRegexp.Yaml

open SqlRegexp.Text

/-- What becomes of the line ends at the end of a block scalar. -/
inductive Chomping where
  /-- One stays. -/
  | clip
  /-- None stays. -/
  | strip
  /-- All stay. -/
  | keep
deriving DecidableEq, Repr

namespace Reading

/-- A sign for chomping, if there is one. -/
def chompingSign : Reading (Option Chomping) := do
  match (← peek) with
  | some '+' => skip 1; return some .keep
  | some '-' => skip 1; return some .strip
  | _ => return none

/-- A digit for the indentation, if there is one. -/
def indentationDigit : Reading (Option Nat) := do
  match (← peek).bind decimalValue? with
  | some 0 => refuse
  | some d => skip 1; return some d
  | none => return none

/-- The header of a block scalar after its first sign: chomping and indentation in either order. -/
def blockHeader : Reading (Chomping × Option Nat) := do
  let sign ← chompingSign
  let digit ← indentationDigit
  let sign ← if sign.isNone && digit.isSome then chompingSign else pure sign
  demand (← spaceEnds 0)
  restOfLine
  return (sign.getD .clip, digit)

/-- Passes the spaces up to a column. -/
def indentTo (column : Nat) : Reading Unit := do
  let k ← get
  let spaces := (k.rest.take (column - k.column)).takeWhile (· == ' ')
  skip spaces.length

/-- Passes empty lines, and the indentation of the line after them; gives the line ends. -/
def emptyLines (column : Nat) : (limit : Nat) → Reading (List Char)
  | 0 => refuse
  | limit + 1 => do
    indentTo column
    match (← lineBreak) with
    | [] => return []
    | b => return b ++ (← emptyLines column limit)

/-- Passes empty lines where the indentation is not known; gives the line ends and the widest
column that spaces reached. -/
def leadingLines : (limit : Nat) → Reading (List Char × Nat)
  | 0 => refuse
  | limit + 1 => do
    let spaces ← takeWhile (· == ' ')
    let k ← get
    let width := if spaces.isEmpty then 0 else k.column
    match (← lineBreak) with
    | [] => return ([], width)
    | b =>
      let (more, wider) ← leadingLines limit
      return (b ++ more, max width wider)

/-- The lines of a block scalar at a column, and the line ends after the last of them. `before` are
line ends not yet given; each line is told how it is joined to the next. -/
def blockLines (isFolded : Bool) (column : Nat) :
    (limit : Nat) → (before : List Char) → Reading (List Char × List Char × List Char)
  | 0, _ => refuse
  | limit + 1, before => do
    let leadingText := !(← isAhead 0 isGap)
    let line ← takeWhile fun c => !isBreak c
    let lineEnd ← lineBreak
    let gap ← emptyLines column (limit + 1)
    let k ← get
    if k.column = column && !k.rest.isEmpty then
      let nextText := !(← isAhead 0 isGap)
      -- a single line end between two lines of text is folded into a blank
      let joint :=
        if isFolded && lineEnd == ['\n'] && leadingText && nextText then
          if gap.isEmpty then [' '] else []
        else lineEnd
      let (lines, last, after) ← blockLines isFolded column limit gap
      return (before ++ line ++ joint ++ lines, last, after)
    else return (before ++ line, lineEnd, gap)

/-- A block scalar, in the indentation of the collection around it. -/
def blockScalar (isFolded : Bool) (around : Int) : Reading (List Char) := do
  skip 1
  let (chomping, digit) ← blockHeader
  let limit := (← get).rest.length + 1
  let least := max 1 (around + 1).toNat
  let (column, gap) ←
    match digit with
    | some d => do
      let column := least + d - 1
      pure (column, ← emptyLines column limit)
    | none => do
      let (gap, width) ← leadingLines limit
      pure (max least width, gap)
  let k ← get
  if k.column = column && !k.rest.isEmpty then
    let (text, last, after) ← blockLines isFolded column limit gap
    return text ++ (if chomping = .strip then [] else last)
      ++ (if chomping = .keep then after else [])
  else return if chomping = .keep then gap else []

end Reading

end SqlRegexp.Yaml
