import SqlRegexp.Text.Numeral
import SqlRegexp.Text.Radix

/-!
Changes to the text of a pattern: end anchors are pinned to the end of the subject, and a pattern
is enclosed in a group of its own, after which its references count one group more.

Both need to know where bracketed classes and escapes lie. `Place` tells it character by character.
-/

namespace SqlRegexp

open SqlRegexp.Text SqlRegexp.Unicode

/-- Where in a pattern a character stands. -/
inductive Place where
  | outside
  /-- Right after the bracket that opens a class. -/
  | opened
  /-- Right after that bracket and a caret. -/
  | negated
  /-- Further inside a class. -/
  | inside
  /-- After a backslash, inside a class or outside. -/
  | escaped (inClass : Bool)
deriving DecidableEq, Repr

namespace Place

/-- The place after a character. A closing bracket right after the start of a class is a member. -/
def next : Place → Char → Place
  | outside, c => if c = '\\' then escaped false else if c = '[' then opened else outside
  | opened, c => if c = '\\' then escaped true else if c = '^' then negated else inside
  | negated, c => if c = '\\' then escaped true else inside
  | inside, c => if c = '\\' then escaped true else if c = ']' then outside else inside
  | escaped inClass, _ => if inClass then inside else outside

end Place

namespace PatternText

/-! ### End anchors -/

/-- Replaces every `$` outside classes and escapes by `\Z`, from a place on. -/
def pinFrom : Place → List Char → List Char
  | _, [] => []
  | place, c :: cs =>
    (if place = .outside ∧ c = '$' then ['\\', 'Z'] else [c]) ++ pinFrom (place.next c) cs

/-- Replaces every end anchor by one that holds at the end of the subject only. -/
def pinEnds (pattern : List Char) : List Char := pinFrom .outside pattern

/-! ### References -/

/-- The spellings of a numbered reference. -/
inductive Spelling where
  /-- `\1` -/
  | backslash
  /-- `\g<1>` -/
  | bracketed
  /-- `(?(1)`, of which the branches follow. -/
  | condition
  /-- `(?1)` -/
  | call
deriving DecidableEq, Repr

/-- A numbered reference in the text of a pattern. -/
structure Numbered where
  spelling : Spelling
  number : Nat
  /-- How many characters it takes up. -/
  length : Nat
deriving DecidableEq, Repr

/-- Whether a text starts with three octal digits. -/
def startsOctal : List Char → Bool
  | a :: b :: c :: _ => isOctal a && isOctal b && isOctal c
  | _ => false

/-- Digit characters at the start of a text, if there are any and a given character follows. -/
def digitsBefore? (stop : Char) (cs : List Char) : Option (List Char) :=
  let digits := cs.takeWhile fun c => isDigitChar c.toNat
  if !digits.isEmpty && (cs.drop digits.length).head? == some stop then some digits else none

/-- The reference spelled by digits after `taken` characters, with one more character after the
digits. -/
def numbered (spelling : Spelling) (taken : Nat) (digits : List Char) :
    Except NumeralError (Option Numbered) := do
  return some ⟨spelling, ← readNatural digits, taken + digits.length + 1⟩

/-- The reference that a backslash starts, given what follows it: a digit other than 0 and perhaps
one more digit, unless they are an octal escape, or a number in angle brackets after `g`. -/
def afterBackslash? : List Char → Except NumeralError (Option Numbered)
  | 'g' :: '<' :: cs =>
    match digitsBefore? '>' cs with
    | some digits => numbered .bracketed 3 digits
    | none => .ok none
  | c :: cs =>
    if isDecimal c ∧ c ≠ '0' ∧ ¬ startsOctal (c :: cs) then
      let digits := c :: (cs.take 1).filter fun d => isDigitChar d.toNat
      (readNatural digits).map fun n => some ⟨.backslash, n, 1 + digits.length⟩
    else .ok none
  | [] => .ok none

/-- The reference that `(?` starts, given what follows it: a number in parentheses, or a number
above 0 and a closing parenthesis. -/
def afterQuestion? : List Char → Except NumeralError (Option Numbered)
  | '(' :: cs =>
    match digitsBefore? ')' cs with
    | some digits => numbered .condition 3 digits
    | none => .ok none
  | cs =>
    match digitsBefore? ')' cs with
    | some digits => do
      match (← numbered .call 2 digits) with
      | some r => return if r.number = 0 then none else some r
      | none => return none
    | none => .ok none

/-- The numbered reference at the start of a text outside classes. -/
def referenceAt? : List Char → Except NumeralError (Option Numbered)
  | '\\' :: cs => afterBackslash? cs
  | '(' :: '?' :: cs => afterQuestion? cs
  | _ => .ok none

/-- The decimal text of a whole number. -/
def writeInteger (n : Int) : Except NumeralError (List Char) :=
  match n with
  | .ofNat m => writeNatural m
  | .negSucc m => ('-' :: ·) <$> writeNatural (m + 1)

/-- The text of a reference to another number. A backslash alone takes one digit. -/
def Spelling.write (s : Spelling) (n : Int) : Except NumeralError (List Char) := do
  let ds ← writeInteger n
  return match s with
    | .backslash => if n ≤ 9 then '\\' :: ds else "\\g<".toList ++ ds ++ ['>']
    | .bracketed => "\\g<".toList ++ ds ++ ['>']
    | .condition => "(?(".toList ++ ds ++ [')']
    | .call => "(?".toList ++ ds ++ [')']

/-- Renumbers references from a place on; `skip` characters belong to a reference already
written. -/
def shiftFrom (offset : Int) : (skip : Nat) → Place → List Char → Except NumeralError (List Char)
  | _, _, [] => .ok []
  | skip + 1, place, _ :: cs => shiftFrom offset skip place cs
  | 0, place, c :: cs => do
    match ← (if place = .outside then referenceAt? (c :: cs) else pure none) with
    | some r =>
      let text ← r.spelling.write (r.number + offset)
      return text ++ (← shiftFrom offset (r.length - 1) .outside cs)
    | none => return c :: (← shiftFrom offset 0 (place.next c) cs)

/-- Moves the number of every numbered reference by an offset. Classes, octal escapes, named
references and calls of the whole pattern stay as they are. -/
def shiftReferences (pattern : List Char) (offset : Int) : Except NumeralError (List Char) :=
  shiftFrom offset 0 .outside pattern

/-- Encloses a pattern in a group of its own. -/
def enclose (pattern : List Char) : Except NumeralError (List Char) := do
  return '(' :: (← shiftReferences pattern 1) ++ [')']

/-- The pattern and the group to ask it for, so that a group of the pattern is read: the whole match
is the first group of the enclosed pattern. -/
def forGroup (pattern : List Char) (group : Nat) : Except NumeralError (List Char × Nat) :=
  if group = 0 then (·, 1) <$> enclose pattern else .ok (pattern, group)

end PatternText

end SqlRegexp
