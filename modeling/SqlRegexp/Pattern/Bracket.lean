import SqlRegexp.Pattern.Escape

/-!
Bracketed classes: characters, ranges, escapes and named classes such as `[:alpha:]`. The first
member may be a closing bracket, and blanks always count.
-/

namespace SqlRegexp.Pattern

open SqlRegexp.Text SqlRegexp.Unicode

namespace Reading

/-- Reads a named class after its `[:`; nothing if it is not closed by `:]`. -/
def namedClass : Reading (Option Trait) := do
  let negated ← acceptChar '^'
  let name ← propertyName
  if (← accept [':', ']']) then
    return some (.property (← namedProperty name (!negated) none true))
  return none

/-- Reads a character as itself. -/
def classChar : Reading Trait := do
  match (← next) with
  | some c => return .code c.toNat
  | none => fail .unterminatedClass

/-- Reads a named class; nothing if there is none. -/
def namedMember : Reading (Option Trait) := do
  if (← accept ['[', ':']) then namedClass else return none

/-- Reads one member that is no range. -/
def classMember : Reading Trait := do
  if (← acceptChar '\\') then classEscape
  else
    let here ← mark
    match (← namedMember) with
    | some t => return t
    | none =>
      rewind here
      classChar

/-- Reads the rest of a range whose first member has been read, if it is one. -/
def rangeFrom (low : Trait) : Reading (List Trait) := do
  match low with
  | .code a =>
    if !(← acceptChar '-') then return [low]
    let here ← mark
    if (← acceptChar ']') then
      -- the hyphen was the last member
      rewind here
      return [low, .code '-'.toNat]
    match (← classMember) with
    | .code b =>
      if b < a then fail .rangeReversed
      return [if a = b then .code a else .range a b]
    | high => return [low, .code '-'.toNat, high]
  | _ => return [low]

/-- Reads one member or range. A hyphen that cannot make a range is a member itself. -/
def classRange : Reading (List Trait) := do rangeFrom (← classMember)

/-- Reads members up to the closing bracket, which is read too. -/
def classMembers : (limit : Nat) → Reading (List Trait)
  | 0 => fail .unterminatedClass
  | limit + 1 => do
    let here ← classRange
    if (← acceptChar ']') then return here
    return here ++ (← classMembers limit)

/-- The test of a class of members. A class of one member is that member. -/
def classTest (positive : Bool) (k : Casing) : List Trait → CharTest
  | [.code n] => .char n positive k
  | [.range low high] => .range low high positive k
  | [.property t] => .property { t with positive := t.positive == positive } k
  | ts => .oneOf (ts.map .having) positive k

/-- Reads a class after its opening bracket, given what bounds the number of its members. -/
def classOf (limit : Nat) (k : Casing) : Reading (Node Reference) := do
  let positive := !(← acceptChar '^')
  return .one (classTest positive k (← classMembers limit))

/-- Reads a class after its opening bracket. -/
def bracket : Reading (Node Reference) := do
  let s ← get
  verbatim (classOf (s.total + 1) s.options.casing)

end Reading

end SqlRegexp.Pattern
