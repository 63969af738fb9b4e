import SqlRegexp.Pattern.Node
import SqlRegexp.Pattern.Source
import SqlRegexp.Unicode.Name

/-!
What a backslash stands for, outside and inside a bracketed class.
-/

namespace SqlRegexp.Pattern

open SqlRegexp.Text SqlRegexp.Unicode

/-- What an escape of a character or a property stands for. -/
inductive Escaped where
  /-- A character that matches by the options in force. -/
  | literal (code : Nat)
  /-- A character that matches itself only. -/
  | plain (code : Nat)
  /-- A property by the options in force. -/
  | property (t : PropertyTest)
  /-- A property that is the same in any case. -/
  | plainProperty (t : PropertyTest)

namespace Reading

def casing : Reading Casing := return (← get).options.casing

/-- Reads hexadecimal digits, as many as `width` says; `digits` are those already read. -/
def hexDigits (letter : Char) (start : Nat) : (width : Nat) → (digits : List Char) →
    Reading (List Char)
  | 0, digits => return digits
  | width + 1, digits => do
    match (← next) with
    | some c =>
      if (hexValue? c).isSome then hexDigits letter start width (digits ++ [c])
      else failAt (.incompleteEscape letter digits) start
    | none => failAt (.incompleteEscape letter digits) start

/-- Reads an escape of a fixed number of hexadecimal digits. -/
def hexEscape (letter : Char) (width : Nat) : Reading Nat := do
  let start ← pos
  let digits ← hexDigits letter start width []
  let n := readHex digits
  if 0x110000 ≤ n then failAt (.escapeTooLarge letter digits) start
  return n

/-- Reads up to `width` more octal digits. -/
def octalDigits : (width : Nat) → Reading (List Char)
  | 0 => return []
  | width + 1 => do
    let here ← mark
    match (← next) with
    | some c =>
      if isOctal c then return c :: (← octalDigits width)
      rewind here
      return []
    | none => rewind here; return []

/-- Reads an octal escape, of which the first digit has been read. -/
def octalEscape (first : Char) : Reading Nat := do
  let more ← octalDigits 2
  if isOctal first then return ofDigits 8 ((first :: more).filterMap octalValue?)
  else fail (.unknownEscape first)

/-- Whether a character may stand in the name of a property. -/
def isNameChar (c : Char) : Bool := isLatinLetter c || isDecimal c || " &_-.".toList.contains c

/-- Whether a character may stand in the value of a property. -/
def isValueChar (c : Char) : Bool := isNameChar c || c == '/'

/-- Reads the name of a property after its opening brace: the qualifier, if there is one, and the
name. -/
def propertyName : Reading (Option (List Char) × List Char) := do
  let name ← takeWhileRaw isNameChar
  let here ← mark
  match (← next) with
  | some c =>
    if c == ':' || c == '=' then
      let value ← takeWhileRaw isValueChar
      if (trimBlanks value).isEmpty then
        rewind here
        return (none, name)
      return (some name, trimBlanks value)
    rewind here
    return (none, name)
  | none => rewind here; return (none, name)

/-- The test of a named property. -/
def namedProperty (name : Option (List Char) × List Char) (positive : Bool)
    (scope : Option Repertoire) (bracketed : Bool) : Reading PropertyTest := do
  match Property.named? name.1 name.2 bracketed with
  | some (p, asked) => return ⟨p, positive == asked, scope⟩
  | none => fail .unknownProperty

/-- Reads what follows `\p`, or `\P` where `positive` is not set. -/
def propertyEscape (positive : Bool) : Reading Escaped := do
  let here ← mark
  let scope := (← get).options.repertoire?
  match (← next) with
  | some '{' =>
    let negated ← acceptChar '^'
    let name ← propertyName
    if (← acceptChar '}') then
      return .property (← namedProperty name (positive != negated) scope false)
  | some c =>
    if "CLMNPSZ".toList.contains c then
      return .property (← namedProperty (none, [c]) positive scope false)
  | none => pure ()
  -- no property: the letter stands for itself, and what follows is read again
  rewind here
  return .literal (if positive then 'p'.toNat else 'P'.toNat)

/-- Reads what follows `\N`. -/
def nameEscape : Reading Escaped := do
  let here ← mark
  if (← acceptChar '{') then
    let name ← takeWhileRaw (fun c => isLatinLetter c || isDecimal c || c == ' ' || c == '-')
    if (← acceptChar '}') then
      match codeNamed? name with
      | some n => return .literal n
      | none => fail .unknownCharacterName
  rewind here
  return .literal 'N'.toNat

/-- The test of a class letter, as in `\d`. -/
def classLetter? (c : Char) : Option (Property × Bool) :=
  match c with
  | 'd' => some (.digit, true)
  | 'D' => some (.digit, false)
  | 's' => some (.whiteSpace, true)
  | 'S' => some (.whiteSpace, false)
  | 'w' => some (.word, true)
  | 'W' => some (.word, false)
  | 'h' => some (.blank, true)
  | _ => none

/-- The control character of a letter, as in `\n`. -/
def controlLetter? (c : Char) : Option Nat :=
  match c with
  | 'a' => some 0x07
  | 'b' => some 0x08
  | 'f' => some 0x0C
  | 'n' => some 0x0A
  | 'r' => some 0x0D
  | 't' => some 0x09
  | 'v' => some 0x0B
  | _ => none

/-- The number of digits of a hexadecimal escape. -/
def hexWidth? (c : Char) : Option Nat :=
  match c with
  | 'x' => some 2
  | 'u' => some 4
  | 'U' => some 8
  | _ => none

/-- What an escape stands for inside and outside a class alike, given its letter. -/
def commonEscape (c : Char) : Reading Escaped := do
  match classLetter? c with
  | some (p, positive) => return .plainProperty ⟨p, positive, (← get).options.repertoire?⟩
  | none =>
    match controlLetter? c with
    | some n => return .plain n
    | none => if isLatinLetter c then fail (.unknownEscape c) else return .literal c.toNat

/-- What an escape is as a member of a class. -/
def traitOf : Escaped → Trait
  | .literal n | .plain n => .code n
  | .property t | .plainProperty t => .property t

/-- Reads what follows the backslash and the letter of an escape inside a class. -/
def memberEscape (c : Char) : Reading Escaped :=
  match hexWidth? c with
  | some width => .literal <$> hexEscape c width
  | none =>
    if c == 'N' then nameEscape
    else if c == 'p' || c == 'P' then propertyEscape (c == 'p')
    else if isDecimal c then .literal <$> octalEscape c
    else commonEscape c

/-- Reads an escape inside a class, after the backslash. -/
def classEscape : Reading Trait := do
  match (← verbatim next) with
  | none => fail .danglingEscape
  | some c => return traitOf (← memberEscape c)

/-! ### Outside a class -/

/-- The place that a letter stands for. -/
def placeLetter? (o : Options) (c : Char) : Option (Node Reference) :=
  let edge := fun (e : WordEdge) =>
    if o.word then Assertion.defaultBoundary e else .wordBoundary e o.repertoire?
  match c with
  | 'A' => some (.assertion .startOfText)
  | 'b' => some (.assertion (edge .either))
  | 'B' => some (.notAssertion (edge .either))
  | 'm' => some (.assertion (edge .start))
  | 'M' => some (.assertion (edge .stop))
  | 'z' | 'Z' => some (.assertion .endOfText)
  | 'G' => some (.assertion .searchStart)
  | 'K' => some .keep
  | _ => none

/-- Any line end; a carriage return and line feed are one. -/
def anyLineEnd : Node Reference :=
  let plain := fun (n : Nat) => Node.one (.char n true .exact)
  let ends := [.range 0x0A 0x0D, .code 0x85, .code 0x2028, .code 0x2029]
  .atomic (.choice [.seq (plain 0x0D) (plain 0x0A), .one (.oneOf (ends.map .having) true .exact)])

/-- A reference to the text of a group, under the options in force. -/
def backreference (group : GroupName) (place : Nat) : Reading (Node Reference) := do
  return .backref ⟨group, place⟩ (← casing)

/-- Reads a reference in angle brackets, after `\g`. -/
def bracketReference : Reading (Node Reference) := do
  expect '<'
  let start ← pos
  let group ← groupName true
  expect '>'
  if (← isOpen group) then fail .openGroup else backreference group start

/-- The pattern of an escape under the options in force. -/
def nodeOf : Escaped → Reading (Node Reference)
  | .literal n => return .one (.char n true (← casing))
  | .plain n => return .one (.char n true .exact)
  | .property t => return .one (.property t (← casing))
  | .plainProperty t => return .one (.property t .exact)

/-- Goes back to the end of the digits of a reference, and refers to their group. -/
def digitReference (number : Nat) (back : List Char) : Reading (Node Reference) := do
  rewind back
  if (← isOpen (.number number)) then fail .openGroup
  else backreference (.number number) (← pos)

/-- Reads an escape of digits other than 0, after its first digit: three octal digits are a
character, and one or two digits refer to a group. -/
def digitEscape (first : Char) : Reading (Node Reference) := do
  let digit := fun (c : Char) => (decimalValue? c).getD 0
  let afterFirst ← mark
  match (← next) with
  | some second =>
    if isDecimal second then
      let number := digit first * 10 + digit second
      let afterSecond ← mark
      match (← next) with
      | some third =>
        if isOctal first && isOctal second && isOctal third then
          -- three octal digits are a character, whatever groups there are
          let n := ofDigits 8 ([first, second, third].filterMap octalValue?)
          let o := (← get).options
          nodeOf (.literal (n % (if o.ascii && !o.unicode then 0x100 else 0x200)))
        else digitReference number afterSecond
      | none => digitReference number afterSecond
    else digitReference (digit first) afterFirst
  | none => digitReference (digit first) afterFirst

/-- Reads a reference after `\g`; the letter itself if there is none. -/
def bracketEscape : Reading (Node Reference) := do
  match (← attempt bracketReference) with
  | some n => return n
  | none => nodeOf (.literal 'g'.toNat)

/-- Refuses a list that is not given, after `\L`. -/
def listEscape : Reading (Node Reference) := do
  expect '<'
  let _ ← groupName true
  expect '>'
  fail .undefinedList

/-- Reads what follows the backslash and the letter of an escape outside a class. -/
def escapeOf (c : Char) : Reading (Node Reference) := do
  match hexWidth? c, placeLetter? (← get).options c with
  | some width, _ => nodeOf (.literal (← hexEscape c width))
  | none, some place => return place
  | none, none =>
    if c == 'g' then bracketEscape
    else if c == 'L' then listEscape
    else if c == 'N' then nodeOf (← nameEscape)
    else if c == 'p' || c == 'P' then nodeOf (← propertyEscape (c == 'p'))
    else if c == 'R' then return anyLineEnd
    else if c == '0' then nodeOf (.literal (← octalEscape c))
    else if isDecimal c then digitEscape c
    else nodeOf (← commonEscape c)

/-- Reads an escape outside a class, after the backslash. -/
def escape : Reading (Node Reference) := do
  match (← verbatim next) with
  | none => fail .danglingEscape
  | some c => escapeOf c

end Reading

end SqlRegexp.Pattern
