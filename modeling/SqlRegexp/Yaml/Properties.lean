import SqlRegexp.Text.Radix
import SqlRegexp.Text.Utf8
import SqlRegexp.Yaml.Cursor

/-!
What stands before nodes and documents: anchors, aliases, tags and directives. The addresses that
tags are made of may hold bytes as a per cent sign and two digits.
-/

namespace SqlRegexp.Yaml

open SqlRegexp.Text

inductive Directive where
  | version (major minor : Nat)
  | handle (handle prefixed : List Char)
  /-- A directive without a meaning here. -/
  | reserved
deriving DecidableEq, Repr

/-- A tag as it is written: an address after a handle, or an address alone. -/
structure TagText where
  handle : Option (List Char)
  suffix : List Char
deriving DecidableEq, Repr

namespace Reading

/-- A name of at least one character. -/
def name : Reading (List Char) := do
  let cs ← takeWhile isNameChar
  demand !cs.isEmpty
  return cs

/-- The signs that may follow an anchor or an alias without a gap. -/
def afterAnchor : List Char := ['?', ':', ',', ']', '\x7d', '%', '@', Char.ofNat 0x60]

/-- The name of an anchor or an alias, after its sign. -/
def anchorName : Reading (List Char) := do
  skip 1
  let cs ← name
  demand ((← wordEnds 0) || (← isAhead 0 afterAnchor.contains))
  return cs

/-! ### Tags -/

/-- The handle of a tag: an exclamation mark, perhaps followed by a name and another one. -/
def tagHandle : Reading (List Char) := do
  demand (← isAhead 0 (· == '!'))
  skip 1
  if (← isAhead 0 (· == ' ')) then return ['!']
  let cs ← takeWhile isNameChar
  demand (← isAhead 0 (· == '!'))
  skip 1
  return '!' :: cs ++ ['!']

def isAddressChar (c : Char) : Bool :=
  isNameChar c || ";/?:@&=+$,.!~*'()[]".toList.contains c

/-- Bytes written with per cent signs. -/
def addressBytes : (limit : Nat) → Reading (List UInt8)
  | 0 => refuse
  | limit + 1 => do
    if !(← isAhead 0 (· == '%')) then return []
    skip 1
    let ds := ((← get).rest.take 2).filterMap hexValue?
    demand (ds.length == 2)
    skip 2
    return UInt8.ofNat (ofDigits 16 ds) :: (← addressBytes limit)

/-- The parts of an address up to the first character that cannot stand in one. -/
def addressRest : (limit : Nat) → Reading (List Char)
  | 0 => refuse
  | limit + 1 => do
    if (← isAhead 0 (· == '%')) then
      match Utf8.decode (← addressBytes (limit + 1)) with
      | .ok cs => return cs ++ (← addressRest limit)
      | .error _ => refuse
    else
      match (← takeWhile isAddressChar) with
      | [] => return []
      | cs => return cs ++ (← addressRest limit)

def address : Reading (List Char) := do
  demand (← isAhead 0 fun c => isAddressChar c || c == '%')
  addressRest ((← get).rest.length + 1)

/-- A tag. The sign alone is a tag of its own, and without a second sign it is the handle. -/
def tag : Reading TagText := do
  let rest := (← get).rest.drop 1
  let t ←
    if rest.head? == some '<' then do
      skip 2
      let suffix ← address
      demand (← isAhead 0 (· == '>'))
      skip 1
      pure ⟨none, suffix⟩
    else if (← wordEnds 1) then do
      skip 1
      pure ⟨none, ['!']⟩
    else if (rest.takeWhile fun c => !(c == ' ' || isBreak c)).contains '!' then do
      let handle ← tagHandle
      pure ⟨some handle, ← address⟩
    else do
      skip 1
      pure ⟨some ['!'], ← address⟩
  demand (← spaceEnds 0)
  return t

/-! ### Directives -/

/-- A number within the version of a version directive. -/
def versionNumber : Reading Nat := do
  let cs ← takeWhile isDecimal
  demand !cs.isEmpty
  return ofDigits 10 (cs.filterMap decimalValue?)

/-- The version in a version directive. -/
def versionDirective : Reading Directive := do
  skipWhile (· == ' ')
  let major ← versionNumber
  demand (← isAhead 0 (· == '.'))
  skip 1
  let minor ← versionNumber
  demand (← spaceEnds 0)
  return .version major minor

/-- The handle in a handle directive and what it stands for. -/
def handleDirective : Reading Directive := do
  skipWhile (· == ' ')
  let handle ← tagHandle
  demand (← isAhead 0 (· == ' '))
  skipWhile (· == ' ')
  let prefixed ← address
  demand (← spaceEnds 0)
  return .handle handle prefixed

/-- A directive, with the rest of its line. -/
def directive : Reading Directive := do
  skip 1
  let cs ← name
  demand (← spaceEnds 0)
  let d ←
    if cs = "YAML".toList then versionDirective
    else if cs = "TAG".toList then handleDirective
    else do
      skipWhile fun c => !isBreak c
      pure .reserved
  restOfLine
  return d

end Reading

end SqlRegexp.Yaml
