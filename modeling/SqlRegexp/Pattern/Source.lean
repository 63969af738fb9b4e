import SqlRegexp.Pattern.Error
import SqlRegexp.Pattern.Options
import SqlRegexp.Unicode.Identifier

/-!
The text of a pattern while it is read, with what has been learnt about its groups so far. Where
blanks are ignored, so are comments, from `#` to the end of the line.
-/

namespace SqlRegexp.Pattern

open SqlRegexp.Text SqlRegexp.Unicode

/-- How a pattern's text names a group. -/
inductive GroupName where
  | number (n : Nat)
  | name (cs : List Char)
deriving DecidableEq, Repr

/-- A reference to a group and the place to complain about. -/
structure Reference where
  group : GroupName
  pos : Nat
deriving DecidableEq, Repr

/-- How a pattern has been read up to a place. -/
structure Source where
  /-- What is left to read. -/
  rest : List Char
  /-- The length of the whole pattern. -/
  total : Nat
  /-- Whether blanks and comments are ignored here. -/
  skipping : Bool
  /-- The options in force here. -/
  options : Options
  /-- The options that hold for the whole pattern. -/
  globals : Options
  /-- The number of the last group opened. -/
  groupCount : Nat := 0
  /-- The numbers of the named groups. -/
  names : List (List Char × Nat) := []
  /-- The groups that are open, the innermost first. -/
  opened : List Nat := []
  /-- The groups in the order of their openings. -/
  openings : List Nat := []

/-- Why reading stops. -/
inductive Refusal where
  | malformed (cause : Cause) (pos : Nat)
  | numeral (e : NumeralError)
  /-- An option for the whole pattern has turned up: the pattern is to be read again with it. -/
  | again (globals : Options)

/-- A step of reading. -/
abbrev Reading := StateT Source (Except Refusal)

namespace Source

/-- The place reached, counted from 0. -/
def pos (s : Source) : Nat := s.total - s.rest.length

/-- The number of a named group. -/
def number? (s : Source) (name : List Char) : Option Nat := s.names.lookup name

/-- The number of a group that is opened next. Numbers that named groups hold are passed over by
named groups. -/
def freeNumber (s : Source) (named : Bool) : Nat :=
  let taken := s.names.map Prod.snd
  let ahead := (List.range (taken.length + 1)).map (s.groupCount + 1 + ·)
  (ahead.find? fun n => !named || !taken.contains n).getD (s.groupCount + 1)

/-- What is left of a text after its ignored blanks and comments. -/
def skipIgnored : (inComment : Bool) → List Char → List Char
  | _, [] => []
  | true, c :: cs => if c = '\n' then skipIgnored false cs else skipIgnored true cs
  | false, c :: cs =>
    if isBlank c.toNat then skipIgnored false cs
    else if c = '#' then skipIgnored true cs
    else c :: cs

/-- What is left to read after blanks and comments, where these are ignored. -/
def visible (s : Source) : List Char := if s.skipping then skipIgnored false s.rest else s.rest

/-- Characters that pass a test, taken from the front of a text; ignored blanks and comments are
passed over. -/
def gather (p : Char → Bool) : (inComment : Bool) → List Char → List Char × List Char
  | _, [] => ([], [])
  | true, c :: cs => if c = '\n' then gather p false cs else gather p true cs
  | false, c :: cs =>
    if isBlank c.toNat then gather p false cs
    else if c = '#' then gather p true cs
    else if p c then
      let more := gather p false cs
      (c :: more.1, more.2)
    else ([], c :: cs)

end Source

namespace Reading

/-- Refuses the pattern at a place. -/
def failAt {α : Type} (cause : Cause) (pos : Nat) : Reading α := throw (.malformed cause pos)

/-- The place reached. -/
def pos : Reading Nat := return (← get).pos

/-- Refuses the pattern at the place reached. -/
def fail {α : Type} (cause : Cause) : Reading α := do failAt cause (← pos)

/-- What is left to read, to go back to. -/
def mark : Reading (List Char) := return (← get).rest

/-- Goes back to what was left to read. -/
def rewind (rest : List Char) : Reading Unit := modify fun s => { s with rest := rest }

/-- The next character, ignored or not; nothing at the end. -/
def nextRaw : Reading (Option Char) := do
  match (← mark) with
  | [] => return none
  | c :: cs => rewind cs; return some c

/-- The next character that is not ignored; nothing at the end. -/
def next : Reading (Option Char) := do
  match (← get).visible with
  | [] => rewind []; return none
  | c :: cs => rewind cs; return some c

/-- The next character that is not ignored, which stays to be read. -/
def peek : Reading (Option Char) := return (← get).visible.head?

/-- Reads a text if it comes next. -/
def accept (cs : List Char) : Reading Bool := do
  let seen := (← get).visible
  if cs.isPrefixOf seen then
    rewind (seen.drop cs.length)
    return true
  return false

/-- Reads a character if it comes next. -/
def acceptChar (c : Char) : Reading Bool := accept [c]

/-- Reads a character that has to come next. -/
def expect (c : Char) : Reading Unit := do
  if !(← acceptChar c) then fail (.missing c)

/-- Reads the characters that pass a test. -/
def takeWhile (p : Char → Bool) : Reading (List Char) := do
  let s ← get
  if s.skipping then
    let read := Source.gather p false s.rest
    rewind read.2
    return read.1
  else
    rewind (s.rest.dropWhile p)
    return s.rest.takeWhile p

/-- Reads the characters that pass a test; blanks and comments are never ignored. -/
def takeWhileRaw (p : Char → Bool) : Reading (List Char) := do
  let rest ← mark
  rewind (rest.dropWhile p)
  return rest.takeWhile p

/-- Reads with blanks and comments taken as they are. -/
def verbatim {α : Type} (r : Reading α) : Reading α := do
  let skipping := (← get).skipping
  modify fun s => { s with skipping := false }
  let a ← r
  modify fun s => { s with skipping := skipping }
  return a

/-- Puts options in force. -/
def setOptions (o : Options) : Reading Unit :=
  modify fun s => { s with options := o, skipping := o.verbose }

/-- Reads a bracket's inside, after which the options are what they were before. -/
def enclosed {α : Type} (r : Reading α) : Reading α := do
  let o := (← get).options
  let a ← r
  setOptions o
  return a

/-- Reads and goes back to the start if reading fails on malformed text. -/
def attempt {α : Type} (r : Reading α) : Reading (Option α) := do
  let s ← get
  match r.run s with
  | .ok (a, t) => set t; return some a
  | .error (.malformed ..) => return none
  | .error e => throw e

def numeral {α : Type} : Except NumeralError α → Reading α
  | .ok a => return a
  | .error e => throw (.numeral e)

/-- Opens a group and gives it a number: the next one that is free, or the number of an earlier
group of the same name. -/
def openGroup (name : Option (List Char)) : Reading Nat := do
  let s ← get
  match name.bind s.number? with
  | some n =>
    -- a group inside one of its own name does not count as a second opening
    let again := if s.opened.contains n then s.openings else n :: s.openings
    set { s with opened := n :: s.opened, openings := again }
    return n
  | none =>
    let n := s.freeNumber name.isSome
    let names := match name with
      | some cs => (cs, n) :: s.names
      | none => s.names
    set { s with
      groupCount := n, names := names, opened := n :: s.opened, openings := n :: s.openings }
    return n

/-- Closes the group opened last. -/
def closeGroup : Reading Unit := modify fun s => { s with opened := s.opened.tail }

def isOpen (group : GroupName) : Reading Bool := do
  let s ← get
  match group with
  | .number n => return s.opened.contains n
  | .name cs => return (s.number? cs).any s.opened.contains

/-- Whether a character belongs to the name of a group. -/
def isGroupNameChar (c : Char) : Bool := c != ')' && c != '>'

/-- The name of a group that characters make up. A number counts as a name where `numeric` is set;
it is at least 1. -/
def nameFrom (numeric : Bool) (cs : List Char) : Reading GroupName := do
  if cs.isEmpty then fail .missingGroupName
  else if isAllDigits cs then
    if !numeric then fail .badGroupName
    else
      let n ← numeral (readNatural cs)
      if n < 1 then fail .badGroupName else return .number n
  else if !isIdentifier cs then fail .badGroupName
  else return .name cs

/-- Reads the name of a group, up to `)` or `>`. -/
def groupName (numeric : Bool) : Reading GroupName := do
  nameFrom numeric (← takeWhile isGroupNameChar)

end Reading

end SqlRegexp.Pattern
