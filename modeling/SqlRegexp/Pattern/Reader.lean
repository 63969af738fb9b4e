import SqlRegexp.Pattern.Bracket

/-!
Reading a pattern: quantifiers, groups and sequences. What follows an opening parenthesis is read by
functions that are given the reader of a sequence, and sequences are read to a depth that the length
of the pattern bounds.
-/

namespace SqlRegexp.Pattern

open SqlRegexp.Text SqlRegexp.Unicode

namespace Reading

/-! ### Quantifiers -/

/-- The bounds of a repeat; the upper one may be missing. -/
abbrev Bounds := Nat × Option Nat

/-- The first count that is too large for a bound. -/
def boundLimit : Nat := 0xFFFFFFFF

/-- The number that digits give, if there are any. -/
def optionalNumeral (digits : List Char) : Reading (Option Nat) :=
  if digits.isEmpty then return none else some <$> numeral (readNatural digits)

/-- The bounds that digits give, each of them perhaps missing. -/
def boundsOf (start : Nat) (low high : List Char) : Reading (Option Bounds) := do
  let least := (← optionalNumeral low).getD 0
  let most ← optionalNumeral high
  if boundLimit ≤ least || most.any (boundLimit ≤ ·) then failAt .boundTooLarge start
  else if most.any (· < least) then failAt .boundsReversed start
  else return some (least, most)

/-- Reads the digits of an upper bound; without a comma there are only those of the lower one. -/
def upperDigits (comma : Bool) (low : List Char) : Reading (List Char) :=
  if comma then takeWhile isDecimal else return low

/-- Whether constraints of an approximate match may come next, as in `e<=1`, `2i+d<4` or
`1<=s<=3`. -/
def constraintsAhead : Reading Bool := do
  let here ← mark
  let _ ← takeWhile isDecimal
  let c ← next
  rewind here
  return c.any "<deis".toList.contains

/-- Reads bounds in braces, after the opening one; nothing if there are none. -/
def braceBounds : Reading (Option Bounds) := do
  let start ← pos
  let here ← mark
  let low ← takeWhile isDecimal
  let comma ← acceptChar ','
  let high ← upperDigits comma low
  if (low.isEmpty && !comma) || !(← acceptChar '}') then
    rewind here
    if (← constraintsAhead) then failAt .approximate start
    else return none
  else boundsOf start low high

/-- Reads the bounds that a quantifier character starts; nothing if it is a literal. -/
def bounds (c : Char) : Reading (Option Bounds) :=
  match c with
  | '?' => return some (0, some 1)
  | '*' => return some (0, none)
  | '+' => return some (1, none)
  | _ => braceBounds

/-- Applies a quantifier to a pattern, after reading what says in which order its rounds are tried.
It is dropped where it says nothing. -/
def quantified (n : Node Reference) (b : Bounds) : Reading (Node Reference) := do
  let here ← mark
  let wrap : Node Reference → Node Reference ← match (← next) with
    | some '?' => pure (Node.times .lazy b.1 b.2)
    | some '+' => pure fun n => .atomic (.times .greedy b.1 b.2 n)
    | _ =>
      rewind here
      pure (Node.times .greedy b.1 b.2)
  return if n.isTrivial || b == (1, some 1) then n else wrap n

/-! ### Options inside a pattern -/

def optionLetter? (c : Char) : Option Options :=
  match c with
  | 'a' => some { ascii := true }
  | 'b' => some { bestMatch := true }
  | 'e' => some { enhanceMatch := true }
  | 'f' => some { fullCase := true }
  | 'i' => some { ignoreCase := true }
  | 'm' => some { multiline := true }
  | 'p' => some { posix := true }
  | 's' => some { dotAll := true }
  | 'u' => some { unicode := true }
  | 'w' => some { word := true }
  | 'x' => some { verbose := true }
  | _ => none

def optionLetters : (limit : Nat) → Options → Reading Options
  | 0, o => return o
  | limit + 1, o => do
    let here ← mark
    match (← next).bind optionLetter? with
    | some p => optionLetters limit (o.union p)
    | none => rewind here; return o

/-- Reads the pattern inside a parenthesis up to its end, which is read too; the options set inside
end with it. -/
def closed {α : Type} (inside : Reading α) : Reading α :=
  enclosed do
    let a ← inside
    expect ')'
    return a

/-- Switches options on and others off: up to the end of the parenthesis around them, or for the
pattern that follows inside their own. Options that hold for the whole pattern have it read
again. -/
def optionScope (on off : Options) (alternatives : Reading (Node Reference)) :
    Reading (Option (Node Reference)) := do
  let s ← get
  if !off.global.isEmpty then fail .cannotTurnOff
  else if !(on.inter off).isEmpty then fail .flagOnAndOff
  -- options of the whole pattern: it is read again under them
  else if !(on.global.without s.globals).isEmpty then throw (.again (s.globals.union on.global))
  else if (← acceptChar ':') then
    enclosed do
      setOptions (s.options.adjustInside on off)
      let n ← alternatives
      expect ')'
      return some n
  else if (← acceptChar ')') then
    setOptions (s.options.adjust on off)
    return none
  else fail .unknownExtension

/-- Reads the letters of options to be switched on and off, and what they hold for. -/
def optionGroup (alternatives : Reading (Node Reference)) : Reading (Option (Node Reference)) := do
  let limit := (← get).total + 1
  let on ← optionLetters limit {}
  if (← acceptChar '-') then
    let off ← optionLetters limit {}
    if off.isEmpty then fail .noFlagsToTurnOff
    else optionScope on off alternatives
  else optionScope on {} alternatives

/-! ### Parentheses -/

/-- Reads the pattern and the end of the group opened last. -/
def groupOf (number : Nat) (alternatives : Reading (Node Reference)) : Reading (Node Reference) := do
  let body ← closed alternatives
  closeGroup
  return .group number body

/-- Opens a group and reads its pattern and end. -/
def groupBody (name : Option (List Char)) (beforeBody : Reading Unit)
    (alternatives : Reading (Node Reference)) : Reading (Node Reference) := do
  let number ← openGroup name
  beforeBody
  groupOf number alternatives

/-- Reads a named group, after its `<`. -/
def namedGroup (alternatives : Reading (Node Reference)) : Reading (Node Reference) := do
  match (← groupName false) with
  | .name cs => groupBody (some cs) (expect '>') alternatives
  | .number _ => fail .badGroupName

/-- Reads what is ahead of or behind a place. -/
def lookaround (behind positive : Bool) (alternatives : Reading (Node Reference)) :
    Reading (Node Reference) :=
  return .look behind positive (← closed alternatives)

/-- Reads a comment up to its end. -/
def comment : (limit : Nat) → Reading Unit
  | 0 => fail (.missing ')')
  | limit + 1 => do
    let here ← mark
    match (← nextRaw) with
    | some '\\' =>
      let _ ← nextRaw
      comment limit
    | some ')' | none =>
      rewind here
      expect ')'
    | some _ => comment limit

/-- Reads the two branches of a choice and its end. -/
def branches (sequence : Reading (Node Reference)) :
    Reading (Node Reference × Node Reference) := do
  let yes ← sequence
  let no ← if (← acceptChar '|') then sequence else pure .empty
  expect ')'
  return (yes, no)

/-- Reads a choice by what is ahead of or behind a place. -/
def choiceByLook (behind positive : Bool) (sequence alternatives : Reading (Node Reference)) :
    Reading (Node Reference) := do
  let test ← closed alternatives
  let (yes, no) ← branches sequence
  return .ifLook behind positive test yes no

/-- Reads the branches of a choice by a group; branches that are nothing leave nothing to choose. -/
def choiceFor (group : Reference) (sequence : Reading (Node Reference)) : Reading (Node Reference) := do
  let (yes, no) ← branches sequence
  return if yes.isTrivial && no.isTrivial then .empty else .ifGroup group yes no

def choiceByGroup (start : Nat) (sequence : Reading (Node Reference)) : Reading (Node Reference) := do
  let group ← groupName true
  expect ')'
  choiceFor ⟨group, start⟩ sequence

/-- Reads a choice by a group or by a lookaround, after its second parenthesis. -/
def conditional (sequence alternatives : Reading (Node Reference)) :
    Reading (Node Reference) := do
  let start ← pos
  let here ← mark
  let refuse : Reading (Node Reference) := do
    rewind here
    fail .expectedLookaround
  if (← next) == some '?' then
    match (← next) with
    | some '=' => choiceByLook false true sequence alternatives
    | some '!' => choiceByLook false false sequence alternatives
    | some '<' =>
      match (← next) with
      | some '=' => choiceByLook true true sequence alternatives
      | some '!' => choiceByLook true false sequence alternatives
      | _ => refuse
    | _ => refuse
  else
    rewind here
    enclosed (choiceByGroup start sequence)

/-- Reads branches that number their groups alike. -/
def resetBranches (sequence : Reading (Node Reference)) (first : Nat) :
    (limit : Nat) → Reading (List (Node Reference) × Nat)
  | 0 => fail .tooDeep
  | limit + 1 => do
    modify fun s => { s with groupCount := first }
    let n ← sequence
    let last := (← get).groupCount
    if (← acceptChar '|') then
      let (ns, most) ← resetBranches sequence first limit
      return (n :: ns, max last most)
    return ([n], last)

/-- Reads a branch reset, after its `|`. -/
def branchReset (sequence : Reading (Node Reference)) : Reading (Node Reference) := do
  let s ← get
  let (ns, most) ← resetBranches sequence s.groupCount (s.total + 1)
  modify fun s => { s with groupCount := most }
  expect ')'
  return .choice ns

/-- The group that digits name; a number too long to be read names no group. -/
def numberedGroup (digits : List Char) : GroupName :=
  match readNatural digits with
  | .ok n => .number n
  | .error _ => .name digits

/-- Reads the call of a numbered group, after its first digit. -/
def numberedCall (digits : List Char) (start : Nat) : Reading (Node Reference) := do
  let more ← takeWhile isDecimal
  expect ')'
  return .call ⟨numberedGroup (digits ++ more), start⟩

/-- Reads the call of a group counted from here, after its sign. -/
def relativeCall (forward : Bool) (start : Nat) : Reading (Node Reference) := do
  let digits ← takeWhile isDecimal
  if digits.isEmpty then fail .missingRelativeNumber
  else
    let offset ← numeral (readNatural digits)
    let count := (← get).groupCount
    if !forward && count < offset then fail .invalidRelativeNumber
    else
      expect ')'
      return .call ⟨.number (if forward then count + offset else count + 1 - offset), start⟩

/-- Reads the call of the whole pattern, after its letter. -/
def wholeCall (start : Nat) : Reading (Node Reference) := do
  expect ')'
  return .call ⟨.number 0, start⟩

def namedCall (start : Nat) : Reading (Node Reference) := do
  let group ← groupName false
  expect ')'
  return .call ⟨group, start⟩

/-- Reads what follows `(?P`. -/
def extension (alternatives : Reading (Node Reference)) : Reading (Node Reference) := do
  let start ← pos
  let here ← mark
  match (← next) with
  | some '<' => namedGroup alternatives
  | some '=' =>
    let group ← groupName true
    expect ')'
    if (← isOpen group) then failAt .openGroup start else backreference group start
  | some '>' | some '&' => namedCall start
  | _ =>
    rewind here
    fail .unknownExtension

/-- Reads what follows `(?<`: a named group, or what is behind a place. -/
def angled (alternatives : Reading (Node Reference)) : Reading (Node Reference) := do
  let here ← mark
  match (← next) with
  | some '=' => lookaround true true alternatives
  | some '!' => lookaround true false alternatives
  | _ =>
    rewind here
    namedGroup alternatives

/-- Reads what follows `(?`. An option group and a comment leave no pattern. -/
def questioned (sequence alternatives : Reading (Node Reference)) :
    Reading (Option (Node Reference)) := do
  let start ← pos
  let here ← mark
  let options : Reading (Option (Node Reference)) := do
    rewind here
    optionGroup alternatives
  match (← nextRaw) with
  | some '<' => some <$> angled alternatives
  | some '=' => some <$> lookaround false true alternatives
  | some '!' => some <$> lookaround false false alternatives
  | some 'P' => some <$> extension alternatives
  | some '#' =>
    comment ((← get).total + 1)
    return none
  | some '(' => some <$> conditional sequence alternatives
  | some '>' => (fun n => some (.atomic n)) <$> closed alternatives
  | some '|' => some <$> branchReset sequence
  | some 'R' => some <$> wholeCall start
  | some '&' => some <$> namedCall start
  | some c =>
    if isDecimal c then some <$> numberedCall [c] start
    else if (c == '+' || c == '-') && (← peek).any isDecimal then
      some <$> relativeCall (c == '+') start
    else options
  | none => options

/-- Whether a word after `(*` is a verb. Otherwise the star is a quantifier. -/
def isVerb (word : List Char) : Bool := word.head?.any fun c => (category c.toNat).isMajor 'L'

/-- Reads the end of a verb. -/
def verb (word : List Char) (start : Nat) : Reading (Node Reference) := do
  if word == "FAIL".toList || word == "F".toList then
    expect ')'
    return .fail
  else failAt .unknownVerb start

/-- Reads what follows `(*`. -/
def starred (alternatives : Reading (Node Reference)) (here : List Char) : Reading (Node Reference) := do
  let start ← pos
  let word ← takeWhile isGroupNameChar
  if isVerb word then verb word start
  else
    rewind here
    groupBody none (pure ()) alternatives

/-- Reads what follows an opening parenthesis. -/
def parenthesis (sequence alternatives : Reading (Node Reference)) :
    Reading (Option (Node Reference)) := do
  let here ← mark
  match (← nextRaw) with
  | some '?' => questioned sequence alternatives
  | some '*' => some <$> starred alternatives here
  | _ =>
    rewind here
    some <$> groupBody none (pure ()) alternatives

/-! ### Sequences -/

/-- The pattern of a character that has a meaning of its own under the options. -/
def placeChar (o : Options) (c : Char) : Node Reference :=
  match c with
  | '^' => .assertion (if o.multiline then .startOfLine o.word else .startOfText)
  | '$' => .assertion (if o.multiline then .endOfLine o.word else .endOfLastLine o.word)
  | _ => .one (if o.dotAll then .any else if o.word then .notLineEnd else .notLineFeed)

/-- The elements of a sequence read so far, backwards. Nothing in place of an element is where a
quantifier has nothing to apply to. -/
abbrev Items := List (Option (Node Reference))

/-- Applies a quantifier, which begins at `start`, to the element before it. -/
def repeated (start : Nat) (b : Bounds) : Items → Reading Items
  | some item :: rest => return none :: some (← quantified item b) :: rest
  | [none] | [] => failAt .nothingToRepeat start
  | none :: _ => failAt .multipleRepeat start

/-- Reads an element, or a quantifier of the one before it, of which the first character has been
read at `start`. Options set here change the casing of the elements that follow. -/
def element (sequence alternatives : Reading (Node Reference)) (start : Nat) (c : Char)
    (k : Casing) (items : Items) : Reading (Casing × Items) := do
  match c with
  | '\\' => return (k, some (← escape) :: items)
  | '(' =>
    match (← parenthesis sequence alternatives) with
    | some n => return (k, some n :: items)
    | none => return (← casing, items)
  | '[' => return (k, some (← bracket) :: items)
  | c =>
    if c == '.' || c == '^' || c == '$' then
      return (k, some (placeChar (← get).options c) :: items)
    else if c == '?' || c == '*' || c == '+' || c == '{' then
      match (← bounds c) with
      | none => return (k, some (.one (.char c.toNat true k)) :: items)
      | some b => return (k, ← repeated start b items)
    else return (k, some (.one (.char c.toNat true k)) :: items)

/-- Reads the elements of a sequence up to its end. -/
def elements (sequence alternatives : Reading (Node Reference)) :
    (limit : Nat) → Casing → Items → Reading Items
  | 0, _, _ => fail .tooDeep
  | limit + 1, k, items => do
    let start ← pos
    let here ← mark
    match (← next) with
    | none | some ')' | some '|' =>
      rewind here
      return items
    | some c =>
      let (k, items) ← element sequence alternatives start c k items
      elements sequence alternatives limit k items

/-- Reads alternatives, given the reader of one. -/
def alternativesOf (sequence : Reading (Node Reference)) :
    (limit : Nat) → Reading (List (Node Reference))
  | 0 => fail .tooDeep
  | limit + 1 => do
    let n ← sequence
    if (← acceptChar '|') then return n :: (← alternativesOf sequence limit)
    return [n]

/-- Reads alternatives as one pattern. -/
def choiceOf (sequence : Reading (Node Reference)) : Reading (Node Reference) := do
  return .choice (← alternativesOf sequence ((← get).total + 1))

/-- Reads a sequence whose parentheses are nested up to a depth. -/
def sequence : (depth : Nat) → Reading (Node Reference)
  | 0 => fail .tooDeep
  | depth + 1 => do
    let s ← get
    let inner := sequence depth
    let items ← elements inner (choiceOf inner) (s.total + 1) s.options.casing [none]
    return .ofList (items.reverse.filterMap id)

def whole : Reading (Node Reference) := do
  let n ← choiceOf (sequence ((← get).total + 1))
  if !(← get).visible.isEmpty then fail .unbalancedParenthesis
  return n

end Reading

end SqlRegexp.Pattern
