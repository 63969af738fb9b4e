import SqlRegexp.Logging.Part

/-!
Templates of lines. A per cent sign with a name in parentheses stands for a part of a record; what
comes after the name says how the part is laid out. A template is filled in from left to right, and
the first thing that is wrong decides.
-/

namespace SqlRegexp.Logging

open SqlRegexp.Text

/-- How a part is laid out. -/
structure Conversion where
  /-- The part stands at the left of its width. -/
  left : Bool := false
  /-- A number that is not negative has a plus sign. -/
  plus : Bool := false
  /-- A number that is not negative has a blank for a sign. -/
  blank : Bool := false
  /-- A whole number shows its base, and a real one keeps what says nothing. -/
  full : Bool := false
  /-- A number is filled up with zeros. -/
  zero : Bool := false
  width : Nat := 0
  digits : Option Nat := none
deriving DecidableEq, Repr

namespace Conversion

/-! ### Laying out -/

def setText (s : Conversion) (cs : List Char) : List Char :=
  if s.left then padRight s.width cs else padLeft ' ' s.width cs

/-- A character, which counts as one even if it is written as an escape. -/
def setChar (s : Conversion) (cs : List Char) : List Char :=
  { s with width := s.width + (cs.length - 1) }.setText cs

/-- A number behind its sign and the sign of its base. -/
def setNumber (s : Conversion) (isNegative : Bool) (base digits : List Char) : List Char :=
  let sign :=
    if isNegative then ['-'] else if s.plus then ['+'] else if s.blank then [' '] else []
  let start := sign ++ base
  if s.zero && !s.left then start ++ padLeft '0' (s.width - start.length) digits
  else s.setText (start ++ digits)

/-- The most digits that a whole number may be asked to have. -/
def mostDigits : Nat := 0x7FFFFFFC

/-- A whole number with at least as many digits as are asked for. -/
def setWhole (s : Conversion) (n : Int) (base : Nat) (letter : Char) : Except TemplateError (List Char) :=
  if s.digits.any (mostDigits < ·) then .error .wholeTooLong
  else
    let ds := Nat.toDigits base n.natAbs
    if base = 10 ∧ digitLimit < ds.length then .error (.numeral .tooLarge)
    else
      let ds := padLeft '0' (s.digits.getD 0) ds
      let sign := if s.full && base != 10 then ['0', letter] else []
      .ok (s.setNumber (decide (n < 0)) sign (if letter = 'X' then ds.map Char.toUpper else ds))

/-- A real number, with six digits unless others are asked for. -/
def setReal (s : Conversion) (x : Float) (letter : Char) : List Char :=
  let layout : RealLayout := ⟨s.digits.getD 6, s.full⟩
  let ds := RealLayout.write
    (if letter.toLower = 'f' then layout.writeOut
      else if letter.toLower = 'e' then layout.writePower else layout.writeShort) x
  let isNegative := decide (0x8000000000000000 ≤ x.toBits.toNat) && !x.isNaN
  s.setNumber isNegative [] (if letter.isUpper then ds.map Char.toUpper else ds)

/-- A text of which no more characters are shown than are asked for. -/
def setShown (s : Conversion) (cs : List Char) : List Char := s.setText (s.digits.elim cs cs.take)

/-- What a letter makes of a part; `index` is where the letter stands. -/
def apply (s : Conversion) (letter : Char) (index : Nat) (p : Part) : Except TemplateError (List Char) :=
  match letter with
  | 's' => s.setShown <$> p.plain
  | 'r' => s.setShown <$> p.shown
  | 'a' => (s.setShown ∘ Part.escaped) <$> p.shown
  | 'd' | 'i' | 'u' => do s.setWhole (← p.cut letter) 10 letter
  | 'o' => do s.setWhole (← p.whole letter) 8 letter
  | 'x' | 'X' => do s.setWhole (← p.whole letter) 16 letter
  | 'e' | 'E' | 'f' | 'F' | 'g' | 'G' => return s.setReal (← p.double) letter
  | 'c' => s.setChar <$> p.char
  | c => .error (.unsupported c index)

end Conversion

/-! ### Reading -/

namespace Template

/-- What is ahead in a template, and the part that has been named and not yet been used. -/
structure Rest where
  text : List Char
  part : Option Part

/-- The name in parentheses ahead, in which parentheses come in pairs, and what follows it. -/
def splitName? : (inner : Nat) → List Char → Option (List Char × List Char)
  | _, [] => none
  | inner, c :: cs =>
    if c = ')' then
      match inner with
      | 0 => some ([], cs)
      | inner + 1 => (splitName? inner cs).map fun p => (c :: p.1, p.2)
    else
      (splitName? (if c = '(' then inner + 1 else inner) cs).map fun p => (c :: p.1, p.2)

/-- Looks up the part whose name is ahead. Without a name there is none: the part named last has been
used already. -/
def readName (part? : List Char → Option Part) : List Char → Except TemplateError Rest
  | '(' :: cs =>
    match splitName? 0 cs with
    | none => .error .incompleteName
    | some (name, rest) =>
      match part? name with
      | none => .error (.unknownPart name)
      | some p => .ok ⟨rest, some p⟩
  | cs => .ok ⟨cs, none⟩

def readSigns : List Char → Conversion → Conversion × List Char
  | [], s => (s, [])
  | c :: cs, s =>
    if c = '-' then readSigns cs { s with left := true }
    else if c = '+' then readSigns cs { s with plus := true }
    else if c = ' ' then readSigns cs { s with blank := true }
    else if c = '#' then readSigns cs { s with full := true }
    else if c = '0' then readSigns cs { s with zero := true }
    else (s, c :: cs)

/-- A number ahead. A star stands for the part that has been named, which is used by it. -/
def readNumber (most : Nat) (tooBig : TemplateError) (range : String) (r : Rest) :
    Except TemplateError (Option Int × Rest) :=
  match r.text with
  | '*' :: cs =>
    match r.part with
    | none => .error .noPart
    | some p =>
      match p.integer? with
      | none => .error .widthNotWhole
      | some n =>
        if n < -(most + 1 : Int) ∨ (most : Int) < n then .error (.outOfRange range)
        else .ok (some n, ⟨cs, none⟩)
  | cs =>
    let ds := cs.takeWhile isDecimal
    let n := ofDigits 10 (ds.filterMap decimalValue?)
    if most < n then .error tooBig
    else .ok (if ds.isEmpty then none else some n, ⟨cs.drop ds.length, r.part⟩)

/-- The width ahead; a negative one puts the part at the left. -/
def readWidth (s : Conversion) (r : Rest) : Except TemplateError (Conversion × Rest) := do
  let (n, r) ← readNumber 0x7FFFFFFFFFFFFFFF .widthTooBig "ssize_t" r
  let n := n.getD 0
  return ({ s with width := n.natAbs, left := s.left || decide (n < 0) }, r)

/-- The number of digits ahead, after a point. -/
def readDigits (s : Conversion) (r : Rest) : Except TemplateError (Conversion × Rest) :=
  match r.text with
  | '.' :: cs => do
    let (n, r) ← readNumber 0x7FFFFFFF .digitsTooMany "int" { r with text := cs }
    return ({ s with digits := some (n.getD 0).toNat }, r)
  | _ => .ok (s, r)

/-- A letter that says nothing is passed. -/
def skipSize : List Char → List Char
  | [] => []
  | c :: cs => if c = 'h' ∨ c = 'l' ∨ c = 'L' then cs else c :: cs

/-- The part that a conversion gives way to, and what follows the conversion; `size` is the length of
the whole template. -/
def convert (part? : List Char → Option Part) (size : Nat) (cs : List Char) :
    Except TemplateError (List Char × List Char) := do
  let r ← readName part? cs
  let (s, text) := readSigns r.text {}
  let (s, r) ← readWidth s { r with text }
  let (s, r) ← readDigits s r
  match skipSize r.text with
  | [] => throw .incomplete
  | letter :: rest =>
    match r.part with
    | none => throw .noPart
    | some p => return (← s.apply letter (size - rest.length - 1) p, rest)

/-- What a per cent sign gives way to, given what follows it, and what is left of that. -/
def afterSign (part? : List Char → Option Part) (size : Nat) :
    List Char → Except TemplateError (List Char × List Char)
  | [] => .error .incomplete
  | '%' :: cs => .ok (['%'], cs)
  | cs => convert part? size cs

def fillFrom (part? : List Char → Option Part) (size : Nat) :
    (limit : Nat) → List Char → Except TemplateError (List Char)
  | 0, _ => .ok []
  | _, [] => .ok []
  | limit + 1, c :: cs =>
    if c = '%' then do
      let (shown, rest) ← afterSign part? size cs
      return shown ++ (← fillFrom part? size limit rest)
    else do return c :: (← fillFrom part? size limit cs)

/-- A template filled in with parts. The first conversion in it must have a name. -/
def fill (part? : List Char → Option Part) (template : List Char) : Except TemplateError (List Char) :=
  fillFrom part? template.length template.length template

end Template

end SqlRegexp.Logging
