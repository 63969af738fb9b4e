import SqlRegexp.Text.Numeral
import SqlRegexp.Text.RealNumeral
import SqlRegexp.Value.RealLayout

/-!
The parts of a log record, and what a template may make of them: a part is shown as it is, or
quoted, or taken for a number or a character if it is one.
-/

namespace SqlRegexp.Logging

open SqlRegexp.Text SqlRegexp.Unicode

/-- The numbers that a value of some kind turns itself into. -/
structure Numbers where
  /-- The whole number that is left when the rest is cut off. -/
  cut : Option Int := none
  /-- The whole number that it is. -/
  whole : Option Int := none
  real : Option Float := none

/-- A part of a record. -/
inductive Part where
  | none
  | boolean (b : Bool)
  | integer (n : Int)
  | real (x : Float)
  | text (cs : List Char)
  /-- A value of another kind, with the name of the kind, as it is shown and as it is quoted. -/
  | other (kind : String) (plain quoted : List Char) (numbers : Numbers)

/-- Why a template cannot be filled in. -/
inductive TemplateError where
  /-- The letter of a conversion has no meaning. -/
  | unsupported (c : Char) (index : Nat)
  /-- The template ends within a conversion. -/
  | incomplete
  /-- The template ends within a name. -/
  | incompleteName
  /-- A record has no such part. -/
  | unknownPart (name : List Char)
  /-- A conversion has no part. -/
  | noPart
  /-- The part for a width, or for a number of digits, is no whole number. -/
  | widthNotWhole
  | widthTooBig
  | digitsTooMany
  /-- The part for a width, or for a number of digits, is out of range. -/
  | outOfRange (range : String)
  /-- A whole number is to have more digits than there may be. -/
  | wholeTooLong
  /-- A part is no number, or no whole one. -/
  | notNumber (letter : Char) (needed kind : String)
  | notReal (kind : String)
  | notChar
  | charOutOfRange
  | cutNotANumber
  | cutInfinity
  | tooLargeForReal
  | numeral (e : NumeralError)
deriving DecidableEq, Repr

namespace TemplateError

def message : TemplateError → String
  | unsupported c index =>
    "unsupported format character '" ++ (if 31 ≤ c.toNat ∧ c.toNat ≤ 126 then String.singleton c
      else "?") ++ "' (0x" ++ String.ofList (Nat.toDigits 16 c.toNat) ++ ") at index "
      ++ toString index
  | incomplete => "incomplete format"
  | incompleteName => "incomplete format key"
  | unknownPart name => "Formatting field not found in record: " ++ quotedString name
  | noPart => "not enough arguments for format string"
  | widthNotWhole => "* wants int"
  | widthTooBig => "width too big"
  | digitsTooMany => "precision too big"
  | outOfRange range => "Python int too large to convert to C " ++ range
  | wholeTooLong => "precision too large"
  | notNumber letter needed kind =>
    "%" ++ String.singleton letter ++ " format: " ++ needed ++ " is required, not " ++ kind
  | notReal kind => "must be real number, not " ++ kind
  | notChar => "%c requires int or char"
  | charOutOfRange => "%c arg not in range(0x110000)"
  | cutNotANumber => "cannot convert float NaN to integer"
  | cutInfinity => "cannot convert float infinity to integer"
  | tooLargeForReal => "int too large to convert to float"
  | numeral e => e.message

/-- The word for the kind of a failure, as reports show it. -/
def kindName : TemplateError → String
  | noPart | widthNotWhole | notNumber _ _ _ | notReal _ | notChar => "TypeError"
  | outOfRange _ | wholeTooLong | charOutOfRange | cutInfinity | tooLargeForReal => "OverflowError"
  | _ => "ValueError"

end TemplateError

namespace Part

def kindName : Part → String
  | none => "NoneType"
  | boolean _ => "bool"
  | integer _ => "int"
  | real _ => "float"
  | text _ => "str"
  | other kind _ _ _ => kind

/-! ### Shown -/

/-- A whole number in Western digits, of which there may not be too many. -/
def shownInteger (n : Int) : Except TemplateError (List Char) :=
  let ds := Nat.toDigits 10 n.natAbs
  if digitLimit < ds.length then .error (.numeral .tooLarge)
  else .ok (if n < 0 then '-' :: ds else ds)

def plain : Part → Except TemplateError (List Char)
  | none => .ok "None".toList
  | boolean b => .ok (if b then "True" else "False").toList
  | integer n => shownInteger n
  | real x => .ok (writeReal x)
  | text cs => .ok cs
  | other _ plain _ _ => .ok plain

/-- A part as it is shown in quotes. -/
def shown : Part → Except TemplateError (List Char)
  | text cs => .ok (quoted cs)
  | other _ _ quoted _ => .ok quoted
  | p => p.plain

/-- A text in which all but the first characters of Unicode are written as escapes. -/
def escaped (cs : List Char) : List Char :=
  cs.flatMap fun c => if c.toNat < 0x80 then [c] else escapeCode c.toNat

/-! ### Numbers -/

/-- The whole number that a part is where nothing else will do. -/
def integer? : Part → Option Int
  | boolean b => some (if b then 1 else 0)
  | integer n => some n
  | _ => Option.none

/-- A double without its fraction. -/
def cutOff (x : Float) : Except TemplateError Int :=
  if x.isNaN then .error .cutNotANumber
  else if x.isInf then .error .cutInfinity
  else
    let r := Rounding.ofBits (x.toBits.toNat % 0x8000000000000000)
    .ok (if x < 0.0 then -((r.num / r.den : Nat) : Int) else (r.num / r.den : Nat))

/-- The whole number that is left of a part when the rest is cut off. -/
def cut (letter : Char) (p : Part) : Except TemplateError Int :=
  let refused := Except.error (.notNumber letter "a real number" p.kindName)
  match p with
  | real x => cutOff x
  | other _ _ _ ns => ns.cut.elim refused .ok
  | p => p.integer?.elim refused .ok

/-- The whole number that a part counts as. -/
def whole (letter : Char) (p : Part) : Except TemplateError Int :=
  let refused := Except.error (.notNumber letter "an integer" p.kindName)
  match p with
  | other _ _ _ ns => ns.whole.elim refused .ok
  | p => p.integer?.elim refused .ok

/-- The real number that a part counts as. -/
def double (p : Part) : Except TemplateError Float :=
  let refused := Except.error (.notReal p.kindName)
  match p with
  | real x => .ok x
  | other _ _ _ ns => ns.real.elim refused .ok
  | p => p.integer?.elim refused fun n =>
    let x := nearestDouble n.natAbs 0
    if x.isInf then .error .tooLargeForReal else .ok (if n < 0 then -x else x)

/-- The character that a part is, or whose number it is. One that stands for no character by itself
is written as an escape. -/
def char : Part → Except TemplateError (List Char)
  | text [c] => .ok [c]
  | text _ | none | real _ => .error .notChar
  | p =>
    match p with
    | other _ _ _ ns => numbered ns.whole
    | p => numbered p.integer?
where
  numbered : Option Int → Except TemplateError (List Char)
    | Option.none => .error .notChar
    | some n =>
      if n < 0 ∨ 0x110000 ≤ n then .error .charOutOfRange
      else if 0xD800 ≤ n ∧ n < 0xE000 then .ok (escapeCode n.toNat)
      else .ok [Char.ofNat n.toNat]

end Part

end SqlRegexp.Logging
