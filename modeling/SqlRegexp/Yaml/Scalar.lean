import SqlRegexp.Text.Base64
import SqlRegexp.Text.Numeral
import SqlRegexp.Text.Pieces
import SqlRegexp.Text.RealNumeral
import SqlRegexp.Unicode.Lowercase
import SqlRegexp.Value.Basic
import SqlRegexp.Yaml.Kind

/-!
The values of scalars of each kind, and the reasons why a scalar has none.
-/

namespace SqlRegexp.Yaml

open SqlRegexp.Text SqlRegexp.Unicode

/-- Why a node has no value. -/
inductive ContentError where
  /-- It breaks the rules of its kind, or its kind is not known. -/
  | malformed
  | numeral (e : NumeralError)
  /-- The text of a real number is none. -/
  | notReal (text : List Char)
  /-- A date does not exist. -/
  | date (f : DateFault)
  /-- The text of a number is empty. -/
  | emptyNumber
  /-- A word is no truth value. -/
  | unknownTruth (word : List Char)
  /-- A text has not the form of a date. -/
  | notADate
  /-- The weight of a part of a number in sixtieths is out of range. -/
  | weightTooLarge
  /-- A node stands for itself, by way of the default values of mappings. -/
  | endless
deriving DecidableEq, Repr

namespace Scalar

def truth (cs : List Char) : Except ContentError Value :=
  let word := lowered cs
  let isWord := fun (w : String) => word == w.toList
  if ["yes", "true", "on"].any isWord then .ok (.boolean true)
  else if ["no", "false", "off"].any isWord then .ok (.boolean false)
  else .error (.unknownTruth word)

/-- A text without underscores. -/
def withoutJoiners (cs : List Char) : List Char := cs.filter (· ≠ '_')

/-- A text that must not be empty. -/
def nonempty (cs : List Char) : Except ContentError (List Char) :=
  if cs.isEmpty then .error .emptyNumber else .ok cs

/-- The number with given parts, the last of which counts ones and each other sixty times more than
the one after it. -/
def ofSixtieths (parts : List Int) : Int := parts.foldl (fun n d => n * 60 + d) 0

/-- The size of a whole number: binary, hexadecimal, octal, in sixtieths or decimal. -/
def wholeSize (cs : List Char) : Except NumeralError Int :=
  match cs with
  | ['0'] => .ok 0
  | '0' :: 'b' :: ds => readIntegerIn 2 ds
  | '0' :: 'x' :: ds => readIntegerIn 16 ds
  | '0' :: _ => readIntegerIn 8 cs
  | _ =>
    if cs.contains ':' then do return ofSixtieths (← (pieces ':' cs).mapM readInteger)
    else readInteger cs

/-- The whole number of a text. -/
def whole (cs : List Char) : Except ContentError Value := do
  let (negative, size) := splitSign (withoutJoiners cs)
  let n ← (wholeSize (← nonempty size)).mapError .numeral
  return .integer (if negative then -n else n)

/-- The real number of a text; digits may belong to any script and blanks may be around it. -/
def plainReal (cs : List Char) : Except ContentError Float :=
  let western := (trimBlanks cs).map fun c =>
    match digitOf? c with
    | some d => Char.ofNat ('0'.toNat + d)
    | none => c
  match readReal? western with
  | some x => .ok x
  | none => .error (.notReal cs)

/-- The sum of parts in sixtieths, the last first, with the power of sixty of the next. -/
def sumSixtieths : (sum : Float) → (weight : Nat) → List Float → Except ContentError Float
  | sum, _, [] => .ok sum
  | sum, weight, d :: ds =>
    let w := nearestDouble weight 0
    if w.isInf then .error .weightTooLarge else sumSixtieths (sum + d * w) (weight * 60) ds

/-- The size of a real number. -/
def realSize (cs : List Char) : Except ContentError Float :=
  if cs = ".inf".toList then .ok infinity
  else if cs = ".nan".toList then .ok notANumber
  else if cs.contains ':' then do
    sumSixtieths 0.0 1 (← (pieces ':' cs).mapM plainReal).reverse
  else plainReal cs

/-- The real number of a text. -/
def real (cs : List Char) : Except ContentError Value := do
  let (negative, size) := splitSign (lowered (← nonempty (withoutJoiners cs)))
  let x ← realSize size
  return .real (if negative then -x else x)

/-- The bytes of a text in Base64, which must be ASCII. -/
def binary (cs : List Char) : Except ContentError Value :=
  if cs.all (fun c => c.toNat < 128) then
    match Base64.decode cs with
    | some bs => .ok (.bytes bs)
    | none => .error .malformed
  else .error .malformed

def date (cs : List Char) : Except ContentError Value :=
  match Date.read? (Kind.withoutLineFeed cs) with
  | none => .error .notADate
  | some d =>
    match d.fault? with
    | none => .ok (.other none)
    | some f => .error (.date f)

def value (k : Kind) (cs : List Char) : Except ContentError Value :=
  match k with
  | .null => .ok .null
  | .truth => truth cs
  | .integer => whole cs
  | .real => real cs
  | .binary => binary cs
  | .date => date cs
  | .text => .ok (.text cs)
  | _ => .error .malformed

end Scalar

end SqlRegexp.Yaml
