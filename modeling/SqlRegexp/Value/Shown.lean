import SqlRegexp.Text.Quoted
import SqlRegexp.Text.ShortestDecimal
import SqlRegexp.Value.Basic

/-!
How values are written in results and messages.
-/

namespace SqlRegexp

open SqlRegexp.Text

/-- The layout of real numbers: powers of ten outside the bounds are written with an exponent of at
least two digits, and a number without a fraction ends in `.0`. -/
structure RealFormat where
  /-- The least power of the leading digit that is written out. -/
  least : Int
  /-- The first power of the leading digit that is not written out. -/
  most : Int

/-- Real numbers are written out from `0.0001` up to below `1e16`. -/
def realFormat : RealFormat := ⟨-4, 16⟩

namespace RealFormat

/-- An exponent with its sign and at least two digits. -/
def exponent (e : Int) : List Char :=
  let ds := Nat.toDigits 10 e.natAbs
  (if e < 0 then '-' else '+') :: (if ds.length < 2 then '0' :: ds else ds)

/-- Digits without the zeros at their end, of which one digit always stays, and the number of
zeros. -/
def trimZeros : (limit : Nat) → (digits : Nat) → (dropped : Nat) → Nat × Nat
  | 0, n, k => (n, k)
  | limit + 1, n, k => if n % 10 = 0 ∧ 10 ≤ n then trimZeros limit (n / 10) (k + 1) else (n, k)

/-- A positive decimal in the layout. -/
def write (f : RealFormat) (d : Decimal) : List Char :=
  let trimmed := trimZeros 400 d.digits 0
  let ds := Nat.toDigits 10 trimmed.1
  let last := d.exponent + trimmed.2
  let lead := last + (ds.length - 1 : Nat)
  if lead < f.least ∨ f.most ≤ lead then
    let tail := ds.drop 1
    ds.take 1 ++ (if tail.isEmpty then [] else '.' :: tail) ++ 'e' :: exponent lead
  else if 0 ≤ last then ds ++ List.replicate last.toNat '0' ++ ['.', '0']
  else if 0 ≤ lead then
    let whole := lead.toNat + 1
    ds.take whole ++ '.' :: ds.drop whole
  else '0' :: '.' :: List.replicate (-lead - 1).toNat '0' ++ ds

end RealFormat

/-- A real number as it is written: the shortest digits that read back, or `inf` or `nan`. -/
def writeReal (x : Float) : List Char :=
  let bits := x.toBits.toNat
  let size := bits % 0x8000000000000000
  let sign : List Char := if 0x8000000000000000 ≤ bits then ['-'] else []
  if 0x7FF0000000000000 < size then "nan".toList
  else if size = 0x7FF0000000000000 then sign ++ "inf".toList
  else if size = 0 then sign ++ "0.0".toList
  else sign ++ realFormat.write (shortestDecimal size)

namespace Value

/-- A value as messages show it: texts are quoted, and parts of a list or a mapping are shown the
same way. -/
def shown : Value → List Char
  | null => "None".toList
  | boolean b => if b then "True".toList else "False".toList
  | integer n => (toString n).toList
  | real x => writeReal x
  | text cs => quoted cs
  | list vs => '[' :: shownList vs ++ [']']
  | mapping es => '\x7b' :: shownEntries es ++ ['\x7d']
  | bytes bs => 'b' :: quoted (bs.map fun b => Char.ofNat b.toNat)
  | other _ => "<object>".toList
where
  /-- The parts of a list, with commas. -/
  shownList : List Value → List Char
    | [] => []
    | [v] => shown v
    | v :: vs => shown v ++ ", ".toList ++ shownList vs
  /-- The entries of a mapping, with colons and commas. -/
  shownEntries : List (Value × Value) → List Char
    | [] => []
    | [(k, v)] => shown k ++ ": ".toList ++ shown v
    | (k, v) :: es => shown k ++ ": ".toList ++ shown v ++ ", ".toList ++ shownEntries es

/-- A value as it stands in running text: texts are not quoted. -/
def plain : Value → List Char
  | text cs => cs
  | v => v.shown

/-- A value as the answer to a query shows it, with the query language's own words for null and the
truth values. -/
def asAnswer : Value → List Char
  | null => "NULL".toList
  | boolean true => "true".toList
  | boolean false => "false".toList
  | v => v.plain

end Value

end SqlRegexp
