import SqlRegexp.Text.Pieces
import SqlRegexp.Text.RealNumeral
import SqlRegexp.Yaml.Date

/-!
The kinds of nodes: what their tags say, and for plain scalars without a tag what their text looks
like.
-/

namespace SqlRegexp.Yaml

open SqlRegexp.Text

inductive Kind where
  | null
  | truth
  | integer
  | real
  | binary
  | date
  | text
  | sequence
  | mapping
  /-- A sequence of mappings with one entry each. -/
  | pairs
  | set
  /-- The key whose value is merged into its mapping. -/
  | merge
  /-- The key whose value stands for its mapping where a scalar is needed. -/
  | default
  /-- A kind that is not known here. -/
  | unknown
deriving DecidableEq, Repr, Inhabited

namespace Kind

/-- What the addresses of the known kinds start with. -/
def authority : List Char := "tag:yaml.org,2002:".toList

/-- The kinds by the ends of their addresses. -/
def table : List (String × Kind) :=
  [("null", null), ("bool", truth), ("int", integer), ("float", real), ("binary", binary),
   ("timestamp", date), ("str", text), ("seq", sequence), ("map", mapping), ("omap", pairs),
   ("pairs", pairs), ("set", set), ("merge", merge), ("value", default)]

def ofAddress (cs : List Char) : Kind :=
  if authority.isPrefixOf cs then
    (table.lookup (String.ofList (cs.drop authority.length))).getD unknown
  else unknown

/-! ### Numbers -/

def isDigitOrJoiner (c : Char) : Bool := isDecimal c || c == '_'

/-- Whether a text has at least one character, all with a property. -/
def isRun (p : Char → Bool) (cs : List Char) : Bool := !cs.isEmpty && cs.all p

/-- Whether a text is one or two digits that stand for less than sixty. -/
def isSixtieth : List Char → Bool
  | [d] => isDecimal d
  | [t, d] => '0' ≤ t && t ≤ '5' && isDecimal d
  | _ => false

/-- Whether a text is made of digits that start with a given kind of digit, and of sixtieths after
colons, at least one. -/
def isSexagesimal (first : Char → Bool) (cs : List Char) : Bool :=
  match pieces ':' cs with
  | (d :: ds) :: p :: ps => first d && ds.all isDigitOrJoiner && (p :: ps).all isSixtieth
  | _ => false

/-- Whether a text is a whole number without its sign: binary, octal, decimal, hexadecimal or in
sixtieths. -/
def isWhole : List Char → Bool
  | ['0'] => true
  | '0' :: 'b' :: cs => isRun (fun c => c == '0' || c == '1' || c == '_') cs
  | '0' :: 'x' :: cs => isRun (fun c => (hexValue? c).isSome || c == '_') cs
  | '0' :: cs => isRun (fun c => isOctal c || c == '_') cs
  | c :: cs => (isDecimal c && cs.all isDigitOrJoiner) || isSexagesimal isDecimal (c :: cs)
  | [] => false

/-- Whether a text is nothing or an exponent with its sign. -/
def isExponent : List Char → Bool
  | [] => true
  | e :: s :: ds => (e == 'e' || e == 'E') && (s == '+' || s == '-') && isRun isDecimal ds
  | _ => false

/-- Whether a text is what may follow the point of a real number. -/
def isFraction (cs : List Char) : Bool := isExponent (cs.dropWhile isDigitOrJoiner)

/-- Whether a text starts with a digit. -/
def startsDecimal (cs : List Char) : Bool := cs.head?.any isDecimal

/-- Whether a text is a real number with a digit before its point, without its sign. -/
def isPointed (cs : List Char) : Bool :=
  let whole := cs.takeWhile (· != '.')
  match cs.dropWhile (· != '.') with
  | '.' :: rest =>
    (startsDecimal whole && whole.all isDigitOrJoiner && isFraction rest)
      || (isSexagesimal isDecimal whole && rest.all isDigitOrJoiner)
  | _ => false

/-- Whether a text is a real number. -/
def isReal (cs : List Char) : Bool :=
  let size := (splitSign cs).2
  isPointed size
    || [".inf", ".Inf", ".INF"].any (fun w => size == w.toList)
    || [".nan", ".NaN", ".NAN"].any (fun w => cs == w.toList)
    || (match cs with
      | '.' :: rest => startsDecimal rest && isFraction rest
      | _ => false)

/-! ### Plain scalars -/

def truthWords : List String :=
  ["yes", "Yes", "YES", "no", "No", "NO", "true", "True", "TRUE", "false", "False", "FALSE",
   "on", "On", "ON", "off", "Off", "OFF"]

def nullWords : List String := ["~", "null", "Null", "NULL", ""]

/-- The kind that a plain scalar looks like. -/
def ofPlain (cs : List Char) : Kind :=
  let isWord := fun (w : String) => cs == w.toList
  if truthWords.any isWord then truth
  else if nullWords.any isWord then null
  else if cs = ['<', '<'] then merge
  else if cs = ['='] then default
  else if isReal cs then real
  else if isWhole (splitSign cs).2 then integer
  else if (Date.read? cs).any Date.isPlain then date
  else text

/-- A text without a line feed at its end. Such a line feed does not change what a scalar looks
like. -/
def withoutLineFeed (cs : List Char) : List Char :=
  if cs.getLast? = some '\n' && cs.length ≠ 1 then cs.dropLast else cs

/-- The kind that a scalar without a tag has. -/
def implicit (isPlain : Bool) (cs : List Char) : Kind :=
  if isPlain then ofPlain (withoutLineFeed cs) else text

end Kind

end SqlRegexp.Yaml
