/-!
Values as they come from outside: arguments of a call before they are checked, and the content of a
settings file.
-/

namespace SqlRegexp

/-- A value from outside. -/
inductive Value where
  | null
  | boolean (b : Bool)
  | integer (n : Int)
  | real (x : Float)
  | text (cs : List Char)
  | list (vs : List Value)
  /-- Entries in the order in which their keys first appear. -/
  | mapping (entries : List (Value × Value))
  /-- Raw bytes. -/
  | bytes (bs : List UInt8)
  /-- A value of another kind, such as a date, a decimal or a fraction; with the real number that it
  turns itself into, if it does. -/
  | other (number : Option Float)
deriving Inhabited

namespace Value

/-- The name of a value's kind, as messages show it. -/
def kindName : Value → String
  | null => "NoneType"
  | boolean _ => "bool"
  | integer _ => "int"
  | real _ => "float"
  | text _ => "str"
  | list _ => "list"
  | mapping _ => "dict"
  | bytes _ => "bytes"
  | other _ => "object"

def isText (v : Value) (cs : List Char) : Bool :=
  match v with
  | text ds => ds == cs
  | _ => false

def text? : Value → Option (List Char)
  | text cs => some cs
  | _ => none

/-- The number that a value counts as beside other numbers: truth values count as one and zero. -/
def number? : Value → Option (Int ⊕ Float)
  | boolean b => some (.inl (if b then 1 else 0))
  | integer n => some (.inl n)
  | real x => some (.inr x)
  | _ => none

/-- Whether two numbers are equal; whole ones are compared exactly. -/
def sameNumber : Int ⊕ Float → Int ⊕ Float → Bool
  | .inl m, .inl n => m == n
  | .inl m, .inr y => Float.ofInt m == y
  | .inr x, .inl n => x == Float.ofInt n
  | .inr x, .inr y => x == y

/-- Whether two single values are equal, numbers by their size. Values with parts are equal to
none. -/
def same (v w : Value) : Bool :=
  match v.number?, w.number? with
  | some x, some y => sameNumber x y
  | _, _ =>
    match v, w with
    | null, null => true
    | text cs, text ds => cs == ds
    | _, _ => false

/-- The entry of a list of entries under a text. -/
def entry? (key : List Char) : List (Value × Value) → Option Value
  | [] => none
  | (k, v) :: rest => if k.isText key then some v else entry? key rest

end Value

end SqlRegexp
