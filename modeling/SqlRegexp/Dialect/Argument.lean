import SqlRegexp.Value.Basic

/-!
The numeric arguments of a call and their checks. A truth value is no whole number here.
-/

namespace SqlRegexp

/-- The numeric arguments. -/
inductive Argument where
  /-- Where the search starts, counted from 1. -/
  | position
  /-- Which match is meant, counted from 1. -/
  | occurrence
  /-- Which group is meant, 0 being the whole match. -/
  | group
  /-- Whether the end of the match is meant instead of its start. -/
  | returnOption
deriving DecidableEq, Repr

/-- Why an argument is refused. -/
inductive ArgumentError where
  /-- It is not a whole number but a value of the kind named. -/
  | notInteger (argument : Argument) (kind : String)
  /-- It is a number that the argument does not take. -/
  | outOfRange (argument : Argument)
deriving DecidableEq, Repr

namespace Argument

/-- The name of an argument in messages. -/
def label : Argument → String
  | position => "position"
  | occurrence => "occurrence"
  | group => "group"
  | returnOption => "return_opt"

def demand : Argument → String
  | position | occurrence => "must be a number greater than 0"
  | group => "must be a positive number"
  | returnOption => "must be 0 or 1"

/-- Whether an argument takes a number. -/
def admits : Argument → Int → Bool
  | position, n | occurrence, n => decide (1 ≤ n)
  | group, n => decide (0 ≤ n)
  | returnOption, n => n == 0 || n == 1

/-- The number that an argument gets for want of a value. -/
def default : Argument → Int
  | position | occurrence => 1
  | group | returnOption => 0

/-- The number given for an argument, if the argument takes it. -/
def check (a : Argument) : Value → Except ArgumentError Nat
  | .integer n => if a.admits n then .ok n.toNat else .error (.outOfRange a)
  | v => .error (.notInteger a v.kindName)

/-- The number given for an argument that may be left out by giving null. -/
def checkOptional (a : Argument) : Value → Except ArgumentError Nat
  | .null => .ok a.default.toNat
  | v => a.check v

end Argument

namespace ArgumentError

def message : ArgumentError → String
  | notInteger a kind => "argument '" ++ a.label ++ "' must be an integer, got " ++ kind
  | outOfRange a => "argument '" ++ a.label ++ "' " ++ a.demand

end ArgumentError

end SqlRegexp
