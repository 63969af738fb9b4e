import SqlRegexp.Dialect.Functions

/-!
Calls of the functions by name. Arguments are bound to parameters by position first and by name
then; what is left out is null, which stands for the default of its parameter. A call that does not
fit its function is a misfit and has no result.
-/

namespace SqlRegexp

open SqlRegexp.Text

inductive Function where
  | like
  | count
  | instr
  | substr
deriving DecidableEq, Repr

inductive Parameter where
  | subject
  | pattern
  | position
  | occurrence
  | returnOption
  | flags
  | group
deriving DecidableEq, Repr

namespace Parameter

def label : Parameter → String
  | subject => "subject"
  | pattern => "pattern"
  | position => "position"
  | occurrence => "occurrence"
  | returnOption => "return_opt"
  | flags => "flags"
  | group => "group"

end Parameter

namespace Function

def label : Function → String
  | like => "regexp_like"
  | count => "regexp_count"
  | instr => "regexp_instr"
  | substr => "regexp_substr"

def ofLabel? (name : String) : Option Function :=
  [like, count, instr, substr].find? fun f => f.label == name

def required : List Parameter := [.subject, .pattern]

/-- The parameters that a call may give, in their order after the required ones. -/
def optional : Function → List Parameter
  | like => [.flags]
  | count => [.position, .flags]
  | instr => [.position, .occurrence, .returnOption, .flags, .group]
  | substr => [.position, .occurrence, .flags, .group]

/-- The parameters in their order. -/
def parameters (f : Function) : List Parameter := required ++ f.optional

/-- The result of a function, given a value for each parameter. -/
def apply [Engine] (f : Function) (policy : NewlinePolicy) (value : Parameter → Value) : Narrated Value :=
  let subject := (value .subject).text?
  let pattern := (value .pattern).text?
  let flags := (value .flags).text?
  match f with
  | like => do return .boolean (← SqlRegexp.like policy subject pattern flags)
  | count => do
    return .integer (← SqlRegexp.count policy subject pattern (value .position) flags)
  | instr => do
    return .integer (← SqlRegexp.instr policy subject pattern (value .position)
      (value .occurrence) (value .returnOption) flags (value .group))
  | substr => do
    match (← SqlRegexp.substr policy subject pattern (value .position) (value .occurrence) flags
      (value .group)) with
    | some cs => return .text cs
    | none => return .null

end Function

/-! ### Patterns without a text -/

/-- An engine that refuses the text without characters as a list without elements is refused: it
cannot be looked up among the patterns that have been compiled. -/
@[reducible] def Engine.refusingEmpty [Engine] : Engine where
  Program := Engine.Program
  compile cs options :=
    if cs.isEmpty then .error (.other "TypeError" "unhashable type: 'list'")
    else Engine.compile cs options
  groupCount := Engine.groupCount
  search := Engine.search
  matchAt := Engine.matchAt

namespace Function

/-- How patterns are shown if a list without elements is given. -/
def emptyShowing (m : Mode) : Event.Showing :=
  let shown (cs : List Char) := if cs.isEmpty then "[]" else quotedString cs
  { given := shown, made := if m.isLiteral then quotedString else shown }

/-- The result of a function, with what it tells, if its pattern may be a list without elements. Such
a list counts as the text without characters where it is read through. It reaches the engine as it is
if the mode makes no text of it and it is not enclosed either. -/
def applyListed [Engine] (f : Function) (policy : NewlinePolicy) (value : Parameter → Value) :
    Event.Showing × Narrated Value :=
  match value .pattern with
  | .list _ =>
    let mode := Mode.ofParameter (value .flags).text? (f != like) policy
    let value (p : Parameter) := if p = .pattern then .text [] else value p
    (emptyShowing mode,
      if mode.isLiteral || mode.boundary then f.apply policy value
      else @apply Engine.refusingEmpty f policy value)
  | _ => ({}, f.apply policy value)

end Function

/-! ### Calls -/

/-- A call with arguments by position and by name. -/
structure Call where
  function : Function
  arguments : List Value
  named : List (String × Value) := []

/-- Why a call does not fit its function. -/
inductive Misfit where
  /-- No parameter has the name of an argument. -/
  | unknown (function : Function) (name : String)
  /-- An argument is given by position and by name. -/
  | repeated (function : Function) (name : String)
  /-- There are more arguments than parameters. -/
  | tooMany (function : Function) (given : Nat)
  /-- Required arguments are not given. -/
  | missing (function : Function) (parameters : List Parameter)
deriving DecidableEq, Repr

namespace Misfit

/-- A name as messages show it. -/
def quotedName (name : String) : String := "'" ++ name ++ "'"

/-- The message of a misfit. The settings, which every call gets, count as an argument beside those
given by position. -/
def message : Misfit → String
  | unknown f name => f.label ++ "() got an unexpected keyword argument " ++ quotedName name
  | repeated f name => f.label ++ "() got multiple values for argument " ++ quotedName name
  | tooMany f given =>
    f.label ++ "() takes from " ++ toString Function.required.length ++ " to "
      ++ toString f.parameters.length ++ " positional arguments but " ++ toString given
      ++ " positional argument" ++ (if given = 1 then "" else "s")
      ++ " (and 1 keyword-only argument) were given"
  | missing f ps =>
    f.label ++ "() missing " ++ toString ps.length ++ " required positional argument"
      ++ (if ps.length = 1 then "" else "s") ++ ": "
      ++ " and ".intercalate (ps.map fun p => quotedName p.label)

/-- The word for a misfit in reports. -/
def kindName : String := "TypeError"

end Misfit

namespace Call

/-- Arguments bound to parameters. -/
abbrev Binding := List (Parameter × Value)

/-- Binds the arguments given by name, in their order. -/
def bindNamed (f : Function) : Binding → List (String × Value) → Except Misfit Binding
  | bound, [] => .ok bound
  | bound, (name, v) :: rest =>
    match f.parameters.find? fun p => p.label == name with
    | none => .error (.unknown f name)
    | some p =>
      if bound.any fun b => b.1 == p then .error (.repeated f name)
      else bindNamed f (bound ++ [(p, v)]) rest

/-- The arguments of a call, bound to the parameters. -/
def bindings (c : Call) : Except Misfit Binding := do
  let bound ← bindNamed c.function (c.function.parameters.zip c.arguments) c.named
  if c.function.parameters.length < c.arguments.length then
    throw (.tooMany c.function c.arguments.length)
  match Function.required.filter fun p => !bound.any fun b => b.1 == p with
  | [] => return bound
  | ps => throw (.missing c.function ps)

/-- The value bound to a parameter; null if there is none. -/
def valueOf (bound : Binding) (p : Parameter) : Value :=
  ((bound.find? fun b => b.1 == p).map Prod.snd).getD .null

end Call

end SqlRegexp
