import SqlRegexp.CommandLine.Arguments
import SqlRegexp.Dialect.Call

/-!
The commands of the program and what its arguments ask for.
-/

namespace SqlRegexp.CommandLine

open SqlRegexp.Text

/-- What the options and places of the command line are about. -/
inductive Target where
  | help
  | version
  | debug
  | config
  | command
  | parameter (p : Parameter)
deriving DecidableEq, Repr

/-- A command: a call of a function, with values for its parameters, or the built-in checks. -/
inductive Command where
  | call (function : Function) (values : Call.Binding)
  | verify

/-- What the arguments ask for. -/
structure Invocation where
  debug : Bool := false
  /-- The path of a settings file. -/
  config : Option (List Char) := none
  command : Option Command := none
  /-- Arguments of a command that are left over. -/
  leftOver : List (List Char) := []

/-- Why arguments lead to no command. -/
inductive Stop where
  /-- Help on the program, or on a command of it, is asked for. -/
  | help (command : Option String)
  | version
  /-- The arguments of the program, or of a command of it, do not fit. -/
  | misuse (command : Option String) (m : Misuse)
deriving DecidableEq, Repr

def programName : String := "oraregex"

namespace Stop

/-- The line that tells about arguments that do not fit. -/
def line? : Stop → Option String
  | misuse command m =>
    some (programName ++ (command.elim "" (" " ++ ·)) ++ ": error: " ++ m.message)
  | _ => none

end Stop

/-! ### Shapes -/

/-- The commands by their names; the last has no function. -/
def commands : List (String × Option Function) :=
  [("like", some .like), ("count", some .count), ("instr", some .instr),
   ("substr", some .substr), ("verify", none)]

def helpNames : List String := ["-h", "--help"]

/-- The options and places of the program. -/
def programShape : Shape Target :=
  { options :=
      [⟨helpNames, .help, false⟩, ⟨["-v", "--version"], .version, false⟩,
       ⟨["--debug"], .debug, false⟩, ⟨["--config"], .config, true⟩]
    places := [⟨"command", .command, true, false⟩] }

/-- The name of the option for a parameter: its own, with hyphens between the words. -/
def optionName (p : Parameter) : String :=
  "--" ++ String.ofList (p.label.toList.map fun c => if c = '_' then '-' else c)

def optionOrder : List Parameter := [.position, .flags, .occurrence, .returnOption, .group]

def commandShape (f : Option Function) : Shape Target :=
  let given : List Parameter := f.elim [] fun f => optionOrder.filter f.optional.contains
  { options := ⟨helpNames, .help, false⟩
      :: given.map fun p => ⟨[optionName p], .parameter p, true⟩
    places := if f.isSome then
        Function.required.map fun p => ⟨p.label, .parameter p, false, true⟩
      else [] }

/-- The words of a shape: its options in brackets and then its places. -/
def Shape.words (s : Shape Target) : List String :=
  (s.options.map fun o => "[" ++ o.names.headD "" ++ (if o.hasValue then " VALUE" else "") ++ "]")
    ++ s.places.map fun p => if p.takesAll then p.name ++ " ..." else p.name

/-- How the program, or a command of it, is used. -/
def usage (command : Option String) : String :=
  let shape := match command with
    | some name => commandShape ((commands.lookup name).getD none)
    | none => programShape
  "usage: " ++ " ".intercalate (programName :: command.toList ++ shape.words)

/-! ### Reading -/

/-- The value of a parameter that one text is given for. -/
def valueOfText (p : Parameter) (names : List String) (cs : List Char) : Except Misuse Value :=
  match p with
  | .subject | .pattern | .flags => .ok (.text cs)
  | _ =>
    match readInteger cs with
    | .ok n => .ok (.integer n)
    | .error _ => .error (.notInteger names cs)

/-- The value of a parameter: that of its text, or a list of values if there is not one text. A place
that is given nothing but a double hyphen that does not count has no text. -/
def valueOf (p : Parameter) (names : List String) :
    (texts : List (List Char)) → Except Misuse Value
  | [cs] => valueOfText p names cs
  | texts => do return .list (← texts.mapM (valueOfText p names))

/-- Puts a value for a parameter in the place of an earlier one. -/
def bind (values : Call.Binding) (p : Parameter) (v : Value) : Call.Binding :=
  (p, v) :: values.filter fun b => b.1 != p

/-- What becomes of an argument of a command. -/
def commandAction (name : String) : Action Target Call.Binding Stop :=
  fun values target names texts =>
    match target with
    | .parameter p => do
      return bind values p (← (valueOf p names texts).mapError (.misuse (some name)))
    | _ => .error (.help (some name))

def readCommand (r : Invocation) : List (List Char) → Except Stop Invocation
  | [] => .ok r
  | name :: arguments =>
    match commands.find? fun c => c.1.toList == name with
    | none => .error (.misuse none (.unknownCommand name (commands.map Prod.fst)))
    | some (name, f) => do
      let (values, leftOver) ←
        (commandShape f).read (.misuse (some name)) (commandAction name) [] arguments
      let command := match f with
        | some f => .call f values
        | none => .verify
      return { r with command := some command, leftOver }

/-- What becomes of an argument of the program. -/
def programAction : Action Target Invocation Stop := fun r target _ texts =>
  match target with
  | .debug => .ok { r with debug := true }
  | .config => .ok { r with config := texts.head? }
  | .command => readCommand r texts
  | .version => .error .version
  | _ => .error (.help none)

def Invocation.ofArguments (arguments : List (List Char)) : Except Stop Invocation := do
  let (r, leftOver) ← programShape.read (.misuse none) programAction {} arguments
  match leftOver ++ r.leftOver with
  | [] => return r
  | cs => throw (.misuse none (.leftOver cs))

end SqlRegexp.CommandLine
