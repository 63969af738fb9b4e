import SqlRegexp.Text.Numeral

/-!
Reading the arguments of a command line. Arguments with a hyphen in front are options, which may be
shortened as long as it is clear which is meant; a double hyphen ends the options, and what looks
like a negative number is none. All others fill the places of a command in their order, as many at a
time as stand together.
-/

namespace SqlRegexp.CommandLine

open SqlRegexp.Text

/-- An option. -/
structure Switch (τ : Type) where
  /-- Its names, with their hyphens. -/
  names : List String
  /-- What it is about. -/
  target : τ
  /-- Whether it has a value. -/
  hasValue : Bool := true

/-- A place for arguments without a name. -/
structure Place (τ : Type) where
  name : String
  target : τ
  /-- Whether all further arguments go here as well. -/
  takesAll : Bool := false
  isRequired : Bool := true

/-- The options and places of a command. -/
structure Shape (τ : Type) where
  options : List (Switch τ)
  places : List (Place τ)

/-- Why arguments do not fit. -/
inductive Misuse where
  /-- Several options have names that start as the argument does. -/
  | ambiguous (argument : List Char) (names : List String)
  /-- An option has no value, and one is given. -/
  | needlessValue (names : List String) (value : List Char)
  | missingValue (names : List String)
  | notInteger (names : List String) (value : List Char)
  | unknownCommand (name : List Char) (commands : List String)
  /-- Places stay empty that have to be filled. -/
  | missing (places : List String)
  /-- Arguments are left over. -/
  | leftOver (arguments : List (List Char))
deriving DecidableEq, Repr

namespace Misuse

/-- The names of an option as messages show them. -/
def joined (names : List String) : String := "/".intercalate names

/-- The message about arguments that do not fit. -/
def message : Misuse → String
  | ambiguous argument names =>
    "ambiguous option: " ++ String.ofList argument ++ " could match " ++ ", ".intercalate names
  | needlessValue names value =>
    "argument " ++ joined names ++ ": ignored explicit argument " ++ quotedString value
  | missingValue names => "argument " ++ joined names ++ ": expected one argument"
  | notInteger names value =>
    "argument " ++ joined names ++ ": invalid int value: " ++ quotedString value
  | unknownCommand name commands =>
    "argument command: invalid choice: " ++ quotedString name ++ " (choose from "
      ++ ", ".intercalate (commands.map fun c => quotedString c.toList) ++ ")"
  | missing places => "the following arguments are required: " ++ ", ".intercalate places
  | leftOver arguments =>
    "unrecognized arguments: " ++ String.ofList (joinPieces [' '] arguments)

end Misuse

/-! ### What arguments are -/

/-- An option named by an argument, with the name in full and the value attached to it. -/
structure Named (τ : Type) where
  option : Switch τ
  name : String
  value : Option (List Char) := none
  /-- Whether an equals sign stands before the value. -/
  isEqual : Bool := false

/-- What an argument is. -/
inductive Mark (τ : Type) where
  | plain
  /-- The double hyphen that ends the options. -/
  | fence
  | named (n : Named τ)
  /-- An option that is not known. -/
  | unknown

/-- An argument with what it is. -/
abbrev Marked (τ : Type) := List Char × Mark τ

section

variable {τ σ ε : Type}

namespace Shape

/-- The names of all options with their options. -/
def allNames (s : Shape τ) : List (String × Switch τ) :=
  s.options.flatMap fun o => o.names.map fun n => (n, o)

def option? (s : Shape τ) (name : List Char) : Option (Named τ) :=
  (s.allNames.find? fun e => e.1.toList == name).map fun e => ⟨e.2, e.1, none, false⟩

/-- A text cut at its first equals sign. -/
def cutAtEquals (cs : List Char) : List Char × Option (List Char) :=
  match cs.dropWhile (· != '=') with
  | _ :: value => (cs.takeWhile (· != '='), some value)
  | [] => (cs, none)

/-- The options that a shortened name may mean. A long name may have a value after an equals sign, a
short one has it attached. -/
def matching (s : Shape τ) (cs : List Char) : List (Named τ) :=
  if ['-', '-'].isPrefixOf cs then
    let (start, value) := cutAtEquals cs
    (s.allNames.filter fun e => start.isPrefixOf e.1.toList).map fun e =>
      ⟨e.2, e.1, value, value.isSome⟩
  else
    s.allNames.filterMap fun e =>
      if e.1.toList == cs.take 2 then some ⟨e.2, e.1, some (cs.drop 2), false⟩
      else if cs.isPrefixOf e.1.toList then some ⟨e.2, e.1, none, false⟩
      else none

/-- Whether a character is a decimal digit of some script. -/
def isDigit (c : Char) : Bool := (digitOf? c).isSome

/-- Whether a text, after a hyphen, looks like a number: digits, or digits with a point before the
last of them. A line feed at its end does not matter. -/
def looksNumeric (cs : List Char) : Bool :=
  let cs := if cs.getLast? == some '\n' then cs.dropLast else cs
  match cs.dropWhile isDigit with
  | [] => !cs.isEmpty
  | c :: rest => c == '.' && !rest.isEmpty && rest.all isDigit

/-- What an argument before the double hyphen is. -/
def mark (s : Shape τ) (cs : List Char) : Except Misuse (Mark τ) :=
  if cs.head? != some '-' then .ok .plain
  else
    match s.option? cs with
    | some n => .ok (.named n)
    | none =>
      if cs.length = 1 then .ok .plain
      else
        let (name, value) := cutAtEquals cs
        let exact := value.bind fun v =>
          (s.option? name).map fun n => { n with value := some v, isEqual := true }
        match exact with
        | some n => .ok (.named n)
        | none =>
          -- no option of this name: the beginning of one will do, and a negative number is none
          match s.matching cs with
          | [n] => .ok (.named n)
          | [] => .ok (if looksNumeric (cs.drop 1) || cs.contains ' ' then .plain else .unknown)
          | ns => .error (.ambiguous cs (ns.map Named.name))

/-- What each argument is; after the double hyphen all are plain. -/
def markAll (s : Shape τ) : List (List Char) → Except Misuse (List (Marked τ))
  | [] => .ok []
  | cs :: rest =>
    if cs = ['-', '-'] then .ok ((cs, .fence) :: rest.map fun ds => (ds, .plain))
    else do return (cs, ← s.mark cs) :: (← markAll s rest)

end Shape

/-! ### Filling in -/

namespace Marked

/-- Whether an argument is the double hyphen. -/
def isFence (m : Marked τ) : Bool :=
  match m.2 with
  | .fence => true
  | _ => false

def isPlain (m : Marked τ) : Bool :=
  match m.2 with
  | .plain => true
  | _ => false

/-- Whether an argument is an option, known or not. -/
def isOption (m : Marked τ) : Bool :=
  match m.2 with
  | .named _ | .unknown => true
  | _ => false

end Marked

namespace Place

/-- How many of some arguments a place takes: one plain argument, with the double hyphens before and
after it, or all from a plain argument on. -/
def taken? (p : Place τ) (ms : List (Marked τ)) : Option Nat :=
  let before := (ms.takeWhile Marked.isFence).length
  match ms.drop before with
  | m :: rest =>
    if !m.isPlain then none
    else if p.takesAll then some ms.length
    else some (before + 1 + (rest.takeWhile Marked.isFence).length)
  | [] => none

/-- How many arguments each of some places takes, one after the other, if all can be filled. -/
def takenByAll? : List (Place τ) → List (Marked τ) → Option (List Nat)
  | [], _ => some []
  | p :: ps, ms => do
    let n ← p.taken? ms
    return n :: (← takenByAll? ps (ms.drop n))

/-- How many arguments the first places take, as many of them as can be filled. -/
def takenByFirst (ps : List (Place τ)) (ms : List (Marked τ)) : (count : Nat) → List Nat
  | 0 => []
  | count + 1 => (takenByAll? (ps.take (count + 1)) ms).getD (takenByFirst ps ms count)

/-- The arguments that are left of those a place takes: the first double hyphen does not count,
except where all go. -/
def given (p : Place τ) (ms : List (Marked τ)) : List (List Char) :=
  let texts := ms.map Prod.fst
  if p.takesAll then texts else texts.erase ['-', '-']

end Place

/-- The work on the arguments of a command: what has been gathered, the places that are not filled,
and the arguments left over. -/
structure Filling (τ σ : Type) where
  gathered : σ
  places : List (Place τ)
  leftOver : List (List Char) := []

/-- What becomes of an option or a place with its arguments. -/
abbrev Action (τ σ ε : Type) := σ → τ → (names : List String) → List (List Char) → Except ε σ

/-- Fills places with the arguments that they take. -/
def fillPlaces (act : Action τ σ ε) :
    σ → List (Place τ) → List Nat → List (Marked τ) → Except ε (σ × List (Marked τ))
  | g, p :: ps, n :: ns, ms => do
    let g ← act g p.target [p.name] (p.given (ms.take n))
    fillPlaces act g ps ns (ms.drop n)
  | g, _, _, ms => .ok (g, ms)

/-- Fills as many places as the arguments that come next allow. -/
def Filling.fill (act : Action τ σ ε) (f : Filling τ σ) (ms : List (Marked τ)) :
    Except ε (Filling τ σ × List (Marked τ)) := do
  let counts := Place.takenByFirst f.places ms f.places.length
  let (g, rest) ← fillPlaces act f.gathered f.places counts ms
  return ({ f with gathered := g, places := f.places.drop counts.length }, rest)

/-- The options that an argument stands for. -/
structure Cluster (τ : Type) where
  /-- The options with their values, in their order. -/
  settled : List (Switch τ × List (List Char)) := []
  /-- The last option, if it takes the next argument as its value. -/
  pending : Option (Switch τ) := none
  /-- What is left of the argument when a letter is no option. -/
  leftOver : Option (List Char) := none

namespace Cluster

/-- The options in an argument from an option on, which has a value attached to it. Short options
without values may stand together; what is after an equals sign is no option. -/
def ofAttached (s : Shape τ) (o : Switch τ) (name : List Char) (isEqual : Bool) :
    (value : List Char) → Except Misuse (Cluster τ)
  | [] => if o.hasValue then .ok { settled := [(o, [[]])] } else .error (.needlessValue o.names [])
  | c :: cs =>
    if o.hasValue then .ok { settled := [(o, [c :: cs])] }
    else if name.take 2 = ['-', '-'] || isEqual || c = '-' then
      .error (.needlessValue o.names (c :: cs))
    else
      match s.option? ['-', c] with
      | none => .ok { settled := [(o, [])], leftOver := some ('-' :: c :: cs) }
      | some n => do
        let more ←
          match cs with
          | [] => pure (ofAlone n.option)
          | '=' :: ds => ofAttached s n.option ['-', c] true ds
          | d :: ds => ofAttached s n.option ['-', c] false (d :: ds)
        return { more with settled := (o, []) :: more.settled }
termination_by value => value.length
where
  /-- An option without a value attached to it. -/
  ofAlone (o : Switch τ) : Cluster τ :=
    if o.hasValue then { pending := some o } else { settled := [(o, [])] }

/-- The options in an argument. -/
def ofNamed (s : Shape τ) (n : Named τ) : Except Misuse (Cluster τ) :=
  match n.value with
  | none => .ok (ofAttached.ofAlone n.option)
  | some v => ofAttached s n.option n.name.toList n.isEqual v

end Cluster

def readOption (s : Shape τ) (misuse : Misuse → ε) (act : Action τ σ ε) (f : Filling τ σ)
    (n : Named τ) (rest : List (Marked τ)) : Except ε (Filling τ σ × List (Marked τ)) := do
  let c ← (Cluster.ofNamed s n).mapError misuse
  let (all, rest) ←
    match c.pending with
    | none => pure (c.settled, rest)
    | some o =>
      match rest with
      | m :: rest =>
        if m.isPlain then pure (c.settled ++ [(o, [m.1])], rest)
        else throw (misuse (.missingValue o.names))
      | [] => throw (misuse (.missingValue o.names))
  let g ← all.foldlM (fun g e => act g e.1.target e.1.names e.2) f.gathered
  return ({ f with gathered := g, leftOver := f.leftOver ++ c.leftOver.toList }, rest)

/-- Reads arguments: places are filled from the arguments before an option, then the option is read,
and so on; after the last option the places take what they can. -/
def readFrom (s : Shape τ) (misuse : Misuse → ε) (act : Action τ σ ε) :
    (limit : Nat) → Filling τ σ → List (Marked τ) → Except ε (Filling τ σ)
  | 0, f, ms => .ok { f with leftOver := f.leftOver ++ ms.map Prod.fst }
  | limit + 1, f, ms => do
    if !ms.any Marked.isOption then
      let (f, rest) ← f.fill act ms
      return { f with leftOver := f.leftOver ++ rest.map Prod.fst }
    let (f, rest) ← if ms.head?.any Marked.isOption then pure (f, ms) else f.fill act ms
    if rest.length < ms.length then readFrom s misuse act limit f rest
    else
      let skipped := ms.takeWhile fun m => !m.isOption
      let f := { f with leftOver := f.leftOver ++ skipped.map Prod.fst }
      match ms.drop skipped.length with
      | (_, .named n) :: rest =>
        let (f, rest) ← readOption s misuse act f n rest
        readFrom s misuse act limit f rest
      | (cs, _) :: rest =>
        readFrom s misuse act limit { f with leftOver := f.leftOver ++ [cs] } rest
      | [] => return f

/-- Reads the arguments of a command; gives what has been gathered and the arguments left over. -/
def Shape.read (s : Shape τ) (misuse : Misuse → ε) (act : Action τ σ ε) (start : σ)
    (arguments : List (List Char)) : Except ε (σ × List (List Char)) := do
  let ms ← (s.markAll arguments).mapError misuse
  let f ← readFrom s misuse act (ms.length + 1) ⟨start, s.places, []⟩ ms
  match (f.places.filter Place.isRequired).map Place.name with
  | [] => return (f.gathered, f.leftOver)
  | names => throw (misuse (.missing names))

end

end SqlRegexp.CommandLine
