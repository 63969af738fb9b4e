import SqlRegexp.Dialect.Mode
import SqlRegexp.Text.RealNumeral
import SqlRegexp.Text.Utf8
import SqlRegexp.Value.Basic

/-!
The settings of the dialect and their reading from a mapping: the newline policy and a limit of time
for each match, directly in the mapping or in a section of their own. Unknown keys are refused.
-/

namespace SqlRegexp

open SqlRegexp.Text SqlRegexp.Unicode

structure Settings where
  /-- When the boundary default holds. -/
  policy : NewlinePolicy := .uniform
  /-- How many seconds a match may take. -/
  timeout : Option Float := none

/-- What is wrong with the value under a key. -/
inductive Fault where
  | notAPolicy
  | notANumber
  | unreadableNumber
  | notPositive
  | unknownKey
deriving DecidableEq, Repr

namespace Fault

def code : Fault → String
  | notAPolicy => "literal_error"
  | notANumber => "float_type"
  | unreadableNumber => "float_parsing"
  | notPositive => "value_error"
  | unknownKey => "extra_forbidden"

def message : Fault → String
  | notAPolicy => "Input should be 'uniform' or 'legacy'"
  | notANumber => "Input should be a valid number"
  | unreadableNumber => "Input should be a valid number, unable to parse string as a number"
  | notPositive => "Value error, timeout must be a positive number of seconds"
  | unknownKey => "Extra inputs are not permitted"

end Fault

/-- Why a mapping gives no settings. -/
inductive SettingsError where
  /-- The section of the settings is no mapping. -/
  | sectionNotMapping
  /-- A key is no text. -/
  | keyNotText
  /-- Keys with faults: the policy first, then the limit, then unknown keys in their order. -/
  | invalid (faults : List (List Char × Fault))
deriving DecidableEq, Repr

namespace SettingsError

/-- The message of a failure, without the list of faults. -/
def heading : SettingsError → String
  | sectionNotMapping => "The 'emulation' section must be a mapping."
  | keyNotText => "keywords must be strings"
  | invalid _ => "Invalid emulation settings"

end SettingsError

namespace Settings

/-- The key of the section that may hold the settings. -/
def sectionKey : List Char := "emulation".toList

def policyKey : List Char := "newline_policy".toList

def timeoutKey : List Char := "timeout".toList

/-- A text without the single underscores inside it; nothing if it has others, or none. -/
def dropUnderscores? (cs : List Char) : Option (List Char) :=
  let doubled := (cs.zip (cs.drop 1)).any fun p => p.1 == '_' && p.2 == '_'
  if cs.head? == some '_' || cs.getLast? == some '_' || !cs.contains '_' || doubled then none
  else some (cs.filter (· ≠ '_'))

/-- A text without the white space at its ends. -/
def trimWhite (cs : List Char) : List Char :=
  let white := fun (c : Char) => isWhiteSpace c.toNat
  ((cs.dropWhile white).reverse.dropWhile white).reverse

/-- The real number that a text denotes, with white space around it or underscores in it. -/
def numberOfText (cs : List Char) : Except Fault Float :=
  match readReal? (trimWhite cs) <|> (dropUnderscores? cs).bind readReal? with
  | some x => .ok x
  | none => .error .unreadableNumber

/-- The real number that a value stands for. Truth values count as one and zero, a whole number has to
be within the range of doubles, and bytes count as the text that they are in UTF-8. -/
def numberOf : Value → Except Fault Float
  | .boolean b => .ok (if b then 1.0 else 0.0)
  | .integer n =>
    let x := nearestDouble n.natAbs 0
    if x.isInf then .error .notANumber else .ok (if n < 0 then -x else x)
  | .real x => .ok x
  | .text cs => numberOfText cs
  | .bytes bs =>
    match Utf8.decode bs with
    | .ok cs => numberOfText cs
    | .error _ => .error .unreadableNumber
  | .other (some x) => .ok x
  | .null | .list _ | .mapping _ | .other none => .error .notANumber

/-- The limit of time that a value stands for: none, or a number that is not zero or below. -/
def timeoutOf : Value → Except Fault (Option Float)
  | .null => .ok none
  | v => do
    let x ← numberOf v
    if x ≤ 0.0 then throw .notPositive
    return some x

def policyOf (v : Value) : Except Fault NewlinePolicy :=
  if v.isText "uniform".toList then .ok .uniform
  else if v.isText "legacy".toList then .ok .legacy
  else .error .notAPolicy

/-- The fault of a reading, under a key. -/
def faultOf {α : Type} (key : List Char) (r : Except Fault α) : List (List Char × Fault) :=
  match r with
  | .ok _ => []
  | .error f => [(key, f)]

/-- The texts among the keys of entries that are not known here. -/
def unknownKeys (entries : List (Value × Value)) : List (List Char) :=
  entries.filterMap fun e =>
    match e.1 with
    | .text cs => if cs = policyKey ∨ cs = timeoutKey then none else some cs
    | _ => none

def keysAreText (entries : List (Value × Value)) : Bool :=
  entries.all fun e => match e.1 with
    | .text _ => true
    | _ => false

/-- The settings of the entries of one section. -/
def ofSection (entries : List (Value × Value)) : Except SettingsError Settings := do
  if !keysAreText entries then throw .keyNotText
  let policy := (Value.entry? policyKey entries).elim (.ok .uniform) policyOf
  let timeout := (Value.entry? timeoutKey entries).elim (.ok none) timeoutOf
  match policy, timeout, unknownKeys entries with
  | .ok p, .ok t, [] => return ⟨p, t⟩
  | p, t, unknown =>
    throw (.invalid (faultOf policyKey p ++ faultOf timeoutKey t
      ++ unknown.map fun key => (key, .unknownKey)))

/-- The settings of a mapping: those of its section if it has one, and else its own. -/
def ofEntries (entries : List (Value × Value)) : Except SettingsError Settings :=
  match Value.entry? sectionKey entries with
  | none => ofSection entries
  | some (.mapping own) => ofSection own
  | some _ => .error .sectionNotMapping

end Settings

end SqlRegexp
