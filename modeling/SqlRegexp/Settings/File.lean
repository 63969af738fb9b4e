import SqlRegexp.Files.Resolve
import SqlRegexp.Settings.Basic
import SqlRegexp.Yaml.Reading

/-!
Settings from a file: its bytes are read as a YAML document, and the document as the mapping of the
settings. An empty document gives the defaults.
-/

namespace SqlRegexp

open SqlRegexp.Files SqlRegexp.Yaml

/-- Why the content of a file gives no settings. -/
inductive ContentFault where
  | reading (f : ReadFault)
  /-- The document is no mapping. -/
  | notMapping
  | settings (e : SettingsError)
deriving DecidableEq, Repr

namespace ContentFault

def message : ContentFault → String
  | reading f => f.message
  | notMapping => "Config file must be a YAML mapping (dictionary)."
  | settings e => e.heading

end ContentFault

/-- Faults that no rule of the settings foresees; they are passed on as they are. -/
inductive StrayFault where
  | reading (f : Stray)
  /-- The system refuses to look for the file or to read it. -/
  | path (e : PathError)
deriving DecidableEq, Repr

namespace StrayFault

def message : StrayFault → String
  | reading f => f.message
  | path e => e.message

/-- The word for the kind of a fault, as reports show it. -/
def kindName : StrayFault → String
  | reading f => f.kindName
  | path e => e.kindName

end StrayFault

inductive LoadError where
  /-- There is no file at the path. -/
  | notFound (path : List Char)
  /-- The text is no YAML, or holds a node of an unknown kind. -/
  | malformed
  | invalid (f : ContentFault)
  | stray (f : StrayFault)
deriving DecidableEq, Repr

namespace LoadError

/-- What the message about unusable content starts with. -/
def invalidLead : String := "Invalid or missing configuration: "

/-- The message of a failure; the rules of the format have none. -/
def message? : LoadError → Option String
  | notFound p => some ("Configuration file not found at: " ++ String.ofList p)
  | malformed => none
  | invalid f => some (invalidLead ++ f.message)
  | stray f => some f.message

/-- The failure that a failure to read is. -/
def ofRead : ReadError → LoadError
  | .malformed => malformed
  | .unusable f => invalid (.reading f)
  | .stray f => stray (.reading f)

end LoadError

namespace Settings

/-- The settings that the value of a document holds. -/
def ofValue : Value → Except LoadError Settings
  | .null => .ok {}
  | .mapping es => (ofEntries es).mapError fun e => .invalid (.settings e)
  | _ => .error (.invalid .notMapping)

/-- The settings in the file that a path leads to. -/
def load [Reader] (files : Tree) (path : List Char) : Except LoadError Settings :=
  let p := Path.ofText path
  match files.isFile p with
  | .error e => .error (.stray (.path (.system e p)))
  | .ok false => .error (.notFound path)
  | .ok true => do
    let bs ← (files.read p).mapError fun e => .stray (.path (.system e p))
    ofValue (← (Reader.read bs).mapError .ofRead)

end Settings

end SqlRegexp
