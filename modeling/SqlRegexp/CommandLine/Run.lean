import SqlRegexp.CommandLine.Invocation
import SqlRegexp.Logging.Setup
import SqlRegexp.Settings.Discovery
import SqlRegexp.Settings.File
import SqlRegexp.Verification.Table

/-!
The runs of the program: arguments and files in, output, log lines, files and an exit code out. A
failure that the program does not foresee ends a run without an exit code.
-/

namespace SqlRegexp.CommandLine

open SqlRegexp.Files SqlRegexp.Logging SqlRegexp.Text

/-- A failure that ends a run without an exit code. -/
inductive Crash where
  | call (e : CallError)
  | load (f : StrayFault)
deriving DecidableEq, Repr

/-- What a run has come to. -/
inductive Ending where
  | exit (code : Nat)
  | crash (c : Crash)
deriving DecidableEq, Repr

/-- The exit codes. -/
def success : Nat := 0

/-- The exit code of checks of which some have failed. -/
def checksFailed : Nat := 1

/-- The exit code of all that keeps a command from its work. -/
def unusable : Nat := 2

/-- What a run leaves behind. -/
structure Run where
  /-- The files and the log lines. -/
  logging : Logging.State
  output : List Char := []
  /-- The line about arguments that do not fit. -/
  complaint : Option String := none
  ending : Ending

structure Surroundings where
  files : Tree
  version : List Char
  occasion : Occasion

/-! ### Logging -/

/-- Where in a part of the program records come from. -/
def originIn (part function : String) (line : Int) : Origin where
  logger := (programName ++ "." ++ part).toList
  function := some function.toList
  line := line

/-- Where a run of the program itself makes records. -/
def originInRun (line : Int) : Origin := originIn "__main__" "main" line

def originOf : Event → Origin
  | .parameterRead _ _ _ => originIn "modifiers" "translate_modifiers" 74
  | .compiling _ _ => originIn "engine" "compile_pattern" 103
  | .occurrenceFound _ _ _ => originIn "locator" "find_occurrence_window" 55
  | .occurrencePassed _ _ => originIn "locator" "find_occurrence_window" 57
  | .occurrencesExhausted _ _ _ => originIn "locator" "find_occurrence_window" 59
  | .groupMissing _ _ _ => originIn "locator" "locate" 89
  | .groupUnmatched _ _ => originIn "locator" "locate" 105
  | .noGroup _ => originIn "functions" "regexp_substr" 198

def tell (o : Occasion) (origin : Origin) (level : Int) (message : String) (s : Logging.State) :
    Logging.State :=
  s.log { created := o.now, origin, level, message := message.toList, parts := o.parts }

/-- Logs a failure together with how it has come about. -/
def tellFailure (o : Occasion) (origin : Origin) (message : String) (s : Logging.State) : Logging.State :=
  s.log { created := o.now, origin, level := Logging.error, message := message.toList, parts := o.parts,
          failure := o.failure }

/-- Logs what a call has told. -/
def tellEvents (o : Occasion) (showing : Event.Showing) (events : List Event) (s : Logging.State) :
    Logging.State :=
  events.foldl (fun s e => tell o (originOf e) Logging.debug (e.message showing) s) s

/-! ### Settings -/

/-- Settings as messages show them. -/
def shownSettings (s : Settings) : String :=
  let timeout : Value := s.timeout.elim .null .real
  String.ofList (Value.mapping [(.text Settings.policyKey, .text s.policy.label.toList),
    (.text Settings.timeoutKey, timeout)]).shown

/-- The settings file to read: the one given, or else the nearest one. -/
def settingsPath (files : Tree) (config : Option (List Char)) :
    Except StrayFault (Option (List Char)) :=
  match config.filter (!·.isEmpty) with
  | some cs => .ok (some (Path.ofText cs).text)
  | none =>
    match Settings.find files {} with
    | .ok p => .ok (p.map Path.text)
    | .error e => .error (.path e)

/-- The kinds of failures that a run foresees where settings are looked for and read. -/
def foreseenKinds : List String := ["FileNotFoundError", "YAMLError", "ValueError"]

/-- How a run ends for want of settings. -/
def endingWithout : LoadError → Ending
  | .stray f => if foreseenKinds.contains f.kindName then .exit unusable else .crash (.load f)
  | _ => .exit unusable

/-- A run that has no settings; that a failure has been foreseen is logged. -/
def withoutSettings (o : Occasion) (e : LoadError) (s : Logging.State) :
    Logging.State × Except Ending Settings :=
  let ending := endingWithout e
  (if ending = .exit unusable then tellFailure o (originInRun 155) "Failed to load settings." s else s,
    .error ending)

/-- Logs that settings are read from a file. -/
def tellLoading (o : Occasion) (path : List Char) (s : Logging.State) : Logging.State :=
  tell o (originIn "__main__" "_load_settings" 93) Logging.info
    ("Loading settings from: " ++ String.ofList path) s

/-- Reads the settings, or says with which ending the run is over. -/
def settingsFor [Yaml.Reader] (o : Occasion) (config : Option (List Char)) (s : Logging.State) :
    Logging.State × Except Ending Settings :=
  match settingsPath s.files config with
  | .error f => withoutSettings o (.stray f) s
  | .ok none =>
    (tell o (originIn "__main__" "_load_settings" 91) Logging.debug
      "No settings file found; using defaults." s, .ok {})
  | .ok (some path) =>
    let s := tellLoading o path s
    match Settings.load s.files path with
    | .ok settings =>
      (tell o (originIn "config" "load_settings" 105) Logging.debug
        ("Loaded settings from " ++ String.ofList path ++ ": " ++ shownSettings settings) s, .ok settings)
    | .error e => withoutSettings o e s

/-! ### Commands -/

def outputLine (cs : List Char) : List Char := cs ++ ['\n']

/-- The line about the outcome of a check. -/
def outcomeLine (o : Outcome) : List Char :=
  let detail := o.failure?.elim o.actual.asAnswer String.toList
  let status := if o.passed then "PASS" else "FAIL"
  outputLine (padRight 5 status.toList ++ ' ' :: padRight 40 o.check.name.toList ++ ' ' :: detail)

/-- Logs what a check has told, and what has become of it. -/
def tellOutcome (o : Occasion) (s : Logging.State) (outcome : Outcome) : Logging.State :=
  let origin := originIn "verification" "run_verification" (if outcome.passed then 85 else 87)
  tell o origin Logging.debug outcome.message (tellEvents o {} outcome.events s)

def runChecks [Engine] (o : Occasion) (settings : Settings) (s : Logging.State) : Run :=
  let outcomes := Check.table.map (Check.run settings.policy)
  let passed := (outcomes.filter Outcome.passed).length
  let s := outcomes.foldl (tellOutcome o) s
  let summary := toString passed ++ "/" ++ toString outcomes.length ++ " checks passed"
  { logging := s
    output := outcomes.flatMap outcomeLine ++ outputLine summary.toList
    ending := .exit (if passed = outcomes.length then success else checksFailed) }

/-- What the log says about a failure of a call that the program foresees, and in which line. -/
def failureMessage? : CallError → Option (Int × String)
  | .argument e => some (161, "Invalid argument: " ++ e.message)
  | .letter l => some (164, "Invalid regular expression: " ++ (CallError.letter l).message)
  | .pattern (.malformed m) => some (164, "Invalid regular expression: " ++ m)
  | _ => none

def runCall [Engine] (o : Occasion) (settings : Settings) (f : Function) (values : Call.Binding)
    (s : Logging.State) : Run :=
  let (showing, told) := f.applyListed settings.policy (Call.valueOf values)
  let s := tellEvents o showing told.events s
  match told.result with
  | .ok v => { logging := s, output := outputLine v.asAnswer, ending := .exit success }
  | .error e =>
    match failureMessage? e with
    | some (line, m) => { logging := tell o (originInRun line) Logging.error m s, ending := .exit unusable }
    | none => { logging := s, ending := .crash (.call e) }

def Command.run [Engine] (o : Occasion) (settings : Settings) (c : Command) (s : Logging.State) : Run :=
  match c with
  | .verify => runChecks o settings s
  | .call f values => runCall o settings f values s

/-- The line about the version of the program. -/
def versionLine (version : List Char) : List Char := "OraRegex ".toList ++ version

/-- A run that arguments stop before any work. -/
def stopped (w : Surroundings) (stop : Stop) : Run :=
  let start : Logging.State := { files := w.files }
  match stop with
  | .help c => { logging := start, output := outputLine (usage c).toList, ending := .exit success }
  | .version =>
    { logging := start, output := outputLine (versionLine w.version), ending := .exit success }
  | .misuse _ _ => { logging := start, complaint := stop.line?, ending := .exit unusable }

def run [Engine] [Yaml.Reader] (w : Surroundings) (arguments : List (List Char)) : Run :=
  match Invocation.ofArguments arguments with
  | .error stop => stopped w stop
  | .ok r =>
    match r.command with
    | none => { logging := { files := w.files }, ending := .exit unusable }
    | some c =>
      let s := Logging.State.setUp { files := w.files } w.version r.debug none w.occasion
      match settingsFor w.occasion r.config s with
      | (s, .error e) => { logging := s, ending := e }
      | (s, .ok settings) => c.run w.occasion settings s

end SqlRegexp.CommandLine
