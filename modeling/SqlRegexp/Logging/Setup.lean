import SqlRegexp.Files.Tree
import SqlRegexp.Logging.Record
import SqlRegexp.Text.Utf8

/-!
Where log records go. A record that has the least level goes to all handlers, each of which writes the levels that it is
for. A set-up puts its own handlers in the place of all others: one for the console and, where details are wanted, one
for a log file, which it empties.
-/

namespace SqlRegexp.Logging

open SqlRegexp.Files SqlRegexp.Text SqlRegexp.Time

/-- Where a handler writes records. -/
inductive Target where
  /-- The console, with the message alone. -/
  | plain
  /-- The console, in lines that show a version. -/
  | console (version : List Char)
  /-- The file at a location. -/
  | file (l : Location)
deriving DecidableEq, Repr

structure Handler where
  /-- The least level that it writes. -/
  level : Int
  target : Target
deriving DecidableEq, Repr

namespace Handler

/-- The handler of records where there is no other. -/
def lastResort : Handler := ⟨warning, .plain⟩

def file? (h : Handler) : Option Location :=
  match h.target with
  | .file l => some l
  | _ => none

end Handler

/-- What is known where a record is made, beside what it says. -/
structure Occasion where
  now : Moment
  parts : List (List Char × Part) := []
  /-- How a failure has come about. -/
  failure : List Char := []

/-- The files, the handlers of records, and what has been written to the console so far. -/
structure State where
  files : Tree
  /-- The least level of the records that go to handlers. -/
  level : Int := warning
  handlers : List Handler := []
  /-- The lines of records; in the place of one that cannot be composed, why that is so. -/
  console : List (Except TemplateError (List Char)) := []

namespace State

/-- The usual directory of the log file, within another. -/
def directoryIn (p : Path) : Path := p.append ⟨0, [".oraregex".toList, "logs".toList]⟩

def fileName : Name := "debug.log".toList

/-- The path of the log file within the usual directory. -/
def usualFile (p : Path) : Path := (directoryIn p).child fileName

/-! ### Writing -/

/-- Writes a line to the console, or why it cannot be composed. -/
def toConsole (s : State) (line : Except TemplateError (List Char)) : State :=
  { s with console := s.console ++ [line] }

/-- Writes a line at the end of a file. -/
def toFile (s : State) (l : Location) (line : List Char) : State :=
  { s with files := s.files.extendFile l (Utf8.encode (line ++ ['\n'])) }

/-- Has a handler write a record, if its level is one that the handler is for. -/
def handle (r : Record) (s : State) (h : Handler) : State :=
  if r.level < h.level then s
  else
    match h.target with
    | .plain => s.toConsole (.ok (r.withTraces r.message))
    | .console version => s.toConsole (r.consoleLine version)
    | .file l => s.toFile l r.fileLine

/-- The handlers that records go to. -/
def inForce (s : State) : List Handler := if s.handlers.isEmpty then [.lastResort] else s.handlers

/-- Writes a record to wherever the handlers write it. -/
def log (s : State) (r : Record) : State :=
  if r.level < s.level then s else s.inForce.foldl (handle r) s

/-! ### Setting up -/

/-- Makes the log file in a directory, which is made as well if it is missing. What has been made
before a trouble stays. -/
def openFile (files : Tree) (dir : Path) : Tree × Option Location :=
  match files.makeDirectories dir with
  | (made, some _) => (made, none)
  | (made, none) =>
    match made.clearFile (made.settle (dir.child fileName)) with
    | .ok (l, cleared) => (cleared, some l)
    | .error _ => (made, none)

/-- A record from the set-up of logging. -/
def setUpRecord (o : Occasion) (level line : Int) (message : List Char) (parts : List (List Char × Part)) : Record where
  created := o.now
  origin := { function := some "setup_logging".toList, line }
  level := level
  message := message
  parts := parts ++ o.parts

/-- The record of a log file that has been opened. -/
def openedRecord (dir : Path) (o : Occasion) : Record :=
  let start := "Debug mode enabled. Detailed logs will be written to "
  let path := (dir.child fileName).text
  let arguments := "(PosixPath(".toList ++ quoted path ++ "),)".toList
  setUpRecord o info 89 (start.toList ++ path)
    [("msg".toList, .text (start.toList ++ ['%', 's'])), ("args".toList, .other "tuple" arguments arguments {})]

/-- The record of a log file that could not be opened. -/
def failedRecord (o : Occasion) : Record :=
  let message := "Failed to create debug log file. Continuing with console logging only.".toList
  let arguments := "()".toList
  { setUpRecord o error 92 message
      [("msg".toList, .text message), ("args".toList, .other "tuple" arguments arguments {})] with
    failure := o.failure }

/-- Adds a handler for a log file within a directory, if the file can be opened. Which of the two it is, is logged. With
a null character in its path the set-up fails here, before anything is done or logged. -/
def addFile (s : State) (dir : Path) (o : Occasion) : State :=
  if dir.hasNull then s
  else
    match openFile s.files dir with
    | (files, some l) =>
      log { s with files, handlers := s.handlers ++ [⟨debug, .file l⟩] } (openedRecord dir o)
    | (files, none) => log { s with files } (failedRecord o)

/-- The least level that a set-up has written. -/
def leastLevel (details : Bool) : Int := if details then debug else warning

/-- The directory of the log file: without one given, the usual one. -/
def logDirectory (s : State) (dir : Option Path) : Path :=
  dir.getD (directoryIn (s.files.pathOf s.files.here))

/-- Sets up logging, with a log file where details are wanted. -/
def setUp (s : State) (version : List Char) (details : Bool) (dir : Option Path) (o : Occasion) : State :=
  let level := leastLevel details
  let s := { s with level, handlers := [⟨level, .console version⟩] }
  if details then s.addFile (s.logDirectory dir) o else s

end State

/-! ### Runs -/

/-- What may be asked of logging. -/
inductive Step where
  | setUp (version : List Char) (details : Bool) (dir : Option Path) (o : Occasion)
  | log (r : Record)

namespace State

def take (s : State) : Step → State
  | .setUp version details dir o => s.setUp version details dir o
  | .log r => s.log r

/-- The state after several steps. -/
def run (s : State) (steps : List Step) : State := steps.foldl take s

end State

end SqlRegexp.Logging
