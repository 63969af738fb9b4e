import SqlRegexp.CommandLine.Run
import SqlRegexp.Engine.Reference
import Std.Time.DateTime.Timestamp

/-!
The program. The files that a run may look at are read first, the run is computed, and then its
output, its log lines and its log file are written.
-/

namespace SqlRegexp.Program

open SqlRegexp.CommandLine SqlRegexp.Files SqlRegexp.Logging SqlRegexp.Text SqlRegexp.Time

def version : String := "1.0.0"

def pathString (p : Path) : String := String.ofList p.text

/-- The absolute paths that a run may look at: where settings files are looked for, the file given
for the settings, and the log file. -/
def pathsOfInterest (here : Path) (arguments : List String) : List Path :=
  let config := match Invocation.ofArguments (arguments.map String.toList) with
    | .ok r => r.config.toList
    | .error _ => []
  Settings.candidates here ++ [State.usualFile here]
    ++ config.map fun cs => here.append (.ofText cs)

/-- Reads into a tree what lies on a path and on the way to it. -/
def readPath (t : Tree) (p : Path) : IO Tree := do
  let names := Path.settleNames p.names
  let mut t := t
  for count in List.range names.length do
    let l := names.take (count + 1)
    let place := (← IO.currentDir) / pathString ⟨1, l⟩
    if (t.content? l).isNone then
      if (← place.isDir) then t := t.put l .directory
      else if (← place.pathExists) then
        t := t.put l (.file (← IO.FS.readBinFile place).toList)
  return t

def currentMoment : IO Moment := do
  let now := (← Std.Time.Timestamp.now).val
  return ⟨now.second.val, now.nano.val / 1000⟩

/-- Writes the log file of a run, if it has one. -/
def writeLogFile (r : Run) : IO Unit := do
  match r.logging.handlers.findSome? Handler.file? with
  | none => return
  | some l =>
    match r.logging.files.content? l with
    | some (.file bytes) =>
      IO.FS.createDirAll (pathString ⟨1, l.dropLast⟩)
      IO.FS.writeBinFile (pathString ⟨1, l⟩) (ByteArray.mk bytes.toArray)
    | _ => return

/-- What stands on the console for a record. -/
def consoleText : Except TemplateError (List Char) → String
  | .ok cs => String.ofList cs
  | .error e => "--- Logging error ---\n" ++ e.kindName ++ ": " ++ e.message

/-- The exit code of a run; that of a crash is that of failed checks. -/
def exitCode : Ending → UInt32
  | .exit code => UInt32.ofNat code
  | .crash _ => UInt32.ofNat checksFailed

/-- What is said about the ending of a run. -/
def endingLine? : Ending → Option String
  | .exit _ => none
  | .crash (.call e) => some (e.kindName ++ ": " ++ e.message)
  | .crash (.load f) => some f.message

end SqlRegexp.Program

open SqlRegexp SqlRegexp.CommandLine SqlRegexp.Files SqlRegexp.Program in
/-- Runs the program on its arguments. -/
def main (arguments : List String) : IO UInt32 := do
  let here := Path.ofText (← IO.currentDir).toString.toList
  let start : Tree := { root := ⟨1, []⟩, here := here.names }
  let files ← (pathsOfInterest here arguments).foldlM readPath (← readPath start here)
  let w : Surroundings := ⟨files, version.toList, { now := ← currentMoment }⟩
  let r := @CommandLine.run Engine.reference Yaml.Reader.reference w (arguments.map String.toList)
  writeLogFile r
  let console ← IO.getStderr
  for line in r.complaint.toList ++ r.logging.console.map consoleText ++ (endingLine? r.ending).toList do
    console.putStrLn line
  (← IO.getStdout).putStr (String.ofList r.output)
  return exitCode r.ending
