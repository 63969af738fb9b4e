import SqlRegexp.Logging.Template
import SqlRegexp.Time.Format

/-!
Log records and the lines that they are written as. The line for the console follows a template, in
which the version of the program stands as it is. Behind either line comes how a failure came about,
if the record tells of one.
-/

namespace SqlRegexp.Logging

open SqlRegexp.Text SqlRegexp.Time

/-- Where in the program records come from. -/
structure Origin where
  logger : List Char := "root".toList
  /-- The function, if it is known. -/
  function : Option (List Char) := none
  line : Int := 0

structure Record where
  created : Moment
  origin : Origin := {}
  level : Int
  message : List Char
  /-- The other parts, such as the number of the process. -/
  parts : List (List Char × Part) := []
  /-- How a failure came about. -/
  failure : List Char := []
  /-- How the program came to where the record is made. -/
  stack : List Char := []

/-- The levels that have names. -/
def levelNames : List (Int × String) :=
  [(0, "NOTSET"), (10, "DEBUG"), (20, "INFO"), (30, "WARNING"), (40, "ERROR"), (50, "CRITICAL")]

/-- The level of details. -/
def debug : Int := 10

/-- The level of what is worth knowing. -/
def info : Int := 20

def warning : Int := 30

def error : Int := 40

def levelName (level : Int) : List Char :=
  ((levelNames.lookup level).getD ("Level " ++ toString level)).toList

namespace Record

/-- The format of the moments in log lines. -/
def momentFormat : List Char := "%Y-%m-%dT%H:%M:%S".toList

/-- The parts that every record has. -/
def commonParts (r : Record) : List (List Char × Part) :=
  [("asctime".toList, .text (r.created.stamp momentFormat)), ("message".toList, .text r.message),
    ("name".toList, .text r.origin.logger), ("levelname".toList, .text (levelName r.level)),
    ("levelno".toList, .integer r.level), ("funcName".toList, r.origin.function.elim .none .text),
    ("lineno".toList, .integer r.origin.line)]

def part? (r : Record) (name : List Char) : Option Part := (r.commonParts ++ r.parts).lookup name

/-- A line with a trace behind it, which starts a line of its own. -/
def withTrace (line trace : List Char) : List Char :=
  if trace.isEmpty then line
  else (if line.getLast? = some '\n' then line else line ++ ['\n']) ++ trace

/-- A line with what the record tells of a failure and of the way to where it was made. -/
def withTraces (r : Record) (line : List Char) : List Char :=
  withTrace (withTrace line r.failure) r.stack

/-- The template of the lines on the console, which show the version of the program. -/
def consoleTemplate (version : List Char) : List Char :=
  "%(asctime)s | OraRegex - ".toList ++ version ++ " | %(message)s".toList

/-- The line of a record in a log file. -/
def fileLine (r : Record) : List Char :=
  r.withTraces (r.created.stamp momentFormat ++ " | ".toList ++ padRight 20 r.origin.logger
    ++ " | ".toList ++ padRight 20 (r.origin.function.getD "None".toList) ++ ':'
    :: padRight 4 (zeroPadded 0 r.origin.line) ++ " | ".toList ++ padRight 8 (levelName r.level)
    ++ " | ".toList ++ r.message)

/-- The line of a record on the console. -/
def consoleLine (r : Record) (version : List Char) : Except TemplateError (List Char) :=
  r.withTraces <$> Template.fill r.part? (consoleTemplate version)

end Record

end SqlRegexp.Logging
