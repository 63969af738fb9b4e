import SqlRegexp.Files.Resolve

/-!
Finding the settings file that is nearest to a directory: the directory itself is looked through
first, then the one above it, and so on to the top. Within a directory the names have an order.
-/

namespace SqlRegexp

open SqlRegexp.Files

namespace Settings

/-- The names that a settings file may have, the preferred one first. -/
def fileNames : List Name :=
  ["oraregex.yaml", "oraregex.yml", ".oraregex.yaml", ".oraregex.yml"].map String.toList

/-- A path and the paths of the directories above it, up to the top. -/
def upward (p : Path) : List Path :=
  (List.range (p.names.length + 1)).map fun steps =>
    ⟨p.slashes, p.names.take (p.names.length - steps)⟩

/-- The paths where a settings file for a place is looked for, in their order. -/
def candidates (p : Path) : List Path := (upward p).flatMap fun q => fileNames.map q.child

/-- The first of some paths that leads to a file; trouble with a path before it stops the search. -/
def firstFile (files : Tree) : List Path → Except PathError (Option Path)
  | [] => .ok none
  | p :: ps =>
    match files.isFile p with
    | .error e => .error (.system e p)
    | .ok true => .ok (some p)
    | .ok false => firstFile files ps

/-- The settings file nearest to a place, which is a path from the working directory. -/
def find (files : Tree) (start : Path) : Except PathError (Option Path) := do
  firstFile files (candidates (← files.resolve start))

end Settings

end SqlRegexp
