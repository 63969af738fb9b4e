import SqlRegexp.Files.Tree
import SqlRegexp.Text.Quoted

/-!
The absolute path of a path without any link in it. Names are taken one after the other; one that is
a link gives way to what it leads to, and one that is missing stays as it is. Links that lead back to
themselves have no such path.
-/

namespace SqlRegexp.Files

open SqlRegexp.Text

/-- Why an operation on a path fails. -/
inductive PathError where
  | system (e : Trouble) (p : Path)
  /-- There is a null character in the path. -/
  | nullCharacter
  /-- The links on the path lead back to themselves. -/
  | loop (p : Path)
  /-- There are too many links within links. -/
  | tooDeep
deriving DecidableEq, Repr

namespace PathError

def message : PathError → String
  | system e p =>
    let (number, words) := e.words
    "[Errno " ++ toString number ++ "] " ++ words ++ ": " ++ quotedString p.text
  | nullCharacter => "embedded null byte"
  | loop p => "Symlink loop from " ++ quotedString p.text
  | tooDeep => "maximum recursion depth exceeded"

/-- The word for the kind of a failure, as reports show it. -/
def kindName : PathError → String
  | system e _ =>
    ([(1, "PermissionError"), (2, "FileNotFoundError"), (13, "PermissionError"), (17, "FileExistsError"),
      (20, "NotADirectoryError"), (21, "IsADirectoryError")].lookup e.words.1).getD "OSError"
  | nullCharacter => "ValueError"
  | loop _ => "RuntimeError"
  | tooDeep => "RecursionError"

end PathError

namespace Path

/-- The path of the directory above. From the start of a path that is not absolute it leads further
up. -/
def up (p : Path) : Path :=
  if p.isAbsolute || (p.names.getLast?.any (· != above)) then p.parent else p.child above

end Path

namespace Tree

/-- What a path as a whole means to the system, a link in last place not being followed. -/
def peek (t : Tree) (p : Path) : Except Trouble (Location × Content) := do
  let l ← t.reach false p
  return (l, ← t.look l)

/-- The target of a link; none if there is no link at the path, or nothing that can be looked at. -/
def target? (t : Tree) (p : Path) : Except PathError (Option Path) :=
  if p.hasNull then .error .nullCharacter
  else
    match t.peek p with
    | .ok (l, .link target) =>
      match t.refuses .read l with
      | some e => .error (if e.words.1 = Trouble.tooManyLinks.words.1 then .loop p else .system e p)
      | none => .ok (some target)
    | _ => .ok none

/-- The links met so far, with the paths that they lead to once these are known. -/
abbrev LinksMet := List (Path × Option Path)

/-- A path to which names have been added, and whether they all could be. -/
structure Joined where
  path : Path
  whole : Bool := true
  met : LinksMet

/-- Adds names to a path, given how the target of a link is added to the path of its directory. -/
def joinNames (t : Tree) (joinTarget : LinksMet → Path → Path → Except PathError Joined) :
    LinksMet → Path → List Name → Except PathError Joined
  | met, p, [] => .ok { path := p, met }
  | met, p, n :: ns =>
    if n = Path.above then joinNames t joinTarget met p.up ns
    else if !Path.isName n then joinNames t joinTarget met p ns
    else do
      let next := p.child n
      match (← t.target? next) with
      | none => joinNames t joinTarget met next ns
      | some target =>
        match met.lookup next with
        | some (some known) => joinNames t joinTarget met known ns
        -- the link is met again before it is known where it leads
        | some none => return { path := next.leaving ns, whole := false, met }
        | none => do
          let j ← joinTarget ((next, none) :: met) p target
          if j.whole then joinNames t joinTarget ((next, some j.path) :: j.met) j.path ns
          else return { j with path := j.path.leaving ns }

/-- Adds a path to the path of a directory, through so many links within links. -/
def join (t : Tree) : (within : Nat) → LinksMet → Path → Path → Except PathError Joined
  | within, met, dir, p =>
    let dir := if p.isAbsolute then ⟨1, []⟩ else dir
    match within with
    | 0 => t.joinNames (fun _ _ _ => .error .tooDeep) met dir p.names
    | within + 1 => t.joinNames (join t within) met dir p.names

/-- Whether there are more links on a path than the system follows. -/
def loops (t : Tree) (p : Path) : Bool :=
  match t.lookup p with
  | .error e => e.words.1 == Trouble.tooManyLinks.words.1
  | .ok _ => false

/-- The absolute path of a path, without dots and without links, except where links lead further than
the system follows them. -/
def resolve (t : Tree) (p : Path) : Except PathError Path := do
  let q := { t.settle (← t.join t.linksWithin [] {} p).path with slashes := 1 }
  if q.hasNull then throw .nullCharacter
  if t.loops q then throw (.loop q)
  return q

end Tree

end SqlRegexp.Files
