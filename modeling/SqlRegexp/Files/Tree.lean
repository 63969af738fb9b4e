import SqlRegexp.Files.Path

/-!
A tree of files with a working directory. The tree hangs below a directory of the system, its root;
outside of the root there is nothing. Paths are followed name by name, as the files lie: a double
dot leads to the directory above only from a directory that exists, and a symbolic link leads on to
its target. Whatever there is, the system may refuse to look at it, to read it or to change it.
-/

namespace SqlRegexp.Files

/-- What lies at a location. -/
inductive Content where
  | file (bytes : List UInt8)
  | directory
  /-- A symbolic link; of its target all parts are kept, those that are no names too. -/
  | link (target : Path)
deriving DecidableEq, Repr

/-- The names that lead from the root to a file or directory. -/
abbrev Location := List Name

/-- Why a path leads to nothing, or an operation on files fails. -/
inductive Trouble where
  /-- There is nothing. -/
  | absent
  /-- A file stands where a directory is needed. -/
  | notDirectory
  /-- There is something already. -/
  | taken
  /-- A directory stands where a file is needed. -/
  | isDirectory
  /-- A name, or the path as a whole, is longer than names may be. -/
  | nameTooLong
  /-- There are more links on the way than are followed. -/
  | tooManyLinks
  /-- The system refuses, for a reason with a number and words. -/
  | refused (number : Nat) (words : String)
deriving DecidableEq, Repr

namespace Trouble

/-- The number and the words of a trouble. -/
def words : Trouble → Nat × String
  | absent => (2, "No such file or directory")
  | notDirectory => (20, "Not a directory")
  | taken => (17, "File exists")
  | isDirectory => (21, "Is a directory")
  | nameTooLong => (36, "File name too long")
  | tooManyLinks => (40, "Too many levels of symbolic links")
  | refused number words => (number, words)

/-- The numbers of the troubles that count as there being nothing: no such file, a bad descriptor,
no directory, and too many links. -/
def passedNumbers : List Nat := [2, 9, 20, 40]

/-- Whether a trouble counts as there being nothing where a file is looked for. -/
def isPassed (e : Trouble) : Bool := passedNumbers.contains e.words.1

end Trouble

/-- What the system may refuse at a location. -/
inductive Access where
  /-- To look up a name in a directory. -/
  | search
  /-- To say what there is. -/
  | look
  /-- To read a file or a link. -/
  | read
  /-- To write a file. -/
  | write
  /-- To make something in a directory. -/
  | make
deriving DecidableEq, Repr

structure Tree where
  /-- The absolute path of the root. -/
  root : Path
  /-- The working directory. -/
  here : Location := []
  /-- What there is below the root; the first entry of a location counts. -/
  entries : List (Location × Content) := []
  /-- What the system refuses, and why. -/
  refuses : Access → Location → Option Trouble := fun _ _ => none
  /-- How many links the system follows on the way along a path. -/
  linkLimit : Nat := 40
  /-- How many links within links a path is resolved through, before the interpreter gives up. -/
  linksWithin : Nat := 900

namespace Tree

def content? (t : Tree) (l : Location) : Option Content :=
  if l.isEmpty then some .directory else (t.entries.find? fun e => e.1 == l).map Prod.snd

/-- The target of the link at a location, if there is one. -/
def link? (t : Tree) (l : Location) : Option Path :=
  match t.content? l with
  | some (.link target) => some target
  | _ => none

def put (t : Tree) (l : Location) (c : Content) : Tree :=
  { t with entries := (l, c) :: t.entries.filter fun e => e.1 != l }

def pathOf (t : Tree) (l : Location) : Path := ⟨t.root.slashes, t.root.names ++ l⟩

/-! ### Following paths -/

/-- The number of bytes of a text. -/
def byteCount (cs : List Char) : Nat := (String.ofList cs).utf8ByteSize

/-- The most bytes that a name may have. -/
def nameLimit : Nat := 255

/-- The most bytes that a path may have. -/
def pathLimit : Nat := 4095

/-- Where names lead without following a link. -/
inductive Leg where
  | arrived (l : Location)
  /-- A link in a directory leads elsewhere, and there are names left. -/
  | redirected (dir : Location) (target : Path) (rest : List Name)

/-- Where names lead from a location up to the first link, which may end the way if it is the last
of them and `through` is false. -/
def walk (t : Tree) (through : Bool) : Location → List Name → Except Trouble Leg
  | l, [] => .ok (.arrived l)
  | l, n :: ns =>
    match t.content? l with
    | none => .error .absent
    | some .directory =>
      match t.refuses .search l with
      | some e => .error e
      | none =>
        if n = Path.above then
          if l.isEmpty && !t.root.names.isEmpty then .error .absent else walk t through l.dropLast ns
        else if !Path.isName n then walk t through l ns
        else if nameLimit < byteCount n then .error .nameTooLong
        else
          match t.link? (l ++ [n]) with
          | some target =>
            if ns.isEmpty && !through then .ok (.arrived (l ++ [n]))
            else .ok (.redirected l target ns)
          | none => walk t through (l ++ [n]) ns
    | some _ => .error .notDirectory

/-- Where a path that is met in a directory starts, and by which names it leads on from there. -/
def start (t : Tree) (dir : Location) (p : Path) : Except Trouble (Location × List Name) :=
  if p.isAbsolute then
    if t.root.names.isPrefixOf p.names then .ok ([], p.names.drop t.root.names.length)
    else .error .absent
  else .ok (dir, p.names)

/-- Where names lead from a location, through so many links at most. -/
def follow (t : Tree) (through : Bool) : (links : Nat) → Location → List Name → Except Trouble Location
  | 0, l, ns => do
    match (← t.walk through l ns) with
    | .arrived k => return k
    | .redirected _ _ _ => throw .tooManyLinks
  | links + 1, l, ns => do
    match (← t.walk through l ns) with
    | .arrived k => return k
    | .redirected dir target rest =>
      let (k, names) ← t.start dir target
      follow t through links k (names ++ rest)

/-- The location that a path leads to; there need not be anything at it. If `through` is false, a
link in last place is not followed. -/
def reach (t : Tree) (through : Bool) (p : Path) : Except Trouble Location :=
  if pathLimit < byteCount p.text then .error .nameTooLong
  else (t.start t.here p).bind fun place => t.follow through t.linkLimit place.1 place.2

def locate (t : Tree) (p : Path) : Except Trouble Location := t.reach true p

/-- What there is at a location, if the system says it. -/
def look (t : Tree) (l : Location) : Except Trouble Content :=
  match t.content? l, t.refuses .look l with
  | none, _ => .error .absent
  | some _, some e => .error e
  | some c, none => .ok c

/-- What a path leads to. -/
def lookup (t : Tree) (p : Path) : Except Trouble Content := do t.look (← t.locate p)

/-- Whether a path leads to a file. That a path leads nowhere is no trouble, and neither is a null
character in it. -/
def isFile (t : Tree) (p : Path) : Except Trouble Bool :=
  if p.hasNull then .ok false
  else
    match t.lookup p with
    | .ok (.file _) => .ok true
    | .ok _ => .ok false
    | .error e => if e.isPassed then .ok false else .error e

def isDirectory (t : Tree) (p : Path) : Bool :=
  match t.lookup p with
  | .ok .directory => true
  | _ => false

/-- The absolute path of a path in which no dots are left: each double dot is taken together with the
name before it, whatever the files are. -/
def settle (t : Tree) (p : Path) : Path :=
  let whole := (t.pathOf t.here).append p
  ⟨whole.slashes, Path.settleNames whole.names⟩

/-! ### Reading and changing files -/

/-- The bytes of the file that a path leads to. -/
def read (t : Tree) (p : Path) : Except Trouble (List UInt8) := do
  let l ← t.locate p
  match (← t.look l), t.refuses .read l with
  | .file _, some e => throw e
  | .file bs, none => return bs
  | _, _ => throw .isDirectory

/-- Makes a directory in one that exists. -/
def makeDirectory (t : Tree) (p : Path) : Except Trouble Tree := do
  let l ← t.reach false p
  if (t.content? l).isSome then throw .taken
  match t.refuses .make l.dropLast with
  | some e => throw e
  | none => return t.put l .directory

/-- Makes a directory and, before it, the directories that lead there as far as they are missing.
Those made before a trouble stay. -/
def makeDirectories (t : Tree) (p : Path) : Tree × Option Trouble :=
  match t.makeDirectory p with
  | .ok made => (made, none)
  | .error .absent =>
    if p.names = [] then (t, some .absent)
    else
      match makeDirectories t p.parent with
      | (made, some e) => (made, some e)
      | (made, none) =>
        match made.makeDirectory p with
        | .ok all => (all, none)
        | .error e => if made.isDirectory p then (made, none) else (made, some e)
  -- a directory that is there already need not be made
  | .error e => if t.isDirectory p then (t, none) else (t, some e)
termination_by p.names.length
decreasing_by
  simp only [Path.parent, List.length_dropLast]
  have := List.length_pos_iff.2 ‹¬p.names = []›
  omega

/-- What keeps a file from being made at a location, or from being written if it is there. -/
def writeTrouble? (t : Tree) (l : Location) : Option Trouble :=
  match t.content? l with
  | some (.file _) => t.refuses .write l
  | none => t.refuses .make l.dropLast
  | some _ => some .isDirectory

/-- Makes a file empty, or makes an empty file. -/
def clearFile (t : Tree) (p : Path) : Except Trouble (Location × Tree) := do
  let l ← t.locate p
  match t.writeTrouble? l with
  | some e => throw e
  | none => return (l, t.put l (.file []))

/-- Writes after the end of the file at a location. -/
def extendFile (t : Tree) (l : Location) (bytes : List UInt8) : Tree :=
  match t.content? l with
  | some (.file old) => t.put l (.file (old ++ bytes))
  | _ => t.put l (.file bytes)

end Tree

end SqlRegexp.Files
