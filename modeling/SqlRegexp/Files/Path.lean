import SqlRegexp.Text.Pieces

/-!
Paths as texts: names separated by slashes, perhaps after slashes that make the path absolute. Empty
names and single dots say nothing and are left out; double dots stay, since what they lead to is a
matter of the files. Only where a link leads all parts are kept: one that says nothing still asks for
a directory before it.
-/

namespace SqlRegexp.Files

open SqlRegexp.Text

/-- The name of a file or directory within a directory. -/
abbrev Name := List Char

structure Path where
  /-- How many slashes it starts with: none, one, or exactly two. -/
  slashes : Nat := 0
  names : List Name := []
deriving DecidableEq, Repr

namespace Path

/-- The name that leads to the directory above. -/
def above : Name := ['.', '.']

/-- Whether a part between slashes is a name. -/
def isName (part : List Char) : Bool := !part.isEmpty && part != ['.']

def ofText (cs : List Char) : Path :=
  let leading := (cs.takeWhile (· == '/')).length
  ⟨if leading = 2 then 2 else min leading 1, (pieces '/' cs).filter isName⟩

/-- The text of a path; the path without names is the dot. -/
def text (p : Path) : List Char :=
  let names := joinPieces ['/'] p.names
  if p.slashes = 0 ∧ p.names.isEmpty then ['.'] else List.replicate p.slashes '/' ++ names

/-- Whether a path does not depend on the working directory. -/
def isAbsolute (p : Path) : Bool := decide (0 < p.slashes)

/-- A path continued by another, which replaces it if it is absolute. -/
def append (p q : Path) : Path :=
  if q.isAbsolute then q else ⟨p.slashes, p.names ++ q.names⟩

/-- A path continued by a name. -/
def child (p : Path) (name : Name) : Path := ⟨p.slashes, p.names ++ [name]⟩

/-- A path continued by parts that are left over; an empty part in front makes them absolute. -/
def leaving (p : Path) : List Name → Path
  | [] :: n :: ns => ⟨1, n :: ns⟩
  | ns => ⟨p.slashes, p.names ++ ns⟩

/-- The path without its last name. -/
def parent (p : Path) : Path := ⟨p.slashes, p.names.dropLast⟩

/-- Whether a name in a path holds a null character, with which no path may be handed to the system. -/
def hasNull (p : Path) : Bool := p.names.any fun n => n.contains '\x00'

/-- A part after names that are settled: a double dot is taken together with the name before it, and
what says nothing is left out. -/
def settleName (settled : List Name) (n : Name) : List Name :=
  if n = above then settled.dropLast else if isName n then settled ++ [n] else settled

def settleNames (names : List Name) : List Name := names.foldl settleName []

end Path

end SqlRegexp.Files
