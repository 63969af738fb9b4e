/-!
Cutting a text at every occurrence of a separator, and joining the parts again.
-/

namespace SqlRegexp.Text

/-- Puts a character in front of the first part. -/
def consPiece (c : Char) : List (List Char) → List (List Char)
  | [] => [[c]]
  | p :: ps => (c :: p) :: ps

/-- The parts between the separators; there is one more part than separators. -/
def pieces (sep : Char) (cs : List Char) : List (List Char) :=
  cs.foldr (fun c ps => if c = sep then [] :: ps else consPiece c ps) [[]]

/-- The words of a text, which blanks and line feeds separate. -/
def wordsOf (cs : List Char) : List (List Char) :=
  (pieces ' ' (cs.map fun c => if c = '\n' then ' ' else c)).filter fun p => !p.isEmpty

/-- The parts with the separator between each two of them. -/
def joinPieces (sep : List Char) : List (List Char) → List Char
  | [] => []
  | [p] => p
  | p :: ps => p ++ sep ++ joinPieces sep ps

end SqlRegexp.Text
