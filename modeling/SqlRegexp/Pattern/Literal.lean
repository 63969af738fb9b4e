import SqlRegexp.Pattern.Arrangement

/-!
Runs of literal characters in an arranged pattern. Where one letter may match the several letters
that it folds to, the letters of a run are matched together wherever such letters may meet;
elsewhere each character stands for itself.
-/

namespace SqlRegexp.Pattern

open SqlRegexp.Unicode

/-- A literal character that stands alone. -/
def literalNode (code : Nat) (k : Casing) : Node Nat :=
  let plain : Node Nat := .one (.char code true k)
  if k = .full ∧ 1 < (fullFold code).length then .choice [plain, .folded (fullFold code)] else plain

/-- The stretches of a folded text in which the folding of a single letter lies, given where each
starts and stops, in the order of their starts. -/
def longStretches (folded : List Nat) : List (Nat × Nat) :=
  (List.range folded.length).flatMap fun i =>
    let here := folded.drop i
    let fits := longFoldings.toList.filter fun e => e.2.isPrefixOf here
    fits.map fun e => (i, i + e.2.length)

/-- Joins stretches that touch; they come in the order of their starts. -/
def joinStretches : List (Nat × Nat) → List (Nat × Nat)
  | [] => []
  | s :: rest =>
    match joinStretches rest with
    | [] => [s]
    | t :: ts => if t.1 ≤ s.2 then (s.1, max s.2 t.2) :: ts else s :: t :: ts

/-- The patterns of characters from place `start` on, of which the given stretches are matched as
foldings and the others one by one. -/
def cutStretches (codes : List Nat) : (start : Nat) → List (Nat × Nat) → List (Node Nat)
  | start, [] => (codes.drop start).map fun c => literalNode c .simple
  | start, (a, b) :: rest =>
    let plain := ((codes.take a).drop start).map fun c => literalNode c .simple
    let joined : List (Node Nat) :=
      match (codes.take b).drop a with
      | [] => []
      | [c] => [literalNode c .full]
      | inside => [.folded (inside.flatMap fullFold)]
    plain ++ joined ++ cutStretches codes b rest

/-- The patterns of a run of characters. A run without letters of two cases is taken as it is. The
stretches are found in the folding of the run and cut out of the run itself. -/
def runNodes (r : Repertoire) (codes : List Nat) (k : Casing) : List (Node Nat) :=
  let k := if codes.any (hasCaseVariants r) then k else .exact
  match k with
  | .full => cutStretches codes 0
      (joinStretches (longStretches ((codes.flatMap fullFold).flatMap lowerFolded)))
  | k => codes.map fun c => literalNode c k

/-- A run of literal characters, backwards, with its casing. -/
structure LiteralRun where
  codes : List Nat := []
  casing : Casing := .exact

namespace LiteralRun

def nodes (run : LiteralRun) (r : Repertoire) : List (Node Nat) :=
  runNodes r run.codes.reverse run.casing

/-- Adds a character to a run: the patterns that the run leaves if it cannot take the character, and
the run that goes on. A character without case joins a run of any casing. -/
def push (run : LiteralRun) (r : Repertoire) (code : Nat) (k : Casing) :
    List (Node Nat) × LiteralRun :=
  if k = run.casing ∨ (k = .exact ∧ !hasCaseVariants r code) then
    ([], { run with codes := code :: run.codes })
  else (run.nodes r, ⟨[code], k⟩)

/-- The patterns of a run, if there is one, and of what follows it. -/
def before (run : Option LiteralRun) (r : Repertoire) (n : Node Nat) : List (Node Nat) :=
  (run.map (·.nodes r)).getD [] ++ [n]

end LiteralRun

namespace Node

/-- Forms the runs of literal characters of a pattern. Within a sequence the run just before the
pattern is given, and the items from that run on are the result; a pattern that stands alone is the
only one in the result. -/
def formRuns (r : Repertoire) : Node Nat → Option LiteralRun → List (Node Nat)
  | one (.char code true k), run =>
    match run with
    | none => [literalNode code k]
    | some run =>
      let (left, run) := run.push r code k
      left ++ run.nodes r
  | seq (one (.char code true k)) b, run =>
    let (left, run) := (run.getD {}).push r code k
    left ++ b.formRuns r (some run)
  | seq a b, run =>
    (run.map (·.nodes r)).getD [] ++ a.formRuns r none ++ b.formRuns r (some {})
  | alt a b, run =>
    LiteralRun.before run r (.alt (.ofList (a.formRuns r none)) (.ofList (b.formRuns r none)))
  | group n b, run => LiteralRun.before run r (.group n (.ofList (b.formRuns r none)))
  | times g l m b, run => LiteralRun.before run r (.times g l m (.ofList (b.formRuns r none)))
  | atomic b, run => LiteralRun.before run r (.atomic (.ofList (b.formRuns r none)))
  | look behind positive b, run =>
    LiteralRun.before run r (.look behind positive (.ofList (b.formRuns r none)))
  | ifGroup n yes no, run =>
    LiteralRun.before run r
      (.ifGroup n (.ofList (yes.formRuns r none)) (.ofList (no.formRuns r none)))
  | ifLook behind positive test yes no, run =>
    LiteralRun.before run r (.ifLook behind positive (.ofList (test.formRuns r none))
      (.ofList (yes.formRuns r none)) (.ofList (no.formRuns r none)))
  | n, run => LiteralRun.before run r n

/-- A pattern whose runs are formed. -/
def withRuns (r : Repertoire) (n : Node Nat) : Node Nat := .ofList (n.formRuns r none)

end Node

end SqlRegexp.Pattern
