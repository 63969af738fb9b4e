import SqlRegexp.Match.Run
import SqlRegexp.Match.Walk

/-!
Compiled patterns and their matches in a text: the first match from a place on, and the match at a
place.
-/

namespace SqlRegexp.Match

open SqlRegexp.Pattern SqlRegexp.Unicode

/-- A pattern ready for matching. -/
structure Program where
  /-- The pattern, whose references are resolved. -/
  node : Node Nat
  /-- How many groups the pattern has. -/
  groupCount : Nat
  /-- Whether the longest match at a place is taken instead of the first one found. -/
  longest : Bool
  /-- The repertoire that classes and cases range over. -/
  repertoire : Repertoire
deriving DecidableEq, Repr

namespace State

/-- The match of a state that a whole pattern has reached. -/
def found (s : State) : Found := ⟨s.trail.start, s.pos, s.groups⟩

/-- The length of a group, 0 if it took no part. -/
def groupLength (s : State) (number : Nat) : Nat :=
  match s.span? number with
  | some extent => extent.stop - extent.start
  | none => 0

end State

namespace Program

/-- The setting of a match in a text. -/
def setting (p : Program) (text : Array Char) (searchStart : Nat) : Setting :=
  let referenced := p.node.referenced
  ⟨text, searchStart, referenced, p.repertoire, referenced.isEmpty && !p.node.movesStart⟩

/-- The most calls inside one another: at each place each called group once. -/
def callLimit (p : Program) (cx : Setting) : Nat := (cx.text.size + 2) * (p.node.called.length + 2)

/-- Runs the whole pattern from a place. -/
def runFrom (p : Program) (cx : Setting) (pos : Nat) (rest : Rest) : Attempt :=
  run cx (callsTo cx p.node (p.callLimit cx)) p.node .forward (.initial pos p.groupCount) rest

/-- The first of the ends that measure most `among` those that a match from a place can have, given
the first end of all. No end measures more than the text is long. -/
def improve (p : Program) (cx : Setting) (pos : Nat) (among : State → Bool)
    (measure : State → Nat) : (tries : Nat) → State → State
  | 0, best => best
  | tries + 1, best =>
    let better : Rest := fun s =>
      if among s && decide (measure best < measure s) then .matched s else s.fail
    if measure best = cx.text.size then best
    else match p.runFrom cx pos better with
      | .matched s => improve p cx pos among measure tries s
      | .failed _ => best

/-- The best of the ends `among` those that a match from a place can have by several measures, the
first measure before the others, given the first end of all. -/
def best (p : Program) (cx : Setting) (pos : Nat) :
    List (State → Nat) → (among : State → Bool) → State → State
  | [], _, s => s
  | measure :: measures, among, s =>
    let s := p.improve cx pos among measure (cx.text.size + 1) s
    best p cx pos measures (fun t => among t && measure t == measure s) s

/-- The end of the longest match from a place, given the end of the first one. Of matches that reach
equally far the groups decide, one after the other: then a place alone is no dead end. -/
def longestEnd (p : Program) (cx : Setting) (pos : Nat) (s : State) : State :=
  let farthest := p.improve cx pos (fun _ => true) State.pos (cx.text.size + 1) s
  let lengths := (List.range p.groupCount).map fun i (t : State) => t.groupLength (i + 1)
  p.best { cx with remembers := false } pos lengths (fun t => t.pos == farthest.pos) farthest

/-- The match that starts at a place. -/
def matchFrom (p : Program) (cx : Setting) (pos : Nat) : Attempt :=
  match p.runFrom cx pos .matched with
  | .matched s => .matched (if p.longest then p.longestEnd cx pos s else s)
  | .failed trail => .failed trail

/-- Whether a search tries to match at a place. Within the Western repertoire it looks for the
property that a pattern begins with as it stands, whatever is said of case. -/
def mayStart (p : Program) (cx : Setting) (pos : Nat) : Bool :=
  match p.repertoire, p.node.opening with
  | .western, .one (.property t _) => (cx.code? pos).any (t.holds .western)
  | _, _ => true

/-- The first match from a place on, after at most `tries` attempts. After a failure the search goes
on behind the place where a match would have started. -/
def firstFrom (p : Program) (cx : Setting) : (tries pos : Nat) → Option State
  | 0, _ => none
  | tries + 1, pos =>
    if cx.text.size < pos then none
    else if !p.mayStart cx pos then firstFrom p cx tries (pos + 1)
    else match p.matchFrom cx pos with
      | .matched s => some s
      | .failed trail => firstFrom p cx tries (trail.start + 1)

/-- The first match that starts at a place of the text or after it; a place behind the end stands for
the end. -/
def search (p : Program) (text : Array Char) (pos : Nat) : Option Found :=
  let pos := min pos text.size
  (p.firstFrom (p.setting text pos) (text.size + 1 - pos) pos).map State.found

/-- The match that starts at a place of the text; a place behind the end stands for the end. -/
def matchAt (p : Program) (text : Array Char) (pos : Nat) : Option Found :=
  let pos := min pos text.size
  (p.matchFrom (p.setting text pos) pos).state?.map State.found

end Program

/-- The walk of a pattern through a text. -/
def Program.walk (p : Program) (text : Array Char) : Walk := ⟨text.size, p.search text⟩

end SqlRegexp.Match
