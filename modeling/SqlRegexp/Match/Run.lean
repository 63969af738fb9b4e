import SqlRegexp.Match.State

/-!
Matching by backtracking. A pattern is run from a state with a continuation, which says what is to
be matched after it; the first way through both is the answer. Alternatives are tried in the order
in which they are written, and repeats in the order of their greed. Behind a place a pattern is run
backwards.

A run that fails gives back what it leaves behind, and what is tried next goes on with that. A
pattern may have moved the start of the reported match: it is put back only where the way that moved
it is given up step by step, and an atomic pattern or a look at what is ahead or behind is given up
as a whole. And a repeat remembers the places from which it could not go on.

Two things are bounded by numbers, so that every run ends: the rounds of a repeat, of which only
those count that move or change a group that the pattern asks for, and the depth of calls.
-/

namespace SqlRegexp.Match

open SqlRegexp.Pattern SqlRegexp.Unicode

/-- What a run comes to. -/
inductive Attempt where
  /-- A way through, and the state at its end. -/
  | matched (s : State)
  /-- No way through, and what is left behind. -/
  | failed (trail : Trail)

namespace Attempt

/-- Tries something else if a run has failed. -/
def orElse (o : Attempt) (other : Trail → Attempt) : Attempt :=
  match o with
  | matched s => matched s
  | failed trail => other trail

/-- The state at the end of a way through. -/
def state? : Attempt → Option State
  | matched s => some s
  | failed _ => none

end Attempt

/-- What is left to match after a pattern. -/
abbrev Rest := State → Attempt

/-- How a called group is run: its number, then as any pattern. -/
abbrev Calls := Nat → Direction → State → Rest → Attempt

namespace State

/-- The state after one character in a direction. -/
def step (s : State) : Direction → State
  | .forward => { s with pos := s.pos + 1 }
  | .backward => { s with pos := s.pos - 1 }

/-- The state after something else has been tried in vain from it. -/
def after (s : State) (trail : Trail) : State := { s with trail := trail }

/-- The state in which the reported match starts at its place. -/
def startingHere (s : State) : State := { s with trail := { s.trail with start := s.pos } }

/-- The state after a repeat has been entered. -/
def entering (s : State) : State :=
  { s with trail := { s.trail with entries := s.trail.entries + 1 } }

def fail (s : State) : Attempt := .failed s.trail

/-- Goes on from the state reached, or fails in this one if there is none. -/
def andThen (s : State) (reached : Option State) (rest : Rest) : Attempt :=
  match reached with
  | some t => rest t
  | none => s.fail

end State

namespace Setting

/-- Matches code points one by one in a direction, from the side that the direction meets first. -/
def passCodes (cx : Setting) (k : Casing) (d : Direction) : List Nat → State → Option State
  | [], s => some s
  | c :: cs, s =>
    match cx.next? d s.pos with
    | some n => if k.same cx.repertoire c n then passCodes cx k d cs (s.step d) else none
    | none => none

/-- The part of `codes` that is left after `folding` has been taken off its front, if it agrees. -/
def stripFolding (r : Repertoire) : (folding codes : List Nat) → Option (List Nat)
  | [], codes => some codes
  | _ :: _, [] => none
  | f :: fs, c :: cs => if sameFolded r f c then stripFolding r fs cs else none

/-- Matches characters whose foldings make up the given code points. Each character folds to at
least one code point, so there are at most as many rounds as code points. -/
def passFolded (cx : Setting) (d : Direction) : (rounds : Nat) → List Nat → State → Option State
  | _, [], s => some s
  | 0, _ :: _, _ => none
  | rounds + 1, codes, s =>
    match cx.next? d s.pos with
    | none => none
    | some n =>
      let folding := match d with
        | .forward => foldWithin cx.repertoire n
        | .backward => (foldWithin cx.repertoire n).reverse
      match stripFolding cx.repertoire folding codes with
      | some left => passFolded cx d rounds left (s.step d)
      | none => none

/-- Code points in the order in which a direction meets them. -/
def inOrder (d : Direction) (codes : List Nat) : List Nat :=
  match d with
  | .forward => codes
  | .backward => codes.reverse

/-- Matches the text of a group once more. -/
def passGroup (cx : Setting) (k : Casing) (d : Direction) (extent : Span) (s : State) :
    Option State :=
  let codes := cx.codes extent
  if k = .full then
    let folded := codes.flatMap (foldWithin cx.repertoire)
    cx.passFolded d folded.length (inOrder d folded) s
  else cx.passCodes k d (inOrder d codes) s

/-- The most rounds of a repeat that can matter: as many as are wanted at least, one for each place
of the text, and at each place one for each group that the pattern asks for. -/
def roundLimit (cx : Setting) (least : Nat) : Nat :=
  least + (cx.text.size + 1) * (2 * cx.referenced.length + 1) + 1

end Setting

/-- Whether one more round is allowed. -/
def mayEnter (most : Option Nat) (count : Nat) : Bool := most.all (fun m => decide (count < m))

/-- Rounds done as far as they count: without an upper bound all counts from the lower bound on are
alike. -/
def countThatMatters (least : Nat) (most : Option Nat) (count : Nat) : Nat :=
  if most.isNone then min count least else count

/-- Tries what goes on from a place, unless the place is known as a dead end; if all fails, it is
one from then on. -/
def fromPlace (place : Option DeadEnd) (s : State) (goOn : Unit → Attempt) : Attempt :=
  match place with
  | none => goOn ()
  | some e =>
    if s.trail.deadEnds.contains e then s.fail
    else (goOn ()).orElse fun trail =>
      .failed { trail with deadEnds := trail.deadEnds.insert e }

/-- Runs the rounds of a repeat of which `count` are done. Once there are as many as wanted, a round
that neither moves nor changes a group that the pattern asks for is the last. The entry into the
repeat is given if dead ends are to be remembered. -/
def rounds (body : State → Rest → Attempt) (greed : Greed) (least : Nat) (most : Option Nat)
    (entry : Option Nat) (rest : Rest) : (limit count : Nat) → State → Attempt
  | 0, _, s => s.fail
  | limit + 1, count, s =>
    -- a round that comes back to its place has nothing to add to enough rounds
    let enter : Trail → Attempt := fun trail =>
      if mayEnter most count then
        body (s.after trail) fun t =>
          if least ≤ count + 1 ∧ t.pos = s.pos ∧ t.changes = s.changes then rest t
          else rounds body greed least most entry rest limit (count + 1) t
      else .failed trail
    let leave : Trail → Attempt := fun trail =>
      if least ≤ count then rest (s.after trail) else .failed trail
    let place := entry.map fun e => DeadEnd.mk e (countThatMatters least most count) s.pos
    fromPlace place s fun _ =>
      match greed with
      | .greedy => (enter s.trail).orElse leave
      | .lazy => (leave s.trail).orElse enter

/-- Runs a pattern from a state, and then the rest. -/
def run (cx : Setting) (calls : Calls) : Node Nat → Direction → State → Rest → Attempt
  | .empty, _, s, rest => rest s
  | .fail, _, s, _ => s.fail
  | .one t, d, s, rest =>
    match cx.next? d s.pos with
    | some n => if t.holds cx.repertoire n then rest (s.step d) else s.fail
    | none => s.fail
  | .folded codes, d, s, rest =>
    s.andThen (cx.passFolded d codes.length (Setting.inOrder d codes) s) rest
  | .assertion a, _, s, rest => if cx.satisfies a s.pos then rest s else s.fail
  | .notAssertion a, _, s, rest => if cx.satisfies a s.pos then s.fail else rest s
  | .seq a b, .forward, s, rest =>
    run cx calls a .forward s fun t => run cx calls b .forward t rest
  -- backward the part that stands last is met first
  | .seq a b, .backward, s, rest =>
    run cx calls b .backward s fun t => run cx calls a .backward t rest
  | .alt a b, d, s, rest =>
    (run cx calls a d s rest).orElse fun trail => run cx calls b d (s.after trail) rest
  | .group number body, d, s, rest =>
    run cx calls body d s fun t => rest (t.capture cx.referenced number s.pos t.pos)
  | .times greed least most body, d, s, rest =>
    let entry := if cx.remembers && !body.isSingle then some s.trail.entries else none
    rounds (run cx calls body d) greed least most entry rest (cx.roundLimit least) 0 s.entering
  | .atomic body, d, s, rest =>
    match run cx calls body d s .matched with
    | .matched t => rest t
    | .failed trail => .failed trail
  | .look behind positive body, _, s, rest =>
    match run cx calls body (if behind then .backward else .forward) s .matched with
    | .matched t => if positive then rest { t with pos := s.pos } else t.fail
    | .failed trail => if positive then .failed trail else rest (s.after trail)
  | .backref number k, d, s, rest =>
    s.andThen ((s.span? number).bind fun extent => cx.passGroup k d extent s) rest
  | .ifGroup number yes no, d, s, rest =>
    if (s.span? number).isSome then run cx calls yes d s rest else run cx calls no d s rest
  | .ifLook behind positive test yes no, d, s, rest =>
    match run cx calls test (if behind then .backward else .forward) s .matched with
    | .matched t =>
      if positive then run cx calls yes d { t with pos := s.pos } rest
      else run cx calls no d (s.after t.trail) rest
    | .failed trail =>
      let s := s.after trail
      if positive then run cx calls no d s rest else run cx calls yes d s rest
  | .call number, d, s, rest => calls number d s rest
  | .keep, _, s, rest =>
    -- should the rest fail, the match starts where it did
    (rest s.startingHere).orElse fun trail => .failed { trail with start := s.trail.start }

/-- Runs called groups, down to a depth. After a call the groups are what they were before it. -/
def callsTo (cx : Setting) (whole : Node Nat) : (depth : Nat) → Calls
  | 0, _, _, s, _ => s.fail
  | depth + 1, number, d, s, rest =>
    match if number = 0 then some whole else whole.bodyOf number with
    | some body =>
      run cx (callsTo cx whole depth) body d s fun t => rest { t with groups := s.groups }
    | none => s.fail

end SqlRegexp.Match
