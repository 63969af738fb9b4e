import SqlRegexp.Pattern.Node

/-!
Arranging a pattern before it is matched. Sequences within sequences and choices within choices
become one, what all branches of a choice begin with is taken out of it, and neighbouring branches
of one character each become a class.

A class of characters that are left out one by one leaves them out together. Hence a choice between
all characters but one and all characters but another matches neither of the two.
-/

namespace SqlRegexp.Pattern

open SqlRegexp.Unicode

/-! ### Classes -/

namespace Member

def property? : Member → Option PropertyTest
  | having (.property t) => some t.unscoped
  | _ => none

/-- Whether the members ask for a property and for its opposite too. -/
def areComplementary (ms : List Member) : Bool :=
  let tests := ms.filterMap property?
  tests.any fun t => t.positive && tests.contains { t with positive := false }

def trait? : Member → Option Trait
  | having t => some t
  | _ => none

end Member

namespace CharTest

/-- The members that a test contributes to a class, if it is of the kind that classes are made of:
one character, a property, or a class. A range is not. -/
def members? : CharTest → Option (List Member)
  | char code true _ => some [.having (.code code)]
  | char code false _ => some [.notCode code]
  | property t _ => some [.having (.property t)]
  | oneOf ms true _ => some ms
  | oneOf ms false _ => (ms.mapM Member.trait?).map fun ts => [.noneOf ts]
  | _ => none

/-- How case enters a test. -/
def casing : CharTest → Casing
  | char _ _ k | range _ _ _ k | property _ k | oneOf _ _ k => k
  | _ => .exact

/-- The class of members, or what it leaves out. A class that asks for a property and for its
opposite comes to all characters either way. -/
def ofMembers (ms : List Member) (positive : Bool) (k : Casing) : CharTest :=
  if Member.areComplementary ms then .any else .oneOf ms positive k

/-- One test in place of several between which there is a choice. -/
def joined (ts : List CharTest) (k : Casing) : CharTest :=
  ofMembers ((ts.filterMap members?).flatten) true k

/-- The foldings of the characters inside a test on whose folding case is compared letter by
letter. -/
def longMembers (r : Repertoire) (inside : Nat → Bool) : CharTest → List (List Nat)
  | range _ _ true .full | oneOf _ true .full =>
    if r = .western then [] else
      ((longFoldings.toList.filter fun e => inside e.1).map Prod.snd).eraseDups
  | _ => []

/-- A test as a pattern. Where letters match what they fold to, so do those of a range or a class;
a range that has such letters only is given by their foldings alone. -/
def arranged (r : Repertoire) (t : CharTest) : Node Nat :=
  match t with
  | oneOf ms positive k =>
    let own := ofMembers ms positive k
    let long := own.longMembers r fun n => Member.anyHolds ms r [n]
    .choice (.one own :: long.map .folded)
  | range low high _ _ =>
    let long := t.longMembers r fun n => decide (low ≤ n ∧ n ≤ high)
    if high - low < long.length then .choice (long.map .folded)
    else .choice (.one t :: long.map .folded)
  | t => .one t

end CharTest

/-! ### Sequences and choices -/

namespace Node

variable {ρ : Type}

/-- The patterns that follow one another in a pattern. -/
def items : Node ρ → List (Node ρ)
  | empty => []
  | seq a b => a.items ++ b.items
  | n => [n]

/-- The branches from one on. -/
def chained : Node ρ → List (Node ρ)
  | alt a b => a :: b.chained
  | fail => []
  | n => [n]

/-- The patterns between which there is a choice. -/
def branches : Node ρ → List (Node ρ)
  | alt a b => a :: b.chained
  | n => [n]

/-- The pattern without the scopes of its properties and boundaries. -/
def unscoped : Node ρ → Node ρ
  | one t => .one t.unscoped
  | assertion (.wordBoundary edge _) => .assertion (.wordBoundary edge none)
  | notAssertion (.wordBoundary edge _) => .notAssertion (.wordBoundary edge none)
  | seq a b => .seq a.unscoped b.unscoped
  | alt a b => .alt a.unscoped b.unscoped
  | group n b => .group n b.unscoped
  | times g l m b => .times g l m b.unscoped
  | atomic b => .atomic b.unscoped
  | look behind positive b => .look behind positive b.unscoped
  | ifGroup n yes no => .ifGroup n yes.unscoped no.unscoped
  | ifLook behind positive test yes no =>
    .ifLook behind positive test.unscoped yes.unscoped no.unscoped
  | n => n

/-- Whether a pattern may be taken out of the branches that begin with it. -/
def isShareable : Node ρ → Bool
  | empty | seq _ _ | group _ _ | times _ _ _ _ => false
  | alt a fail => a.isShareable
  | alt a b => a.isShareable && b.isShareable
  | atomic b => b.isShareable
  | look _ _ b => b.isShareable
  | ifGroup _ yes no => yes.isShareable && no.isShareable
  | ifLook _ _ test yes no => test.isShareable && yes.isShareable && no.isShareable
  | _ => true

end Node

/-! ### Common beginnings -/

/-- How many patterns all sequences begin with. Patterns that differ in scopes only are the same
here. -/
def sharedCount : List (Node Nat) → List (List (Node Nat)) → Nat
  | [], _ => 0
  | n :: ns, others =>
    let same : List (Node Nat) → Bool := fun o => o.head?.any fun m => m.unscoped == n.unscoped
    if n.isShareable && others.all same then sharedCount ns (others.map List.tail) + 1 else 0

/-- The letter of a pattern that matches it and what it folds to. -/
def fullLetter? : Node Nat → Option Nat
  | .one (.char code true .full) => some code
  | _ => none

/-- The letter of a pattern that matches it in any case. -/
def casedLetter? : Node Nat → Option Nat
  | .one (.char code true k) => if k.ignoresCase then some code else none
  | _ => none

/-- Whether patterns are letters that a single one folds to. -/
def foldTogether (ns : List (Node Nat)) : Bool :=
  match ns.mapM casedLetter? with
  | some codes =>
    let folded := codes.flatMap fullFold
    1 < ns.length && longFoldings.any fun e => e.2 == folded
  | none => false

/-- Whether a sequence may be cut at a place: the letters on both sides must not be what a single
letter folds to. -/
def mayCut (items : List (Node Nat)) (place : Nat) : Bool :=
  let isFull := fun (i : Nat) => (items[i]?).any fun n => (fullLetter? n).isSome
  let together := fun (start stop : Nat) => foldTogether ((items.take stop).drop start)
  if place = 0 || !isFull (place - 1) || !isFull place then true
  else !(together (place - 1) (place + 1)
    || isFull (place + 1) && together (place - 1) (place + 2)
    || decide (2 ≤ place) && isFull (place - 2) && together (place - 2) (place + 1))

/-- The most patterns, up to a number, that may be cut off all sequences. -/
def cuttable (mayCutAt : Nat → Bool) : Nat → Nat
  | 0 => 0
  | count + 1 => if mayCutAt (count + 1) then count + 1 else cuttable mayCutAt count

/-- What all branches begin with, in the direction in which they are matched, and the branches
without it. -/
def takeShared (r : Repertoire) (behind : Bool) (branches : List (Node Nat)) :
    List (Node Nat) × List (Node Nat) :=
  let lists := branches.map Node.items
  let ordered := if behind then lists.map List.reverse else lists
  match ordered with
  | [] => ([], branches)
  | first :: others =>
    let mayCutAt := fun (count : Nat) =>
      r == .western || lists.all fun l => mayCut l (if behind then l.length - count else count)
    match cuttable mayCutAt (sharedCount first others) with
    | 0 => ([], branches)
    | count =>
      -- what a look behind shares is the end of its branches
      let restored := fun (l : List (Node Nat)) => if behind then l.reverse else l
      (restored (first.take count), ordered.map fun l => .ofList (restored (l.drop count)))

/-! ### Neighbouring characters -/

/-- Tests with a common casing as one branch. Of tests that differ in scopes only the first
counts. -/
def joinedBranch (tests : List CharTest) (k : Casing) : List (Node Nat) :=
  match tests.eraseDupsBy (fun a b => a.unscoped == b.unscoped) with
  | [] => []
  | [t] => [.one t]
  | ts => [.one (.joined ts k)]

/-- Joins neighbouring branches of one character each, as far as they treat case alike; `pending`
are the tests of those just before, backwards. -/
def joinSingles : (pending : List CharTest) → Casing → List (Node Nat) → List (Node Nat)
  | pending, k, [] => joinedBranch pending.reverse k
  | pending, k, n :: ns =>
    match n with
    | .one t =>
      if t.members?.isNone then joinedBranch pending.reverse k ++ n :: joinSingles [] k ns
      else if t.casing = k then joinSingles (t :: pending) k ns
      else joinedBranch pending.reverse k ++ joinSingles [t] t.casing ns
    | n => joinedBranch pending.reverse k ++ n :: joinSingles [] k ns

/-- The choice between arranged branches. -/
def joinBranches (r : Repertoire) (behind : Bool) (branches : List (Node Nat)) : Node Nat :=
  let (shared, rest) := takeShared r behind branches
  let choice : Node Nat := .choice (joinSingles [] .exact rest)
  .ofList (if behind then choice :: shared else shared ++ [choice])

/-! ### Whole patterns -/

/-- Where a pattern stands. -/
inductive Place where
  | alone
  /-- Among the items of a sequence. -/
  | inSequence
  /-- Among the branches of a choice. -/
  | inChoice
deriving DecidableEq, Repr

namespace Node

/-- A pattern as it stands at a place. -/
def spliced (p : Place) (n : Node Nat) : List (Node Nat) :=
  if p = .inSequence then n.items else [n]

/-- Arranges a pattern, which is matched forward or backward; the result is one pattern, or the
items or branches that it contributes to what it stands in. -/
def arrange (r : Repertoire) : Node Nat → (behind : Bool) → Place → List (Node Nat)
  | seq a b, behind, p =>
    let both := a.arrange r behind .inSequence ++ b.arrange r behind .inSequence
    if p = .inSequence then both else [.ofList both]
  | alt a b, behind, p =>
    let first : Node Nat := .ofList (a.arrange r behind .alone)
    let both := first.branches ++ b.arrange r behind .inChoice
    if p = .inChoice then both else spliced p (joinBranches r behind both)
  | fail, _, p => if p = .inChoice then [] else [.fail]
  | one t, _, p => spliced p (t.arranged r)
  | group n b, behind, _ => [.group n (.ofList (b.arrange r behind .alone))]
  | times g l m b, behind, _ => [.times g l m (.ofList (b.arrange r behind .alone))]
  | atomic b, behind, p =>
    let b : Node Nat := .ofList (b.arrange r behind .alone)
    spliced p (if b.isTrivial then b else .atomic b)
  | look back positive b, _, p =>
    let b : Node Nat := .ofList (b.arrange r back .alone)
    spliced p (if positive && b.isTrivial then b else .look back positive b)
  | ifGroup n yes no, behind, _ =>
    [.ifGroup n (.ofList (yes.arrange r behind .alone)) (.ofList (no.arrange r behind .alone))]
  | ifLook back positive test yes no, _, _ =>
    [.ifLook back positive (.ofList (test.arrange r back .alone))
      (.ofList (yes.arrange r back .alone)) (.ofList (no.arrange r back .alone))]
  | n, _, p => spliced p n

def arranged (r : Repertoire) (n : Node Nat) : Node Nat := .ofList (n.arrange r false .alone)

end Node

end SqlRegexp.Pattern
