import SqlRegexp.Pattern.CharTest

/-!
Patterns as trees. A reference to a group holds a value of type `ρ`: what the pattern's text says
while it is being read, and the number of the group once references are resolved.
-/

namespace SqlRegexp.Pattern

open SqlRegexp.Unicode

/-- Which boundary of words a pattern asks for. -/
inductive WordEdge where
  | either | start | stop
deriving DecidableEq, Repr

/-- Places in a text. -/
inductive Assertion where
  | startOfText
  | endOfText
  /-- The end of the text, or the place before a line end that ends it. -/
  | endOfLastLine (allEnds : Bool)
  /-- The start of a line, which a line feed ends, or any line end. -/
  | startOfLine (allEnds : Bool)
  | endOfLine (allEnds : Bool)
  /-- The place where the search began. -/
  | searchStart
  /-- A boundary of a word in a repertoire, that of the whole pattern if none is given. -/
  | wordBoundary (edge : WordEdge) (scope : Option Repertoire)
  /-- A boundary by the default rules of the standard. -/
  | defaultBoundary (edge : WordEdge)
deriving DecidableEq, Repr

/-- In which order a repeat tries its number of rounds. -/
inductive Greed where
  | greedy | lazy
deriving DecidableEq, Repr

/-- A pattern. -/
inductive Node (ρ : Type) where
  /-- Matches the empty text. -/
  | empty
  /-- Never matches. -/
  | fail
  /-- One character that passes a test. -/
  | one (test : CharTest)
  /-- Characters whose foldings, one after the other, make up the given code points. -/
  | folded (codes : List Nat)
  /-- A place. -/
  | assertion (a : Assertion)
  /-- A place that does not have a property. -/
  | notAssertion (a : Assertion)
  /-- One pattern after another. -/
  | seq (first second : Node ρ)
  /-- One pattern, or else another. -/
  | alt (first second : Node ρ)
  /-- A pattern whose extent is kept under a number. -/
  | group (number : Nat) (body : Node ρ)
  /-- A pattern as many times as the bounds allow. -/
  | times (greed : Greed) (least : Nat) (most : Option Nat) (body : Node ρ)
  /-- A pattern that is not entered again once it has matched. -/
  | atomic (body : Node ρ)
  /-- A pattern that matches, or does not, ahead of or behind a place. -/
  | look (behind positive : Bool) (body : Node ρ)
  /-- The text of a group once more. -/
  | backref (group : ρ) (casing : Casing)
  /-- A choice by whether a group has matched. -/
  | ifGroup (group : ρ) (yes no : Node ρ)
  /-- A choice by what is ahead of or behind a place. -/
  | ifLook (behind positive : Bool) (test yes no : Node ρ)
  /-- The pattern of a group, or the whole pattern, in this place. -/
  | call (group : ρ)
  /-- The reported match starts here. -/
  | keep
deriving DecidableEq, Repr

namespace Node

variable {ρ σ : Type}

/-- The sequence of several patterns. -/
def ofList : List (Node ρ) → Node ρ
  | [] => .empty
  | [n] => n
  | n :: ns => .seq n (ofList ns)

/-- The choice between several patterns: a chain that ends where there is nothing left to try, so
that a choice among its last branches is told apart from more branches. -/
def choice : List (Node ρ) → Node ρ
  | [] => .fail
  | [n] => n
  | ns => ns.foldr .alt .fail

/-- Whether a pattern is known to be nothing but the empty text, so that a quantifier after it
says nothing. Nothing is known of a group, or of a place that must not look some way; a choice by a
look is taken for its first branch. -/
def isTrivial : Node ρ → Bool
  | empty => true
  | seq a b => a.isTrivial && b.isTrivial
  | alt a fail => a.isTrivial
  | alt a b => a.isTrivial && b.isTrivial
  | times _ _ _ b => b.isTrivial
  | atomic b => b.isTrivial
  | look _ positive b => positive && b.isTrivial
  | ifGroup _ yes no => yes.isTrivial && no.isTrivial
  | ifLook _ _ test yes _ => test.isTrivial && yes.isTrivial
  | _ => false

/-- Replaces the references of a pattern, each by what `f` makes of it, in the order of the text.
Backward references, choices and calls are told apart. -/
def resolve {ε : Type} (onReference onChoice onCall : ρ → Except ε σ) : Node ρ → Except ε (Node σ)
  | empty => .ok .empty
  | fail => .ok .fail
  | one t => .ok (.one t)
  | folded cs => .ok (.folded cs)
  | assertion a => .ok (.assertion a)
  | notAssertion a => .ok (.notAssertion a)
  | seq a b => do
    let a ← a.resolve onReference onChoice onCall
    let b ← b.resolve onReference onChoice onCall
    return .seq a b
  | alt a b => do
    let a ← a.resolve onReference onChoice onCall
    let b ← b.resolve onReference onChoice onCall
    return .alt a b
  | group n b => do
    let b ← b.resolve onReference onChoice onCall
    return .group n b
  | times g l m b => do
    let b ← b.resolve onReference onChoice onCall
    return .times g l m b
  | atomic b => do
    let b ← b.resolve onReference onChoice onCall
    return .atomic b
  | look behind positive b => do
    let b ← b.resolve onReference onChoice onCall
    return .look behind positive b
  | backref r k => do
    let n ← onReference r
    return .backref n k
  | ifGroup r yes no => do
    let n ← onChoice r
    let yes ← yes.resolve onReference onChoice onCall
    let no ← no.resolve onReference onChoice onCall
    return .ifGroup n yes no
  | ifLook behind positive test yes no => do
    let test ← test.resolve onReference onChoice onCall
    let yes ← yes.resolve onReference onChoice onCall
    let no ← no.resolve onReference onChoice onCall
    return .ifLook behind positive test yes no
  | call r => do
    let n ← onCall r
    return .call n
  | keep => .ok .keep

/-- The first body kept under a number. -/
def bodyOf (number : Nat) : Node ρ → Option (Node ρ)
  | group n b => if n = number then some (.group n b) else b.bodyOf number
  | seq a b => a.bodyOf number <|> b.bodyOf number
  | alt a b => a.bodyOf number <|> b.bodyOf number
  | times _ _ _ b => b.bodyOf number
  | atomic b => b.bodyOf number
  | look _ _ b => b.bodyOf number
  | ifGroup _ yes no => yes.bodyOf number <|> no.bodyOf number
  | ifLook _ _ test yes no => test.bodyOf number <|> yes.bodyOf number <|> no.bodyOf number
  | _ => none

/-- What a pattern begins with. -/
inductive Opening where
  /-- Nothing is known of it. -/
  | unknown
  /-- With what follows it: the pattern itself takes no character. -/
  | next
  /-- With a character that passes a test. -/
  | one (t : CharTest)
deriving DecidableEq, Repr

/-- What a pattern begins with, as far as it shows. -/
def opening : Node ρ → Opening
  | one t => .one t
  | empty | assertion _ | notAssertion _ | keep => .next
  | seq a b =>
    match a.opening with
    | .next => b.opening
    | o => o
  | group _ b => b.opening
  | atomic b => b.opening
  | times _ least _ b => if 0 < least then b.opening else .unknown
  | look behind positive b => if positive && !behind then b.opening else .next
  | _ => .unknown

/-- Whether a pattern is one character. -/
def isSingle : Node ρ → Bool
  | one _ => true
  | group _ b => b.isSingle
  | _ => false

/-- Whether a pattern moves the start of the reported match. -/
def movesStart : Node ρ → Bool
  | keep => true
  | seq a b => a.movesStart || b.movesStart
  | alt a b => a.movesStart || b.movesStart
  | group _ b => b.movesStart
  | times _ _ _ b => b.movesStart
  | atomic b => b.movesStart
  | look _ _ b => b.movesStart
  | ifGroup _ yes no => yes.movesStart || no.movesStart
  | ifLook _ _ test yes no => test.movesStart || yes.movesStart || no.movesStart
  | _ => false

/-- The groups whose text or whose taking part the pattern asks for. -/
def referenced : Node Nat → List Nat
  | seq a b => a.referenced ++ b.referenced
  | alt a b => a.referenced ++ b.referenced
  | group _ b => b.referenced
  | times _ _ _ b => b.referenced
  | atomic b => b.referenced
  | look _ _ b => b.referenced
  | backref n _ => [n]
  | ifGroup n yes no => n :: (yes.referenced ++ no.referenced)
  | ifLook _ _ test yes no => test.referenced ++ yes.referenced ++ no.referenced
  | _ => []

/-- The groups that the pattern calls, as often as it does; 0 stands for the whole pattern. -/
def called : Node Nat → List Nat
  | seq a b => a.called ++ b.called
  | alt a b => a.called ++ b.called
  | group _ b => b.called
  | times _ _ _ b => b.called
  | atomic b => b.called
  | look _ _ b => b.called
  | ifGroup _ yes no => yes.called ++ no.called
  | ifLook _ _ test yes no => test.called ++ yes.called ++ no.called
  | call n => [n]
  | _ => []

end Node

end SqlRegexp.Pattern
