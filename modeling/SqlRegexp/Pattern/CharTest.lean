import SqlRegexp.Pattern.Options
import SqlRegexp.Pattern.Property

/-!
Tests on one character: the leaves of a pattern. What a test says may depend on the repertoire of
the whole pattern, which is known only when all of it has been read.
-/

namespace SqlRegexp.Pattern

open SqlRegexp.Unicode

namespace Casing

/-- Whether letters match their variants. -/
def ignoresCase : Casing → Bool
  | exact => false
  | _ => true

/-- The code points that stand for a given one. -/
def variants (k : Casing) (r : Repertoire) (n : Nat) : List Nat :=
  if k.ignoresCase then caseVariants r n else [n]

/-- Whether two code points match. -/
def same (k : Casing) (r : Repertoire) (a b : Nat) : Bool :=
  if k.ignoresCase then sameIgnoringCase r a b else a == b

end Casing

/-- What a class says of a character at a time. -/
inductive Trait where
  | code (n : Nat)
  | range (low high : Nat)
  | property (test : PropertyTest)
deriving DecidableEq, Repr

namespace Trait

/-- Whether a code point is what the trait names, before a negative property turns it round. -/
def base (r : Repertoire) : Trait → Nat → Bool
  | code m, n => m == n
  | range low high, n => decide (low ≤ n ∧ n ≤ high)
  | property t, n => t.base r n

/-- Whether the trait asks for what it names rather than for its opposite. -/
def positive : Trait → Bool
  | property t => t.positive
  | _ => true

/-- Whether a character has the trait, given the code points that stand for it: one that is what the
trait names is enough. -/
def holds (t : Trait) (r : Repertoire) (variants : List Nat) : Bool :=
  variants.any (t.base r) == t.positive

/-- The trait without the scope of its property. -/
def unscoped : Trait → Trait
  | property t => property t.unscoped
  | t => t

end Trait

/-- A member of a class. -/
inductive Member where
  /-- The characters with a trait. -/
  | having (t : Trait)
  /-- All characters but one. -/
  | notCode (n : Nat)
  /-- The characters with none of some traits. -/
  | noneOf (ts : List Trait)
deriving DecidableEq, Repr

namespace Member

/-- Whether a character, given by the code points that stand for it, is a member. Characters that a
class leaves out one by one are left to `excluded`. -/
def holds (m : Member) (r : Repertoire) (variants : List Nat) : Bool :=
  match m with
  | having t => t.holds r variants
  | notCode _ => false
  | noneOf ts => !variants.any fun v => ts.any (·.holds r [v])

/-- The code point that a member leaves out. -/
def leftOut? : Member → Option Nat
  | notCode n => some n
  | _ => none

/-- Whether a character is let in by the members that leave out one each: it is by all of them
together or not at all. -/
def excluded (ms : List Member) (variants : List Nat) : Bool :=
  match ms.filterMap leftOut? with
  | [] => false
  | codes => !variants.any codes.contains

/-- Whether a character belongs to a class of members. -/
def anyHolds (ms : List Member) (r : Repertoire) (variants : List Nat) : Bool :=
  ms.any (·.holds r variants) || excluded ms variants

/-- The member without the scopes of its properties. -/
def unscoped : Member → Member
  | having t => having t.unscoped
  | noneOf ts => noneOf (ts.map Trait.unscoped)
  | m => m

end Member

/-- A test on one character. -/
inductive CharTest where
  /-- Every character. -/
  | any
  /-- Every character but a line feed. -/
  | notLineFeed
  /-- Every character but those that end a line. -/
  | notLineEnd
  /-- One character up to case, or all others. -/
  | char (code : Nat) (positive : Bool) (casing : Casing)
  /-- The characters inside or outside a range. -/
  | range (low high : Nat) (positive : Bool) (casing : Casing)
  /-- The characters with a property, or without it. -/
  | property (test : PropertyTest) (casing : Casing)
  /-- The characters inside or outside a class. -/
  | oneOf (members : List Member) (positive : Bool) (casing : Casing)
deriving DecidableEq, Repr

namespace CharTest

/-- Whether a code point passes, in a pattern of a repertoire. -/
def holds (r : Repertoire) : CharTest → Nat → Bool
  | any, _ => true
  | notLineFeed, n => n != 0x0A
  | notLineEnd, n => !isLineEnd r n
  | char code positive k, n => k.same r code n == positive
  | range low high positive k, n => (Trait.range low high).holds r (k.variants r n) == positive
  | property t k, n => if k.ignoresCase then t.holdsIgnoringCase r n else t.holds r n
  | oneOf ms positive k, n => Member.anyHolds ms r (k.variants r n) == positive

/-- The test without the scopes of its properties. -/
def unscoped : CharTest → CharTest
  | property t k => property t.unscoped k
  | oneOf ms positive k => oneOf (ms.map Member.unscoped) positive k
  | t => t

end CharTest

end SqlRegexp.Pattern
