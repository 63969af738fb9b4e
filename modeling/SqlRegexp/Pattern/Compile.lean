import SqlRegexp.Match.Search
import SqlRegexp.Pattern.Literal
import SqlRegexp.Pattern.Reader

/-!
The language of patterns, as far as it is described here. What is left out is refused, for a reason
that tells so (`Cause.mayBeAdmitted`).

Compiling a pattern: it is read, once more whenever it sets an option that holds for all of it, then
its references are resolved in the order of the text, and then it is arranged. The repertoire of the
pattern is the one in force at its end.
-/

namespace SqlRegexp.Pattern

open SqlRegexp.Match SqlRegexp.Unicode

namespace Source

/-- A pattern before it is read. -/
def ofPattern (pattern : List Char) (o globals : Options) : Source :=
  let o := o.union globals
  { rest := pattern, total := pattern.length, skipping := o.verbose, options := o,
    globals := o.global }

/-- The number of a group that a reference names. -/
def find? (s : Source) : GroupName → Option Nat
  | .number n => some n
  | .name cs => s.number? cs

/-- Resolves a reference to the text of a group. -/
def resolveReference (s : Source) (r : Reference) : Except (Cause × Nat) Nat :=
  let refuse := fun cause => Except.error (cause, r.pos)
  match s.find? r.group with
  | none => refuse .unknownGroup
  | some n => if 1 ≤ n ∧ n ≤ s.groupCount then .ok n else refuse .invalidGroup

/-- Resolves the group that a choice asks for. The name `DEFINE` stands for a group that never
matches. -/
def resolveChoice (s : Source) (r : Reference) : Except (Cause × Nat) Nat :=
  let refuse := fun cause => Except.error (cause, r.pos)
  match s.find? r.group with
  | none => if r.group = .name "DEFINE".toList then .ok 0 else refuse .unknownGroup
  | some n => if n ≤ s.groupCount then .ok n else refuse .invalidGroup

/-- Resolves the group of a call, 0 being the whole pattern. A group opened in several places cannot
be called. -/
def resolveCall (s : Source) (r : Reference) : Except (Cause × Nat) Nat :=
  let refuse := fun cause => Except.error (cause, r.pos)
  match s.find? r.group with
  | none => refuse .invalidGroup
  | some n =>
    if s.groupCount < n then refuse .unknownGroup
    else if 0 < n ∧ 1 < s.openings.count n then refuse .ambiguousGroup
    else .ok n

end Source

/-- Reads a pattern; `tries` bounds how often it is read again with more options. -/
def readPattern (pattern : List Char) (o : Options) :
    (tries : Nat) → (globals : Options) → Except CompileError (Node Reference × Source)
  | 0, _ => .error (.malformed ⟨pattern, .tooDeep, 0⟩)
  | tries + 1, globals =>
    match Reading.whole.run (Source.ofPattern pattern o globals) with
    | .ok read => .ok read
    | .error (.malformed cause pos) => .error (.malformed ⟨pattern, cause, pos⟩)
    | .error (.numeral e) => .error (.numeral e)
    | .error (.again more) => readPattern pattern o tries more

/-- Compiles a pattern under options. A malformed pattern is refused before conflicting options are,
and these before references to groups that there are not. -/
def compile (pattern : List Char) (o : Options) : Except CompileError Program := do
  let (node, source) ← readPattern pattern o 4 {}
  if source.options.ascii && source.options.unicode then throw .conflictingRepertoires
  let refuse : Cause × Nat → CompileError := fun e => .malformed ⟨pattern, e.1, e.2⟩
  let resolved := node.resolve source.resolveReference source.resolveChoice source.resolveCall
  let node ← resolved.mapError refuse
  let r := source.options.repertoire?.getD .worldwide
  return ⟨(node.arranged r).withRuns r, source.groupCount, source.options.posix, r⟩

/-- A pattern in which nothing is met that is left out here. -/
def Described (pattern : List Char) (o : Options) : Prop :=
  ∀ e, compile pattern o = .error e → e.mayBeAdmitted = false

instance (pattern : List Char) (o : Options) : Decidable (Described pattern o) :=
  match h : compile pattern o with
  | .ok p => isTrue fun e he => by rw [h] at he; cases he
  | .error e =>
    decidable_of_iff (e.mayBeAdmitted = false)
      ⟨fun he e' he' => by rw [h] at he'; cases he'; exact he, fun hall => hall e h⟩

end SqlRegexp.Pattern
