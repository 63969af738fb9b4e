import SqlRegexp.Engine.Basic
import SqlRegexp.Pattern.Compile

/-!
The engine that does what is described here of the language of patterns, and what it is for another
engine to follow that description.

The description is partial. It says nothing of a pattern in which it meets something that it leaves
out (`Described`); there the engine built on it refuses the pattern, and nothing is said of any
other.
-/

namespace SqlRegexp

open SqlRegexp.Match SqlRegexp.Pattern

/-- A refusal as engines report it. -/
def EngineError.ofCompileError (e : CompileError) : EngineError :=
  match e with
  | .malformed m => .malformed m.message
  | .numeral _ | .conflictingRepertoires => .other "ValueError" e.message

namespace Engine

@[reducible] def reference : Engine where
  Program := Match.Program
  compile pattern o := (Pattern.compile pattern o).mapError EngineError.ofCompileError
  groupCount := Match.Program.groupCount
  search := Match.Program.search
  matchAt := Match.Program.matchAt

instance : DecidableEq (@Program reference) := inferInstanceAs (DecidableEq Match.Program)

variable [Engine]

/-- What an engine has compiled finds in every text what a program finds there. -/
structure Does (P : Engine.Program) (p : Match.Program) : Prop where
  groupCount : groupCount P = p.groupCount
  search : ∀ text pos, search P text pos = p.search text pos
  matchAt : ∀ text pos, matchAt P text pos = p.matchAt text pos

/-- An engine follows the description on a pattern: nothing that is left out is met in it, and the
engine refuses it if the description does, and otherwise compiles it to what finds the same. -/
structure Follows (pattern : List Char) (o : Options) : Prop where
  described : Described pattern o
  refused : ∀ e, Pattern.compile pattern o = .error e → ∃ e', compile pattern o = .error e'
  compiled : ∀ p, Pattern.compile pattern o = .ok p → ∃ P, compile pattern o = .ok P ∧ Does P p

end Engine

end SqlRegexp
