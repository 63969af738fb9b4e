import SqlRegexp.Match.Walk
import SqlRegexp.Pattern.Options

/-!
The engine that patterns are left to. It compiles a pattern under options and searches texts with
what it has compiled. The dialect is built on any engine.
-/

namespace SqlRegexp

open SqlRegexp.Match SqlRegexp.Pattern

/-- Why an engine does not compile a pattern. -/
inductive EngineError where
  /-- The pattern is malformed. -/
  | malformed (message : String)
  /-- The engine fails in another way, for instance at options that exclude each other. -/
  | other (kind message : String)
deriving DecidableEq, Repr

namespace EngineError

def message : EngineError → String
  | malformed m | other _ m => m

end EngineError

class Engine where
  /-- Patterns that have been compiled. -/
  Program : Type
  compile : List Char → Options → Except EngineError Program
  /-- How many groups a pattern has. -/
  groupCount : Program → Nat
  /-- The first match that is found in a text from a place on. -/
  search : Program → Array Char → Nat → Option Found
  /-- The match that is found in a text at a place. -/
  matchAt : Program → Array Char → Nat → Option Found

/-- An engine whose matches lie in the text searched, with an extent or none for each group. -/
class LawfulEngine extends Engine where
  search_within : ∀ {p : Program} {text : Array Char} {pos : Nat} {m : Found},
    search p text pos = some m → m.Within text.size (groupCount p)
  matchAt_within : ∀ {p : Program} {text : Array Char} {pos : Nat} {m : Found},
    matchAt p text pos = some m → m.Within text.size (groupCount p)

namespace Engine

/-- The walk of a pattern through a text. -/
def walk [Engine] (p : Program) (text : Array Char) : Walk := ⟨text.size, search p text⟩

end Engine

end SqlRegexp
