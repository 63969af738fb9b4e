import SqlRegexp.Dialect.Call
import SqlRegexp.Value.Shown

/-!
Checks of the functions against known results: a check is a call and the result that it should have,
and its outcome is what the call did.
-/

namespace SqlRegexp

open SqlRegexp.Text

/-- A call with the result expected of it. -/
structure Check where
  name : String
  call : Call
  expected : Value

/-- What became of a check. -/
structure Outcome where
  check : Check
  /-- What the call told. -/
  events : List Event
  /-- The result, or the words for its failure. -/
  result : Except String Value

namespace Outcome

/-- The value that the call returned; null if it failed. -/
def actual (o : Outcome) : Value :=
  match o.result with
  | .ok v => v
  | .error _ => .null

/-- The failure of the call. -/
def failure? (o : Outcome) : Option String :=
  match o.result with
  | .ok _ => none
  | .error e => some e

/-- Whether the call returned the expected value. -/
def passed (o : Outcome) : Bool :=
  match o.result with
  | .ok v => v.same o.check.expected
  | .error _ => false

/-- What is told about an outcome. -/
def message (o : Outcome) : String :=
  if o.passed then o.check.name ++ ": PASSED"
  else
    o.check.name ++ ": FAILED (expected " ++ String.ofList o.check.expected.shown ++ ", got "
      ++ String.ofList o.actual.shown ++ ", error=" ++ o.failure?.getD "None" ++ ")"

end Outcome

namespace Check

/-- A failure as an outcome shows it: its kind and its message. -/
def failureText (kind message : String) : String := kind ++ ": " ++ message

/-- Runs a check. A failure of the call is a part of the outcome. -/
def run [Engine] (policy : NewlinePolicy) (c : Check) : Outcome :=
  match c.call.bindings with
  | .error e => ⟨c, [], .error (failureText Misfit.kindName e.message)⟩
  | .ok bound =>
    let told := c.call.function.apply policy (Call.valueOf bound)
    ⟨c, told.events, told.result.mapError fun e => failureText e.kindName e.message⟩

end Check

end SqlRegexp
