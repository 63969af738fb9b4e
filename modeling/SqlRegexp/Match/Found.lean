/-!
Matches: where they lie in a text, and where the groups of the pattern lie. Places count characters
from 0.
-/

namespace SqlRegexp.Match

/-- A stretch of text, from `start` up to and without `stop`. -/
structure Span where
  start : Nat
  stop : Nat
deriving DecidableEq, Repr

/-- A match: where it starts and stops, and the extents of the groups. -/
structure Found where
  start : Nat
  stop : Nat
  groups : List (Option Span)
deriving DecidableEq, Repr

namespace Found

/-- The extent of a group, the whole match being group 0. A group of the pattern that took no part
has none; asking for a group that the pattern does not have fails. -/
def span? (m : Found) (number : Nat) : Option (Option Span) :=
  if number = 0 then some (some ⟨m.start, m.stop⟩) else m.groups[number - 1]?

/-- All extents of a match lie in a text of a size, and it has an entry for each of `count` groups.
A match as a whole may stop before it starts, where its pattern has moved the start. -/
structure Within (m : Found) (size count : Nat) : Prop where
  start_le : m.start ≤ size
  stop_le : m.stop ≤ size
  groups_length : m.groups.length = count
  group_le : ∀ e, some e ∈ m.groups → e.start ≤ e.stop ∧ e.stop ≤ size

end Found

end SqlRegexp.Match
