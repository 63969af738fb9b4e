import SqlRegexp.Proofs.Match.Enclosing

/-!
What a search finds, for patterns that do not move the start of their matches.

Where nothing that is looked at behind moves the start, both ends of a match lie behind the cursor
(`Program.cursor_le_of_search`).
Without `\K` matches lie behind the cursor (`Program.le_of_search`), and the enclosed pattern finds the same matches
(`Program.search_enclosed_eq`). Without `\G` too a match is found again at its own start (`Program.matchAt_of_search`).
-/

namespace SqlRegexp.Match

open SqlRegexp.Pattern

/-- The match of an enclosed pattern: the first group is the whole match, and every other group is one further on. -/
def Found.enclosed (m : Found) : Found := ⟨m.start, m.stop, some ⟨m.start, m.stop⟩ :: m.groups⟩

theorem Found.enclosed_next (m : Found) : m.enclosed.next = m.next := rfl

theorem Found.enclosed_span?_one (m : Found) : m.enclosed.span? 1 = some (some ⟨m.start, m.stop⟩) := rfl

namespace Program

variable {p : Program} {text : Array Char} {c : Nat} {m : Found}

/-- **Where no start is moved back, a match lies behind the cursor** with both its ends. -/
theorem cursor_le_of_search (hp : p.KeepsStartAhead) (h : p.search text c = some m) :
    min c text.size ≤ m.start ∧ min c text.size ≤ m.stop := by
  rw [search_eq_attempt?] at h
  obtain ⟨⟨b, m⟩, hm, rfl⟩ := Option.map_eq_some_iff.mp h
  obtain ⟨hle, hstart⟩ := le_start_of_attempt? hp hm
  exact ⟨Nat.le_trans hle hstart, Nat.le_trans hle (le_stop_of_attempt? hm)⟩

/-- **Without `\K` a match lies behind the cursor**, in the order of its ends. -/
theorem le_of_search (hp : p.node.movesStart = false) (h : p.search text c = some m) :
    min c text.size ≤ m.start ∧ m.start ≤ m.stop := by
  rw [search_eq_attempt?] at h
  obtain ⟨⟨b, m⟩, hm, rfl⟩ := Option.map_eq_some_iff.mp h
  obtain ⟨hstart, hle⟩ := start_of_attempt? hp hm
  rw [hstart]
  exact ⟨hle, le_stop_of_attempt? hm⟩

/-- What a search with an enclosed pattern finds: group 1 reaches from some place to the end of the match, and from its
start unless the pattern moves the start. -/
theorem search_enclosed (text : Array Char) (c : Nat) :
    (p.search text c = none ∧ p.enclosed.search text c = none) ∨
      ∃ b m, p.attempt? text c = some (b, m) ∧ p.search text c = some m ∧
        p.enclosed.search text c = some (m.enclosedFrom b) := by
  rw [search_eq_attempt?, search_eq_attempt?, attempt?_enclosed]
  cases h : p.attempt? text c with
  | none => exact .inl ⟨rfl, rfl⟩
  | some a => exact .inr ⟨a.1, a.2, rfl, rfl, rfl⟩

/-- **Without `\K` the enclosed pattern finds the same matches**, with the whole match as group 1. -/
theorem search_enclosed_eq (hp : p.node.movesStart = false) (text : Array Char) (c : Nat) :
    p.enclosed.search text c = (p.search text c).map Found.enclosed := by
  rcases p.search_enclosed text c with ⟨hp', hw⟩ | ⟨b, m, ha, hp', hw⟩
  · rw [hp', hw]
    rfl
  · rw [hp', hw, Option.map_some, Found.enclosedFrom, ← (start_of_attempt? hp ha).1]
    rfl

/-- **Without `\K` and `\G` a match is found again** where it starts. -/
theorem matchAt_of_search (hp : p.node.movesStart = false) (hg : p.node.asksSearchStart = false)
    (h : p.search text c = some m) : p.matchAt text m.start = some m := by
  rw [search_eq_attempt?] at h
  obtain ⟨⟨b, m'⟩, hm, rfl⟩ := Option.map_eq_some_iff.mp h
  rw [(start_of_attempt? hp hm).1]
  exact matchAt_of_attempt? hg hm

end Program

end SqlRegexp.Match
