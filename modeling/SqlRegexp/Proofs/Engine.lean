import SqlRegexp.Engine.Reference
import SqlRegexp.Proofs.Match.Laws
import SqlRegexp.Proofs.Walk

/-!
Laws of engines.

Three laws make a walk through an enclosed pattern as good as one through the pattern itself: matches lie behind the
cursor (`Advances`), the enclosed pattern finds the same matches (`Transparent`), and a match is found again at its own
start (`FindsAgain`). What does what is described here keeps the first two without `\K` (`Does.advances`,
`transparent_of_does`), and the third without `\G` too (`Does.findsAgain`). A walk moves on as long as nothing is found
before its cursor (`NeverBefore.lt_next`), as is so where no start is moved back (`Does.neverBefore`).

The engine that is built on the description follows it wherever it goes (`reference_follows`), and its matches lie in
the text (`lawfulReference`).
-/

namespace SqlRegexp.Engine

open SqlRegexp.Match SqlRegexp.Pattern

section Laws

variable [Engine]

/-- A search finds matches at its cursor or after it, which stop no earlier than they start. -/
structure Advances (P : Engine.Program) (text : Array Char) : Prop where
  cursor_le : ∀ {c m}, c ≤ text.size → search P text c = some m → c ≤ m.start
  start_le : ∀ {c m}, c ≤ text.size → search P text c = some m → m.start ≤ m.stop

/-- Neither end of what a search finds lies before its cursor. -/
def NeverBefore (P : Engine.Program) (text : Array Char) : Prop :=
  ∀ c m, c ≤ text.size → search P text c = some m → c ≤ m.start ∧ c ≤ m.stop

/-- The program `Q` finds in a text what `P` finds, with the whole match as its first group. -/
structure Transparent (P Q : Engine.Program) (text : Array Char) : Prop where
  groupCount : groupCount Q = groupCount P + 1
  search : ∀ c ≤ text.size, search Q text c = (search P text c).map Found.enclosed

/-- What a search finds is found again at the place where it starts. -/
def FindsAgain (P : Engine.Program) (text : Array Char) : Prop :=
  ∀ c m, c ≤ text.size → search P text c = some m → matchAt P text m.start = some m

/-- What a walk meets is found by a search. -/
theorem search_of_met? {P : Engine.Program} {text : Array Char} {c : Nat} {m : Found}
    (h : (walk P text).met? c = some m) : c ≤ text.size ∧ search P text c = some m :=
  ⟨Walk.le_of_met? h, Walk.search_of_met? h⟩

theorem NeverBefore.lt_next {P : Engine.Program} {text : Array Char} (h : NeverBefore P text) {c : Nat} {m : Found}
    (hm : (walk P text).met? c = some m) : c < m.next :=
  have hends := h c m (search_of_met? hm).1 (search_of_met? hm).2
  Found.lt_next hends.1 hends.2

namespace Transparent

variable {P Q : Engine.Program} {text : Array Char}

theorem met? (h : Transparent P Q text) (c : Nat) :
    (walk Q text).met? c = ((walk P text).met? c).map Found.enclosed :=
  @Walk.met?_congr (walk P text) (walk Q text) Found.enclosed rfl h.search c

theorem nth? (h : Transparent P Q text) (k c : Nat) :
    (walk Q text).nth? k c = ((walk P text).nth? k c).map Found.enclosed :=
  Walk.nth?_map h.met? Found.enclosed_next k c

end Transparent

/-! ### What is described -/

theorem Does.walk {P : Engine.Program} {p : Match.Program} (h : Does P p) (text : Array Char) :
    walk P text = p.walk text := by
  rw [Engine.walk, Match.Program.walk, funext (h.search text)]

namespace Follows

variable {pattern : List Char} {o : Options}

theorem exists_of_compile {P : Engine.Program} (h : Follows pattern o) (hP : compile pattern o = .ok P) :
    ∃ p, Pattern.compile pattern o = .ok p ∧ Does P p := by
  cases hp : Pattern.compile pattern o with
  | error e =>
    obtain ⟨e', he'⟩ := h.refused e hp
    cases he'.symm.trans hP
  | ok p =>
    obtain ⟨P', hP', hdoes⟩ := h.compiled p hp
    obtain rfl : P' = P := Except.ok.inj (hP'.symm.trans hP)
    exact ⟨p, rfl, hdoes⟩

end Follows

/-! ### Where the laws hold -/

variable {P Q : Engine.Program} {p : Match.Program}

/-- **Where no start is moved back, nothing is found before the cursor.** -/
theorem Does.neverBefore (h : Does P p) (hp : p.KeepsStartAhead) (text : Array Char) : NeverBefore P text := by
  intro c m hc hm
  have hle := Program.cursor_le_of_search hp ((h.search text c).symm.trans hm)
  rwa [Nat.min_eq_left hc] at hle

/-- **Without `\K` a search advances.** -/
theorem Does.advances (h : Does P p) (hp : p.node.movesStart = false) (text : Array Char) : Advances P text where
  cursor_le hc hm := by
    have hle := (Program.le_of_search hp ((h.search text _).symm.trans hm)).1
    rwa [Nat.min_eq_left hc] at hle
  start_le _ hm := (Program.le_of_search hp ((h.search text _).symm.trans hm)).2

/-- **Without `\K` the enclosed pattern finds the same matches**, with the whole match as group 1. -/
theorem transparent_of_does (hP : Does P p) (hQ : Does Q p.enclosed) (hp : p.node.movesStart = false)
    (text : Array Char) : Transparent P Q text where
  groupCount := by rw [hQ.groupCount, hP.groupCount, Program.enclosed_groupCount]
  search c _ := by rw [hQ.search, hP.search, Program.search_enclosed_eq hp]

/-- **Without `\K` and `\G` a match is found again** where it starts. -/
theorem Does.findsAgain (h : Does P p) (hp : p.node.movesStart = false) (hg : p.node.asksSearchStart = false)
    (text : Array Char) : FindsAgain P text := by
  intro c m _ hm
  rw [h.matchAt]
  exact Program.matchAt_of_search hp hg ((h.search text c).symm.trans hm)

end Laws

section Lawful

variable [LawfulEngine] {P : Engine.Program} {text : Array Char}

/-- What a walk meets lies in the text. -/
theorem within_of_met? {c : Nat} {m : Found} (h : (walk P text).met? c = some m) : m.Within text.size (groupCount P) :=
  LawfulEngine.search_within (search_of_met? h).2

theorem within_of_nth? {k c : Nat} {m : Found} (h : (walk P text).nth? k c = some m) :
    m.Within text.size (groupCount P) :=
  have ⟨_, hc⟩ := Walk.exists_met?_of_nth? h
  within_of_met? hc

/-- The matches of an engine that advances lie in order. -/
theorem Advances.forward (h : Advances P text) : (walk P text).Forward where
  cursor_le hm := h.cursor_le (search_of_met? hm).1 (search_of_met? hm).2
  start_le hm := h.start_le (search_of_met? hm).1 (search_of_met? hm).2
  stop_le hm := (within_of_met? hm).stop_le

end Lawful

/-! ### The engine built on the description -/

@[reducible] def lawfulReference : LawfulEngine where
  toEngine := reference
  search_within := Program.search_within
  matchAt_within := Program.matchAt_within

theorem reference_does (p : Match.Program) : @Does reference p p :=
  @Does.mk reference p p rfl (fun _ _ => rfl) fun _ _ => rfl

theorem described_of_compile {pattern : List Char} {o : Options} {p : Match.Program}
    (h : Pattern.compile pattern o = .ok p) : Described pattern o := fun _ he => nomatch h.symm.trans he

/-- The engine that is built on the description follows it. -/
theorem reference_follows {pattern : List Char} {o : Options} (h : Described pattern o) :
    @Follows reference pattern o := by
  refine @Follows.mk reference pattern o h (fun e he => ⟨.ofCompileError e, ?_⟩) fun p hp =>
    ⟨p, ?_, reference_does p⟩
  · show (Pattern.compile pattern o).mapError _ = _
    rw [he]
    rfl
  · show (Pattern.compile pattern o).mapError _ = _
    rw [hp]
    rfl

end SqlRegexp.Engine
