import SqlRegexp.Proofs.Match.Laws
import SqlRegexp.Proofs.Walk

/-!
Walks over a leftmost search.

`Walk.Leftmost w at?` says that the search of a walk gives the first match from its cursor on, where `at?` says which
match begins at a place. One step then leaves nothing out up to the place where the walk goes on
(`Leftmost.covered_before_next`), and hence **a walk lists the matches from left to right without overlaps and leaves
none out** (`leftmost_walk_lists_matches`). The search of a pattern without `\K` and `\G` is one from the left
(`Program.leftmost_walk`).
-/

namespace SqlRegexp.Match

open SqlRegexp.Pattern

namespace Walk

/-- The search of a walk gives the first match from its cursor on; which match begins at a place does not depend on
the cursor. -/
structure Leftmost (w : Walk) (at? : Nat → Option Found) : Prop where
  first : ∀ {c m}, c ≤ w.size → w.search c = some m → c ≤ m.start ∧ m.start ≤ m.stop ∧ m.stop ≤ w.size ∧
    at? m.start = some m ∧ ∀ s, c ≤ s → s < m.start → at? s = none
  nothing : ∀ {c}, c ≤ w.size → w.search c = none → ∀ s, c ≤ s → s ≤ w.size → at? s = none

/-- The cursor behind matches that a walk has met from a cursor on. -/
def cursorAfter : (cursor : Nat) → List Found → Nat
  | cursor, [] => cursor
  | _, m :: ms => cursorAfter m.next ms

/-- The first match begins before the second one, and ends before it too. -/
def Apart (m m' : Found) : Prop := m.start < m'.start ∧ m.stop ≤ m'.start

/-- A match of a list begins at a place, or the place lies inside one. -/
def Covered (ms : List Found) (s : Nat) : Prop := ∃ m ∈ ms, s = m.start ∨ (m.start < s ∧ s < m.stop)

variable {w : Walk} {at? : Nat → Option Found} {limit c s : Nat} {m : Found} {ms : List Found}

/-! ### One step -/

theorem search_of_met?_eq_none (h : w.met? c = none) : w.size < c ∨ w.search c = none := by
  unfold met? at h
  split at h
  · right
    exact h
  · left
    omega

theorem Found.apart_of_next_le {m m' : Found} (hle : m.start ≤ m.stop) (h : m.next ≤ m'.start) : Apart m m' := by
  unfold Found.next at h
  unfold Apart
  split at h <;> omega

theorem upTo?_eq_some_cons (h : w.upTo? limit c = some (m :: ms)) :
    w.met? c = some m ∧ ∃ limit', w.upTo? limit' m.next = some ms := by
  cases limit with
  | zero =>
    rw [upTo?] at h
    split at h <;> cases h
  | succ limit =>
    rw [upTo?] at h
    cases hm : w.met? c with
    | none =>
      rw [hm] at h
      cases h
    | some m₁ =>
      rw [hm] at h
      obtain ⟨ms₁, hms, heq⟩ := Option.map_eq_some_iff.mp h
      cases heq
      exact ⟨rfl, limit, hms⟩

/-- A walk that has met its last match meets none behind it. -/
theorem met?_cursorAfter (h : w.upTo? limit c = some ms) : w.met? (cursorAfter c ms) = none := by
  induction ms generalizing limit c with
  | nil =>
    have hnone := nth?_eq_getElem? h 0
    rw [List.getElem?_nil] at hnone
    exact hnone
  | cons m ms ih =>
    obtain ⟨-, limit', hms⟩ := upTo?_eq_some_cons h
    exact ih hms

namespace Leftmost

variable (h : w.Leftmost at?)
include h

theorem forward : w.Forward where
  cursor_le hm := (h.first (le_of_met? hm) (search_of_met? hm)).1
  start_le hm := (h.first (le_of_met? hm) (search_of_met? hm)).2.1
  stop_le hm := (h.first (le_of_met? hm) (search_of_met? hm)).2.2.1

theorem at?_of_met? (hm : w.met? c = some m) : at? m.start = some m :=
  (h.first (le_of_met? hm) (search_of_met? hm)).2.2.2.1

/-- **One step leaves no match out**: where a match begins between the cursor and the place where the walk goes on, the
match that is met begins too, or it reaches beyond that place. -/
theorem covered_before_next (hm : w.met? c = some m) (hs : c ≤ s) (hlt : s < m.next) (hat : at? s ≠ none) :
    s = m.start ∨ (m.start < s ∧ s < m.stop) := by
  obtain ⟨-, hle, -, -, hbefore⟩ := h.first (le_of_met? hm) (search_of_met? hm)
  have hstart : m.start ≤ s := by
    by_contra hlt'
    exact hat (hbefore s hs (by omega))
  unfold Found.next at hlt
  split at hlt <;> omega

theorem at?_of_met?_eq_none (hm : w.met? c = none) (hs : c ≤ s) (hsize : s ≤ w.size) : at? s = none := by
  rcases search_of_met?_eq_none hm with hlt | hnone
  · omega
  · exact h.nothing (by omega) hnone s hs hsize

/-! ### The whole walk -/

/-- What is listed begins at the cursor or behind it. -/
theorem listed_within (hms : w.upTo? limit c = some ms) :
    ∀ m ∈ ms, c ≤ m.start ∧ m.start ≤ m.stop ∧ m.stop ≤ w.size ∧ at? m.start = some m := by
  induction ms generalizing limit c with
  | nil => simp
  | cons m ms ih =>
    obtain ⟨hm, limit', hrest⟩ := upTo?_eq_some_cons hms
    have hcursor := h.forward.cursor_le hm
    have hlt := h.forward.lt_next hm
    intro m' hm'
    rcases List.mem_cons.mp hm' with rfl | hm'
    · exact ⟨hcursor, h.forward.start_le hm, h.forward.stop_le hm, h.at?_of_met? hm⟩
    · obtain ⟨hle, hrest'⟩ := ih hrest m' hm'
      exact ⟨by omega, hrest'⟩

theorem pairwise_apart (hms : w.upTo? limit c = some ms) : ms.Pairwise Apart := by
  induction ms generalizing limit c with
  | nil => simp
  | cons m ms ih =>
    obtain ⟨hm, limit', hrest⟩ := upTo?_eq_some_cons hms
    refine List.pairwise_cons.mpr ⟨?_, ih hrest⟩
    intro m' hm'
    exact Found.apart_of_next_le (h.forward.start_le hm) (h.listed_within hrest m' hm').1

/-- Nothing is left out from the cursor on. -/
theorem covered (hms : w.upTo? limit c = some ms) (hs : c ≤ s) (hsize : s ≤ w.size) (hat : at? s ≠ none) :
    Covered ms s := by
  induction ms generalizing limit c with
  | nil =>
    have hnone : w.met? c = none := met?_cursorAfter hms
    exact absurd (h.at?_of_met?_eq_none hnone hs hsize) hat
  | cons m ms ih =>
    obtain ⟨hm, limit', hrest⟩ := upTo?_eq_some_cons hms
    by_cases hlt : s < m.next
    · exact ⟨m, List.mem_cons_self, h.covered_before_next hm hs hlt hat⟩
    · obtain ⟨m', hm', hcovers⟩ := ih hrest (by omega)
      exact ⟨m', List.mem_cons_of_mem m hm', hcovers⟩

end Leftmost

/-- **A walk over a leftmost search lists the matches from left to right** and ends. They are at most one more than there
are characters, each of them is the match at its start, and they do not overlap. Every place where a match begins is
the start of one that is listed or lies inside one. The walk ends because there is no match any more or because the
cursor is behind the text, so that a match at the very end is listed too. -/
theorem leftmost_walk_lists_matches (w : Walk) (at? : Nat → Option Found) (h : w.Leftmost at?) :
    ∃ ms, w.all? = some ms ∧ ms.length ≤ w.size + 1 ∧
      (∀ m ∈ ms, m.start ≤ m.stop ∧ m.stop ≤ w.size ∧ at? m.start = some m) ∧
      ms.Pairwise (fun m m' => m.start < m'.start ∧ m.stop ≤ m'.start) ∧
      (∀ s ≤ w.size, at? s ≠ none → ∃ m ∈ ms, s = m.start ∨ (m.start < s ∧ s < m.stop)) ∧
      (w.size < cursorAfter 0 ms ∨ w.search (cursorAfter 0 ms) = none) ∧
      ∀ m, at? w.size = some m → m ∈ ms := by
  obtain ⟨ms, hms⟩ := h.forward.exists_all
  have hwithin := h.listed_within hms
  have hcovered : ∀ s ≤ w.size, at? s ≠ none → Covered ms s := by
    intro s hsize hat
    exact h.covered hms (Nat.zero_le s) hsize hat
  refine ⟨ms, hms, length_le_of_upTo? hms, ?_, h.pairwise_apart hms, hcovered, ?_, ?_⟩
  · intro m hm
    exact (hwithin m hm).2
  · exact search_of_met?_eq_none (met?_cursorAfter hms)
  · intro m hat
    obtain ⟨m', hm', hcovers⟩ := hcovered w.size (Nat.le_refl _) (by simp [hat])
    obtain ⟨-, -, hstop, hat'⟩ := hwithin m' hm'
    have hstart : w.size = m'.start := by omega
    rw [hstart, hat'] at hat
    cases hat
    exact hm'

end Walk

/-! ### Searching for a pattern -/

namespace Program

variable {p : Program} {text : Array Char}

/-- The match that a search finds where it tries a place. -/
def triedAt? (p : Program) (text : Array Char) (s : Nat) : Option Found :=
  if p.mayStart (p.setting text s) s then p.matchAt text s else none

/-- The first match from a place on, of those that begin up to `size`. -/
def IsFirst (at? : Nat → Option Found) (size c : Nat) : Option Found → Prop
  | some m => c ≤ m.start ∧ m.start ≤ size ∧ at? m.start = some m ∧ ∀ i, c ≤ i → i < m.start → at? i = none
  | none => ∀ i, c ≤ i → i ≤ size → at? i = none

/-- Where no match begins, the first one is the first from the next place on. -/
theorem IsFirst.of_succ {at? : Nat → Option Found} {size c : Nat} {found : Option Found} (hnone : at? c = none)
    (h : IsFirst at? size (c + 1) found) : IsFirst at? size c found := by
  have hbefore {P : Nat → Prop} (hP : ∀ i, c + 1 ≤ i → P i → at? i = none) : ∀ i, c ≤ i → P i → at? i = none := by
    intro i hi hp
    rcases Nat.eq_or_lt_of_le hi with rfl | hlt
    · exact hnone
    · exact hP i hlt hp
  cases found with
  | none => exact hbefore h
  | some m =>
    obtain ⟨hle, hsize, hat, hfirst⟩ := h
    exact ⟨by omega, hsize, hat, hbefore hfirst⟩

section Plain

variable (hmoves : p.node.movesStart = false) (hstart : p.node.asksSearchStart = false)
include hmoves hstart

/-- Without `\K` and `\G` an attempt that fails is followed by the next place, and one that does not is the match that
begins there. -/
theorem isFirst_firstFrom (place tries c : Nat) (htries : text.size < tries + c) :
    IsFirst (p.triedAt? text) text.size c ((p.firstFrom (p.setting text place) tries c).map State.found) := by
  induction tries generalizing c with
  | zero =>
    intro i hi hsize
    omega
  | succ tries ih =>
    have hnext := ih (c + 1) (by omega)
    rw [firstFrom]
    by_cases hsize : (p.setting text place).text.size < c
    · rw [if_pos hsize]
      intro i hi hle
      exact absurd hle (Nat.not_le.mpr (Nat.lt_of_lt_of_le hsize hi))
    · have hle : c ≤ text.size := Nat.not_lt.mp hsize
      have hmay : p.mayStart (p.setting text place) c = p.mayStart (p.setting text c) c := rfl
      rw [if_neg hsize]
      by_cases htry : p.mayStart (p.setting text place) c = true
      · have hagain : p.matchFrom (p.setting text c) c = p.matchFrom (p.setting text place) c :=
          matchFrom_beganAt (p.setting text place) c hstart c
        have htried : p.triedAt? text c = (p.matchFrom (p.setting text place) c).state?.map State.found := by
          unfold triedAt? matchAt
          rw [← hmay, if_pos htry, Nat.min_eq_left hle]
          simp only [hagain]
        have hkeeps := @matchFrom_start p (p.setting text place) c hmoves
        simp only [htry, Bool.not_true, Bool.false_eq_true, ↓reduceIte]
        cases hmatch : p.matchFrom (p.setting text place) c with
        | matched s =>
          rw [hmatch] at htried hkeeps
          have hc : s.found.start = c := hkeeps
          refine ⟨Nat.le_of_eq hc.symm, hc ▸ hle, hc ▸ htried, ?_⟩
          intro i hi hlt
          omega
        | failed trail =>
          rw [hmatch] at htried hkeeps
          have hc : trail.start = c := hkeeps
          dsimp only
          rw [hc]
          exact hnext.of_succ htried
      · have hnone : p.triedAt? text c = none := by
          unfold triedAt?
          rw [← hmay, if_neg htry]
        simp only [htry, Bool.not_false, ↓reduceIte]
        exact hnext.of_succ hnone

/-- **The walk of a pattern without `\K` and `\G` searches from the left.** -/
theorem leftmost_walk (text : Array Char) : (p.walk text).Leftmost (p.triedAt? text) where
  first {c m} hc hm := by
    have hfirst := @isFirst_firstFrom p text hmoves hstart c (text.size + 1 - c) c (by omega)
    change p.search text c = some m at hm
    rw [← search_of_le hc, hm] at hfirst
    obtain ⟨hle, -, hat, hbefore⟩ := hfirst
    exact ⟨hle, (le_of_search hmoves hm).2, (search_within hm).stop_le, hat, hbefore⟩
  nothing {c} hc hm := by
    have hfirst := @isFirst_firstFrom p text hmoves hstart c (text.size + 1 - c) c (by omega)
    change p.search text c = none at hm
    rw [← search_of_le hc, hm] at hfirst
    exact hfirst

end Plain

end Program

/-- The program of `a*`. -/
def runProgram : Program := ⟨.times .greedy 0 none (.one (.char 97 true .exact)), 0, false, .worldwide⟩

/-- In `baac` the walk of `a*` lists an empty match, the two letters, and the empty matches behind them. -/
theorem leftmost_walk_lists_matches_run :
    let w := runProgram.walk "baac".toList.toArray
    let at? := runProgram.triedAt? "baac".toList.toArray
    w.Leftmost at? ∧ w.all? = some [⟨0, 0, []⟩, ⟨1, 3, []⟩, ⟨3, 3, []⟩, ⟨4, 4, []⟩] ∧
      ∃ ms, w.all? = some ms ∧ ms.length ≤ w.size + 1 ∧
        (∀ m ∈ ms, m.start ≤ m.stop ∧ m.stop ≤ w.size ∧ at? m.start = some m) ∧
        ms.Pairwise (fun m m' => m.start < m'.start ∧ m.stop ≤ m'.start) ∧
        (∀ s ≤ w.size, at? s ≠ none → ∃ m ∈ ms, s = m.start ∨ (m.start < s ∧ s < m.stop)) ∧
        (w.size < Walk.cursorAfter 0 ms ∨ w.search (Walk.cursorAfter 0 ms) = none) ∧
        ∀ m, at? w.size = some m → m ∈ ms := by
  have h := Program.leftmost_walk (p := runProgram) rfl rfl "baac".toList.toArray
  exact ⟨h, by decide +kernel, Walk.leftmost_walk_lists_matches _ _ h⟩

end SqlRegexp.Match
