import SqlRegexp.Proofs.Pattern.Abreast.Basic
import SqlRegexp.Proofs.Pattern.Scan

/-!
Texts in which the scan for end anchors finds what a reader finds.

The scan knows classes and escapes, but neither named classes nor comments. `Scanned x u` says of a text `u` that this
does no harm: behind every class and every comment that a reader meets in it the scan is outside classes too, and it
leaves the characters of classes alone. Where blanks and comments may be ignored, `x` is set.

* `Scanned.uncons`: a text and the pinned one begin alike, but for an end anchor.
* `Scanned.seen`, `Scanned.taken`: so they do behind ignored blanks and behind a run of characters.
-/

namespace SqlRegexp

open SqlRegexp.Text SqlRegexp.Unicode

def Place.behind (place : Place) (cs : List Char) : Place := cs.foldl Place.next place

namespace PatternText

variable {c : Char} {u : List Char}

theorem pinFrom_append (place : Place) (cs u : List Char) :
    pinFrom place (cs ++ u) = pinFrom place cs ++ pinFrom (place.behind cs) u := by
  induction cs generalizing place with
  | nil => rfl
  | cons c cs ih =>
    rw [List.cons_append, pinFrom, pinFrom, ih, List.append_assoc]
    rfl

theorem length_pinFrom (place : Place) (u : List Char) : u.length ≤ (pinFrom place u).length := by
  induction u generalizing place with
  | nil => exact Nat.le_refl _
  | cons c u ih =>
    have hrest := ih (place.next c)
    rw [pinFrom, List.length_append, List.length_cons]
    split <;> simp only [List.length_cons, List.length_nil] <;> omega

theorem pinEnds_cons (h : Unmarked c) : pinEnds (c :: u) = c :: pinEnds u := pinnedIf_cons (b := true) h

theorem pinEnds_escape : pinEnds ('\\' :: c :: u) = '\\' :: c :: pinEnds u := pinnedIf_escape (b := true)

theorem pinEnds_dollar : pinEnds ('$' :: u) = '\\' :: 'Z' :: pinEnds u := pinnedIf_dollar (b := true)

/-- A class that the scan leaves alone, and behind which it is outside. -/
theorem pinEnds_bracketed {k : List Char} (hk : pinFrom .opened k = k) (hend : Place.opened.behind k = .outside) :
    pinEnds ('[' :: (k ++ u)) = '[' :: (k ++ pinEnds u) := by
  show pinFrom .outside ('[' :: (k ++ u)) = _
  rw [pinFrom, if_neg (by decide)]
  show '[' :: pinFrom .opened (k ++ u) = _
  rw [pinFrom_append, hk, hend]
  rfl

theorem pinEnds_comment {cs : List Char} (hend : Place.outside.behind cs = .outside) :
    pinEnds ('?' :: '#' :: (cs ++ ')' :: u)) = '?' :: '#' :: (pinEnds cs ++ ')' :: pinEnds u) := by
  rw [pinEnds_cons (by decide), pinEnds_cons (by decide)]
  show '?' :: '#' :: pinFrom .outside (cs ++ ')' :: u) = _
  rw [pinFrom_append, hend]
  show '?' :: '#' :: (pinEnds cs ++ pinEnds (')' :: u)) = _
  rw [pinEnds_cons (by decide)]

end PatternText

namespace Pattern

open PatternText

/-- The characters that begin something of several characters outside classes. -/
def openers : List Char := ['\\', '(', '[']

/-- Behind every class and comment of a text the scan for end anchors is outside classes, and it leaves classes alone. -/
inductive Scanned (x : Bool) : List Char → Prop
  | nil : Scanned x []
  | char {c u} : c ∉ openers → (x = true → c ≠ '#') → Scanned x u → Scanned x (c :: u)
  /-- Where blanks may be ignored, the sign may begin a comment up to the end of the line. -/
  | hash {u} : x = true → afterLine (pinEnds u) = pinEnds (afterLine u) → Scanned x (afterLine u) → Scanned x u →
      Scanned x ('#' :: u)
  | escape {u} (c : Char) : Scanned x u → Scanned x ('\\' :: c :: u)
  | dangling : Scanned x ['\\']
  | bracketed {k u} : ClassText true k → pinFrom .opened k = k → Place.opened.behind k = .outside → Scanned x u →
      Scanned x ('[' :: (k ++ u))
  | comment {cs u} : CommentText cs → Place.outside.behind cs = .outside → Scanned x u →
      Scanned x ('(' :: '?' :: '#' :: (cs ++ ')' :: u))
  /-- The parenthesis of a choice is not read by itself. -/
  | condition {u} : Scanned x u → Scanned x ('(' :: '?' :: '(' :: u)
  /-- Any other parenthesis; where no blanks are ignored, none begin to be. -/
  | parenthesis {u} : (∀ c t, u = '?' :: c :: t → c ∉ ['#', '(']) →
      (∀ t, u = '?' :: t → x = false → 'x' ∉ t.takeWhile fun c => (Reading.optionLetter? c).isSome) → Scanned x u →
      Scanned x ('(' :: u)

/-- The characters that the scan or a reader stops at are marks. -/
theorem mem_marks_of_openers {c : Char} (h : c ∈ openers) : c ∈ marks := by
  simp only [openers, List.mem_cons, List.not_mem_nil, or_false] at h
  rcases h with rfl | rfl | rfl <;> decide

theorem not_blank_of_openers {c : Char} (h : c ∈ openers) : ¬ isBlank c.toNat = true := by
  simp only [openers, List.mem_cons, List.not_mem_nil, or_false] at h
  rcases h with rfl | rfl | rfl <;> decide

namespace Scanned

variable {x : Bool} {u : List Char}

/-- A text without classes and comments, whether blanks may be ignored in it or not. -/
theorem of_plain (hclass : '[' ∉ u) (hcomment : '#' ∉ u) : Scanned true u := by
  -- by the length, since an escape and a choice take several characters
  induction hn : u.length using Nat.strongRecOn generalizing u with
  | ind n ih =>
    subst hn
    have hrest {w : List Char} (hsuffix : w <:+ u) (hlen : w.length < u.length) : Scanned true w :=
      ih _ hlen (fun h => hclass (hsuffix.mem h)) (fun h => hcomment (hsuffix.mem h)) rfl
    cases u with
    | nil => exact .nil
    | cons c w =>
      have hw : Scanned true w := hrest (List.suffix_cons c w) (Nat.lt_succ_self _)
      by_cases hslash : c = '\\'
      · subst hslash
        cases w with
        | nil => exact .dangling
        | cons d w => exact .escape d (hrest ⟨['\\', d], rfl⟩ (by simp only [List.length_cons]; omega))
      · by_cases hparen : c = '('
        · subst hparen
          by_cases hchoice : ∃ t, w = '?' :: '(' :: t
          · obtain ⟨t, rfl⟩ := hchoice
            exact .condition (hrest ⟨['(', '?', '('], rfl⟩ (by simp only [List.length_cons]; omega))
          · refine .parenthesis (fun d t hd hmem => ?_) (fun _ _ hx => nomatch hx) hw
            subst hd
            simp only [List.mem_cons, List.not_mem_nil, or_false] at hmem
            rcases hmem with rfl | rfl
            · exact hcomment (by simp)
            · exact hchoice ⟨t, rfl⟩
        · have hbracket : c ≠ '[' := fun h => hclass (h ▸ List.mem_cons_self)
          have hhash : c ≠ '#' := fun h => hcomment (h ▸ List.mem_cons_self)
          refine .char ?_ (fun _ => hhash) hw
          simp only [openers, List.mem_cons, List.not_mem_nil, or_false, not_or]
          exact ⟨hslash, hparen, hbracket⟩

theorem tail {c : Char} (h : Scanned x (c :: u)) (hc : c ∉ openers) : Scanned x u := by
  cases h with
  | char _ _ h => exact h
  | hash _ _ _ h => exact h
  | escape | dangling | bracketed | comment | condition | parenthesis => exact absurd (by decide) hc

/-- A text and the pinned one are at their ends, or begin with an end anchor and what it is pinned to, or begin with the
same character. -/
theorem uncons (h : Scanned x u) :
    (u = [] ∧ pinEnds u = []) ∨ (∃ u', u = '$' :: u' ∧ pinEnds u = '\\' :: 'Z' :: pinEnds u' ∧ Scanned x u') ∨
      ∃ c u' v', u = c :: u' ∧ pinEnds u = c :: v' ∧ c ≠ '$' ∧ (c ∉ openers → v' = pinEnds u' ∧ Scanned x u') := by
  -- only an end anchor begins with another character once it is pinned
  have hsame {c : Char} {u : List Char} (hc : c ≠ '$') (hu : c ∉ openers → Scanned x u) :
      ∃ d u' v', c :: u = d :: u' ∧ pinEnds (c :: u) = d :: v' ∧ d ≠ '$' ∧
        (d ∉ openers → v' = pinEnds u' ∧ Scanned x u') := by
    by_cases ho : c ∈ openers
    · refine ⟨c, u, pinFrom (Place.outside.next c) u, rfl, ?_, hc, fun h => absurd ho h⟩
      show pinFrom .outside (c :: u) = _
      rw [pinFrom, if_neg fun he => hc he.2]
      rfl
    · have hunmarked : Unmarked c := by
        simp only [openers, List.mem_cons, List.not_mem_nil, or_false, not_or] at ho
        exact ⟨ho.1, ho.2.2, hc⟩
      exact ⟨c, u, pinEnds u, rfl, pinEnds_cons hunmarked, hc, fun h => ⟨rfl, hu h⟩⟩
  cases h with
  | nil => exact .inl ⟨rfl, rfl⟩
  | @char c u _ _ h =>
    by_cases hc : c = '$'
    · subst hc
      exact .inr (.inl ⟨u, rfl, pinEnds_dollar, h⟩)
    · exact .inr (.inr (hsame hc fun _ => h))
  | hash _ _ _ h => exact .inr (.inr (hsame (by decide) fun _ => h))
  | escape | dangling | bracketed | comment | condition | parenthesis =>
    exact .inr (.inr (hsame (by decide) fun hc => absurd (by decide) hc))

/-- A comment up to the end of its line is one in the pinned text too. -/
theorem of_hash (hx : x = true) (h : Scanned x ('#' :: u)) :
    afterLine (pinEnds u) = pinEnds (afterLine u) ∧ Scanned x (afterLine u) := by
  cases h with
  | char _ hc => exact absurd rfl (hc hx)
  | hash _ hline h _ => exact ⟨hline, h⟩

/-! ### Ignored blanks and runs of characters -/

theorem skipIgnored (hx : x = true) (h : Scanned x u) :
    Source.skipIgnored false (pinEnds u) = pinEnds (Source.skipIgnored false u) ∧
      Scanned x (Source.skipIgnored false u) := by
  induction hn : u.length using Nat.strongRecOn generalizing u with
  | ind n ih =>
    rcases h.uncons with ⟨rfl, -⟩ | ⟨u', rfl, hpin, -⟩ | ⟨c, u', v', rfl, hpin, -, h'⟩
    · exact ⟨rfl, h⟩
    · -- an end anchor is no blank, and neither is what it is pinned to
      have hstays : Source.skipIgnored false ('$' :: u') = '$' :: u' := rfl
      rw [hstays, hpin]
      exact ⟨rfl, h⟩
    · have hlen : u'.length < n := by rw [← hn, List.length_cons]; omega
      by_cases hblank : isBlank c.toNat = true
      · have hc : c ∉ openers := fun hc => not_blank_of_openers hc hblank
        obtain ⟨rfl, hu'⟩ := h' hc
        rw [hpin, Source.skipIgnored, if_pos hblank, Source.skipIgnored, if_pos hblank]
        exact ih _ hlen hu' rfl
      · by_cases hhash : c = '#'
        · subst hhash
          obtain ⟨rfl, -⟩ := h' (by decide)
          obtain ⟨hline, hu'⟩ := h.of_hash hx
          have hshorter := Raised.length_afterLine u'
          rw [hpin, Source.skipIgnored, if_neg hblank, if_pos rfl, Source.skipIgnored, if_neg hblank, if_pos rfl,
            Raised.skipIgnored_true, Raised.skipIgnored_true, hline]
          exact ih _ (by omega) hu' rfl
        · have hstays (w : List Char) : Source.skipIgnored false (c :: w) = c :: w := by
            rw [Source.skipIgnored, if_neg hblank, if_neg hhash]
          rw [hpin, hstays, hstays, hpin]
          exact ⟨rfl, h⟩

theorem seen {skipping : Bool} (hx : skipping = true → x = true) (h : Scanned x u) :
    Source.seen skipping (pinEnds u) = pinEnds (Source.seen skipping u) ∧ Scanned x (Source.seen skipping u) := by
  unfold Source.seen
  split
  · next hs => exact h.skipIgnored (hx hs)
  · exact ⟨rfl, h⟩

/-- Runs of characters at the front of a text and of the pinned one: they are the same, and the pinned text goes on with
what follows, or there is a mark in both. -/
def RunsAlike (x : Bool) (r r' : List Char × List Char) : Prop :=
  (r'.1 = r.1 ∧ r'.2 = pinEnds r.2 ∧ Scanned x r.2) ∨ (∃ c ∈ marks, c ∈ r.1) ∧ ∃ c ∈ marks, c ∈ r'.1

namespace RunsAlike

variable {r r' : List Char × List Char}

theorem cons (c : Char) (h : RunsAlike x r r') : RunsAlike x (c :: r.1, r.2) (c :: r'.1, r'.2) := by
  rcases h with ⟨heq, h⟩ | ⟨⟨d, hd, hr⟩, e, he, hr'⟩
  · exact .inl ⟨by rw [heq], h⟩
  · exact .inr ⟨⟨d, hd, List.mem_cons_of_mem _ hr⟩, e, he, List.mem_cons_of_mem _ hr'⟩

/-- Nothing is taken. -/
theorem stop (h : Scanned x u) : RunsAlike x ([], u) ([], pinEnds u) := .inl ⟨rfl, rfl, h⟩

/-- Both runs begin with marks. -/
theorem marked {c d : Char} (hc : c ∈ marks) (hd : d ∈ marks) (cs ds u v : List Char) :
    RunsAlike x (c :: cs, u) (d :: ds, v) := .inr ⟨⟨c, hc, List.mem_cons_self⟩, d, hd, List.mem_cons_self⟩

end RunsAlike

section Runs

variable {p : Char → Bool} (hp : p '\\' = p '$')

include hp

theorem gather (hx : x = true) (h : Scanned x u) :
    RunsAlike x (Source.gather p false u) (Source.gather p false (pinEnds u)) := by
  induction hn : u.length using Nat.strongRecOn generalizing u with
  | ind n ih =>
    rcases h.uncons with ⟨rfl, -⟩ | ⟨u', rfl, hpin, -⟩ | ⟨c, u', v', rfl, hpin, -, h'⟩
    · exact .stop h
    · -- at an end anchor the run goes on in both texts, or in neither
      have hgather {c : Char} (w : List Char) (hblank : ¬ isBlank c.toNat = true) (hhash : c ≠ '#') :
          Source.gather p false (c :: w) =
            if p c = true then (c :: (Source.gather p false w).1, (Source.gather p false w).2) else ([], c :: w) := by
        rw [Source.gather, if_neg hblank, if_neg hhash]
      rw [hgather u' (by decide) (by decide), hpin, hgather _ (by decide) (by decide), hp]
      split
      · exact .marked (by decide) (by decide) _ _ _ _
      · rw [← hpin]
        exact .stop h
    · have hlen : u'.length < n := by rw [← hn, List.length_cons]; omega
      rw [hpin]
      simp only [Source.gather]
      split
      · next hblank =>
        have hc : c ∉ openers := fun hc => not_blank_of_openers hc hblank
        obtain ⟨rfl, hu'⟩ := h' hc
        exact ih _ hlen hu' rfl
      · split
        · next hhash =>
          subst hhash
          obtain ⟨rfl, -⟩ := h' (by decide)
          obtain ⟨hline, hu'⟩ := h.of_hash hx
          have hshorter := Raised.length_afterLine u'
          rw [Raised.gather_true, Raised.gather_true, hline]
          exact ih _ (by omega) hu' rfl
        · split
          · by_cases hc : c ∈ openers
            · exact .marked (mem_marks_of_openers hc) (mem_marks_of_openers hc) _ _ _ _
            · obtain ⟨rfl, hu'⟩ := h' hc
              exact (ih _ hlen hu' rfl).cons c
          · rw [← hpin]
            exact .stop h

theorem takeWhile (h : Scanned x u) :
    RunsAlike x (u.takeWhile p, u.dropWhile p) ((pinEnds u).takeWhile p, (pinEnds u).dropWhile p) := by
  induction hn : u.length using Nat.strongRecOn generalizing u with
  | ind n ih =>
    rcases h.uncons with ⟨rfl, -⟩ | ⟨u', rfl, hpin, -⟩ | ⟨c, u', v', rfl, hpin, -, h'⟩
    · exact .stop h
    · by_cases hc : p '$' = true
      · rw [hpin, List.takeWhile_cons_of_pos hc, List.takeWhile_cons_of_pos (hp.trans hc)]
        exact .marked (by decide) (by decide) _ _ _ _
      · have hslash : ¬ p '\\' = true := by rwa [hp]
        rw [List.takeWhile_cons_of_neg hc, List.dropWhile_cons_of_neg hc, hpin, List.takeWhile_cons_of_neg hslash,
          List.dropWhile_cons_of_neg hslash, ← hpin]
        exact .stop h
    · have hlen : u'.length < n := by rw [← hn, List.length_cons]; omega
      by_cases hpc : p c = true
      · rw [hpin, List.takeWhile_cons_of_pos hpc, List.takeWhile_cons_of_pos hpc, List.dropWhile_cons_of_pos hpc,
          List.dropWhile_cons_of_pos hpc]
        by_cases hc : c ∈ openers
        · exact .marked (mem_marks_of_openers hc) (mem_marks_of_openers hc) _ _ _ _
        · obtain ⟨rfl, hu'⟩ := h' hc
          exact (ih _ hlen hu' rfl).cons c
      · rw [List.takeWhile_cons_of_neg hpc, List.dropWhile_cons_of_neg hpc, hpin, List.takeWhile_cons_of_neg hpc,
          List.dropWhile_cons_of_neg hpc, ← hpin]
        exact .stop h

theorem taken {skipping : Bool} (hx : skipping = true → x = true) (h : Scanned x u) :
    RunsAlike x (Source.taken skipping p u) (Source.taken skipping p (pinEnds u)) := by
  unfold Source.taken
  split
  · next hs => exact h.gather hp (hx hs)
  · exact h.takeWhile hp

end Runs

/-- A run without marks is the same in both texts. -/
theorem taken_same {skipping : Bool} {p : Char → Bool} (hp : ∀ c ∈ marks, p c = false)
    (hx : skipping = true → x = true) (h : Scanned x u) :
    (Source.taken skipping p (pinEnds u)).1 = (Source.taken skipping p u).1 ∧
      (Source.taken skipping p (pinEnds u)).2 = pinEnds (Source.taken skipping p u).2 ∧
        Scanned x (Source.taken skipping p u).2 := by
  have hsame : p '\\' = p '$' := (hp '\\' (by decide)).trans (hp '$' (by decide)).symm
  rcases h.taken hsame hx with h | ⟨⟨c, hc, hmem⟩, -⟩
  · exact h
  · exact absurd (Source.holds_of_mem_taken hmem) (by rw [hp c hc]; exact Bool.false_ne_true)

end Scanned

end Pattern

end SqlRegexp
