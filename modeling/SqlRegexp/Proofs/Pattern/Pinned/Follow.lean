import SqlRegexp.Proofs.Pattern.Abreast.Quantifier
import SqlRegexp.Proofs.Pattern.Pinned.Node
import SqlRegexp.Proofs.Pattern.Pinned.Text

/-!
Reading a pattern and its pinned text.

`Pinning.Fits` says how far a pattern may have been read, and `Pinning.pinned` gives the source of the pinned text at the
same place. `Pinning.Follows R r r'`: where `r` reads something of the pattern, `r'` reads of the pinned text what stands
in the relation `R` to it, and comes to the same place. Where the pattern is refused nothing is said of the pinned text.
What is put together of readers that follow one another follows (`Follows.bind`).

The readers of characters are those that are told apart by nothing but marks; that they read alike from two texts that
are in step is known already, and the pinned text is in step with the pattern (`Pinning.inStep`).
-/

namespace SqlRegexp.Pattern

open PatternText SqlRegexp.Text SqlRegexp.Unicode
open Node (PinsTo)

/-- A pattern and its pinned text: whether blanks may be ignored in them, and how long they are. -/
structure Pinning where
  blanks : Bool
  length : Nat
  length' : Nat
  length_le : length ≤ length'

namespace Pinning

/-! ### Sources -/

/-- What may be left to read of a pattern. -/
structure Left (e : Pinning) (u : List Char) : Prop where
  scanned : Scanned e.blanks u
  length : u.length ≤ e.length
  length' : (pinEnds u).length ≤ e.length'

/-- What is left of a pattern, and of its pinned text. -/
def Pair (e : Pinning) (u v : List Char) : Prop := e.Left u ∧ v = pinEnds u

/-- A pattern has been read up to a place outside classes, escapes and comments. -/
structure Fits (e : Pinning) (s : Source) : Prop where
  text : e.Left s.rest
  total : s.total = e.length
  skips : s.skipping = true → e.blanks = true
  verbose : s.options.verbose = true → e.blanks = true

/-- The same place in the pinned text. -/
def pinned (e : Pinning) (s : Source) : Source := { s with rest := pinEnds s.rest, total := e.length' }

variable {e : Pinning} {s : Source} {u : List Char}

/-- Behind the front of a pattern, if the front of the pinned text is known. -/
theorem Left.rest {k l w : List Char} (h : e.Left u) (hu : u = k ++ w) (hpin : pinEnds u = l ++ pinEnds w)
    (hw : Scanned e.blanks w) : e.Left w := by
  obtain ⟨-, hlen, hlen'⟩ := h
  rw [hpin, List.length_append] at hlen'
  rw [hu, List.length_append] at hlen
  exact ⟨hw, by omega, by omega⟩

theorem Left.tail {c : Char} (h : e.Left (c :: u)) (hpin : pinEnds (c :: u) = c :: pinEnds u)
    (hu : Scanned e.blanks u) : e.Left u := h.rest (k := [c]) (l := [c]) rfl hpin hu

theorem Left.seen {skipping : Bool} (hx : skipping = true → e.blanks = true) (h : e.Left u) :
    Source.seen skipping (pinEnds u) = pinEnds (Source.seen skipping u) ∧ e.Left (Source.seen skipping u) := by
  obtain ⟨hpin, hseen⟩ := h.scanned.seen hx
  have hlen := Source.length_seen skipping (pinEnds u)
  rw [hpin] at hlen
  exact ⟨hpin, hseen, Nat.le_trans (Source.length_seen skipping u) h.length, Nat.le_trans hlen h.length'⟩

/-- Behind a run of characters, if the runs are the same in both texts. -/
theorem Left.behind {skipping : Bool} {p : Char → Bool} (h : e.Left u)
    (hpin : (Source.taken skipping p (pinEnds u)).2 = pinEnds (Source.taken skipping p u).2)
    (hu : Scanned e.blanks (Source.taken skipping p u).2) : e.Left (Source.taken skipping p u).2 := by
  have hlen := Source.length_taken skipping p (pinEnds u)
  rw [hpin] at hlen
  exact ⟨hu, Nat.le_trans (Source.length_taken skipping p u) h.length, Nat.le_trans hlen h.length'⟩

/-- **The pinned text is in step with the pattern.** -/
theorem inStep {skipping : Bool} (hx : skipping = true → e.blanks = true) : InStep skipping e.Pair where
  alike u v h := by
    obtain ⟨h, rfl⟩ := h
    rcases h.scanned.uncons with ⟨rfl, hpin⟩ | ⟨u', rfl, hpin, -⟩ | ⟨c, u', v', rfl, hpin, -, h'⟩
    · exact .inl ⟨stops_nil, hpin ▸ stops_nil⟩
    · refine .inl ⟨fun c hc => ?_, fun c hc => ?_⟩
      · cases hc
        decide
      · rw [hpin] at hc
        cases hc
        decide
    · refine .inr ⟨c, u', v', rfl, hpin, fun hc => ?_⟩
      obtain ⟨rfl, hu'⟩ := h' fun ho => hc (mem_marks_of_openers ho)
      exact ⟨h.tail hpin hu', rfl⟩
  seen h := by
    obtain ⟨h, rfl⟩ := h
    obtain ⟨hpin, hseen⟩ := h.seen hx
    exact ⟨hseen, hpin⟩
  taken h hp := by
    obtain ⟨h, rfl⟩ := h
    obtain ⟨hrun, hpin, hu⟩ := h.scanned.taken_same hp hx
    exact ⟨hrun, h.behind hpin hu, hpin⟩

namespace Fits

theorem leaving (h : e.Fits s) (hu : e.Left u) : e.Fits (s.leaving u) := ⟨hu, h.total, h.skips, h.verbose⟩

theorem setOptions (h : e.Fits s) {o : Options} (ho : o.verbose = true → e.blanks = true) :
    e.Fits { s with options := o, skipping := o.verbose } := ⟨h.text, h.total, ho, ho⟩

theorem paired (h : e.Fits s) : Paired e.Pair s (e.pinned s) := ⟨rfl, rfl, inStep h.skips, h.text, rfl⟩

theorem visible (h : e.Fits s) : (e.pinned s).visible = pinEnds s.visible ∧ e.Left s.visible := h.text.seen h.skips

end Fits

/-- What a pattern and its pinned text begin with where no character follows that stands for itself. -/
inductive Halt : Option Char → Option Char → Prop
  | nothing : Halt none none
  | slash : Halt (some '\\') (some '\\')
  | parenthesis : Halt (some '(') (some '(')
  | bracket : Halt (some '[') (some '[')
  | anchor : Halt (some '$') (some '\\')

/-- A character that stands for itself, to a reader and to the scan. -/
def Plain (c : Char) : Prop := c ∉ openers ∧ c ≠ '$'

instance (c : Char) : Decidable (Plain c) := inferInstanceAs (Decidable (_ ∧ _))

theorem Halt.ne {d d' : Option Char} (h : Halt d d') {c : Char} (hc : Plain c) : d ≠ some c ∧ d' ≠ some c := by
  cases h <;> refine ⟨fun he => ?_, fun he => ?_⟩ <;> cases he <;> exact absurd hc (by decide)

theorem Left.uncons (h : e.Left u) :
    (∃ c u', Plain c ∧ u = c :: u' ∧ pinEnds u = c :: pinEnds u' ∧ e.Left u') ∨ Halt u.head? (pinEnds u).head? := by
  rcases h.scanned.uncons with ⟨rfl, -⟩ | ⟨u', rfl, hpin, -⟩ | ⟨c, u', v', rfl, hpin, hne, h'⟩
  · exact .inr .nothing
  · rw [hpin]
    exact .inr .anchor
  · by_cases hc : c ∈ openers
    · rw [hpin, List.head?_cons, List.head?_cons]
      simp only [openers, List.mem_cons, List.not_mem_nil, or_false] at hc
      rcases hc with rfl | rfl | rfl
      · exact .inr .slash
      · exact .inr .parenthesis
      · exact .inr .bracket
    · obtain ⟨rfl, hu'⟩ := h' hc
      exact .inl ⟨c, u', ⟨hc, hne⟩, rfl, hpin, h.tail hpin hu'⟩

/-- What comes next in both texts. -/
theorem Fits.next (h : e.Fits s) :
    (∃ c u, Plain c ∧ s.visible = c :: u ∧ (e.pinned s).visible = c :: pinEnds u ∧ e.Fits (s.leaving u)) ∨
      Halt s.visible.head? (e.pinned s).visible.head? := by
  obtain ⟨hpin, hseen⟩ := h.visible
  rw [hpin]
  rcases hseen.uncons with ⟨c, u, hc, hu, hv, hl⟩ | halt
  · exact .inl ⟨c, u, hc, hu, hv, h.leaving hl⟩
  · exact .inr halt

/-- A character that stands for itself comes next in both texts, or in neither. -/
theorem Fits.expected (h : e.Fits s) {c : Char} (hc : Plain c) :
    (∃ u, s.visible = c :: u ∧ (e.pinned s).visible = c :: pinEnds u ∧ e.Fits (s.leaving u)) ∨
      s.visible.head? ≠ some c ∧ (e.pinned s).visible.head? ≠ some c := by
  rcases h.next with ⟨d, u, -, hu, hv, hl⟩ | halt
  · by_cases hd : d = c
    · subst hd
      exact .inl ⟨u, hu, hv, hl⟩
    · have hne (w : List Char) : (d :: w).head? ≠ some c := fun he => hd (Option.some.inj he)
      exact .inr ⟨hu ▸ hne u, hv ▸ hne _⟩
  · exact .inr (halt.ne hc)

/-- What comes next in both texts, ignored or not. -/
theorem Fits.nextRaw (h : e.Fits s) :
    (∃ c u, Plain c ∧ s.rest = c :: u ∧ (e.pinned s).rest = c :: pinEnds u ∧ e.Fits (s.leaving u)) ∨
      Halt s.rest.head? (e.pinned s).rest.head? := by
  rcases h.text.uncons with ⟨c, u, hc, hu, hv, hl⟩ | halt
  · exact .inl ⟨c, u, hc, hu, hv, h.leaving hl⟩
  · exact .inr halt

/-! ### Readings -/

section Readings

variable {α β γ δ : Type} {R : α → β → Prop} {Q : γ → δ → Prop}

/-- How the readings of a piece of a pattern and of its pinned text come out. -/
inductive Outcome (e : Pinning) (R : α → β → Prop) :
    Except Refusal (α × Source) → Except Refusal (β × Source) → Prop
  | ok {a b t} : R a b → e.Fits t → Outcome e R (.ok (a, t)) (.ok (b, e.pinned t))
  | again (g : Options) : Outcome e R (.error (.again g)) (.error (.again g))
  | refused {err} (o') : (∀ g, err ≠ .again g) → Outcome e R (.error err) o'

/-- Where the one reader reads something of the pattern, the other reads its counterpart of the pinned text. -/
def Follows (e : Pinning) (R : α → β → Prop) (r : Reading α) (r' : Reading β) : Prop :=
  ∀ s, e.Fits s → e.Outcome R (r.run s) (r'.run (e.pinned s))

theorem Outcome.malformed (cause : Cause) (place : Nat) (o' : Except Refusal (β × Source)) :
    e.Outcome R (.error (.malformed cause place)) o' := .refused o' fun _ => nofun

theorem Outcome.numeral (err : NumeralError) (o' : Except Refusal (β × Source)) :
    e.Outcome R (.error (.numeral err)) o' := .refused o' fun _ => nofun

theorem Outcome.mono {R' : α → β → Prop} {o : Except Refusal (α × Source)} {o' : Except Refusal (β × Source)}
    (h : e.Outcome R o o') (hR : ∀ a b, R a b → R' a b) : e.Outcome R' o o' := by
  cases h with
  | ok h ht => exact .ok (hR _ _ h) ht
  | again g => exact .again g
  | refused o' h => exact .refused o' h

theorem Outcome.bind {r : Reading α} {r' : Reading β} {k : α → Reading γ} {k' : β → Reading δ} {s' : Source}
    (h : e.Outcome R (r.run s) (r'.run s')) (hk : ∀ a b, R a b → e.Follows Q (k a) (k' b)) :
    e.Outcome Q ((r >>= k).run s) ((r' >>= k').run s') := by
  generalize ho : r.run s = o at h
  generalize ho' : r'.run s' = o' at h
  cases h with
  | ok h ht =>
    rw [Reading.run_bind_of_ok ho, Reading.run_bind_of_ok ho']
    exact hk _ _ h _ ht
  | again g =>
    rw [Reading.run_bind_of_error ho, Reading.run_bind_of_error ho']
    exact .again g
  | refused _ h =>
    rw [Reading.run_bind_of_error ho]
    exact .refused _ h

theorem Outcome.either {c : Prop} [Decidable c] {r₁ r₂ : Reading α} {r₁' r₂' : Reading β} {s' : Source}
    (h : c → e.Outcome R (r₁.run s) (r₁'.run s')) (h' : ¬ c → e.Outcome R (r₂.run s) (r₂'.run s')) :
    e.Outcome R ((if c then r₁ else r₂).run s) ((if c then r₁' else r₂').run s') := by
  by_cases hc : c
  · rw [if_pos hc, if_pos hc]
    exact h hc
  · rw [if_neg hc, if_neg hc]
    exact h' hc

/-- What comes of texts that are in step. -/
theorem Outcome.of_meets {R : α → α → Prop} (h : e.Fits s) {o o' : Except Refusal (α × Source)}
    (hm : Meets (AlongBy R e.Pair s (e.pinned s)) o o') : e.Outcome R o o' := by
  cases hm with
  | ok h' =>
    obtain ⟨hR, u, v, rfl, rfl, hu, rfl⟩ := h'
    exact .ok hR (h.leaving hu)
  | again g => exact .again g
  | malformed => exact .malformed _ _ _
  | numeral => exact .numeral _ _

theorem Outcome.of_agrees {r : Reading α} (h : e.Fits s) (ha : Agrees e.Pair s (e.pinned s) r) :
    e.Outcome Eq (r.run s) (r.run (e.pinned s)) := by
  obtain ⟨a, u, v, hr, hr', hu, rfl⟩ := ha
  rw [hr, hr']
  exact .ok rfl (h.leaving hu)

/-- What comes next is read in both texts. -/
theorem Fits.next_bind {k : Option Char → Reading α} {k' : Option Char → Reading β} (h : e.Fits s)
    (hchar : ∀ c u, Plain c → e.Fits (s.leaving u) →
      e.Outcome R ((k (some c)).run (s.leaving u)) ((k' (some c)).run (e.pinned (s.leaving u))))
    (hhalt : ∀ d d', Halt d d' → ∀ u v, e.Outcome R ((k d).run (s.leaving u)) ((k' d').run ((e.pinned s).leaving v))) :
    e.Outcome R ((Reading.next >>= k).run s) ((Reading.next >>= k').run (e.pinned s)) := by
  rw [Reading.run_next_bind, Reading.run_next_bind]
  rcases h.next with ⟨c, u, hc, hu, hv, hl⟩ | halt
  · rw [hu, hv, List.head?_cons, List.head?_cons, List.tail_cons, List.tail_cons]
    exact hchar c u hc hl
  · exact hhalt _ _ halt _ _

namespace Follows

theorem pure {a : α} {b : β} (h : R a b) : e.Follows R (Pure.pure a : Reading α) (Pure.pure b : Reading β) :=
  fun _ hs => .ok h hs

theorem failAt (cause : Cause) (place : Nat) (r' : Reading β) :
    e.Follows R (Reading.failAt cause place : Reading α) r' := fun _ _ => .malformed _ _ _

theorem fail (cause : Cause) (r' : Reading β) : e.Follows R (Reading.fail cause : Reading α) r' :=
  fun _ _ => .malformed _ _ _

theorem bind {r : Reading α} {r' : Reading β} {k : α → Reading γ} {k' : β → Reading δ} (h : e.Follows R r r')
    (hk : ∀ a b, R a b → e.Follows Q (k a) (k' b)) : e.Follows Q (r >>= k) (r' >>= k') :=
  fun s hs => (h s hs).bind hk

theorem map {r : Reading α} {r' : Reading β} {f : α → γ} {f' : β → δ} (h : e.Follows R r r')
    (hf : ∀ a b, R a b → Q (f a) (f' b)) : e.Follows Q (f <$> r) (f' <$> r') := by
  rw [Reading.map_eq_bind, Reading.map_eq_bind]
  exact h.bind fun a b hab => .pure (hf a b hab)

theorem either {c : Prop} [Decidable c] {r₁ r₂ : Reading α} {r₁' r₂' : Reading β} (h : c → e.Follows R r₁ r₁')
    (h' : ¬ c → e.Follows R r₂ r₂') : e.Follows R (if c then r₁ else r₂) (if c then r₁' else r₂') :=
  fun s hs => .either (fun hc => h hc s hs) fun hc => h' hc s hs

theorem casing_bind {k : Casing → Reading α} {k' : Casing → Reading β} (hk : ∀ c, e.Follows R (k c) (k' c)) :
    e.Follows R (Reading.casing >>= k) (Reading.casing >>= k') := fun s hs => hk _ s hs

theorem setOptions {o : Options} (ho : o.verbose = true → e.blanks = true) :
    e.Follows (fun _ _ => True) (Reading.setOptions o) (Reading.setOptions o) :=
  fun _ hs => .ok trivial (hs.setOptions ho)

theorem closeGroup : e.Follows (fun _ _ => True) Reading.closeGroup Reading.closeGroup :=
  fun _ hs => .ok trivial ⟨hs.text, hs.total, hs.skips, hs.verbose⟩

theorem acceptChar {c : Char} (hc : Plain c) : e.Follows Eq (Reading.acceptChar c) (Reading.acceptChar c) := by
  intro s hs
  rw [Reading.run_acceptChar, Reading.run_acceptChar]
  rcases hs.expected hc with ⟨u, hu, hv, hl⟩ | ⟨hne, hne'⟩
  · rw [hu, hv, List.head?_cons, List.head?_cons, if_pos rfl, if_pos rfl]
    exact .ok rfl hl
  · rw [if_neg hne, if_neg hne']
    exact .ok rfl hs

theorem expect {c : Char} (hc : Plain c) : e.Follows Eq (Reading.expect c) (Reading.expect c) :=
  (acceptChar hc).bind fun _ _ h => h ▸ .either (fun _ => .fail _ _) fun _ => .pure rfl

theorem takeWhile {p : Char → Bool} (hp : ∀ c ∈ marks, p c = false) :
    e.Follows Eq (Reading.takeWhile p) (Reading.takeWhile p) :=
  fun _ hs => .of_agrees hs (Abreast.takeWhile hs.paired hp)

theorem numeral (o : Except NumeralError α) : e.Follows Eq (Reading.numeral o) (Reading.numeral o) := by
  intro s hs
  cases o with
  | ok a => exact .ok rfl hs
  | error err => exact .numeral err _

/-- What is read inside a bracket leaves the options as they were. -/
theorem enclosed {r : Reading α} {r' : Reading β} (h : e.Follows R r r') :
    e.Follows R (Reading.enclosed r) (Reading.enclosed r') := by
  intro s hs
  unfold Reading.enclosed
  rw [Reading.run_get_bind, Reading.run_get_bind]
  exact (h s hs).bind fun _ _ hab => (setOptions hs.verbose).bind fun _ _ _ => .pure hab

end Follows

end Readings

end Pinning

end SqlRegexp.Pattern
