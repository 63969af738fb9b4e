import SqlRegexp.Proofs.Pattern.Counterpart
import SqlRegexp.Proofs.Pattern.Raised

/-!
Reading a pattern and its text in a parenthesis abreast.

`Source.Beside` relates what has been learnt of the groups of both texts, `Meets` how the two readings of a piece come
out: the same way, with results that stand in a relation, but where the pattern is refused, the other reading is
refused too or has come to the end of its text (`Spent`), where it will be. `Meets.bind` puts pieces together; that the
end of the text is not left again is `Onward`.

`InStep` is what readers of characters need to know of the two texts, be it outside classes or inside.
-/

namespace SqlRegexp.Pattern

open SqlRegexp.Text SqlRegexp.Unicode
open SqlRegexp.Match (raised raised_injective raised_ne_one contains_map_raised)

/-! ### Sources -/

/-- What has been learnt of a pattern and of its text in a parenthesis: the latter has one more group, which is open. -/
structure Source.Beside (x : Bool) (s s' : Source) : Prop where
  skipping : s'.skipping = s.skipping
  options : s'.options = s.options
  globals : s'.globals = s.globals
  skips : s.skipping = true → x = true
  verbose : s.options.verbose = true → x = true
  posix : s.options.posix = s.globals.posix
  groupCount : s'.groupCount = s.groupCount + 1
  names : s'.names = s.names.map fun e => (e.1, raised e.2)
  opened : s'.opened = s.opened.map raised ++ [1]
  openings : s'.openings = s.openings.map raised ++ [1]

namespace Source

namespace Beside

variable {x : Bool} {s s' : Source}

theorem leaving (h : Beside x s s') (u v : List Char) : Beside x (s.leaving u) (s'.leaving v) :=
  ⟨h.skipping, h.options, h.globals, h.skips, h.verbose, h.posix, h.groupCount, h.names, h.opened, h.openings⟩

theorem setOptions (h : Beside x s s') {o : Options} (ho : o.verbose = true → x = true)
    (hposix : o.posix = s.globals.posix) :
    Beside x { s with options := o, skipping := o.verbose } { s' with options := o, skipping := o.verbose } :=
  ⟨rfl, rfl, h.globals, ho, ho, hposix, h.groupCount, h.names, h.opened, h.openings⟩

theorem number? (h : Beside x s s') (name : List Char) : s'.number? name = (s.number? name).map raised := by
  unfold Source.number?
  rw [h.names]
  induction s.names with
  | nil => rfl
  | cons e es ih =>
    rw [List.map_cons, List.lookup_cons, List.lookup_cons, ih]
    cases name == e.1 <;> rfl

theorem contains_opened (h : Beside x s s') (n : Nat) : s'.opened.contains (raised n) = s.opened.contains n := by
  have hone : raised n ≠ 1 := raised_ne_one n
  rw [h.opened, ← contains_map_raised s.opened n]
  simp [List.contains_eq_mem, hone]

end Beside

end Source

/-! ### Outcomes -/

section Outcomes

variable {α β : Type}

/-- A reading is refused, or has come to the end of the text. -/
def Spent : Except Refusal (α × Source) → Prop
  | .ok (_, t) => t.rest = []
  | .error (.again _) => False
  | .error _ => True

theorem Spent.bind {o : Except Refusal (α × Source)} {k : α → Reading β} (h : Spent o)
    (hk : ∀ a, Reading.Onward 0 (k a)) : Spent (o >>= fun p => (k p.1).run p.2) := by
  match o, h with
  | .ok (a, t), h =>
    have hlen : t.rest.length ≤ 0 := by rw [show t.rest = [] from h]; exact Nat.le_refl 0
    have hstays := hk a t hlen
    show Spent ((k a).run t)
    cases hrun : (k a).run t with
    | ok p =>
      rw [hrun] at hstays
      exact List.eq_nil_of_length_eq_zero (Nat.le_zero.mp hstays.1)
    | error e =>
      rw [hrun] at hstays
      cases e with
      | malformed | numeral => trivial
      | again g => exact absurd hstays.1 (Nat.lt_irrefl 0)
  | .error (.malformed ..), _ => trivial
  | .error (.numeral _), _ => trivial

/-- How the readings of a piece of a pattern and of its counterpart come out. A group counted backwards from the start
of a pattern is the one cause for which the pattern alone may be refused. -/
inductive Meets (Q : α → Source → α → Source → Prop) :
    Except Refusal (α × Source) → Except Refusal (α × Source) → Prop
  | ok {a t a' t'} : Q a t a' t' → Meets Q (.ok (a, t)) (.ok (a', t'))
  | again (g : Options) : Meets Q (.error (.again g)) (.error (.again g))
  | malformed {cause n o'} : (cause ≠ .invalidRelativeNumber → Spent o') → Meets Q (.error (.malformed cause n)) o'
  | numeral {e o'} : Spent o' → Meets Q (.error (.numeral e)) o'

namespace Meets

variable {Q : α → Source → α → Source → Prop} {R : β → Source → β → Source → Prop} {s s' : Source}

theorem mono {o o' : Except Refusal (α × Source)} {Q' : α → Source → α → Source → Prop} (h : Meets Q o o')
    (hQ : ∀ a t a' t', Q a t a' t' → Q' a t a' t') : Meets Q' o o' := by
  cases h with
  | ok h => exact .ok (hQ _ _ _ _ h)
  | again g => exact .again g
  | malformed h => exact .malformed h
  | numeral h => exact .numeral h

/-- Both readings are refused. -/
theorem refused (cause : Cause) (n : Nat) (cause' : Cause) (n' : Nat) :
    Meets Q (.error (.malformed cause n)) (.error (.malformed cause' n')) := .malformed fun _ => trivial

theorem errors {e e' : Refusal} (h : ∀ g, e ≠ .again g) (h' : ∀ g, e' ≠ .again g) : Meets Q (.error e) (.error e') := by
  have hspent : Spent (.error e' : Except Refusal (α × Source)) := by
    cases e' with
    | again g => exact absurd rfl (h' g)
    | _ => trivial
  cases e with
  | malformed => exact .malformed fun _ => hspent
  | numeral => exact .numeral hspent
  | again g => exact absurd rfl (h g)

/-- The pattern is at its end, and nothing is left after its closing parenthesis. -/
theorem spent (cause : Cause) (n : Nat) {a' : α} {t' : Source} (h : t'.rest = []) :
    Meets Q (.error (.malformed cause n)) (.ok (a', t')) := .malformed fun _ => h

/-- Two readings that go on after a piece. Where they have come to is no further back than where they were. -/
theorem bind {r r' : Reading α} {k k' : α → Reading β} (h : Meets Q (r.run s) (r'.run s'))
    (hspent : ∀ a', Reading.Onward 0 (k' a'))
    (hk : ∀ a t a' t', Q a t a' t' → r.run s = .ok (a, t) → r'.run s' = .ok (a', t') →
      Meets R ((k a).run t) ((k' a').run t')) : Meets R ((r >>= k).run s) ((r' >>= k').run s') := by
  generalize ho : r.run s = o at h
  generalize ho' : r'.run s' = o' at h
  rw [Reading.run_bind r', ho']
  cases h with
  | ok h =>
    rw [Reading.run_bind_of_ok ho]
    exact hk _ _ _ _ h ho ho'
  | again g =>
    rw [Reading.run_bind_of_error ho]
    exact .again g
  | malformed h =>
    rw [Reading.run_bind_of_error ho]
    exact .malformed fun hne => (h hne).bind hspent
  | numeral h =>
    rw [Reading.run_bind_of_error ho]
    exact .numeral (h.bind hspent)

theorem either {c : Prop} [Decidable c] {r₁ r₂ r₁' r₂' : Reading α} (h : c → Meets Q (r₁.run s) (r₁'.run s'))
    (h' : ¬ c → Meets Q (r₂.run s) (r₂'.run s')) :
    Meets Q ((if c then r₁ else r₂).run s) ((if c then r₁' else r₂').run s') := by
  by_cases hc : c
  · rw [if_pos hc, if_pos hc]
    exact h hc
  · rw [if_neg hc, if_neg hc]
    exact h' hc

theorem map {r r' : Reading α} {f f' : α → β} (h : Meets Q (r.run s) (r'.run s'))
    (hf : ∀ a t a' t', Q a t a' t' → R (f a) t (f' a') t') : Meets R ((f <$> r).run s) ((f' <$> r').run s') := by
  rw [Reading.map_eq_bind, Reading.map_eq_bind]
  exact h.bind (fun _ => .pure _) fun a t a' t' hQ _ _ => .ok (hf a t a' t' hQ)

/-- Reading with blanks and comments taken as they are. -/
theorem verbatim {r r' : Reading α}
    (h : Meets Q (r.run { s with skipping := false }) (r'.run { s' with skipping := false })) :
    Meets (fun a t a' t' => ∃ u u', Q a u a' u' ∧ t = { u with skipping := s.skipping } ∧
        t' = { u' with skipping := s'.skipping }) ((Reading.verbatim r).run s) ((Reading.verbatim r').run s') := by
  unfold Reading.verbatim
  simp only [Reading.run_get_bind, Reading.run_modify_bind]
  refine h.bind (fun _ => Reading.Onward.bind (.modify fun _ => ⟨rfl, rfl⟩) fun _ => .pure _) ?_
  exact fun a t a' t' hQ _ _ => .ok ⟨t, t', hQ, rfl, rfl⟩

end Meets

/-- Both readings of a piece come to results in a relation, or both texts are refused. -/
inductive Joint (Q : α → Source → α → Source → Prop) :
    Except Refusal (α × Source) → Except Refusal (α × Source) → Prop
  | ok {a t a' t'} : Q a t a' t' → Joint Q (.ok (a, t)) (.ok (a', t'))
  | malformed (c n c' n') : Joint Q (.error (.malformed c n)) (.error (.malformed c' n'))

theorem Joint.mono {Q Q' : α → Source → α → Source → Prop} {o o' : Except Refusal (α × Source)} (h : Joint Q o o')
    (hQ : ∀ a t a' t', Q a t a' t' → Q' a t a' t') : Joint Q' o o' := by
  cases h with
  | ok h => exact .ok (hQ _ _ _ _ h)
  | malformed c n c' n' => exact .malformed c n c' n'

end Outcomes

/-! ### Texts -/

/-- The characters that begin or end something of several characters, inside classes or outside, and the end anchor. -/
def marks : List Char := ['\\', '(', ')', '[', ']', '$']

/-- A text that has nothing for a reader of characters: it is at its end or begins with a mark. -/
def Stops (u : List Char) : Prop := ∀ c ∈ u.head?, c ∈ marks

namespace Stops

variable {u : List Char} {p : Char → Bool}

theorem head?_ne (h : Stops u) {c : Char} (hc : c ∉ marks) : u.head? ≠ some c := fun he => hc (h c he)

theorem any_head? (h : Stops u) (hp : ∀ c ∈ marks, p c = false) : u.head?.any p = false := by
  cases u with
  | nil => rfl
  | cons c u => exact hp c (h c rfl)

theorem takeWhile (h : Stops u) (hp : ∀ c ∈ marks, p c = false) : u.takeWhile p = [] ∧ u.dropWhile p = u := by
  cases u with
  | nil => exact ⟨rfl, rfl⟩
  | cons c u =>
    have hc : ¬ p c = true := by rw [hp c (h c rfl)]; exact Bool.false_ne_true
    exact ⟨List.takeWhile_cons_of_neg hc, List.dropWhile_cons_of_neg hc⟩

end Stops

/-- Two texts that stop, or begin with the same character and go on alike behind one that is no mark. -/
def GoAlike (T : List Char → List Char → Prop) : Prop :=
  ∀ ⦃u v⦄, T u v → (Stops u ∧ Stops v) ∨ ∃ c u' v', u = c :: u' ∧ v = c :: v' ∧ (c ∉ marks → T u' v')

theorem GoAlike.takeWhile {T : List Char → List Char → Prop} (h : GoAlike T) {p : Char → Bool}
    (hp : ∀ c ∈ marks, p c = false) {u v : List Char} (ht : T u v) :
    v.takeWhile p = u.takeWhile p ∧ T (u.dropWhile p) (v.dropWhile p) := by
  have hstops {u v : List Char} (hu : Stops u) (hv : Stops v) (ht : T u v) :
      v.takeWhile p = u.takeWhile p ∧ T (u.dropWhile p) (v.dropWhile p) := by
    rw [(hu.takeWhile hp).1, (hu.takeWhile hp).2, (hv.takeWhile hp).1, (hv.takeWhile hp).2]
    exact ⟨rfl, ht⟩
  induction u generalizing v with
  | nil =>
    rcases h ht with ⟨hu, hv⟩ | ⟨c, u', v', hu, -, -⟩
    · exact hstops hu hv ht
    · cases hu
  | cons d u ih =>
    rcases h ht with ⟨hu, hv⟩ | ⟨c, u', v', hu, rfl, ht'⟩
    · exact hstops hu hv ht
    · cases hu
      by_cases hpc : p d = true
      · rw [List.takeWhile_cons_of_pos hpc, List.takeWhile_cons_of_pos hpc, List.dropWhile_cons_of_pos hpc,
          List.dropWhile_cons_of_pos hpc]
        have hd : d ∉ marks := fun hd => absurd hpc (by rw [hp d hd]; exact Bool.false_ne_true)
        obtain ⟨heq, ht''⟩ := ih (ht' hd)
        exact ⟨by rw [heq], ht''⟩
      · rw [List.takeWhile_cons_of_neg hpc, List.takeWhile_cons_of_neg hpc, List.dropWhile_cons_of_neg hpc,
          List.dropWhile_cons_of_neg hpc]
        exact ⟨rfl, ht⟩

/-- What readers of characters need to know of two texts: they go on alike behind a character that is no mark, behind
what is ignored, and behind a run of characters without marks. -/
structure InStep (skipping : Bool) (T : List Char → List Char → Prop) : Prop where
  alike : GoAlike T
  seen : ∀ {u v}, T u v → T (Source.seen skipping u) (Source.seen skipping v)
  taken : ∀ {u v} {p : Char → Bool}, T u v → (∀ c ∈ marks, p c = false) →
    (Source.taken skipping p v).1 = (Source.taken skipping p u).1 ∧
      T (Source.taken skipping p u).2 (Source.taken skipping p v).2

/-- Where nothing is ignored, texts that go alike are in step. -/
theorem GoAlike.inStep {T : List Char → List Char → Prop} (h : GoAlike T) : InStep false T :=
  ⟨h, fun ht => ht, fun ht hp => h.takeWhile hp ht⟩

theorem mem_marks {c : Char} (h : c ∈ signs) : c ∈ marks := by
  simp only [signs, List.mem_cons, List.not_mem_nil, or_false] at h
  rcases h with rfl | rfl | rfl | rfl <;> decide

/-- The end of a pattern and the closing parenthesis that is left then stop. -/
theorem stops_nil : Stops [] := fun _ h => nomatch h

theorem stops_close : Stops [')'] := fun _ h => Option.some.inj h ▸ (by decide)

theorem Raised.inStep {x : Bool} {skipping : Bool} (hx : skipping = true → x = true) (a : Option Nat)
    (ps : List Paren) : InStep skipping (Raised x a ps) where
  alike u v h := by
    rcases h.uncons with ⟨rfl, rfl⟩ | ⟨c, u', v', hu, hv, h⟩
    · exact .inl ⟨stops_nil, stops_close⟩
    · exact .inr ⟨c, u', v', hu, hv, fun hc => h fun hs => hc (mem_marks hs)⟩
  seen h := h.seen hx
  taken h hp :=
    have hsigns : ∀ c ∈ signs, _ := fun c hc => hp c (mem_marks hc)
    ⟨(h.taken_same hsigns hx).1.symm, (h.taken_same hsigns hx).2⟩

/-- Two sources with texts that are in step. -/
structure Paired (T : List Char → List Char → Prop) (s s' : Source) : Prop where
  skipping : s'.skipping = s.skipping
  options : s'.options = s.options
  inStep : InStep s.skipping T
  text : T s.rest s'.rest

/-- What two readings of characters come to: results in a relation, and texts that go on alike. -/
def AlongBy {α : Type} (R : α → α → Prop) (T : List Char → List Char → Prop) (s s' : Source) :
    α → Source → α → Source → Prop :=
  fun a t a' t' => R a a' ∧ ∃ u v, t = s.leaving u ∧ t' = s'.leaving v ∧ T u v

/-- What two readings of characters come to: the same result, and texts that go on alike. -/
abbrev Along {α : Type} (T : List Char → List Char → Prop) (s s' : Source) : α → Source → α → Source → Prop :=
  AlongBy Eq T s s'

/-- Two patterns are the same test on one character. -/
def SameTest (n n' : Node Reference) : Prop := ∃ t, n = .one t ∧ n' = .one t

/-- A reader of characters comes to the same from both texts, and to texts that go on alike. -/
def Agrees {α : Type} (T : List Char → List Char → Prop) (s s' : Source) (r : Reading α) : Prop :=
  ∃ a u v, r.run s = .ok (a, s.leaving u) ∧ r.run s' = .ok (a, s'.leaving v) ∧ T u v

namespace Paired

variable {T : List Char → List Char → Prop} {s s' : Source}

theorem leaving (h : Paired T s s') {u v : List Char} (ht : T u v) : Paired T (s.leaving u) (s'.leaving v) :=
  ⟨h.skipping, h.options, h.inStep, ht⟩

/-- What comes next: nothing for a reader of characters, or a character that both texts have. -/
theorem next (h : Paired T s s') :
    (Stops s.visible ∧ Stops s'.visible) ∨
      ∃ c u v, s.visible = c :: u ∧ s'.visible = c :: v ∧ (c ∉ marks → T u v) := by
  have ht := h.inStep.seen h.text
  rw [Source.visible_eq, Source.visible_eq, h.skipping]
  exact h.inStep.alike ht

theorem ok {α : Type} (h : Paired T s s') (a : α) : Meets (Along T s s') (.ok (a, s)) (.ok (a, s')) :=
  .ok ⟨rfl, s.rest, s'.rest, rfl, rfl, h.text⟩

end Paired

end SqlRegexp.Pattern
