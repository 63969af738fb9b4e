import SqlRegexp.Pattern.Compile
import SqlRegexp.Proofs.Pattern.Abreast.Sequence

/-!
Reading a whole pattern and the text that encloses it abreast.

The text is one group (`run_whole_of_group`), inside which it is read as the pattern is. So both readings conclude alike
(`concludes_whole`), and so they do when they start again with more options (`readPattern_alike`).
-/

namespace SqlRegexp.Pattern

open SqlRegexp.Text SqlRegexp.Unicode
open SqlRegexp.Match (raised)
open Node (Counterpart)

namespace Reading

variable {s t : Source} {n : Node Reference} {e : Refusal}

/-! ### A text that is one parenthesis -/

theorem run_choiceOf_of_end {r : Reading (Node Reference)} (h : r.run s = .ok (n, t)) (ht : t.rest = []) :
    (choiceOf r).run s = .ok (n, t) := by
  have hvisible : t.visible = [] := Source.visible_eq_nil ht
  unfold choiceOf
  rw [run_get_bind, alternativesOf, run_bind, run_bind_of_ok h, run_acceptChar_bind, hvisible]
  rfl

theorem run_choiceOf_of_error {r : Reading (Node Reference)} (h : r.run s = .error e) :
    (choiceOf r).run s = .error e := by
  unfold choiceOf
  rw [run_get_bind, alternativesOf, run_bind, run_bind_of_error h]
  rfl

section Parenthesis

variable {depth : Nat} {v : List Char} (hs : s.visible = '(' :: v)

include hs

theorem run_sequence_of_parenthesis (htotal : 0 < s.total)
    (h : (parenthesis (sequence depth) (choiceOf (sequence depth))).run (s.leaving v) = .ok (some n, t))
    (ht : t.rest = []) : (sequence (depth + 1)).run s = .ok (n, t) := by
  have hvisible : t.visible = [] := Source.visible_eq_nil ht
  have hend (k : Casing) : ∀ limit, 0 < limit →
      (elements (sequence depth) (choiceOf (sequence depth)) limit k [some n, none]).run t =
        .ok ([some n, none], t) := by
    intro limit hlimit
    obtain ⟨m, rfl⟩ : ∃ m, limit = m + 1 := ⟨limit - 1, by omega⟩
    rw [elements, run_pos_bind, run_mark_bind, run_next_bind, hvisible]
    rfl
  have helements : (elements (sequence depth) (choiceOf (sequence depth)) (s.total + 1) s.options.casing [none]).run s =
      .ok ([some n, none], t) := by
    rw [elements, run_pos_bind, run_mark_bind, run_next_bind_of_cons hs]
    show ((element _ _ _ '(' _ _ >>= _ : Reading _).run _) = _
    rw [run_bind_of_ok (a := (s.options.casing, [some n, none])) (t := t)]
    · exact hend _ _ htotal
    · exact run_bind_of_ok h _
  rw [sequence, run_get_bind]
  exact run_bind_of_ok helements _

theorem run_sequence_of_error
    (h : (parenthesis (sequence depth) (choiceOf (sequence depth))).run (s.leaving v) = .error e) :
    (sequence (depth + 1)).run s = .error e := by
  rw [sequence, run_get_bind]
  refine run_bind_of_error ?_ _
  rw [elements, run_pos_bind, run_mark_bind, run_next_bind_of_cons hs]
  exact run_bind_of_error (run_bind_of_error h _) _

omit hs in
theorem run_whole (s : Source) :
    whole.run s = (choiceOf (sequence (s.total + 1))).run s >>= fun r =>
      if r.2.visible = [] then .ok r else .error (.malformed .unbalancedParenthesis r.2.pos) := by
  unfold whole
  rw [run_get_bind, run_bind]
  refine congrArg _ (funext fun r => ?_)
  rw [run_get_bind]
  cases r.2.visible <;> rfl

/-- A text that is one group is read as that group. -/
theorem run_whole_of_group (htotal : 0 < s.total) (hq : v.head? ≠ some '?') (hstar : v.head? ≠ some '*')
    (h : (groupBody none (pure ()) (choiceOf (sequence s.total))).run (s.leaving v) = .ok (n, t)) (ht : t.rest = []) :
    whole.run s = .ok (n, t) := by
  have hvisible : t.visible = [] := Source.visible_eq_nil ht
  have hparenthesis : (parenthesis (sequence s.total) (choiceOf (sequence s.total))).run (s.leaving v) =
      .ok (some n, t) := by
    rw [Abreast.run_parenthesis_group hq hstar, map_eq_bind, run_bind_of_ok h]
    rfl
  rw [run_whole, run_choiceOf_of_end (run_sequence_of_parenthesis hs htotal hparenthesis ht) ht]
  exact if_pos hvisible

theorem run_whole_of_error (hq : v.head? ≠ some '?') (hstar : v.head? ≠ some '*')
    (h : (groupBody none (pure ()) (choiceOf (sequence s.total))).run (s.leaving v) = .error e) :
    whole.run s = .error e := by
  have hparenthesis : (parenthesis (sequence s.total) (choiceOf (sequence s.total))).run (s.leaving v) = .error e := by
    rw [Abreast.run_parenthesis_group hq hstar, map_eq_bind, run_bind_of_error h]
  rw [run_whole, run_choiceOf_of_error (run_sequence_of_error hs hparenthesis)]
  rfl

end Parenthesis

/-! ### Brackets around a reader -/

section Bracket

variable {α : Type} {r : Reading α}

/-- What is read up to a closing parenthesis leaves the options as they were before. -/
theorem run_closed (r : Reading α) (s : Source) :
    (closed r).run s = r.run s >>= fun b =>
      if b.2.visible.head? = some ')' then
        .ok (b.1, { b.2.leaving b.2.visible.tail with options := s.options, skipping := s.options.verbose })
      else .error (.malformed (.missing ')') b.2.pos) := by
  unfold closed enclosed
  rw [run_get_bind, run_bind, run_bind]
  cases r.run s with
  | error e => rfl
  | ok b =>
    show (((expect ')' >>= fun _ => pure b.1).run b.2) >>= _) = ite _ _ _
    rw [run_expect_bind]
    split <;> rfl

/-- A reader that has come to the end of the text leaves no parenthesis to be closed. -/
theorem closed_of_spent (h : Spent (r.run s)) :
    ∃ e, (closed r).run s = .error e ∧ ∀ g, e ≠ .again g := by
  rw [run_closed]
  generalize r.run s = o at h
  match o, h with
  | .ok (a, t), h =>
    have hvisible : t.visible = [] := Source.visible_eq_nil h
    refine ⟨.malformed (.missing ')') t.pos, ?_, fun _ => nofun⟩
    show ite _ _ _ = _
    rw [hvisible]
    rfl
  | .error (.malformed cause place), _ => exact ⟨_, rfl, fun _ => nofun⟩
  | .error (.numeral e), _ => exact ⟨_, rfl, fun _ => nofun⟩

end Bracket

end Reading

/-! ### Both readings -/

/-- How two readings conclude: alike, or both are refused. A group counted backwards from the start of the pattern is
the one cause for which the first alone may be refused. -/
inductive Concludes {α β : Type} (Q : α → β → Prop) : Except Refusal α → Except Refusal β → Prop
  | ok {a b} : Q a b → Concludes Q (.ok a) (.ok b)
  | again (g : Options) : Concludes Q (.error (.again g)) (.error (.again g))
  | refused {e e'} : (∀ g, e ≠ .again g) → (∀ g, e' ≠ .again g) → Concludes Q (.error e) (.error e')
  | relative (n : Nat) (o') : Concludes Q (.error (.malformed .invalidRelativeNumber n)) o'

/-- What has been read of a pattern, and of the text that encloses it. At the end of the text the options for a part of
the pattern are no longer in force. -/
structure EnclosedAlike (o : Options) (r r' : Node Reference × Source) : Prop where
  node : ∃ m, r'.1 = .group 1 m ∧ Counterpart r.1 m
  groupCount : r'.2.groupCount = r.2.groupCount + 1
  names : r'.2.names = r.2.names.map fun e => (e.1, raised e.2)
  openings : r'.2.openings = r.2.openings.map raised ++ [1]
  posix : r'.2.options.posix = r.2.options.posix
  ascii : r'.2.options.ascii = o.ascii
  unicode : r'.2.options.unicode = o.unicode

section Whole

variable {x : Bool} {p v : List Char} {o g more : Options}

/-- The source of the enclosing text behind the opening of its group. -/
def enclosedSource (v : List Char) (o g : Options) : Source :=
  { Source.ofPattern ('(' :: v) o g with rest := v, groupCount := 1, opened := [1], openings := [1] }

/-- At its start the pattern is beside the text that encloses it. -/
theorem level_enclosed (hx : (o.union g).verbose = true → x = true) (h : Raised x (some 0) [] p v) :
    Level x (some 0) [] [] (Source.ofPattern p o g) (enclosedSource v o g) where
  beside := ⟨rfl, rfl, rfl, hx, hx, rfl, rfl, rfl, rfl, rfl⟩
  count _ hn := Option.some.inj hn
  opened_eq := rfl
  text := h

theorem visible_enclosing (v : List Char) (o g : Options) : (Source.ofPattern ('(' :: v) o g).visible = '(' :: v := by
  rw [Source.visible_eq]
  unfold Source.seen
  split <;> rfl

/-- Its group is the first one. -/
theorem run_groupBody_enclosing (r : Reading (Node Reference)) :
    (Reading.groupBody none (pure ()) r).run ((Source.ofPattern ('(' :: v) o g).leaving v) =
      (Reading.groupOf 1 r).run (enclosedSource v o g) := rfl

section Enclosing

variable (hq : v.head? ≠ some '?') (hstar : v.head? ≠ some '*')

include hq hstar

/-- The enclosing text is one group, whose inside is read up to its closing parenthesis. -/
theorem run_whole_enclosing {n : Node Reference} {t : Source} (ht : t.rest = [])
    (h : (Reading.closed (Reading.choiceOf (Reading.sequence (v.length + 1)))).run (enclosedSource v o g) =
      .ok (n, t)) :
    Reading.whole.run (Source.ofPattern ('(' :: v) o g) = .ok (.group 1 n, { t with opened := t.opened.tail }) := by
  have hgroup := (run_groupBody_enclosing _).trans (Reading.run_bind_of_ok h _)
  exact Reading.run_whole_of_group (visible_enclosing v o g) (Nat.succ_pos _) hq hstar hgroup ht

theorem run_whole_enclosing_of_error {e : Refusal}
    (h : (Reading.closed (Reading.choiceOf (Reading.sequence (v.length + 1)))).run (enclosedSource v o g) = .error e) :
    Reading.whole.run (Source.ofPattern ('(' :: v) o g) = .error e :=
  Reading.run_whole_of_error (visible_enclosing v o g) hq hstar
    ((run_groupBody_enclosing _).trans (Reading.run_bind_of_error h _))

/-- If reading the inside comes to the end of the text, the group is not closed. -/
theorem concludes_of_spent {α : Type} {Q : α → Node Reference × Source → Prop} {e : Refusal} (he : ∀ g, e ≠ .again g)
    (hs : Spent ((Reading.choiceOf (Reading.sequence (v.length + 1))).run (enclosedSource v o g))) :
    Concludes Q (.error e) (Reading.whole.run (Source.ofPattern ('(' :: v) o g)) := by
  obtain ⟨e', hclosed, he'⟩ := Reading.closed_of_spent hs
  rw [run_whole_enclosing_of_error hq hstar hclosed]
  exact .refused he he'

end Enclosing

/-- **A pattern and the text that encloses it are read alike.** -/
theorem concludes_whole (hx : (o.union g).verbose = true → x = true) (h : Raised x (some 0) [] p v)
    (hq : p.head? ≠ some '?') (hstar : p.head? ≠ some '*') :
    Concludes (EnclosedAlike (o.union g)) (Reading.whole.run (Source.ofPattern p o g))
      (Reading.whole.run (Source.ofPattern ('(' :: v) o g)) := by
  have hread := (readsAlike_sequence (p.length + 1) (v.length + 1)).choiceOf
  have hmeets := hread.meets (level_enclosed hx h) .nil
    ⟨Nat.lt_succ_self _, Nat.lt_succ_self _, Nat.le_refl _, Nat.le_succ _⟩
  have hq' : v.head? ≠ some '?' := h.head?_ne hq (by decide)
  have hstar' : v.head? ≠ some '*' := h.head?_ne hstar (by decide)
  have hspent {e : Refusal} (he : ∀ g, e ≠ .again g) :=
    @concludes_of_spent v o g hq' hstar' _ (EnclosedAlike (o.union g)) e he
  have hclosed := Reading.run_closed (Reading.choiceOf (Reading.sequence (v.length + 1))) (enclosedSource v o g)
  rw [Reading.run_whole]
  show Concludes _ ((Reading.choiceOf (Reading.sequence (p.length + 1))).run _ >>= _) _
  generalize ho : (Reading.choiceOf (Reading.sequence (p.length + 1))).run (Source.ofPattern p o g) = out at hmeets
  generalize (Reading.choiceOf (Reading.sequence (v.length + 1))).run (enclosedSource v o g) = out'
    at hmeets hspent hclosed
  cases hmeets with
  | again more =>
    rw [run_whole_enclosing_of_error hq' hstar' hclosed]
    exact .again more
  | @malformed cause place _ hs =>
    -- a call of a group too far back may reach the enclosing one
    by_cases hcause : cause = .invalidRelativeNumber
    · subst hcause
      exact .relative place _
    · exact hspent (fun g => nofun) (hs hcause)
  | numeral hs => exact hspent (fun g => nofun) hs
  | @ok b t b' t' hreached =>
    obtain ⟨hcounterpart, a₁, -, hl⟩ := hreached
    have hglobals := (Reading.Onward.of_ok hread.onward ho).2.2
    have hposix : t.options.posix = (o.union g).posix := by rw [hl.beside.posix, hglobals]; rfl
    change _ = ite _ _ _ at hclosed
    show Concludes _ (ite _ _ _) _
    rcases hl.visible.uncons with ⟨hu, hv⟩ | ⟨c, u, w, hu, hv, -⟩
    · rw [hv, List.head?_cons, if_pos rfl] at hclosed
      rw [if_pos hu, run_whole_enclosing hq' hstar' rfl hclosed]
      have hb := hl.beside
      exact .ok ⟨⟨b', rfl, hcounterpart⟩, hb.groupCount, hb.names, hb.openings, hposix.symm, rfl, rfl⟩
    · -- something is left over, and it is no closing parenthesis
      have hne : c ≠ ')' := by
        rintro rfl
        have ht := hl.visible
        rw [hu, hv] at ht
        cases ht with
        | char hc => exact absurd (by decide) hc
      have hnil : t.visible ≠ [] := by rw [hu]; exact List.cons_ne_nil _ _
      rw [hv, List.head?_cons, if_neg fun he => hne (Option.some.inj he)] at hclosed
      rw [if_neg hnil, run_whole_enclosing_of_error hq' hstar' hclosed]
      exact .refused (fun _ => nofun) fun _ => nofun

/-- Options with which a pattern is to be read again are none that hold for a part of it. -/
theorem partial_of_again (h : Reading.whole.run (Source.ofPattern p o g) = .error (.again more)) :
    more.verbose = false ∧ more.ascii = false ∧ more.unicode = false := by
  have hstays := Reading.Onward.choiceOf (Reading.Onward.sequence (p.length + 1)) (Source.ofPattern p o g)
    (Nat.le_refl p.length)
  rw [Reading.run_whole] at h
  change (Reading.choiceOf (Reading.sequence (p.length + 1))).run _ >>= _ = _ at h
  cases hr : (Reading.choiceOf (Reading.sequence (p.length + 1))).run (Source.ofPattern p o g) with
  | ok r =>
    rw [hr] at h
    change ite _ _ _ = _ at h
    split at h <;> cases h
  | error e =>
    rw [hr] at h hstays
    cases h
    obtain ⟨-, on, rfl⟩ := hstays
    exact ⟨rfl, rfl, rfl⟩

/-- **A pattern and the text that encloses it are read alike**, with the options for all of it that turn up. -/
theorem readPattern_alike (hx : o.verbose = true → x = true) (h : Raised x (some 0) [] p v) (hq : p.head? ≠ some '?')
    (hstar : p.head? ≠ some '*') (tries : Nat) {g : Options}
    (hg : g.verbose = false ∧ g.ascii = false ∧ g.unicode = false) :
    (∃ n, readPattern p o tries g = .error (.malformed ⟨p, .invalidRelativeNumber, n⟩)) ∨
      Both (EnclosedAlike o) (readPattern p o tries g) (readPattern ('(' :: v) o tries g) := by
  -- a pattern that is read again asks for options that leave blanks and repertoire as they are
  induction tries generalizing g with
  | zero => exact .inr (.error _ _)
  | succ tries ih =>
    have hverbose : (o.union g).verbose = true → x = true := by
      show (o.verbose || g.verbose) = true → x = true
      rw [hg.1, Bool.or_false]
      exact hx
    have hc := concludes_whole hverbose h hq hstar
    rw [readPattern, readPattern]
    generalize ho : Reading.whole.run (Source.ofPattern p o g) = out at hc
    generalize Reading.whole.run (Source.ofPattern ('(' :: v) o g) = out' at hc
    cases hc with
    | ok hr =>
      have hascii : (o.union g).ascii = o.ascii := by
        show (o.ascii || g.ascii) = _
        rw [hg.2.1, Bool.or_false]
      have hunicode : (o.union g).unicode = o.unicode := by
        show (o.unicode || g.unicode) = _
        rw [hg.2.2, Bool.or_false]
      exact .inr (.ok { hr with ascii := hr.ascii.trans hascii, unicode := hr.unicode.trans hunicode })
    | again more => exact ih (partial_of_again ho)
    | @refused e e' he he' =>
      refine .inr ?_
      cases e with
      | again more => exact absurd rfl (he more)
      | malformed | numeral =>
        cases e' with
        | again more => exact absurd rfl (he' more)
        | malformed | numeral => exact .error _ _
    | relative n => exact .inl ⟨n, rfl⟩

end Whole

end SqlRegexp.Pattern
