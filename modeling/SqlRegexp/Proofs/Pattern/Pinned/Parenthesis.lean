import SqlRegexp.Proofs.Pattern.Abreast.Whole
import SqlRegexp.Proofs.Pattern.Pinned.Group

/-!
**Reading what follows an opening parenthesis of a pattern and of its pinned text** (`Pinning.parenthesis`). A comment may
have changed: nothing is read of it.
-/

namespace SqlRegexp

open PatternText

theorem Place.next_ne_escaped {place : Place} (hplace : ∀ b, place ≠ .escaped b) {c : Char} (hc : c ≠ '\\') (b : Bool) :
    place.next c ≠ .escaped b := by
  cases place with
  | escaped b => exact absurd rfl (hplace b)
  | outside | opened | negated | inside =>
    simp only [Place.next, if_neg hc]
    first | (split <;> nofun) | nofun

namespace Pattern

open SqlRegexp.Text SqlRegexp.Unicode
open Node (PinsTo)

/-- The text of a comment is one after the scan too, wherever that is. -/
theorem CommentText.pinFrom {cs : List Char} (h : CommentText cs) {place : SqlRegexp.Place}
    (hplace : ∀ b, place ≠ .escaped b) : CommentText (pinFrom place cs) := by
  induction h generalizing place with
  | nil => exact .nil
  | @pair cs c _ ih =>
    have hkeeps : ¬ (place = .outside ∧ '\\' = '$') := fun h => absurd h.2 (by decide)
    obtain ⟨b, hb⟩ : ∃ b, place.next '\\' = .escaped b := by
      cases place with
      | escaped b => exact absurd rfl (hplace b)
      | outside => exact ⟨false, rfl⟩
      | opened | negated | inside => exact ⟨true, rfl⟩
    rw [PatternText.pinFrom, if_neg hkeeps, PatternText.pinFrom, hb, if_neg fun h => absurd h.1 (by simp)]
    refine .pair c (ih fun b' => ?_)
    cases b <;> simp [Place.next]
  | @char c cs hslash hclose _ ih =>
    rw [PatternText.pinFrom]
    have hrest := ih (Place.next_ne_escaped hplace hslash)
    split
    · exact .pair 'Z' hrest
    · exact .char hslash hclose hrest

namespace Pinning

variable {e : Pinning} {s : Source} {u : List Char} {inside inside' inner inner' : Reading (Node Reference)}

/-! ### Options -/

namespace Follows

theorem optionLetters (o : Options) :
    e.Follows Eq (Reading.optionLetters (e.length + 1) o) (Reading.optionLetters (e.length' + 1) o) := by
  intro s hs
  obtain ⟨p, u, v, hrun, hrun', hu, rfl⟩ := Abreast.optionLetters hs.paired (Nat.lt_succ_of_le hs.text.length)
    (Nat.lt_succ_of_le hs.text.length') o
  rw [hrun, hrun']
  exact .ok rfl (hs.leaving hu)

/-- What is left of a pattern behind options is read alike. -/
theorem optionScope (hi : e.Follows PinsTo inner inner') {on off : Options}
    (hon : on.verbose = true → e.blanks = true) :
    e.Follows (Option.Rel PinsTo) (Reading.optionScope on off inner) (Reading.optionScope on off inner') := by
  intro s hs
  have hverbose : ((s.options.verbose || on.verbose) && !off.verbose) = true → e.blanks = true := by
    rw [Bool.and_eq_true, Bool.or_eq_true]
    rintro ⟨hv | hv, -⟩
    · exact hs.verbose hv
    · exact hon hv
  unfold Reading.optionScope
  rw [Reading.run_get_bind, Reading.run_get_bind]
  refine .either (fun _ => .malformed _ _ _) fun _ => .either (fun _ => .malformed _ _ _) fun _ =>
    .either (fun _ => .again _) fun _ => ?_
  refine (acceptChar (by decide) s hs).bind fun found _ hfound => ?_
  subst hfound
  refine .either (fun _ => enclosed ?_) fun _ => (acceptChar (by decide)).bind fun found _ hfound => ?_
  · exact (setOptions hverbose).bind fun _ _ _ => hi.bind fun _ _ h =>
      (expect (by decide)).bind fun _ _ _ => .pure (.some h)
  · subst hfound
    exact .either (fun _ => (setOptions hverbose).bind fun _ _ _ => .pure .none) fun _ => .fail _ _

end Follows

/-- The letters of options to be switched on are read alike. They have blanks ignored only where that is possible. -/
theorem Fits.optionLetters (hs : e.Fits s)
    (hletters : e.blanks = false → 'x' ∉ s.rest.takeWhile fun c => (Reading.optionLetter? c).isSome) :
    e.Outcome (fun on on' => on' = on ∧ (on.verbose = true → e.blanks = true))
      ((Reading.optionLetters (e.length + 1) {}).run s)
      ((Reading.optionLetters (e.length' + 1) {}).run (e.pinned s)) := by
  obtain ⟨on, u, v, hrun, hrun', hu, rfl⟩ := Abreast.optionLetters hs.paired (Nat.lt_succ_of_le hs.text.length)
    (Nat.lt_succ_of_le hs.text.length') {}
  rw [hrun, hrun']
  refine .ok ⟨rfl, fun hv => ?_⟩ (hs.leaving hu)
  by_contra hx
  rw [Bool.not_eq_true] at hx
  have hskips : s.skipping = false := by
    rw [← Bool.not_eq_true]
    exact fun h => by rw [hs.skips h] at hx; cases hx
  exact Bool.false_ne_true (Abreast.verbose_of_optionLetters hskips (hletters hx) hrun hv)

/-- **Options are read alike**, and what they hold for. -/
theorem optionGroup (hi : e.Follows PinsTo inner inner') (hs : e.Fits s)
    (hletters : e.blanks = false → 'x' ∉ s.rest.takeWhile fun c => (Reading.optionLetter? c).isSome) :
    e.Outcome (Option.Rel PinsTo) ((Reading.optionGroup inner).run s)
      ((Reading.optionGroup inner').run (e.pinned s)) := by
  unfold Reading.optionGroup
  rw [Reading.run_get_bind, Reading.run_get_bind, hs.total, total_pinned]
  refine (hs.optionLetters hletters).bind ?_
  rintro on _ ⟨rfl, hon⟩
  refine (Follows.acceptChar (by decide)).bind fun found _ hfound => ?_
  subst hfound
  refine .either (fun _ => (Follows.optionLetters {}).bind fun off _ hoff => ?_) fun _ => .optionScope hi hon
  subst hoff
  exact .either (fun _ => .fail _ _) fun _ => .optionScope hi hon

/-! ### Comments -/

/-- A parenthesis that is a comment, with its text and what follows it. -/
structure CommentAhead (e : Pinning) (u cs w : List Char) : Prop where
  text : CommentText cs
  here : u = '?' :: '#' :: (cs ++ ')' :: w)
  pinned : pinEnds u = '?' :: '#' :: (pinEnds cs ++ ')' :: pinEnds w)
  left : e.Left w

/-- A parenthesis is a comment or that of a choice, or the scan goes on behind it as a reader does. -/
theorem Left.of_parenthesis (h : e.Left ('(' :: u)) :
    (∃ cs w, e.CommentAhead u cs w) ∨ (∃ w, u = '?' :: '(' :: w ∧ pinEnds u = '?' :: '(' :: pinEnds w ∧ e.Left w) ∨
      e.Left u ∧ (∀ c t, u = '?' :: c :: t → c ∉ ['#', '(']) ∧
        ∀ t, u = '?' :: t → e.blanks = false → 'x' ∉ t.takeWhile fun c => (Reading.optionLetter? c).isSome := by
  have hpin : pinEnds ('(' :: u) = '(' :: pinEnds u := pinEnds_cons (by decide)
  have hscanned := h.scanned
  generalize hv : '(' :: u = v at hscanned
  cases hscanned with
  | nil | hash | escape | dangling | bracketed => cases hv
  | char hc =>
    cases hv
    exact absurd (by decide) hc
  | @comment cs w hcs hend hw =>
    cases hv
    have hpinned := pinEnds_comment (u := w) hend
    refine .inl ⟨cs, w, hcs, rfl, hpinned, h.rest (k := '(' :: '?' :: '#' :: (cs ++ [')']))
      (l := '(' :: '?' :: '#' :: (pinEnds cs ++ [')'])) ?_ ?_ hw⟩
    · simp
    · rw [hpin, hpinned]
      simp
  | @condition w hw =>
    cases hv
    have hpinned : pinEnds ('?' :: '(' :: w) = '?' :: '(' :: pinEnds w := by
      rw [pinEnds_cons (by decide), pinEnds_cons (by decide)]
    refine .inr (.inl ⟨w, rfl, hpinned, h.rest (k := ['(', '?', '(']) (l := ['(', '?', '(']) rfl ?_ hw⟩)
    exact hpin.trans (congrArg _ hpinned)
  | parenthesis hnext hletters hu =>
    cases hv
    exact .inr (.inr ⟨h.tail hpin hu, hnext, hletters⟩)

/-- A comment is passed over alike. -/
theorem CommentAhead.parenthesis {cs w : List Char} (h : e.CommentAhead s.rest cs w) (hs : e.Fits (s.leaving w))
    (hlen : s.rest.length ≤ e.length) (hlen' : (pinEnds s.rest).length ≤ e.length') :
    e.Outcome (Option.Rel PinsTo) ((Reading.parenthesis inside inner).run s)
      ((Reading.parenthesis inside' inner').run (e.pinned s)) := by
  have houtside : ∀ b, SqlRegexp.Place.outside ≠ .escaped b := fun _ => nofun
  have hpinned : CommentText (pinEnds cs) := h.text.pinFrom houtside
  have hrun := run_comment (s := s.leaving (cs ++ ')' :: w)) h.text
    (length_lt_of_comment h.here (hs.total.symm ▸ hlen : s.rest.length ≤ s.total)) rfl
  have hrun' := run_comment (s := (e.pinned s).leaving (pinEnds cs ++ ')' :: pinEnds w)) hpinned
    (length_lt_of_comment (s := e.pinned s) h.pinned hlen') rfl
  rw [run_parenthesis_comment h.here, run_parenthesis_comment (s := e.pinned s) h.pinned, Reading.run_bind_of_ok hrun,
    Reading.run_bind_of_ok hrun']
  exact .ok .none hs

/-! ### What follows a question mark -/

/-- A mark after `(?` begins options, unless it is another parenthesis. -/
theorem run_questioned_of_mark {c : Char} (hc : c ∈ marks) (hne : c ≠ '(') (hs : s.rest.head? = some c) :
    (Reading.questioned inside inner).run s = (Reading.optionGroup inner).run s := by
  have hoptions {c : Char} (hdecimal : isDecimal c = false) (hsign : (c == '+' || c == '-') = false) :
      ((if isDecimal c then some <$> Reading.numberedCall [c] s.pos
        else Reading.peek >>= fun next =>
          if (c == '+' || c == '-') && next.any isDecimal then some <$> Reading.relativeCall (c == '+') s.pos
          else Reading.rewind s.rest >>= fun _ => Reading.optionGroup inner : Reading _).run (s.leaving s.rest.tail)) =
        (Reading.optionGroup inner).run s := by
    rw [hdecimal, hsign, if_neg Bool.false_ne_true, Reading.run_peek_bind, Bool.false_and, if_neg Bool.false_ne_true]
    rfl
  unfold Reading.questioned
  rw [Reading.run_pos_bind, Reading.run_mark_bind, Reading.run_nextRaw_bind, hs]
  simp only [marks, List.mem_cons, List.not_mem_nil, or_false] at hc
  rcases hc with rfl | rfl | rfl | rfl | rfl | rfl
  · exact hoptions (by decide) (by decide)
  · exact absurd rfl hne
  · exact hoptions (by decide) (by decide)
  · exact hoptions (by decide) (by decide)
  · exact hoptions (by decide) (by decide)
  · exact hoptions (by decide) (by decide)

/-- Whether a digit comes next is the same in both texts. -/
theorem Fits.any_isDecimal (hs : e.Fits s) :
    (e.pinned s).visible.head?.any isDecimal = s.visible.head?.any isDecimal := by
  rcases hs.next with ⟨d, u, -, hu, hv, -⟩ | halt
  · rw [hu, hv]
    rfl
  · generalize s.visible.head? = d at halt ⊢
    generalize (e.pinned s).visible.head? = d' at halt ⊢
    cases halt <;> decide

/-- A number after `(?`, also one with a sign, is a call. Anything else is a group of options. -/
theorem Fits.numberedOrOptions (hs : e.Fits s) {options options' : Reading (Option (Node Reference))}
    (ho : e.Outcome (Option.Rel PinsTo) (options.run s) (options'.run (e.pinned s))) (c : Char) (start start' : Nat) :
    e.Outcome (Option.Rel PinsTo)
      ((if isDecimal c then some <$> Reading.numberedCall [c] start
        else Reading.peek >>= fun next =>
          if (c == '+' || c == '-') && next.any isDecimal then some <$> Reading.relativeCall (c == '+') start
          else options : Reading _).run s)
      ((if isDecimal c then some <$> Reading.numberedCall [c] start'
        else Reading.peek >>= fun next =>
          if (c == '+' || c == '-') && next.any isDecimal then some <$> Reading.relativeCall (c == '+') start'
          else options' : Reading _).run (e.pinned s)) := by
  refine .either (fun _ => (Follows.numberedCall _ _ _).map (fun _ _ => .some) s hs) fun _ => ?_
  rw [Reading.run_peek_bind, Reading.run_peek_bind, hs.any_isDecimal]
  exact .either (fun _ => (Follows.relativeCall _ _ _).map (fun _ _ => .some) s hs) fun _ => ho

/-- **What follows `(?` is read alike**, unless it is a comment or a choice. -/
theorem questioned (hr : e.Follows PinsTo inside inside') (hi : e.Follows PinsTo inner inner') (hs : e.Fits s)
    (hnext : ∀ c t, s.rest = c :: t → c ∉ ['#', '('])
    (hletters : e.blanks = false → 'x' ∉ s.rest.takeWhile fun c => (Reading.optionLetter? c).isSome) :
    e.Outcome (Option.Rel PinsTo) ((Reading.questioned inside inner).run s)
      ((Reading.questioned inside' inner').run (e.pinned s)) := by
  have hoptions := optionGroup hi hs hletters
  have hsome {r r' : Reading (Node Reference)} (h : e.Follows PinsTo r r') :
      e.Follows (Option.Rel PinsTo) (some <$> r) (some <$> r') := h.map fun _ _ => .some
  rcases hs.nextRaw with ⟨c, u, -, hu, hv, hl⟩ | halt
  · have hne := hnext c u hu
    unfold Reading.questioned
    rw [Reading.run_pos_bind, Reading.run_pos_bind, Reading.run_mark_bind, Reading.run_mark_bind,
      Reading.run_nextRaw_bind, Reading.run_nextRaw_bind, hu, hv, List.head?_cons, List.head?_cons, List.tail_cons,
      List.tail_cons, leaving_pinned, ← hu, ← hv]
    split
    · exact hsome hi.angled _ hl
    · exact hsome (hi.lookaround _ _) _ hl
    · exact hsome (hi.lookaround _ _) _ hl
    · exact hsome hi.extension _ hl
    · next hc =>
      cases hc
      exact absurd (by decide) hne
    · next hc =>
      cases hc
      exact absurd (by decide) hne
    · exact hi.closed.map (fun _ _ h => .some h.atomic) _ hl
    · exact hsome hr.branchReset _ hl
    · exact hsome (.wholeCall _ _) _ hl
    · exact hsome (.namedCall _ _) _ hl
    · next hc =>
      cases hc
      exact hl.numberedOrOptions hoptions _ _ _
    · next hc => cases hc
  · generalize hd : s.rest.head? = d at halt
    generalize hd' : (e.pinned s).rest.head? = d' at halt
    cases halt with
    | nothing =>
      unfold Reading.questioned
      rw [Reading.run_pos_bind, Reading.run_pos_bind, Reading.run_mark_bind, Reading.run_mark_bind,
        Reading.run_nextRaw_bind, Reading.run_nextRaw_bind, hd, hd']
      exact hoptions
    | parenthesis =>
      obtain ⟨u, hu⟩ := List.head?_eq_some_iff.mp hd
      exact absurd (by decide) (hnext _ u hu)
    | slash | bracket | anchor =>
      -- the texts part at a mark, which is no form: the options are read
      rw [run_questioned_of_mark (by decide) (by decide) hd, run_questioned_of_mark (by decide) (by decide) hd']
      exact hoptions

/-! ### Verbs -/

/-- No verb contains a mark. -/
theorem verb_of_mark {word : List Char} {c : Char} (hc : c ∈ marks) (hmem : c ∈ word) (start : Nat) :
    Reading.verb word start = Reading.failAt .unknownVerb start := by
  have hne {name : List Char} (hname : (marks.any name.contains) = false) : (word == name) = false := by
    rw [beq_eq_false_iff_ne]
    rintro rfl
    exact absurd (eq_false_of_any hname c hc) (by simpa using hmem)
  unfold Reading.verb
  rw [hne (by decide), hne (by decide)]
  rfl

/-- A star at the front has nothing to apply to. -/
def RefusesStar (r : Reading (Node Reference)) : Prop :=
  ∀ s : Source, s.rest.head? = some '*' → ∃ cause n, r.run s = .error (.malformed cause n)

theorem RefusesStar.unnamedGroup {r : Reading (Node Reference)} (h : RefusesStar r) :
    RefusesStar (Reading.groupBody none (pure ()) r) := by
  intro s hs
  obtain ⟨n, t, hopen, ht⟩ : ∃ n t, (Reading.openGroup none).run s = .ok (n, t) ∧ t.rest = s.rest := ⟨_, _, rfl, rfl⟩
  obtain ⟨cause, place, hrun⟩ := h t (ht ▸ hs)
  have hclosed : (Reading.closed r).run t = .error (.malformed cause place) := by
    rw [Reading.run_closed, hrun]
    rfl
  refine ⟨cause, place, ?_⟩
  unfold Reading.groupBody Reading.groupOf
  rw [Reading.run_bind_of_ok hopen, pure_bind, Reading.run_bind_of_error hclosed]

/-- What follows `(*` is a verb in both texts, or refused. -/
theorem starred (hstar : RefusesStar inner) (hs : e.Fits s) (u u' : List Char) :
    e.Outcome PinsTo ((Reading.starred inner ('*' :: u)).run s) ((Reading.starred inner' u').run (e.pinned s)) := by
  have hverb (ht : e.Fits (s.leaving s.nameAhead.2)) (word : List Char) (start start' : Nat) :
      e.Outcome PinsTo ((Reading.verb word start).run (s.leaving s.nameAhead.2))
        ((Reading.verb word start').run (e.pinned (s.leaving s.nameAhead.2))) := by
    refine .either (fun _ => ?_) fun _ => .malformed _ _ _
    exact (Follows.expect (c := ')') (by decide)).bind (fun _ _ _ => .pure (R := PinsTo) rfl) _ ht
  unfold Reading.starred
  rw [Reading.run_pos_bind, Reading.run_pos_bind, Reading.run_takeWhile_bind, Reading.run_takeWhile_bind]
  change e.Outcome PinsTo
    ((if Reading.isVerb s.nameAhead.1 then Reading.verb s.nameAhead.1 _ else _ : Reading _).run
      (s.leaving s.nameAhead.2))
    ((if Reading.isVerb (e.pinned s).nameAhead.1 then Reading.verb (e.pinned s).nameAhead.1 _ else _ : Reading _).run
      ((e.pinned s).leaving (e.pinned s).nameAhead.2))
  by_cases hword : Reading.isVerb s.nameAhead.1 = true
  · rw [if_pos hword]
    rcases hs.nameAhead with ⟨hname, ht⟩ | ⟨⟨c, hc, hmem⟩, -⟩
    · rw [hname, if_pos hword]
      exact hverb ht _ _ _
    · rw [verb_of_mark hc hmem]
      exact .malformed _ _ _
  · -- no verb, so the star stands at the front of a group
    obtain ⟨cause, n, hrun⟩ := hstar.unnamedGroup (s.leaving ('*' :: u)) rfl
    rw [if_neg hword, Reading.run_rewind_bind, Source.leaving_leaving, hrun]
    exact .malformed _ _ _

/-! ### Everything else -/

/-- **What follows an opening parenthesis is read alike.** -/
theorem parenthesis (hr : e.Follows PinsTo inside inside') (hi : e.Follows PinsTo inner inner')
    (hstar : RefusesStar inner) (hs : ∀ u, e.Left u → e.Fits (s.leaving u)) (hleft : e.Left ('(' :: s.rest)) :
    e.Outcome (Option.Rel PinsTo) ((Reading.parenthesis inside inner).run s)
      ((Reading.parenthesis inside' inner').run (e.pinned s)) := by
  -- a comment, a choice, or something else in both texts
  rcases hleft.of_parenthesis with ⟨cs, w, hcomment⟩ | ⟨w, hw, hpin, hl⟩ | ⟨hl, hnext, hletters⟩
  · refine hcomment.parenthesis (hs w hcomment.left) (Nat.le_of_succ_le hleft.length) ?_
    have hlen := hleft.length'
    rw [pinEnds_cons (by decide), List.length_cons] at hlen
    exact Nat.le_of_succ_le hlen
  · rw [run_parenthesis_choice hw, run_parenthesis_choice (s := e.pinned s) hpin]
    exact (hr.conditional hi).map (fun _ _ => .some) _ (hs w hl)
  · have hfits : e.Fits s := hs s.rest hl
    have hgroup (hq : s.rest.head? ≠ some '?') (hstar : s.rest.head? ≠ some '*')
        (hq' : (e.pinned s).rest.head? ≠ some '?') (hstar' : (e.pinned s).rest.head? ≠ some '*') :
        e.Outcome (Option.Rel PinsTo) ((Reading.parenthesis inside inner).run s)
          ((Reading.parenthesis inside' inner').run (e.pinned s)) := by
      rw [Abreast.run_parenthesis_group hq hstar, Abreast.run_parenthesis_group hq' hstar']
      exact hi.unnamedGroup.map (fun _ _ => .some) s hfits
    rcases hfits.nextRaw with ⟨c, u, -, hu, hv, ht⟩ | halt
    · by_cases hq : c = '?'
      · subst hq
        rw [run_parenthesis_question hu, run_parenthesis_question hv]
        exact questioned hr hi ht (fun d t hd => hnext d t (by rw [hu, ← hd]; rfl)) (hletters u hu)
      · by_cases hc : c = '*'
        · subst hc
          rw [Abreast.run_parenthesis_star hu, Abreast.run_parenthesis_star hv]
          refine Outcome.bind (R := PinsTo) (starred hstar ht u _) fun _ _ h => .pure (.some h)
        · have hne {d : Char} (hd : c ≠ d) (w : List Char) : (c :: w).head? ≠ some d := fun h => hd (Option.some.inj h)
          exact hgroup (hu ▸ hne hq u) (hu ▸ hne hc u) (hv ▸ hne hq _) (hv ▸ hne hc _)
    · exact hgroup (halt.ne (by decide)).1 (halt.ne (by decide)).1 (halt.ne (by decide)).2 (halt.ne (by decide)).2

end Pinning

end Pattern

end SqlRegexp
