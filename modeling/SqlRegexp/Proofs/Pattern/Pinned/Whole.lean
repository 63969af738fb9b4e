import SqlRegexp.Proofs.Pattern.Pinned.Parenthesis

/-!
Reading sequences of a pattern and of its pinned text, and all of a pattern. Of an end anchor `$` the one reader makes the
end of a line or of the text, the other the end of the text only.
-/

namespace SqlRegexp.Pattern

open PatternText SqlRegexp.Text SqlRegexp.Unicode
open Node (PinsTo)

/-- A star at the front of a pattern is refused. -/
theorem refusesStar_choiceOf (depth : Nat) : Pinning.RefusesStar (Reading.choiceOf (Reading.sequence depth)) := by
  intro s hs
  obtain ⟨u, hu⟩ := List.head?_eq_some_iff.mp hs
  cases depth with
  | zero => exact ⟨_, _, Reading.run_choiceOf_of_error rfl⟩
  | succ depth =>
    refine ⟨.nothingToRepeat, s.pos, Reading.run_choiceOf_of_error ?_⟩
    rw [Reading.sequence, Reading.run_get_bind]
    refine Reading.run_bind_of_error ?_ _
    rw [Reading.elements, Reading.run_pos_bind, Reading.run_mark_bind,
      Reading.run_next_bind_of_cons (visible_cons hu (by decide) (by decide))]
    rfl

namespace Pinning

/-- Elements of which the one are the other pinned. -/
abbrev ItemsPin : Reading.Items → Reading.Items → Prop := List.Forall₂ (Option.Rel PinsTo)

/-- What has been read of elements, with the casing of those that follow. -/
abbrev ElementsPin (b b' : Casing × Reading.Items) : Prop := b'.1 = b.1 ∧ ItemsPin b.2 b'.2

variable {e : Pinning} {s : Source} {u v : List Char} {items items' : Reading.Items} {k : Casing}
  {inside inside' inner inner' : Reading (Node Reference)}

/-- What both texts begin with, with what follows it. -/
theorem Fits.ahead (h : e.Fits s) {c d : Char} (hc : s.visible.head? = some c)
    (hd : (e.pinned s).visible.head? = some d) :
    ∃ u v, s.visible = c :: u ∧ (e.pinned s).visible = d :: v ∧ e.Left (c :: u) ∧ pinEnds (c :: u) = d :: v := by
  obtain ⟨u, hu⟩ := List.head?_eq_some_iff.mp hc
  obtain ⟨v, hv⟩ := List.head?_eq_some_iff.mp hd
  obtain ⟨hpin, hl⟩ := h.visible
  rw [hu, hv] at hpin
  rw [hu] at hl
  exact ⟨u, v, hu, hv, hl, hpin.symm⟩

/-! ### Elements -/

/-- A quantifier is applied alike. -/
theorem Follows.repeated (hitems : ItemsPin items items') (start start' : Nat) (b : Reading.Bounds) :
    e.Follows ItemsPin (Reading.repeated start b items) (Reading.repeated start' b items') := by
  cases hitems with
  | nil => exact .failAt _ _ _
  | cons hitem hrest =>
    cases hitem with
    | none => cases hrest <;> exact .failAt _ _ _
    | some hn => exact (quantified hn b).bind fun _ _ h => .pure (.cons .none (.cons (.some h) hrest))

theorem pinsTo_placeChar (o : Options) {c : Char} (hc : c ≠ '$') :
    PinsTo (Reading.placeChar o c) (Reading.placeChar o c) := by
  refine .self ?_
  unfold Reading.placeChar
  split
  · split <;> rfl
  · exact absurd rfl hc
  · rfl

/-- An end anchor is pinned to the end of the text. -/
theorem pinsTo_endAnchor (o : Options) : PinsTo (Reading.placeChar o '$') (.assertion .endOfText) := by
  show PinsTo (.assertion (if o.multiline then _ else _)) _
  split <;> rfl

/-- A character that stands for itself is read alike, as an element. -/
theorem Follows.element {c : Char} (hc : Plain c) (hitems : ItemsPin items items') (start start' : Nat) :
    e.Follows ElementsPin (Reading.element inside inner start c k items)
      (Reading.element inside' inner' start' c k items') := by
  unfold Reading.element
  split
  · exact absurd hc (by decide)
  · exact absurd hc (by decide)
  · exact absurd hc (by decide)
  · have hliteral : PinsTo (.one (.char c.toNat true k)) (.one (.char c.toNat true k)) := rfl
    refine .either (fun _ s hs => ?_) fun _ => .either (fun _ => ?_) fun _ => .pure ⟨rfl, .cons (.some hliteral) hitems⟩
    · exact .ok ⟨rfl, .cons (.some (pinsTo_placeChar _ hc.2)) hitems⟩ hs
    · refine (bounds c).bind fun b _ hb => ?_
      subst hb
      cases b with
      | none => exact .pure ⟨rfl, .cons (.some hliteral) hitems⟩
      | some b => exact (repeated hitems start start' b).bind fun _ _ h => .pure ⟨rfl, h⟩

section Openers

variable (hs : ∀ u, e.Left u → e.Fits (s.leaving u))

include hs

/-- What follows a backslash is read alike. -/
theorem escape (hl : e.Left ('\\' :: u)) (hpin : pinEnds ('\\' :: u) = '\\' :: v) :
    e.Outcome PinsTo (Reading.escape.run (s.leaving u)) (Reading.escape.run ((e.pinned s).leaving v)) := by
  have hscanned := hl.scanned
  unfold Reading.escape
  rw [Reading.run_verbatim_next_bind, Reading.run_verbatim_next_bind]
  generalize hw : '\\' :: u = w at hscanned
  cases hscanned with
  | nil | hash | bracketed | comment | condition | parenthesis => cases hw
  | char hc =>
    cases hw
    exact absurd (by decide) hc
  | dangling =>
    cases hw
    exact .malformed _ _ _
  | @escape u c hu =>
    cases hw
    obtain rfl : c :: pinEnds u = v := (List.cons.inj (pinEnds_escape.symm.trans hpin)).2
    exact Follows.escapeOf c _ (hs u (hl.rest (k := ['\\', c]) (l := ['\\', c]) rfl pinEnds_escape hu))

/-- A class is read alike. -/
theorem bracket (hl : e.Left ('[' :: u)) (hpin : pinEnds ('[' :: u) = '[' :: v) :
    e.Outcome PinsTo (Reading.bracket.run (s.leaving u)) (Reading.bracket.run ((e.pinned s).leaving v)) := by
  have hscanned := hl.scanned
  generalize hw : '[' :: u = w at hscanned
  cases hscanned with
  | nil | hash | escape | dangling | comment | condition | parenthesis => cases hw
  | char hc =>
    cases hw
    exact absurd (by decide) hc
  | @bracketed k u hk hkeeps hend hu =>
    cases hw
    -- nothing is pinned within the class, so that it is the same in both texts
    obtain rfl : k ++ pinEnds u = v := (List.cons.inj ((pinEnds_bracketed hkeeps hend).symm.trans hpin)).2
    have hrest : e.Left u := hl.rest (k := '[' :: k) (l := '[' :: k) rfl hpin hu
    have hfits : e.Fits (s.leaving u) := hs u hrest
    have hlen : (k ++ u).length ≤ s.total := hfits.total ▸ Nat.le_of_succ_le hl.length
    have hlen' := hl.length'
    rw [hpin] at hlen'
    have hmeets := Abreast.bracket (b := true) (k := k) (s := s.leaving (k ++ u))
      (rfl : ((e.pinned s).leaving (k ++ pinEnds u)).options = _) (fun hb => nomatch hb) rfl rfl hlen
      (Nat.le_of_succ_le hlen') hk
    refine (Outcome.of_meets hfits (hmeets.mono ?_)).mono pinsTo_of_sameTest
    rintro n _ n' _ ⟨hn, -, rfl, rfl⟩
    exact ⟨hn, u, pinEnds u, rfl, rfl, hrest, rfl⟩

/-- An end anchor is read as an element, and what it is pinned to. -/
theorem endAnchor (hl : e.Left ('$' :: u)) (hpin : pinEnds ('$' :: u) = '\\' :: v) (hitems : ItemsPin items items')
    (start start' : Nat) :
    e.Outcome ElementsPin ((Reading.element inside inner start '$' k items).run (s.leaving u))
      ((Reading.element inside' inner' start' '\\' k items').run ((e.pinned s).leaving v)) := by
  obtain rfl : 'Z' :: pinEnds u = v := (List.cons.inj (pinEnds_dollar.symm.trans hpin)).2
  have hfits : e.Fits (s.leaving u) :=
    hs u (hl.rest (k := ['$']) (l := ['\\', 'Z']) rfl pinEnds_dollar (hl.scanned.tail (by decide)))
  exact .ok ⟨rfl, .cons (.some (pinsTo_endAnchor s.options)) hitems⟩ hfits

end Openers

/-! ### Sequences -/

section Sequences

variable (hr : e.Follows PinsTo inside inside')

include hr

/-- **The elements of a sequence are read alike**, up to its end. -/
theorem Follows.elements (hi : e.Follows PinsTo inner inner') (hstar : RefusesStar inner) {limit limit' : Nat}
    (hle : limit ≤ limit') (hitems : ItemsPin items items') (k : Casing) :
    e.Follows ItemsPin (Reading.elements inside inner limit k items)
      (Reading.elements inside' inner' limit' k items') := by
  -- the limits are the lengths of the texts, of which the pinned one is the longer
  induction limit generalizing limit' k items items' with
  | zero => exact .fail _ _
  | succ limit ih =>
    obtain ⟨limit', rfl⟩ : ∃ m, limit' = m + 1 := ⟨limit' - 1, by omega⟩
    intro s hs
    -- what has been read of one element goes into the reading of the next
    have hrest (b b' : Casing × Reading.Items) (h : ElementsPin b b') :
        e.Follows ItemsPin (Reading.elements inside inner limit b.1 b.2)
          (Reading.elements inside' inner' limit' b'.1 b'.2) := by
      rw [h.1]
      exact ih (Nat.le_of_succ_le_succ hle) h.2 b.1
    have hleaving : ∀ u, e.Left u → e.Fits (s.leaving u) := fun _ => hs.leaving
    rw [Reading.elements, Reading.elements, Reading.run_pos_bind, Reading.run_pos_bind, Reading.run_mark_bind,
      Reading.run_mark_bind, Reading.run_next_bind, Reading.run_next_bind]
    rcases hs.next with ⟨c, u, hc, hu, hv, hl⟩ | halt
    · rw [hu, hv, List.head?_cons, List.head?_cons, List.tail_cons, List.tail_cons, leaving_pinned]
      split
      · next he => cases he
      · exact .ok hitems hs
      · exact .ok hitems hs
      · next he =>
        cases he
        exact (element hc hitems _ _ _ hl).bind hrest
    · generalize hd : s.visible.head? = d at halt ⊢
      generalize hd' : (e.pinned s).visible.head? = d' at halt ⊢
      cases halt with
      | nothing => exact .ok hitems hs
      | slash =>
        obtain ⟨u, v, hu, hv, hl, hpin⟩ := hs.ahead hd hd'
        rw [hu, hv]
        refine Outcome.bind (R := ElementsPin) ?_ hrest
        exact (escape hleaving hl hpin).bind fun _ _ h => .pure ⟨rfl, .cons (.some h) hitems⟩
      | bracket =>
        obtain ⟨u, v, hu, hv, hl, hpin⟩ := hs.ahead hd hd'
        rw [hu, hv]
        refine Outcome.bind (R := ElementsPin) ?_ hrest
        exact (bracket hleaving hl hpin).bind fun _ _ h => .pure ⟨rfl, .cons (.some h) hitems⟩
      | anchor =>
        obtain ⟨u, v, hu, hv, hl, hpin⟩ := hs.ahead hd hd'
        rw [hu, hv]
        exact (endAnchor hleaving hl hpin hitems _ _).bind hrest
      | parenthesis =>
        obtain ⟨u, v, hu, hv, hl, hpin⟩ := hs.ahead hd hd'
        obtain rfl : pinEnds u = v := (List.cons.inj ((pinEnds_cons (by decide)).symm.trans hpin)).2
        rw [hu, hv]
        refine Outcome.bind (R := ElementsPin) ?_ hrest
        refine (parenthesis (s := s.leaving u) hr hi hstar hleaving hl).bind fun found found' hfound => ?_
        cases hfound with
        | some hn => exact .pure ⟨rfl, .cons (.some hn) hitems⟩
        | none => exact .casing_bind fun _ => .pure ⟨rfl, hitems⟩

/-- Alternatives are read alike. -/
theorem Follows.alternativesOf {limit limit' : Nat} (hle : limit ≤ limit') :
    e.Follows (List.Forall₂ PinsTo) (Reading.alternativesOf inside limit) (Reading.alternativesOf inside' limit') := by
  induction limit generalizing limit' with
  | zero => exact .fail _ _
  | succ limit ih =>
    obtain ⟨limit', rfl⟩ : ∃ m, limit' = m + 1 := ⟨limit' - 1, by omega⟩
    refine hr.bind fun n n' hn => (acceptChar (by decide)).bind fun found _ hfound => ?_
    subst hfound
    refine .either (fun _ => ?_) fun _ => .pure (.cons hn .nil)
    exact (ih (Nat.le_of_succ_le_succ hle)).bind fun _ _ hns => .pure (.cons hn hns)

theorem Follows.choiceOf : e.Follows PinsTo (Reading.choiceOf inside) (Reading.choiceOf inside') := by
  intro s hs
  unfold Reading.choiceOf
  rw [Reading.run_get_bind, Reading.run_get_bind]
  have hle : s.total + 1 ≤ (e.pinned s).total + 1 := Nat.succ_le_succ (hs.total ▸ e.length_le)
  exact (hr.alternativesOf hle s hs).bind fun _ _ hns => .pure (.choice hns)

end Sequences

theorem ItemsPin.filterMap (h : ItemsPin items items') :
    List.Forall₂ PinsTo (items.filterMap id) (items'.filterMap id) := by
  induction h with
  | nil => exact .nil
  | cons h _ ih =>
    cases h with
    | none => exact ih
    | some h => exact .cons h ih

/-- **Sequences are read alike**, however deep their parentheses are nested. -/
theorem Follows.sequence {depth depth' : Nat} (hle : depth ≤ depth') :
    e.Follows PinsTo (Reading.sequence depth) (Reading.sequence depth') := by
  induction depth generalizing depth' with
  | zero => exact .fail _ _
  | succ depth ih =>
    obtain ⟨depth', rfl⟩ : ∃ m, depth' = m + 1 := ⟨depth' - 1, by omega⟩
    have hinner := ih (Nat.le_of_succ_le_succ hle)
    intro s hs
    rw [Reading.sequence, Reading.sequence, Reading.run_get_bind, Reading.run_get_bind]
    have hle : s.total + 1 ≤ (e.pinned s).total + 1 := Nat.succ_le_succ (hs.total ▸ e.length_le)
    refine (hinner.elements hinner.choiceOf (refusesStar_choiceOf depth) hle (.cons .none .nil) _ s hs).bind ?_
    exact fun _ _ hitems => .pure (.ofList (ItemsPin.filterMap (List.rel_reverse hitems)))

/-! ### Patterns -/

/-- **A whole pattern is read alike.** -/
theorem Follows.whole : e.Follows PinsTo Reading.whole Reading.whole := by
  intro s hs
  have hle : s.total + 1 ≤ (e.pinned s).total + 1 := Nat.succ_le_succ (hs.total ▸ e.length_le)
  have hread := (Follows.sequence hle).choiceOf s hs
  rw [Reading.run_whole, Reading.run_whole]
  generalize (Reading.choiceOf (Reading.sequence (s.total + 1))).run s = o at hread
  generalize (Reading.choiceOf (Reading.sequence ((e.pinned s).total + 1))).run (e.pinned s) = o' at hread
  cases hread with
  | again g => exact .again g
  | refused _ h => exact .refused _ h
  | @ok n n' t hn ht =>
    show e.Outcome PinsTo (ite _ _ _) (ite _ _ _)
    by_cases hv : t.visible = []
    · have hv' : (e.pinned t).visible = [] := by
        rw [ht.visible.1, hv]
        rfl
      rw [if_pos hv, if_pos hv']
      exact .ok hn ht
    · rw [if_neg hv]
      exact .malformed _ _ _

end Pinning

/-- A pattern and its pinned text. -/
def Pinning.ofPattern (blanks : Bool) (p : List Char) : Pinning :=
  ⟨blanks, p.length, (pinEnds p).length, length_pinFrom _ p⟩

/-- **Where a pattern can be read, its pinned text is read as the pinned pattern**, and ends at the same state. -/
theorem readPattern_pinEnds {x : Bool} {p : List Char} {o : Options} (h : Scanned x p) (hx : o.verbose = true → x = true)
    (tries : Nat) {g : Options} (hg : g.verbose = false) {r : Node Reference × Source}
    (hr : readPattern p o tries g = .ok r) :
    ∃ n', readPattern (pinEnds p) o tries g = .ok (n', (Pinning.ofPattern x p).pinned r.2) ∧ PinsTo r.1 n' := by
  induction tries generalizing g with
  | zero => cases hr
  | succ tries ih =>
    have hverbose : (o.union g).verbose = true → x = true := by
      show (o.verbose || g.verbose) = true → x = true
      rw [hg, Bool.or_false]
      exact hx
    have hfits : (Pinning.ofPattern x p).Fits (Source.ofPattern p o g) :=
      ⟨⟨h, Nat.le_refl _, Nat.le_refl _⟩, rfl, hverbose, hverbose⟩
    have hread := Pinning.Follows.whole (Source.ofPattern p o g) hfits
    have hstart : (Pinning.ofPattern x p).pinned (Source.ofPattern p o g) = Source.ofPattern (pinEnds p) o g := rfl
    rw [hstart] at hread
    rw [readPattern] at hr ⊢
    generalize hout : Reading.whole.run (Source.ofPattern p o g) = out at hread hr
    generalize Reading.whole.run (Source.ofPattern (pinEnds p) o g) = out' at hread
    cases hread with
    | ok hn _ =>
      cases hr
      exact ⟨_, rfl, hn⟩
    | again more => exact ih (partial_of_again hout).1 hr
    | @refused err _ herr =>
      cases err with
      | again more => exact absurd rfl (herr more)
      | malformed | numeral => cases hr

end SqlRegexp.Pattern
