import SqlRegexp.Proofs.Pattern.Pinned.Follow

/-!
Reading names, escapes and quantifiers of a pattern and of its pinned text.

A name either contains a mark in both texts, and is refused in both, or is the same. An escape is read with the character
behind the backslash known (`Follows.escapeOf`): the scan for end anchors leaves that character alone.
-/

namespace SqlRegexp.Pattern

open PatternText SqlRegexp.Text SqlRegexp.Unicode
open Node (PinsTo)

/-- What a name of a group comes to does not depend on where it stands. -/
theorem run_nameFrom (numeric : Bool) (cs : List Char) :
    (∃ g, ∀ s : Source, (Reading.nameFrom numeric cs).run s = .ok (g, s)) ∨
      (∃ cause, ∀ s : Source, (Reading.nameFrom numeric cs).run s = .error (.malformed cause s.pos)) ∨
        ∃ err, ∀ s : Source, (Reading.nameFrom numeric cs).run s = .error (.numeral err) := by
  unfold Reading.nameFrom
  split
  · exact .inr (.inl ⟨_, fun _ => rfl⟩)
  · split
    · split
      · exact .inr (.inl ⟨_, fun _ => rfl⟩)
      · cases readNatural cs with
        | error err => exact .inr (.inr ⟨err, fun _ => rfl⟩)
        | ok n =>
          by_cases hn : n < 1
          · exact .inr (.inl ⟨.badGroupName, fun s => congrArg (fun r : Reading GroupName => r.run s) (if_pos hn)⟩)
          · exact .inl ⟨.number n, fun s => congrArg (fun r : Reading GroupName => r.run s) (if_neg hn)⟩
    · split
      · exact .inr (.inl ⟨_, fun _ => rfl⟩)
      · exact .inl ⟨_, fun _ => rfl⟩

/-- The characters of a name at the front of what is left to read, and what follows them. -/
def Source.nameAhead (s : Source) : List Char × List Char := taken s.skipping Reading.isGroupNameChar s.rest

theorem run_groupName_bind {α : Type} (numeric : Bool) (s : Source) (k : GroupName → Reading α) :
    (Reading.groupName numeric >>= k).run s =
      (Reading.nameFrom numeric s.nameAhead.1 >>= k).run (s.leaving s.nameAhead.2) := by
  unfold Reading.groupName
  rw [bind_assoc, Reading.run_takeWhile_bind]
  rfl

namespace Pinning

variable {e : Pinning} {s : Source} {u : List Char}

theorem leaving_pinned (s : Source) (u : List Char) : (e.pinned s).leaving (pinEnds u) = e.pinned (s.leaving u) := rfl

theorem total_pinned (s : Source) : (e.pinned s).total = e.length' := rfl

theorem options_pinned (s : Source) : (e.pinned s).options = s.options := rfl

theorem isOpen_pinned (s : Source) (g : GroupName) : (e.pinned s).isOpen g = s.isOpen g := by cases g <;> rfl

/-! ### References -/

/-- A name is the same in both texts, or contains a mark in both. -/
theorem Fits.nameAhead (h : e.Fits s) :
    ((e.pinned s).nameAhead = (s.nameAhead.1, pinEnds s.nameAhead.2) ∧ e.Fits (s.leaving s.nameAhead.2)) ∨
      (∃ c ∈ marks, c ∈ s.nameAhead.1) ∧ ∃ c ∈ marks, c ∈ (e.pinned s).nameAhead.1 := by
  rcases h.text.scanned.taken (p := Reading.isGroupNameChar) (by decide) h.skips with ⟨heq, hpin, hu⟩ | hmarks
  · exact .inl ⟨Prod.ext heq hpin, h.leaving (h.text.behind hpin hu)⟩
  · exact .inr hmarks

/-- Both readings come to the same place of the two texts, or both texts are refused. -/
abbrev Alike (e : Pinning) (R : Node Reference → Node Reference → Prop) :
    Except Refusal (Node Reference × Source) → Except Refusal (Node Reference × Source) → Prop :=
  Joint fun n t n' t' => R n n' ∧ e.Fits t ∧ t' = e.pinned t

/-- Behind its name a reference in angle brackets is read alike, or refused in both texts. -/
theorem Fits.refer (h : e.Fits s) (g : GroupName) (place place' : Nat) :
    e.Alike PinsTo
      ((Reading.expect '>' >>= fun _ => Reading.isOpen g >>= fun found =>
        if found = true then Reading.fail .openGroup else Reading.backreference g place).run s)
      ((Reading.expect '>' >>= fun _ => Reading.isOpen g >>= fun found =>
        if found = true then Reading.fail .openGroup else Reading.backreference g place').run (e.pinned s)) := by
  rw [Reading.run_expect_bind, Reading.run_expect_bind]
  rcases h.expected (c := '>') (by decide) with ⟨u, hu, hv, hl⟩ | ⟨hne, hne'⟩
  · rw [hu, hv, List.head?_cons, List.head?_cons, if_pos rfl, if_pos rfl, List.tail_cons, List.tail_cons, leaving_pinned,
      Reading.run_bind_of_ok (run_isOpen _ _), Reading.run_bind_of_ok (run_isOpen _ _), isOpen_pinned]
    cases (s.leaving u).isOpen g with
    | true => exact .malformed _ _ _ _
    | false => exact .ok ⟨.backref g _ _ _, hl, rfl⟩
  · rw [if_neg hne, if_neg hne']
    exact .malformed _ _ _ _

/-- A reference in angle brackets is read alike, or refused in both texts; but its number may be no numeral. -/
theorem Fits.bracketReference (h : e.Fits s) :
    e.Alike PinsTo (Reading.bracketReference.run s) (Reading.bracketReference.run (e.pinned s)) ∨
      ∃ err, Reading.bracketReference.run s = .error (.numeral err) := by
  unfold Reading.bracketReference
  rw [Reading.run_expect_bind, Reading.run_expect_bind]
  rcases h.expected (c := '<') (by decide) with ⟨u, hu, hv, hl⟩ | ⟨hne, hne'⟩
  · rw [hu, hv, List.head?_cons, List.head?_cons, if_pos rfl, if_pos rfl, List.tail_cons, List.tail_cons, leaving_pinned,
      Reading.run_pos_bind, Reading.run_pos_bind, run_groupName_bind, run_groupName_bind]
    rcases hl.nameAhead with ⟨hname, ht⟩ | ⟨⟨d, hd, hmem⟩, d', hd', hmem'⟩
    · rw [hname]
      rcases run_nameFrom true (s.leaving u).nameAhead.1 with ⟨g, hg⟩ | ⟨cause, hcause⟩ | ⟨err, herr⟩
      · rw [Reading.run_bind_of_ok (hg _), Reading.run_bind_of_ok (hg _)]
        exact .inl (ht.refer g _ _)
      · rw [Reading.run_bind_of_error (hcause _), Reading.run_bind_of_error (hcause _)]
        exact .inl (.malformed _ _ _ _)
      · rw [Reading.run_bind_of_error (herr _)]
        exact .inr ⟨err, rfl⟩
    · rw [Reading.run_bind_of_error (run_nameFrom_of_mark hd hmem),
        Reading.run_bind_of_error (run_nameFrom_of_mark hd' hmem')]
      exact .inl (.malformed _ _ _ _)
  · rw [if_neg hne, if_neg hne']
    exact .inl (.malformed _ _ _ _)

theorem Outcome.of_alike {R : Node Reference → Node Reference → Prop} {o o' : Except Refusal (Node Reference × Source)}
    (h : e.Alike R o o') : e.Outcome R o o' := by
  cases h with
  | ok h =>
    obtain ⟨hR, ht, rfl⟩ := h
    exact .ok hR ht
  | malformed => exact .malformed _ _ _

/-- The digits of a reference are gone back to alike, from wherever the readings have come to. -/
theorem Fits.digitReference (h : e.Fits s) {back : List Char} (hback : e.Left back) (number : Nat) (w w' : List Char) :
    e.Outcome PinsTo ((Reading.digitReference number back).run (s.leaving w))
      ((Reading.digitReference number (pinEnds back)).run ((e.pinned s).leaving w')) := by
  rw [run_digitReference, run_digitReference]
  show e.Outcome PinsTo (if s.opened.contains number then _ else _) (if s.opened.contains number then _ else _)
  split
  · exact .malformed _ _ _
  · exact .ok (.backref (.number number) _ _ _) (h.leaving hback)

/-- The same test is its own pinned pattern. -/
theorem pinsTo_of_sameTest (n n' : Node Reference) (h : SameTest n n') : PinsTo n n' := by
  obtain ⟨t, rfl, rfl⟩ := h
  rfl

namespace Follows

theorem nameFrom (numeric : Bool) (cs : List Char) :
    e.Follows Eq (Reading.nameFrom numeric cs) (Reading.nameFrom numeric cs) := by
  intro s hs
  rcases run_nameFrom numeric cs with ⟨g, hg⟩ | ⟨cause, hc⟩ | ⟨err, he⟩
  · rw [hg, hg]
    exact .ok rfl hs
  · rw [hc]
    exact .malformed _ _ _
  · rw [he]
    exact .numeral _ _

theorem groupName (numeric : Bool) : e.Follows Eq (Reading.groupName numeric) (Reading.groupName numeric) := by
  intro s hs
  rw [← bind_pure (Reading.groupName numeric), run_groupName_bind, run_groupName_bind, bind_pure, bind_pure]
  rcases hs.nameAhead with ⟨hname, ht⟩ | ⟨⟨c, hc, hmem⟩, -⟩
  · rw [hname]
    exact nameFrom numeric _ _ ht
  · rw [run_nameFrom_of_mark hc hmem]
    exact .malformed _ _ _

theorem isOpen (g : GroupName) : e.Follows Eq (Reading.isOpen g) (Reading.isOpen g) := by
  intro s hs
  rw [run_isOpen, run_isOpen, isOpen_pinned]
  exact .ok rfl hs

theorem backreference (g : GroupName) (place place' : Nat) :
    e.Follows PinsTo (Reading.backreference g place) (Reading.backreference g place') :=
  casing_bind fun k => .pure (.backref g place place' k)

theorem bracketEscape : e.Follows PinsTo Reading.bracketEscape Reading.bracketEscape := by
  intro s hs
  unfold Reading.bracketEscape
  -- where there is no reference, the escape is that of the letter, in both texts
  rcases hs.bracketReference with hjoint | ⟨err, herr⟩
  · generalize ho : Reading.bracketReference.run s = o at hjoint
    generalize ho' : Reading.bracketReference.run (e.pinned s) = o' at hjoint
    cases hjoint with
    | ok h =>
      rw [Reading.run_bind_of_ok (Abreast.run_attempt_of_ok ho), Reading.run_bind_of_ok (Abreast.run_attempt_of_ok ho')]
      exact .of_alike (.ok h)
    | malformed =>
      rw [Reading.run_bind_of_ok (Abreast.run_attempt_of_malformed ho),
        Reading.run_bind_of_ok (Abreast.run_attempt_of_malformed ho')]
      exact (Outcome.of_meets hs (Abreast.nodeOf hs.paired _)).mono pinsTo_of_sameTest
  · have hattempt : (Reading.attempt Reading.bracketReference).run s = .error (.numeral err) := by
      unfold Reading.attempt
      rw [Reading.run_get_bind, herr]
      rfl
    rw [Reading.run_bind_of_error hattempt]
    exact .numeral _ _

/-! ### Escapes -/

theorem digitEscape (first : Char) : e.Follows PinsTo (Reading.digitEscape first) (Reading.digitEscape first) := by
  intro s hs
  have hone (w w' : List Char) := hs.digitReference hs.text ((decimalValue? first).getD 0) w w'
  -- where the texts part, neither goes on with a digit
  have hdigit (c : Char) (hc : c ∈ marks) : ¬ isDecimal c = true := by
    rw [eq_false_of_any (p := isDecimal) (by decide) c hc]
    exact Bool.false_ne_true
  unfold Reading.digitEscape
  rw [Reading.run_mark_bind, Reading.run_mark_bind]
  refine hs.next_bind (fun c u _ hl => .either (fun _ => ?_) fun _ => hone _ _) fun d d' halt u v => ?_
  · have htwo (w w' : List Char) :=
      hl.digitReference hl.text ((decimalValue? first).getD 0 * 10 + (decimalValue? c).getD 0) w w'
    have hoctal (d : Char) (hd : d ∈ marks) : ¬ (isOctal first && isOctal c && isOctal d) = true := by
      rw [eq_false_of_any (p := isOctal) (by decide) d hd, Bool.and_false]
      exact Bool.false_ne_true
    rw [Reading.run_mark_bind, Reading.run_mark_bind]
    refine hl.next_bind (fun d w _ hl' => .either (fun _ => ?_) fun _ => htwo _ _) fun d d' halt w w' => ?_
    · rw [Reading.run_get_bind, Reading.run_get_bind]
      exact (Outcome.of_meets hl' (Abreast.nodeOf hl'.paired _)).mono pinsTo_of_sameTest
    · cases halt with
      | nothing => exact htwo _ _
      | slash | parenthesis | bracket | anchor =>
        dsimp only
        rw [if_neg (hoctal _ (by decide)), if_neg (hoctal _ (by decide))]
        exact htwo _ _
  · cases halt with
    | nothing => exact hone _ _
    | slash | parenthesis | bracket | anchor =>
      dsimp only
      rw [if_neg (hdigit _ (by decide)), if_neg (hdigit _ (by decide))]
      exact hone _ _

/-- The pattern of a place letter asks for the end of no line. -/
theorem pinsTo_placeLetter {o : Options} {c : Char} {n : Node Reference} (h : Reading.placeLetter? o c = some n) :
    PinsTo n n := by
  refine .self ?_
  unfold Reading.placeLetter? at h
  dsimp only at h
  split at h <;> cases h <;> first | rfl | (split <;> rfl)

/-- **What follows a backslash and a character is read alike.** -/
theorem escapeOf (c : Char) : e.Follows PinsTo (Reading.escapeOf c) (Reading.escapeOf c) := by
  intro s hs
  unfold Reading.escapeOf
  rw [Reading.run_get_bind, Reading.run_get_bind, options_pinned]
  have hnode {α : Type} {r : Reading α} (hr : Meets (Along e.Pair s (e.pinned s)) (r.run s) (r.run (e.pinned s)))
      (f : α → Escaped) := (Outcome.of_meets hs (Abreast.bind_nodeOf hs.paired hr f)).mono pinsTo_of_sameTest
  split
  · exact hnode (Abreast.hexEscape hs.paired _ _) .literal
  · next place _ hplace => exact .ok (pinsTo_placeLetter hplace) hs
  · refine .either (fun _ => bracketEscape s hs) fun _ => .either (fun _ => ?_) fun _ =>
      .either (fun _ => hnode (Abreast.nameEscape hs.paired) id) fun _ =>
      .either (fun _ => hnode (Abreast.propertyEscape hs.paired _) id) fun _ =>
      .either (fun _ => .ok (PinsTo.self rfl) hs) fun _ =>
      .either (fun _ => hnode (Abreast.octalEscape hs.paired _) .literal) fun _ =>
      .either (fun _ => digitEscape c s hs) fun _ => hnode (Abreast.commonEscape hs.paired c) id
    obtain ⟨err, herr, hne⟩ := Abreast.listEscape_refused s
    rw [herr]
    exact .refused _ hne

/-! ### Quantifiers -/

theorem bounds (c : Char) : e.Follows Eq (Reading.bounds c) (Reading.bounds c) :=
  fun _ hs => .of_meets hs (Abreast.bounds hs.paired c)

/-- A quantifier is applied alike. -/
theorem quantified {n n' : Node Reference} (hn : PinsTo n n') (b : Reading.Bounds) :
    e.Follows PinsTo (Reading.quantified n b) (Reading.quantified n' b) := by
  intro s hs
  have hok {t : Source} (ht : e.Fits t) {m m' : Node Reference} (hm : PinsTo m m') :
      e.Outcome PinsTo (.ok (if n.isTrivial || b == (1, some 1) then n else m, t))
        (.ok (if n'.isTrivial || b == (1, some 1) then n' else m', e.pinned t)) := by
    refine .ok ?_ ht
    rw [hn.isTrivial]
    split
    · exact hn
    · exact hm
  have hplain := hok hs (hn.times .greedy b.1 b.2)
  unfold Reading.quantified
  rw [Reading.run_mark_bind, Reading.run_mark_bind]
  refine hs.next_bind (fun c u _ hl => ?_) fun d d' halt u v => ?_
  · dsimp only
    split
    · exact hok hl (hn.times .lazy b.1 b.2)
    · exact hok hl (hn.times .greedy b.1 b.2).atomic
    · exact hplain
  · cases halt <;> exact hplain

end Follows

end Pinning

end SqlRegexp.Pattern
