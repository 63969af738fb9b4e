import SqlRegexp.Proofs.Pattern.Abreast.Escape

/-!
Reading bracketed classes abreast. Both texts have the class in common, whatever follows it; a class without an end is
refused at the end of the pattern, and after the closing parenthesis in the other text.
-/

namespace SqlRegexp.Pattern

open SqlRegexp.Text SqlRegexp.Unicode
open Reading (isNameChar isValueChar)

/-! ### Named classes -/

/-- Nothing that belongs to the name of a property follows a piece of a text. -/
def Stopped (m u₀ : List Char) : Prop := ']' ∈ m ∨ u₀ = [] ∨ u₀ = [')']

section Stopped

variable {p : Char → Bool} {m u₀ : List Char}

theorem takeWhile_append (hp : ∀ c ∈ marks, p c = false) (h : Stopped m u₀) :
    (m ++ u₀).takeWhile p = m.takeWhile p ∧ (m ++ u₀).dropWhile p = m.dropWhile p ++ u₀ := by
  induction m with
  | nil =>
    have hclose : ¬ p ')' = true := by rw [hp ')' (by decide)]; exact Bool.false_ne_true
    rcases h with h | rfl | rfl
    · cases h
    · exact ⟨rfl, rfl⟩
    · exact ⟨List.takeWhile_cons_of_neg hclose, List.dropWhile_cons_of_neg hclose⟩
  | cons c m ih =>
    by_cases hc : p c = true
    · have hne : ']' ≠ c := fun he => absurd hc (by rw [← he, hp ']' (by decide)]; exact Bool.false_ne_true)
      have hstopped : Stopped m u₀ := h.imp (fun hm => (List.mem_cons.mp hm).resolve_left hne) id
      rw [List.cons_append, List.takeWhile_cons_of_pos hc, List.takeWhile_cons_of_pos hc,
        List.dropWhile_cons_of_pos hc, List.dropWhile_cons_of_pos hc, (ih hstopped).1, (ih hstopped).2]
      exact ⟨rfl, rfl⟩
    · rw [List.cons_append, List.takeWhile_cons_of_neg hc, List.takeWhile_cons_of_neg hc,
        List.dropWhile_cons_of_neg hc, List.dropWhile_cons_of_neg hc]
      exact ⟨rfl, rfl⟩

theorem mem_dropWhile (hp : ∀ c ∈ marks, p c = false) (h : ']' ∈ m) : ']' ∈ m.dropWhile p := by
  rw [← List.takeWhile_append_dropWhile (p := p) (l := m), List.mem_append] at h
  refine h.resolve_left fun ht => absurd (List.mem_takeWhile_imp ht) ?_
  rw [hp ']' (by decide)]
  exact Bool.false_ne_true

theorem Stopped.dropWhile (hp : ∀ c ∈ marks, p c = false) (h : Stopped m u₀) : Stopped (m.dropWhile p) u₀ :=
  h.imp (mem_dropWhile hp) id

theorem Stopped.of_cons {c : Char} (hc : c ≠ ']') (h : Stopped (c :: m) u₀) : Stopped m u₀ :=
  h.imp (fun hm => (List.mem_cons.mp hm).resolve_left hc.symm) id

end Stopped

theorem splitName_append {m u₀ : List Char} (h : Stopped m u₀) :
    splitName (m ++ u₀) = ((splitName m).1, (splitName m).2 ++ u₀) := by
  have hname := Abreast.isNameChar_of_mem_marks
  unfold splitName
  rw [(takeWhile_append hname h).1, (takeWhile_append hname h).2]
  have hrest := h.dropWhile hname
  cases hd : m.dropWhile isNameChar with
  | nil =>
    rw [hd] at hrest
    rcases hrest with hr | rfl | rfl
    · cases hr
    · rfl
    · rfl
  | cons c t =>
    rw [hd] at hrest
    by_cases hc : (c == ':' || c == '=') = true
    · have hne : c ≠ ']' := by
        rintro rfl
        exact absurd hc (by decide)
      have ht := takeWhile_append Abreast.isValueChar_of_mem_marks (hrest.of_cons hne)
      simp only [List.cons_append, hc, ht.1, ht.2, Bool.true_and]
      split <;> rfl
    · simp only [List.cons_append, hc, Bool.false_and]
      rfl

theorem splitName_suffix (m : List Char) : (splitName m).2 <:+ m := by
  have hdrop : m.dropWhile isNameChar <:+ m := List.dropWhile_suffix _
  unfold splitName
  cases hd : m.dropWhile isNameChar with
  | nil => exact List.nil_suffix
  | cons c t =>
    rw [hd] at hdrop
    dsimp only
    split
    · exact (List.dropWhile_suffix _).trans ((List.suffix_cons c t).trans hdrop)
    · exact hdrop

theorem mem_splitName {m : List Char} (h : ']' ∈ m) : ']' ∈ (splitName m).2 := by
  have hrest := mem_dropWhile Abreast.isNameChar_of_mem_marks h
  unfold splitName
  cases hd : m.dropWhile isNameChar with
  | nil =>
    rw [hd] at hrest
    cases hrest
  | cons c t =>
    rw [hd] at hrest
    dsimp only
    split
    · next hc =>
      have hne : ']' ≠ c := by
        rintro rfl
        exact absurd hc (by simp)
      exact mem_dropWhile Abreast.isValueChar_of_mem_marks ((List.mem_cons.mp hrest).resolve_left hne)
    · exact hrest

theorem afterColon?_append {r u₀ : List Char} (h : Stopped r u₀) :
    afterColon? (r ++ u₀) = (afterColon? r).map (· ++ u₀) := by
  cases r with
  | nil =>
    rcases h with h | rfl | rfl
    · cases h
    · rfl
    · rfl
  | cons c r =>
    by_cases hc : c = ':'
    · subst hc
      cases r with
      | nil =>
        rcases h.of_cons (by decide) with h | rfl | rfl
        · cases h
        · rfl
        · rfl
      | cons d t => by_cases hd : d = ']' <;> simp [afterColon?, hd]
    · simp [afterColon?, hc]

theorem namedAfter?_append {m u₀ : List Char} (h : Stopped m u₀) :
    namedAfter? (m ++ u₀) = (namedAfter? m).map fun r => (r.1, r.2.1, r.2.2 ++ u₀) := by
  -- a caret in front makes no difference for what follows it
  have hsplit {m' : List Char} (h' : Stopped m' u₀) (negated : Bool) :
      ((afterColon? (splitName (m' ++ u₀)).2).map fun t => (negated, (splitName (m' ++ u₀)).1, t)) =
        ((afterColon? (splitName m').2).map fun t => (negated, (splitName m').1, t)).map
          fun r => (r.1, r.2.1, r.2.2 ++ u₀) := by
    rw [splitName_append h', afterColon?_append (h'.imp mem_splitName id), Option.map_map, Option.map_map]
    rfl
  unfold namedAfter?
  cases m with
  | nil =>
    rcases h with h | rfl | rfl
    · cases h
    · exact hsplit (.inr (.inl rfl)) false
    · exact hsplit (.inr (.inr rfl)) false
  | cons c m =>
    by_cases hc : c = '^'
    · subst hc
      exact hsplit (h.of_cons (by decide)) true
    · have hhead : decide ((c :: m).head? = some '^') = false := by simp [hc]
      have hhead' : decide ((c :: m ++ u₀).head? = some '^') = false := by simp [hc]
      simp only [hhead, hhead']
      exact hsplit h false

theorem namedAfter?_suffix {m k : List Char} {negated : Bool} {name : Option (List Char) × List Char}
    (h : namedAfter? m = some (negated, name, k)) : k <:+ m := by
  have hcolon {r : List Char} (hr : afterColon? r = some k) : k <:+ r := by
    unfold afterColon? at hr
    split at hr
    · cases hr
      exact (List.suffix_cons ']' k).trans (List.suffix_cons ':' _)
    · cases hr
  unfold namedAfter? at h
  obtain ⟨t, ht, he⟩ := Option.map_eq_some_iff.mp h
  cases he
  refine (hcolon ht).trans ((splitName_suffix _).trans ?_)
  split
  · exact List.tail_suffix m
  · exact List.suffix_rfl

/-! ### Members -/

section Members

variable {s : Source}

theorem visible_of_not_skipping (hs : s.skipping = false) : s.visible = s.rest := by
  rw [Source.visible_eq, hs]
  rfl

theorem run_propertyName (hs : s.skipping = false) :
    Reading.propertyName.run s = .ok ((splitName s.rest).1, s.leaving (splitName s.rest).2) := by
  unfold Reading.propertyName splitName
  simp only [Reading.run_takeWhileRaw_bind, Reading.run_mark_bind, Reading.run_next_bind]
  rw [show (s.leaving (s.rest.dropWhile isNameChar)).visible = _ from visible_of_not_skipping hs, Source.leaving_rest]
  cases hd : s.rest.dropWhile isNameChar with
  | nil => rfl
  | cons c t =>
    rw [List.head?_cons, List.tail_cons]
    dsimp only
    by_cases hc : (c == ':' || c == '=') = true
    · rw [if_pos hc, Reading.run_takeWhileRaw_bind, Source.leaving_rest, hc, Bool.true_and]
      cases (trimBlanks (t.takeWhile isValueChar)).isEmpty <;> rfl
    · rw [if_neg hc, eq_false_of_ne_true hc, Bool.false_and]
      rfl

theorem run_accept_colon (hs : s.skipping = false) :
    (Reading.accept [':', ']']).run s =
      .ok ((afterColon? s.rest).isSome, s.leaving ((afterColon? s.rest).getD s.rest)) := by
  rw [Reading.run_accept, visible_of_not_skipping hs]
  by_cases h : [':', ']'].isPrefixOf s.rest = true
  · rw [if_pos h]
    obtain ⟨t, ht⟩ := List.isPrefixOf_iff_prefix.mp h
    rw [← ht]
    rfl
  · have hnone : afterColon? s.rest = none := by
      unfold afterColon?
      split
      · next t ht => exact absurd (by rw [ht]; rfl) h
      · rfl
    rw [if_neg h, hnone]
    rfl

/-- A named class is read where there is one. -/
theorem run_namedClass (hs : s.skipping = false) :
    Reading.namedClass.run s =
      match namedAfter? s.rest with
      | some (negated, name, k) =>
        ((fun t => some (Trait.property t)) <$> Reading.namedProperty name (!negated) none true).run (s.leaving k)
      | none => .ok (none, s.leaving (splitName (if s.rest.head? = some '^' then s.rest.tail else s.rest)).2) := by
  have htail (negated : Bool) (t : Source) (ht : t.skipping = false) :
      (Reading.propertyName >>= fun name => Reading.accept [':', ']'] >>= fun found =>
        if found = true then Reading.namedProperty name (!negated) none true >>= fun t => pure (some (Trait.property t))
        else pure none).run t =
      (afterColon? (splitName t.rest).2).elim (.ok (none, t.leaving (splitName t.rest).2)) fun k =>
        ((fun t => some (Trait.property t)) <$>
          Reading.namedProperty (splitName t.rest).1 (!negated) none true).run (t.leaving k) := by
    rw [Reading.run_bind_of_ok (run_propertyName ht),
      Reading.run_bind_of_ok (run_accept_colon (s := t.leaving (splitName t.rest).2) ht),
      Source.leaving_rest, Reading.map_eq_bind]
    cases afterColon? (splitName t.rest).2 <;> rfl
  unfold Reading.namedClass namedAfter?
  rw [Reading.run_acceptChar_bind, visible_of_not_skipping hs]
  by_cases hhat : s.rest.head? = some '^'
  · rw [if_pos hhat, if_pos hhat, decide_eq_true hhat]
    refine (htail true (s.leaving s.rest.tail) hs).trans ?_
    simp only [Source.leaving_rest, ↓reduceIte]
    cases afterColon? (splitName s.rest.tail).2 <;> rfl
  · rw [if_neg hhat, if_neg hhat, decide_eq_false hhat]
    refine (htail false s hs).trans ?_
    simp only [Bool.false_eq_true, ↓reduceIte]
    cases afterColon? (splitName s.rest).2 <;> rfl

theorem run_namedMember (hs : s.skipping = false) :
    Reading.namedMember.run s =
      match s.rest with
      | '[' :: ':' :: m => Reading.namedClass.run (s.leaving m)
      | _ => .ok (none, s) := by
  unfold Reading.namedMember
  rw [Reading.run_accept_bind, visible_of_not_skipping hs]
  by_cases h : ['[', ':'].isPrefixOf s.rest = true
  · rw [if_pos h]
    obtain ⟨m, hm⟩ := List.isPrefixOf_iff_prefix.mp h
    rw [← hm]
    rfl
  · rw [if_neg h]
    show Except.ok (none, s) = _
    split
    · next m hm => exact absurd (by rw [hm]; rfl) h
    · rfl

/-- No named class starts at a place of a class. -/
def NoNamed (c : Char) (r : List Char) : Prop := ∀ m, c = '[' → r = ':' :: m → namedAfter? m = none

/-- A character that begins nothing else is read as itself. -/
theorem run_classMember_char (hs : s.skipping = false) {c : Char} {r : List Char} (hr : s.rest = c :: r)
    (hc : c ≠ '\\') (hnamed : NoNamed c r) :
    Reading.classMember.run s = .ok (.code c.toNat, s.leaving r) := by
  have hnone : ∃ t, Reading.namedMember.run s = .ok (none, t) ∧ t.leaving s.rest = s := by
    rw [run_namedMember hs]
    split
    · next m hm =>
      rw [hr] at hm
      obtain ⟨rfl, rfl⟩ := List.cons.inj hm
      rw [run_namedClass (s := s.leaving m) hs, Source.leaving_rest, hnamed m rfl rfl]
      exact ⟨_, rfl, rfl⟩
    · exact ⟨s, rfl, rfl⟩
  obtain ⟨t, ht, hback⟩ := hnone
  unfold Reading.classMember
  rw [Reading.run_acceptChar_bind, visible_of_not_skipping hs, hr, List.head?_cons,
    if_neg (fun h => hc (Option.some.inj h))]
  show (Reading.mark >>= _).run s = _
  rw [Reading.run_mark_bind, Reading.run_bind_of_ok ht]
  show (Reading.rewind s.rest >>= _).run t = _
  rw [Reading.run_rewind_bind, hback, Reading.classChar, Reading.run_next_bind, visible_of_not_skipping hs, hr]
  rfl

theorem run_classMember_nil (hs : s.skipping = false) (hr : s.rest = []) :
    Reading.classMember.run s = .error (.malformed .unterminatedClass s.pos) := by
  have hnone : Reading.namedMember.run s = .ok (none, s) := by rw [run_namedMember hs, hr]
  unfold Reading.classMember
  rw [Reading.run_acceptChar_bind, visible_of_not_skipping hs, hr, if_neg (by simp)]
  show (Reading.mark >>= _).run s = _
  rw [Reading.run_mark_bind, Reading.run_bind_of_ok hnone]
  show (Reading.rewind s.rest >>= _).run s = _
  rw [Reading.run_rewind_bind, Source.leaving_self, Reading.classChar, Reading.run_next_bind,
    visible_of_not_skipping hs, hr]
  show (Reading.fail .unterminatedClass : Reading Trait).run _ = _
  rw [Reading.run_fail, List.tail_nil, ← hr, Source.leaving_self]

theorem run_classMember_escape (hs : s.skipping = false) {r : List Char} (hr : s.rest = '\\' :: r) :
    Reading.classMember.run s = Reading.classEscape.run (s.leaving r) := by
  unfold Reading.classMember
  rw [Reading.run_acceptChar_bind, visible_of_not_skipping hs, hr]
  rfl

theorem run_classMember_named (hs : s.skipping = false) {m k : List Char} {negated : Bool}
    {name : Option (List Char) × List Char} (hr : s.rest = '[' :: ':' :: m)
    (h : namedAfter? m = some (negated, name, k)) :
    Reading.classMember.run s =
      (Trait.property <$> Reading.namedProperty name (!negated) none true).run (s.leaving k) := by
  have hnamed : Reading.namedMember.run s =
      ((fun t => some (Trait.property t)) <$> Reading.namedProperty name (!negated) none true).run (s.leaving k) := by
    rw [run_namedMember hs, hr]
    show Reading.namedClass.run (s.leaving m) = _
    rw [run_namedClass (s := s.leaving m) hs, Source.leaving_rest, h]
    rfl
  unfold Reading.classMember
  rw [Reading.run_acceptChar_bind, visible_of_not_skipping hs, hr, if_neg (by simp)]
  show (Reading.mark >>= _).run s = _
  rw [Reading.run_mark_bind, Reading.run_bind, hnamed, Reading.map_eq_bind, Reading.map_eq_bind, Reading.run_bind,
    Reading.run_bind]
  cases (Reading.namedProperty name (!negated) none true).run (s.leaving k) <;> rfl

end Members

/-! ### Classes -/

/-- Two texts have the rest of a class in common, which is shorter than `n` characters, before `u₀` and `v₀`. -/
def ClassRest (b : Bool) (u₀ v₀ : List Char) (n : Nat) (u v : List Char) : Prop :=
  ∃ k, InClass b k ∧ k.length < n ∧ u = k ++ u₀ ∧ v = k ++ v₀

/-- Two sources whose texts have the rest `k` of a class in common. -/
structure AtClass (b : Bool) (u₀ v₀ k : List Char) (s s' : Source) : Prop where
  skipping : s.skipping = false
  skipping' : s'.skipping = false
  options : s'.options = s.options
  /-- Only the end of the pattern follows a class without an end. -/
  after : b = false → u₀ = [] ∧ v₀ = [')']
  rest : s.rest = k ++ u₀
  rest' : s'.rest = k ++ v₀

section Classes

variable {b : Bool} {u₀ v₀ k : List Char} {n : Nat} {s s' : Source}

theorem goAlike_classRest (h : b = false → u₀ = [] ∧ v₀ = [')']) : GoAlike (ClassRest b u₀ v₀ n) := by
  have hmark {c : Char} {T : Prop} (hc : c ∈ marks) (h : c ∉ marks) : T := absurd hc h
  rintro u v ⟨k, hk, hlen, rfl, rfl⟩
  cases hk with
  | close => exact .inr ⟨_, _, _, rfl, rfl, hmark (by decide)⟩
  | nothing =>
    obtain ⟨rfl, rfl⟩ := h rfl
    exact .inl ⟨stops_nil, stops_close⟩
  | dangling => exact .inr ⟨_, _, _, rfl, rfl, hmark (by decide)⟩
  | escape => exact .inr ⟨_, _, _, rfl, rfl, hmark (by decide)⟩
  | named => exact .inr ⟨_, _, _, rfl, rfl, hmark (by decide)⟩
  | char _ _ _ hk => exact .inr ⟨_, _, _, rfl, rfl, fun _ => ⟨_, hk, Nat.lt_of_succ_lt hlen, rfl, rfl⟩⟩

theorem AtClass.leaving (h : AtClass b u₀ v₀ k s s') (k' : List Char) :
    AtClass b u₀ v₀ k' (s.leaving (k' ++ u₀)) (s'.leaving (k' ++ v₀)) :=
  ⟨h.skipping, h.skipping', h.options, h.after, rfl, rfl⟩

/-- Behind the first characters of the rest of a class the texts are in step. -/
theorem AtClass.paired (h : AtClass b u₀ v₀ k s s') {k' : List Char} (hk : InClass b k') (hlen : k'.length < n) :
    Paired (ClassRest b u₀ v₀ n) (s.leaving (k' ++ u₀)) (s'.leaving (k' ++ v₀)) :=
  ⟨h.skipping'.trans h.skipping.symm, h.options,
    show InStep s.skipping _ from h.skipping ▸ (goAlike_classRest h.after).inStep, ⟨k', hk, hlen, rfl, rfl⟩⟩

theorem InClass.mem_closing (h : InClass b k) (hb : b = true) : ']' ∈ k := by
  induction h with
  | close => exact List.mem_cons_self
  | nothing | dangling => cases hb
  | escape c _ ih => exact List.mem_cons_of_mem _ (List.mem_cons_of_mem _ (ih hb))
  | named hm _ ih => exact List.mem_cons_of_mem _ (List.mem_cons_of_mem _ ((namedAfter?_suffix hm).mem (ih hb)))
  | char _ _ _ _ ih => exact List.mem_cons_of_mem _ (ih hb)

/-- What follows the rest of a class does not belong to a name in it. -/
theorem stopped_of_inClass {m w r : List Char} (hr : InClass b r) (hm : ']' ∈ r → ']' ∈ m)
    (hw : b = false → w = [] ∨ w = [')']) : Stopped m w := by
  cases b with
  | false => exact .inr (hw rfl)
  | true => exact .inl (hm (hr.mem_closing rfl))

end Classes

namespace Abreast

variable {b : Bool} {u₀ v₀ k : List Char} {n : Nat} {s s' : Source}

/-- Both texts go on with the end of the class, or neither does. -/
theorem run_acceptChar_closing (h : AtClass b u₀ v₀ k s s') (hk : InClass b k) :
    (k = [']'] ∧ b = true ∧ (Reading.acceptChar ']').run s = .ok (true, s.leaving u₀) ∧
        (Reading.acceptChar ']').run s' = .ok (true, s'.leaving v₀)) ∨
      (k.head? ≠ some ']' ∧ (Reading.acceptChar ']').run s = .ok (false, s) ∧
        (Reading.acceptChar ']').run s' = .ok (false, s')) := by
  rw [Reading.run_acceptChar, Reading.run_acceptChar, visible_of_not_skipping h.skipping,
    visible_of_not_skipping h.skipping', h.rest, h.rest']
  cases k with
  | nil =>
    have hb : b = false := by
      cases hk
      rfl
    obtain ⟨rfl, rfl⟩ := h.after hb
    exact .inr ⟨by simp, rfl, rfl⟩
  | cons c r =>
    rw [List.cons_append, List.cons_append, List.head?_cons, List.head?_cons, List.head?_cons]
    by_cases hc : c = ']'
    · subst hc
      cases hk with
      | close => exact .inl ⟨rfl, rfl, rfl, rfl⟩
      | char _ hne => exact absurd rfl hne
    · have hc' : some c ≠ some ']' := fun he => hc (Option.some.inj he)
      rw [if_neg hc', if_neg hc']
      exact .inr ⟨hc', rfl, rfl⟩

/-- A single member of a class is read alike. -/
theorem classMember (h : AtClass b u₀ v₀ k s s') (hk : ClassStart b k) :
    Meets (Along (ClassRest b u₀ v₀ k.length) s s') (Reading.classMember.run s) (Reading.classMember.run s') := by
  have hs := h.skipping
  have hs' := h.skipping'
  have hr := h.rest
  have hr' := h.rest'
  -- a member that stands for itself, whatever follows the class
  have hchar {c : Char} {r : List Char} (hcr : k = c :: r) (hc : c ≠ '\\') (hn : NoNamed c (r ++ u₀))
      (hn' : NoNamed c (r ++ v₀)) (hin : InClass b r) :
      Meets (Along (ClassRest b u₀ v₀ k.length) s s') (Reading.classMember.run s) (Reading.classMember.run s') := by
    subst hcr
    rw [run_classMember_char hs hr hc hn, run_classMember_char hs' hr' hc hn']
    exact .ok ⟨rfl, _, _, rfl, rfl, r, hin, Nat.lt_succ_self _, rfl, rfl⟩
  have hnone {r : List Char} : NoNamed ']' r := fun m hm => by cases hm
  cases hk with
  | bracket hin => exact hchar rfl (by decide) hnone hnone hin
  | member hne hin =>
    cases hin with
    | close => exact absurd rfl hne
    | nothing =>
      -- the class has no end: behind it stands nothing, or the parenthesis that encloses the pattern
      obtain ⟨rfl, rfl⟩ := h.after rfl
      rw [run_classMember_nil hs hr,
        run_classMember_char hs' (c := ')') (r := []) hr' (by decide) fun m hm => by cases hm]
      exact .spent _ _ rfl
    | dangling =>
      obtain ⟨rfl, rfl⟩ := h.after rfl
      rw [run_classMember_escape hs (r := []) hr, run_classMember_escape hs' (r := [')']) hr']
      exact .spent _ _ rfl
    | @escape _ r c hin =>
      rw [run_classMember_escape hs (r := c :: (r ++ u₀)) hr, run_classMember_escape hs' (r := c :: (r ++ v₀)) hr']
      unfold Reading.classEscape
      rw [Reading.run_verbatim_next_bind, Reading.run_verbatim_next_bind]
      have hpaired := h.paired hin (n := ('\\' :: c :: r).length) (Nat.lt_succ_of_lt (Nat.lt_succ_self _))
      refine (memberEscape hpaired c).bind (fun _ => .pure _) ?_
      rintro e _ _ _ ⟨rfl, u, v, rfl, rfl, ht⟩ - -
      exact (hpaired.leaving ht).ok _
    | @named _ negated name r m hm hin =>
      have happend (w : List Char) (hw : b = false → w = [] ∨ w = [')']) :
          namedAfter? (m ++ w) = some (negated, name, r ++ w) := by
        rw [namedAfter?_append (stopped_of_inClass hin (fun hr => (namedAfter?_suffix hm).mem hr) hw), hm]
        rfl
      have hlen : r.length < ('[' :: ':' :: m).length :=
        Nat.lt_succ_of_le (Nat.le_succ_of_le (namedAfter?_suffix hm).length_le)
      rw [run_classMember_named hs hr (happend u₀ fun hb => .inl (h.after hb).1),
        run_classMember_named hs' hr' (happend v₀ fun hb => .inr (h.after hb).2)]
      refine (Abreast.namedProperty (h.paired hin hlen) name (!negated) none true).map ?_
      exact fun t _ t' _ ht => ⟨congrArg _ ht.1, ht.2⟩
    | @char _ c r hslash hclose hnamed hin =>
      have hno (w : List Char) (hw : b = false → w = [] ∨ w = [')']) : NoNamed c (r ++ w) := by
        intro m hc hm
        cases r with
        | nil =>
          have hb : b = false := by
            cases hin
            rfl
          rcases hw hb with rfl | rfl <;> cases hm
        | cons d r =>
          obtain ⟨rfl, rfl⟩ := List.cons.inj hm
          have htail (hr : ']' ∈ ':' :: r) : ']' ∈ r := (List.mem_cons.mp hr).resolve_left (by decide)
          show namedAfter? (r ++ w) = none
          rw [namedAfter?_append (stopped_of_inClass hin htail hw), hnamed r hc rfl]
          rfl
      exact hchar rfl hslash (hno u₀ fun hb => .inl (h.after hb).1) (hno v₀ fun hb => .inr (h.after hb).2) hin

/-- What a first member begins is read alike. -/
theorem rangeFrom (h : AtClass b u₀ v₀ k s s') (hk : InClass b k) (hlen : k.length < n) (low : Trait) :
    Meets (Along (ClassRest b u₀ v₀ n) s s') ((Reading.rangeFrom low).run s) ((Reading.rangeFrom low).run s') := by
  have hpaired : Paired (ClassRest b u₀ v₀ n) s s' := by
    have := h.paired hk hlen
    rwa [← h.rest, ← h.rest'] at this
  cases low with
  | range | property => exact hpaired.ok _
  | code a =>
    obtain ⟨found, _, _, hr, hr', k₁, hk₁, hlen₁, rfl, rfl⟩ := acceptChar hpaired (c := '-') (by decide)
    have h₁ := h.leaving k₁
    have hok (ts : List Trait) := (hpaired.leaving ⟨k₁, hk₁, hlen₁, rfl, rfl⟩).ok ts
    unfold Reading.rangeFrom
    rw [Reading.run_bind_of_ok hr, Reading.run_bind_of_ok hr']
    refine .either (fun _ => hok _) fun _ => ?_
    rw [Reading.run_mark_bind, Reading.run_mark_bind]
    rcases run_acceptChar_closing h₁ hk₁ with ⟨-, -, hc, hc'⟩ | ⟨hne, hc, hc'⟩
    · rw [Reading.run_bind_of_ok hc, Reading.run_bind_of_ok hc']
      exact hok _
    · rw [Reading.run_bind_of_ok hc, Reading.run_bind_of_ok hc']
      refine (classMember h₁ (.member hne hk₁)).bind (fun high => ?_) ?_
      · cases high with
        | code b => exact .either ((Reading.Onward.fail _).bind fun _ => .pure _) (.pure _)
        | _ => exact .pure _
      · rintro high _ _ _ ⟨rfl, _, _, rfl, rfl, k₂, hk₂, hlen₂, rfl, rfl⟩ - -
        have hok₂ (ts : List Trait) := (hpaired.leaving ⟨k₂, hk₂, Nat.lt_trans hlen₂ hlen₁, rfl, rfl⟩).ok ts
        cases high with
        | code b => exact .either (fun _ => .refused _ _ _ _) fun _ => hok₂ _
        | _ => exact hok₂ _

/-- A member or a range of a class is read alike. -/
theorem classRange (h : AtClass b u₀ v₀ k s s') (hk : ClassStart b k) :
    Meets (Along (ClassRest b u₀ v₀ k.length) s s') (Reading.classRange.run s) (Reading.classRange.run s') := by
  refine (Abreast.classMember h hk).bind (fun low => .rangeFrom low) ?_
  rintro low _ _ _ ⟨rfl, _, _, rfl, rfl, k₁, hk₁, hlen, rfl, rfl⟩ - -
  exact Abreast.rangeFrom (h.leaving k₁) hk₁ hlen low

/-- The members of a class are read alike, up to its end; a class without one is refused. -/
theorem classMembers (h : AtClass b u₀ v₀ k s s') (hk : ClassStart b k) {limit limit' : Nat}
    (hlen : k.length < limit) (hlen' : k.length < limit') :
    Meets (fun ts t ts' t' => ts = ts' ∧ b = true ∧ t = s.leaving u₀ ∧ t' = s'.leaving v₀)
      ((Reading.classMembers limit).run s) ((Reading.classMembers limit').run s') := by
  induction limit generalizing k s s' limit' with
  | zero => exact absurd hlen (Nat.not_lt_zero _)
  | succ limit ih =>
    cases limit' with
    | zero => exact absurd hlen' (Nat.not_lt_zero _)
    | succ limit' =>
      rw [Reading.classMembers, Reading.classMembers]
      refine (classRange h hk).bind (fun here => ?_) ?_
      · exact (Reading.Onward.acceptChar _).bind fun _ =>
          .either (.pure _) ((Reading.Onward.classMembers _).bind fun _ => .pure _)
      · rintro here _ _ _ ⟨rfl, _, _, rfl, rfl, k₁, hk₁, hlen₁, rfl, rfl⟩ - -
        rcases run_acceptChar_closing (h.leaving k₁) hk₁ with ⟨-, hb, hc, hc'⟩ | ⟨hne, hc, hc'⟩
        · rw [Reading.run_bind_of_ok hc, Reading.run_bind_of_ok hc']
          exact .ok ⟨rfl, hb, rfl, rfl⟩
        · rw [Reading.run_bind_of_ok hc, Reading.run_bind_of_ok hc']
          refine (ih (h.leaving k₁) (.member hne hk₁) (by omega) (by omega)).bind (fun _ => .pure _) ?_
          rintro ts _ _ _ ⟨rfl, hb, rfl, rfl⟩ - -
          exact .ok ⟨rfl, hb, rfl, rfl⟩

theorem classOf (h : AtClass b u₀ v₀ k s s') (hk : ClassText b k) {limit limit' : Nat} (hlen : k.length < limit)
    (hlen' : k.length < limit') (c : Casing) :
    Meets (fun n t n' t' => SameTest n n' ∧ b = true ∧ t = s.leaving u₀ ∧ t' = s'.leaving v₀)
      ((Reading.classOf limit c).run s) ((Reading.classOf limit' c).run s') := by
  unfold Reading.classOf
  rw [Reading.run_acceptChar_bind, Reading.run_acceptChar_bind, visible_of_not_skipping h.skipping,
    visible_of_not_skipping h.skipping', h.rest, h.rest']
  cases hk with
  | plain hne hk =>
    have hhat (w : List Char) (hw : b = false → w = [] ∨ w = [')']) : (k ++ w).head? ≠ some '^' := by
      cases k with
      | nil =>
        have hb : b = false := by
          cases hk with
          | member _ hin => cases hin; rfl
        rcases hw hb with rfl | rfl <;> simp
      | cons d r => exact hne
    rw [if_neg (hhat u₀ fun hb => .inl (h.after hb).1), if_neg (hhat v₀ fun hb => .inr (h.after hb).2)]
    refine (classMembers h hk hlen hlen').bind (fun _ => .pure _) ?_
    rintro ts _ _ _ ⟨rfl, hb, rfl, rfl⟩ - -
    exact .ok ⟨⟨_, rfl, rfl⟩, hb, rfl, rfl⟩
  | @negated k hk =>
    rw [List.cons_append, List.cons_append, List.head?_cons, List.head?_cons, if_pos rfl, if_pos rfl]
    refine (classMembers (h.leaving k) hk (Nat.lt_of_succ_lt hlen) (Nat.lt_of_succ_lt hlen')).bind (fun _ => .pure _) ?_
    rintro ts _ _ _ ⟨rfl, hb, rfl, rfl⟩ - -
    exact .ok ⟨⟨_, rfl, rfl⟩, hb, rfl, rfl⟩

/-- **A class is read alike**, whatever follows it; one without an end is refused. -/
theorem bracket (hopt : s'.options = s.options) (hafter : b = false → u₀ = [] ∧ v₀ = [')'])
    (hr : s.rest = k ++ u₀) (hr' : s'.rest = k ++ v₀)
    (hlen : s.rest.length ≤ s.total) (hlen' : s'.rest.length ≤ s'.total) (hk : ClassText b k) :
    Meets (fun n t n' t' => SameTest n n' ∧ b = true ∧ t = s.leaving u₀ ∧ t' = s'.leaving v₀)
      (Reading.bracket.run s) (Reading.bracket.run s') := by
  have hkl : k.length < s.total + 1 := by
    rw [hr, List.length_append] at hlen
    omega
  have hkl' : k.length < s'.total + 1 := by
    rw [hr', List.length_append] at hlen'
    omega
  have hclass : AtClass b u₀ v₀ k { s with skipping := false } { s' with skipping := false } :=
    ⟨rfl, rfl, hopt, hafter, hr, hr'⟩
  unfold Reading.bracket
  rw [Reading.run_get_bind, Reading.run_get_bind, hopt]
  refine (classOf hclass hk hkl hkl' s.options.casing).verbatim.mono ?_
  rintro n _ n' _ ⟨_, _, ⟨hn, hb, rfl, rfl⟩, rfl, rfl⟩
  exact ⟨hn, hb, rfl, rfl⟩

end Abreast

end SqlRegexp.Pattern
