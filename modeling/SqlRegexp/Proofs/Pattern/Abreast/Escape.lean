import SqlRegexp.Proofs.Pattern.Abreast.Basic

/-!
Reading escapes abreast: what readers of characters make of two texts that are in step.
-/

namespace SqlRegexp.Pattern

open SqlRegexp.Text SqlRegexp.Unicode

namespace Abreast

open Reading

variable {T : List Char → List Char → Prop} {s s' : Source}

theorem not_mem_marks {p : Char → Bool} (hp : ∀ c ∈ marks, p c = false) {c : Char} (h : p c = true) : c ∉ marks :=
  fun hc => absurd h (by rw [hp c hc]; exact Bool.false_ne_true)

theorem acceptChar (h : Paired T s s') {c : Char} (hc : c ∉ marks) : Agrees T s s' (acceptChar c) := by
  unfold Agrees
  rw [run_acceptChar, run_acceptChar]
  rcases h.next with ⟨hu, hv⟩ | ⟨d, u, v, hu, hv, ht⟩
  · rw [if_neg (hu.head?_ne hc), if_neg (hv.head?_ne hc)]
    exact ⟨false, s.rest, s'.rest, rfl, rfl, h.text⟩
  · rw [hu, hv, List.head?_cons, List.head?_cons]
    by_cases hd : some d = some c
    · rw [if_pos hd, if_pos hd]
      cases hd
      exact ⟨true, u, v, rfl, rfl, ht hc⟩
    · rw [if_neg hd, if_neg hd]
      exact ⟨false, s.rest, s'.rest, rfl, rfl, h.text⟩

theorem run_hexDigits_of_stops (hs : Stops s.visible) (letter : Char) (start width : Nat) (digits : List Char) :
    (Reading.hexDigits letter start (width + 1) digits).run s =
      .error (.malformed (.incompleteEscape letter digits) start) := by
  have hhex := hs.any_head? (p := fun c => (hexValue? c).isSome) (eq_false_of_any (by decide))
  rw [Reading.hexDigits, run_next_bind]
  cases hd : s.visible.head? with
  | none => rfl
  | some c =>
    rw [hd] at hhex
    exact congrArg (fun r : Reading (List Char) => r.run _) (if_neg (Bool.eq_false_iff.mp hhex))

theorem hexDigits (h : Paired T s s') (letter : Char) (start start' width : Nat) (digits : List Char) :
    Meets (Along T s s') ((hexDigits letter start width digits).run s)
      ((hexDigits letter start' width digits).run s') := by
  have hhex : ∀ c ∈ marks, (hexValue? c).isSome = false := eq_false_of_any (by decide)
  induction width generalizing s s' digits with
  | zero => exact h.ok digits
  | succ width ih =>
    rcases h.next with ⟨hu, hv⟩ | ⟨c, u, v, hu, hv, ht⟩
    · rw [run_hexDigits_of_stops hu, run_hexDigits_of_stops hv]
      exact .refused _ _ _ _
    · simp only [Reading.hexDigits, run_next_bind]
      rw [hu, hv]
      simp only [List.head?_cons, List.tail_cons]
      exact .either (fun hc => ih (h.leaving (ht (not_mem_marks hhex hc))) _) fun _ => .refused _ _ _ _

theorem hexEscape (h : Paired T s s') (letter : Char) (width : Nat) :
    Meets (Along T s s') ((hexEscape letter width).run s) ((hexEscape letter width).run s') := by
  unfold Reading.hexEscape
  simp only [run_pos_bind]
  refine (hexDigits h letter s.pos s'.pos width []).bind (fun digits => ?_) fun digits t digits' t' hd _ _ => ?_
  · split
    · exact (Onward.failAt _ _).bind fun _ => .pure _
    · exact .pure _
  · obtain ⟨rfl, u, v, rfl, rfl, ht⟩ := hd
    exact .either (fun _ => .refused _ _ _ _) fun _ => (h.leaving ht).ok _

theorem run_octalDigits_of_stops (hs : Stops s.visible) (width : Nat) :
    (Reading.octalDigits width).run s = .ok ([], s) := by
  have hoct := hs.any_head? (p := isOctal) (eq_false_of_any (by decide))
  cases width with
  | zero => rfl
  | succ width =>
    rw [Reading.octalDigits, run_mark_bind, run_next_bind]
    cases hd : s.visible.head? with
    | none => rfl
    | some c =>
      rw [hd] at hoct
      exact congrArg (fun r : Reading (List Char) => r.run _) (if_neg (Bool.eq_false_iff.mp hoct))

theorem octalDigits (h : Paired T s s') (width : Nat) : Agrees T s s' (octalDigits width) := by
  have hoct : ∀ c ∈ marks, isOctal c = false := eq_false_of_any (by decide)
  have hback : Agrees T s s' (Pure.pure [] : Reading (List Char)) := ⟨[], s.rest, s'.rest, rfl, rfl, h.text⟩
  induction width generalizing s s' with
  | zero => exact hback
  | succ width ih =>
    rcases h.next with ⟨hu, hv⟩ | ⟨c, u, v, hu, hv, ht⟩
    · exact ⟨[], s.rest, s'.rest, run_octalDigits_of_stops hu _, run_octalDigits_of_stops hv _, h.text⟩
    · unfold Agrees
      simp only [Reading.octalDigits, run_mark_bind, run_next_bind]
      rw [hu, hv]
      simp only [List.head?_cons, List.tail_cons]
      by_cases hc : isOctal c = true
      · have hnext := h.leaving (ht (not_mem_marks hoct hc))
        obtain ⟨ds, u', v', hr, hr', ht'⟩ := ih hnext ⟨[], u, v, rfl, rfl, hnext.text⟩
        rw [if_pos hc, if_pos hc, run_bind_of_ok hr, run_bind_of_ok hr']
        exact ⟨c :: ds, u', v', rfl, rfl, ht'⟩
      · rw [if_neg hc, if_neg hc]
        exact hback

theorem octalEscape (h : Paired T s s') (first : Char) :
    Meets (Along T s s') ((octalEscape first).run s) ((octalEscape first).run s') := by
  obtain ⟨ds, u, v, hr, hr', ht⟩ := octalDigits h 2
  unfold Reading.octalEscape
  rw [run_bind_of_ok hr, run_bind_of_ok hr']
  exact .either (fun _ => (h.leaving ht).ok _) fun _ => .refused _ _ _ _

theorem isNameChar_of_mem_marks : ∀ c ∈ marks, isNameChar c = false := eq_false_of_any (by decide)

theorem isValueChar_of_mem_marks : ∀ c ∈ marks, isValueChar c = false := eq_false_of_any (by decide)

/-- A name without a qualifier, where nothing follows that a reader of characters takes. -/
theorem run_propertyName_of_stops (hs : Stops (s.leaving (s.rest.dropWhile isNameChar)).visible) :
    Reading.propertyName.run s =
      .ok ((none, s.rest.takeWhile isNameChar), s.leaving (s.rest.dropWhile isNameChar)) := by
  have hsign := hs.any_head? (p := fun c => c == ':' || c == '=') (eq_false_of_any (by decide))
  unfold Reading.propertyName
  rw [run_takeWhileRaw_bind, run_mark_bind, run_next_bind]
  cases hd : (s.leaving (s.rest.dropWhile isNameChar)).visible.head? with
  | none => rfl
  | some c =>
    rw [hd] at hsign
    exact congrArg (fun r : Reading (Option (List Char) × List Char) => r.run _) (if_neg (Bool.eq_false_iff.mp hsign))

theorem propertyName (h : Paired T s s') : Agrees T s s' propertyName := by
  obtain ⟨hname, ht⟩ := h.inStep.alike.takeWhile isNameChar_of_mem_marks h.text
  rcases (h.leaving ht).next with ⟨hu, hv⟩ | ⟨c, u, v, hu, hv, ht'⟩
  · have hrun' := run_propertyName_of_stops hv
    rw [hname] at hrun'
    exact ⟨_, _, _, run_propertyName_of_stops hu, hrun', ht⟩
  · unfold Agrees Reading.propertyName
    simp only [run_takeWhileRaw_bind, run_mark_bind, run_next_bind]
    rw [hname, hu, hv]
    simp only [List.head?_cons, List.tail_cons]
    by_cases hc : (c == ':' || c == '=') = true
    · have hmark : c ∉ marks := not_mem_marks (p := fun c => c == ':' || c == '=') (eq_false_of_any (by decide)) hc
      obtain ⟨hvalue, ht''⟩ := h.inStep.alike.takeWhile isValueChar_of_mem_marks (ht' hmark)
      rw [if_pos hc, if_pos hc]
      rw [run_takeWhileRaw_bind, run_takeWhileRaw_bind, Source.leaving_rest (s.leaving _) u,
        Source.leaving_rest (s'.leaving _) v, hvalue]
      by_cases hempty : (trimBlanks (u.takeWhile isValueChar)).isEmpty = true
      · rw [if_pos hempty, if_pos hempty]
        exact ⟨_, _, _, rfl, rfl, ht⟩
      · rw [if_neg hempty, if_neg hempty]
        exact ⟨_, _, _, rfl, rfl, ht''⟩
    · rw [if_neg hc, if_neg hc]
      exact ⟨_, _, _, rfl, rfl, ht⟩

theorem namedProperty (h : Paired T s s') (name : Option (List Char) × List Char) (positive : Bool)
    (scope : Option Repertoire) (bracketed : Bool) :
    Meets (Along T s s') ((namedProperty name positive scope bracketed).run s)
      ((namedProperty name positive scope bracketed).run s') := by
  unfold Reading.namedProperty
  split
  · exact h.ok _
  · exact .refused _ _ _ _

theorem run_propertyEscape_of_stops (hs : Stops s.visible) (positive : Bool) :
    (Reading.propertyEscape positive).run s =
      .ok (.literal (if positive then 'p'.toNat else 'P'.toNat), s) := by
  have hletter := hs.any_head? (p := fun c => "CLMNPSZ".toList.contains c) (eq_false_of_any (by decide))
  have hbrace := hs.head?_ne (c := '\x7b') (by decide)
  unfold Reading.propertyEscape
  rw [run_mark_bind, run_get_bind, run_next_bind]
  generalize (if positive then 'p'.toNat else 'P'.toNat) = letter
  cases hd : s.visible.head? with
  | none => rfl
  | some c =>
    rw [hd] at hletter hbrace
    split
    · next he => exact absurd he hbrace
    · next he =>
      cases he
      exact congrArg (fun r : Reading Escaped => r.run _) (if_neg (Bool.eq_false_iff.mp hletter))
    · next he => cases he

theorem propertyEscape (h : Paired T s s') (positive : Bool) :
    Meets (Along T s s') ((propertyEscape positive).run s) ((propertyEscape positive).run s') := by
  have hback := h.ok (Escaped.literal (if positive then 'p'.toNat else 'P'.toNat))
  have hnamed {u v : List Char} (ht : T u v) (name : Option (List Char) × List Char) (positive : Bool)
      (scope : Option Repertoire) :
      Meets (Along T s s')
        ((Reading.namedProperty name positive scope false >>= fun t => pure (Escaped.property t)).run (s.leaving u))
        ((Reading.namedProperty name positive scope false >>= fun t => pure (Escaped.property t)).run (s'.leaving v)) :=
    (namedProperty (h.leaving ht) name positive scope false).bind (fun _ => .pure _)
      fun _ _ _ _ hp _ _ => .ok ⟨congrArg _ hp.1, hp.2⟩
  rcases h.next with ⟨hu, hv⟩ | ⟨c, u, v, hu, hv, ht⟩
  · rw [run_propertyEscape_of_stops hu, run_propertyEscape_of_stops hv]
    exact hback
  · unfold Reading.propertyEscape
    simp only [run_mark_bind, run_get_bind, run_next_bind, h.options]
    rw [hu, hv]
    simp only [List.head?_cons, List.tail_cons]
    split
    · next hc =>
      cases hc
      have hbrace := h.leaving (ht (by decide))
      obtain ⟨negated, u₁, v₁, hr₁, hr₁', ht₁⟩ := acceptChar hbrace (c := '^') (by decide)
      obtain ⟨name, u₂, v₂, hr₂, hr₂', ht₂⟩ := propertyName (hbrace.leaving ht₁)
      obtain ⟨found, u₃, v₃, hr₃, hr₃', ht₃⟩ := acceptChar ((hbrace.leaving ht₁).leaving ht₂) (c := '}') (by decide)
      rw [run_bind_of_ok hr₁, run_bind_of_ok hr₁', run_bind_of_ok hr₂, run_bind_of_ok hr₂', run_bind_of_ok hr₃,
        run_bind_of_ok hr₃']
      exact .either (fun _ => hnamed ht₃ _ _ _) fun _ => hback
    · next d _ hd =>
      cases hd
      refine .either (fun hc => hnamed (ht ?_) _ _ _) fun _ => hback
      exact not_mem_marks (p := fun c => "CLMNPSZ".toList.contains c) (eq_false_of_any (by decide)) hc
    · next hc => cases hc

theorem nameEscape (h : Paired T s s') : Meets (Along T s s') (nameEscape.run s) (nameEscape.run s') := by
  have hback := h.ok (Escaped.literal 'N'.toNat)
  obtain ⟨found, u₁, v₁, hr₁, hr₁', ht₁⟩ := acceptChar h (c := '{') (by decide)
  obtain ⟨hname, ht₂⟩ := h.inStep.alike.takeWhile
    (p := fun c => isLatinLetter c || isDecimal c || c == ' ' || c == '-') (eq_false_of_any (by decide)) ht₁
  obtain ⟨closing, u₃, v₃, hr₃, hr₃', ht₃⟩ := acceptChar (h.leaving ht₂) (c := '}') (by decide)
  unfold Reading.nameEscape
  rw [run_mark_bind, run_mark_bind, run_bind_of_ok hr₁, run_bind_of_ok hr₁']
  refine .either (fun _ => ?_) fun _ => hback
  rw [run_takeWhileRaw_bind, run_takeWhileRaw_bind, Source.leaving_rest, Source.leaving_rest, hname]
  generalize u₁.takeWhile (fun c => isLatinLetter c || isDecimal c || c == ' ' || c == '-') = name
  rw [Source.leaving_leaving, Source.leaving_leaving, run_bind_of_ok hr₃, run_bind_of_ok hr₃']
  refine .either (fun _ => ?_) fun _ => hback
  generalize codeNamed? name = code
  cases code with
  | some n => exact (h.leaving ht₃).ok _
  | none => exact .refused _ _ _ _

theorem commonEscape (h : Paired T s s') (c : Char) :
    Meets (Along T s s') ((commonEscape c).run s) ((commonEscape c).run s') := by
  unfold Reading.commonEscape
  split
  · simp only [run_get_bind, h.options]
    exact h.ok _
  · split
    · exact h.ok _
    · exact .either (fun _ => .refused _ _ _ _) fun _ => h.ok _

theorem memberEscape (h : Paired T s s') (c : Char) :
    Meets (Along T s s') ((memberEscape c).run s) ((memberEscape c).run s') := by
  have hliteral (n : Nat) (t : Source) (n' : Nat) (t' : Source) (ha : Along T s s' n t n' t') :
      Along T s s' (Escaped.literal n) t (Escaped.literal n') t' := ⟨congrArg _ ha.1, ha.2⟩
  unfold Reading.memberEscape
  split
  · exact (hexEscape h _ _).map hliteral
  · refine .either (fun _ => nameEscape h) fun _ => .either (fun _ => propertyEscape h _) fun _ => ?_
    exact .either (fun _ => (octalEscape h _).map hliteral) fun _ => commonEscape h _

end Abreast

end SqlRegexp.Pattern
