import SqlRegexp.Proofs.Pattern.Abreast.Reference

/-!
Reading quantifiers and option letters abreast.
-/

namespace SqlRegexp.Pattern

open SqlRegexp.Text SqlRegexp.Unicode

namespace Abreast

variable {T : List Char → List Char → Prop} {s s' : Source}

theorem takeWhile (h : Paired T s s') {p : Char → Bool} (hp : ∀ c ∈ marks, p c = false) :
    Agrees T s s' (Reading.takeWhile p) := by
  obtain ⟨heq, ht⟩ := h.inStep.taken h.text hp
  unfold Agrees
  rw [Reading.run_takeWhile, Reading.run_takeWhile, h.skipping, heq]
  exact ⟨_, _, _, rfl, rfl, ht⟩

/-- The number that digits give does not depend on where they stand. -/
theorem run_optionalNumeral (digits : List Char) :
    (∃ n, ∀ s : Source, (Reading.optionalNumeral digits).run s = .ok (n, s)) ∨
      ∃ e, ∀ s : Source, (Reading.optionalNumeral digits).run s = .error (.numeral e) := by
  unfold Reading.optionalNumeral
  split
  · exact .inl ⟨none, fun _ => rfl⟩
  · cases readNatural digits with
    | ok n => exact .inl ⟨some n, fun _ => rfl⟩
    | error e => exact .inr ⟨e, fun _ => rfl⟩

theorem boundsOf (h : Paired T s s') (start start' : Nat) (low high : List Char) :
    Meets (Along T s s') ((Reading.boundsOf start low high).run s) ((Reading.boundsOf start' low high).run s') := by
  unfold Reading.boundsOf
  rcases run_optionalNumeral low with ⟨least, hl⟩ | ⟨e, he⟩
  · rw [Reading.run_bind_of_ok (hl s), Reading.run_bind_of_ok (hl s')]
    rcases run_optionalNumeral high with ⟨most, hm⟩ | ⟨e, he⟩
    · rw [Reading.run_bind_of_ok (hm s), Reading.run_bind_of_ok (hm s')]
      exact .either (fun _ => .refused _ _ _ _) fun _ => .either (fun _ => .refused _ _ _ _) fun _ => h.ok _
    · rw [Reading.run_bind_of_error (he s), Reading.run_bind_of_error (he s')]
      exact .numeral trivial
  · rw [Reading.run_bind_of_error (he s), Reading.run_bind_of_error (he s')]
    exact .numeral trivial

theorem upperDigits (h : Paired T s s') (comma : Bool) (low : List Char) :
    Agrees T s s' (Reading.upperDigits comma low) := by
  unfold Reading.upperDigits
  cases comma with
  | true => exact takeWhile h (eq_false_of_any (by decide))
  | false => exact ⟨low, s.rest, s'.rest, rfl, rfl, h.text⟩

theorem constraintsAhead (h : Paired T s s') :
    ∃ b, Reading.constraintsAhead.run s = .ok (b, s) ∧ Reading.constraintsAhead.run s' = .ok (b, s') := by
  obtain ⟨digits, u, v, hr, hr', ht⟩ := takeWhile h (p := isDecimal) (eq_false_of_any (by decide))
  unfold Reading.constraintsAhead
  rw [Reading.run_mark_bind, Reading.run_mark_bind, Reading.run_bind_of_ok hr, Reading.run_bind_of_ok hr',
    Reading.run_next_bind, Reading.run_next_bind]
  rcases (h.leaving ht).next with ⟨hu, hv⟩ | ⟨c, u', v', hu, hv, -⟩
  · have hletter : ∀ c ∈ marks, "<deis".toList.contains c = false := eq_false_of_any (by decide)
    refine ⟨false, ?_, ?_⟩
    · rw [← hu.any_head? hletter]
      rfl
    · rw [← hv.any_head? hletter]
      rfl
  · rw [hu, hv]
    exact ⟨_, rfl, rfl⟩

theorem braceBounds (h : Paired T s s') :
    Meets (Along T s s') (Reading.braceBounds.run s) (Reading.braceBounds.run s') := by
  obtain ⟨low, u₁, v₁, hr₁, hr₁', ht₁⟩ := takeWhile h (p := isDecimal) (eq_false_of_any (by decide))
  have h₁ := h.leaving ht₁
  obtain ⟨comma, u₂, v₂, hr₂, hr₂', ht₂⟩ := acceptChar h₁ (c := ',') (by decide)
  have h₂ := h₁.leaving ht₂
  obtain ⟨high, u₃, v₃, hr₃, hr₃', ht₃⟩ := upperDigits h₂ comma low
  have h₃ := h₂.leaving ht₃
  obtain ⟨closing, u₄, v₄, hr₄, hr₄', ht₄⟩ := acceptChar h₃ (c := '}') (by decide)
  unfold Reading.braceBounds
  rw [Reading.run_pos_bind, Reading.run_pos_bind, Reading.run_mark_bind, Reading.run_mark_bind,
    Reading.run_bind_of_ok hr₁, Reading.run_bind_of_ok hr₁', Reading.run_bind_of_ok hr₂, Reading.run_bind_of_ok hr₂',
    Reading.run_bind_of_ok hr₃, Reading.run_bind_of_ok hr₃', Reading.run_bind_of_ok hr₄, Reading.run_bind_of_ok hr₄']
  refine .either (fun _ => ?_) fun _ => boundsOf (h₃.leaving ht₄) _ _ low high
  -- no bounds: both are back behind the brace
  obtain ⟨b, hb, hb'⟩ := constraintsAhead h
  rw [Reading.run_rewind_bind, Reading.run_rewind_bind]
  show Meets _ ((Reading.constraintsAhead >>= _).run s) ((Reading.constraintsAhead >>= _).run s')
  rw [Reading.run_bind_of_ok hb, Reading.run_bind_of_ok hb']
  exact .either (fun _ => .refused _ _ _ _) fun _ => h.ok none

theorem bounds (h : Paired T s s') (c : Char) :
    Meets (Along T s s') ((Reading.bounds c).run s) ((Reading.bounds c).run s') := by
  unfold Reading.bounds
  split
  · exact h.ok _
  · exact h.ok _
  · exact h.ok _
  · exact braceBounds h

theorem run_quantified_of_stops (hs : Stops s.visible) (n : Node Reference) (b : Reading.Bounds) :
    (Reading.quantified n b).run s =
      .ok (if n.isTrivial || b == (1, some 1) then n else .times .greedy b.1 b.2 n, s) := by
  unfold Reading.quantified
  rw [Reading.run_mark_bind, Reading.run_next_bind]
  cases hd : s.visible.head? with
  | none => rfl
  | some c =>
    have hlazy : c ≠ '?' := fun he => hs.head?_ne (c := '?') (by decide) (he ▸ hd)
    have hatomic : c ≠ '+' := fun he => hs.head?_ne (c := '+') (by decide) (he ▸ hd)
    cases n.isTrivial || b == (1, some 1) <;> simp [hlazy, hatomic] <;> rfl

/-- A quantifier is applied alike. -/
theorem quantified (h : Paired T s s') {n n' : Node Reference} (hn : n.Counterpart n') (b : Reading.Bounds) :
    Meets (AlongBy Node.Counterpart T s s') ((Reading.quantified n b).run s) ((Reading.quantified n' b).run s') := by
  have hok {u v : List Char} (ht : T u v) {m m' : Node Reference} (hm : m.Counterpart m') :
      Meets (AlongBy Node.Counterpart T s s')
        (.ok (if n.isTrivial || b == (1, some 1) then n else m, s.leaving u))
        (.ok (if n'.isTrivial || b == (1, some 1) then n' else m', s'.leaving v)) := by
    refine .ok ⟨?_, u, v, rfl, rfl, ht⟩
    rw [hn.isTrivial]
    split
    · exact hn
    · exact hm
  rcases h.next with ⟨hu, hv⟩ | ⟨c, u, v, hu, hv, ht⟩
  · rw [run_quantified_of_stops hu, run_quantified_of_stops hv]
    exact hok h.text (hn.times .greedy b.1 b.2)
  · unfold Reading.quantified
    rw [Reading.run_mark_bind, Reading.run_mark_bind, Reading.run_next_bind, Reading.run_next_bind]
    rw [hu, hv, List.head?_cons, List.head?_cons, List.tail_cons, List.tail_cons]
    dsimp only
    split
    · next hc =>
      cases hc
      exact hok (ht (by decide)) (hn.times .lazy b.1 b.2)
    · next hc =>
      cases hc
      exact hok (ht (by decide)) (hn.times .greedy b.1 b.2).atomic
    · exact hok h.text (hn.times .greedy b.1 b.2)

theorem run_optionLetters_of_stops (hs : Stops s.visible) (limit : Nat) (o : Options) :
    (Reading.optionLetters limit o).run s = .ok (o, s) := by
  have hletter := hs.any_head? (p := fun c => (Reading.optionLetter? c).isSome) (eq_false_of_any (by decide))
  cases limit with
  | zero => rfl
  | succ limit =>
    rw [Reading.optionLetters, Reading.run_mark_bind, Reading.run_next_bind]
    cases hd : s.visible.head? with
    | none => rfl
    | some c =>
      rw [hd] at hletter
      have hnone : Reading.optionLetter? c = none := by simpa using hletter
      rw [Option.bind_some, hnone]
      rfl

/-- Option letters are read alike. -/
theorem optionLetters (h : Paired T s s') {limit limit' : Nat} (hlen : s.rest.length < limit)
    (hlen' : s'.rest.length < limit') (o : Options) :
    ∃ p u v, (Reading.optionLetters limit o).run s = .ok (p, s.leaving u) ∧
      (Reading.optionLetters limit' o).run s' = .ok (p, s'.leaving v) ∧ T u v := by
  have hletter : ∀ c ∈ marks, (Reading.optionLetter? c).isSome = false := eq_false_of_any (by decide)
  induction limit generalizing s s' limit' o with
  | zero => exact absurd hlen (Nat.not_lt_zero _)
  | succ limit ih =>
    -- the limits differ with the lengths, and each is enough for its text
    cases limit' with
    | zero => exact absurd hlen' (Nat.not_lt_zero _)
    | succ limit' =>
      have hback : ∃ p u v, (Except.ok (o, s) : Except Refusal _) = .ok (p, s.leaving u) ∧
          (Except.ok (o, s') : Except Refusal _) = .ok (p, s'.leaving v) ∧ T u v :=
        ⟨o, s.rest, s'.rest, rfl, rfl, h.text⟩
      rcases h.next with ⟨hu, hv⟩ | ⟨c, u, v, hu, hv, ht⟩
      · rw [run_optionLetters_of_stops hu, run_optionLetters_of_stops hv]
        exact hback
      · have hul := s.length_visible
        have hvl := s'.length_visible
        rw [hu, List.length_cons] at hul
        rw [hv, List.length_cons] at hvl
        rw [Reading.optionLetters, Reading.optionLetters, Reading.run_mark_bind, Reading.run_mark_bind,
          Reading.run_next_bind, Reading.run_next_bind, hu, hv, List.head?_cons, List.head?_cons, Option.bind_some]
        cases hc : Reading.optionLetter? c with
        | none => exact hback
        | some p =>
          have hmark : c ∉ marks := not_mem_marks hletter (by rw [hc]; rfl)
          have hlt : (s.leaving u).rest.length < limit := by rw [Source.leaving_rest]; omega
          have hlt' : (s'.leaving v).rest.length < limit' := by rw [Source.leaving_rest]; omega
          exact ih (h.leaving (ht hmark)) hlt hlt' (o.union p)

end Abreast

end SqlRegexp.Pattern
