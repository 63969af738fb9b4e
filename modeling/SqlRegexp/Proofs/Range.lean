import SqlRegexp.Proofs.Functions

/-!
Where reported places lie.

The part of the subject that is searched begins at the position and ends with the subject, and every group of a match
lies in it (`locate_in_window`). So **a place that is reported lies between the position and the end of the subject**,
the place after the last character included (`places_in_range`). A position behind that place leaves an empty part to
search, which a pattern may match all the same; then the position itself is reported (`place_behind_end`).
-/

namespace SqlRegexp

/-- A number that has passed the check of an argument is one that the argument takes. -/
theorem admits_of_checked {a : Argument} {v : Value} {n : Nat} (h : (checked a v).result = .ok n) :
    a.admits n = true := by
  cases v with
  | null =>
    cases a <;> cases h <;> rfl
  | integer i =>
    by_cases hi : a.admits i = true
    · simp only [checked, Argument.checkOptional, Argument.check, hi, if_true, Narrated.result_ofResult] at h
      have hnonneg : 0 ≤ i := by cases a <;> simp [Argument.admits] at hi <;> omega
      cases h
      rwa [Int.toNat_of_nonneg hnonneg]
    · simp [checked, Argument.checkOptional, Argument.check, hi, Except.mapError] at h
  | _ => cases h

theorem one_le_of_checked {v : Value} {p : Nat} (h : (checked .position v).result = .ok p) : 1 ≤ p := by
  have hadmits := admits_of_checked h
  simp only [Argument.admits, decide_eq_true_eq] at hadmits
  omega

/-- **A reported place lies between the position and the end of the subject.** Where the start of an occurrence or of a
group is reported, its end is too, and neither is before the position or behind the place after the last character. If
the position itself is behind that place, both are the position. -/
theorem places_in_range [LawfulEngine] (policy : NewlinePolicy) (subject : List Char)
    (pattern parameter : Option (List Char)) {position : Value} (occurrence group : Value) {p s : Nat}
    (hposition : (checked .position position).result = .ok p)
    (hstart : (instr policy (some subject) pattern position occurrence (.integer 0) parameter group).result = .ok s)
    (hfound : s ≠ 0) :
    ∃ e, (instr policy (some subject) pattern position occurrence (.integer 1) parameter group).result = .ok e ∧
      p ≤ s ∧ s ≤ e ∧ e ≤ max (subject.length + 1) p := by
  have hone := one_le_of_checked hposition
  rw [instr_result, hposition] at hstart
  change Except.bind (checked .occurrence occurrence).result _ = _ at hstart
  obtain ⟨k, hoccurrence, hstart⟩ := exists_of_bind hstart
  obtain ⟨g, hgroup, hstart⟩ := exists_of_bind hstart
  change (locate _).result.map _ = _ at hstart
  have hstop : (checked .returnOption (.integer 1)).result = .ok 1 := checked_of_admits .returnOption (n := 1) rfl
  rw [instr_result_of_checked hposition hoccurrence hgroup hstop]
  cases hlocate : (locate ⟨some subject, pattern, p, k, g, Mode.ofParameter parameter true policy⟩).result with
  | error e =>
    rw [hlocate] at hstart
    cases hstart
  | ok found =>
    rw [hlocate] at hstart
    cases found with
    | none =>
      cases hstart
      exact absurd rfl hfound
    | some span =>
      -- what is left of the text behind the position may be nothing, hence the maximum
      obtain ⟨hlow, hhigh⟩ := locate_in_window rfl hlocate
      have hpos := span.start_pos
      cases hstart
      refine ⟨span.stop, rfl, ?_, Nat.le_add_right .., ?_⟩
      · show p ≤ span.start
        dsimp only at hlow
        omega
      · dsimp only at hhigh
        rw [SubjectSpan.stop]
        omega

attribute [local instance] Engine.lawfulReference in
theorem places_in_range_middle :
    ∃ e, (instr .uniform (some "xabab".toList) (some "b".toList) (.integer 2) (.integer 1) (.integer 1) none
        (.integer 0)).result = .ok e ∧
      2 ≤ 3 ∧ 3 ≤ e ∧ e ≤ max ("xabab".toList.length + 1) 2 :=
  have hposition : (checked .position (.integer 2)).result = .ok 2 := by decide +kernel
  places_in_range .uniform "xabab".toList (some "b".toList) none (.integer 1) (.integer 0) hposition
    (by decide +kernel) (by decide)

attribute [local instance] Engine.lawfulReference in
/-- An empty match is reported at a position behind the end of the subject. -/
theorem place_behind_end :
    (instr .uniform (some "abc".toList) (some "x*".toList) (.integer 10) (.integer 1) (.integer 0) none
        (.integer 0)).result = .ok 10 ∧
      (instr .uniform (some "abc".toList) (some "x*".toList) (.integer 10) (.integer 1) (.integer 1) none
        (.integer 0)).result = .ok 10 ∧
      "abc".toList.length + 1 < 10 :=
  ⟨by decide +kernel, by decide +kernel, by decide⟩

end SqlRegexp
