import SqlRegexp.Proofs.Pattern.Shifted

/-!
The numbered references that a scan finds, in any text.

A reference is read off the characters at its beginning: its spelling, and digit characters of whatever script
(`Spelling.found`). `exists_of_referenceAt?` says so of all that a scan finds, where the digits are no numeral too.
So there are two steps of the scan that renumbers (`shiftFrom_step`): a character is carried over, or digits are read
and the reference is written anew.
-/

namespace SqlRegexp.PatternText

open SqlRegexp.Text SqlRegexp.Unicode

/-- What a scan finds where digit characters follow a spelling. A call of group 0 calls the whole pattern. -/
def Spelling.found (s : Spelling) (digits : List Char) : Except NumeralError (Option Numbered) :=
  (readNatural digits).map fun n => if s = .call ∧ n = 0 then none else some ⟨s, n, (s.text digits).length⟩

/-- A reference that is found has the number that its digits denote. -/
theorem Spelling.of_found {s : Spelling} {ds : List Char} {r : Numbered} (h : s.found ds = .ok (some r)) :
    readNatural ds = .ok r.number ∧ r.spelling = s ∧ r.length = (s.text ds).length := by
  unfold found at h
  cases hn : readNatural ds with
  | error e =>
    rw [hn] at h
    cases h
  | ok n =>
    rw [hn] at h
    have hsome : ite _ _ _ = some r := Except.ok.inj h
    split at hsome
    · cases hsome
    · obtain rfl := Option.some.inj hsome
      exact ⟨rfl, rfl, rfl⟩

section Found

variable {ds u : List Char}

theorem exists_of_digitsBefore? {stop : Char} (h : digitsBefore? stop u = some ds) :
    isAllDigits ds = true ∧ ∃ v, u = ds ++ stop :: v := by
  unfold digitsBefore? at h
  dsimp only at h
  split at h
  · next hb =>
    obtain rfl := Option.some.inj h
    rw [Bool.and_eq_true] at hb
    obtain ⟨v, hv⟩ := List.head?_eq_some_iff.mp (eq_of_beq hb.2)
    rw [drop_length_takeWhile] at hv
    have hall : ∀ d ∈ u.takeWhile (fun c => isDigitChar c.toNat), isDigitChar d.toNat = true :=
      fun d hd => List.mem_takeWhile_imp (p := fun c : Char => isDigitChar c.toNat) hd
    refine ⟨Bool.and_eq_true_iff.mpr ⟨hb.1, List.all_eq_true.mpr hall⟩, v, ?_⟩
    rw [← hv, List.takeWhile_append_dropWhile]
  · cases h

theorem numbered_eq_found {s : Spelling} {taken : Nat} (hs : s ≠ .call)
    (hlength : (s.text ds).length = taken + ds.length + 1) : numbered s taken ds = s.found ds := by
  unfold numbered Spelling.found
  cases readNatural ds with
  | error e => rfl
  | ok n =>
    show Except.ok (some _) = Except.ok (ite _ _ _)
    rw [if_neg fun h => hs h.1, hlength]

theorem exists_of_afterBackslash? (h : afterBackslash? u ≠ .ok none) :
    ∃ (s : Spelling) (ds r : List Char),
      '\\' :: u = s.text ds ++ r ∧ isAllDigits ds = true ∧ afterBackslash? u = s.found ds := by
  unfold afterBackslash? at h ⊢
  split at h
  · next v =>
    cases hds : digitsBefore? '>' v with
    | none =>
      rw [hds] at h
      exact absurd rfl h
    | some ds =>
      obtain ⟨hall, w, rfl⟩ := exists_of_digitsBefore? hds
      refine ⟨.bracketed, ds, w, by simp [Spelling.text], hall, numbered_eq_found (by decide) ?_⟩
      simp [Spelling.text]
      omega
  · next c v _ =>
    split at h
    · next hc =>
      -- a second digit belongs to the number, a third does not
      have hfilter := take_one_filter (fun d => isDigitChar d.toNat) v
      obtain ⟨r, hr⟩ : (v.take 1).filter (fun d => isDigitChar d.toNat) <+: v := by
        rw [hfilter]
        exact (List.take_prefix 1 _).trans (List.takeWhile_prefix _)
      have hall : ∀ d ∈ c :: (v.take 1).filter (fun d => isDigitChar d.toNat), isDigitChar d.toNat = true :=
        List.forall_mem_cons.mpr ⟨isDigitChar_of_isDecimal hc.1, fun d hd => (List.mem_filter.mp hd).2⟩
      refine ⟨.backslash, c :: (v.take 1).filter (fun d => isDigitChar d.toNat), r, ?_, List.all_eq_true.mpr hall, ?_⟩
      · simp only [Spelling.text, List.cons_append, hr]
      · rw [if_pos hc]
        unfold Spelling.found
        simp [Spelling.text, Nat.add_comm]
    · exact absurd rfl h
  · exact absurd rfl h

theorem exists_of_afterQuestion? (h : afterQuestion? u ≠ .ok none) :
    ∃ (s : Spelling) (ds r : List Char),
      '(' :: '?' :: u = s.text ds ++ r ∧ isAllDigits ds = true ∧ afterQuestion? u = s.found ds := by
  by_cases hopen : u.head? = some '('
  · obtain ⟨v, rfl⟩ := List.head?_eq_some_iff.mp hopen
    rw [afterQuestion?] at h ⊢
    cases hds : digitsBefore? ')' v with
    | none =>
      rw [hds] at h
      exact absurd rfl h
    | some ds =>
      obtain ⟨hall, w, rfl⟩ := exists_of_digitsBefore? hds
      refine ⟨.condition, ds, w, by simp [Spelling.text], hall, numbered_eq_found (by decide) ?_⟩
      simp [Spelling.text]
      omega
  · rw [Pattern.afterQuestion?_of_ne hopen] at h ⊢
    cases hds : digitsBefore? ')' u with
    | none =>
      rw [hds] at h
      exact absurd rfl h
    | some ds =>
      obtain ⟨hall, w, rfl⟩ := exists_of_digitsBefore? hds
      refine ⟨.call, ds, w, by simp [Spelling.text], hall, ?_⟩
      dsimp only
      unfold numbered Spelling.found
      cases readNatural ds with
      | error e => rfl
      | ok n =>
        show Except.ok (ite _ _ _) = Except.ok (ite _ _ _)
        -- a call of group 0 is none by number, and so it is found under neither
        by_cases hn : n = 0
        · rw [if_pos hn, if_pos ⟨rfl, hn⟩]
        · rw [if_neg hn, if_neg fun h => hn h.2]
          simp [Spelling.text]
          omega

/-- **What a scan finds stands in the text**: a spelling with digit characters, whether they are a numeral or not. -/
theorem exists_of_referenceAt? (h : referenceAt? u ≠ .ok none) :
    ∃ (s : Spelling) (ds r : List Char), u = s.text ds ++ r ∧ isAllDigits ds = true ∧ referenceAt? u = s.found ds := by
  unfold referenceAt? at h ⊢
  split at h
  · exact exists_of_afterBackslash? h
  · exact exists_of_afterQuestion? h
  · exact absurd rfl h

end Found

/-! ### One step of the scan that renumbers -/

section Step

variable {offset : Int} {place : Place} {c : Char} {u : List Char}

/-- Nothing is written where the digits of a reference are no numeral. -/
theorem shiftFrom_of_error {e : NumeralError} (h : referenceAt? u = .error e) :
    shiftFrom offset 0 .outside u = .error e := by
  cases u with
  | nil => cases h
  | cons c u =>
    rw [shiftFrom, if_pos rfl, h]
    rfl

/-- **A step of the scan**: a character is carried over, or a reference is read, written anew and passed. -/
theorem shiftFrom_step (offset : Int) (place : Place) (c : Char) (u : List Char) :
    ((place = .outside → referenceAt? (c :: u) = .ok none) ∧
        shiftFrom offset 0 place (c :: u) = (shiftFrom offset 0 (place.next c) u).map (c :: ·)) ∨
      place = .outside ∧ ∃ (s : Spelling) (ds v : List Char), c :: u = s.text ds ++ v ∧ isAllDigits ds = true ∧
        shiftFrom offset 0 place (c :: u) = (readNatural ds).bind fun n => (s.write (n + offset)).bind fun text =>
          (shiftFrom offset 0 .outside v).map (text ++ ·) := by
  -- either nothing is found here, or the scan is outside classes and finds a number
  by_cases hnone : place = .outside → referenceAt? (c :: u) = .ok none
  · exact .inl ⟨hnone, shiftFrom_of_none hnone⟩
  obtain ⟨rfl, hsome⟩ := Classical.not_imp.mp hnone
  obtain ⟨s, ds, v, htext, hds, hfound⟩ := exists_of_referenceAt? hsome
  refine .inr ⟨rfl, s, ds, v, htext, hds, ?_⟩
  cases hr : referenceAt? (c :: u) with
  | error e =>
    rw [shiftFrom_of_error hr]
    rw [hr] at hfound
    unfold Spelling.found at hfound
    cases hn : readNatural ds with
    | error e' =>
      rw [hn] at hfound
      cases hfound
      rfl
    | ok n =>
      rw [hn] at hfound
      cases hfound
  | ok r? =>
    cases r? with
    | none => exact absurd hr hsome
    | some r =>
      obtain ⟨hn, rfl, hlength⟩ := Spelling.of_found (hfound.symm.trans hr)
      cases hcs : r.spelling.text ds with
      | nil => cases hspelling : r.spelling <;> rw [hspelling] at hcs <;> cases hcs
      | cons c' cs =>
        rw [hcs, List.cons_append] at htext
        rw [hcs, List.length_cons] at hlength
        rw [htext] at hr ⊢
        rw [shiftFrom_reference hr hlength, hn]
        rfl

end Step

end SqlRegexp.PatternText
