import SqlRegexp.Proofs.Failures
import SqlRegexp.Proofs.Pattern.Literal
import SqlRegexp.Proofs.Pattern.Numbered

/-!
Where the references of a pattern cannot be renumbered.

A scan takes digit characters of every script for a number, and some of them have no value as a digit: superscripts,
say. If the runs of digit characters are short (`ShortNumerals`), then **renumbering fails only at such a reference, or
where the new number is too large to be written** (`fails_of_shiftFrom_error`). If all digits of references have values
(`HasValues`), every number is read, and no search fails at a number in the text of its pattern
(`renumbering_fails_only_at_digits`).
-/

namespace SqlRegexp

open SqlRegexp.Text SqlRegexp.Unicode

namespace PatternText

/-- All runs of digit characters are shorter than the longest numeral. -/
def ShortNumerals (pattern : List Char) : Prop :=
  ∀ ds, ds <:+: pattern → isAllDigits ds = true → ds.length < digitLimit

/-- The digits of every reference have values. -/
def HasValues (pattern : List Char) : Prop :=
  ∀ (s : Spelling) (ds : List Char), s.text ds <:+: pattern → isAllDigits ds = true →
    ∀ d ∈ ds, (digitOf? d).isSome = true

theorem ShortNumerals.of_length {pattern : List Char} (h : pattern.length < digitLimit) : ShortNumerals pattern :=
  fun _ hds _ => Nat.lt_of_le_of_lt hds.length_le h

theorem ShortNumerals.part {pattern part : List Char} (h : ShortNumerals pattern) (hpart : part <:+: pattern) :
    ShortNumerals part :=
  fun ds hds => h ds (hds.trans hpart)

theorem HasValues.of_all {pattern : List Char}
    (h : pattern.all (fun c => !isDigitChar c.toNat || (digitOf? c).isSome) = true) : HasValues pattern := by
  intro s ds hds hall d hd
  have hmem : d ∈ pattern := by
    refine hds.subset ?_
    cases s <;> simp [Spelling.text, hd]
  have hdigit : isDigitChar d.toNat = true := List.all_eq_true.mp (Bool.and_eq_true_iff.mp hall).2 d hd
  have hor := List.all_eq_true.mp h d hmem
  rwa [hdigit] at hor

/-! ### Numbers in a pattern -/

section Numbers

variable {pattern ds : List Char} {s : Spelling}

theorem infix_text (s : Spelling) (ds : List Char) : ds <:+: s.text ds := by
  cases s with
  | backslash => exact (List.suffix_cons _ _).isInfix
  | bracketed => exact ⟨"\\g<".toList, ['>'], rfl⟩
  | condition => exact ⟨"(?(".toList, [')'], rfl⟩
  | call => exact ⟨"(?".toList, [')'], rfl⟩

/-- A short run of digit characters is read, unless one of them has no value. -/
theorem ShortNumerals.readNatural_eq (h : ShortNumerals pattern) (hs : s.text ds <:+: pattern)
    (hds : isAllDigits ds = true) :
    readNatural ds = if ds.all fun d => (digitOf? d).isSome then .ok (ofDigits 10 (ds.filterMap digitOf?))
      else .error (.malformed 10 ds) :=
  readNatural_of_isAllDigits hds (Nat.le_of_lt (h ds ((infix_text s ds).trans hs) hds))

/-- The number of a short run of digit characters has at most as many digits. -/
theorem ShortNumerals.number_lt (h : ShortNumerals pattern) (hs : s.text ds <:+: pattern)
    (hds : isAllDigits ds = true) : ofDigits 10 (ds.filterMap digitOf?) < 10 ^ (digitLimit - 1) := by
  have hlength := h ds ((infix_text s ds).trans hs) hds
  have hle : (ds.filterMap digitOf?).length ≤ digitLimit - 1 :=
    Nat.le_trans (List.length_filterMap_le digitOf? ds) (Nat.le_sub_one_of_lt hlength)
  have hdigit : ∀ d ∈ ds.filterMap digitOf?, d < 10 := by
    intro d hd
    obtain ⟨c, -, hc⟩ := List.mem_filterMap.mp hd
    exact decimalDigit?_lt hc
  exact Nat.lt_of_lt_of_le (ofDigits_lt hdigit) (Nat.pow_le_pow_right (by decide) hle)

/-- Only a number with too many digits cannot be written. -/
theorem of_write_error {n : Nat} {e : NumeralError} (h : s.write n = .error e) :
    e = .tooLarge ∧ 10 ^ digitLimit ≤ n := by
  change writeNatural n >>= _ = Except.error e at h
  by_cases hn : n < 10 ^ digitLimit
  · rw [writeNatural_eq hn] at h
    cases h
  · rw [writeNatural_tooLarge hn] at h
    cases h
    exact ⟨rfl, Nat.not_lt.mp hn⟩

/-- The failure of a reference in a text that has a digit without a value. -/
inductive MalformedIn (text : List Char) : NumeralError → Prop
  | intro {s : Spelling} {ds : List Char} {d : Char} (hs : s.text ds <:+: text) (hds : isAllDigits ds = true)
    (hd : d ∈ ds) (hvalue : digitOf? d = none) : MalformedIn text (.malformed 10 ds)

/-- A reference in a text, all of whose digits have values, denotes a number that is too large for an offset. -/
def LargeIn (text : List Char) (offset : Nat) : Prop :=
  ∃ (s : Spelling) (ds : List Char), s.text ds <:+: text ∧ isAllDigits ds = true ∧
    (∀ d ∈ ds, (digitOf? d).isSome = true) ∧ 10 ^ digitLimit ≤ ofDigits 10 (ds.filterMap digitOf?) + offset

variable {offset : Nat} {e : NumeralError}

theorem MalformedIn.mono {part : List Char} (h : MalformedIn part e) (hpart : part <:+: pattern) :
    MalformedIn pattern e := by
  obtain ⟨hs, hds, hd, hvalue⟩ := h
  exact ⟨hs.trans hpart, hds, hd, hvalue⟩

theorem LargeIn.mono {part : List Char} (h : LargeIn part offset) (hpart : part <:+: pattern) :
    LargeIn pattern offset := by
  obtain ⟨s, ds, hs, hlarge⟩ := h
  exact ⟨s, ds, hs.trans hpart, hlarge⟩

theorem HasValues.not_malformedIn (h : HasValues pattern) : ¬ MalformedIn pattern e := by
  rintro ⟨hs, hds, hd, hvalue⟩
  have hsome := h _ _ hs hds _ hd
  rw [hvalue] at hsome
  cases hsome

/-- No number of a short run of digits is too large for an offset that leaves room for one more digit. -/
theorem ShortNumerals.not_largeIn (h : ShortNumerals pattern)
    (hoffset : 10 ^ (digitLimit - 1) + offset ≤ 10 ^ digitLimit) : ¬ LargeIn pattern offset := by
  rintro ⟨s, ds, hs, hds, -, hlarge⟩
  have hlt := h.number_lt hs hds
  omega

/-- An offset of up to a million leaves room for one more digit. -/
theorem le_pow_digitLimit (h : offset ≤ 10 ^ 6) : 10 ^ (digitLimit - 1) + offset ≤ 10 ^ digitLimit := by
  obtain ⟨k, hk⟩ : ∃ k, digitLimit = k + 1 := ⟨4299, rfl⟩
  have hsix : 6 ≤ k := by
    rw [digitLimit] at hk
    omega
  have hpow : 10 ^ 6 ≤ 10 ^ k := Nat.pow_le_pow_right (by decide) hsix
  rw [hk, Nat.add_sub_cancel, Nat.pow_succ]
  omega

/-- Digits of a reference that cannot be read. -/
theorem ShortNumerals.malformedIn_of_error (h : ShortNumerals pattern) (hs : s.text ds <:+: pattern)
    (hds : isAllDigits ds = true) (he : readNatural ds = .error e) : MalformedIn pattern e := by
  rw [h.readNatural_eq hs hds] at he
  split at he
  · cases he
  · next hvalues =>
    obtain ⟨d, hd, hvalue⟩ := by simpa using hvalues
    cases he
    exact ⟨hs, hds, hd, hvalue⟩

/-- A reference that is read and cannot be written anew. -/
theorem ShortNumerals.largeIn_of_write (h : ShortNumerals pattern) (hs : s.text ds <:+: pattern)
    (hds : isAllDigits ds = true) {n : Nat} (hread : readNatural ds = .ok n)
    (hwrite : s.write (n + offset : Nat) = .error e) : e = .tooLarge ∧ LargeIn pattern offset := by
  obtain ⟨rfl, hlarge⟩ := of_write_error hwrite
  rw [h.readNatural_eq hs hds] at hread
  split at hread
  · next hvalues =>
    cases hread
    exact ⟨rfl, s, ds, hs, hds, List.all_eq_true.mp hvalues, hlarge⟩
  · cases hread

/-- **Digits are read wherever a scan may be**, unless one of them has no value. -/
theorem ShortNumerals.malformedIn_of_referenceAt? (h : ShortNumerals pattern) {u : List Char} (hu : u <:+ pattern)
    (he : referenceAt? u = .error e) : MalformedIn pattern e := by
  obtain ⟨s, ds, v, rfl, hds, hfound⟩ := exists_of_referenceAt? (u := u) (by rw [he]; exact fun h => nomatch h)
  have hs : s.text ds <:+: pattern := (List.prefix_append _ v).isInfix.trans hu.isInfix
  exact h.malformedIn_of_error hs hds (error_of_map (hfound.symm.trans he))

/-- **A scan that renumbers fails only at a reference in the text.** -/
theorem fails_of_shiftFrom_error {place : Place} {u : List Char} (hshort : ShortNumerals u)
    (h : shiftFrom offset 0 place u = .error e) : MalformedIn u e ∨ e = .tooLarge ∧ LargeIn u offset := by
  induction hn : u.length using Nat.strong_induction_on generalizing place u with
  | h n ih =>
    cases u with
    | nil => cases h
    | cons c u =>
      -- What is left of the text after a step fails as the induction says.
      have hrest {place : Place} {v : List Char} (hv : v <:+ c :: u) (hlt : v.length < n)
          (he : shiftFrom offset 0 place v = .error e) :
          MalformedIn (c :: u) e ∨ e = .tooLarge ∧ LargeIn (c :: u) offset := by
        rcases ih v.length hlt (hshort.part hv.isInfix) he rfl with hmalformed | ⟨he, hlarge⟩
        · exact .inl (hmalformed.mono hv.isInfix)
        · exact .inr ⟨he, hlarge.mono hv.isInfix⟩
      rcases shiftFrom_step offset place c u with ⟨-, hstep⟩ | ⟨-, s, ds, v, htext, hds, hstep⟩
      · rw [hstep] at h
        exact hrest (List.suffix_cons c u) (by rw [← hn, List.length_cons]; omega) (error_of_map h)
      · have hs : s.text ds <:+: c :: u := htext ▸ (List.prefix_append _ v).isInfix
        rw [hstep] at h
        rcases error_of_bind h with hread | ⟨m, hread, h⟩
        · exact .inl (hshort.malformedIn_of_error hs hds hread)
        · rcases error_of_bind h with hwrite | ⟨text, -, htail⟩
          · exact .inr (hshort.largeIn_of_write hs hds hread hwrite)
          · have hlength := congrArg List.length htext
            have hpos : 0 < (s.text ds).length := by cases s <;> simp [Spelling.text]
            rw [List.length_append] at hlength
            exact hrest (htext ▸ List.suffix_append _ v) (by omega) (error_of_map htail)

/-- Only a digit without a value keeps a pattern from being enclosed. -/
theorem ShortNumerals.malformedIn_of_enclose (h : ShortNumerals pattern) (he : enclose pattern = .error e) :
    MalformedIn pattern e := by
  have hshift : shiftFrom (1 : Nat) 0 .outside pattern = .error e := by
    change shiftReferences pattern 1 = .error e
    unfold enclose at he
    cases hv : shiftReferences pattern 1 with
    | error e' =>
      rw [hv] at he
      cases he
      rfl
    | ok v =>
      rw [hv] at he
      cases he
  rcases fails_of_shiftFrom_error h hshift with hmalformed | ⟨-, hlarge⟩
  · exact hmalformed
  · exact absurd hlarge (h.not_largeIn (le_pow_digitLimit (by decide)))

end Numbers

end PatternText

/-! ### Calls -/

section Calls

open SqlRegexp.PatternText

variable {policy : NewlinePolicy} {subject pattern parameter : Option (List Char)}
  {position occurrence group returnOption : Value} {n : NumeralError}

/-- No argument is refused for a number in a pattern: that is a failure of what is done with the checked argument. -/
theorem exists_of_checked_bind {α : Type} {a : Argument} {v : Value} {f : Nat → Except CallError α}
    (h : (checked a v).result.bind f = .error (.numeral n)) : ∃ k, f k = .error (.numeral n) := by
  rcases error_of_bind h with h | ⟨k, -, h⟩
  · rw [checked, Narrated.result_ofResult] at h
    obtain ⟨e, -, he⟩ := error_of_mapError h
    cases he
  · exact ⟨k, h⟩

/-- A call fails at a number only where the pattern that it searches for cannot be enclosed. -/
theorem enclose_error_of_instr [LawfulEngine]
    (h : (instr policy subject pattern position occurrence returnOption parameter group).result = .error (.numeral n)) :
    ∃ given, pattern = some given ∧ enclose ((Mode.ofParameter parameter true policy).literalOr given) = .error n := by
  rw [instr_result] at h
  obtain ⟨i, h⟩ := exists_of_checked_bind h
  obtain ⟨k, h⟩ := exists_of_checked_bind h
  obtain ⟨g, h⟩ := exists_of_checked_bind h
  obtain ⟨r, h⟩ := exists_of_checked_bind h
  exact enclose_error_of_locate (error_of_map h)

theorem enclose_error_of_substr [LawfulEngine]
    (h : (substr policy subject pattern position occurrence parameter group).result = .error (.numeral n)) :
    ∃ given, pattern = some given ∧ enclose ((Mode.ofParameter parameter true policy).literalOr given) = .error n := by
  rw [substr_result] at h
  obtain ⟨i, h⟩ := exists_of_checked_bind h
  obtain ⟨k, h⟩ := exists_of_checked_bind h
  obtain ⟨g, h⟩ := exists_of_checked_bind h
  exact enclose_error_of_locate (error_of_map h)

/-- A text that is searched for literally has no references. -/
theorem enclose_error_of_literalOr {m : Mode} {given : List Char} (h : enclose (m.literalOr given) = .error n) :
    enclose given = .error n := by
  unfold Mode.literalOr at h
  split at h
  · rw [enclose_escapeLiteral] at h
    cases h
  · exact h

/-- **Renumbering fails only at digits without a value.** In a pattern with short runs of digit characters, the numbers
that are read, wherever a scan may be, are digit characters, and they are refused only for a digit without a value. So
references cannot be moved for no other reason, but for an offset that leads to a number too large to be written. A
search fails at a number in the text of its pattern only for such a digit: if all digits of references have values,
every pattern can be enclosed, and no search fails that way. -/
theorem renumbering_fails_only_at_digits [LawfulEngine] (pattern : List Char) (hshort : ShortNumerals pattern) :
    (∀ u, u <:+ pattern → ∀ e, referenceAt? u = .error e → MalformedIn pattern e) ∧
      (∀ (offset : Nat) (e : NumeralError), shiftReferences pattern offset = .error e →
        MalformedIn pattern e ∨ e = .tooLarge ∧ LargeIn pattern offset) ∧
      (∀ (policy : NewlinePolicy) (subject parameter : Option (List Char))
          (position occurrence returnOption group : Value) (n : NumeralError),
        (instr policy subject (some pattern) position occurrence returnOption parameter group).result =
            .error (.numeral n) ∨
          (substr policy subject (some pattern) position occurrence parameter group).result = .error (.numeral n) →
        MalformedIn pattern n) ∧
      (HasValues pattern →
        (∀ u, u <:+ pattern → ∃ r?, referenceAt? u = .ok r?) ∧
        (∀ offset : Nat, 10 ^ (digitLimit - 1) + offset ≤ 10 ^ digitLimit →
          ∃ v, shiftReferences pattern offset = .ok v) ∧
        ∀ (policy : NewlinePolicy) (subject parameter : Option (List Char))
          (position occurrence returnOption group : Value) (n : NumeralError),
          (instr policy subject (some pattern) position occurrence returnOption parameter group).result ≠
              .error (.numeral n) ∧
            (substr policy subject (some pattern) position occurrence parameter group).result ≠
              .error (.numeral n)) := by
  have hread : ∀ u, u <:+ pattern → ∀ e, referenceAt? u = .error e → MalformedIn pattern e :=
    fun u hu e he => hshort.malformedIn_of_referenceAt? hu he
  have hshift : ∀ (offset : Nat) (e : NumeralError), shiftReferences pattern offset = .error e →
      MalformedIn pattern e ∨ e = .tooLarge ∧ LargeIn pattern offset :=
    fun offset e he => fails_of_shiftFrom_error hshort he
  have hcall {n : NumeralError} {m : Mode}
      (h : ∃ given, some pattern = some given ∧ enclose (m.literalOr given) = .error n) : MalformedIn pattern n := by
    obtain ⟨given, hgiven, henclose⟩ := h
    cases hgiven
    exact hshort.malformedIn_of_enclose (enclose_error_of_literalOr henclose)
  refine ⟨hread, hshift, ?_, fun hvalues => ⟨fun u hu => ?_, fun offset hoffset => ?_, ?_⟩⟩
  · rintro policy subject parameter position occurrence returnOption group n (h | h)
    · exact hcall (enclose_error_of_instr h)
    · exact hcall (enclose_error_of_substr h)
  · cases hr : referenceAt? u with
    | ok r? => exact ⟨r?, rfl⟩
    | error e => exact absurd (hread u hu e hr) hvalues.not_malformedIn
  · cases hv : shiftReferences pattern offset with
    | ok v => exact ⟨v, rfl⟩
    | error e =>
      rcases hshift offset e hv with hmalformed | ⟨-, hlarge⟩
      · exact absurd hmalformed hvalues.not_malformedIn
      · exact absurd hlarge (hshort.not_largeIn hoffset)
  · intro policy subject parameter position occurrence returnOption group n
    exact ⟨fun h => hvalues.not_malformedIn (hcall (enclose_error_of_instr h)),
      fun h => hvalues.not_malformedIn (hcall (enclose_error_of_substr h))⟩

/-- A pattern in which numbers of groups are written with more digits than they need. -/
def paddedNumbers : List Char := "(a)(b)\\g<0001>(?(02)\\02)(?001)".toList

attribute [local instance] Engine.lawfulReference in
theorem renumbering_fails_only_at_digits_padded :
    ShortNumerals paddedNumbers ∧ HasValues paddedNumbers ∧
      (∃ v, shiftReferences paddedNumbers 1000000 = .ok v) ∧
      ∀ n, (instr .uniform (some "abaa".toList) (some paddedNumbers) (.integer 1) (.integer 1) (.integer 0) none
        (.integer 0)).result ≠ .error (.numeral n) := by
  have hlength : paddedNumbers.length < 100 := by decide
  have hshort : ShortNumerals paddedNumbers := .of_length (Nat.lt_trans hlength (by rw [digitLimit]; omega))
  have hvalues : HasValues paddedNumbers := .of_all (by decide)
  obtain ⟨-, -, -, h⟩ := renumbering_fails_only_at_digits paddedNumbers hshort
  obtain ⟨-, hshift, hcalls⟩ := h hvalues
  exact ⟨hshort, hvalues, hshift 1000000 (le_pow_digitLimit (by decide)), fun n => (hcalls _ _ _ _ _ _ _ n).1⟩

attribute [local instance] Engine.lawfulReference in
/-- A reference with a superscript after its digit is no numeral: nothing is found by the pattern that is counted. -/
theorem renumbering_fails_at_superscript :
    ShortNumerals "(a)\\1²*".toList ∧ shiftReferences "(a)\\1²*".toList 1 = .error (.malformed 10 "1²".toList) ∧
      (like .uniform (some "aa".toList) (some "(a)\\1²*".toList) none).result = .ok true ∧
      (count .uniform (some "aa".toList) (some "(a)\\1²*".toList) (.integer 1) none).result = .ok 1 ∧
      (instr .uniform (some "aa".toList) (some "(a)\\1²*".toList) (.integer 1) (.integer 1) (.integer 0) none
        (.integer 0)).result = .error (.numeral (.malformed 10 "1²".toList)) := by
  have hdigits : isAllDigits "1²".toList = true := by
    show (!false && (isDigitChar 0x31 && (isDigitChar 0xB2 && true))) = true
    rw [superscript_two.1]
    rfl
  have hread : readNatural "1²".toList = .error (.malformed 10 "1²".toList) := by
    rw [readNatural_of_isAllDigits hdigits (by rw [digitLimit]; decide)]
    -- the superscript is a digit by its kind, and without a value
    refine if_neg fun hvalues => ?_
    have hsome : (digitOf? '²').isSome = true := List.all_eq_true.mp hvalues '²' (by decide)
    have hnone : digitOf? '²' = none := superscript_two.2
    rw [hnone] at hsome
    cases hsome
  have hreference : referenceAt? "\\1²*".toList = .error (.malformed 10 "1²".toList) := by
    have hone : (['²', '*'].take 1).filter (fun d => isDigitChar d.toNat) = ['²'] := by
      rw [List.take_succ_cons, List.take_zero]
      exact List.filter_eq_self.mpr fun d hd => by rw [List.mem_singleton.mp hd]; exact superscript_two.1
    rw [show "\\1²*".toList = ['\\', '1', '²', '*'] from rfl, referenceAt?, afterBackslash?, if_pos (by decide)]
    · dsimp only
      rw [hone]
      exact congrArg (Except.map _) hread
    · intro cs hcs
      cases hcs
  have hshift : shiftReferences "(a)\\1²*".toList 1 = .error (.malformed 10 "1²".toList) := by
    show shiftFrom 1 0 .outside ('(' :: 'a' :: ')' :: "\\1²*".toList) = _
    rw [shiftFrom_of_none fun _ => rfl, shiftFrom_of_none fun _ => rfl, shiftFrom_of_none fun _ => rfl]
    show (((shiftFrom 1 0 .outside "\\1²*".toList).map _).map _).map _ = _
    rw [shiftFrom_of_error hreference]
    rfl
  have henclose : enclose "(a)\\1²*".toList = .error (.malformed 10 "1²".toList) := by
    rw [enclose, hshift]
    rfl
  refine ⟨.of_length (by rw [digitLimit]; decide), hshift, by decide +kernel, by decide +kernel, ?_⟩
  rw [instr_result_of_checked rfl rfl rfl rfl, locate_result rfl rfl]
  show ((forGroup "(a)\\1²*".toList 0).result.bind _).map _ = _
  rw [forGroup, PatternText.forGroup, if_pos rfl, henclose]
  rfl

end Calls

end SqlRegexp
