import Mathlib.Tactic.Common
import SqlRegexp.Unicode.Digit
import SqlRegexp.Unicode.Space

/-!
Digit characters of all scripts.

What governs a code point in a table is an entry of the table that is not above it (`of_governing?`). So a code point
is a digit character only if one of the entries says so, and **no digit character is a blank** (`not_isBlank`): a run of
digit characters has nothing to be trimmed.
-/

namespace SqlRegexp.Unicode

open SqlRegexp.Text

/-! ### Tables -/

theorem of_lastAtMost {α : Type} {xs : Array α} {key : α → Nat} {n fuel lo hi : Nat} {x : α}
    (hlo : ∀ y, lo ≠ 0 → xs[lo - 1]? = some y → key y ≤ n) (h : lastAtMost xs key n fuel lo hi = some x) :
    x ∈ xs ∧ key x ≤ n := by
  have hlast {lo : Nat} (hlo : ∀ y, lo ≠ 0 → xs[lo - 1]? = some y → key y ≤ n)
      (hx : (if lo = 0 then none else xs[lo - 1]?) = some x) : x ∈ xs ∧ key x ≤ n := by
    split at hx
    · cases hx
    · next hne => exact ⟨Array.mem_of_getElem? hx, hlo x hne hx⟩
  -- what is below the lower end is not above `n`, whichever half is kept
  induction fuel generalizing lo hi with
  | zero => exact hlast hlo h
  | succ fuel ih =>
    rw [lastAtMost] at h
    split at h
    · dsimp only at h
      split at h
      · next y hy =>
        split at h
        · next hkey =>
          refine ih (fun z _ hz => ?_) h
          rw [Nat.add_sub_cancel, hy] at hz
          cases hz
          exact hkey
        · exact ih hlo h
      · cases h
    · exact hlast hlo h

/-- What governs a number is an entry of the table that is not above it. -/
theorem of_governing? {α : Type} {xs : Array α} {key : α → Nat} {n : Nat} {x : α}
    (h : governing? xs key n = some x) : x ∈ xs ∧ key x ≤ n :=
  of_lastAtMost (fun _ hne => absurd rfl hne) h

/-- A number in one of the ranges of a table. -/
theorem exists_of_inRanges {rs : Array Range} {n : Nat} (h : inRanges rs n = true) : ∃ r ∈ rs, r.contains n = true := by
  unfold inRanges at h
  split at h
  · next r hr => exact ⟨r, (of_governing? hr).1, h⟩
  · cases h

/-- The words of a table that is written as a text. -/
theorem words_eq {s : String} {cs : List Char} (h : s = String.ofList cs) : words s = wordsOf cs := by
  rw [words, h, String.toList_ofList]

/-! ### Digit characters -/

/-- The blanks outside the Western repertoire of 128 characters. -/
def wideBlanks : List Nat :=
  [0x85, 0xA0, 0x1680, 0x2000, 0x2001, 0x2002, 0x2003, 0x2004, 0x2005, 0x2006, 0x2007, 0x2008, 0x2009, 0x200A, 0x2028,
    0x2029, 0x202F, 0x205F, 0x3000]

section Digit

variable {n : Nat}

theorem mem_wideBlanks (h : isBlank n = true) (hwide : 0x80 ≤ n) : n ∈ wideBlanks := by
  simp only [isBlank, isWhiteSpace, Bool.or_eq_true, decide_eq_true_eq, beq_iff_eq] at h
  simp only [wideBlanks, List.mem_cons, List.not_mem_nil, or_false]
  omega

set_option maxRecDepth 10000 in
theorem decimalZeros_wideBlanks : ∀ low ∈ decimalZeros, ∀ n ∈ wideBlanks, low ≤ n → low + 10 ≤ n := by
  have hall : decimalZeros.toList.all
      (fun low => wideBlanks.all fun n => !decide (low ≤ n) || decide (low + 10 ≤ n)) = true := by
    unfold decimalZeros
    rw [words_eq (s := decimalZeros.table) rfl]
    decide +kernel
  intro low hlow n hn hle
  have hn := List.all_eq_true.mp (List.all_eq_true.mp hall low (Array.mem_toList_iff.mpr hlow)) n hn
  simpa [hle] using hn

set_option maxRecDepth 10000 in
theorem otherDigits_wideBlanks : ∀ r ∈ otherDigits, ∀ n ∈ wideBlanks, r.contains n = false := by
  have hall : otherDigits.toList.all (fun r => wideBlanks.all fun n => !r.contains n) = true := by
    unfold otherDigits readRanges
    rw [words_eq rfl]
    decide +kernel
  intro r hr n hn
  have hn := List.all_eq_true.mp (List.all_eq_true.mp hall r (Array.mem_toList_iff.mpr hr)) n hn
  simpa using hn

/-- A decimal digit outside the Western ones is one of the ten that begin with a zero. -/
theorem exists_zero {d : Nat} (h : decimalDigit? n = some d) (hwide : 0x80 ≤ n) :
    ∃ low ∈ decimalZeros, low ≤ n ∧ n < low + 10 := by
  unfold decimalDigit? at h
  rw [if_neg (by omega)] at h
  -- The table stays closed: it is only asked for the entry that governs.
  generalize decimalZeros = zeros at h ⊢
  split at h
  · next low hlow =>
    obtain ⟨hmem, hle⟩ := of_governing? hlow
    split at h
    · next hlt => exact ⟨low, hmem, hle, hlt⟩
    · cases h
  · cases h

/-- **No digit character is a blank.** -/
theorem not_isBlank (h : isDigitChar n = true) : isBlank n = false := by
  rw [← Bool.not_eq_true]
  intro hblank
  by_cases hwide : 0x80 ≤ n
  · have hn := mem_wideBlanks hblank hwide
    rw [isDigitChar, if_neg (by omega), Bool.or_eq_true, isDecimalDigit, Option.isSome_iff_exists] at h
    rcases h with ⟨d, hd⟩ | h
    · obtain ⟨low, hlow, hle, hlt⟩ := exists_zero hd hwide
      have := decimalZeros_wideBlanks low hlow n hn hle
      omega
    · obtain ⟨r, hr, hcontains⟩ := exists_of_inRanges h
      rw [otherDigits_wideBlanks r hr n hn] at hcontains
      cases hcontains
  · rw [isDigitChar, if_pos (by omega), isDecimalDigit, decimalDigit?, if_pos (by omega)] at h
    simp only [isBlank, isWhiteSpace, Bool.or_eq_true, decide_eq_true_eq, beq_iff_eq] at hblank
    split at h
    · omega
    · cases h

/-- A decimal digit has a value below ten. -/
theorem decimalDigit?_lt {d : Nat} (h : decimalDigit? n = some d) : d < 10 := by
  unfold decimalDigit? at h
  split at h
  · split at h
    · cases h
      omega
    · cases h
  · split at h
    · split at h
      · cases h
        omega
      · cases h
    · cases h

end Digit

set_option maxRecDepth 10000 in
/-- Not every digit character is a digit of a decimal system: a superscript two is none. -/
theorem superscript_two : isDigitChar 0xB2 = true ∧ decimalDigit? 0xB2 = none := by
  have hother : inRanges otherDigits 0xB2 = true := by
    unfold otherDigits readRanges
    rw [words_eq rfl]
    decide +kernel
  have hzeros : decimalZeros.toList.all (fun low => decide (¬ (low ≤ 0xB2 ∧ 0xB2 < low + 10))) = true := by
    unfold decimalZeros
    rw [words_eq (s := decimalZeros.table) rfl]
    decide +kernel
  have hdecimal : decimalDigit? 0xB2 = none := by
    cases hd : decimalDigit? 0xB2 with
    | none => rfl
    | some d =>
      obtain ⟨low, hlow, hrange⟩ := exists_zero hd (by decide)
      have hlow := List.all_eq_true.mp hzeros low (Array.mem_toList_iff.mpr hlow)
      exact absurd hrange (of_decide_eq_true hlow)
  refine ⟨?_, hdecimal⟩
  rw [isDigitChar, if_neg (by decide), hother, Bool.or_true]

end SqlRegexp.Unicode
