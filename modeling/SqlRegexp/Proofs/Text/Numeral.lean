import Mathlib.Algebra.Group.Nat.Defs
import Mathlib.Data.List.TakeWhile
import Mathlib.Tactic.Common
import SqlRegexp.Proofs.Unicode.Digit
import SqlRegexp.Text.Numeral

/-!
Numerals of Western digits.

Western digits are digit characters and are no blanks, so that a numeral made of them is read digit by digit
(`readNatural_digits`). **A number that is written is read again** (`readNatural_toDigits`), up to the limit of digits.
-/

namespace SqlRegexp.Text

open SqlRegexp.Unicode

/-! ### Western digits -/

theorem isDecimal_iff {c : Char} : isDecimal c = true ↔ 48 ≤ c.toNat ∧ c.toNat ≤ 57 := by
  have hrange : ('0' ≤ c ∧ c ≤ '9') ↔ 48 ≤ c.toNat ∧ c.toNat ≤ 57 := Iff.rfl
  unfold isDecimal decimalValue?
  rw [← hrange]
  split <;> simp_all

theorem isDecimal_of_isDigit {c : Char} (h : c.isDigit = true) : isDecimal c = true := by
  rw [isDecimal_iff]
  simp only [Char.isDigit, Bool.and_eq_true, decide_eq_true_eq] at h
  exact h

theorem isDecimal_of_isOctal {c : Char} (h : isOctal c = true) : isDecimal c = true := by
  have hc : '0' ≤ c ∧ c ≤ '7' := by
    by_contra hc
    rw [isOctal, octalValue?, if_neg hc] at h
    cases h
  have hle : c.toNat ≤ 55 := hc.2
  exact isDecimal_iff.mpr ⟨hc.1, by omega⟩

section Digit

variable {c : Char}

theorem decimalValue?_of_isDecimal (h : isDecimal c = true) : decimalValue? c = some (c.toNat - 48) := by
  have hc : '0' ≤ c ∧ c ≤ '9' := isDecimal_iff.mp h
  unfold decimalValue?
  rw [if_pos hc]
  rfl

theorem digitOf?_of_isDecimal (h : isDecimal c = true) : digitOf? c = some (c.toNat - 48) := by
  have hc := isDecimal_iff.mp h
  unfold digitOf? decimalDigit?
  rw [if_pos (by omega), if_pos hc]

theorem isDigitChar_of_isDecimal (h : isDecimal c = true) : isDigitChar c.toNat = true := by
  have hc := isDecimal_iff.mp h
  have hdigit : decimalDigit? c.toNat = some (c.toNat - 48) := digitOf?_of_isDecimal h
  unfold isDigitChar isDecimalDigit
  rw [if_pos (by omega), hdigit]
  rfl

theorem isBlank_of_isDecimal (h : isDecimal c = true) : isBlank c.toNat = false := by
  have hc := isDecimal_iff.mp h
  simp [isBlank, isWhiteSpace]
  omega

end Digit

/-! ### Reading -/

/-- Digits of a base denote a number below the power of the base that their count gives. -/
theorem ofDigits_lt {base : Nat} {ds : List Nat} (h : ∀ d ∈ ds, d < base) : ofDigits base ds < base ^ ds.length := by
  have hfold : ∀ (ds : List Nat) (n : Nat), (∀ d ∈ ds, d < base) →
      ds.foldl (fun n d => n * base + d) n < (n + 1) * base ^ ds.length := by
    intro ds
    induction ds with
    | nil => intro n _; simp
    | cons d ds ih =>
      intro n h
      have hd := h d (List.mem_cons_self ..)
      calc (d :: ds).foldl (fun n d => n * base + d) n
          < (n * base + d + 1) * base ^ ds.length := ih _ fun d' hd' => h d' (List.mem_cons_of_mem _ hd')
        _ ≤ ((n + 1) * base) * base ^ ds.length := Nat.mul_le_mul_right _ (by rw [Nat.add_mul]; omega)
        _ = (n + 1) * base ^ (ds.length + 1) := by rw [Nat.pow_succ, Nat.mul_assoc, Nat.mul_comm base]
  unfold ofDigits
  simpa using hfold ds 0 h

theorem trimBlanks_of_no_blank {cs : List Char} (h : ∀ c ∈ cs, isBlank c.toNat = false) : trimBlanks cs = cs := by
  have hdrop {ds : List Char} (hd : ∀ c ∈ ds, isBlank c.toNat = false) :
      ds.dropWhile (fun c => isBlank c.toNat) = ds := by
    cases ds with
    | nil => rfl
    | cons c ds => exact List.dropWhile_cons_of_neg (by rw [hd c List.mem_cons_self]; exact Bool.false_ne_true)
  unfold trimBlanks
  dsimp only
  rw [hdrop h, hdrop fun c hc => h c (List.mem_reverse.mp hc), List.reverse_reverse]

theorem dropJoiners_of_not_mem {afterDigit : Bool} {cs : List Char} (h : '_' ∉ cs) :
    dropJoiners afterDigit cs = cs := by
  induction cs generalizing afterDigit with
  | nil => rfl
  | cons c cs ih =>
    rw [List.mem_cons, not_or] at h
    have hc : decide (c = '_') = false := decide_eq_false (Ne.symm h.1)
    rw [dropJoiners, hc, Bool.false_and, Bool.false_and, if_neg Bool.false_ne_true, ih h.2]

theorem ofDigits_filterMap {cs : List Char} (h : ∀ c ∈ cs, isDecimal c = true) :
    ofDigits 10 (cs.filterMap digitOf?) = Nat.ofDigitChars 10 cs 0 := by
  have hfold (n : Nat) :
      (cs.filterMap digitOf?).foldl (fun n d => n * 10 + d) n = Nat.ofDigitChars 10 cs n := by
    induction cs generalizing n with
    | nil => rfl
    | cons c cs ih =>
      rw [List.filterMap_cons_some (digitOf?_of_isDecimal (h c List.mem_cons_self)), List.foldl_cons,
        Nat.ofDigitChars_cons, ih fun d hd => h d (List.mem_cons_of_mem _ hd), Nat.mul_comm]
      rfl
  exact hfold 0

/-- Digit characters of whatever scripts are a numeral if each of them has a value. -/
theorem readNatural_of_isAllDigits {cs : List Char} (h : isAllDigits cs = true) (hlen : cs.length ≤ digitLimit) :
    readNatural cs = if cs.all fun c => (digitOf? c).isSome then .ok (ofDigits 10 (cs.filterMap digitOf?))
      else .error (.malformed 10 cs) := by
  obtain ⟨hempty, hall⟩ := Bool.and_eq_true_iff.mp h
  rw [List.all_eq_true] at hall
  have hne : cs ≠ [] := by simpa using hempty
  have hnot {c : Char} (hc : isDigitChar c.toNat = false) : c ∉ cs := fun hmem => by
    rw [hall c hmem] at hc
    cases hc
  -- a digit without a value ends the numeral, and what is behind it makes it malformed
  have hmagnitude : readMagnitude cs cs = if cs.all fun c => (digitOf? c).isSome then
      .ok (ofDigits 10 (cs.filterMap digitOf?)) else .error (.malformed 10 cs) := by
    have hinitial := List.takeWhile_prefix (l := cs) fun c => (digitOf? c).isSome
    have hle := hinitial.length_le
    unfold readMagnitude
    dsimp only
    rw [dropJoiners_of_not_mem (hnot (by decide)), if_neg (by omega)]
    by_cases hdigits : cs.all (fun c => (digitOf? c).isSome) = true
    · rw [if_pos hdigits, List.takeWhile_eq_self_iff.mpr (List.all_eq_true.mp hdigits)]
      simp [hne]
    · have hlength : (cs.takeWhile fun c => (digitOf? c).isSome).length ≠ cs.length := fun he => by
        rw [List.all_eq_true, ← List.takeWhile_eq_self_iff] at hdigits
        exact hdigits (hinitial.eq_of_length he)
      rw [if_neg hdigits, if_pos (by simp [hlength])]
  unfold readNatural readInteger
  rw [trimBlanks_of_no_blank fun c hc => not_isBlank (hall c hc)]
  split
  · exact absurd List.mem_cons_self (hnot (by decide))
  · exact absurd List.mem_cons_self (hnot (by decide))
  · rw [hmagnitude]
    split <;> rfl

theorem isAllDigits_of_isDecimal {cs : List Char} (h : ∀ c ∈ cs, isDecimal c = true) (hne : cs ≠ []) :
    isAllDigits cs = true := by
  unfold isAllDigits
  rw [Bool.and_eq_true, List.all_eq_true]
  exact ⟨by simpa using hne, fun c hc => isDigitChar_of_isDecimal (h c hc)⟩

/-- A numeral of Western digits is read digit by digit. -/
theorem readNatural_digits {cs : List Char} (h : ∀ c ∈ cs, isDecimal c = true) (hne : cs ≠ [])
    (hlen : cs.length ≤ digitLimit) : readNatural cs = .ok (Nat.ofDigitChars 10 cs 0) := by
  have hdigits : cs.all (fun c => (digitOf? c).isSome) = true :=
    List.all_eq_true.mpr fun c hc => by rw [digitOf?_of_isDecimal (h c hc)]; rfl
  rw [readNatural_of_isAllDigits (isAllDigits_of_isDecimal h hne) hlen, if_pos hdigits, ofDigits_filterMap h]

/-! ### Writing -/

theorem isDecimal_of_mem_toDigits {n : Nat} {c : Char} (h : c ∈ Nat.toDigits 10 n) : isDecimal c = true :=
  isDecimal_of_isDigit (Nat.isDigit_of_mem_toDigits (by decide) (by decide) h)

/-- **A number that can be written is read again.** -/
theorem readNatural_toDigits {n : Nat} (h : (Nat.toDigits 10 n).length ≤ digitLimit) :
    readNatural (Nat.toDigits 10 n) = .ok n := by
  rw [readNatural_digits (fun c hc => isDecimal_of_mem_toDigits hc) Nat.toDigits_ne_nil h,
    Nat.ofDigitChars_ten_toDigits]

end SqlRegexp.Text
