import SqlRegexp.Proofs.Pattern.Clear
import SqlRegexp.Proofs.Pattern.Token

/-!
What moving the references of a pattern makes of its tokens.

A scan for references goes from character to character and knows nothing of tokens. Where a token begins, it finds the
reference that the token is (`referenceAt?_eq`). One step of the run has three parts:

* `shiftFrom_token`: the scan writes the token with its number raised.
* `Stands.raised`: that token is read again in front of what is written behind it.
* `SameAhead.token`: what stands in front of it does not notice the change.

**The tokens of what is written are those of the pattern, with the numbers of its references raised**
(`tokens_of_shifted`), as long as these numbers can be written. Where one has too many digits, nothing is written
(`shiftReferences_tooLarge`).
-/

namespace SqlRegexp.PatternText

open SqlRegexp.Text SqlRegexp.Unicode

/-! ### The reference of a token -/

/-- The digits of a text are Western ones, and no numeral in it is too long to be read. -/
structure PlainNumerals (cs : List Char) : Prop where
  western : ∀ c ∈ cs, isDigitChar c.toNat = true → isDecimal c = true
  readable : ∀ ds, ds <:+: cs → (∀ d ∈ ds, isDecimal d = true) → ds.length ≤ digitLimit

namespace PlainNumerals

variable {cs u : List Char}

theorem of_length_le (hwestern : cs.all (fun c => !isDigitChar c.toNat || isDecimal c) = true)
    (hlength : cs.length ≤ digitLimit) : PlainNumerals cs where
  western c hc hdigit := by
    have hor := List.all_eq_true.mp hwestern c hc
    rw [hdigit] at hor
    exact hor
  readable _ hds _ := Nat.le_trans hds.length_le hlength

theorem suffix (h : PlainNumerals cs) (hu : u <:+ cs) : PlainNumerals u where
  western c hc := h.western c (hu.subset hc)
  readable ds hds := h.readable ds (hds.trans hu.isInfix)

theorem readNatural_eq {ds : List Char} (h : PlainNumerals cs) (hds : ds <:+: cs)
    (hdecimal : ∀ d ∈ ds, isDecimal d = true) (hne : ds ≠ []) : readNatural ds = .ok (valueOf ds) :=
  readNatural_digits hdecimal hne (h.readable ds hds hdecimal)

theorem takeWhile_eq (h : PlainNumerals cs) :
    cs.takeWhile (fun c => isDigitChar c.toNat) = cs.takeWhile isDecimal := by
  induction cs with
  | nil => rfl
  | cons c cs ih =>
    have hc : isDigitChar c.toNat = isDecimal c :=
      Bool.eq_iff_iff.mpr ⟨h.western c List.mem_cons_self, isDigitChar_of_isDecimal⟩
    rw [List.takeWhile_cons, List.takeWhile_cons, hc, ih (h.suffix (List.suffix_cons c cs))]

theorem digitsBefore?_eq (h : PlainNumerals cs) (stop : Char) : digitsBefore? stop cs = numeralBefore? stop cs := by
  unfold digitsBefore? numeralBefore?
  rw [h.takeWhile_eq]
  simp [drop_length_takeWhile]

end PlainNumerals

/-- The reference that a token is, as a scan describes it. -/
def Token.reference? : Token → Option Numbered
  | .reference s digits => some ⟨s, valueOf digits, (s.text digits).length⟩
  | _ => none

section Reference

variable {c : Char} {cs u : List Char}

theorem take_one_filter (p : Char → Bool) (cs : List Char) : (cs.take 1).filter p = (cs.takeWhile p).take 1 := by
  cases cs with
  | nil => rfl
  | cons c cs => by_cases hc : p c = true <;> simp [hc]

theorem numbered_eq {ds : List Char} (h : readNatural ds = .ok (valueOf ds)) (s : Spelling) (taken : Nat) :
    numbered s taken ds = .ok (some ⟨s, valueOf ds, taken + ds.length + 1⟩) := by
  unfold numbered
  rw [h]
  rfl

/-- What is found behind a backslash is the reference of the token that the backslash starts. -/
theorem afterBackslash?_eq (h : PlainNumerals cs) : afterBackslash? cs = .ok (slashToken cs).reference? := by
  unfold afterBackslash?
  split
  · next u =>
    have hu : PlainNumerals u := h.suffix ⟨['g', '<'], rfl⟩
    rw [hu.digitsBefore?_eq, slashToken_angle]
    cases hds : numeralBefore? '>' u with
    | none => rfl
    | some ds =>
      obtain ⟨hne, hdecimal, v, rfl⟩ := of_numeralBefore? hds
      dsimp only
      rw [numbered_eq (hu.readNatural_eq ⟨[], '>' :: v, rfl⟩ hdecimal hne)]
      simp [Token.reference?, Spelling.text]
      omega
  · next c u hangle =>
    by_cases hoctal : startsOctal (c :: u) = true
    · rw [slashToken_octal hoctal, if_neg fun hc => hc.2.2 hoctal]
      rfl
    rw [slashToken_cons (Bool.not_eq_true _ ▸ hoctal) fun v hg hu => hangle v hg hu]
    by_cases hc : isDecimal c = true ∧ c ≠ '0'
    · rw [if_pos ⟨hc.1, hc.2, hoctal⟩, if_pos hc, take_one_filter, (h.suffix (List.suffix_cons c u)).takeWhile_eq]
      have hinitial : c :: (u.takeWhile isDecimal).take 1 <+: c :: u :=
        (List.prefix_cons_inj c).mpr ((List.take_prefix 1 _).trans (List.takeWhile_prefix _))
      have hdecimal : ∀ d ∈ c :: (u.takeWhile isDecimal).take 1, isDecimal d = true := by
        intro d hd
        rcases List.mem_cons.mp hd with rfl | hd
        · exact hc.1
        · exact List.mem_takeWhile_imp (List.mem_of_mem_take hd)
      dsimp only
      rw [h.readNatural_eq hinitial.isInfix hdecimal (List.cons_ne_nil _ _)]
      simp [Token.reference?, Spelling.text, Except.map, Nat.add_comm]
    · rw [if_neg fun hd => hc ⟨hd.1, hd.2.1⟩, if_neg hc]
      rfl
  · rfl

/-- What is found behind `(?` is the reference of the token that the parenthesis starts. -/
theorem afterQuestion?_eq (h : PlainNumerals cs) :
    afterQuestion? cs = .ok (parenToken ('?' :: cs)).reference? := by
  by_cases hopen : cs.head? = some '('
  · obtain ⟨u, rfl⟩ := List.head?_eq_some_iff.mp hopen
    have hu : PlainNumerals u := h.suffix (List.suffix_cons _ _)
    rw [parenToken_condition, afterQuestion?, hu.digitsBefore?_eq]
    cases hds : numeralBefore? ')' u with
    | none => rfl
    | some ds =>
      obtain ⟨hne, hdecimal, v, rfl⟩ := of_numeralBefore? hds
      dsimp only
      rw [numbered_eq (hu.readNatural_eq ⟨[], ')' :: v, rfl⟩ hdecimal hne)]
      simp [Token.reference?, Spelling.text]
      omega
  · rw [Pattern.afterQuestion?_of_ne hopen, h.digitsBefore?_eq]
    cases hds : numeralBefore? ')' cs with
    | none =>
      rw [parenToken_call hopen, hds]
      rfl
    | some ds =>
      obtain ⟨hne, hdecimal, v, hv⟩ := of_numeralBefore? hds
      dsimp only
      rw [numbered_eq (h.readNatural_eq ⟨[], ')' :: v, hv.symm⟩ hdecimal hne)]
      show Except.ok (ite _ _ _) = _
      rcases Nat.eq_zero_or_pos (valueOf ds) with hzero | hpos
      · rw [parenToken_call_of_zero hopen hds hzero, if_pos hzero]
        rfl
      · rw [parenToken_call_of_pos hopen hds hpos, if_neg (Nat.ne_of_gt hpos)]
        simp [Token.reference?, Spelling.text]
        omega

/-- **Where a token begins, a scan finds the reference that the token is.** -/
theorem referenceAt?_eq (h : PlainNumerals (c :: cs)) :
    referenceAt? (c :: cs) = .ok (firstToken c cs).reference? := by
  have hcs : PlainNumerals cs := h.suffix (List.suffix_cons c cs)
  unfold firstToken
  by_cases hbracket : c = '['
  · subst hbracket
    rfl
  by_cases hslash : c = '\\'
  · subst hslash
    exact afterBackslash?_eq hcs
  by_cases hopen : c = '('
  · subst hopen
    by_cases hquestion : cs.head? = some '?'
    · obtain ⟨u, rfl⟩ := List.head?_eq_some_iff.mp hquestion
      exact afterQuestion?_eq (hcs.suffix (List.suffix_cons _ _))
    · rw [Pattern.referenceAt?_open hquestion, if_neg hbracket, if_neg hslash, if_pos rfl, parenToken_of_ne hquestion]
      rfl
  · rw [referenceAt?_of_ne hslash hopen, if_neg hbracket, if_neg hslash, if_neg hopen]
    rfl

end Reference

/-! ### What is written for a token -/

section Written

variable {offset : Nat} {t : Token} {r : List Char}

theorem writeNatural_eq {n : Nat} (h : n < 10 ^ digitLimit) : writeNatural n = .ok (Nat.toDigits 10 n) := by
  have hlength : (Nat.toDigits 10 n).length ≤ digitLimit :=
    (Nat.length_toDigits_le_iff (by decide) (by decide)).mpr h
  unfold writeNatural
  rw [if_neg (Nat.not_lt.mpr hlength)]

theorem writeNatural_tooLarge {n : Nat} (h : ¬ n < 10 ^ digitLimit) : writeNatural n = .error .tooLarge := by
  have hlength : ¬ (Nat.toDigits 10 n).length ≤ digitLimit := fun hle =>
    h ((Nat.length_toDigits_le_iff (by decide) (by decide)).mp hle)
  unfold writeNatural
  rw [if_pos (Nat.not_le.mp hlength)]

/-- A reference is written with its number raised, if that number can be written. -/
theorem write_of_fits {s : Spelling} {ds : List Char} (h : (Token.reference s ds).Fits offset) :
    s.write ((valueOf ds : Nat) + (offset : Int)) = .ok ((Token.reference s ds).raised offset).text := by
  change writeInteger (Int.ofNat (valueOf ds + offset)) >>= _ = _
  rw [writeInteger, writeNatural_eq h]
  cases s with
  | backslash =>
    have hle : ((valueOf ds : Int) + offset ≤ 9) ↔ ¬ 9 < valueOf ds + offset := by omega
    show Except.ok (ite _ _ _) = _
    by_cases hn : 9 < valueOf ds + offset
    · rw [if_neg (hle.not.mpr (not_not.mpr hn))]
      simp [Token.raised, Token.text, Spelling.text, hn]
    · rw [if_pos (hle.mpr hn)]
      simp [Token.raised, Token.text, Spelling.text, hn]
  | bracketed | condition | call => rfl

theorem write_tooLarge {s : Spelling} {ds : List Char} (h : ¬ (Token.reference s ds).Fits offset) :
    s.write ((valueOf ds : Nat) + (offset : Int)) = .error .tooLarge := by
  change writeInteger (Int.ofNat (valueOf ds + offset)) >>= _ = _
  rw [writeInteger, writeNatural_tooLarge h]
  rfl

/-- A token that is no reference is passed by a scan, up to a place outside classes or to the end of the text. -/
theorem Stands.passed (h : Stands t r) (hreference : t.reference? = none) :
    ∃ c cs place, t.text = c :: cs ∧ passed? (Place.outside.next c) cs = some place ∧
      (r = [] ∨ place = .outside) := by
  cases h with
  | charClass hk =>
    obtain ⟨place, hpassed, hends⟩ := ends_classBody hk
    exact ⟨'[', _, place, rfl, hpassed, hends.imp_right And.left⟩
  | @octal a b c r h =>
    simp only [startsOctal, Bool.and_eq_true] at h
    have hdigit {d : Char} (hd : isOctal d = true) : d ≠ '\\' ∧ d ≠ '(' ∧ d ≠ '$' ∧ d ≠ '[' := by
      refine ⟨?_, ?_, ?_, ?_⟩ <;> rintro rfl <;> exact absurd hd (by decide)
    obtain ⟨hb₁, hb₂, hb₃, hb₄⟩ := hdigit h.1.2
    obtain ⟨hc₁, hc₂, hc₃, hc₄⟩ := hdigit h.2
    refine ⟨'\\', [a, b, c], .outside, rfl, ?_, .inr rfl⟩
    simp [passed?, Place.next, hb₁, hb₂, hb₃, hb₄, hc₁, hc₂, hc₃, hc₄]
  | oneDigit | twoDigits | bracketed | condition | call => cases hreference
  | pair => exact ⟨'\\', [_], .outside, rfl, rfl, .inr rfl⟩
  | dangling => exact ⟨'\\', [], .escaped false, rfl, rfl, .inl rfl⟩
  | paren => exact ⟨'(', [], .outside, rfl, rfl, .inr rfl⟩
  | char hbracket hslash _ =>
    refine ⟨_, [], .outside, rfl, ?_, .inr rfl⟩
    simp [passed?, Place.next, hbracket, hslash]

theorem shiftFrom_plain (hr : PlainNumerals (t.text ++ r)) (h : Stands t r) (hreference : t.reference? = none) :
    shiftFrom offset 0 .outside (t.text ++ r) = (shiftFrom offset 0 .outside r).map (t.text ++ ·) := by
  obtain ⟨c, cs, place, htext, hpassed, hplace⟩ := h.passed hreference
  rw [htext] at hr
  have hnone : referenceAt? (c :: (cs ++ r)) = .ok none := by
    have hfirst : firstToken c (cs ++ r) = t := h.firstToken_eq (by rw [htext]; rfl)
    have hfound : referenceAt? (c :: (cs ++ r)) = _ := referenceAt?_eq hr
    rw [hfound, hfirst, hreference]
  rw [htext, List.cons_append, shiftFrom_of_none fun _ => hnone, shiftFrom_passed offset hpassed]
  have hrest : shiftFrom offset 0 place r = shiftFrom offset 0 .outside r := by
    rcases hplace with rfl | rfl
    · rfl
    · rfl
  rw [hrest]
  cases shiftFrom offset 0 .outside r <;> rfl

theorem shiftFrom_numbered {s : Spelling} {ds : List Char} (hr : PlainNumerals ((Token.reference s ds).text ++ r))
    (h : Stands (.reference s ds) r) :
    shiftFrom offset 0 .outside ((Token.reference s ds).text ++ r) =
      (s.write ((valueOf ds : Nat) + (offset : Int))).bind fun text =>
        (shiftFrom offset 0 .outside r).map (text ++ ·) := by
  cases htext : (Token.reference s ds).text with
  | nil => exact absurd htext (Token.text_ne_nil _)
  | cons c cs =>
    rw [htext] at hr
    have hfirst : firstToken c (cs ++ r) = .reference s ds := h.firstToken_eq (by rw [htext]; rfl)
    have hlength : (s.text ds).length = cs.length + 1 := congrArg List.length htext
    have hfound : referenceAt? (c :: (cs ++ r)) = _ := referenceAt?_eq hr
    rw [hfirst] at hfound
    exact shiftFrom_reference hfound hlength

/-- **The scan writes a token with its number raised** and goes on behind it. -/
theorem shiftFrom_token (hr : PlainNumerals (t.text ++ r)) (h : Stands t r) (hfits : t.Fits offset) :
    shiftFrom offset 0 .outside (t.text ++ r) =
      (shiftFrom offset 0 .outside r).map ((t.raised offset).text ++ ·) := by
  cases t with
  | reference s ds =>
    rw [shiftFrom_numbered hr h, write_of_fits hfits]
    rfl
  | _ => exact shiftFrom_plain hr h rfl

/-- Nothing is written where a number has too many digits. -/
theorem shiftFrom_tooLarge (hr : PlainNumerals (t.text ++ r)) (h : Stands t r) (hfits : ¬ t.Fits offset) :
    shiftFrom offset 0 .outside (t.text ++ r) = .error .tooLarge := by
  cases t with
  | reference s ds =>
    rw [shiftFrom_numbered hr h, write_tooLarge hfits]
    rfl
  | _ => exact absurd trivial hfits

end Written

/-! ### Reading again -/

/-- Two texts that the token in front of them cannot tell apart: they are equal up to the next character that begins
something of several characters, which is the same in both. -/
inductive SameAhead : List Char → List Char → Prop
  | nil : SameAhead [] []
  | char {r o} (c : Char) : SameAhead r o → SameAhead (c :: r) (c :: o)
  | slash {r o} : SameAhead ('\\' :: r) ('\\' :: o)
  | question {r o} : SameAhead ('(' :: '?' :: r) ('(' :: '?' :: o)

namespace SameAhead

variable {offset : Nat} {t : Token} {r o : List Char} {c : Char}

theorem append (h : SameAhead r o) (cs : List Char) : SameAhead (cs ++ r) (cs ++ o) := by
  induction cs with
  | nil => exact h
  | cons c cs ih => exact .char c ih

theorem eq_nil (h : SameAhead [] o) : o = [] := by
  cases h
  rfl

theorem head?_eq (h : SameAhead r o) : r.head? = o.head? := by cases h <;> rfl

/-- Behind a character that begins nothing, the texts cannot be told apart either. -/
theorem uncons (h : SameAhead (c :: r) o) (hslash : c ≠ '\\') (hopen : c ≠ '(') :
    ∃ o', o = c :: o' ∧ SameAhead r o' := by
  cases h with
  | char _ h => exact ⟨_, rfl, h⟩
  | slash => exact absurd rfl hslash
  | question => exact absurd rfl hopen

theorem takeWhile_eq (h : SameAhead r o) {p : Char → Bool} (hslash : p '\\' = false) (hopen : p '(' = false) :
    r.takeWhile p = o.takeWhile p ∧ (r.dropWhile p).head? = (o.dropWhile p).head? := by
  induction h with
  | nil => exact ⟨rfl, rfl⟩
  | char c _ ih => by_cases hc : p c = true <;> simp [hc, ih.1, ih.2]
  | slash => simp [hslash]
  | question => simp [hopen]

theorem numeralBefore?_eq (h : SameAhead r o) (stop : Char) : numeralBefore? stop r = numeralBefore? stop o := by
  obtain ⟨htake, hdrop⟩ := h.takeWhile_eq (p := isDecimal) (by decide) (by decide)
  unfold numeralBefore?
  rw [htake, hdrop]

theorem startsOctal_eq (h : SameAhead r o) (c : Char) : startsOctal (c :: r) = startsOctal (c :: o) := by
  rw [startsOctal_cons, startsOctal_cons, (h.takeWhile_eq (p := isOctal) (by decide) (by decide)).1]

/-- An escaped character stays one. -/
theorem slashToken_pair (h : SameAhead r o) (hpair : slashToken (c :: r) = .pair c) : slashToken (c :: o) = .pair c := by
  have hoctal : startsOctal (c :: r) = false := by
    rw [← Bool.not_eq_true]
    intro hoctal
    rw [slashToken_octal hoctal] at hpair
    cases hpair
  by_cases hangle : c = 'g' ∧ r.head? = some '<'
  · obtain ⟨rfl, hr⟩ := hangle
    obtain ⟨r, rfl⟩ := List.head?_eq_some_iff.mp hr
    obtain ⟨o, rfl, hrest⟩ := h.uncons (by decide) (by decide)
    rw [slashToken_angle, hrest.numeralBefore?_eq] at hpair
    rw [slashToken_angle]
    exact hpair
  · have hr (v : List Char) (hg : c = 'g') : r ≠ '<' :: v := fun he => hangle ⟨hg, by rw [he]; rfl⟩
    have ho (v : List Char) (hg : c = 'g') : o ≠ '<' :: v := fun he => hangle ⟨hg, by rw [h.head?_eq, he]; rfl⟩
    rw [slashToken_cons hoctal hr, (h.takeWhile_eq (p := isDecimal) (by decide) (by decide)).1] at hpair
    rw [slashToken_cons (h.startsOctal_eq c ▸ hoctal) ho]
    exact hpair

theorem parenToken_eq (h : SameAhead r o) : parenToken r = parenToken o := by
  by_cases hquestion : r.head? = some '?'
  · obtain ⟨u, rfl⟩ := List.head?_eq_some_iff.mp hquestion
    obtain ⟨v, rfl, hv⟩ := h.uncons (by decide) (by decide)
    by_cases hopen : u.head? = some '('
    · obtain ⟨u, rfl⟩ := List.head?_eq_some_iff.mp hopen
      cases hv with
      | char _ hw => rw [parenToken_condition, parenToken_condition, hw.numeralBefore?_eq]
      | question => rfl
    · have hopen' : v.head? ≠ some '(' := by rwa [← hv.head?_eq]
      rw [parenToken_call hopen, parenToken_call hopen', hv.numeralBefore?_eq]
  · have hquestion' : o.head? ≠ some '?' := by rwa [← h.head?_eq]
    rw [parenToken_of_ne hquestion, parenToken_of_ne hquestion']

/-- What stands in front of a token does not notice that its number is raised. -/
theorem token (h : SameAhead r o) (t : Token) : SameAhead (t.text ++ r) ((t.raised offset).text ++ o) := by
  cases t with
  | reference s ds =>
    cases s with
    | backslash =>
      show SameAhead _ ((Spelling.text (ite _ _ _) _) ++ o)
      split <;> exact .slash
    | bracketed => exact .slash
    | condition | call => exact .question
  | _ => exact h.append _

end SameAhead

section Raised

variable {offset : Nat} {t : Token} {r o : List Char}

theorem numeral_toDigits (n : Nat) : Numeral (Nat.toDigits 10 n) :=
  ⟨Nat.toDigits_ne_nil, fun _ hd => isDecimal_of_mem_toDigits hd⟩

theorem raised_of_lt {ds : List Char} (h : 9 < valueOf ds + offset) :
    (Token.reference .backslash ds).raised offset = .reference .bracketed (Nat.toDigits 10 (valueOf ds + offset)) := by
  simp [Token.raised, h]

theorem raised_of_le {ds : List Char} (h : valueOf ds + offset ≤ 9) :
    (Token.reference .backslash ds).raised offset = .reference .backslash (Nat.toDigits 10 (valueOf ds + offset)) := by
  simp [Token.raised, h]

theorem pos_of_isDecimal {d : Char} (hd : isDecimal d = true) (h0 : d ≠ '0') : 1 ≤ d.toNat - 48 := by
  have hrange := isDecimal_iff.mp hd
  have hne : d.toNat ≠ 48 := fun he => h0 (Char.toNat_inj.mp he)
  omega

/-- A digit above 0 is written for a number above 0 that has one digit. -/
theorem exists_digit {n : Nat} (hpos : 1 ≤ n) (hle : n ≤ 9) :
    ∃ d, Nat.toDigits 10 n = [d] ∧ isDecimal d = true ∧ d ≠ '0' := by
  have hdigit : ∀ n ≤ 9, 1 ≤ n → isDecimal n.digitChar = true ∧ n.digitChar ≠ '0' := by decide
  exact ⟨n.digitChar, Nat.toDigits_of_lt_base (by omega), hdigit n hle hpos⟩

/-- **A token with its number raised is read again**, whatever is written behind it. -/
theorem Stands.raised (h : Stands t r) (hsame : SameAhead r o) : Stands (t.raised offset) o := by
  cases h with
  | charClass hk =>
    obtain ⟨-, -, rfl | ⟨-, hall⟩⟩ := ends_classBody hk
    · obtain rfl := hsame.eq_nil
      exact .charClass hk
    · exact .charClass (hall o)
  | octal hoctal => exact .octal hoctal
  | @oneDigit d r hd h0 hr =>
    have hvalue : valueOf [d] = d.toNat - 48 := by simp [valueOf, Nat.ofDigitChars]
    have hpos := pos_of_isDecimal hd h0
    -- beyond 9 the number is bracketed, and what follows it cannot be taken for one of its digits
    by_cases hn : 9 < valueOf [d] + offset
    · rw [raised_of_lt hn]
      exact .bracketed (numeral_toDigits _)
    · rw [raised_of_le (by omega)]
      obtain ⟨e, hdigits, he, hne⟩ := @exists_digit (valueOf [d] + offset) (by omega) (by omega)
      rw [hdigits]
      exact .oneDigit he hne (hsame.head?_eq ▸ hr)
  | @twoDigits d e r hd h0 he hoctal =>
    have hvalue : valueOf [d, e] = 10 * (d.toNat - 48) + (e.toNat - 48) := by simp [valueOf, Nat.ofDigitChars]
    have hpos := pos_of_isDecimal hd h0
    rw [raised_of_lt (by omega)]
    exact .bracketed (numeral_toDigits _)
  | bracketed => exact .bracketed (numeral_toDigits _)
  | condition => exact .condition (numeral_toDigits _)
  | @call ds r hds hpos =>
    refine .call (numeral_toDigits _) ?_
    rw [valueOf, Nat.ofDigitChars_ten_toDigits]
    omega
  | pair hpair => exact .pair (hsame.slashToken_pair hpair)
  | dangling =>
    obtain rfl := hsame.eq_nil
    exact .dangling
  | paren hparen => exact .paren (hsame.parenToken_eq ▸ hparen)
  | char hbracket hslash hopen => exact .char hbracket hslash hopen

end Raised

/-! ### The whole pattern -/

section Whole

variable {offset : Nat} {ts : List Token} {cs : List Char}

/-- A whole scan of tokens that fit writes these tokens with their numbers raised. -/
theorem Reads.shiftFrom (h : Reads ts cs) (hcs : PlainNumerals cs) (hfits : ∀ t ∈ ts, t.Fits offset) :
    ∃ v, shiftFrom offset 0 .outside cs = .ok v ∧ Reads (ts.map (Token.raised offset)) v ∧ SameAhead cs v := by
  induction h with
  | nil => exact ⟨[], rfl, .nil, .nil⟩
  | @cons t ts r hstands _ ih =>
    obtain ⟨v, hv, hreads, hsame⟩ :=
      ih (hcs.suffix (List.suffix_append _ _)) fun t' ht' => hfits t' (List.mem_cons_of_mem _ ht')
    refine ⟨(t.raised offset).text ++ v, ?_, ?_, ?_⟩
    · rw [shiftFrom_token hcs hstands (hfits t List.mem_cons_self), hv]
      rfl
    · exact .cons (hstands.raised hsame) hreads
    · exact hsame.token t

theorem Reads.shiftFrom_tooLarge (h : Reads ts cs) (hcs : PlainNumerals cs) (hfits : ¬ ∀ t ∈ ts, t.Fits offset) :
    PatternText.shiftFrom offset 0 .outside cs = .error .tooLarge := by
  induction h with
  | nil => exact absurd (fun t ht => nomatch ht) hfits
  | @cons t ts r hstands _ ih =>
    by_cases ht : t.Fits offset
    · have hrest : ¬ ∀ t ∈ ts, t.Fits offset := fun hall => hfits (List.forall_mem_cons.mpr ⟨ht, hall⟩)
      rw [shiftFrom_token hcs hstands ht, ih (hcs.suffix (List.suffix_append _ _)) hrest]
      rfl
    · exact PatternText.shiftFrom_tooLarge hcs hstands ht

/-- Where a raised number has too many digits, nothing is written. -/
theorem shiftReferences_tooLarge {pattern : List Char} (hpattern : PlainNumerals pattern)
    (hfits : ¬ ∀ t ∈ tokens pattern, t.Fits offset) : shiftReferences pattern offset = .error .tooLarge :=
  (reads_tokens pattern).shiftFrom_tooLarge hpattern hfits

/-- **Moving references is exact.** The tokens of what is written for a pattern are those of the pattern, in the same
order, with the numbers of its references raised and nothing else changed. -/
theorem tokens_of_shifted (pattern : List Char) (offset : Nat) (hpattern : PlainNumerals pattern)
    (hfits : ∀ t ∈ tokens pattern, t.Fits offset) :
    ∃ v, shiftReferences pattern offset = .ok v ∧ tokens v = (tokens pattern).map (Token.raised offset) := by
  obtain ⟨v, hv, hreads, -⟩ := (reads_tokens pattern).shiftFrom hpattern hfits
  exact ⟨v, hv, hreads.tokens_eq⟩

/-- A pattern in which much looks like a reference: members of classes, octal escapes and names without an end. -/
def lookalikes : List Char := "\\9\\12(?(1)a|b)[]\\1]\\101\\g<1(?0)(?9)(?(2[^\\1".toList

theorem tokens_of_shifted_lookalikes :
    ∃ v, shiftReferences lookalikes 1 = .ok v ∧ tokens v = (tokens lookalikes).map (Token.raised 1) := by
  have hlength : lookalikes.length = 43 := by decide
  have hplain : PlainNumerals lookalikes := .of_length_le (by decide) (by rw [hlength, digitLimit]; omega)
  have hnumbers : ∀ t ∈ tokens lookalikes, t.reference?.all (fun r => decide (r.number < 10 ^ 2 - 1)) = true := by decide
  have hlarge : 10 ^ 2 ≤ 10 ^ digitLimit := Nat.pow_le_pow_right (by decide) (by decide)
  refine tokens_of_shifted lookalikes 1 hplain fun t ht => ?_
  cases t with
  | reference s ds =>
    have hvalue : valueOf ds < 10 ^ 2 - 1 := of_decide_eq_true (hnumbers _ ht)
    refine Token.fits_reference.mpr (Nat.lt_of_lt_of_le ?_ hlarge)
    omega
  | _ => trivial

example : shiftReferences lookalikes 1 =
    .ok "\\g<10>\\g<13>(?(2)a|b)[]\\1]\\101\\g<1(?0)(?10)(?(2[^\\1".toList := by decide

/-- Not every offset can be added: the number has to be written. -/
theorem exists_offset_too_large :
    ¬ ∀ (pattern : List Char) (offset : Nat), PlainNumerals pattern →
      ∃ v, shiftReferences pattern offset = .ok v ∧ tokens v = (tokens pattern).map (Token.raised offset) := by
  intro h
  have hplain : PlainNumerals ['\\', '1'] := .of_length_le (by decide) (by simp [digitLimit])
  have hfits : ¬ ∀ t ∈ tokens ['\\', '1'], t.Fits (10 ^ digitLimit - 1) := by
    intro hall
    have hlt := Token.fits_reference.mp (hall (.reference .backslash ['1']) (by decide))
    have hone : valueOf ['1'] = 1 := by decide
    rw [hone] at hlt
    exact absurd (Nat.sub_le_iff_le_add'.mp (Nat.le_refl _)) (Nat.not_le.mpr hlt)
  obtain ⟨v, hv, -⟩ := h ['\\', '1'] (10 ^ digitLimit - 1) hplain
  rw [shiftReferences_tooLarge hplain hfits] at hv
  cases hv

end Whole

end SqlRegexp.PatternText
