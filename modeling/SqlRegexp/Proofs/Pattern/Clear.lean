import SqlRegexp.Proofs.Pattern.Abreast.Reference
import SqlRegexp.Proofs.Pattern.Scan

/-!
Patterns that a scan of their text understands.

A reader knows where it is in a pattern; a scan for references only keeps the place. `Clear x a ps u` says that this
makes no difference: the references, classes and comments of `u` are where a scan takes them to be. **Where a clear
pattern is enclosed, its references are raised as a reader takes them** (`Clear.raised`), with end anchors pinned or
not. The texts of literal patterns are always clear (`clear_escapeLiteral`).
-/

namespace SqlRegexp.Pattern

open SqlRegexp.PatternText SqlRegexp.Text SqlRegexp.Unicode

/-- No digit of any script comes next. -/
def NoDigit (u : List Char) : Prop := ∀ c ∈ u.head?, isDigitChar c.toNat = false

/-- The characters of a comment up to the end of its line, none of which a scan takes for anything. -/
def LineText (cs : List Char) : Prop := ∀ c ∈ cs, c ∉ signs ∧ c ≠ '$' ∧ c ≠ '\n'

/-- What follows `(?(` is no condition of `(?`: unless it looks around, no parenthesis with a question mark. -/
def LooksAround (u : List Char) : Prop := ∀ t, u = '?' :: t → ∃ c ∈ t.head?, c = '=' ∨ c = '!' ∨ c = '<'

/-- What follows `(?` is no reference to a numbered group for a scan either: its digits are Western ones. -/
structure PlainQuestion (x : Bool) (u : List Char) : Prop extends Question x u where
  western : u.takeWhile (fun c => isDigitChar c.toNat) = u.takeWhile isDecimal

/-- The references, classes and comments that a reader meets in a text are those that a scan of the text takes for
some. Where blanks and comments may be ignored, `x` is set; `ps` are the parentheses open at this place and `a` the
number of the last group, as far as the text shows them. -/
inductive Clear (x : Bool) : Option Nat → List Paren → List Char → Prop
  | done {a ps} : Clear x a ps []
  | char {a ps c u} : c ∉ signs → (x = true → c ≠ '#') → Clear x a ps u → Clear x a ps (c :: u)
  | hash {a ps cs u} : x = true → LineText cs → Clear x a ps u → Clear x a ps ('#' :: (cs ++ '\n' :: u))
  | escape {a ps c u} : PlainEscape x c u → Clear x a ps u → Clear x a ps ('\\' :: c :: u)
  | dangling {a ps} : Clear x a ps ['\\']
  | backslash {a ps ds n u} : ShortNumber x ds u n → (ds.length = 1 → NoDigit u) → (9 ≤ n → NotOpen ps n) →
      Clear x a ps u → Clear x a ps ('\\' :: (ds ++ u))
  | bracketed {a ps ds n u} : Numbers ds n → NotOpen ps n → Clear x a ps u →
      Clear x a ps ('\\' :: 'g' :: '<' :: (ds ++ '>' :: u))
  | classText {a ps k u} : ClassText true k → passed? .opened k = some .outside → Clear x a ps u →
      Clear x a ps ('[' :: (k ++ u))
  | classOpen {a ps k} : ClassText false k → (passed? .opened k).isSome = true → Clear x a ps ('[' :: k)
  | comment {a ps cs u} : CommentText cs → passed? .outside cs = some .outside → Clear x a ps u →
      Clear x a ps ('(' :: '?' :: '#' :: (cs ++ ')' :: u))
  | commentOpen {a ps cs} : CommentText cs → passed? .outside cs = some .outside →
      Clear x a ps ('(' :: '?' :: '#' :: cs)
  | condition {a ps ds n u} : Numbers ds n → Clear x a (.bare :: ps) u →
      Clear x a ps ('(' :: '?' :: '(' :: (ds ++ ')' :: u))
  | call {a ps ds n u} : Numbers ds n → (∀ d ∈ ds, isDecimal d = true) → Clear x a ps u →
      Clear x a ps ('(' :: '?' :: (ds ++ ')' :: u))
  | choice {a ps u} : NameStart x u → LooksAround u → Clear x a (.bare :: .bare :: ps) u →
      Clear x a ps ('(' :: '?' :: '(' :: u)
  | question {a ps u} : PlainQuestion x u → Clear x (questionCount a u) (questionParen u :: ps) u →
      Clear x a ps ('(' :: '?' :: u)
  | star {a ps u} : Clear x none (.unknown :: ps) ('*' :: u) → Clear x a ps ('(' :: '*' :: u)
  | group {a ps u} : u.head? ≠ some '?' → u.head? ≠ some '*' → Clear x (a.map (· + 1)) (nextGroup a :: ps) u →
      Clear x a ps ('(' :: u)
  | close {a ps q u} : Clear x a ps u → Clear x a (q :: ps) (')' :: u)

/-! ### What a scan finds -/

section Scan

variable {x : Bool} {ds u v : List Char} {n : Nat} {c : Char}

theorem digitsBefore?_of_noDigit {stop : Char} (h : NoDigit u) : digitsBefore? stop u = none := by
  unfold digitsBefore?
  rw [takeWhile_eq_nil h]
  rfl

theorem digitsBefore?_append {stop : Char} (hds : isAllDigits ds = true) (hstop : isDigitChar stop.toNat = false) :
    digitsBefore? stop (ds ++ stop :: u) = some ds := by
  obtain ⟨hne, hall⟩ := Bool.and_eq_true_iff.mp hds
  have htake : (ds ++ stop :: u).takeWhile (fun c => isDigitChar c.toNat) = ds := by
    rw [List.takeWhile_append_of_pos (List.all_eq_true.mp hall),
      List.takeWhile_cons_of_neg (by rw [hstop]; exact Bool.false_ne_true), List.append_nil]
  unfold digitsBefore?
  rw [htake]
  simp only [List.drop_left, List.head?_cons, hne, BEq.rfl, Bool.and_true, if_true]

theorem referenceAt?_bracketed (h : Numbers ds n) :
    referenceAt? ('\\' :: 'g' :: '<' :: (ds ++ '>' :: u)) = .ok (some ⟨.bracketed, n, 3 + ds.length + 1⟩) := by
  show afterBackslash? ('g' :: '<' :: (ds ++ '>' :: u)) = _
  rw [afterBackslash?, digitsBefore?_append h.digits (by decide)]
  show (readNatural ds >>= fun n => _) = _
  rw [h.reads]
  rfl

theorem referenceAt?_condition (h : Numbers ds n) :
    referenceAt? ('(' :: '?' :: '(' :: (ds ++ ')' :: u)) = .ok (some ⟨.condition, n, 3 + ds.length + 1⟩) := by
  show afterQuestion? ('(' :: (ds ++ ')' :: u)) = _
  rw [afterQuestion?, digitsBefore?_append h.digits (by decide)]
  show (readNatural ds >>= fun n => _) = _
  rw [h.reads]
  rfl

theorem afterQuestion?_of_ne (h : u.head? ≠ some '(') :
    afterQuestion? u = match digitsBefore? ')' u with
      | some digits => do
        match (← numbered .call 2 digits) with
        | some r => return if r.number = 0 then none else some r
        | none => return none
      | none => .ok none := by
  unfold afterQuestion?
  split
  · exact absurd rfl h
  · rfl

theorem referenceAt?_call (h : Numbers ds n) :
    referenceAt? ('(' :: '?' :: (ds ++ ')' :: u)) = .ok (some ⟨.call, n, 2 + ds.length + 1⟩) := by
  have hhead : (ds ++ ')' :: u).head? ≠ some '(' := by
    obtain ⟨hne, hall⟩ := Bool.and_eq_true_iff.mp h.digits
    cases ds with
    | nil => cases hne
    | cons d ds =>
      intro hd
      obtain rfl := Option.some.inj hd
      exact absurd (List.all_eq_true.mp hall '(' List.mem_cons_self) (by decide)
  have hpos : ¬ n = 0 := Nat.ne_of_gt h.pos
  show afterQuestion? _ = _
  rw [afterQuestion?_of_ne hhead, digitsBefore?_append h.digits (by decide)]
  show (readNatural ds >>= fun n => _) >>= _ = _
  rw [h.reads]
  show Except.ok (ite _ _ _) = _
  rw [if_neg hpos]

/-- Digits in front of a closing parenthesis are those of a reader. -/
theorem of_digitsBefore? {stop : Char} {digits : List Char}
    (hwestern : u.takeWhile (fun c => isDigitChar c.toNat) = u.takeWhile isDecimal)
    (h : digitsBefore? stop u = some digits) :
    digits = u.takeWhile isDecimal ∧ u.head?.any isDecimal = true ∧ (u.dropWhile isDecimal).head? = some stop := by
  unfold digitsBefore? at h
  rw [hwestern] at h
  dsimp only at h
  rw [drop_length_takeWhile] at h
  split at h
  · next hb =>
    cases h
    rw [Bool.and_eq_true] at hb
    refine ⟨rfl, ?_, eq_of_beq hb.2⟩
    cases u with
    | nil => cases hb.1
    | cons c u =>
      by_contra hc
      have hc' : ¬ isDecimal c = true := hc
      rw [List.takeWhile_cons_of_neg hc'] at hb
      cases hb.1
  · cases h

theorem referenceAt?_question (h : PlainQuestion x u) : referenceAt? ('(' :: '?' :: u) = .ok none := by
  show afterQuestion? u = _
  rw [afterQuestion?_of_ne h.not_choice]
  cases hd : digitsBefore? ')' u with
  | none => rfl
  | some digits =>
    obtain ⟨rfl, hhead, hclose⟩ := of_digitsBefore? h.western hd
    obtain ⟨-, hzero | hne⟩ := h.digits hhead
    · show (readNatural _ >>= fun n => _) >>= _ = _
      rw [hzero]
      rfl
    · exact absurd hclose hne

theorem referenceAt?_open (h : u.head? ≠ some '?') : referenceAt? ('(' :: u) = .ok none := by
  unfold referenceAt?
  split
  · next he => exact absurd (List.cons.inj he).1 (by decide)
  · next he =>
    obtain ⟨-, rfl⟩ := List.cons.inj he
    exact absurd rfl h
  · rfl

theorem referenceAt?_question_of (hopen : u.head? ≠ some '(') (h : NoDigit u) :
    referenceAt? ('(' :: '?' :: u) = .ok none := by
  show afterQuestion? u = _
  rw [afterQuestion?_of_ne hopen, digitsBefore?_of_noDigit h]

theorem referenceAt?_comment : referenceAt? ('(' :: '?' :: '#' :: u) = .ok none :=
  referenceAt?_question_of (fun h => nomatch h) fun c hc => by cases hc; decide

theorem referenceAt?_choice (h : NameStart x u) : referenceAt? ('(' :: '?' :: '(' :: u) = .ok none := by
  show afterQuestion? ('(' :: u) = _
  rw [afterQuestion?, digitsBefore?_of_noDigit fun c hc => (h c hc).2]

theorem referenceAt?_look (h : LooksAround u) : referenceAt? ('(' :: u) = .ok none := by
  by_cases hu : u.head? = some '?'
  · obtain ⟨t, rfl⟩ := List.head?_eq_some_iff.mp hu
    obtain ⟨c, hc, hlook⟩ := h t rfl
    refine referenceAt?_question_of ?_ fun d hd => ?_
    · rw [hc]
      rcases hlook with rfl | rfl | rfl <;> decide
    · obtain rfl := Option.some.inj (hd.symm.trans hc)
      rcases hlook with rfl | rfl | rfl <;> decide
  · exact referenceAt?_open hu

theorem referenceAt?_escape (h : PlainEscape x c u) : referenceAt? ('\\' :: c :: u) = .ok none := by
  show afterBackslash? (c :: u) = _
  unfold afterBackslash?
  split
  · next t he =>
    obtain ⟨rfl, rfl⟩ := List.cons.inj he
    have hdigit : NoDigit t := fun d hd => ((h.bracket rfl).2 t rfl d hd).2
    rw [digitsBefore?_of_noDigit hdigit]
  · next d t _ he =>
    obtain ⟨rfl, rfl⟩ := List.cons.inj he
    refine if_neg fun hc => ?_
    obtain ⟨hdecimal, hzero, hoctal⟩ := hc
    obtain ⟨ho, d, e, t, rfl, hd, he⟩ := h.octal hdecimal hzero
    exact hoctal (by simp [startsOctal, ho, hd, he])
  · next he => cases he

theorem decimalValue_getD {d : Char} (h : isDecimal d = true) : (decimalValue? d).getD 0 = d.toNat - 48 := by
  rw [decimalValue?_of_isDecimal h, Option.getD_some]

theorem not_isOctal_of_noDigit (h : NoDigit u) : ∀ c ∈ u.head?, isOctal c = false := by
  intro c hc
  rw [← Bool.not_eq_true]
  intro ho
  have := isDigitChar_of_isDecimal (isDecimal_of_isOctal ho)
  rw [h c hc] at this
  cases this

theorem afterBackslash?_digit (hd : isDecimal c = true) (h0 : c ≠ '0') (hoctal : startsOctal (c :: u) = false) :
    afterBackslash? (c :: u) =
      (readNatural (c :: (u.take 1).filter fun d => isDigitChar d.toNat)).map fun n =>
        some ⟨.backslash, n, 1 + (c :: (u.take 1).filter fun d => isDigitChar d.toNat).length⟩ := by
  unfold afterBackslash?
  split
  · next he =>
    obtain ⟨rfl, -⟩ := List.cons.inj he
    exact absurd hd (by decide)
  · next he =>
    obtain ⟨rfl, rfl⟩ := List.cons.inj he
    exact if_pos ⟨hd, h0, by rw [hoctal]; exact Bool.false_ne_true⟩
  · next he => cases he

theorem referenceAt?_short (h : ShortNumber x ds u n) (hone : ds.length = 1 → NoDigit u) :
    referenceAt? ('\\' :: (ds ++ u)) = .ok (some ⟨.backslash, n, 1 + ds.length⟩) := by
  cases h with
  | @one d _ hd h0 _ =>
    have hdigit := hone rfl
    have hoctal : startsOctal (d :: u) = false := by
      match u, not_isOctal_of_noDigit hdigit with
      | [], _ | [_], _ => rfl
      | a :: b :: _, ho =>
        show (isOctal d && isOctal a && isOctal b) = false
        rw [ho a rfl, Bool.and_false, Bool.false_and]
    have hfilter : ((u.take 1).filter fun d => isDigitChar d.toNat) = [] := by
      match u, hdigit with
      | [], _ => rfl
      | a :: _, hdigit => exact List.filter_cons_of_neg (by rw [hdigit a rfl]; exact Bool.false_ne_true)
    show afterBackslash? (d :: u) = _
    rw [afterBackslash?_digit hd h0 hoctal, hfilter, readNatural_digits (by simpa using hd) (List.cons_ne_nil _ _)
      (by simp [digitLimit]), decimalValue_getD hd]
    simp [Except.map, Nat.ofDigitChars]
  | @two d e _ hd h0 he hf =>
    have hoctal : startsOctal (d :: e :: u) = false := by
      cases u with
      | nil => rfl
      | cons a u =>
        show (isOctal d && isOctal e && isOctal a) = false
        cases hod : isOctal d
        · rfl
        · cases hoe : isOctal e
          · rfl
          · rw [(hf hod hoe a rfl).2]
            rfl
    have hfilter : (((e :: u).take 1).filter fun d => isDigitChar d.toNat) = [e] :=
      List.filter_cons_of_pos (isDigitChar_of_isDecimal he)
    show afterBackslash? (d :: e :: u) = _
    rw [afterBackslash?_digit hd h0 hoctal, hfilter, readNatural_digits (by simp [hd, he]) (List.cons_ne_nil _ _)
      (by simp [digitLimit]), decimalValue_getD hd, decimalValue_getD he]
    simp [Except.map, Nat.ofDigitChars, Nat.mul_comm]

/-! ### What is written for a reference -/

/-- The text of a reference to a number, by its spelling. -/
def textOf (n : Nat) : Spelling → List Char
  | .backslash => '\\' :: referenceText n
  | .bracketed => '\\' :: 'g' :: '<' :: (Nat.toDigits 10 n ++ ['>'])
  | .condition => '(' :: '?' :: '(' :: (Nat.toDigits 10 n ++ [')'])
  | .call => '(' :: '?' :: (Nat.toDigits 10 n ++ [')'])

/-- A reference that is raised by one has been written with the digits of its number. -/
theorem write_raised {s : Spelling} {text : List Char} (h : s.write ((n : Int) + 1) = .ok text) :
    Raises n ∧ text = textOf (n + 1) s := by
  unfold Spelling.write at h
  change (writeNatural (n + 1) >>= fun ds => _) = _ at h
  unfold writeNatural at h
  dsimp only at h
  split at h
  · cases h
  · next hlimit =>
    refine ⟨Nat.not_lt.mp hlimit, ?_⟩
    cases s with
    | backslash =>
      change Except.ok (ite _ _ _) = _ at h
      cases h
      have hle : ((n : Int) + 1 ≤ 9) ↔ n + 1 ≤ 9 := by omega
      simp only [hle, textOf, referenceText]
      split <;> rfl
    | bracketed | condition | call =>
      cases h
      rfl

end Scan

/-! ### What pinned end anchors leave -/

section Pinned

variable {x b : Bool} {ds u v : List Char} {n : Nat} {c : Char}

theorem unmarked_of_isDecimal (h : isDecimal c = true) : Unmarked c :=
  ⟨ne_of_isDecimal h (by decide), ne_of_isDecimal h (by decide), ne_of_isDecimal h (by decide)⟩

theorem Fenced.pinnedIf {p : Char → Bool} (h : Fenced x p u) (hp : p '\\' = false) : Fenced x p (pinnedIf b u) := by
  intro c hc
  rcases @head?_pinnedIf b u with he | ⟨-, he⟩
  · exact h c (he ▸ hc)
  · rw [he] at hc
    cases hc
    exact ⟨fun hi => absurd hi.2 (by decide), hp⟩

theorem Settled.pinnedIf (h : Settled x u) : Settled x (pinnedIf b u) := fun c hc =>
  (Fenced.pinnedIf (p := fun _ => false) (fun c hc => ⟨h c hc, rfl⟩) rfl c hc).1

theorem BracketStays.pinnedIf (h : BracketStays x u) : BracketStays x (pinnedIf b u) := by
  refine ⟨h.1.pinnedIf, fun t ht => ?_⟩
  obtain ⟨t', rfl, rfl⟩ := pinnedIf_eq_cons (by decide) ht
  exact (h.2 t' rfl).pinnedIf (by decide)

theorem PlainEscape.pinnedIf (h : PlainEscape x c u) : PlainEscape x c (pinnedIf b u) where
  octal hdecimal h0 := by
    obtain ⟨ho, d, e, t, rfl, hd, he⟩ := h.octal hdecimal h0
    refine ⟨ho, d, e, PatternText.pinnedIf b t, ?_, hd, he⟩
    rw [pinnedIf_cons (unmarked_of_isDecimal (isDecimal_of_isOctal hd)),
      pinnedIf_cons (unmarked_of_isDecimal (isDecimal_of_isOctal he))]
  bracket hg := (h.bracket hg).pinnedIf

theorem ShortNumber.pinnedIf (h : ShortNumber x ds u n) : ShortNumber x ds (pinnedIf b u) n := by
  cases h with
  | one hd h0 hf => exact .one hd h0 (hf.pinnedIf (by decide))
  | two hd h0 he hf => exact .two hd h0 he fun hod hoe => (hf hod hoe).pinnedIf (by decide)

theorem keepsNothing_P (t : List Char) :
    keepsNothing ('P' :: t) = t.head?.any fun c => c == '=' || c == '>' || c == '&' := by
  cases t <;> rfl

theorem keepsNothing_angle (t : List Char) : keepsNothing ('<' :: t) = t.head?.any fun c => c == '=' || c == '!' := by
  cases t <;> rfl

theorem keepsNothing_of_head (h : ∀ c ∈ u.head?, c ≠ 'P' ∧ c ≠ '<' ∧ c ≠ '|') : keepsNothing u = true := by
  cases u with
  | nil => rfl
  | cons c t =>
    obtain ⟨hP, hangle, hbar⟩ := h c rfl
    unfold keepsNothing
    split <;> simp_all

theorem keepsNothing_pinnedIf : keepsNothing (pinnedIf b u) = keepsNothing u := by
  cases u with
  | nil => rw [pinnedIf_nil]
  | cons c t =>
    by_cases hP : c = 'P'
    · subst hP
      rw [pinnedIf_cons (by decide), keepsNothing_P, keepsNothing_P, any_head?_pinnedIf rfl]
    · by_cases hangle : c = '<'
      · subst hangle
        rw [pinnedIf_cons (by decide), keepsNothing_angle, keepsNothing_angle, any_head?_pinnedIf rfl]
      · by_cases hbar : c = '|'
        · subst hbar
          rw [pinnedIf_cons (by decide)]
          rfl
        · rw [keepsNothing_of_head (u := c :: t) fun d hd => by cases hd; exact ⟨hP, hangle, hbar⟩]
          refine keepsNothing_of_head fun d hd => ?_
          rcases @head?_pinnedIf b (c :: t) with he | ⟨-, he⟩
          · rw [he] at hd
            cases hd
            exact ⟨hP, hangle, hbar⟩
          · rw [he] at hd
            cases hd
            decide

theorem Question.pinnedIf (h : Question x u) : Question x (pinnedIf b u) where
  not_comment := head?_pinnedIf_ne h.not_comment (by decide)
  not_choice := head?_pinnedIf_ne h.not_choice (by decide)
  named t ht := by
    obtain ⟨t', rfl, rfl⟩ := pinnedIf_eq_cons (by decide) ht
    obtain ⟨hsettled, hequals⟩ := h.named t' rfl
    refine ⟨hsettled.pinnedIf, fun w hw => ?_⟩
    obtain ⟨w', rfl, rfl⟩ := pinnedIf_eq_cons (by decide) hw
    exact Fenced.pinnedIf (hequals w' rfl) (by decide)
  digits hhead := by
    obtain ⟨htake, hdrop⟩ := @takeWhile_pinnedIf b u isDecimal (fun _ => unmarked_of_isDecimal) (by decide)
    rw [any_head?_pinnedIf (by decide)] at hhead
    obtain ⟨hsettled, hor⟩ := h.digits hhead
    rw [htake, hdrop]
    exact ⟨hsettled.pinnedIf, hor.imp_right fun hne => head?_pinnedIf_ne hne (by decide)⟩
  plus t ht := by
    obtain ⟨t', rfl, rfl⟩ := pinnedIf_eq_cons (by decide) ht
    obtain ⟨htake, hdrop⟩ := @takeWhile_pinnedIf b t' isDecimal (fun _ => unmarked_of_isDecimal) (by decide)
    rw [htake, hdrop]
    exact (h.plus t' rfl).imp_left Settled.pinnedIf
  letters hx := by
    have hunmarked : ∀ c, (Reading.optionLetter? c).isSome = true → Unmarked c := by
      intro c hc
      refine ⟨?_, ?_, ?_⟩ <;> rintro rfl <;> cases hc
    rw [(@takeWhile_pinnedIf b u _ hunmarked rfl).1]
    exact h.letters hx

theorem pinnedIf_question : pinnedIf b ('(' :: '?' :: u) = '(' :: '?' :: pinnedIf b u := by
  rw [pinnedIf_cons (by decide), pinnedIf_cons (by decide)]

/-- A comment has no end anchor to pin, whether it is closed or not. -/
theorem pinnedIf_comment {cs : List Char} (hpassed : passed? .outside cs = some .outside) :
    pinnedIf b ('(' :: '?' :: '#' :: (cs ++ u)) = '(' :: '?' :: '#' :: (cs ++ pinnedIf b u) := by
  rw [pinnedIf_question, pinnedIf_cons (by decide), pinnedIf_passed hpassed]

theorem pinnedIf_digits {w : List Char} (hds : ∀ d ∈ ds, isDecimal d = true) :
    pinnedIf b (ds ++ w) = ds ++ pinnedIf b w := pinnedIf_append fun d hd => unmarked_of_isDecimal (hds d hd)

theorem pinnedIf_toDigits {w : List Char} :
    pinnedIf b (Nat.toDigits 10 n ++ w) = Nat.toDigits 10 n ++ pinnedIf b w :=
  pinnedIf_digits fun _ => isDecimal_of_mem_toDigits

theorem pinnedIf_numbers {w : List Char} (h : Numbers ds n) : pinnedIf b (ds ++ w) = ds ++ pinnedIf b w := by
  obtain ⟨-, hall⟩ := Bool.and_eq_true_iff.mp h.digits
  refine pinnedIf_append fun d hd => ?_
  have hdigit := List.all_eq_true.mp hall d hd
  refine ⟨?_, ?_, ?_⟩ <;> rintro rfl <;> exact absurd hdigit (by decide)

theorem pinnedIf_referenceText :
    pinnedIf b ('\\' :: (referenceText n ++ v)) = '\\' :: (referenceText n ++ pinnedIf b v) := by
  unfold referenceText
  split
  · have hdigits : ∀ c ∈ Nat.toDigits 10 n, isDecimal c = true := fun _ => isDecimal_of_mem_toDigits
    cases h : Nat.toDigits 10 n with
    | nil => exact absurd h Nat.toDigits_ne_nil
    | cons c cs =>
      rw [h] at hdigits
      rw [List.cons_append, pinnedIf_escape, pinnedIf_digits fun d hd => hdigits d (List.mem_cons_of_mem _ hd)]
      rfl
  · simp only [List.cons_append, List.append_assoc, List.nil_append]
    rw [pinnedIf_escape, pinnedIf_cons (by decide), pinnedIf_toDigits, pinnedIf_cons (by decide)]

theorem pinnedIf_short (h : ShortNumber x ds u n) : pinnedIf b ('\\' :: (ds ++ u)) = '\\' :: (ds ++ pinnedIf b u) := by
  cases h with
  | one => exact pinnedIf_escape
  | two _ _ he _ =>
    show pinnedIf b ('\\' :: _ :: _ :: u) = _
    rw [pinnedIf_escape, pinnedIf_cons (unmarked_of_isDecimal he)]
    rfl

/-- What is written for a reference has no end anchor. -/
theorem pinnedIf_textOf (n : Nat) (s : Spelling) : pinnedIf b (textOf n s ++ v) = textOf n s ++ pinnedIf b v := by
  cases s with
  | backslash => exact pinnedIf_referenceText
  | bracketed =>
    simp only [textOf, List.cons_append, List.append_assoc, List.nil_append]
    rw [pinnedIf_escape, pinnedIf_cons (by decide), pinnedIf_toDigits, pinnedIf_cons (by decide)]
  | condition | call =>
    simp only [textOf, List.cons_append, List.append_assoc, List.nil_append]
    simp only [pinnedIf_cons (show Unmarked '(' by decide), pinnedIf_cons (show Unmarked '?' by decide),
      pinnedIf_cons (show Unmarked ')' by decide), pinnedIf_toDigits]

end Pinned

/-! ### Enclosing a clear pattern -/

section Enclosing

variable {x b : Bool} {a : Option Nat} {ps : List Paren} {cs u v : List Char}

/-- A character that begins nothing is carried over. -/
theorem exists_of_shiftFrom_plain {c : Char} (h : shiftFrom 1 0 .outside (c :: u) = .ok v)
    (hnone : referenceAt? (c :: u) = .ok none) (hslash : c ≠ '\\') (hbracket : c ≠ '[') :
    ∃ v', v = c :: v' ∧ shiftFrom 1 0 .outside u = .ok v' := by
  have hnext : Place.outside.next c = .outside := by
    show (if c = '\\' then Place.escaped false else if c = '[' then .opened else .outside) = _
    rw [if_neg hslash, if_neg hbracket]
  rw [← hnext]
  exact exists_of_shiftFrom h fun _ => hnone

theorem exists_of_shiftFrom_char {c : Char} (h : shiftFrom 1 0 .outside (c :: u) = .ok v) (hc : c ∉ signs) :
    ∃ v', v = c :: v' ∧ shiftFrom 1 0 .outside u = .ok v' := by
  simp only [signs, List.mem_cons, List.not_mem_nil, or_false, not_or] at hc
  exact exists_of_shiftFrom_plain h (referenceAt?_of_ne hc.1 hc.2.1) hc.1 hc.2.2.2

/-- An opening parenthesis that begins no reference is carried over. -/
theorem exists_of_shiftFrom_open (h : shiftFrom 1 0 .outside ('(' :: u) = .ok v)
    (hnone : referenceAt? ('(' :: u) = .ok none) : ∃ v', v = '(' :: v' ∧ shiftFrom 1 0 .outside u = .ok v' :=
  exists_of_shiftFrom_plain h hnone (by decide) (by decide)

/-- So is `(?`. -/
theorem exists_of_shiftFrom_question (h : shiftFrom 1 0 .outside ('(' :: '?' :: u) = .ok v)
    (hnone : referenceAt? ('(' :: '?' :: u) = .ok none) :
    ∃ v', v = '(' :: '?' :: v' ∧ shiftFrom 1 0 .outside u = .ok v' := by
  obtain ⟨v₁, rfl, h₁⟩ := exists_of_shiftFrom_open h hnone
  obtain ⟨v₂, rfl, h₂⟩ := exists_of_shiftFrom_char h₁ (by decide)
  exact ⟨v₂, rfl, h₂⟩

/-- A comment is carried over as it stands. -/
theorem exists_of_shiftFrom_comment (h : shiftFrom 1 0 .outside ('(' :: '?' :: '#' :: (cs ++ u)) = .ok v)
    (hpassed : passed? .outside cs = some .outside) :
    ∃ v', v = '(' :: '?' :: '#' :: (cs ++ v') ∧ shiftFrom 1 0 .outside u = .ok v' := by
  obtain ⟨v₁, rfl, h₁⟩ := exists_of_shiftFrom_question h referenceAt?_comment
  obtain ⟨v₂, rfl, h₂⟩ := exists_of_shiftFrom_char h₁ (by decide)
  obtain ⟨v₃, rfl, h₃⟩ := exists_of_shiftFrom_passed hpassed h₂
  exact ⟨v₃, rfl, h₃⟩

/-- A reference is written with its number raised. -/
theorem exists_of_shiftFrom_numbered {c : Char} {t : List Char} {s : Spelling} {n length : Nat}
    (h : shiftFrom 1 0 .outside (c :: t) = .ok v) (hr : referenceAt? (c :: t) = .ok (some ⟨s, n, length⟩))
    (ht : t = cs ++ u) (hlength : length = cs.length + 1) :
    ∃ v', Raises n ∧ v = textOf (n + 1) s ++ v' ∧ shiftFrom 1 0 .outside u = .ok v' := by
  subst ht
  obtain ⟨text, v', htext, rfl, hrest⟩ := exists_of_shiftFrom_reference h hr hlength
  obtain ⟨hraises, rfl⟩ := write_raised htext
  exact ⟨v', hraises, rfl, hrest⟩

theorem afterLine_line (hcs : ∀ c ∈ cs, c ≠ '\n') : afterLine (cs ++ '\n' :: u) = u := by
  induction cs with
  | nil => rfl
  | cons c cs ih =>
    rw [List.cons_append, afterLine, if_neg (hcs c List.mem_cons_self)]
    exact ih fun d hd => hcs d (List.mem_cons_of_mem _ hd)

/-- A comment up to the end of its line is the same in both texts. -/
theorem Raised.line (hx : x = true) (hcs : LineText cs) (h : Raised x a ps u v) :
    Raised x a ps (cs ++ '\n' :: u) (cs ++ '\n' :: v) := by
  induction cs with
  | nil => exact .char (by decide) (fun _ => by decide) h
  | cons c cs ih =>
    have hrest : LineText cs := fun d hd => hcs d (List.mem_cons_of_mem _ hd)
    have hends : ∀ d ∈ cs, d ≠ '\n' := fun d hd => (hrest d hd).2.2
    by_cases hc : c = '#'
    · subst hc
      refine .hash hx (ih hrest) ?_
      show Raised x a ps (afterLine (cs ++ '\n' :: u)) (afterLine (cs ++ '\n' :: v))
      rw [afterLine_line hends, afterLine_line hends]
      exact h
    · exact .char (hcs c List.mem_cons_self).1 (fun _ => hc) (ih hrest)

theorem passed?_line (hcs : LineText cs) : passed? .outside cs = some .outside := by
  induction cs with
  | nil => rfl
  | cons c cs ih =>
    obtain ⟨hsign, hdollar, -⟩ := hcs c List.mem_cons_self
    simp only [signs, List.mem_cons, List.not_mem_nil, or_false, not_or] at hsign
    have hnext := next_of_unmarked (c := c) ⟨hsign.1, hsign.2.2.2, hdollar⟩
    rw [passed?, if_neg fun hc => hc.2.elim hsign.1 fun hc => hc.elim hsign.2.1 hdollar, hnext]
    exact ih fun d hd => hcs d (List.mem_cons_of_mem _ hd)

/-- Neither has a comment up to the end of its line an end anchor to pin. -/
theorem pinnedIf_line (hcs : LineText cs) :
    pinnedIf b ('#' :: (cs ++ '\n' :: u)) = '#' :: (cs ++ '\n' :: pinnedIf b u) := by
  rw [pinnedIf_cons (by decide), pinnedIf_passed (passed?_line hcs), pinnedIf_cons (by decide)]

theorem exists_of_shiftFrom_close (h : shiftFrom 1 0 .outside (')' :: u) = .ok v) :
    ∃ v', v = ')' :: v' ∧ shiftFrom 1 0 .outside u = .ok v' :=
  exists_of_shiftFrom_plain h (referenceAt?_of_ne (by decide) (by decide)) (by decide) (by decide)

/-- **What a scan makes of a clear text** is the text with the references raised that a reader takes for some, with end
anchors pinned or not. -/
theorem Clear.raised (b : Bool) (h : Clear x a ps u) (hshift : shiftFrom 1 0 .outside u = .ok v) :
    Raised x a ps (pinnedIf b u) (pinnedIf b v ++ [')']) := by
  induction h generalizing v with
  | done =>
    cases hshift
    rw [pinnedIf_nil]
    exact .done
  | @char a ps c u hc hhash _ ih =>
    -- the scan keeps the character; the pinning writes an end anchor in another way
    obtain ⟨v, rfl, hrest⟩ := exists_of_shiftFrom_char hshift hc
    have h := ih hrest
    by_cases hdollar : c = '$'
    · subst hdollar
      rw [pinnedIf_dollar, pinnedIf_dollar, List.append_assoc]
      cases b with
      | false => exact .char hc hhash h
      | true => exact .escape ⟨fun hd => absurd hd (by decide), fun hg => absurd hg (by decide)⟩ h
    · have hunmarked : Unmarked c :=
        ⟨fun he => hc (by rw [he]; decide), fun he => hc (by rw [he]; decide), hdollar⟩
      rw [pinnedIf_cons hunmarked, pinnedIf_cons hunmarked]
      exact .char hc hhash h
  | @hash a ps cs u hx hcs _ ih =>
    obtain ⟨v₁, rfl, h₁⟩ := exists_of_shiftFrom_char hshift (by decide)
    obtain ⟨v₂, rfl, h₂⟩ := exists_of_shiftFrom_passed (passed?_line hcs) h₁
    obtain ⟨v₃, rfl, h₃⟩ := exists_of_shiftFrom_char h₂ (by decide)
    have hends : ∀ d ∈ cs, d ≠ '\n' := fun d hd => (hcs d hd).2.2
    rw [pinnedIf_line hcs, pinnedIf_line hcs]
    simp only [List.cons_append, List.append_assoc]
    -- a reader of comments goes on behind the line, another one reads the line itself
    refine .hash hx (.line hx hcs (ih h₃)) ?_
    rw [afterLine_line hends, afterLine_line hends]
    exact ih h₃
  | @escape a ps c u hc _ ih =>
    obtain ⟨v₁, rfl, h₁⟩ := exists_of_shiftFrom hshift fun _ => referenceAt?_escape hc
    obtain ⟨v₂, rfl, h₂⟩ := exists_of_shiftFrom h₁ fun hplace => nomatch hplace
    rw [pinnedIf_escape, pinnedIf_escape]
    exact .escape hc.pinnedIf (ih h₂)
  | dangling =>
    obtain ⟨v₁, rfl, h₁⟩ := exists_of_shiftFrom hshift fun _ => rfl
    cases h₁
    rw [pinnedIf_dangling]
    exact .dangling
  | @backslash a ps ds n u hds hone hopen _ ih =>
    obtain ⟨v₁, hraises, rfl, h₁⟩ :=
      exists_of_shiftFrom_numbered hshift (referenceAt?_short hds hone) rfl (Nat.add_comm ..)
    rw [pinnedIf_short hds, pinnedIf_textOf]
    simp only [textOf, List.cons_append, List.append_assoc]
    exact .backslash hds.pinnedIf hraises hopen (ih h₁)
  | @bracketed a ps ds n u hds hopen _ ih =>
    have hcs : 'g' :: '<' :: (ds ++ '>' :: u) = 'g' :: '<' :: (ds ++ ['>']) ++ u := by simp
    obtain ⟨v₁, hraises, rfl, h₁⟩ :=
      exists_of_shiftFrom_numbered hshift (referenceAt?_bracketed hds) hcs (by simp; omega)
    rw [pinnedIf_escape, pinnedIf_cons (by decide), pinnedIf_numbers hds, pinnedIf_cons (by decide), pinnedIf_textOf]
    simp only [textOf, List.cons_append, List.append_assoc]
    exact .bracketed hds hraises hopen (ih h₁)
  | @classText a ps k u hk hpassed _ ih =>
    obtain ⟨v₁, rfl, h₁⟩ := exists_of_shiftFrom hshift fun _ => referenceAt?_of_ne (by decide) (by decide)
    obtain ⟨v₂, rfl, h₂⟩ := exists_of_shiftFrom_passed hpassed h₁
    rw [pinnedIf_class hpassed, pinnedIf_class hpassed, List.cons_append, List.append_assoc]
    exact .classText hk (ih h₂)
  | @classOpen a ps k hk hpassed =>
    obtain ⟨place, hpassed⟩ := Option.isSome_iff_exists.mp hpassed
    obtain ⟨v₁, rfl, h₁⟩ := exists_of_shiftFrom hshift fun _ => referenceAt?_of_ne (by decide) (by decide)
    rw [← List.append_nil k] at h₁
    obtain ⟨v₂, rfl, h₂⟩ := exists_of_shiftFrom_passed hpassed h₁
    cases h₂
    rw [List.append_nil, pinnedIf_class_open hpassed]
    exact .classOpen hk
  | @comment a ps cs u hcs hpassed _ ih =>
    obtain ⟨v₁, rfl, h₁⟩ := exists_of_shiftFrom_comment hshift hpassed
    obtain ⟨v₂, rfl, h₂⟩ := exists_of_shiftFrom_close h₁
    rw [pinnedIf_comment hpassed, pinnedIf_comment hpassed, pinnedIf_cons (by decide), pinnedIf_cons (by decide)]
    simp only [List.cons_append, List.append_assoc]
    exact .comment hcs hcs (ih h₂)
  | @commentOpen a ps cs hcs hpassed =>
    -- nothing is left behind the comment, so the parenthesis that is added falls into it
    rw [← List.append_nil cs] at hshift
    obtain ⟨v₁, rfl, h₁⟩ := exists_of_shiftFrom_comment hshift hpassed
    cases h₁
    have hpinned : pinnedIf b ('(' :: '?' :: '#' :: cs) = '(' :: '?' :: '#' :: cs := by
      rw [← List.append_nil cs, pinnedIf_comment hpassed, pinnedIf_nil]
    rw [List.append_nil, hpinned]
    exact .commentOpen (.text hcs) (.text hcs)
  | @condition a ps ds n u hds _ ih =>
    have hcs : '?' :: '(' :: (ds ++ ')' :: u) = '?' :: '(' :: (ds ++ [')']) ++ u := by simp
    obtain ⟨v₁, hraises, rfl, h₁⟩ :=
      exists_of_shiftFrom_numbered hshift (referenceAt?_condition hds) hcs (by simp; omega)
    rw [pinnedIf_question, pinnedIf_cons (by decide), pinnedIf_numbers hds, pinnedIf_cons (by decide), pinnedIf_textOf]
    simp only [textOf, List.cons_append, List.append_assoc]
    exact .condition hds hraises (ih h₁)
  | @call a ps ds n u hds hdecimal _ ih =>
    have hcs : '?' :: (ds ++ ')' :: u) = '?' :: (ds ++ [')']) ++ u := by simp
    obtain ⟨v₁, hraises, rfl, h₁⟩ :=
      exists_of_shiftFrom_numbered hshift (referenceAt?_call hds) hcs (by simp; omega)
    rw [pinnedIf_question, pinnedIf_numbers hds, pinnedIf_cons (by decide), pinnedIf_textOf]
    simp only [textOf, List.cons_append, List.append_assoc]
    exact .call hds hdecimal hraises (ih h₁)
  | @choice a ps u hname hlook _ ih =>
    obtain ⟨v₁, rfl, h₁⟩ := exists_of_shiftFrom_question hshift (referenceAt?_choice hname)
    obtain ⟨v₂, rfl, h₂⟩ := exists_of_shiftFrom_open h₁ (referenceAt?_look hlook)
    rw [pinnedIf_question, pinnedIf_question, pinnedIf_cons (by decide), pinnedIf_cons (by decide)]
    exact .choice (Fenced.pinnedIf hname (by decide)) (ih h₂)
  | @question a ps u hquestion _ ih =>
    obtain ⟨v₁, rfl, h₁⟩ := exists_of_shiftFrom_question hshift (referenceAt?_question hquestion)
    have h := ih h₁
    rw [pinnedIf_question, pinnedIf_question]
    refine .question hquestion.toQuestion.pinnedIf ?_
    unfold questionCount questionParen at h ⊢
    rw [keepsNothing_pinnedIf]
    exact h
  | @star a ps u _ ih =>
    -- the asterisk is not taken from the text: what follows it is read again with it
    obtain ⟨v₁, rfl, h₁⟩ := exists_of_shiftFrom_open hshift (referenceAt?_open (by simp))
    have h := ih h₁
    obtain ⟨v₂, rfl, -⟩ := exists_of_shiftFrom_char h₁ (by decide)
    simp only [pinnedIf_cons (show Unmarked '(' by decide), pinnedIf_cons (show Unmarked '*' by decide),
      List.cons_append] at h ⊢
    exact .star h
  | @group a ps u hquestion hstar _ ih =>
    obtain ⟨v₁, rfl, h₁⟩ := exists_of_shiftFrom_open hshift (referenceAt?_open hquestion)
    rw [pinnedIf_cons (by decide), pinnedIf_cons (by decide)]
    exact .group (head?_pinnedIf_ne hquestion (by decide)) (head?_pinnedIf_ne hstar (by decide)) (ih h₁)
  | @close a ps q u _ ih =>
    obtain ⟨v₁, rfl, h₁⟩ := exists_of_shiftFrom_close hshift
    rw [pinnedIf_cons (by decide), pinnedIf_cons (by decide)]
    exact .close (ih h₁)

end Enclosing

/-! ### Literal patterns -/

theorem plainEscape_of_needsEscape {x : Bool} {c : Char} {u : List Char} (h : needsEscape c = true) :
    PlainEscape x c u where
  octal hdecimal _ := by
    have hsigns : ∀ d ∈ specialSigns, isDecimal d = false := eq_false_of_any (by decide)
    rcases Bool.or_eq_true_iff.mp h with hsign | hblank
    · have hnot := hsigns c (List.contains_iff_mem.mp hsign)
      rw [hdecimal] at hnot
      cases hnot
    · rw [isBlank_of_isDecimal hdecimal] at hblank
      cases hblank
  bracket hg := by
    subst hg
    exact absurd h (by decide)

/-- The text of a literal pattern is clear wherever it stands. -/
theorem clear_escapeLiteral {x : Bool} {a : Option Nat} {ps : List Paren} (cs : List Char) :
    Clear x a ps (escapeLiteral cs) := by
  induction cs with
  | nil => exact .done
  | cons c cs ih =>
    show Clear x a ps ((if needsEscape c then ['\\', c] else [c]) ++ escapeLiteral cs)
    split
    · next hc => exact .escape (plainEscape_of_needsEscape hc) ih
    · next hc =>
      refine .char (fun hsign => hc ?_) (fun _ he => hc (by rw [he]; decide)) ih
      simp only [signs, List.mem_cons, List.not_mem_nil, or_false] at hsign
      rcases hsign with rfl | rfl | rfl | rfl <;> decide

theorem head?_escapeLiteral_ne {c : Char} {cs : List Char} (hc : needsEscape c = true) (hslash : c ≠ '\\') :
    (escapeLiteral cs).head? ≠ some c := by
  cases cs with
  | nil => exact fun h => nomatch h
  | cons d ds =>
    show ((if needsEscape d then ['\\', d] else [d]) ++ escapeLiteral ds).head? ≠ some c
    split
    · exact fun h => hslash (Option.some.inj h).symm
    · next hd =>
      intro h
      obtain rfl := Option.some.inj h
      exact hd hc

end SqlRegexp.Pattern
