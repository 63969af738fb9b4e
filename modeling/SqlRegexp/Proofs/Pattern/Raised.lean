import Mathlib.Data.List.TakeWhile
import SqlRegexp.Proofs.Pattern.Onward

/-!
The text of a pattern, and its text inside a parenthesis around all of it.

`Raised x a ps u v`: where `u` is left to read of a pattern, `v` is left of the text in which its numbered references
are raised by one and that a closing parenthesis ends. The relation goes by what a reader makes of the text, not by how
the text has been changed: its references are those that a reader meets. `ps` are the parentheses open at this place and
`a` the number of the last group, as far as the text shows them.

* `Raised.uncons`: both texts begin with the same character, and go on alike behind a character that has no meaning.
* `Raised.seen`, `Raised.taken`: so they do behind ignored blanks and behind a run of characters.
-/

namespace SqlRegexp.Pattern

open SqlRegexp.Text SqlRegexp.Unicode

/-! ### Parentheses -/

/-- An open parenthesis. -/
inductive Paren where
  /-- It keeps no group. -/
  | bare
  /-- It keeps the group of a number. -/
  | keeping (number : Nat)
  /-- It may keep a group, of whatever number. -/
  | unknown

/-- Open parentheses, and the numbers of the groups that are open in them, the innermost first. -/
inductive Opens : List Paren → List Nat → Prop
  | nil : Opens [] []
  | bare {ps ns} : Opens ps ns → Opens (.bare :: ps) ns
  | keeping {ps ns} (n : Nat) : Opens ps ns → Opens (.keeping n :: ps) (n :: ns)
  | unknown {ps ns} (n : Nat) : Opens ps ns → Opens (.unknown :: ps) (n :: ns)
  | neither {ps ns} : Opens ps ns → Opens (.unknown :: ps) ns

/-- None of the open parentheses keeps the group of a number. -/
def NotOpen (ps : List Paren) (n : Nat) : Prop := ∀ q ∈ ps, q = .bare ∨ ∃ m, q = .keeping m ∧ m ≠ n

theorem NotOpen.not_mem {ps : List Paren} {ns : List Nat} {n : Nat} (h : NotOpen ps n) (ho : Opens ps ns) : n ∉ ns := by
  induction ho with
  | nil => exact List.not_mem_nil
  | bare _ ih => exact ih fun q hq => h q (List.mem_cons_of_mem _ hq)
  | keeping m _ ih =>
    have hm : m ≠ n := by
      rcases h _ List.mem_cons_self with hb | ⟨k, hk, hne⟩
      · cases hb
      · cases hk
        exact hne
    rw [List.mem_cons, not_or]
    exact ⟨hm.symm, ih fun q hq => h q (List.mem_cons_of_mem _ hq)⟩
  | unknown m _ _ | neither _ _ =>
    rcases h _ List.mem_cons_self with hb | ⟨k, hk, -⟩
    · cases hb
    · cases hk

/-! ### What stands between -/

/-- The characters that begin something of several characters. -/
def signs : List Char := ['\\', '(', ')', '[']

/-- No character of a list is of a kind, if a look at each of them finds none. -/
theorem eq_false_of_any {p : Char → Bool} {cs : List Char} (h : cs.any p = false) : ∀ c ∈ cs, p c = false :=
  fun c hc => Bool.eq_false_iff.mpr (List.any_eq_false.mp h c hc)

/-- Whether a character may be ignored: a blank or the start of a comment, where that is possible at all. -/
def Ignorable (x : Bool) (c : Char) : Prop := x = true ∧ (isBlank c.toNat = true ∨ c = '#')

/-- A text does not begin with anything that may be ignored. -/
def Settled (x : Bool) (cs : List Char) : Prop := ∀ c ∈ cs.head?, ¬ Ignorable x c

/-- A text begins with nothing that may be ignored and with no character of a kind. -/
def Fenced (x : Bool) (p : Char → Bool) (cs : List Char) : Prop := ∀ c ∈ cs.head?, ¬ Ignorable x c ∧ p c = false

/-- What follows the end of a line. -/
def afterLine : List Char → List Char
  | [] => []
  | c :: cs => if c = '\n' then cs else afterLine cs

/-! ### References -/

/-- Digits that a numeral of a positive number consists of. -/
structure Numbers (ds : List Char) (n : Nat) : Prop where
  digits : isAllDigits ds = true
  solid : ∀ d ∈ ds, isBlank d.toNat = false
  reads : readNatural ds = .ok n
  pos : 1 ≤ n

/-- The digits of a number raised by one can be written, and be read again. -/
def Raises (n : Nat) : Prop := (Nat.toDigits 10 (n + 1)).length ≤ digitLimit

/-- The digits behind a backslash that refer to a group, given what follows them: one or two of them, and they must not
be taken for others. -/
inductive ShortNumber (x : Bool) : (ds u : List Char) → Nat → Prop
  | one {d u} : isDecimal d = true → d ≠ '0' → Fenced x isDecimal u → ShortNumber x [d] u ((decimalValue? d).getD 0)
  | two {d e u} : isDecimal d = true → d ≠ '0' → isDecimal e = true →
      (isOctal d = true → isOctal e = true → Fenced x isOctal u) →
      ShortNumber x [d, e] u ((decimalValue? d).getD 0 * 10 + (decimalValue? e).getD 0)

/-- What follows the backslash of a reference to a group. A backslash alone takes one digit. -/
def referenceText (n : Nat) : List Char :=
  if n ≤ 9 then Nat.toDigits 10 n else 'g' :: '<' :: (Nat.toDigits 10 n ++ ['>'])

/-- A letter `g` behind a backslash begins no numbered reference. -/
def BracketStays (x : Bool) (u : List Char) : Prop :=
  Settled x u ∧ ∀ t, u = '<' :: t → Fenced x (fun c => isDigitChar c.toNat) t

/-- A backslash and a character begin no numbered reference. -/
structure PlainEscape (x : Bool) (c : Char) (u : List Char) : Prop where
  octal : isDecimal c = true → c ≠ '0' →
    isOctal c = true ∧ ∃ d e t, u = d :: e :: t ∧ isOctal d = true ∧ isOctal e = true
  bracket : c = 'g' → BracketStays x u

/-! ### Classes -/

/-- The name of a property at the front of a text, with the qualifier in front of it if there is one, and what follows
it. -/
def splitName (cs : List Char) : (Option (List Char) × List Char) × List Char :=
  let name := cs.takeWhile Reading.isNameChar
  match cs.dropWhile Reading.isNameChar with
  | c :: t =>
    if (c == ':' || c == '=') && !(trimBlanks (t.takeWhile Reading.isValueChar)).isEmpty then
      ((some name, trimBlanks (t.takeWhile Reading.isValueChar)), t.dropWhile Reading.isValueChar)
    else ((none, name), c :: t)
  | [] => ((none, name), [])

/-- What follows the end of a named class. -/
def afterColon? : List Char → Option (List Char)
  | ':' :: ']' :: t => some t
  | _ => none

/-- A named class, given what follows its `[:`: whether it stands for its opposite, its name and what follows it. -/
def namedAfter? (cs : List Char) : Option (Bool × (Option (List Char) × List Char) × List Char) :=
  let negated := decide (cs.head? = some '^')
  let split := splitName (if negated then cs.tail else cs)
  (afterColon? split.2).map fun t => (negated, split.1, t)

/-- The text of a class from one of its members on, up to its end if it has one. -/
inductive InClass : (closed : Bool) → List Char → Prop
  | close : InClass true [']']
  | nothing : InClass false []
  | dangling : InClass false ['\\']
  | escape {b k} (c : Char) : InClass b k → InClass b ('\\' :: c :: k)
  | named {b negated name k m} : namedAfter? m = some (negated, name, k) → InClass b k → InClass b ('[' :: ':' :: m)
  | char {b c k} : c ≠ '\\' → c ≠ ']' → (∀ m, c = '[' → k = ':' :: m → namedAfter? m = none) → InClass b k →
      InClass b (c :: k)

/-- The text of a class from its first member on. A closing bracket may be the first member. -/
inductive ClassStart : (closed : Bool) → List Char → Prop
  | member {b k} : k.head? ≠ some ']' → InClass b k → ClassStart b k
  | bracket {b k} : InClass b k → ClassStart b (']' :: k)

/-- The text of a class behind its opening bracket. -/
inductive ClassText : (closed : Bool) → List Char → Prop
  | plain {b k} : k.head? ≠ some '^' → ClassStart b k → ClassText b k
  | negated {b k} : ClassStart b k → ClassText b ('^' :: k)

/-! ### Parentheses with a question mark -/

/-- The text of a comment up to its closing parenthesis. -/
inductive CommentText : List Char → Prop
  | nil : CommentText []
  | pair {cs} (c : Char) : CommentText cs → CommentText ('\\' :: c :: cs)
  | char {c cs} : c ≠ '\\' → c ≠ ')' → CommentText cs → CommentText (c :: cs)

/-- A comment without an end. -/
inductive CommentOpen : List Char → Prop
  | text {cs} : CommentText cs → CommentOpen cs
  | dangling {cs} : CommentText cs → CommentOpen (cs ++ ['\\'])

/-- Whether a text begins with no digit and nothing that may be ignored, so that no number is read. -/
def NameStart (x : Bool) (u : List Char) : Prop := Fenced x (fun c => isDigitChar c.toNat) u

/-- What follows `(?` is neither a comment, nor a choice, nor a reference to a numbered group that is to be raised. -/
structure Question (x : Bool) (u : List Char) : Prop where
  not_comment : u.head? ≠ some '#'
  not_choice : u.head? ≠ some '('
  named : ∀ t, u = 'P' :: t → Settled x t ∧ ∀ t', t = '=' :: t' → NameStart x t'
  digits : u.head?.any isDecimal = true → Settled x (u.dropWhile isDecimal) ∧
    (readNatural (u.takeWhile isDecimal) = .ok 0 ∨ (u.dropWhile isDecimal).head? ≠ some ')')
  plus : ∀ t, u = '+' :: t → Settled x (t.dropWhile isDecimal) ∧ readNatural (t.takeWhile isDecimal) ≠ .ok 0
  letters : x = false → 'x' ∉ u.takeWhile fun c => (Reading.optionLetter? c).isSome

/-- Whether it shows from what follows `(?` that it keeps no group and does not change how groups are numbered. -/
def keepsNothing : List Char → Bool
  | 'P' :: c :: _ => c == '=' || c == '>' || c == '&'
  | 'P' :: [] => false
  | '<' :: c :: _ => c == '=' || c == '!'
  | '<' :: [] => false
  | '|' :: _ => false
  | _ => true

/-- The parenthesis of a group without a name, which is the next one. -/
def nextGroup : Option Nat → Paren
  | some n => .keeping (n + 1)
  | none => .unknown

/-- The parenthesis of `(?`. -/
def questionParen (u : List Char) : Paren := if keepsNothing u then .bare else .unknown

/-- The number of the last group behind `(?`, as far as it is known. -/
def questionCount (a : Option Nat) (u : List Char) : Option Nat := if keepsNothing u then a else none

/-! ### The relation -/

/-- The text `v` is what `u` is once the numbered references that a reader meets in it are raised by one, and a closing
parenthesis ends it. Where blanks and comments may be ignored, `x` is set. -/
inductive Raised (x : Bool) : Option Nat → List Paren → List Char → List Char → Prop
  | done {a ps} : Raised x a ps [] [')']
  | char {a ps c u v} : c ∉ signs → (x = true → c ≠ '#') → Raised x a ps u v → Raised x a ps (c :: u) (c :: v)
  | hash {a ps u v} : x = true → Raised x a ps u v → Raised x a ps (afterLine u) (afterLine v) →
      Raised x a ps ('#' :: u) ('#' :: v)
  | escape {a ps c u v} : PlainEscape x c u → Raised x a ps u v → Raised x a ps ('\\' :: c :: u) ('\\' :: c :: v)
  | dangling {a ps} : Raised x a ps ['\\'] ['\\', ')']
  | backslash {a ps ds n u v} : ShortNumber x ds u n → Raises n → (9 ≤ n → NotOpen ps n) → Raised x a ps u v →
      Raised x a ps ('\\' :: (ds ++ u)) ('\\' :: (referenceText (n + 1) ++ v))
  | bracketed {a ps ds n u v} : Numbers ds n → Raises n → NotOpen ps n → Raised x a ps u v →
      Raised x a ps ('\\' :: 'g' :: '<' :: (ds ++ '>' :: u))
        ('\\' :: 'g' :: '<' :: (Nat.toDigits 10 (n + 1) ++ '>' :: v))
  | classText {a ps k u v} : ClassText true k → Raised x a ps u v → Raised x a ps ('[' :: (k ++ u)) ('[' :: (k ++ v))
  | classOpen {a ps k} : ClassText false k → Raised x a ps ('[' :: k) ('[' :: (k ++ [')']))
  | comment {a ps cs cs' u v} : CommentText cs → CommentText cs' → Raised x a ps u v →
      Raised x a ps ('(' :: '?' :: '#' :: (cs ++ ')' :: u)) ('(' :: '?' :: '#' :: (cs' ++ ')' :: v))
  | commentOpen {a ps cs cs'} : CommentOpen cs → CommentOpen cs' →
      Raised x a ps ('(' :: '?' :: '#' :: cs) ('(' :: '?' :: '#' :: (cs' ++ [')']))
  | condition {a ps ds n u v} : Numbers ds n → Raises n → Raised x a (.bare :: ps) u v →
      Raised x a ps ('(' :: '?' :: '(' :: (ds ++ ')' :: u)) ('(' :: '?' :: '(' :: (Nat.toDigits 10 (n + 1) ++ ')' :: v))
  | call {a ps ds n u v} : Numbers ds n → (∀ d ∈ ds, isDecimal d = true) → Raises n → Raised x a ps u v →
      Raised x a ps ('(' :: '?' :: (ds ++ ')' :: u)) ('(' :: '?' :: (Nat.toDigits 10 (n + 1) ++ ')' :: v))
  | choice {a ps u v} : NameStart x u → Raised x a (.bare :: .bare :: ps) u v →
      Raised x a ps ('(' :: '?' :: '(' :: u) ('(' :: '?' :: '(' :: v)
  | question {a ps u v} : Question x u → Raised x (questionCount a u) (questionParen u :: ps) u v →
      Raised x a ps ('(' :: '?' :: u) ('(' :: '?' :: v)
  | star {a ps u v} : Raised x none (.unknown :: ps) ('*' :: u) ('*' :: v) →
      Raised x a ps ('(' :: '*' :: u) ('(' :: '*' :: v)
  | group {a ps u v} : u.head? ≠ some '?' → u.head? ≠ some '*' → Raised x (a.map (· + 1)) (nextGroup a :: ps) u v →
      Raised x a ps ('(' :: u) ('(' :: v)
  | close {a ps q u v} : Raised x a ps u v → Raised x a (q :: ps) (')' :: u) (')' :: v)

namespace Raised

variable {x : Bool} {a : Option Nat} {ps : List Paren} {u v : List Char}

/-- Both texts begin with the same character, and behind a character without a meaning they go on alike. Only where the
pattern is at its end, the closing parenthesis is left. -/
theorem uncons (h : Raised x a ps u v) :
    (u = [] ∧ v = [')']) ∨ ∃ c u' v', u = c :: u' ∧ v = c :: v' ∧ (c ∉ signs → Raised x a ps u' v') := by
  have hslash : '\\' ∈ signs := by decide
  have hopen : '(' ∈ signs := by decide
  have hclose : ')' ∈ signs := by decide
  have hbracket : '[' ∈ signs := by decide
  cases h with
  | done => exact .inl ⟨rfl, rfl⟩
  | char _ _ h => exact .inr ⟨_, _, _, rfl, rfl, fun _ => h⟩
  | hash _ h _ => exact .inr ⟨_, _, _, rfl, rfl, fun _ => h⟩
  | escape | dangling | backslash | bracketed => exact .inr ⟨_, _, _, rfl, rfl, fun hc => absurd hslash hc⟩
  | classText | classOpen => exact .inr ⟨_, _, _, rfl, rfl, fun hc => absurd hbracket hc⟩
  | close => exact .inr ⟨_, _, _, rfl, rfl, fun hc => absurd hclose hc⟩
  | comment | commentOpen | condition | call | choice | question | star | group =>
    exact .inr ⟨_, _, _, rfl, rfl, fun hc => absurd hopen hc⟩

/-- A character without a meaning at the front of the one text is at the front of the other too. -/
theorem of_cons {c : Char} (h : Raised x a ps (c :: u) v) (hc : c ∉ signs) :
    ∃ v', v = c :: v' ∧ Raised x a ps u v' := by
  rcases h.uncons with ⟨hu, -⟩ | ⟨d, u', v', hu, rfl, h'⟩
  · cases hu
  · cases hu
    exact ⟨v', rfl, h' hc⟩

theorem head? (h : Raised x a ps u v) : v.head? = u.head? ∨ u = [] ∧ v = [')'] := by
  rcases h.uncons with h | ⟨c, u', v', rfl, rfl, -⟩
  · exact .inr h
  · exact .inl rfl

theorem head?_ne (h : Raised x a ps u v) {c : Char} (hu : u.head? ≠ some c) (hc : c ≠ ')') : v.head? ≠ some c := by
  rcases h.head? with he | ⟨-, rfl⟩
  · rwa [he]
  · exact fun he => hc (Option.some.inj he).symm

/-! ### Ignored blanks and runs of characters -/

theorem not_ignored {c : Char} (hc : c ∈ signs) : isBlank c.toNat = false ∧ c ≠ '#' := by
  simp only [signs, List.mem_cons, List.not_mem_nil, or_false] at hc
  rcases hc with rfl | rfl | rfl | rfl <;> decide

theorem skipIgnored_true (cs : List Char) : Source.skipIgnored true cs = Source.skipIgnored false (afterLine cs) := by
  induction cs with
  | nil => rfl
  | cons c cs ih =>
    rw [Source.skipIgnored, afterLine]
    split
    · rfl
    · exact ih

theorem length_afterLine (cs : List Char) : (afterLine cs).length ≤ cs.length := by
  induction cs with
  | nil => exact Nat.le_refl _
  | cons c cs ih =>
    rw [afterLine, List.length_cons]
    split <;> omega

theorem of_hash {u v : List Char} (hx : x = true) (h : Raised x a ps ('#' :: u) v) :
    ∃ v', v = '#' :: v' ∧ Raised x a ps (afterLine u) (afterLine v') := by
  cases h with
  | char _ hne _ => exact absurd rfl (hne hx)
  | hash _ _ h => exact ⟨_, rfl, h⟩

theorem skipIgnored (hx : x = true) (h : Raised x a ps u v) :
    Raised x a ps (Source.skipIgnored false u) (Source.skipIgnored false v) := by
  induction hn : u.length using Nat.strongRecOn generalizing u v with
  | ind n ih =>
    rcases h.uncons with ⟨rfl, rfl⟩ | ⟨c, u', v', rfl, rfl, h'⟩
    · exact .done
    · have hlen : u'.length < n := by rw [← hn, List.length_cons]; omega
      have hline := length_afterLine u'
      simp only [Source.skipIgnored]
      split
      · next hblank =>
        have hc : c ∉ signs := fun hc => absurd hblank (by rw [(not_ignored hc).1]; exact Bool.false_ne_true)
        exact ih _ hlen (h' hc) rfl
      · split
        · next hhash =>
          subst hhash
          obtain ⟨v'', hv, h''⟩ := h.of_hash hx
          obtain rfl := (List.cons.inj hv).2
          rw [skipIgnored_true, skipIgnored_true]
          exact ih _ (by omega) h'' rfl
        · exact h

/-- Behind the blanks and comments that are ignored, both texts go on alike. -/
theorem seen {skipping : Bool} (hx : skipping = true → x = true) (h : Raised x a ps u v) :
    Raised x a ps (Source.seen skipping u) (Source.seen skipping v) := by
  unfold Source.seen
  split
  · next hs => exact h.skipIgnored (hx hs)
  · exact h

/-- Two runs of characters from two texts are the same, and the texts go on alike behind them, or both runs go on with a
sign after the same characters. -/
def RunsAlike (x : Bool) (a : Option Nat) (ps : List Paren) (r r' : List Char × List Char) : Prop :=
  (r.1 = r'.1 ∧ Raised x a ps r.2 r'.2) ∨
    ∃ cs c ds ds', c ∈ signs ∧ r.1 = cs ++ c :: ds ∧ r'.1 = cs ++ c :: ds'

theorem RunsAlike.cons {r r' : List Char × List Char} (c : Char) (h : RunsAlike x a ps r r') :
    RunsAlike x a ps (c :: r.1, r.2) (c :: r'.1, r'.2) := by
  rcases h with ⟨heq, h⟩ | ⟨cs, d, ds, ds', hd, hr, hr'⟩
  · exact .inl ⟨by rw [heq], h⟩
  · exact .inr ⟨c :: cs, d, ds, ds', hd, by rw [hr, List.cons_append], by rw [hr', List.cons_append]⟩

theorem gather_true (p : Char → Bool) (cs : List Char) :
    Source.gather p true cs = Source.gather p false (afterLine cs) := by
  induction cs with
  | nil => rfl
  | cons c cs ih =>
    rw [Source.gather, afterLine]
    split
    · rfl
    · exact ih

theorem gather {p : Char → Bool} (hp : p ')' = false) (hx : x = true) (h : Raised x a ps u v) :
    RunsAlike x a ps (Source.gather p false u) (Source.gather p false v) := by
  -- by the length, since a comment drops more than one character
  induction hn : u.length using Nat.strongRecOn generalizing u v with
  | ind n ih =>
    rcases h.uncons with ⟨rfl, rfl⟩ | ⟨c, u', v', rfl, rfl, h'⟩
    · have hend : Source.gather p false [')'] = ([], [')']) := by
        rw [Source.gather, if_neg (by decide), if_neg (by decide), if_neg (by rw [hp]; exact Bool.false_ne_true)]
      rw [hend]
      exact .inl ⟨rfl, .done⟩
    · have hlen : u'.length < n := by rw [← hn, List.length_cons]; omega
      have hline := length_afterLine u'
      simp only [Source.gather]
      split
      · next hblank =>
        have hc : c ∉ signs := fun hc => absurd hblank (by rw [(not_ignored hc).1]; exact Bool.false_ne_true)
        exact ih _ hlen (h' hc) rfl
      · split
        · next hhash =>
          subst hhash
          obtain ⟨v'', hv, h''⟩ := h.of_hash hx
          obtain rfl := (List.cons.inj hv).2
          rw [gather_true, gather_true]
          exact ih _ (by omega) h'' rfl
        · split
          · by_cases hc : c ∈ signs
            · exact .inr ⟨[], c, _, _, hc, rfl, rfl⟩
            · exact (ih _ hlen (h' hc) rfl).cons c
          · exact .inl ⟨rfl, h⟩

theorem takeWhile {p : Char → Bool} (hp : p ')' = false) (h : Raised x a ps u v) :
    RunsAlike x a ps (u.takeWhile p, u.dropWhile p) (v.takeWhile p, v.dropWhile p) := by
  induction hn : u.length using Nat.strongRecOn generalizing u v with
  | ind n ih =>
    rcases h.uncons with ⟨rfl, rfl⟩ | ⟨c, u', v', rfl, rfl, h'⟩
    · have hneg : ¬ p ')' = true := by rw [hp]; exact Bool.false_ne_true
      rw [List.takeWhile_cons_of_neg hneg, List.dropWhile_cons_of_neg hneg]
      exact .inl ⟨rfl, .done⟩
    · have hlen : u'.length < n := by rw [← hn, List.length_cons]; omega
      by_cases hpc : p c = true
      · rw [List.takeWhile_cons_of_pos hpc, List.takeWhile_cons_of_pos hpc, List.dropWhile_cons_of_pos hpc,
          List.dropWhile_cons_of_pos hpc]
        by_cases hc : c ∈ signs
        · exact .inr ⟨[], c, _, _, hc, rfl, rfl⟩
        · exact (ih _ hlen (h' hc) rfl).cons c
      · rw [List.takeWhile_cons_of_neg hpc, List.takeWhile_cons_of_neg hpc, List.dropWhile_cons_of_neg hpc,
          List.dropWhile_cons_of_neg hpc]
        exact .inl ⟨rfl, h⟩

theorem taken {skipping : Bool} {p : Char → Bool} (hp : p ')' = false) (hx : skipping = true → x = true)
    (h : Raised x a ps u v) : RunsAlike x a ps (Source.taken skipping p u) (Source.taken skipping p v) := by
  unfold Source.taken
  split
  · next hs => exact h.gather hp (hx hs)
  · exact h.takeWhile hp

end Raised

theorem Source.holds_of_mem_gather {p : Char → Bool} {inComment : Bool} {cs : List Char} {c : Char}
    (h : c ∈ (gather p inComment cs).1) : p c = true := by
  induction cs generalizing inComment with
  | nil => cases inComment <;> cases h
  | cons d ds ih =>
    cases inComment <;> simp only [gather] at h
    · split at h
      · exact ih h
      · split at h
        · exact ih h
        · split at h
          · next hd =>
            rcases List.mem_cons.mp h with rfl | h
            · exact hd
            · exact ih h
          · cases h
    · split at h <;> exact ih h

theorem Source.holds_of_mem_taken {skipping : Bool} {p : Char → Bool} {cs : List Char} {c : Char}
    (h : c ∈ (taken skipping p cs).1) : p c = true := by
  unfold taken at h
  split at h
  · exact holds_of_mem_gather h
  · exact List.mem_takeWhile_imp h

/-- A run without signs is the same in both texts. -/
theorem Raised.taken_same {x : Bool} {a : Option Nat} {ps : List Paren} {u v : List Char} {skipping : Bool}
    {p : Char → Bool} (hp : ∀ c ∈ signs, p c = false) (hx : skipping = true → x = true) (h : Raised x a ps u v) :
    (Source.taken skipping p u).1 = (Source.taken skipping p v).1 ∧
      Raised x a ps (Source.taken skipping p u).2 (Source.taken skipping p v).2 := by
  rcases h.taken (hp ')' (by decide)) hx with h | ⟨cs, c, ds, ds', hc, hu, -⟩
  · exact h
  · have hmem : c ∈ (Source.taken skipping p u).1 := by simp [hu]
    exact absurd (Source.holds_of_mem_taken hmem) (by rw [hp c hc]; exact Bool.false_ne_true)

end SqlRegexp.Pattern
