import SqlRegexp.Proofs.Pattern.Scan
import SqlRegexp.Proofs.Text.Numeral

/-!
The tokens of a pattern: classes, octal escapes, numbered references, escaped characters and single characters.

`tokens` reads them one after the other. Each is found at the start of what is left (`exists_firstToken`), and which one
it is depends on what follows: `Stands t r` says that the token `t` is read in front of the text `r`. A text is made up
of its tokens, and of tokens that stand one after the other in one way only (`reads_tokens`, `Reads.tokens_eq`).

A class ends where a scan of the text finds its end (`ends_classBody`).
-/

namespace SqlRegexp.PatternText

open SqlRegexp.Text

/-! ### Tokens -/

/-- A piece of the text of a pattern. -/
inductive Token where
  /-- A class, given what follows its opening bracket. -/
  | charClass (body : List Char)
  /-- A backslash and three octal digits. -/
  | octal (digits : List Char)
  /-- A reference to a numbered group. -/
  | reference (spelling : Spelling) (digits : List Char)
  /-- A backslash and the character that it escapes. -/
  | pair (c : Char)
  | single (c : Char)
deriving DecidableEq, Repr

/-- The text of a reference, given the digits of its number. -/
def Spelling.text (s : Spelling) (digits : List Char) : List Char :=
  match s with
  | .backslash => '\\' :: digits
  | .bracketed => '\\' :: 'g' :: '<' :: (digits ++ ['>'])
  | .condition => '(' :: '?' :: '(' :: (digits ++ [')'])
  | .call => '(' :: '?' :: (digits ++ [')'])

/-- The number that Western digits denote. -/
def valueOf (digits : List Char) : Nat := Nat.ofDigitChars 10 digits 0

namespace Token

def text : Token → List Char
  | charClass body => '[' :: body
  | octal digits => '\\' :: digits
  | reference s digits => s.text digits
  | pair c => ['\\', c]
  | single c => [c]

/-- A token with the number of its reference raised. A backslash alone takes one digit. -/
def raised (offset : Nat) : Token → Token
  | reference s digits =>
    let n := valueOf digits + offset
    reference (if s = .backslash ∧ 9 < n then .bracketed else s) (Nat.toDigits 10 n)
  | t => t

/-- The raised number of a reference has no more digits than can be written. -/
def Fits (offset : Nat) : Token → Prop
  | reference _ digits => valueOf digits + offset < 10 ^ digitLimit
  | _ => True

theorem fits_reference {offset : Nat} {s : Spelling} {digits : List Char} :
    (reference s digits).Fits offset ↔ valueOf digits + offset < 10 ^ digitLimit := Iff.rfl

end Token

/-! ### Reading tokens -/

/-- The rest of a class up to the first closing bracket without a backslash, or up to the end of the text. -/
def members : (escaped : Bool) → List Char → List Char
  | _, [] => []
  | true, c :: cs => c :: members false cs
  | false, c :: cs => if c = ']' then [c] else c :: members (c == '\\') cs

/-- A class from its first member on. A closing bracket in the first place is a member. -/
def firstMember : List Char → List Char
  | ']' :: cs => ']' :: members false cs
  | cs => members false cs

/-- A class behind its opening bracket. -/
def classBody : List Char → List Char
  | '^' :: cs => '^' :: firstMember cs
  | cs => firstMember cs

/-- The digits at the start of a text, if there are any and a given character follows them. -/
def numeralBefore? (stop : Char) (cs : List Char) : Option (List Char) :=
  let digits := cs.takeWhile isDecimal
  if digits ≠ [] ∧ (cs.dropWhile isDecimal).head? = some stop then some digits else none

theorem of_numeralBefore? {stop : Char} {u ds : List Char} (h : numeralBefore? stop u = some ds) :
    ds ≠ [] ∧ (∀ d ∈ ds, isDecimal d = true) ∧ ∃ v, u = ds ++ stop :: v := by
  unfold numeralBefore? at h
  dsimp only at h
  split at h
  · next hstop =>
    obtain rfl := Option.some.inj h
    obtain ⟨v, hv⟩ := List.head?_eq_some_iff.mp hstop.2
    refine ⟨hstop.1, fun d hd => List.mem_takeWhile_imp hd, v, ?_⟩
    rw [← hv, List.takeWhile_append_dropWhile]
  · cases h

theorem numeralBefore?_append {stop : Char} {ds u : List Char} (hne : ds ≠ [])
    (hdecimal : ∀ d ∈ ds, isDecimal d = true) (hstop : isDecimal stop = false) :
    numeralBefore? stop (ds ++ stop :: u) = some ds := by
  have htake : (ds ++ stop :: u).takeWhile isDecimal = ds := by
    rw [List.takeWhile_append_of_pos hdecimal, List.takeWhile_cons_of_neg (by rw [hstop]; exact Bool.false_ne_true),
      List.append_nil]
  have hdrop : (ds ++ stop :: u).dropWhile isDecimal = stop :: u := by
    rw [List.dropWhile_append_of_pos hdecimal, List.dropWhile_cons_of_neg (by rw [hstop]; exact Bool.false_ne_true)]
  unfold numeralBefore?
  rw [htake, hdrop]
  simp [hne]

/-- The token that a backslash starts, given what follows it. -/
def slashToken (cs : List Char) : Token :=
  if startsOctal cs then .octal (cs.take 3)
  else
    match cs with
    | 'g' :: '<' :: u => (numeralBefore? '>' u).elim (.pair 'g') (.reference .bracketed)
    | c :: u =>
      if isDecimal c ∧ c ≠ '0' then .reference .backslash (c :: (u.takeWhile isDecimal).take 1) else .pair c
    | [] => .single '\\'

theorem slashToken_octal {cs : List Char} (h : startsOctal cs = true) : slashToken cs = .octal (cs.take 3) := by
  unfold slashToken
  rw [if_pos h]

theorem slashToken_angle (u : List Char) :
    slashToken ('g' :: '<' :: u) = (numeralBefore? '>' u).elim (.pair 'g') (.reference .bracketed) := by
  have hoctal : startsOctal ('g' :: '<' :: u) = false := by cases u <;> rfl
  unfold slashToken
  rw [hoctal, if_neg Bool.false_ne_true]
  rfl

theorem slashToken_cons {c : Char} {u : List Char} (hoctal : startsOctal (c :: u) = false)
    (hangle : ∀ v, c = 'g' → u ≠ '<' :: v) :
    slashToken (c :: u) =
      if isDecimal c ∧ c ≠ '0' then .reference .backslash (c :: (u.takeWhile isDecimal).take 1) else .pair c := by
  unfold slashToken
  rw [hoctal, if_neg Bool.false_ne_true]
  split
  · next he =>
    obtain ⟨rfl, rfl⟩ := List.cons.inj he
    exact absurd rfl (hangle _ rfl)
  · next he =>
    obtain ⟨rfl, rfl⟩ := List.cons.inj he
    rfl
  · next he => cases he

/-- The token that an opening parenthesis starts, given what follows it. A call of group 0 calls the whole pattern. -/
def parenToken : List Char → Token
  | '?' :: '(' :: u => (numeralBefore? ')' u).elim (.single '(') (.reference .condition)
  | '?' :: u =>
    ((numeralBefore? ')' u).filter fun digits => 0 < valueOf digits).elim (.single '(') (.reference .call)
  | _ => .single '('

theorem parenToken_condition (u : List Char) :
    parenToken ('?' :: '(' :: u) = (numeralBefore? ')' u).elim (.single '(') (.reference .condition) := rfl

theorem parenToken_call {u : List Char} (h : u.head? ≠ some '(') :
    parenToken ('?' :: u) = ((numeralBefore? ')' u).filter fun digits => 0 < valueOf digits).elim (.single '(')
      (.reference .call) := by
  unfold parenToken
  split
  · next he =>
    obtain ⟨-, rfl⟩ := List.cons.inj he
    exact absurd rfl h
  · next he =>
    obtain ⟨-, rfl⟩ := List.cons.inj he
    rfl
  · next hno => exact absurd rfl (hno u)

theorem parenToken_call_of_pos {u ds : List Char} (h : u.head? ≠ some '(') (hds : numeralBefore? ')' u = some ds)
    (hpos : 0 < valueOf ds) : parenToken ('?' :: u) = .reference .call ds := by
  rw [parenToken_call h, hds, Option.filter_some, decide_eq_true hpos]
  rfl

theorem parenToken_call_of_zero {u ds : List Char} (h : u.head? ≠ some '(') (hds : numeralBefore? ')' u = some ds)
    (hzero : valueOf ds = 0) : parenToken ('?' :: u) = .single '(' := by
  rw [parenToken_call h, hds, Option.filter_some, hzero]
  rfl

theorem parenToken_of_ne {cs : List Char} (h : cs.head? ≠ some '?') : parenToken cs = .single '(' := by
  unfold parenToken
  split
  · exact absurd rfl h
  · exact absurd rfl h
  · rfl

/-- The first token of a text that begins with a character. -/
def firstToken (c : Char) (cs : List Char) : Token :=
  if c = '[' then .charClass (classBody cs)
  else if c = '\\' then slashToken cs
  else if c = '(' then parenToken cs
  else .single c

/-- The tokens of a text; `skip` characters belong to a token already read. -/
def tokensFrom : (skip : Nat) → List Char → List Token
  | _, [] => []
  | skip + 1, _ :: cs => tokensFrom skip cs
  | 0, c :: cs => firstToken c cs :: tokensFrom ((firstToken c cs).text.length - 1) cs

def tokens (pattern : List Char) : List Token := tokensFrom 0 pattern

example : tokens "(a)[\\1]\\9\\101(?1)".toList =
    [.single '(', .single 'a', .single ')', .charClass ['\\', '1', ']'], .reference .backslash ['9'],
      .octal ['1', '0', '1'], .reference .call ['1']] := by decide

/-! ### Classes -/

/-- What `part` takes of a text is passed by a scan from a place on. It ends outside classes, whatever follows, unless
nothing follows at all. -/
def Ends (part : List Char → List Char) (place : Place) (k r : List Char) : Prop :=
  ∃ place', passed? place k = some place' ∧ (r = [] ∨ place' = .outside ∧ ∀ o, part (k ++ o) = k)

section Class

variable {k r : List Char}

theorem passed?_cons_of_ne {place : Place} {c : Char} (h : place ≠ .outside) :
    passed? place (c :: k) = passed? (place.next c) k := by
  rw [passed?, if_neg fun hc => h hc.1]

theorem eq_nil_of_members {escaped : Bool} (h : members escaped r = []) : r = [] := by
  cases r with
  | nil => rfl
  | cons c r =>
    cases escaped with
    | true => cases h
    | false =>
      rw [members] at h
      split at h <;> cases h

theorem firstMember_of_ne {c : Char} (h : c ≠ ']') : firstMember (c :: r) = members false (c :: r) := by
  unfold firstMember
  split
  · next he => exact absurd (List.cons.inj he).1 h
  · rfl

theorem eq_nil_of_firstMember (h : firstMember r = []) : r = [] := by
  unfold firstMember at h
  split at h
  · cases h
  · exact eq_nil_of_members h

theorem classBody_of_ne {c : Char} (h : c ≠ '^') : classBody (c :: r) = firstMember (c :: r) := by
  unfold classBody
  split
  · next he => exact absurd (List.cons.inj he).1 h
  · rfl

theorem ends_members {escaped : Bool} (h : members escaped (k ++ r) = k) :
    Ends (members escaped) (if escaped then .escaped true else .inside) k r := by
  induction k generalizing escaped with
  | nil => exact ⟨_, rfl, .inl (eq_nil_of_members h)⟩
  | cons c k ih =>
    cases escaped with
    | true =>
      rw [List.cons_append, members] at h
      obtain ⟨place, hpassed, hends⟩ := ih (List.cons.inj h).2
      refine ⟨place, ?_, hends.imp_right fun ⟨hplace, hall⟩ => ⟨hplace, fun o => ?_⟩⟩
      · rw [if_pos rfl, passed?_cons_of_ne (by decide)]
        exact hpassed
      · rw [List.cons_append, members, hall]
    | false =>
      rw [List.cons_append, members] at h
      by_cases hc : c = ']'
      · subst hc
        rw [if_pos rfl] at h
        obtain rfl : [] = k := (List.cons.inj h).2
        exact ⟨.outside, rfl, .inr ⟨rfl, fun o => rfl⟩⟩
      · rw [if_neg hc] at h
        obtain ⟨place, hpassed, hends⟩ := ih (List.cons.inj h).2
        refine ⟨place, ?_, hends.imp_right fun ⟨hplace, hall⟩ => ⟨hplace, fun o => ?_⟩⟩
        · rw [if_neg Bool.false_ne_true, passed?_cons_of_ne (by decide), ← hpassed]
          by_cases hslash : c = '\\'
          · subst hslash
            rfl
          · have hnext : Place.inside.next c = .inside := by simp [Place.next, hslash, hc]
            rw [hnext]
            simp [hslash]
        · rw [List.cons_append, members, if_neg hc, hall]

/-- The first member is passed from any place in front of it. -/
theorem ends_firstMember {place : Place} (hplace : place ≠ .outside)
    (hnext : ∀ c ∈ k.head?, place.next c = if c = '\\' then .escaped true else .inside)
    (h : firstMember (k ++ r) = k) : Ends firstMember place k r := by
  cases k with
  | nil => exact ⟨place, rfl, .inl (eq_nil_of_firstMember h)⟩
  | cons c k =>
    by_cases hc : c = ']'
    · subst hc
      obtain ⟨place', hpassed, hends⟩ := ends_members (List.cons.inj h).2
      refine ⟨place', ?_, hends.imp_right fun ⟨he, hall⟩ => ⟨he, fun o => congrArg (']' :: ·) (hall o)⟩⟩
      rw [passed?_cons_of_ne hplace, hnext ']' rfl]
      exact hpassed
    · rw [List.cons_append, firstMember_of_ne hc] at h
      obtain ⟨place', hpassed, hends⟩ := ends_members (k := c :: k) h
      refine ⟨place', ?_, hends.imp_right fun ⟨he, hall⟩ => ⟨he, fun o => (firstMember_of_ne hc).trans (hall o)⟩⟩
      rw [← hpassed, if_neg Bool.false_ne_true, passed?_cons_of_ne hplace, passed?_cons_of_ne (by decide),
        hnext c rfl]
      simp [Place.next, hc]

theorem ends_classBody (h : classBody (k ++ r) = k) : Ends classBody .opened k r := by
  cases k with
  | nil =>
    have hr : r = [] := by
      unfold classBody at h
      split at h
      · cases h
      · exact eq_nil_of_firstMember h
    exact ⟨.opened, rfl, .inl hr⟩
  | cons c k =>
    by_cases hc : c = '^'
    · subst hc
      obtain ⟨place, hpassed, hends⟩ :=
        @ends_firstMember _ _ .negated (by decide) (fun _ _ => rfl) (List.cons.inj h).2
      exact ⟨place, hpassed, hends.imp_right fun ⟨he, hall⟩ => ⟨he, fun o => congrArg ('^' :: ·) (hall o)⟩⟩
    · rw [List.cons_append, classBody_of_ne hc] at h
      have hnext : ∀ d ∈ (c :: k).head?, Place.opened.next d = if d = '\\' then .escaped true else .inside := by
        intro d hd
        obtain rfl := Option.some.inj hd
        simp [Place.next, hc]
      obtain ⟨place, hpassed, hends⟩ := ends_firstMember (by decide) hnext h
      exact ⟨place, hpassed, hends.imp_right fun ⟨he, hall⟩ => ⟨he, fun o => (classBody_of_ne hc).trans (hall o)⟩⟩

/-- A class is the beginning of what it is read from. -/
theorem members_initial (escaped : Bool) (cs : List Char) : members escaped cs <+: cs := by
  induction cs generalizing escaped with
  | nil => exact List.prefix_rfl
  | cons c cs ih =>
    cases escaped with
    | true =>
      rw [members, List.prefix_cons_inj]
      exact ih false
    | false =>
      rw [members]
      split
      · exact ⟨cs, rfl⟩
      · rw [List.prefix_cons_inj]
        exact ih _

theorem firstMember_initial (cs : List Char) : firstMember cs <+: cs := by
  unfold firstMember
  split
  · exact (List.prefix_cons_inj _).mpr (members_initial _ _)
  · exact members_initial _ _

theorem classBody_initial (cs : List Char) : classBody cs <+: cs := by
  unfold classBody
  split
  · exact (List.prefix_cons_inj _).mpr (firstMember_initial _)
  · exact firstMember_initial _

end Class

/-! ### Tokens in front of a text -/

/-- The digits of a numeral. -/
def Numeral (digits : List Char) : Prop := digits ≠ [] ∧ ∀ d ∈ digits, isDecimal d = true

/-- A token is the first one of its own text and a text behind it. -/
inductive Stands : Token → List Char → Prop
  | charClass {k r} : classBody (k ++ r) = k → Stands (.charClass k) r
  | octal {a b c r} : startsOctal (a :: b :: c :: r) = true → Stands (.octal [a, b, c]) r
  | oneDigit {d r} : isDecimal d = true → d ≠ '0' → (∀ c ∈ r.head?, isDecimal c = false) →
      Stands (.reference .backslash [d]) r
  | twoDigits {d e r} : isDecimal d = true → d ≠ '0' → isDecimal e = true → startsOctal (d :: e :: r) = false →
      Stands (.reference .backslash [d, e]) r
  | bracketed {ds r} : Numeral ds → Stands (.reference .bracketed ds) r
  | condition {ds r} : Numeral ds → Stands (.reference .condition ds) r
  | call {ds r} : Numeral ds → 0 < valueOf ds → Stands (.reference .call ds) r
  | pair {c r} : slashToken (c :: r) = .pair c → Stands (.pair c) r
  | dangling : Stands (.single '\\') []
  | paren {r} : parenToken r = .single '(' → Stands (.single '(') r
  | char {c r} : c ≠ '[' → c ≠ '\\' → c ≠ '(' → Stands (.single c) r

/-- Tokens that stand one after the other make up a text. -/
inductive Reads : List Token → List Char → Prop
  | nil : Reads [] []
  | cons {t ts r} : Stands t r → Reads ts r → Reads (t :: ts) (t.text ++ r)

section Stands

variable {t : Token} {ts : List Token} {c : Char} {cs r : List Char}

theorem startsOctal_cons (c : Char) (u : List Char) :
    startsOctal (c :: u) = (isOctal c && decide (2 ≤ (u.takeWhile isOctal).length)) := by
  match u with
  | [] => simp [startsOctal]
  | [d] => cases hd : isOctal d <;> simp [startsOctal, hd]
  | d :: e :: u => cases hd : isOctal d <;> cases he : isOctal e <;> simp [startsOctal, hd, he]

/-- An octal escape has digits behind its first one. -/
theorem startsOctal_eq_false (h : ∀ d ∈ r.head?, isDecimal d = false) : startsOctal (c :: r) = false := by
  have htake : r.takeWhile isOctal = [] := takeWhile_eq_nil fun d hd =>
    Bool.eq_false_iff.mpr fun hoctal => Bool.eq_false_iff.mp (h d hd) (isDecimal_of_isOctal hoctal)
  rw [startsOctal_cons, htake]
  exact Bool.and_false _

theorem exists_slashToken (cs : List Char) :
    ∃ r, '\\' :: cs = (slashToken cs).text ++ r ∧ Stands (slashToken cs) r := by
  by_cases hoctal : startsOctal cs = true
  · rw [slashToken_octal hoctal]
    match cs, hoctal with
    | a :: b :: c :: r, hoctal => exact ⟨r, rfl, .octal hoctal⟩
  rw [Bool.not_eq_true] at hoctal
  cases cs with
  | nil => exact ⟨[], rfl, .dangling⟩
  | cons c u =>
    by_cases hangle : c = 'g' ∧ u.head? = some '<'
    · obtain ⟨rfl, hu⟩ := hangle
      obtain ⟨v, rfl⟩ := List.head?_eq_some_iff.mp hu
      cases hds : numeralBefore? '>' v with
      | none =>
        have htoken : slashToken ('g' :: '<' :: v) = .pair 'g' := by rw [slashToken_angle, hds]; rfl
        rw [htoken]
        exact ⟨'<' :: v, rfl, .pair htoken⟩
      | some ds =>
        obtain ⟨hne, hdecimal, w, rfl⟩ := of_numeralBefore? hds
        rw [slashToken_angle, hds]
        exact ⟨w, by simp [Token.text, Spelling.text], .bracketed ⟨hne, hdecimal⟩⟩
    · have htoken := slashToken_cons hoctal fun v hg hu => hangle ⟨hg, by rw [hu]; rfl⟩
      by_cases hc : isDecimal c = true ∧ c ≠ '0'
      · rw [if_pos hc] at htoken
        rw [htoken]
        cases u with
        | nil => exact ⟨[], rfl, .oneDigit hc.1 hc.2 fun d hd => nomatch hd⟩
        | cons d u =>
          by_cases hd : isDecimal d = true
          · rw [List.takeWhile_cons_of_pos hd]
            exact ⟨u, rfl, .twoDigits hc.1 hc.2 hd hoctal⟩
          · rw [List.takeWhile_cons_of_neg hd]
            refine ⟨d :: u, rfl, .oneDigit hc.1 hc.2 fun e he => ?_⟩
            obtain rfl := Option.some.inj he
            exact Bool.not_eq_true _ ▸ hd
      · rw [if_neg hc] at htoken
        rw [htoken]
        exact ⟨u, rfl, .pair htoken⟩

theorem exists_parenToken (cs : List Char) :
    ∃ r, '(' :: cs = (parenToken cs).text ++ r ∧ Stands (parenToken cs) r := by
  by_cases hquestion : cs.head? = some '?'
  · obtain ⟨u, rfl⟩ := List.head?_eq_some_iff.mp hquestion
    -- where no reference is read, the parenthesis is a token of its own
    have hsingle (h : parenToken ('?' :: u) = .single '(') :
        ∃ r, '(' :: '?' :: u = (parenToken ('?' :: u)).text ++ r ∧ Stands (parenToken ('?' :: u)) r := by
      rw [h]
      exact ⟨'?' :: u, rfl, .paren h⟩
    by_cases hopen : u.head? = some '('
    · obtain ⟨v, rfl⟩ := List.head?_eq_some_iff.mp hopen
      cases hds : numeralBefore? ')' v with
      | none => exact hsingle (by rw [parenToken_condition, hds]; rfl)
      | some ds =>
        obtain ⟨hne, hdecimal, w, rfl⟩ := of_numeralBefore? hds
        rw [parenToken_condition, hds]
        exact ⟨w, by simp [Token.text, Spelling.text], .condition ⟨hne, hdecimal⟩⟩
    · cases hds : numeralBefore? ')' u with
      | none => exact hsingle (by rw [parenToken_call hopen, hds]; rfl)
      | some ds =>
        rcases Nat.eq_zero_or_pos (valueOf ds) with hzero | hpos
        · exact hsingle (parenToken_call_of_zero hopen hds hzero)
        · rw [parenToken_call_of_pos hopen hds hpos]
          obtain ⟨hne, hdecimal, w, rfl⟩ := of_numeralBefore? hds
          exact ⟨w, by simp [Token.text, Spelling.text], .call ⟨hne, hdecimal⟩ hpos⟩
  · rw [parenToken_of_ne hquestion]
    exact ⟨cs, rfl, .paren (parenToken_of_ne hquestion)⟩

theorem firstToken_slash (cs : List Char) : firstToken '\\' cs = slashToken cs := rfl

theorem firstToken_open (cs : List Char) : firstToken '(' cs = parenToken cs := rfl

/-- A text that is not empty begins with its first token. -/
theorem exists_firstToken (c : Char) (cs : List Char) :
    ∃ r, c :: cs = (firstToken c cs).text ++ r ∧ Stands (firstToken c cs) r := by
  unfold firstToken
  by_cases hbracket : c = '['
  · subst hbracket
    obtain ⟨r, hr⟩ := classBody_initial cs
    rw [if_pos rfl]
    refine ⟨r, congrArg ('[' :: ·) hr.symm, .charClass ?_⟩
    rw [hr]
  by_cases hslash : c = '\\'
  · subst hslash
    exact exists_slashToken cs
  by_cases hopen : c = '('
  · subst hopen
    exact exists_parenToken cs
  · rw [if_neg hbracket, if_neg hslash, if_neg hopen]
    exact ⟨cs, rfl, .char hbracket hslash hopen⟩

/-- A token that stands in front of a text is the first one that is read. -/
theorem Stands.firstToken_eq (h : Stands t r) (hcs : t.text ++ r = c :: cs) : firstToken c cs = t := by
  cases h with
  | charClass hk =>
    obtain ⟨rfl, rfl⟩ := List.cons.inj hcs
    exact congrArg Token.charClass hk
  | octal h =>
    obtain ⟨rfl, rfl⟩ := List.cons.inj hcs
    exact slashToken_octal h
  | @oneDigit d r hd h0 hr =>
    obtain ⟨rfl, rfl⟩ := List.cons.inj hcs
    show slashToken (d :: r) = _
    rw [slashToken_cons (startsOctal_eq_false hr) (by rintro v rfl; exact absurd hd (by decide)), if_pos ⟨hd, h0⟩,
      takeWhile_eq_nil hr]
    rfl
  | @twoDigits d e r hd h0 he hoctal =>
    obtain ⟨rfl, rfl⟩ := List.cons.inj hcs
    show slashToken (d :: e :: r) = _
    rw [slashToken_cons hoctal (by rintro v rfl; exact absurd hd (by decide)), if_pos ⟨hd, h0⟩,
      List.takeWhile_cons_of_pos he]
    rfl
  | @bracketed ds r hds =>
    have htext : (Token.reference .bracketed ds).text ++ r = '\\' :: 'g' :: '<' :: (ds ++ '>' :: r) := by
      simp [Token.text, Spelling.text]
    rw [htext] at hcs
    obtain ⟨rfl, rfl⟩ := List.cons.inj hcs
    rw [firstToken_slash, slashToken_angle, numeralBefore?_append hds.1 hds.2 (by decide)]
    rfl
  | @condition ds r hds =>
    have htext : (Token.reference .condition ds).text ++ r = '(' :: '?' :: '(' :: (ds ++ ')' :: r) := by
      simp [Token.text, Spelling.text]
    rw [htext] at hcs
    obtain ⟨rfl, rfl⟩ := List.cons.inj hcs
    rw [firstToken_open, parenToken_condition, numeralBefore?_append hds.1 hds.2 (by decide)]
    rfl
  | @call ds r hds hpos =>
    have htext : (Token.reference .call ds).text ++ r = '(' :: '?' :: (ds ++ ')' :: r) := by
      simp [Token.text, Spelling.text]
    rw [htext] at hcs
    obtain ⟨rfl, rfl⟩ := List.cons.inj hcs
    have hopen : (ds ++ ')' :: r).head? ≠ some '(' := by
      cases ds with
      | nil => exact absurd rfl hds.1
      | cons d ds =>
        intro hd
        obtain rfl := Option.some.inj hd
        exact absurd (hds.2 '(' List.mem_cons_self) (by decide)
    exact parenToken_call_of_pos hopen (numeralBefore?_append hds.1 hds.2 (by decide)) hpos
  | pair h =>
    obtain ⟨rfl, rfl⟩ := List.cons.inj hcs
    exact h
  | dangling =>
    obtain ⟨rfl, rfl⟩ := List.cons.inj hcs
    rfl
  | paren h =>
    obtain ⟨rfl, rfl⟩ := List.cons.inj hcs
    exact h
  | char hbracket hslash hopen =>
    obtain ⟨rfl, rfl⟩ := List.cons.inj hcs
    unfold firstToken
    rw [if_neg hbracket, if_neg hslash, if_neg hopen]

/-! ### All tokens of a text -/

theorem Token.text_ne_nil (t : Token) : t.text ≠ [] := by
  cases t with
  | reference s => cases s <;> exact List.cons_ne_nil _ _
  | _ => exact List.cons_ne_nil _ _

theorem tokensFrom_skip (cs r : List Char) : tokensFrom cs.length (cs ++ r) = tokens r := by
  induction cs with
  | nil => rfl
  | cons c cs ih => exact ih

theorem tokens_append (h : Stands t r) : tokens (t.text ++ r) = t :: tokens r := by
  cases htext : t.text with
  | nil => exact absurd htext t.text_ne_nil
  | cons c cs =>
    have hfirst : firstToken c (cs ++ r) = t := h.firstToken_eq (by rw [htext]; rfl)
    show tokensFrom 0 (c :: (cs ++ r)) = _
    rw [tokensFrom, hfirst, htext, List.length_cons, Nat.add_sub_cancel, tokensFrom_skip]

theorem reads_tokens (cs : List Char) : Reads (tokens cs) cs := by
  induction hn : cs.length using Nat.strong_induction_on generalizing cs with
  | h n ih =>
    cases cs with
    | nil => exact .nil
    | cons c cs =>
      obtain ⟨r, hr, hstands⟩ := exists_firstToken c cs
      have hlength : r.length < n := by
        have hne := List.length_pos_iff.mpr (firstToken c cs).text_ne_nil
        rw [← hn, hr, List.length_append]
        omega
      rw [hr, tokens_append hstands]
      exact .cons hstands (ih r.length hlength r rfl)

theorem Reads.tokens_eq (h : Reads ts cs) : tokens cs = ts := by
  induction h with
  | nil => rfl
  | cons hstands _ ih => rw [tokens_append hstands, ih]

end Stands

end SqlRegexp.PatternText
