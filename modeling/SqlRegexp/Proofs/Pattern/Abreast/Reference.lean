import SqlRegexp.Proofs.Pattern.Abreast.Escape
import SqlRegexp.Proofs.Text.Numeral

/-!
Reading references abreast.

A name of a group is read alike from both texts (`Abreast.groupName`). The number of a group is raised in the one text:
`run_bracketReference` says what either reading of it comes to, and `Abreast.escape` puts everything together that
follows a backslash outside classes.
-/

namespace SqlRegexp.Pattern

open SqlRegexp.Text SqlRegexp.Unicode
open SqlRegexp.Match (raised raised_of_pos)

/-! ### What is ignored -/

section Ignored

variable {x skipping : Bool} {p : Char → Bool} {cs : List Char}

theorem seen_of_settled (hx : skipping = true → x = true) (h : Settled x cs) : Source.seen skipping cs = cs := by
  unfold Source.seen
  split
  · next hs =>
    cases cs with
    | nil => rfl
    | cons c cs =>
      have hc : ¬ Ignorable x c := h c rfl
      have hblank : ¬ isBlank c.toNat = true := fun hb => hc ⟨hx hs, .inl hb⟩
      have hhash : c ≠ '#' := fun hh => hc ⟨hx hs, .inr hh⟩
      rw [Source.skipIgnored, if_neg hblank, if_neg hhash]
  · rfl

theorem Fenced.settled (h : Fenced x p cs) : Settled x cs := fun c hc => (h c hc).1

/-- A run of characters that begins with none that may be ignored begins as the text does. -/
theorem head?_taken (hx : skipping = true → x = true) (h : Settled x cs) {c : Char}
    (hc : (Source.taken skipping p cs).1.head? = some c) : cs.head? = some c := by
  cases cs with
  | nil =>
    unfold Source.taken at hc
    split at hc <;> cases hc
  | cons d ds =>
    have hd : ¬ Ignorable x d := h d rfl
    unfold Source.taken at hc
    split at hc
    · next hs =>
      have hblank : ¬ isBlank d.toNat = true := fun hb => hd ⟨hx hs, .inl hb⟩
      have hhash : d ≠ '#' := fun hh => hd ⟨hx hs, .inr hh⟩
      rw [Source.gather, if_neg hblank, if_neg hhash] at hc
      split at hc
      · exact hc
      · cases hc
    · by_cases hp : p d = true
      · rw [List.takeWhile_cons_of_pos hp] at hc
        exact hc
      · rw [List.takeWhile_cons_of_neg hp] at hc
        cases hc

/-- Characters that pass a test, none of which is ignored, are taken up to one that fails it. -/
theorem taken_append {ds : List Char} {c : Char} (hds : ∀ d ∈ ds, p d = true ∧ isBlank d.toNat = false ∧ d ≠ '#')
    (hc : p c = false ∧ isBlank c.toNat = false ∧ c ≠ '#') :
    Source.taken skipping p (ds ++ c :: cs) = (ds, c :: cs) := by
  have hpc : ¬ p c = true := by rw [hc.1]; exact Bool.false_ne_true
  have hbc : ¬ isBlank c.toNat = true := by rw [hc.2.1]; exact Bool.false_ne_true
  unfold Source.taken
  split
  · induction ds with
    | nil => rw [List.nil_append, Source.gather, if_neg hbc, if_neg hc.2.2, if_neg hpc]
    | cons d ds ih =>
      obtain ⟨hpd, hbd, hd⟩ := hds d List.mem_cons_self
      have hbd' : ¬ isBlank d.toNat = true := by rw [hbd]; exact Bool.false_ne_true
      rw [List.cons_append, Source.gather, if_neg hbd', if_neg hd, if_pos hpd,
        ih fun e he => hds e (List.mem_cons_of_mem _ he)]
  · have htake : (ds ++ c :: cs).takeWhile p = ds := by
      rw [List.takeWhile_append_of_pos fun d hd => (hds d hd).1, List.takeWhile_cons_of_neg hpc, List.append_nil]
    have hdrop : (ds ++ c :: cs).dropWhile p = c :: cs := by
      rw [List.dropWhile_append_of_pos fun d hd => (hds d hd).1, List.dropWhile_cons_of_neg hpc]
    rw [htake, hdrop]

end Ignored

/-! ### Names of groups -/

section Names

variable {s : Source} {numeric : Bool} {cs : List Char}

/-- No name of a group contains a mark. -/
theorem run_nameFrom_of_mark {c : Char} (hc : c ∈ marks) (hcs : c ∈ cs) :
    (Reading.nameFrom numeric cs).run s = .error (.malformed .badGroupName s.pos) := by
  -- no mark stands in a number or in a name
  have hdigit : ∀ c ∈ marks, isDigitChar c.toNat = false := eq_false_of_any (by decide +kernel)
  have hstart : ∀ c ∈ marks, isIdentifierStart c.toNat = false := eq_false_of_any (by decide +kernel)
  have hpart : ∀ c ∈ marks, isIdentifierPart c.toNat = false := eq_false_of_any (by decide +kernel)
  have hempty : ¬ cs.isEmpty = true := fun h => by
    rw [List.isEmpty_iff.mp h] at hcs
    cases hcs
  have hdigits : ¬ isAllDigits cs = true := fun h => by
    have hall := (Bool.and_eq_true _ _ ▸ h : _ ∧ _).2
    exact absurd (List.all_eq_true.mp hall c hcs) (by rw [hdigit c hc]; exact Bool.false_ne_true)
  have hident : isIdentifier cs = false := by
    rw [← Bool.not_eq_true]
    intro h
    cases cs with
    | nil => cases hcs
    | cons d ds =>
      have hall := (Bool.and_eq_true _ _ ▸ h : _ ∧ _)
      rcases List.mem_cons.mp hcs with rfl | hd
      · exact absurd hall.1 (by rw [hstart c hc]; exact Bool.false_ne_true)
      · exact absurd (List.all_eq_true.mp hall.2 c hd) (by rw [hpart c hc]; exact Bool.false_ne_true)
  unfold Reading.nameFrom
  rw [if_neg hempty, if_neg hdigits, if_pos (by rw [hident]; rfl)]
  rfl

/-- A name that does not begin with a digit is no number, and is refused or read wherever it stands. -/
theorem run_nameFrom_of_head (hhead : ∀ c ∈ cs.head?, isDigitChar c.toNat = false) :
    (∃ cause, ∀ s : Source, (Reading.nameFrom numeric cs).run s = .error (.malformed cause s.pos)) ∨
      ∀ s : Source, (Reading.nameFrom numeric cs).run s = .ok (.name cs, s) := by
  have hdigits : ¬ isAllDigits cs = true := fun hd => by
    cases cs with
    | nil => cases hd
    | cons c cs =>
      have hall := (Bool.and_eq_true _ _ ▸ hd : _ ∧ _).2
      exact absurd (List.all_eq_true.mp hall c List.mem_cons_self) (by rw [hhead c rfl]; exact Bool.false_ne_true)
  unfold Reading.nameFrom
  rw [if_neg hdigits]
  split
  · exact .inl ⟨_, fun _ => rfl⟩
  · split
    · exact .inl ⟨_, fun _ => rfl⟩
    · exact .inr fun _ => rfl

/-- The digits of a positive number are its name. -/
theorem run_nameFrom_number {n : Nat} (h : Numbers cs n) : (Reading.nameFrom true cs).run s = .ok (.number n, s) := by
  have hempty : ¬ cs.isEmpty = true := fun he => by
    have hd := h.digits
    rw [List.isEmpty_iff.mp he] at hd
    cases hd
  unfold Reading.nameFrom
  rw [if_neg hempty, if_pos h.digits, if_neg (by decide), h.reads]
  show (if n < 1 then _ else _ : Reading GroupName).run s = _
  rw [if_neg (Nat.not_lt.mpr h.pos)]
  rfl

end Names

def Source.isOpen (s : Source) : GroupName → Bool
  | .number n => s.opened.contains n
  | .name cs => (s.number? cs).any s.opened.contains

theorem run_isOpen (s : Source) (g : GroupName) : (Reading.isOpen g).run s = .ok (s.isOpen g, s) := by
  cases g <;> rfl

theorem Source.Beside.isOpen {x : Bool} {s s' : Source} (h : s.Beside x s') (g : GroupName) :
    s'.isOpen g.raised = s.isOpen g := by
  cases g with
  | number n => exact h.contains_opened n
  | name cs =>
    show (s'.number? cs).any s'.opened.contains = (s.number? cs).any s.opened.contains
    rw [h.number?]
    cases s.number? cs with
    | none => rfl
    | some n => exact h.contains_opened n

theorem run_backreference (g : GroupName) (place : Nat) (s : Source) :
    (Reading.backreference g place).run s = .ok (.backref ⟨g, place⟩ s.options.casing, s) := rfl

/-- What a name at the front of a text begins with, if nothing is ignored there. -/
theorem head_of_nameStart {x skipping : Bool} {u : List Char} (hx : skipping = true → x = true) (h : NameStart x u) :
    ∀ c ∈ (Source.taken skipping Reading.isGroupNameChar u).1.head?, isDigitChar c.toNat = false :=
  fun c hc => (h c (head?_taken hx h.settled hc)).2

namespace Raised

variable {x : Bool} {a : Option Nat} {ps : List Paren} {u v : List Char}

theorem fenced {p : Char → Bool} (hp : p ')' = false) (h : Raised x a ps u v) (hu : Fenced x p u) : Fenced x p v := by
  rcases h.head? with hhead | ⟨-, rfl⟩
  · rw [Fenced, hhead]
    exact hu
  · intro c hc
    cases hc
    refine ⟨?_, hp⟩
    rintro ⟨-, hb | hb⟩
    · exact absurd hb (by decide)
    · exact absurd hb (by decide)

end Raised

namespace Abreast

variable {x : Bool} {a : Option Nat} {ps : List Paren} {s s' : Source}

/-- A name is the same in both texts. -/
theorem nameFrom (numeric : Bool) (cs : List Char) :
    Meets (fun g t g' t' => g = g' ∧ t = s ∧ t' = s') ((Reading.nameFrom numeric cs).run s)
      ((Reading.nameFrom numeric cs).run s') := by
  unfold Reading.nameFrom
  refine .either (fun _ => .refused _ _ _ _) fun _ => .either (fun _ => .either (fun _ => .refused _ _ _ _) fun _ => ?_)
    fun _ => .either (fun _ => .refused _ _ _ _) fun _ => .ok ⟨rfl, rfl, rfl⟩
  cases readNatural cs with
  | error e => exact .numeral trivial
  | ok n => exact .either (fun _ => .refused _ _ _ _) fun _ => .ok ⟨rfl, rfl, rfl⟩

/-- A name of a group is read alike. -/
theorem groupName (hx : s.skipping = true → x = true) (hskip : s'.skipping = s.skipping) (numeric : Bool)
    (h : Raised x a ps s.rest s'.rest) :
    Meets (Along (Raised x a ps) s s') ((Reading.groupName numeric).run s) ((Reading.groupName numeric).run s') := by
  unfold Reading.groupName
  rw [Reading.run_takeWhile_bind, Reading.run_takeWhile_bind, hskip]
  rcases h.taken (p := Reading.isGroupNameChar) (by decide) hx with ⟨heq, ht⟩ | ⟨cs, c, ds, ds', hc, hu, hv⟩
  · rw [← heq]
    refine (nameFrom numeric _).mono ?_
    rintro g _ g' _ ⟨rfl, rfl, rfl⟩
    exact ⟨rfl, _, _, rfl, rfl, ht⟩
  · rw [run_nameFrom_of_mark (mem_marks hc) (by rw [hu]; simp), run_nameFrom_of_mark (mem_marks hc) (by rw [hv]; simp)]
    exact .refused _ _ _ _

/-- After the pattern is at its end, or both texts go on with the same character. -/
theorem expect_step (hb : s.Beside x s') (h : Raised x a ps s.rest s'.rest) {c : Char} (hc : c ≠ ')')
    (hsign : c ∉ signs) :
    (s.visible.head? ≠ some c ∧ s'.visible.head? ≠ some c) ∨
      ∃ u v, s.visible = c :: u ∧ s'.visible = c :: v ∧ Raised x a ps u v := by
  have hseen : Raised x a ps s.visible s'.visible := by
    rw [Source.visible_eq, Source.visible_eq, hb.skipping]
    exact h.seen hb.skips
  rcases hseen.uncons with ⟨hu, hv⟩ | ⟨d, u, v, hu, hv, ht⟩
  · rw [hu, hv]
    exact .inl ⟨by simp, by simpa using hc.symm⟩
  · rw [hu, hv]
    by_cases hd : d = c
    · subst hd
      exact .inr ⟨u, v, rfl, rfl, ht hsign⟩
    · exact .inl ⟨by simpa using hd, by simpa using hd⟩

/-- An open group is refused in both texts, and the text of any other is referred to. -/
theorem referTo (hb : s.Beside x s') (g : GroupName) (place place' : Nat) :
    Joint (fun n t n' t' => n.Counterpart n' ∧ t = s ∧ t' = s')
      ((Reading.isOpen g >>= fun found =>
        if found = true then Reading.fail .openGroup else Reading.backreference g place).run s)
      ((Reading.isOpen g.raised >>= fun found =>
        if found = true then Reading.fail .openGroup else Reading.backreference g.raised place').run s') := by
  rw [Reading.run_bind_of_ok (run_isOpen _ _), Reading.run_bind_of_ok (run_isOpen _ _), hb.isOpen]
  cases s.isOpen g with
  | true => exact .malformed _ _ _ _
  | false =>
    rw [if_neg Bool.false_ne_true, if_neg Bool.false_ne_true, run_backreference, run_backreference, hb.options]
    exact .ok ⟨.backref _ rfl, rfl, rfl⟩

/-- What begins no numbered reference after a letter `g` is read alike, or refused in both texts. -/
theorem bracketReference (hb : s.Beside x s') (h : Raised x a ps s.rest s'.rest) (hstay : BracketStays x s.rest) :
    Joint (AlongBy Node.Counterpart (Raised x a ps) s s') (Reading.bracketReference.run s)
      (Reading.bracketReference.run s') := by
  unfold Reading.bracketReference
  rw [Reading.run_expect_bind, Reading.run_expect_bind]
  rcases expect_step hb h (c := '<') (by decide) (by decide) with ⟨hu, hv⟩ | ⟨u, v, hu, hv, ht⟩
  · rw [if_neg hu, if_neg hv]
    exact .malformed _ _ _ _
  · have hstart : NameStart x u := by
      refine hstay.2 u ?_
      rw [← hu, Source.visible_eq, seen_of_settled hb.skips hstay.1]
    rw [hu, hv, List.head?_cons, List.head?_cons, if_pos rfl, if_pos rfl, List.tail_cons, List.tail_cons,
      Reading.run_pos_bind, Reading.run_pos_bind]
    unfold Reading.groupName
    rw [bind_assoc, Reading.run_takeWhile_bind, bind_assoc, Reading.run_takeWhile_bind, Source.leaving_skipping,
      Source.leaving_skipping, hb.skipping]
    rcases ht.taken (p := Reading.isGroupNameChar) (by decide) hb.skips with ⟨heq, ht'⟩ | ⟨cs, c, ds, ds', hc, hr, hr'⟩
    · rw [Source.leaving_rest, Source.leaving_rest, ← heq]
      -- what the name begins with decides whether it can be one
      rcases run_nameFrom_of_head (head_of_nameStart hb.skips hstart) with ⟨cause, he⟩ | hok
      · rw [Reading.run_bind_of_error (he _), Reading.run_bind_of_error (he _)]
        exact .malformed _ _ _ _
      · rw [Reading.run_bind_of_ok (hok _), Reading.run_bind_of_ok (hok _), Reading.run_expect_bind,
          Reading.run_expect_bind]
        have hb' := (hb.leaving u v).leaving (Source.taken s.skipping Reading.isGroupNameChar u).2
          (Source.taken s.skipping Reading.isGroupNameChar v).2
        rcases expect_step hb' ht' (c := '>') (by decide) (by decide) with ⟨hu', hv'⟩ | ⟨u', v', hu', hv', ht''⟩
        · rw [if_neg hu', if_neg hv']
          exact .malformed _ _ _ _
        · rw [hu', hv', List.head?_cons, List.head?_cons, if_pos rfl, if_pos rfl, List.tail_cons, List.tail_cons]
          refine (referTo (hb'.leaving u' v') (.name _) _ _).mono ?_
          rintro n _ n' _ ⟨hn, rfl, rfl⟩
          exact ⟨hn, u', v', rfl, rfl, ht''⟩
    · -- a name that runs into a mark is none in either text
      rw [Reading.run_bind_of_error (run_nameFrom_of_mark (mem_marks hc) (by rw [Source.leaving_rest, hr]; simp)),
        Reading.run_bind_of_error (run_nameFrom_of_mark (mem_marks hc) (by rw [Source.leaving_rest, hr']; simp))]
      exact .malformed _ _ _ _

theorem nameFrom_not_again {numeric : Bool} {cs : List Char} {g : Options} :
    (Reading.nameFrom numeric cs).run s ≠ .error (.again g) := by
  intro h
  unfold Reading.nameFrom at h
  split at h
  · cases h
  · split at h
    · split at h
      · cases h
      · cases hn : readNatural cs with
        | error e =>
          rw [hn] at h
          cases h
        | ok n =>
          rw [hn] at h
          change (if n < 1 then _ else _ : Reading GroupName).run s = _ at h
          split at h <;> cases h
    · split at h <;> cases h

/-- No list is ever given. -/
theorem listEscape_refused (s : Source) :
    ∃ e, Reading.listEscape.run s = .error e ∧ ∀ g, e ≠ .again g := by
  unfold Reading.listEscape Reading.groupName
  rw [Reading.run_expect_bind, bind_assoc]
  split
  · rw [Reading.run_takeWhile_bind]
    generalize (Source.taken _ _ _).1 = cs
    generalize Source.leaving _ (Source.taken _ _ _).2 = t
    cases hrun : (Reading.nameFrom true cs).run t with
    | error e =>
      rw [Reading.run_bind_of_error hrun]
      exact ⟨e, rfl, fun g hg => nameFrom_not_again (hg ▸ hrun)⟩
    | ok r =>
      rw [Reading.run_bind_of_ok hrun, Reading.run_expect_bind]
      split
      · exact ⟨_, rfl, fun _ h => by cases h⟩
      · exact ⟨_, rfl, fun _ h => by cases h⟩
  · exact ⟨_, rfl, fun _ h => by cases h⟩

end Abreast

/-! ### Numbered references -/

section Numbered

variable {x : Bool} {ds u : List Char} {n : Nat} {s : Source}

theorem Numbers.chars (h : Numbers ds n) :
    ∀ d ∈ ds, Reading.isGroupNameChar d = true ∧ isBlank d.toNat = false ∧ d ≠ '#' := by
  intro d hd
  have hdigit : isDigitChar d.toNat = true := List.all_eq_true.mp (Bool.and_eq_true _ _ ▸ h.digits : _ ∧ _).2 d hd
  have hne (c : Char) (hc : isDigitChar c.toNat = false) : d ≠ c := by
    rintro rfl
    exact absurd hdigit (by rw [hc]; exact Bool.false_ne_true)
  refine ⟨?_, h.solid d hd, hne _ (by decide +kernel)⟩
  simp [Reading.isGroupNameChar, hne ')' (by decide +kernel), hne '>' (by decide +kernel)]

theorem numbers_toDigits (h : Raises n) : Numbers (Nat.toDigits 10 (n + 1)) (n + 1) where
  digits := isAllDigits_of_isDecimal (fun _ hd => isDecimal_of_mem_toDigits hd) Nat.toDigits_ne_nil
  solid _ hd := isBlank_of_isDecimal (isDecimal_of_mem_toDigits hd)
  reads := readNatural_toDigits h
  pos := Nat.succ_pos n

theorem visible_cons {c : Char} {r : List Char} (hr : s.rest = c :: r) (hblank : isBlank c.toNat = false)
    (hc : c ≠ '#') :
    s.visible = c :: r := by
  have hblank' : ¬ isBlank c.toNat = true := by rw [hblank]; exact Bool.false_ne_true
  rw [Source.visible_eq, hr]
  unfold Source.seen
  rw [Source.skipIgnored, if_neg hblank', if_neg hc, ite_self]

/-- A number in angle brackets refers to its group, which must not be open. -/
theorem run_bracketReference (hr : s.rest = '<' :: (ds ++ '>' :: u)) (h : Numbers ds n)
    (hopen : s.opened.contains n = false) :
    ∃ place, Reading.bracketReference.run s = .ok (.backref ⟨.number n, place⟩ s.options.casing, s.leaving u) := by
  have hangle : s.visible = '<' :: (ds ++ '>' :: u) := visible_cons hr (by decide) (by decide)
  refine ⟨(s.leaving (ds ++ '>' :: u)).pos, ?_⟩
  unfold Reading.bracketReference Reading.groupName
  rw [Reading.run_expect_bind, hangle, List.head?_cons, if_pos rfl, List.tail_cons, Reading.run_pos_bind, bind_assoc,
    Reading.run_takeWhile_bind, Source.leaving_rest, taken_append h.chars (by decide)]
  rw [Reading.run_bind_of_ok (run_nameFrom_number h), Reading.run_expect_bind,
    visible_cons (s := (s.leaving _).leaving ('>' :: u)) rfl (by decide) (by decide), List.head?_cons, if_pos rfl,
    List.tail_cons, Reading.run_bind_of_ok (run_isOpen _ _)]
  show (if s.opened.contains n = true then _ else _ : Reading _).run _ = _
  rw [hopen]
  rfl

theorem run_digitReference (s : Source) (n : Nat) (back : List Char) :
    (Reading.digitReference n back).run s =
      if s.opened.contains n then .error (.malformed .openGroup (s.leaving back).pos)
      else .ok (.backref ⟨.number n, (s.leaving back).pos⟩ s.options.casing, s.leaving back) := by
  unfold Reading.digitReference
  rw [Reading.run_rewind_bind, Reading.run_bind_of_ok (run_isOpen _ _)]
  show (if s.opened.contains n = true then _ else _ : Reading _).run _ = _
  split <;> rfl

def digitValue (c : Char) : Nat := (decimalValue? c).getD 0

/-- One digit refers to a group, unless another digit follows it. -/
theorem run_digitEscape_one (hx : s.skipping = true → x = true) {d : Char} (h : Fenced x isDecimal s.rest) :
    (Reading.digitEscape d).run s = (Reading.digitReference (digitValue d) s.rest).run s := by
  have hvisible : s.visible = s.rest := seen_of_settled hx h.settled
  unfold Reading.digitEscape
  rw [Reading.run_mark_bind, Reading.run_next_bind, hvisible]
  cases hr : s.rest with
  | nil => rfl
  | cons c r =>
    have hc : ¬ isDecimal c = true := by
      rw [(h c (by rw [hr]; rfl)).2]
      exact Bool.false_ne_true
    rw [List.head?_cons]
    dsimp only
    rw [if_neg hc]
    rfl

/-- Two digits refer to a group, unless they begin three octal digits. -/
theorem run_digitEscape_two (hx : s.skipping = true → x = true) {d e : Char} (hr : s.rest = e :: u)
    (he : isDecimal e = true) (h : isOctal d = true → isOctal e = true → Fenced x isOctal u) :
    (Reading.digitEscape d).run s = (Reading.digitReference (digitValue d * 10 + digitValue e) u).run s := by
  have hne : e ≠ '#' := by
    rintro rfl
    exact absurd he (by decide)
  unfold Reading.digitEscape
  rw [Reading.run_mark_bind, Reading.run_next_bind, visible_cons hr (isBlank_of_isDecimal he) hne, List.head?_cons,
    List.tail_cons]
  dsimp only
  rw [if_pos he, Reading.run_mark_bind, Reading.run_next_bind]
  cases hv : (s.leaving u).visible with
  | nil => rfl
  | cons c r =>
    -- a third octal digit would make one character of the three
    have hoct : ¬ (isOctal d && isOctal e && isOctal c) = true := by
      rw [Bool.and_eq_true, Bool.and_eq_true]
      rintro ⟨⟨hd, he'⟩, hc⟩
      have hf := h hd he'
      have hu : u = c :: r := by
        rw [← hv]
        exact (seen_of_settled hx hf.settled).symm
      exact absurd hc (by rw [(hf c (by rw [hu]; rfl)).2]; exact Bool.false_ne_true)
    rw [List.head?_cons]
    dsimp only
    rw [if_neg hoct]
    rfl

/-- Three octal digits are a character. -/
theorem run_digitEscape_octal {c d e : Char} {t : List Char} (hr : s.rest = d :: e :: t) (hc : isOctal c = true)
    (hd : isOctal d = true) (he : isOctal e = true) :
    (Reading.digitEscape c).run s =
      (Reading.nodeOf (.literal (ofDigits 8 ([c, d, e].filterMap octalValue?) %
        (if s.options.ascii && !s.options.unicode then 0x100 else 0x200)))).run (s.leaving t) := by
  have hvisible {c : Char} {r : List Char} {s : Source} (hc : isOctal c = true) (hr : s.rest = c :: r) :
      s.visible = c :: r := by
    refine visible_cons hr (isBlank_of_isDecimal (isDecimal_of_isOctal hc)) ?_
    rintro rfl
    exact absurd hc (by decide)
  unfold Reading.digitEscape
  rw [Reading.run_mark_bind, Reading.run_next_bind, hvisible hd hr, List.head?_cons, List.tail_cons]
  dsimp only
  rw [if_pos (isDecimal_of_isOctal hd), Reading.run_mark_bind, Reading.run_next_bind,
    hvisible (s := s.leaving (e :: t)) he rfl, List.head?_cons, List.tail_cons]
  dsimp only
  rw [if_pos (by rw [hc, hd, he]; rfl)]
  rfl

theorem ne_of_isDecimal {c d : Char} (hd : isDecimal d = true) (hc : isDecimal c = false) : d ≠ c := by
  rintro rfl
  exact absurd hd (by rw [hc]; exact Bool.false_ne_true)

/-- A digit other than 0 behind a backslash begins a reference or an octal character. -/
theorem escapeOf_digit {d : Char} (hd : isDecimal d = true) (h0 : d ≠ '0') (s : Source) :
    (Reading.escapeOf d).run s = (Reading.digitEscape d).run s := by
  have hwidth : Reading.hexWidth? d = none := by
    unfold Reading.hexWidth?
    split
    · exact absurd hd (by decide)
    · exact absurd hd (by decide)
    · exact absurd hd (by decide)
    · rfl
  have hplace : Reading.placeLetter? s.options d = none := by
    unfold Reading.placeLetter?
    dsimp only
    split <;> first | exact absurd hd (by decide) | rfl
  have hne {c : Char} (hc : isDecimal c = false) : ¬ (d == c) = true := fun h => ne_of_isDecimal hd hc (eq_of_beq h)
  have hp : ¬ (d == 'p' || d == 'P') = true := by
    rw [Bool.or_eq_true]
    exact not_or.mpr ⟨hne (by decide), hne (by decide)⟩
  unfold Reading.escapeOf
  rw [Reading.run_get_bind, hwidth, hplace]
  dsimp only
  rw [if_neg (hne (by decide)), if_neg (hne (by decide)), if_neg (hne (by decide)), if_neg hp, if_neg (hne (by decide)),
    if_neg (fun h => h0 (eq_of_beq h)), if_pos hd]

theorem digitValue_pos {d : Char} (hd : isDecimal d = true) (h0 : d ≠ '0') : 1 ≤ digitValue d := by
  have hrange := isDecimal_iff.mp hd
  have hne : d.toNat ≠ 48 := fun h => h0 (Char.toNat_inj.mp h)
  unfold digitValue
  rw [decimalValue?_of_isDecimal hd, Option.getD_some]
  omega

/-- The digits behind a backslash refer to the group of their number, which is positive. -/
theorem run_escapeOf_short (hx : s.skipping = true → x = true) {d : Char} (h : ShortNumber x (d :: ds) u n)
    (hr : s.rest = ds ++ u) : 1 ≤ n ∧ (Reading.escapeOf d).run s = (Reading.digitReference n u).run s := by
  cases h with
  | one hd h0 hf =>
    rw [List.nil_append] at hr
    rw [← hr] at hf
    rw [escapeOf_digit hd h0, run_digitEscape_one hx hf, hr]
    exact ⟨digitValue_pos hd h0, rfl⟩
  | two hd h0 he hf =>
    have hpos := digitValue_pos hd h0
    rw [escapeOf_digit hd h0, run_digitEscape_two hx hr he hf]
    unfold digitValue at *
    exact ⟨by omega, rfl⟩

/-- A number of one digit that is raised by one is a number of one digit again. -/
theorem ShortNumber.raised (h : ShortNumber x ds u n) (hn : n + 1 ≤ 9) {v : List Char}
    (hf : Fenced x isDecimal u → Fenced x isDecimal v) : ShortNumber x (Nat.toDigits 10 (n + 1)) v (n + 1) := by
  have hdigit : ∀ m < 10, m ≠ 0 → isDecimal (Nat.digitChar m) = true ∧ Nat.digitChar m ≠ '0' ∧
      (decimalValue? (Nat.digitChar m)).getD 0 = m := by decide
  obtain ⟨hd, h0, hvalue⟩ := hdigit (n + 1) (by omega) (Nat.succ_ne_zero n)
  have hone : ShortNumber x [Nat.digitChar (n + 1)] v ((decimalValue? (Nat.digitChar (n + 1))).getD 0) := by
    cases h with
    | one _ _ hfu => exact .one hd h0 (hf hfu)
    | two hd' h0' _ _ =>
      have hpos := digitValue_pos hd' h0'
      unfold digitValue at hpos
      omega
  rw [Nat.toDigits_of_lt_base (by omega : n + 1 < 10)]
  rwa [hvalue] at hone

end Numbered

namespace Abreast

variable {x : Bool} {a : Option Nat} {ps : List Paren} {s s' : Source} {T : List Char → List Char → Prop}

theorem nodeOf (h : Paired T s s') (e : Escaped) :
    Meets (AlongBy SameTest T s s') ((Reading.nodeOf e).run s) ((Reading.nodeOf e).run s') := by
  have hok (t : CharTest) : Meets (AlongBy SameTest T s s') (.ok (.one t, s)) (.ok (.one t, s')) :=
    .ok ⟨⟨t, rfl, rfl⟩, s.rest, s'.rest, rfl, rfl, h.text⟩
  cases e <;> simp only [Reading.nodeOf, Reading.run_casing_bind, h.options] <;> exact hok _

/-- The same test is its own counterpart. -/
theorem alongBy_counterpart (n : Node Reference) (t : Source) (n' : Node Reference) (t' : Source)
    (h : AlongBy SameTest T s s' n t n' t') : AlongBy Node.Counterpart T s s' n t n' t' := by
  obtain ⟨⟨test, rfl, rfl⟩, h⟩ := h
  exact ⟨rfl, h⟩

theorem run_attempt_of_ok {α : Type} {r : Reading α} {b : α} {t : Source} (h : r.run s = .ok (b, t)) :
    (Reading.attempt r).run s = .ok (some b, t) := by
  unfold Reading.attempt
  rw [Reading.run_get_bind, h]
  rfl

theorem run_attempt_of_malformed {α : Type} {r : Reading α} {c : Cause} {n : Nat}
    (h : r.run s = .error (.malformed c n)) : (Reading.attempt r).run s = .ok (none, s) := by
  unfold Reading.attempt
  rw [Reading.run_get_bind, h]
  rfl

/-- A reference after a letter `g` is what the escape stands for. -/
theorem run_escapeOf_bracket {n : Node Reference} {t : Source} (h : Reading.bracketReference.run s = .ok (n, t)) :
    (Reading.escapeOf 'g').run s = .ok (n, t) := by
  show Reading.bracketEscape.run s = _
  unfold Reading.bracketEscape
  rw [Reading.run_bind_of_ok (run_attempt_of_ok h)]
  rfl

/-- After a letter `g` a reference is read in both texts, or the letter itself. -/
theorem bracketEscape (hp : Paired T s s')
    (h : Joint (AlongBy Node.Counterpart T s s') (Reading.bracketReference.run s) (Reading.bracketReference.run s')) :
    Meets (AlongBy Node.Counterpart T s s') (Reading.bracketEscape.run s) (Reading.bracketEscape.run s') := by
  generalize ho : Reading.bracketReference.run s = o at h
  generalize ho' : Reading.bracketReference.run s' = o' at h
  unfold Reading.bracketEscape
  cases h with
  | ok h =>
    rw [Reading.run_bind_of_ok (run_attempt_of_ok ho), Reading.run_bind_of_ok (run_attempt_of_ok ho')]
    exact .ok h
  | malformed =>
    rw [Reading.run_bind_of_ok (run_attempt_of_malformed ho), Reading.run_bind_of_ok (run_attempt_of_malformed ho')]
    exact (nodeOf hp _).mono alongBy_counterpart

theorem bind_nodeOf {α : Type} (hp : Paired T s s') {r : Reading α} (h : Meets (Along T s s') (r.run s) (r.run s'))
    (f : α → Escaped) :
    Meets (AlongBy SameTest T s s') ((r >>= fun b => Reading.nodeOf (f b)).run s)
      ((r >>= fun b => Reading.nodeOf (f b)).run s') := by
  refine h.bind (fun _ => .nodeOf _) ?_
  rintro b _ _ _ ⟨rfl, u, v, rfl, rfl, ht⟩ - -
  exact nodeOf (hp.leaving ht) (f b)

theorem counterpart_placeLetter {o : Options} {c : Char} {n : Node Reference}
    (h : Reading.placeLetter? o c = some n) : n.Counterpart n := by
  unfold Reading.placeLetter? at h
  dsimp only at h
  split at h <;> cases h <;> rfl

/-- An escape that is no numbered reference is read alike. -/
theorem escapeOf (hb : s.Beside x s') (h : Raised x a ps s.rest s'.rest) {c : Char} (hc : PlainEscape x c s.rest) :
    Meets (AlongBy Node.Counterpart (Raised x a ps) s s') ((Reading.escapeOf c).run s)
      ((Reading.escapeOf c).run s') := by
  have hp : Paired (Raised x a ps) s s' := ⟨hb.skipping, hb.options, Raised.inStep hb.skips a ps, h⟩
  have hok (n : Node Reference) (hn : n.Counterpart n) :
      Meets (AlongBy Node.Counterpart (Raised x a ps) s s') (.ok (n, s)) (.ok (n, s')) :=
    .ok ⟨hn, s.rest, s'.rest, rfl, rfl, h⟩
  -- a digit other than 0 begins an octal escape here, since what it refers to is no plain escape
  by_cases hdigit : isDecimal c = true ∧ c ≠ '0'
  · obtain ⟨hoct, d, e, t, hr, hd, he⟩ := hc.octal hdigit.1 hdigit.2
    rw [escapeOf_digit hdigit.1 hdigit.2, escapeOf_digit hdigit.1 hdigit.2, run_digitEscape_octal hr hoct hd he]
    rw [hr] at h
    have hnot {d : Char} (hd : isOctal d = true) : d ∉ signs := fun hm =>
      absurd hd (by rw [eq_false_of_any (p := isOctal) (by decide) d hm]; exact Bool.false_ne_true)
    obtain ⟨v, hv, h₁⟩ := h.of_cons (hnot hd)
    obtain ⟨w, rfl, h₂⟩ := h₁.of_cons (hnot he)
    rw [run_digitEscape_octal hv hoct hd he, hb.options]
    exact (nodeOf (hp.leaving h₂) _).mono alongBy_counterpart
  · unfold Reading.escapeOf
    rw [Reading.run_get_bind, Reading.run_get_bind, hb.options]
    have hnode {α : Type} {r : Reading α} (hr : Meets (Along (Raised x a ps) s s') (r.run s) (r.run s'))
        (f : α → Escaped) := (bind_nodeOf hp hr f).mono alongBy_counterpart
    split
    · exact hnode (hexEscape hp _ _) .literal
    · next place _ hplace => exact hok place (counterpart_placeLetter hplace)
    · refine .either (fun hg => bracketEscape hp (bracketReference hb h (hc.bracket (eq_of_beq hg)))) fun _ =>
        .either (fun _ => ?_) fun _ => .either (fun _ => hnode (nameEscape hp) id) fun _ =>
        .either (fun _ => hnode (propertyEscape hp _) id) fun _ => .either (fun _ => hok _ rfl) fun _ =>
        .either (fun _ => hnode (octalEscape hp _) .literal) fun h0 => .either (fun hd => ?_) fun _ =>
        hnode (commonEscape hp c) id
      · obtain ⟨e, he, hne⟩ := listEscape_refused s
        obtain ⟨e', he', hne'⟩ := listEscape_refused s'
        rw [he, he']
        exact .errors hne hne'
      · exact absurd ⟨hd, fun hc => h0 (beq_iff_eq.mpr hc)⟩ hdigit

/-- **What follows a backslash is read alike**, with the number of a reference raised by one. -/
theorem escape (hb : s.Beside x s') (ho : Opens ps s.opened) (h : Raised x a ps ('\\' :: s.rest) ('\\' :: s'.rest)) :
    Meets (AlongBy Node.Counterpart (Raised x a ps) s s') (Reading.escape.run s) (Reading.escape.run s') := by
  unfold Reading.escape
  rw [Reading.run_verbatim_next_bind, Reading.run_verbatim_next_bind]
  have hcounter {n : Nat} (hn : 1 ≤ n) (place place' : Nat) :
      Node.Counterpart (.backref ⟨.number n, place⟩ s.options.casing)
        (.backref ⟨.number (n + 1), place'⟩ s'.options.casing) := by
    rw [hb.options]
    exact .backref _ (congrArg GroupName.number (raised_of_pos hn).symm)
  generalize hr : s.rest = r at h
  generalize hr' : s'.rest = r' at h
  cases h with
  | char hc => exact absurd (by decide) hc
  | @escape _ _ c u v hc h =>
    exact escapeOf (hb.leaving u v) h hc
  | dangling => exact .spent _ _ rfl
  | @backslash _ _ ds n u v hds hraises hopen h =>
    have hne : ∃ d ds', ds = d :: ds' := by cases hds <;> exact ⟨_, _, rfl⟩
    obtain ⟨d, ds', rfl⟩ := hne
    obtain ⟨hpos, hrun⟩ := run_escapeOf_short (s := s.leaving (ds' ++ u)) hb.skips hds rfl
    have hread : (Reading.escapeOf d).run (s.leaving (ds' ++ u)) = _ := hrun.trans (run_digitReference _ _ _)
    unfold referenceText
    -- up to 9 the raised number is a digit behind the backslash, beyond that it is bracketed
    by_cases hn : n + 1 ≤ 9
    · have hshort := hds.raised hn (h.fenced (by decide))
      have hraised := hb.contains_opened n
      rw [raised_of_pos hpos] at hraised
      rw [if_pos hn, Nat.toDigits_of_lt_base (by omega : n + 1 < 10)] at *
      have hskips : s'.skipping = true → x = true := fun hs => hb.skips (hb.skipping ▸ hs)
      have hread' : (Reading.escapeOf (Nat.digitChar (n + 1))).run (s'.leaving v) = _ :=
        (run_escapeOf_short (s := s'.leaving v) hskips hshort rfl).2.trans (run_digitReference _ _ _)
      show Meets _ ((Reading.escapeOf d).run (s.leaving (ds' ++ u)))
        ((Reading.escapeOf (Nat.digitChar (n + 1))).run (s'.leaving v))
      rw [hread, hread', Source.leaving_opened, Source.leaving_opened, hraised]
      cases s.opened.contains n with
      | true => exact .refused _ _ _ _
      | false => exact .ok ⟨hcounter hpos _ _, u, v, rfl, rfl, h⟩
    · have hclosed : s.opened.contains n = false := by simpa using (hopen (by omega)).not_mem ho
      have hclosed' : s'.opened.contains (n + 1) = false := by
        rw [← raised_of_pos hpos, hb.contains_opened, hclosed]
      obtain ⟨place', hrun'⟩ :=
        run_bracketReference (s := s'.leaving ('<' :: (Nat.toDigits 10 (n + 1) ++ '>' :: v))) rfl
        (numbers_toDigits hraises) hclosed'
      rw [if_neg hn]
      show Meets _ ((Reading.escapeOf d).run (s.leaving (ds' ++ u)))
        ((Reading.escapeOf 'g').run (s'.leaving ('<' :: (Nat.toDigits 10 (n + 1) ++ ['>'] ++ v))))
      rw [List.append_assoc, List.singleton_append, hread, Source.leaving_opened, hclosed, run_escapeOf_bracket hrun']
      exact .ok ⟨hcounter hpos _ _, u, v, rfl, rfl, h⟩
  | @bracketed _ _ ds n u v hds hraises hopen h =>
    have hclosed : s.opened.contains n = false := by simpa using hopen.not_mem ho
    have hclosed' : s'.opened.contains (n + 1) = false := by
      rw [← raised_of_pos hds.pos, hb.contains_opened, hclosed]
    obtain ⟨place, hrun⟩ := run_bracketReference (s := s.leaving ('<' :: (ds ++ '>' :: u))) rfl hds hclosed
    obtain ⟨place', hrun'⟩ := run_bracketReference (s := s'.leaving ('<' :: (Nat.toDigits 10 (n + 1) ++ '>' :: v))) rfl
      (numbers_toDigits hraises) hclosed'
    show Meets _ ((Reading.escapeOf 'g').run (s.leaving ('<' :: (ds ++ '>' :: u))))
      ((Reading.escapeOf 'g').run (s'.leaving ('<' :: (Nat.toDigits 10 (n + 1) ++ '>' :: v))))
    rw [run_escapeOf_bracket hrun, run_escapeOf_bracket hrun']
    exact .ok ⟨hcounter hds.pos place place', u, v, rfl, rfl, h⟩

end Abreast

end SqlRegexp.Pattern
