import SqlRegexp.Proofs.Pattern.Abreast.Level

/-!
Reading choices, calls and options abreast. They begin with a parenthesis and a question mark; `a` is the number of the
last group and `q` their parenthesis.
-/

namespace SqlRegexp.Pattern

open SqlRegexp.Text SqlRegexp.Unicode
open SqlRegexp.Match (raised raised_of_pos)
open Node (Counterpart)

/-! ### Names and numbers -/

section Names

variable {x : Bool} {numeric : Bool} {s t : Source} {g : GroupName}

/-- What begins like a name is read as one, if it is read. -/
theorem name_of_groupName (hx : s.skipping = true → x = true) (hstart : numeric = true → NameStart x s.rest)
    (h : (Reading.groupName numeric).run s = .ok (g, t)) : ∃ cs, g = .name cs := by
  unfold Reading.groupName at h
  rw [Reading.run_takeWhile_bind] at h
  cases numeric with
  | true =>
    rcases @run_nameFrom_of_head true _ (head_of_nameStart hx (hstart rfl)) with ⟨cause, he⟩ | hok
    · rw [he] at h
      cases h
    · rw [hok] at h
      cases h
      exact ⟨_, rfl⟩
  | false =>
    unfold Reading.nameFrom at h
    split at h
    · cases h
    · split at h
      · cases h
      · split at h
        · cases h
        · cases h
          exact ⟨_, rfl⟩

end Names

section Numbers

variable {x : Bool} {ds u : List Char} {n : Nat} {s : Source} {sequence alternatives : Reading (Node Reference)}

theorem Numbers.head_ne (h : Numbers ds n) {c : Char} (hc : isDigitChar c.toNat = false) :
    ∃ d ds', ds = d :: ds' ∧ d ≠ c := by
  have hdigits := (Bool.and_eq_true _ _ ▸ h.digits : _ ∧ _)
  cases ds with
  | nil => exact absurd hdigits.1 Bool.false_ne_true
  | cons d ds' =>
    refine ⟨d, ds', rfl, ?_⟩
    rintro rfl
    exact absurd (List.all_eq_true.mp hdigits.2 d List.mem_cons_self) (by rw [hc]; exact Bool.false_ne_true)

/-- Where a number is expected, a text that begins with it is taken as it is. -/
theorem Numbers.visible (h : Numbers ds n) (hr : s.rest = ds ++ u) : s.visible = s.rest := by
  obtain ⟨d, ds', rfl, hne⟩ := h.head_ne (c := '#') (by decide +kernel)
  rw [hr]
  exact visible_cons hr (h.solid d List.mem_cons_self) hne

/-- What does not begin with a question mark is a choice by a group. -/
theorem run_conditional (h : s.visible.head? ≠ some '?') :
    (Reading.conditional sequence alternatives).run s =
      (Reading.enclosed (Reading.choiceByGroup s.pos sequence)).run s := by
  have hne : ¬ (s.visible.head? == some '?') = true := fun he => h (eq_of_beq he)
  unfold Reading.conditional
  rw [Reading.run_pos_bind, Reading.run_mark_bind, Reading.run_next_bind, if_neg hne, Reading.run_rewind_bind,
    Source.leaving_leaving, Source.leaving_self]

/-- The closing parenthesis is the next character. -/
theorem run_expect_close_bind {α : Type} (hr : s.rest = ')' :: u) (k : Unit → Reading α) :
    (Reading.expect ')' >>= k).run s = (k ()).run (s.leaving u) := by
  rw [Reading.run_expect_bind, visible_cons hr (by decide) (by decide), List.head?_cons, if_pos rfl, List.tail_cons]

/-- A number and a closing parenthesis name the group that a choice asks for. -/
theorem run_choiceByGroup_number (h : Numbers ds n) (hr : s.rest = ds ++ ')' :: u) (place : Nat) :
    (Reading.choiceByGroup place sequence).run s =
      (Reading.choiceFor ⟨.number n, place⟩ sequence).run (s.leaving u) := by
  unfold Reading.choiceByGroup Reading.groupName
  rw [bind_assoc, Reading.run_takeWhile_bind, hr, taken_append h.chars (by decide),
    Reading.run_bind_of_ok (run_nameFrom_number h), run_expect_close_bind rfl, Source.leaving_leaving]

theorem run_conditional_number (h : Numbers ds n) (hr : s.rest = ds ++ ')' :: u) :
    (Reading.conditional sequence alternatives).run s =
      (Reading.enclosed (Reading.choiceByGroup s.pos sequence)).run s := by
  refine run_conditional ?_
  obtain ⟨d, ds', rfl, hne⟩ := h.head_ne (c := '?') (by decide +kernel)
  rw [h.visible hr, hr]
  exact fun he => hne (Option.some.inj he)

/-- The digits at the front of a text, if nothing is ignored behind them. -/
theorem taken_digits {skipping : Bool} {cs : List Char} (hx : skipping = true → x = true)
    (h : Settled x (cs.dropWhile isDecimal)) :
    Source.taken skipping isDecimal cs = (cs.takeWhile isDecimal, cs.dropWhile isDecimal) := by
  unfold Source.taken
  split
  · next hs =>
    induction cs with
    | nil => rfl
    | cons c cs ih =>
      by_cases hc : isDecimal c = true
      · have hblank : ¬ isBlank c.toNat = true := by rw [isBlank_of_isDecimal hc]; exact Bool.false_ne_true
        rw [List.dropWhile_cons_of_pos hc] at h
        rw [Source.gather, if_neg hblank, if_neg (ne_of_isDecimal hc (by decide)), if_pos hc, ih h,
          List.takeWhile_cons_of_pos hc, List.dropWhile_cons_of_pos hc]
      · rw [List.dropWhile_cons_of_neg hc] at h
        have hi : ¬ Ignorable x c := h c rfl
        have hblank : ¬ isBlank c.toNat = true := fun hb => hi ⟨hx hs, .inl hb⟩
        have hhash : c ≠ '#' := fun hh => hi ⟨hx hs, .inr hh⟩
        rw [Source.gather, if_neg hblank, if_neg hhash, if_neg hc, List.takeWhile_cons_of_neg hc,
          List.dropWhile_cons_of_neg hc]
  · rfl

/-- Digits and a closing parenthesis call the group of their number. -/
theorem run_numberedCall {d : Char} (h : Numbers (d :: ds) n) (hds : ∀ e ∈ d :: ds, isDecimal e = true)
    (hr : s.rest = ds ++ ')' :: u) (place : Nat) :
    (Reading.numberedCall [d] place).run s = .ok (.call ⟨.number n, place⟩, s.leaving u) := by
  have hchars : ∀ e ∈ ds, isDecimal e = true ∧ isBlank e.toNat = false ∧ e ≠ '#' := fun e he =>
    have hmem := List.mem_cons_of_mem d he
    ⟨hds e hmem, (h.chars e hmem).2⟩
  have hgroup : Reading.numberedGroup ([d] ++ ds) = .number n := by
    unfold Reading.numberedGroup
    rw [List.singleton_append, h.reads]
  unfold Reading.numberedCall
  rw [Reading.run_takeWhile_bind, hr, taken_append hchars (by decide), run_expect_close_bind rfl, hgroup]
  rfl

end Numbers

namespace Abreast

variable {x : Bool} {a : Option Nat} {q : Paren} {ps : List Paren} {opened : List Nat} {n n' : Nat}
  {s s' : Source} {inside inside' : Reading (Node Reference)}

/-- A group that is no number is named alike, and its name is its counterpart. -/
theorem namedReference {numeric : Bool} (hb : s.Beside x s') (hstart : numeric = true → NameStart x s.rest)
    (h : Raised x a ps s.rest s'.rest) :
    Meets (AlongBy (fun g g' => g' = g.raised) (Raised x a ps) s s') ((Reading.groupName numeric).run s)
      ((Reading.groupName numeric).run s') := by
  have hmeets := groupName hb.skips hb.skipping numeric h
  generalize ho : (Reading.groupName numeric).run s = o at hmeets
  generalize ho' : (Reading.groupName numeric).run s' = o' at hmeets
  cases hmeets with
  | ok hq =>
    obtain ⟨rfl, u, v, rfl, rfl, ht⟩ := hq
    obtain ⟨cs, rfl⟩ := name_of_groupName hb.skips hstart ho
    exact .ok ⟨rfl, u, v, rfl, rfl, ht⟩
  | again g => exact .again g
  | malformed h => exact .malformed h
  | numeral h => exact .numeral h

/-! ### Choices -/

/-- The branches of a choice by a group are read alike. -/
theorem choiceFor (hr : ReadsAlike n n' inside inside') (h : Level x a (q :: ps) opened s s')
    (ho : Opens (q :: ps) opened) (hroom : Room n n' s s') {r r' : Reference} (hg : r'.group = r.group.raised) :
    Meets (Reached Counterpart x a ps opened) ((Reading.choiceFor r inside).run s)
      ((Reading.choiceFor r' inside').run s') := by
  refine (branches hr h ho hroom).bind (fun _ => .pure _) ?_
  rintro ⟨yes, no⟩ t ⟨yes', no'⟩ t' ⟨⟨hyes, hno⟩, hl⟩ - -
  refine .ok ⟨?_, hl⟩
  rw [hyes.isTrivial, hno.isTrivial]
  split
  · rfl
  · exact .ifGroup hg hyes hno

/-- A choice by a named group is read alike. -/
theorem choiceByGroup (hr : ReadsAlike n n' inside inside') (h : Level x a (.bare :: .bare :: ps) opened s s')
    (ho : Opens ps opened) (hroom : Room n n' s s') (hstart : NameStart x s.rest) (place place' : Nat) :
    Meets (Reached Counterpart x a ps opened) ((Reading.choiceByGroup place inside).run s)
      ((Reading.choiceByGroup place' inside').run s') := by
  unfold Reading.choiceByGroup
  refine (namedReference h.beside (fun _ => hstart) h.text).bind ?_ ?_
  · exact fun _ => (Reading.Onward.expect _).bind fun _ => .choiceFor _ (hr.onward' 0)
  · rintro g t g' t' ⟨hg, u, v, rfl, rfl, ht⟩ hrun hrun'
    have hroom₁ := hroom.after (fun _ => .groupName _) (fun _ => .groupName _) hrun hrun'
    refine (expectClose (h.toCounted.level ht)).bind (fun _ => .choiceFor _ (hr.onward' 0)) ?_
    rintro _ t _ t' hl hrun₁ hrun₁'
    have hroom₂ := hroom₁.after (fun _ => .expect _) (fun _ => .expect _) hrun₁ hrun₁'
    exact choiceFor hr hl (.bare ho) hroom₂ hg

/-- A choice by what is ahead or behind is read alike. -/
theorem choiceByLook {inner inner' : Reading (Node Reference)} (behind positive : Bool)
    (hr : ReadsAlike n n' inside inside') (hi : ReadsAlike n n' inner inner')
    (h : Level x a (.bare :: .bare :: ps) opened s s') (ho : Opens ps opened) (hroom : Room n n' s s') :
    Meets (Reached Counterpart x a ps opened) ((Reading.choiceByLook behind positive inside inner).run s)
      ((Reading.choiceByLook behind positive inside' inner').run s') := by
  unfold Reading.choiceByLook
  refine (closed hi h (.bare (.bare ho)) hroom).bind ?_ ?_
  · exact fun _ => (Reading.Onward.branches (hr.onward' 0)).bind fun _ => .pure _
  · rintro test t test' t' ⟨htest, a₁, ha, hl⟩ hrun hrun'
    have hroom₁ := hroom.after (fun m => .closed (hi.onward m)) (fun m => .closed (hi.onward' m)) hrun hrun'
    refine (branches hr hl (.bare ho) hroom₁).bind (fun _ => .pure _) ?_
    rintro ⟨yes, no⟩ t ⟨yes', no'⟩ t' ⟨⟨hyes, hno⟩, hl'⟩ - -
    exact .ok (Reached.widen ⟨.ifLook behind positive htest hyes hno, hl'⟩ ha)

/-- A choice is read alike, unless it is one by a number. -/
theorem conditional {inner inner' : Reading (Node Reference)} (hr : ReadsAlike n n' inside inside')
    (hi : ReadsAlike n n' inner inner') (h : Level x a (.bare :: .bare :: ps) opened s s') (ho : Opens ps opened)
    (hroom : Room n n' s s') (hstart : NameStart x s.rest) :
    Meets (Reached Counterpart x a ps opened) ((Reading.conditional inside inner).run s)
      ((Reading.conditional inside' inner').run s') := by
  have hgroup (hne : s.visible.head? ≠ some '?') (hne' : s'.visible.head? ≠ some '?') :
      Meets (Reached Counterpart x a ps opened) ((Reading.conditional inside inner).run s)
        ((Reading.conditional inside' inner').run s') := by
    rw [run_conditional hne, run_conditional hne']
    exact enclosed (fun m => .choiceByGroup _ (hr.onward m)) h.beside (choiceByGroup hr h ho hroom hstart _ _)
  rcases h.next with ⟨hu, hv⟩ | ⟨c, u, v, hu, hv, hl⟩
  · -- no question mark: the choice is by a group
    exact hgroup (by rw [hu]; simp) (by rw [hv]; simp)
  · by_cases hc : c = '?'
    · subst hc
      have hl₁ := hl (by decide)
      have hroom₁ := hroom.next
      rw [hu, hv, List.tail_cons, List.tail_cons] at hroom₁
      have hroom₂ := hroom₁.next
      unfold Reading.conditional
      rw [Reading.run_pos_bind, Reading.run_pos_bind, Reading.run_mark_bind, Reading.run_mark_bind,
        Reading.run_next_bind_of_cons hu, Reading.run_next_bind_of_cons hv, if_pos (beq_self_eq_true _),
        if_pos (beq_self_eq_true _)]
      rcases hl₁.next with ⟨hu₁, hv₁⟩ | ⟨d, u₁, v₁, hu₁, hv₁, hl₂⟩
      · rw [Reading.run_next_bind, hu₁, Reading.run_next_bind_of_cons hv₁]
        exact .refused _ _ _ _
      · rw [hu₁, hv₁, List.tail_cons, List.tail_cons] at hroom₂
        rw [Reading.run_next_bind_of_cons hu₁, Reading.run_next_bind_of_cons hv₁]
        split
        · next hd =>
          -- `(?(?=`
          cases hd
          exact choiceByLook _ _ hr hi (hl₂ (by decide)) ho hroom₂
        · next hd =>
          -- `(?(?!`
          cases hd
          exact choiceByLook _ _ hr hi (hl₂ (by decide)) ho hroom₂
        · next hd =>
          -- `(?(?<`
          cases hd
          have hroom₃ := hroom₂.next
          rcases (hl₂ (by decide)).next with ⟨hu₂, hv₂⟩ | ⟨e, u₂, v₂, hu₂, hv₂, hl₃⟩
          · rw [Reading.run_next_bind, hu₂, Reading.run_next_bind_of_cons hv₂]
            exact .refused _ _ _ _
          · rw [hu₂, hv₂, List.tail_cons, List.tail_cons] at hroom₃
            rw [Reading.run_next_bind_of_cons hu₂, Reading.run_next_bind_of_cons hv₂]
            split
            · next he =>
              cases he
              exact choiceByLook _ _ hr hi (hl₃ (by decide)) ho hroom₃
            · next he =>
              cases he
              exact choiceByLook _ _ hr hi (hl₃ (by decide)) ho hroom₃
            · exact .refused _ _ _ _
        · exact .refused _ _ _ _
    · have hne : some c ≠ some '?' := fun he => hc (Option.some.inj he)
      exact hgroup (by rw [hu]; exact hne) (by rw [hv]; exact hne)

/-- A choice by a number is read alike, the number being one higher in the other text. -/
theorem numberedChoice {inner inner' : Reading (Node Reference)} (hr : ReadsAlike n n' inside inside')
    (hc : Counted x a opened s s') (ho : Opens ps opened) (hroom : Room n n' s s') {ds u v : List Char} {m : Nat}
    (hds : Numbers ds m) (hraises : Raises m) (hu : s.rest = ds ++ ')' :: u)
    (hv : s'.rest = Nat.toDigits 10 (m + 1) ++ ')' :: v) (ht : Raised x a (.bare :: ps) u v) :
    Meets (Reached Counterpart x a ps opened) ((Reading.conditional inside inner).run s)
      ((Reading.conditional inside' inner').run s') := by
  have hds' := numbers_toDigits hraises
  rw [run_conditional_number hds hu, run_conditional_number hds' hv]
  refine enclosed (fun m => .choiceByGroup _ (hr.onward m)) hc.beside ?_
  rw [run_choiceByGroup_number hds hu, run_choiceByGroup_number hds' hv]
  have hroom₁ : Room n n' (s.leaving u) (s'.leaving v) := by
    refine hroom.leaving ?_ ?_
    · rw [hu, List.length_append, List.length_cons]
      omega
    · rw [hv, List.length_append, List.length_cons]
      omega
  exact choiceFor hr (hc.level ht) (.bare ho) hroom₁ (congrArg GroupName.number (raised_of_pos hds.pos).symm)

/-! ### Calls -/

theorem wholeCall (h : Level x a (q :: ps) opened s s') (place place' : Nat) :
    Meets (Reached Counterpart x a ps opened) ((Reading.wholeCall place).run s)
      ((Reading.wholeCall place').run s') := by
  refine (expectClose h).bind (fun _ => .pure _) ?_
  rintro _ t _ t' hl - -
  exact .ok (.of_level (.call rfl) hl)

theorem namedCall (h : Level x a (q :: ps) opened s s') (place place' : Nat) :
    Meets (Reached Counterpart x a ps opened) ((Reading.namedCall place).run s)
      ((Reading.namedCall place').run s') := by
  unfold Reading.namedCall
  refine (namedReference h.beside (fun hn => by cases hn) h.text).bind ?_ ?_
  · exact fun _ => (Reading.Onward.expect _).bind fun _ => .pure _
  · rintro g t g' t' ⟨hg, u, v, rfl, rfl, ht⟩ - -
    refine (expectClose (h.toCounted.level ht)).bind (fun _ => .pure _) ?_
    rintro _ t _ t' hl - -
    exact .ok (.of_level (.call hg) hl)

/-- A group counted from here is called alike. Counted backwards, it may lie before the first group of the pattern. -/
theorem relativeCall (h : Level x a (q :: ps) opened s s') {forward : Bool}
    (hplus : forward = true → readNatural (Source.taken s.skipping isDecimal s.rest).1 ≠ .ok 0) (place place' : Nat) :
    Meets (Reached Counterpart x a ps opened) ((Reading.relativeCall forward place).run s)
      ((Reading.relativeCall forward place').run s') := by
  have hb := h.beside
  obtain ⟨heq, ht⟩ := h.text.taken_same (p := isDecimal) (eq_false_of_any (by decide)) hb.skips
  unfold Reading.relativeCall
  rw [Reading.run_takeWhile_bind, Reading.run_takeWhile_bind, hb.skipping, ← heq]
  generalize (Source.taken s.skipping isDecimal s.rest).1 = digits at hplus
  refine .either (fun _ => .refused _ _ _ _) fun _ => ?_
  have hl := h.toCounted.level ht
  generalize s.leaving _ = t at hl
  generalize s'.leaving _ = t' at hl
  cases hn : readNatural digits with
  | error e => exact .numeral trivial
  | ok offset =>
    show Meets _ ((if (!forward && decide (t.groupCount < offset)) = true then _ else _ : Reading _).run t)
      ((if (!forward && decide (t'.groupCount < offset)) = true then _ else _ : Reading _).run t')
    rw [hl.beside.groupCount]
    by_cases hfar : (!forward && decide (t.groupCount < offset)) = true
    · rw [if_pos hfar]
      exact .malformed fun hne => absurd rfl hne
    · rw [Bool.and_eq_true, Bool.not_eq_true', decide_eq_true_iff, not_and] at hfar
      have hnear : ¬ (!forward && decide (t.groupCount < offset)) = true := by simpa using hfar
      -- one group more in front, so that a call that is near enough stays so
      have hnear' : ¬ (!forward && decide (t.groupCount + 1 < offset)) = true := by
        rw [Bool.and_eq_true, Bool.not_eq_true', decide_eq_true_iff, not_and]
        exact fun hf => have := hfar hf; by omega
      rw [if_neg hnear, if_neg hnear']
      refine (expectClose hl).bind (fun _ => .pure _) ?_
      rintro _ u _ u' hl' - -
      refine .ok (.of_level (.call (congrArg GroupName.number ?_)) hl')
      cases forward with
      | true =>
        have hpos : offset ≠ 0 := by
          rintro rfl
          exact hplus rfl hn
        rw [if_pos rfl, if_pos rfl, raised_of_pos (by omega)]
        omega
      | false =>
        have hle := hfar rfl
        rw [if_neg Bool.false_ne_true, if_neg Bool.false_ne_true, raised_of_pos (by omega)]
        omega

/-- Digits that are no number of a group call the whole pattern, or call nothing. -/
theorem zeroCall (h : Level x a (q :: ps) opened s s') {d : Char} (hd : Settled x (s.rest.dropWhile isDecimal))
    (hzero : readNatural (d :: s.rest.takeWhile isDecimal) = .ok 0 ∨ (s.rest.dropWhile isDecimal).head? ≠ some ')')
    (place place' : Nat) :
    Meets (Reached Counterpart x a ps opened) ((Reading.numberedCall [d] place).run s)
      ((Reading.numberedCall [d] place').run s') := by
  have hb := h.beside
  obtain ⟨heq, ht⟩ := h.text.taken_same (p := isDecimal) (eq_false_of_any (by decide)) hb.skips
  unfold Reading.numberedCall
  rw [Reading.run_takeWhile_bind, Reading.run_takeWhile_bind, hb.skipping, ← heq]
  have htaken := taken_digits hb.skips hd
  rw [htaken] at ht ⊢
  refine (expectClose (h.toCounted.level ht)).bind (fun _ => .pure _) ?_
  rintro _ t _ t' hl hrun -
  have hzero' : Reading.numberedGroup ([d] ++ s.rest.takeWhile isDecimal) = .number 0 := by
    rcases hzero with hz | hne
    · unfold Reading.numberedGroup
      rw [List.singleton_append, hz]
    · rw [Reading.run_expect, Source.leaving_visible, seen_of_settled hb.skips hd, if_neg hne] at hrun
      cases hrun
  rw [hzero']
  exact .ok (.of_level (.call rfl) hl)

/-! ### Options -/

/-- Blanks are ignored behind option letters only where they may be ignored at all. -/
theorem verbose_of_optionLetters {limit : Nat} {o p : Options} {t : Source} (hs : s.skipping = false)
    (hx : 'x' ∉ s.rest.takeWhile fun c => (Reading.optionLetter? c).isSome)
    (h : (Reading.optionLetters limit o).run s = .ok (p, t)) (hp : p.verbose = true) : o.verbose = true := by
  induction limit generalizing s o with
  | zero =>
    cases h
    exact hp
  | succ limit ih =>
    have hvisible : s.visible = s.rest := by
      rw [Source.visible_eq, hs]
      rfl
    rw [Reading.optionLetters, Reading.run_mark_bind, Reading.run_next_bind, hvisible] at h
    cases hr : s.rest with
    | nil =>
      rw [hr] at h
      cases h
      exact hp
    | cons c u =>
      rw [hr] at h hx
      rw [List.head?_cons, Option.bind_some, List.tail_cons] at h
      cases hc : Reading.optionLetter? c with
      | none =>
        rw [hc] at h
        cases h
        exact hp
      | some letter =>
        rw [hc] at h
        rw [List.takeWhile_cons_of_pos (by rw [hc]; rfl), List.mem_cons, not_or] at hx
        have hov := ih (s := s.leaving u) hs hx.2 h
        -- only `x` asks for it
        have hletter : letter.verbose = false := by
          unfold Reading.optionLetter? at hc
          split at hc <;> cases hc <;> first | rfl | exact absurd rfl hx.1
        rwa [show (o.union letter).verbose = (o.verbose || letter.verbose) from rfl, hletter, Bool.or_false] at hov

/-- Options that are switched on and off inside a pattern leave those that hold for all of it. -/
theorem posix_adjust {o globals on off : Options} (ho : o.posix = globals.posix) (hoff : off.global.isEmpty = true)
    (hon : (on.global.without globals).isEmpty = true) : (o.adjust on off).posix = globals.posix := by
  have hoff' : off.posix = false := congrArg Options.posix (eq_of_beq hoff)
  have hon' : (on.posix && !globals.posix) = false := congrArg Options.posix (eq_of_beq hon)
  show ((o.posix || on.posix) && !off.posix) = globals.posix
  rw [ho, hoff']
  cases hg : globals.posix
  · rw [hg] at hon'
    simpa using hon'
  · simp

/-- What is left of a pattern behind options is read alike: they hold for the pattern inside their parenthesis or for
what follows them. -/
theorem optionScope (hr : ReadsAlike n n' inside inside') (h : Level x a (q :: ps) opened s s')
    (ho : Opens (q :: ps) opened) (hroom : Room n n' s s') {on off : Options} (hon : on.verbose = true → x = true) :
    Meets (Reached (Option.Rel Counterpart) x a ps opened) ((Reading.optionScope on off inside).run s)
      ((Reading.optionScope on off inside').run s') := by
  have hb := h.beside
  have hverbose : ((s.options.verbose || on.verbose) && !off.verbose) = true → x = true := by
    rw [Bool.and_eq_true, Bool.or_eq_true]
    rintro ⟨hv | hv, -⟩
    · exact hb.verbose hv
    · exact hon hv
  unfold Reading.optionScope
  rw [Reading.run_get_bind, Reading.run_get_bind, hb.globals, hb.options]
  refine .either (fun _ => .refused _ _ _ _) fun hoff => .either (fun _ => .refused _ _ _ _) fun _ =>
    .either (fun _ => .again _) fun hon' => ?_
  have hposix := posix_adjust hb.posix (by simpa using hoff) (by simpa using hon')
  obtain ⟨b, u, v, hrun, hrun', hl⟩ := accepted h (c := ':') (by decide)
  have hroom₁ := hroom.after (fun _ => .acceptChar ':') (fun _ => .acceptChar ':') hrun hrun'
  rw [Reading.run_bind_of_ok hrun, Reading.run_bind_of_ok hrun']
  cases b with
  | true =>
    -- the options hold up to the closing parenthesis
    refine enclosed (fun m => (Reading.Onward.setOptions _).bind fun _ => (hr.onward m).bind fun _ =>
      (Reading.Onward.expect _).bind fun _ => .pure _) hl.beside ?_
    rw [Reading.run_setOptions_bind, Reading.run_setOptions_bind]
    have hl₁ := hl.setOptions (o := s.options.adjustInside on off) hverbose hposix
    refine (hr.meets hl₁ ho ⟨hroom₁.depth, hroom₁.depth', hroom₁.total, hroom₁.total'⟩).bind ?_ ?_
    · exact fun _ => (Reading.Onward.expect _).bind fun _ => .pure _
    · rintro m t m' t' ⟨hm, a₁, ha, hl₂⟩ - -
      refine (expectClose hl₂).bind (fun _ => .pure _) ?_
      rintro _ t _ t' hl₃ - -
      exact .ok ⟨.some hm, a₁, ha, hl₃⟩
  | false =>
    show Meets _ ((Reading.acceptChar ')' >>= fun found => if found = true then _ else _ : Reading _).run _)
      ((Reading.acceptChar ')' >>= fun found => if found = true then _ else _ : Reading _).run _)
    rw [Reading.run_acceptChar_bind, Reading.run_acceptChar_bind]
    rcases closing hl with ⟨hu, hv⟩ | ⟨c, u', v', hu, hv, ht⟩
    · rw [hu, hv]
      exact .spent _ _ rfl
    · rw [hu, hv, List.head?_cons, List.head?_cons, List.tail_cons, List.tail_cons]
      by_cases hc : c = ')'
      · subst hc
        rw [if_pos rfl, if_pos rfl]
        have hl' := (hl.toCounted.level (ht rfl)).setOptions (o := s.options.adjust on off) hverbose hposix
        exact .ok (.of_level .none hl')
      · have hne : some c ≠ some ')' := fun he => hc (Option.some.inj he)
        rw [if_neg hne, if_neg hne]
        exact .refused _ _ _ _

/-- **Options are read alike**, and what they hold for. -/
theorem optionGroup (hr : ReadsAlike n n' inside inside') (h : Level x a (q :: ps) opened s s')
    (ho : Opens (q :: ps) opened) (hroom : Room n n' s s')
    (hletters : x = false → 'x' ∉ s.rest.takeWhile fun c => (Reading.optionLetter? c).isSome) :
    Meets (Reached (Option.Rel Counterpart) x a ps opened) ((Reading.optionGroup inside).run s)
      ((Reading.optionGroup inside').run s') := by
  obtain ⟨on, u, v, hrun, hrun', ht⟩ := optionLetters h.paired (Nat.lt_succ_of_le hroom.total)
    (Nat.lt_succ_of_le hroom.total') {}
  have hl := h.leaving ht
  have hroom₁ := hroom.after (fun _ => .optionLetters _ _) (fun _ => .optionLetters _ _) hrun hrun'
  have hon : on.verbose = true → x = true := by
    intro hv
    by_contra hx
    rw [Bool.not_eq_true] at hx
    have hs : s.skipping = false := by
      rw [← Bool.not_eq_true]
      exact fun hs => by rw [h.beside.skips hs] at hx; cases hx
    exact Bool.false_ne_true (verbose_of_optionLetters hs (hletters hx) hrun hv)
  unfold Reading.optionGroup
  rw [Reading.run_get_bind, Reading.run_get_bind, Reading.run_bind_of_ok hrun, Reading.run_bind_of_ok hrun']
  obtain ⟨b, u₁, v₁, hminus, hminus', hl₁⟩ := accepted hl (c := '-') (by decide)
  have hroom₂ := hroom₁.after (fun _ => .acceptChar '-') (fun _ => .acceptChar '-') hminus hminus'
  rw [Reading.run_bind_of_ok hminus, Reading.run_bind_of_ok hminus']
  cases b with
  | false => exact optionScope hr hl₁ ho hroom₂ hon
  | true =>
    have hlen : u₁.length < s.total + 1 := Nat.lt_succ_of_le hroom₂.total
    have hlen' : v₁.length < s'.total + 1 := Nat.lt_succ_of_le hroom₂.total'
    obtain ⟨off, u₂, v₂, hoff, hoff', ht₂⟩ := optionLetters hl₁.paired hlen hlen' {}
    have hroom₃ := hroom₂.after (fun _ => .optionLetters _ _) (fun _ => .optionLetters _ _) hoff hoff'
    rw [if_pos rfl, if_pos rfl, Reading.run_bind_of_ok hoff, Reading.run_bind_of_ok hoff']
    exact .either (fun _ => .refused _ _ _ _) fun _ => optionScope hr (hl₁.leaving ht₂) ho hroom₃ hon

end Abreast

end SqlRegexp.Pattern
