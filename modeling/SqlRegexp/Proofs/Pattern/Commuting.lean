import SqlRegexp.Proofs.Pattern.Numbered
import SqlRegexp.Proofs.Pattern.Pinned.Text

/-!
The two scans of a pattern, one after the other.

The scan that pins end anchors and the one that renumbers references go by the same places. A text and the pinned one
begin with the same reference, if they begin with one (`referenceAt?_pinFrom`), and a reference is passed by the scan
for end anchors as it stands, with its old number and with its new one (`pinFrom_reference`). So **the scans may be run
in either order** (`shiftFrom_pinFrom`), also where renumbering fails. What has been pinned has no end anchor left
(`pinFrom_pinFrom`).

Hence the group around a pattern is, pinned, the group around the pinned pattern (`pinning_commutes_with_enclosing`).
-/

namespace SqlRegexp.PatternText

open SqlRegexp.Text SqlRegexp.Unicode

/-! ### One step of the scan for end anchors -/

section Step

variable {place : Place} {c : Char} {u : List Char}

/-- Any character but an end anchor stays as it is. -/
theorem pinFrom_cons_of_ne (h : place = .outside → c ≠ '$') :
    pinFrom place (c :: u) = c :: pinFrom (place.next c) u := by
  rw [pinFrom, if_neg fun hc => h hc.1 hc.2]
  rfl

/-- **Pinned twice is pinned once**, from any place on. -/
theorem pinFrom_pinFrom (place : Place) (u : List Char) : pinFrom place (pinFrom place u) = pinFrom place u := by
  induction u generalizing place with
  | nil => rfl
  | cons c u ih =>
    by_cases hc : place = .outside ∧ c = '$'
    · obtain ⟨rfl, rfl⟩ := hc
      -- What an end anchor is pinned to is an escape, which the scan passes.
      show pinEnds (pinEnds ('$' :: u)) = pinEnds ('$' :: u)
      rw [pinEnds_dollar, pinEnds_escape]
      exact congrArg (fun v => '\\' :: 'Z' :: v) (ih .outside)
    · have hne : place = .outside → c ≠ '$' := fun hplace hdollar => hc ⟨hplace, hdollar⟩
      rw [pinFrom_cons_of_ne hne, pinFrom_cons_of_ne hne, ih]

end Step

/-! ### References in front of a pinned text -/

section Ahead

variable {c : Char} {u : List Char}

theorem unmarked_of_isDigitChar (h : isDigitChar c.toNat = true) : Unmarked c := by
  refine ⟨?_, ?_, ?_⟩ <;> rintro rfl <;> exact absurd h (by decide)

/-- Digit characters in front of a pinned text are those in front of the text. -/
theorem digits_pinEnds (u : List Char) :
    (pinEnds u).takeWhile (fun c => isDigitChar c.toNat) = u.takeWhile (fun c => isDigitChar c.toNat) ∧
      (pinEnds u).dropWhile (fun c => isDigitChar c.toNat) = pinEnds (u.dropWhile fun c => isDigitChar c.toNat) :=
  takeWhile_pinnedIf (b := true) (fun _ => unmarked_of_isDigitChar) (by decide)

theorem head?_pinEnds_iff (hslash : c ≠ '\\') (hdollar : c ≠ '$') :
    (pinEnds u).head? = some c ↔ u.head? = some c := by
  rcases @head?_pinnedIf true u with he | ⟨hu, he⟩
  · exact iff_of_eq (congrArg (· = some c) he)
  · have hpinned : (pinEnds u).head? = some '\\' := he
    rw [hpinned, hu]
    exact ⟨fun h => absurd (Option.some.inj h).symm hslash, fun h => absurd (Option.some.inj h).symm hdollar⟩

theorem digitsBefore?_pinEnds {stop : Char} (hslash : stop ≠ '\\') (hdollar : stop ≠ '$') :
    digitsBefore? stop (pinEnds u) = digitsBefore? stop u := by
  unfold digitsBefore?
  dsimp only
  rw [drop_length_takeWhile, drop_length_takeWhile, (digits_pinEnds u).1, (digits_pinEnds u).2]
  have hhead : ((pinEnds (u.dropWhile fun c => isDigitChar c.toNat)).head? == some stop) =
      ((u.dropWhile fun c => isDigitChar c.toNat).head? == some stop) := by
    rw [Bool.eq_iff_iff, beq_iff_eq, beq_iff_eq]
    exact head?_pinEnds_iff hslash hdollar
  rw [hhead]

theorem startsOctal_pinEnds : startsOctal (c :: pinEnds u) = startsOctal (c :: u) := by
  have htake : (pinEnds u).takeWhile isOctal = u.takeWhile isOctal :=
    (takeWhile_pinnedIf (b := true)
      (fun _ h => unmarked_of_isDigitChar (isDigitChar_of_isDecimal (isDecimal_of_isOctal h))) (by decide)).1
  rw [startsOctal_cons, startsOctal_cons, htake]

theorem afterBackslash?_pinEnds : afterBackslash? (c :: pinEnds u) = afterBackslash? (c :: u) := by
  by_cases hangle : c = 'g' ∧ u.head? = some '<'
  · obtain ⟨rfl, hu⟩ := hangle
    obtain ⟨v, rfl⟩ := List.head?_eq_some_iff.mp hu
    rw [pinEnds_cons (by decide), afterBackslash?, afterBackslash?, digitsBefore?_pinEnds (by decide) (by decide)]
  · have hone (v : List Char) (hv : ¬ (c = 'g' ∧ v.head? = some '<')) :
        afterBackslash? (c :: v) = if isDecimal c ∧ c ≠ '0' ∧ ¬ startsOctal (c :: v) then
          (readNatural (c :: (v.takeWhile fun d => isDigitChar d.toNat).take 1)).map fun n =>
            some ⟨.backslash, n, 1 + (c :: (v.takeWhile fun d => isDigitChar d.toNat).take 1).length⟩
        else .ok none := by
      rw [← take_one_filter]
      unfold afterBackslash?
      split
      · next he =>
        obtain ⟨rfl, rfl⟩ := List.cons.inj he
        exact absurd ⟨rfl, rfl⟩ hv
      · next he =>
        obtain ⟨rfl, rfl⟩ := List.cons.inj he
        rfl
      · next he => cases he
    -- an angle bracket comes next in both texts or in neither
    have hangle' : ¬ (c = 'g' ∧ (pinEnds u).head? = some '<') := fun h =>
      hangle ⟨h.1, (head?_pinEnds_iff (by decide) (by decide)).mp h.2⟩
    rw [hone _ hangle', hone _ hangle, startsOctal_pinEnds, (digits_pinEnds u).1]

theorem afterQuestion?_pinEnds : afterQuestion? (pinEnds u) = afterQuestion? u := by
  by_cases hopen : u.head? = some '('
  · obtain ⟨v, rfl⟩ := List.head?_eq_some_iff.mp hopen
    rw [pinEnds_cons (by decide), afterQuestion?, afterQuestion?, digitsBefore?_pinEnds (by decide) (by decide)]
  · have hopen' : (pinEnds u).head? ≠ some '(' := fun h => hopen ((head?_pinEnds_iff (by decide) (by decide)).mp h)
    rw [Pattern.afterQuestion?_of_ne hopen', Pattern.afterQuestion?_of_ne hopen,
      digitsBefore?_pinEnds (by decide) (by decide)]

/-- **A text and the pinned one begin with the same reference**, if they do with any. -/
theorem referenceAt?_pinFrom : referenceAt? (c :: pinFrom (Place.outside.next c) u) = referenceAt? (c :: u) := by
  by_cases hslash : c = '\\'
  · subst hslash
    cases u with
    | nil => rfl
    | cons d u =>
      have hescaped := @pinFrom_cons_of_ne (Place.outside.next '\\') d u fun h => nomatch h
      rw [hescaped]
      exact afterBackslash?_pinEnds
  by_cases hopen : c = '('
  · subst hopen
    show referenceAt? ('(' :: pinEnds u) = _
    by_cases hquestion : u.head? = some '?'
    · obtain ⟨v, rfl⟩ := List.head?_eq_some_iff.mp hquestion
      rw [pinEnds_cons (by decide)]
      exact afterQuestion?_pinEnds
    · have hquestion' : (pinEnds u).head? ≠ some '?' := fun h =>
        hquestion ((head?_pinEnds_iff (by decide) (by decide)).mp h)
      rw [Pattern.referenceAt?_open hquestion', Pattern.referenceAt?_open hquestion]
  · rw [referenceAt?_of_ne hslash hopen, referenceAt?_of_ne hslash hopen]

end Ahead

/-! ### References are passed -/

section Passed

variable {s : Spelling} {ds u : List Char}

/-- The scan for end anchors passes a reference, whatever its digits are. -/
theorem pinFrom_reference (hne : ds ≠ []) (hds : ∀ d ∈ ds, Unmarked d) :
    pinFrom .outside (s.text ds ++ u) = s.text ds ++ pinFrom .outside u := by
  have hrun (v : List Char) : pinEnds (ds ++ v) = ds ++ pinEnds v := pinnedIf_append (b := true) hds
  show pinEnds (s.text ds ++ u) = s.text ds ++ pinEnds u
  cases s with
  | backslash =>
    cases ds with
    | nil => exact absurd rfl hne
    | cons d ds =>
      have hrest : pinEnds (ds ++ u) = ds ++ pinEnds u :=
        pinnedIf_append (b := true) fun e he => hds e (List.mem_cons_of_mem _ he)
      show pinEnds ('\\' :: d :: (ds ++ u)) = _
      rw [pinEnds_escape, hrest]
      rfl
  | bracketed =>
    simp only [Spelling.text, List.cons_append, List.append_assoc, List.nil_append]
    rw [pinEnds_escape, pinEnds_cons (by decide), hrun, pinEnds_cons (by decide)]
  | condition =>
    simp only [Spelling.text, List.cons_append, List.append_assoc, List.nil_append]
    rw [pinEnds_cons (by decide), pinEnds_cons (by decide), pinEnds_cons (by decide), hrun, pinEnds_cons (by decide)]
  | call =>
    simp only [Spelling.text, List.cons_append, List.append_assoc, List.nil_append]
    rw [pinEnds_cons (by decide), pinEnds_cons (by decide), hrun, pinEnds_cons (by decide)]

theorem unmarked_of_writeInteger {n : Int} (h : writeInteger n = .ok ds) : ds ≠ [] ∧ ∀ d ∈ ds, Unmarked d := by
  have hnatural {m : Nat} {cs : List Char} (hm : writeNatural m = .ok cs) : cs ≠ [] ∧ ∀ d ∈ cs, Unmarked d := by
    unfold writeNatural at hm
    dsimp only at hm
    split at hm
    · cases hm
    · cases hm
      exact ⟨Nat.toDigits_ne_nil, fun d hd =>
        unmarked_of_isDigitChar (isDigitChar_of_isDecimal (isDecimal_of_mem_toDigits hd))⟩
  cases n with
  | ofNat m => exact hnatural h
  | negSucc m =>
    change (fun cs => '-' :: cs) <$> writeNatural (m + 1) = .ok ds at h
    cases hm : writeNatural (m + 1) with
    | error e =>
      rw [hm] at h
      cases h
    | ok cs =>
      rw [hm] at h
      cases h
      exact ⟨List.cons_ne_nil _ _, List.forall_mem_cons.mpr ⟨by decide, (hnatural hm).2⟩⟩

/-- A reference that is written anew is one of a spelling. -/
theorem exists_of_write {n : Int} {text : List Char} (h : s.write n = .ok text) :
    ∃ (s' : Spelling) (ds : List Char), text = s'.text ds ∧ ds ≠ [] ∧ ∀ d ∈ ds, Unmarked d := by
  unfold Spelling.write at h
  cases hds : writeInteger n with
  | error e =>
    rw [hds] at h
    cases h
  | ok ds =>
    rw [hds] at h
    obtain rfl := Except.ok.inj h
    obtain ⟨hne, hall⟩ := unmarked_of_writeInteger hds
    cases s with
    | backslash =>
      dsimp only
      split
      · exact ⟨.backslash, ds, rfl, hne, hall⟩
      · exact ⟨.bracketed, ds, by simp [Spelling.text], hne, hall⟩
    | bracketed => exact ⟨.bracketed, ds, by simp [Spelling.text], hne, hall⟩
    | condition => exact ⟨.condition, ds, by simp [Spelling.text], hne, hall⟩
    | call => exact ⟨.call, ds, by simp [Spelling.text], hne, hall⟩

end Passed

/-! ### Both scans -/

section Both

variable {offset : Int} {place : Place} {u : List Char}

/-- A character that neither scan changes. -/
theorem shiftFrom_pinFrom_cons {c : Char} (hdollar : place = .outside → c ≠ '$')
    (hnone : place = .outside → referenceAt? (c :: u) = .ok none)
    (ih : shiftFrom offset 0 (place.next c) (pinFrom (place.next c) u) =
      (shiftFrom offset 0 (place.next c) u).map (pinFrom (place.next c))) :
    shiftFrom offset 0 place (pinFrom place (c :: u)) = (shiftFrom offset 0 place (c :: u)).map (pinFrom place) := by
  have hpinned : place = .outside → referenceAt? (c :: pinFrom (place.next c) u) = .ok none := by
    rintro rfl
    rw [referenceAt?_pinFrom]
    exact hnone rfl
  rw [pinFrom_cons_of_ne hdollar, shiftFrom_of_none hpinned, shiftFrom_of_none hnone, ih]
  cases shiftFrom offset 0 (place.next c) u with
  | error e => rfl
  | ok v => exact congrArg Except.ok (pinFrom_cons_of_ne hdollar).symm

/-- An end anchor, which only one of the scans changes. -/
theorem shiftFrom_pinFrom_dollar
    (ih : shiftFrom offset 0 .outside (pinEnds u) = (shiftFrom offset 0 .outside u).map pinEnds) :
    shiftFrom offset 0 .outside (pinEnds ('$' :: u)) = (shiftFrom offset 0 .outside ('$' :: u)).map pinEnds := by
  have hpinned : shiftFrom offset 0 .outside ('\\' :: 'Z' :: pinEnds u) =
      (shiftFrom offset 0 .outside (pinEnds u)).map fun v => '\\' :: 'Z' :: v := by
    rw [shiftFrom_of_none fun _ => rfl, shiftFrom_of_none fun h => absurd h (by decide)]
    show ((shiftFrom offset 0 .outside (pinEnds u)).map _).map _ = _
    cases shiftFrom offset 0 .outside (pinEnds u) <;> rfl
  rw [pinEnds_dollar, hpinned, ih, shiftFrom_of_none fun _ => rfl]
  show _ = ((shiftFrom offset 0 .outside u).map _).map _
  cases shiftFrom offset 0 .outside u with
  | error e => rfl
  | ok v => exact congrArg Except.ok pinEnds_dollar.symm

/-- A reference, which only one of the scans changes. -/
theorem shiftFrom_pinFrom_reference {r : Numbered} (hr : referenceAt? u = .ok (some r))
    (ih : ∀ v, v.length < u.length →
      shiftFrom offset 0 .outside (pinFrom .outside v) = (shiftFrom offset 0 .outside v).map (pinFrom .outside)) :
    shiftFrom offset 0 .outside (pinFrom .outside u) = (shiftFrom offset 0 .outside u).map (pinFrom .outside) := by
  obtain ⟨s, ds, v, rfl, hds, hfound⟩ := exists_of_referenceAt? (u := u) (by rw [hr]; exact fun h => nomatch h)
  obtain ⟨hempty, hall⟩ := Bool.and_eq_true_iff.mp hds
  have hne : ds ≠ [] := by simpa using hempty
  have hunmarked : ∀ d ∈ ds, Unmarked d := fun d hd => unmarked_of_isDigitChar (List.all_eq_true.mp hall d hd)
  have hlength : r.length = (s.text ds).length := (Spelling.of_found (hfound.symm.trans hr)).2.2
  cases htext : s.text ds with
  | nil => cases s <;> cases htext
  | cons c cs =>
    have hpin (w : List Char) : pinFrom .outside (c :: (cs ++ w)) = c :: (cs ++ pinFrom .outside w) := by
      have hpassed := @pinFrom_reference s ds w hne hunmarked
      rwa [htext] at hpassed
    have hdollar : c ≠ '$' := by
      rintro rfl
      cases s <;> cases htext
    -- the pinned text has the same reference here
    have hr' : referenceAt? (c :: (cs ++ pinFrom .outside v)) = .ok (some r) := by
      have hsame := @referenceAt?_pinFrom c (cs ++ v)
      have hcons := @pinFrom_cons_of_ne .outside c (cs ++ v) fun _ => hdollar
      rw [hpin] at hcons
      rw [← (List.cons.inj hcons).2] at hsame
      rw [hsame, ← hr, htext]
      rfl
    rw [htext, List.length_cons] at hlength
    rw [htext] at hr ih
    rw [List.cons_append] at hr ih ⊢
    rw [hpin, shiftFrom_reference hr' hlength, shiftFrom_reference hr hlength,
      ih v (by simp only [List.length_cons, List.length_append]; omega)]
    cases hwrite : r.spelling.write (r.number + offset) with
    | error e => rfl
    | ok text =>
      obtain ⟨s', ds', rfl, hne', hunmarked'⟩ := exists_of_write hwrite
      cases shiftFrom offset 0 .outside v with
      | error e => rfl
      | ok w => exact congrArg Except.ok (pinFrom_reference hne' hunmarked').symm

/-- **The two scans may be run in either order.** They fail alike, too. -/
theorem shiftFrom_pinFrom (offset : Int) (place : Place) (u : List Char) :
    shiftFrom offset 0 place (pinFrom place u) = (shiftFrom offset 0 place u).map (pinFrom place) := by
  -- by the length, since a reference takes several characters
  induction hn : u.length using Nat.strong_induction_on generalizing place u with
  | h n ih =>
    cases u with
    | nil => rfl
    | cons c u =>
      have hrest := ih u.length (by rw [← hn, List.length_cons]; omega)
      by_cases hplace : place = .outside
      · subst hplace
        by_cases hdollar : c = '$'
        · subst hdollar
          exact shiftFrom_pinFrom_dollar (hrest .outside u rfl)
        · cases hr : referenceAt? (c :: u) with
          | error e =>
            have hr' : referenceAt? (c :: pinFrom (Place.outside.next c) u) = .error e := referenceAt?_pinFrom.trans hr
            rw [pinFrom_cons_of_ne fun _ => hdollar, shiftFrom_of_error hr, shiftFrom_of_error hr']
            rfl
          | ok r? =>
            cases r? with
            | none => exact shiftFrom_pinFrom_cons (fun _ => hdollar) (fun _ => hr) (hrest _ u rfl)
            | some r => exact shiftFrom_pinFrom_reference hr fun v hv => ih v.length (hn ▸ hv) .outside v rfl
      · exact shiftFrom_pinFrom_cons (fun h => absurd h hplace) (fun h => absurd h hplace) (hrest _ u rfl)

/-- Enclosing a pattern and pinning its end anchors may be done in either order. -/
theorem enclose_pinEnds (pattern : List Char) : enclose (pinEnds pattern) = (enclose pattern).map pinEnds := by
  have hshift : shiftReferences (pinEnds pattern) 1 = (shiftReferences pattern 1).map pinEnds :=
    shiftFrom_pinFrom 1 .outside pattern
  unfold enclose
  rw [hshift]
  cases shiftReferences pattern 1 with
  | error e => rfl
  | ok v =>
    have hparen : pinEnds ('(' :: v ++ [')']) = '(' :: pinEnds v ++ [')'] := by
      rw [List.cons_append, pinEnds_cons (by decide)]
      exact congrArg ('(' :: ·) (pinnedIf_append_close (b := true))
    exact congrArg Except.ok hparen.symm

/-- **The text that is scanned for an occurrence is the group around the text that is counted with.** For the whole
match, a pattern and the pinned one give the same text once that is pinned, and fail alike; so does a mode, whether it
pins end anchors or not. Pinned twice is pinned once. -/
theorem pinning_commutes_with_enclosing (pattern : List Char) :
    forGroup (pinEnds pattern) 0 = (forGroup pattern 0).map (Prod.map pinEnds id) ∧
      (∀ m : Mode, enclose (m.pinned pattern) = (enclose pattern).map m.pinned) ∧
      pinEnds (pinEnds pattern) = pinEnds pattern := by
  refine ⟨?_, fun m => ?_, pinFrom_pinFrom .outside pattern⟩
  · show (·, 1) <$> enclose (pinEnds pattern) = ((·, 1) <$> enclose pattern).map _
    rw [enclose_pinEnds]
    cases enclose pattern <;> rfl
  · show enclose (if m.boundary then pinEnds pattern else pattern) = (enclose pattern).map
      fun w => if m.boundary then pinEnds w else w
    cases m.boundary with
    | false =>
      show enclose pattern = (enclose pattern).map fun w => w
      cases enclose pattern <;> rfl
    | true => exact enclose_pinEnds pattern

-- A reference that stays one, a spelling without an end, a class without an end, and a backslash in it.
example : (enclose "(a)\\1$\\g<1$(?(2$[^]$\\".toList).map pinEnds =
    .ok "((a)\\2\\Z\\g<1\\Z(?(2\\Z[^]$\\)".toList := by decide

end Both

end SqlRegexp.PatternText
