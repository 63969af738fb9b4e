import SqlRegexp.Proofs.Pattern.Abreast.Question

/-!
**Reading what follows an opening parenthesis abreast** (`Abreast.parenthesis`), given that what stands inside is read
alike. A comment may have changed: nothing is read of it.
-/

namespace SqlRegexp.Pattern

open SqlRegexp.Text SqlRegexp.Unicode
open SqlRegexp.Match (raised raised_of_pos)
open Node (Counterpart)

/-! ### Comments -/

section Comments

variable {s : Source} {cs u : List Char}

/-- The text of a comment is passed over. -/
theorem run_comment_append (h : CommentText cs) {limit : Nat} (hlimit : cs.length < limit) (hr : s.rest = cs ++ u) :
    ∃ more, (Reading.comment limit).run s = (Reading.comment (more + 1)).run (s.leaving u) := by
  induction h generalizing s limit with
  | nil =>
    obtain ⟨limit, rfl⟩ : ∃ k, limit = k + 1 := ⟨limit - 1, (Nat.sub_add_cancel hlimit).symm⟩
    obtain rfl : s.rest = u := hr
    exact ⟨limit, by rw [Source.leaving_self]⟩
  | @pair cs c _ ih =>
    -- the character behind a backslash is read without a look at it
    obtain ⟨limit, rfl⟩ : ∃ k, limit = k + 1 := ⟨limit - 1, by omega⟩
    rw [List.length_cons, List.length_cons] at hlimit
    have hlt : cs.length < limit := by omega
    obtain ⟨more, hrun⟩ := ih (s := s.leaving (cs ++ u)) hlt rfl
    refine ⟨more, ?_⟩
    rw [Reading.comment, Reading.run_mark_bind, Reading.run_nextRaw_bind, hr]
    exact hrun
  | @char c cs hslash hclose _ ih =>
    obtain ⟨limit, rfl⟩ : ∃ k, limit = k + 1 := ⟨limit - 1, by omega⟩
    obtain ⟨more, hrun⟩ := ih (s := s.leaving (cs ++ u)) (Nat.lt_of_succ_lt_succ hlimit) rfl
    refine ⟨more, ?_⟩
    rw [Reading.comment, Reading.run_mark_bind, Reading.run_nextRaw_bind, hr, List.cons_append, List.head?_cons]
    split
    · next he => exact absurd (Option.some.inj he) hslash
    · next he => exact absurd (Option.some.inj he) hclose
    · next he => cases he
    · exact hrun

theorem run_comment_close {limit : Nat} (hr : s.rest = ')' :: u) :
    (Reading.comment (limit + 1)).run s = .ok ((), s.leaving u) := by
  rw [Reading.comment, Reading.run_mark_bind, Reading.run_nextRaw_bind, hr]
  show (Reading.rewind (')' :: u) >>= fun _ => Reading.expect ')').run _ = _
  rw [Reading.run_rewind_bind, Reading.run_expect, visible_cons rfl (by decide) (by decide), List.head?_cons,
    if_pos rfl]
  rfl

/-- At the end of a text a comment is not closed. -/
theorem run_comment_nil (limit : Nat) (hr : s.rest = []) :
    ∃ n, (Reading.comment limit).run s = .error (.malformed (.missing ')') n) := by
  cases limit with
  | zero => exact ⟨_, rfl⟩
  | succ limit =>
    have hvisible : (s.leaving []).visible = [] := by
      rw [Source.leaving_visible]
      unfold Source.seen
      split <;> rfl
    rw [Reading.comment, Reading.run_mark_bind, Reading.run_nextRaw_bind, hr]
    show ∃ n, (Reading.rewind [] >>= fun _ => Reading.expect ')').run _ = _
    rw [Reading.run_rewind_bind, Reading.run_expect, Source.leaving_leaving, hvisible]
    exact ⟨_, rfl⟩

theorem run_comment_slash (limit : Nat) (hr : s.rest = '\\' :: u) :
    (Reading.comment (limit + 1)).run s = (Reading.comment limit).run (s.leaving u.tail) := by
  rw [Reading.comment, Reading.run_mark_bind, Reading.run_nextRaw_bind, hr]
  show (Reading.nextRaw >>= fun _ => Reading.comment limit).run (s.leaving u) = _
  rw [Reading.run_nextRaw_bind]
  rfl

/-- A comment without an end is refused. -/
theorem run_comment_open (h : CommentOpen cs) {limit : Nat} (hlimit : cs.length < limit) (hr : s.rest = cs) :
    ∃ n, (Reading.comment limit).run s = .error (.malformed (.missing ')') n) := by
  cases h with
  | text h =>
    obtain ⟨more, hrun⟩ := run_comment_append (u := []) h hlimit (by rw [hr, List.append_nil])
    rw [hrun]
    exact run_comment_nil _ rfl
  | @dangling cs h =>
    have hlt : cs.length < limit := by
      rw [List.length_append] at hlimit
      omega
    obtain ⟨more, hrun⟩ := run_comment_append h hlt hr
    rw [hrun, run_comment_slash more rfl]
    exact run_comment_nil _ rfl

/-- With a closing parenthesis at the end of the text, a comment without an end reaches up to there. -/
theorem spent_comment (h : CommentOpen cs) {limit : Nat} (hlimit : cs.length < limit) (hr : s.rest = cs ++ [')']) :
    Spent ((Reading.comment limit).run s) := by
  cases h with
  | text h =>
    obtain ⟨more, hrun⟩ := run_comment_append h hlimit hr
    rw [hrun, run_comment_close rfl]
    rfl
  | @dangling cs h =>
    have hlt : cs.length < limit := by
      rw [List.length_append] at hlimit
      omega
    rw [List.append_assoc] at hr
    obtain ⟨more, hrun⟩ := run_comment_append h hlt hr
    obtain ⟨place, he⟩ := run_comment_nil (s := (s.leaving ['\\', ')']).leaving []) more rfl
    rw [hrun, run_comment_slash (u := [')']) more rfl]
    exact he ▸ trivial

/-- A comment with an end is passed over. -/
theorem run_comment (h : CommentText cs) {limit : Nat} (hlimit : cs.length < limit) (hr : s.rest = cs ++ ')' :: u) :
    (Reading.comment limit).run s = .ok ((), s.leaving u) := by
  obtain ⟨more, hrun⟩ := run_comment_append h hlimit hr
  rw [hrun, run_comment_close rfl]
  rfl

theorem length_lt_of_comment (hr : s.rest = '?' :: '#' :: (cs ++ u)) (htotal : s.rest.length ≤ s.total) :
    cs.length < s.total + 1 := by
  rw [hr, List.length_cons, List.length_cons, List.length_append] at htotal
  omega

variable {sequence alternatives : Reading (Node Reference)}

theorem run_parenthesis_question (hr : s.rest = '?' :: u) :
    (Reading.parenthesis sequence alternatives).run s =
      (Reading.questioned sequence alternatives).run (s.leaving u) := by
  unfold Reading.parenthesis
  rw [Reading.run_mark_bind, Reading.run_nextRaw_bind, hr]
  rfl

theorem run_parenthesis_comment (hr : s.rest = '?' :: '#' :: u) :
    (Reading.parenthesis sequence alternatives).run s =
      (Reading.comment (s.total + 1) >>= fun _ => pure none).run (s.leaving u) := by
  rw [run_parenthesis_question hr]
  unfold Reading.questioned
  rw [Reading.run_pos_bind, Reading.run_mark_bind, Reading.run_nextRaw_bind]
  rfl

theorem run_parenthesis_choice (hr : s.rest = '?' :: '(' :: u) :
    (Reading.parenthesis sequence alternatives).run s =
      (some <$> Reading.conditional sequence alternatives : Reading _).run (s.leaving u) := by
  rw [run_parenthesis_question hr]
  unfold Reading.questioned
  rw [Reading.run_pos_bind, Reading.run_mark_bind, Reading.run_nextRaw_bind]
  rfl

variable (sequence alternatives) in
/-- Digits and a closing parenthesis after `(?` are a call. -/
theorem run_parenthesis_call {ds : List Char} {n : Nat} (h : Numbers ds n) (hds : ∀ d ∈ ds, isDecimal d = true)
    (hr : s.rest = '?' :: (ds ++ ')' :: u)) :
    ∃ place, (Reading.parenthesis sequence alternatives).run s =
      .ok (some (.call ⟨.number n, place⟩), s.leaving u) := by
  obtain ⟨d, ds, rfl, -⟩ := h.head_ne (c := '#') (by decide +kernel)
  have hd : isDecimal d = true := hds d List.mem_cons_self
  have hcall := run_numberedCall (s := (s.leaving (d :: (ds ++ ')' :: u))).leaving (ds ++ ')' :: u)) h hds rfl
  refine ⟨(s.leaving (d :: (ds ++ ')' :: u))).pos, ?_⟩
  rw [run_parenthesis_question hr]
  unfold Reading.questioned
  rw [Reading.run_pos_bind, Reading.run_mark_bind, Reading.run_nextRaw_bind]
  rw [Source.leaving_rest, List.cons_append, List.head?_cons, List.tail_cons]
  have hne {c : Char} (hc : isDecimal c = false) : some d ≠ some c :=
    fun he => ne_of_isDecimal hd hc (Option.some.inj he)
  split
  case h_11 he =>
    cases he
    rw [if_pos hd, Reading.map_eq_bind, Reading.run_bind_of_ok (hcall _)]
    rfl
  case h_12 he => cases he
  -- all other cases ask for a sign, and a digit is none
  all_goals next he => exact absurd he (hne (by decide))

end Comments

namespace Abreast

variable {x : Bool} {a : Option Nat} {q : Paren} {ps : List Paren} {opened : List Nat} {n n' : Nat}
  {s s' : Source} {inside inside' inner inner' : Reading (Node Reference)}

/-- What follows `(*` is read alike: a verb in both texts, or a group in both. -/
theorem starred (hi : ReadsAlike n n' inner inner') (hc : Counted x none opened s s') (ho : Opens ps opened)
    (hroom : Room n n' s s') {u v u₀ v₀ : List Char} (ht : Raised x none (.unknown :: ps) u v)
    (ht₀ : Raised x none (.unknown :: ps) u₀ v₀) (hu₀ : u₀.length ≤ s.rest.length) (hv₀ : v₀.length ≤ s'.rest.length) :
    Meets (Reached Counterpart x none ps opened) ((Reading.starred inner u₀).run (s.leaving u))
      ((Reading.starred inner' v₀).run (s'.leaving v)) := by
  have hgroup {w w' : List Char} :
      Meets (Reached Counterpart x none ps opened)
        ((Reading.rewind u₀ >>= fun _ => Reading.groupBody none (pure ()) inner).run ((s.leaving u).leaving w))
        ((Reading.rewind v₀ >>= fun _ => Reading.groupBody none (pure ()) inner').run ((s'.leaving v).leaving w')) := by
    rw [Reading.run_rewind_bind, Reading.run_rewind_bind, Source.leaving_leaving, Source.leaving_leaving]
    exact unnamedGroup hi (hc.leaving (u := u₀) (v := v₀)) ht₀ (.unknown _ ho) (fun _ hk => nomatch hk)
      (hroom.leaving hu₀ hv₀)
  have hskips := hc.beside.skips
  unfold Reading.starred
  rw [Reading.run_pos_bind, Reading.run_pos_bind, Reading.run_takeWhile_bind, Reading.run_takeWhile_bind,
    Source.leaving_skipping, Source.leaving_skipping, hc.beside.skipping]
  rcases ht.taken (p := Reading.isGroupNameChar) (by decide) hskips with ⟨heq, ht'⟩ | ⟨cs, c, ds, ds', hsign, hw, hw'⟩
  · rw [Source.leaving_rest, Source.leaving_rest, ← heq]
    refine .either (fun _ => .either (fun _ => ?_) fun _ => .refused _ _ _ _) fun _ => hgroup
    refine (expectClose (hc.level ht')).bind (fun _ => .pure _) ?_
    rintro _ t _ t' hl - -
    exact .ok (.of_level rfl hl)
  · -- no verb contains a sign
    have hne {ds : List Char} (w : List Char) (hword : (signs.any w.contains) = false) :
        (cs ++ c :: ds == w) = false := by
      rw [beq_eq_false_iff_ne]
      rintro rfl
      exact absurd (eq_false_of_any hword c hsign) (by simp)
    have hfail (ds : List Char) : ¬ (cs ++ c :: ds == "FAIL".toList || cs ++ c :: ds == "F".toList) = true := by
      rw [hne _ (by decide), hne _ (by decide)]
      decide
    rw [Source.leaving_rest, Source.leaving_rest, hw, hw']
    unfold Reading.isVerb Reading.verb
    rw [List.head?_append, List.head?_append, List.head?_cons, List.head?_cons, if_neg (hfail ds), if_neg (hfail ds')]
    exact .either (fun _ => .refused _ _ _ _) fun _ => hgroup

/-! ### Branches that number their groups alike -/

theorem length_of_accepted {c : Char} {t : Source} (h : (Reading.acceptChar c).run s = .ok (true, t)) :
    t.rest.length < s.rest.length := by
  have hlen := s.length_visible
  rw [Reading.run_acceptChar] at h
  split at h
  · next hc =>
    cases h
    cases hv : s.visible with
    | nil =>
      rw [hv] at hc
      cases hc
    | cons d u =>
      rw [hv, List.length_cons] at hlen
      rw [Source.leaving_rest, List.tail_cons]
      omega
  · cases h

theorem resetBranches (hr : ReadsAlike n n' inside inside') (ho : Opens ps opened) {limit limit' first : Nat}
    (hlimit : s.rest.length < limit) (hlimit' : s'.rest.length < limit') (h : Level x none ps opened s s')
    (hroom : Room n n' s s') :
    Meets (fun b t b' t' => List.Forall₂ Counterpart b.1 b'.1 ∧ b'.2 = b.2 + 1 ∧ Level x none ps opened t t')
      ((Reading.resetBranches inside first limit).run s)
      ((Reading.resetBranches inside' (first + 1) limit').run s') := by
  induction limit generalizing limit' s s' with
  | zero => exact absurd hlimit (Nat.not_lt_zero _)
  | succ limit ih =>
    cases limit' with
    | zero => exact absurd hlimit' (Nat.not_lt_zero _)
    | succ limit' =>
      rw [Reading.resetBranches, Reading.resetBranches, Reading.run_modify_bind, Reading.run_modify_bind]
      refine (hr.meets (h.recount first) ho (hroom.recount first)).bind ?_ ?_
      · intro _
        refine .get_bind fun _ _ => (Reading.Onward.acceptChar _).bind fun _ => ?_
        refine .either (.bind ?_ fun _ => .pure _) (.pure _)
        exact .resetBranches (hr.onward' 0) _ _
      · rintro m t m' t' ⟨hm, a₁, ha, hl⟩ hrun hrun'
        -- the count was unknown in front of the branch, and it stays so
        obtain rfl := ha rfl
        have hlen := (Reading.Onward.of_ok hr.onward hrun).1
        have hlen' := (Reading.Onward.of_ok hr.onward' hrun').1
        have hroom₁ : Room n n' t t' := (hroom.recount first).after hr.onward hr.onward' hrun hrun'
        obtain ⟨b, u, v, hb, hb', hl₁⟩ := accepted hl (c := '|') (by decide)
        have hroom₂ := hroom₁.after (fun _ => .acceptChar '|') (fun _ => .acceptChar '|') hb hb'
        rw [Reading.run_get_bind, Reading.run_get_bind, Reading.run_bind_of_ok hb, Reading.run_bind_of_ok hb',
          hl.beside.groupCount]
        cases b with
        | true =>
          have hlt : (t.leaving u).rest.length < limit :=
            Nat.lt_of_lt_of_le (length_of_accepted hb) (Nat.le_trans hlen (Nat.le_of_lt_succ hlimit))
          have hlt' : (t'.leaving v).rest.length < limit' :=
            Nat.lt_of_lt_of_le (length_of_accepted hb') (Nat.le_trans hlen' (Nat.le_of_lt_succ hlimit'))
          refine (ih hlt hlt' hl₁ hroom₂).bind (fun _ => .pure _) ?_
          rintro ⟨ms, most⟩ w ⟨ms', _⟩ w' ⟨hms, rfl, hl₂⟩ - -
          exact .ok ⟨.cons hm hms, Nat.succ_max_succ _ _, hl₂⟩
        | false => exact .ok ⟨.cons hm .nil, rfl, hl₁⟩

/-- Branches that number their groups alike are read alike. -/
theorem branchReset (hr : ReadsAlike n n' inside inside') (h : Level x none (q :: ps) opened s s')
    (ho : Opens (q :: ps) opened) (hroom : Room n n' s s') :
    Meets (Reached Counterpart x none ps opened) ((Reading.branchReset inside).run s)
      ((Reading.branchReset inside').run s') := by
  unfold Reading.branchReset
  rw [Reading.run_get_bind, Reading.run_get_bind, h.beside.groupCount]
  refine (resetBranches hr ho (Nat.lt_succ_of_le hroom.total) (Nat.lt_succ_of_le hroom.total') h hroom).bind ?_ ?_
  · exact fun _ => .bind (.modify fun _ => ⟨rfl, rfl⟩) fun _ => (Reading.Onward.expect _).bind fun _ => .pure _
  · rintro ⟨ms, most⟩ t ⟨ms', _⟩ t' ⟨hms, rfl, hl⟩ - -
    rw [Reading.run_modify_bind, Reading.run_modify_bind]
    refine (expectClose (hl.recount most)).bind (fun _ => .pure _) ?_
    rintro _ u _ u' hl' - -
    exact .ok (.of_level (.choice hms) hl')

/-! ### Everything else -/

/-- What follows `(?P` is read alike. -/
theorem extension (hi : ReadsAlike n n' inner inner') (h : Level x a (q :: ps) opened s s') (ho : Opens ps opened)
    (hroom : Room n n' s s') (hname : ∀ t, s.rest = '<' :: t → a = none ∧ q = .unknown) (hsettled : Settled x s.rest)
    (hstart : ∀ t, s.rest = '=' :: t → NameStart x t) :
    Meets (Reached Counterpart x a ps opened) ((Reading.extension inner).run s)
      ((Reading.extension inner').run s') := by
  have hvisible : s.visible = s.rest := seen_of_settled h.beside.skips hsettled
  unfold Reading.extension
  rw [Reading.run_pos_bind, Reading.run_pos_bind, Reading.run_mark_bind, Reading.run_mark_bind]
  rcases h.next with ⟨hu, hv⟩ | ⟨c, u, v, hu, hv, hl⟩
  · rw [Reading.run_next_bind, hu, Reading.run_next_bind_of_cons hv]
    exact .refused _ _ _ _
  · have hroom₁ := hroom.next
    rw [hu, hv, List.tail_cons, List.tail_cons] at hroom₁
    rw [Reading.run_next_bind_of_cons hu, Reading.run_next_bind_of_cons hv]
    split
    · next hc =>
      -- `(?P<` names a group
      cases hc
      obtain ⟨rfl, rfl⟩ := hname u (hvisible.symm.trans hu)
      have hl₁ := hl (by decide)
      exact namedGroup hi hl₁.toCounted ho hl₁.text hroom₁
    · next hc =>
      -- `(?P=` refers to a named one
      cases hc
      have hl₁ := hl (by decide)
      refine (namedReference hl₁.beside (fun _ => hstart u (hvisible.symm.trans hu)) hl₁.text).bind ?_ ?_
      · refine fun _ => (Reading.Onward.expect _).bind fun _ => (Reading.Onward.isOpen _).bind fun _ => ?_
        exact .either (.failAt _ _) (.backreference _ _)
      · rintro g t _ t' ⟨rfl, u', v', rfl, rfl, ht⟩ - -
        refine (expectClose (hl₁.toCounted.level ht)).bind ?_ ?_
        · exact fun _ => (Reading.Onward.isOpen _).bind fun _ => .either (.failAt _ _) (.backreference _ _)
        · rintro _ t _ t' hl₂ - -
          have hopen := hl₂.beside.isOpen g
          rw [Reading.run_bind_of_ok (run_isOpen _ _), Reading.run_bind_of_ok (run_isOpen _ _), hopen]
          refine .either (fun _ => .refused _ _ _ _) fun _ => ?_
          rw [run_backreference, run_backreference, hl₂.beside.options]
          exact .ok (.of_level (.backref _ rfl) hl₂)
    · next hc =>
      -- `(?P>` and `(?P&` call one
      cases hc
      exact namedCall (hl (by decide)) _ _
    · next hc =>
      cases hc
      exact namedCall (hl (by decide)) _ _
    · exact .refused _ _ _ _

/-- What follows `(?<` is read alike. -/
theorem angled (hi : ReadsAlike n n' inner inner') (h : Level x a (q :: ps) opened s s') (hq : Opens (q :: ps) opened)
    (ho : Opens ps opened) (hroom : Room n n' s s')
    (hname : s.rest.head? ≠ some '=' → s.rest.head? ≠ some '!' → a = none ∧ q = .unknown) :
    Meets (Reached Counterpart x a ps opened) ((Reading.angled inner).run s) ((Reading.angled inner').run s') := by
  have hnamed (hne : s.visible.head? ≠ some '=') (hne' : s.visible.head? ≠ some '!') :
      Meets (Reached Counterpart x a ps opened) ((Reading.namedGroup inner).run s)
        ((Reading.namedGroup inner').run s') := by
    have hsame {c : Char} (hc : isBlank c.toNat = false ∧ c ≠ '#') (hv : s.visible.head? ≠ some c) :
        s.rest.head? ≠ some c := by
      intro hr
      obtain ⟨u, hu⟩ : ∃ u, s.rest = c :: u := List.head?_eq_some_iff.mp hr
      exact hv (by rw [visible_cons hu hc.1 hc.2, List.head?_cons])
    obtain ⟨rfl, rfl⟩ := hname (hsame (by decide) hne) (hsame (by decide) hne')
    exact namedGroup hi h.toCounted ho h.text hroom
  unfold Reading.angled
  rw [Reading.run_mark_bind, Reading.run_mark_bind]
  -- `(?<=` and `(?<!` look behind, anything else begins a name
  rcases h.next with ⟨hu, hv⟩ | ⟨c, u, v, hu, hv, hl⟩
  · rw [Reading.run_next_bind, hu, Reading.run_next_bind_of_cons hv]
    exact hnamed (by rw [hu]; simp) (by rw [hu]; simp)
  · have hroom₁ := hroom.next
    rw [hu, hv, List.tail_cons, List.tail_cons] at hroom₁
    rw [Reading.run_next_bind_of_cons hu, Reading.run_next_bind_of_cons hv]
    split
    · next hc =>
      cases hc
      exact lookaround _ _ hi (hl (by decide)) hq hroom₁
    · next hc =>
      cases hc
      exact lookaround _ _ hi (hl (by decide)) hq hroom₁
    · next hne hne' =>
      exact hnamed (by rw [hu]; exact hne) (by rw [hu]; exact hne')

theorem opens_questionParen (ho : Opens ps opened) (u : List Char) : Opens (questionParen u :: ps) opened := by
  unfold questionParen
  split
  · exact .bare ho
  · exact .neither ho

/-- Where it does not show that a parenthesis keeps nothing, the number of the last group is unknown. -/
theorem of_not_keepsNothing {u : List Char} (h : keepsNothing u = false) :
    questionCount a u = none ∧ questionParen u = .unknown := by
  unfold questionCount questionParen
  rw [h]
  exact ⟨rfl, rfl⟩

theorem reachedSome {r r' : Reading (Node Reference)}
    (h : Meets (Reached Counterpart x a ps opened) (r.run s) (r'.run s')) :
    Meets (Reached (Option.Rel Counterpart) x a ps opened) ((some <$> r).run s) ((some <$> r').run s') :=
  h.map fun _ _ _ _ ⟨hR, hl⟩ => ⟨.some hR, hl⟩

/-- A number after `(?`, also one with a sign, is a call. Anything else is a group of options. -/
theorem numberedOrOptions {c : Char} (h : c ∉ signs → Level x a (q :: ps) opened s s')
    {options options' : Reading (Option (Node Reference))}
    (hoptions : Meets (Reached (Option.Rel Counterpart) x a ps opened) (options.run s) (options'.run s'))
    (hq : Question x (c :: s.rest)) (start start' : Nat) :
    Meets (Reached (Option.Rel Counterpart) x a ps opened)
      ((if isDecimal c then some <$> Reading.numberedCall [c] start
        else Reading.peek >>= fun next =>
          if (c == '+' || c == '-') && next.any isDecimal then some <$> Reading.relativeCall (c == '+') start
          else options : Reading _).run s)
      ((if isDecimal c then some <$> Reading.numberedCall [c] start'
        else Reading.peek >>= fun next =>
          if (c == '+' || c == '-') && next.any isDecimal then some <$> Reading.relativeCall (c == '+') start'
          else options' : Reading _).run s') := by
  refine .either (fun hd => ?_) fun hd => ?_
  · have hsign : c ∉ signs := fun hm => absurd hd (by
      rw [eq_false_of_any (p := isDecimal) (by decide) c hm]
      exact Bool.false_ne_true)
    have hdigits := hq.digits hd
    rw [List.dropWhile_cons_of_pos hd, List.takeWhile_cons_of_pos hd] at hdigits
    exact reachedSome (zeroCall (h hsign) hdigits.1 hdigits.2 _ _)
  · rw [Reading.run_peek_bind, Reading.run_peek_bind]
    by_cases hsigned : (c == '+' || c == '-') = true
    · have hsign : c ∉ signs := by
        rcases (Bool.or_eq_true _ _ ▸ hsigned : _ ∨ _) with hc | hc <;> rw [eq_of_beq hc] <;> decide
      -- the closing parenthesis that is left of the other text is no digit
      have hsame : s'.visible.head?.any isDecimal = s.visible.head?.any isDecimal := by
        rcases (h hsign).next with ⟨hu, hv⟩ | ⟨d, u, v, hu, hv, -⟩
        · rw [hu, hv]
          decide
        · rw [hu, hv]
          rfl
      rw [hsame]
      refine .either (fun _ => ?_) fun _ => hoptions
      refine reachedSome (relativeCall (h hsign) (fun hc => ?_) _ _)
      obtain ⟨hsettled, hne⟩ := hq.plus s.rest (congrArg (· :: s.rest) (eq_of_beq hc))
      rw [taken_digits (h hsign).beside.skips hsettled]
      exact hne
    · have hneg (t : Source) : ¬ ((c == '+' || c == '-') && t.visible.head?.any isDecimal) = true := by
        rw [Bool.and_eq_true]
        exact fun hb => hsigned hb.1
      rw [if_neg (hneg _), if_neg (hneg _)]
      exact hoptions

/-- **What follows `(?` is read alike**, unless it is a comment, or a reference to a numbered group. -/
theorem questioned (hr : ReadsAlike n n' inside inside') (hi : ReadsAlike n n' inner inner')
    (hc : Counted x a opened s s') (ho : Opens ps opened) (hroom : Room n n' s s') (hq : Question x s.rest)
    (ht : Raised x (questionCount a s.rest) (questionParen s.rest :: ps) s.rest s'.rest) :
    Meets (Reached (Option.Rel Counterpart) x (questionCount a s.rest) ps opened)
      ((Reading.questioned inside inner).run s) ((Reading.questioned inside' inner').run s') := by
  have hcount : ∀ k, questionCount a s.rest = some k → a = some k := by
    unfold questionCount
    split
    · exact fun _ hk => hk
    · exact fun _ hk => nomatch hk
  have h : Level x (questionCount a s.rest) (questionParen s.rest :: ps) opened s s' := ⟨hc.forget hcount, ht⟩
  have hopens := opens_questionParen ho s.rest
  have hoptions := optionGroup hi h hopens hroom hq.letters
  unfold Reading.questioned
  rw [Reading.run_pos_bind, Reading.run_pos_bind, Reading.run_mark_bind, Reading.run_mark_bind,
    Reading.run_nextRaw_bind, Reading.run_nextRaw_bind]
  generalize hrest : s.rest = rest at *
  -- where no form is recognised, the options are read from the start
  have hback {w : List Char} : ((Reading.rewind rest >>= fun _ => Reading.optionGroup inner).run (s.leaving w)) =
      (Reading.optionGroup inner).run s := by
    rw [Reading.run_rewind_bind, Source.leaving_leaving, ← hrest, Source.leaving_self]
  generalize hrest' : s'.rest = rest' at *
  have hback' {w : List Char} : ((Reading.rewind rest' >>= fun _ => Reading.optionGroup inner').run (s'.leaving w)) =
      (Reading.optionGroup inner').run s' := by
    rw [Reading.run_rewind_bind, Source.leaving_leaving, ← hrest', Source.leaving_self]
  rcases ht.uncons with ⟨rfl, rfl⟩ | ⟨c, u, v, rfl, rfl, hgo⟩
  · have hclose : ¬ ((')' == '+' || ')' == '-') && (s'.leaving []).visible.head?.any isDecimal) = true := by simp
    show Meets _ ((Reading.rewind [] >>= fun _ => Reading.optionGroup inner).run (s.leaving []))
      ((if isDecimal ')' = true then _ else Reading.peek >>= fun p => if (_ && p.any isDecimal) = true then _ else _ :
        Reading _).run (s'.leaving []))
    rw [if_neg (by decide), Reading.run_peek_bind, if_neg hclose, hback, hback']
    exact hoptions
  · have hroom₁ : Room n n' (s.leaving u) (s'.leaving v) := by
      refine hroom.leaving ?_ ?_
      · rw [hrest]
        exact Nat.le_succ _
      · rw [hrest']
        exact Nat.le_succ _
    have hl (hc : c ∉ signs) := h.toCounted.level (hgo hc)
    rw [List.head?_cons, List.head?_cons, List.tail_cons, List.tail_cons]
    split
    · next he =>
      -- `(?<`
      cases he
      refine reachedSome (angled hi (hl (by decide)) hopens ho hroom₁ fun hne hne' => of_not_keepsNothing ?_)
      cases u with
      | nil => rfl
      | cons d u =>
        have hd : d ≠ '=' := fun he => hne (congrArg some he)
        have hd' : d ≠ '!' := fun he => hne' (congrArg some he)
        show (d == '=' || d == '!') = false
        rw [beq_false_of_ne hd, beq_false_of_ne hd', Bool.or_false]
    · next he =>
      -- `(?=`
      cases he
      exact reachedSome (lookaround _ _ hi (hl (by decide)) hopens hroom₁)
    · next he =>
      -- `(?!`
      cases he
      exact reachedSome (lookaround _ _ hi (hl (by decide)) hopens hroom₁)
    · next he =>
      -- `(?P`
      cases he
      obtain ⟨hsettled, hstart⟩ := hq.named u rfl
      refine reachedSome (extension hi (hl (by decide)) ho hroom₁ (fun t (ht : u = '<' :: t) => ?_) hsettled hstart)
      subst ht
      exact of_not_keepsNothing rfl
    · next he =>
      -- `(?#`
      cases he
      exact absurd rfl hq.not_comment
    · next he =>
      -- `(?(`
      cases he
      exact absurd rfl hq.not_choice
    · next he =>
      -- `(?>`
      cases he
      refine (closed hi (hl (by decide)) hopens hroom₁).map ?_
      rintro m t m' t' ⟨hm, hl'⟩
      exact ⟨.some hm.atomic, hl'⟩
    · next he =>
      -- `(?|`
      cases he
      exact reachedSome (branchReset hr (hl (by decide)) hopens hroom₁)
    · next he =>
      -- `(?R`
      cases he
      exact reachedSome (wholeCall (hl (by decide)) _ _)
    · next he =>
      -- `(?&`
      cases he
      exact reachedSome (namedCall (hl (by decide)) _ _)
    · next he =>
      cases he
      exact numberedOrOptions hl (by rwa [hback, hback']) hq _ _
    · next he => cases he

/-- A group without a name follows what is neither a question mark nor a star. -/
theorem run_parenthesis_group {sequence alternatives : Reading (Node Reference)} (hq : s.rest.head? ≠ some '?')
    (hstar : s.rest.head? ≠ some '*') :
    (Reading.parenthesis sequence alternatives).run s =
      (some <$> Reading.groupBody none (pure ()) alternatives : Reading _).run s := by
  unfold Reading.parenthesis
  rw [Reading.run_mark_bind, Reading.run_nextRaw_bind]
  split
  · next he => exact absurd he hq
  · next he => exact absurd he hstar
  · rw [Reading.run_rewind_bind, Source.leaving_leaving, Source.leaving_self]

theorem run_parenthesis_star {sequence alternatives : Reading (Node Reference)} {u : List Char}
    (hr : s.rest = '*' :: u) :
    (Reading.parenthesis sequence alternatives).run s =
      (some <$> Reading.starred alternatives ('*' :: u) : Reading _).run (s.leaving u) := by
  unfold Reading.parenthesis
  rw [Reading.run_mark_bind, Reading.run_nextRaw_bind, hr]
  rfl

/-- **What follows an opening parenthesis is read alike.** -/
theorem parenthesis (hr : ReadsAlike n n' inside inside') (hi : ReadsAlike n n' inner inner')
    (hc : Counted x a opened s s') (ho : Opens ps opened) (hroom : Room n n' s s')
    (ht : Raised x a ps ('(' :: s.rest) ('(' :: s'.rest)) :
    Meets (Reached (Option.Rel Counterpart) x a ps opened) ((Reading.parenthesis inside inner).run s)
      ((Reading.parenthesis inside' inner').run s') := by
  generalize hu : s.rest = r at ht
  generalize hv : s'.rest = r' at ht
  cases ht with
  | char hc => exact absurd (by decide) hc
  | @comment _ _ cs cs' u v hcs hcs' h =>
    have hrun := run_comment (s := s.leaving (cs ++ ')' :: u)) hcs (length_lt_of_comment hu hroom.total) rfl
    have hrun' := run_comment (s := s'.leaving (cs' ++ ')' :: v)) hcs' (length_lt_of_comment hv hroom.total') rfl
    rw [run_parenthesis_comment hu, run_parenthesis_comment hv, Reading.run_bind_of_ok hrun,
      Reading.run_bind_of_ok hrun']
    exact .ok (.of_level .none (hc.level h))
  | @commentOpen _ _ cs cs' hcs hcs' =>
    -- the end that is missing is malformed in one text, and in the other all is spent
    have hlt : cs.length < s.total + 1 := length_lt_of_comment (u := []) (by rw [hu, List.append_nil]) hroom.total
    obtain ⟨place, he⟩ := run_comment_open (s := s.leaving cs) hcs hlt rfl
    rw [run_parenthesis_comment hu, run_parenthesis_comment hv, Reading.run_bind_of_error he]
    exact .malformed fun _ => (spent_comment hcs' (length_lt_of_comment hv hroom.total') rfl).bind fun _ => .pure _
  | @condition _ _ ds m u v hds hraises h =>
    rw [run_parenthesis_choice hu, run_parenthesis_choice hv]
    refine reachedSome (numberedChoice hr hc.leaving ho (hroom.leaving ?_ ?_) hds hraises rfl rfl h)
    · rw [hu, List.length_cons, List.length_cons]
      omega
    · rw [hv, List.length_cons, List.length_cons]
      omega
  | @call _ _ ds m u v hds hdec hraises h =>
    have hdec' : ∀ d ∈ Nat.toDigits 10 (m + 1), isDecimal d = true := fun d hd => isDecimal_of_mem_toDigits hd
    obtain ⟨place, hrun⟩ := run_parenthesis_call inside inner hds hdec hu
    obtain ⟨place', hrun'⟩ := run_parenthesis_call inside' inner' (numbers_toDigits hraises) hdec' hv
    rw [hrun, hrun']
    exact .ok (.of_level (.some (.call (congrArg GroupName.number (raised_of_pos hds.pos).symm))) (hc.level h))
  | @choice _ _ u v hstart h =>
    rw [run_parenthesis_choice hu, run_parenthesis_choice hv]
    refine reachedSome (conditional hr hi (hc.level h) ho (hroom.leaving ?_ ?_) hstart)
    · rw [hu, List.length_cons, List.length_cons]
      omega
    · rw [hv, List.length_cons, List.length_cons]
      omega
  | @question _ _ u v hq h =>
    have hroom₁ : Room n n' (s.leaving u) (s'.leaving v) := hroom.leaving (by rw [hu]; exact Nat.le_succ _)
      (by rw [hv]; exact Nat.le_succ _)
    have hnone : a = none → questionCount a u = none := by
      rintro rfl
      unfold questionCount
      split <;> rfl
    rw [run_parenthesis_question hu, run_parenthesis_question hv]
    have hc₁ : Counted x a opened (s.leaving u) (s'.leaving v) := hc.leaving
    exact (questioned hr hi hc₁ ho hroom₁ hq h).mono fun _ _ _ _ hreached => hreached.widen hnone
  | @star _ _ u v h =>
    obtain ⟨v', hv', h'⟩ := h.of_cons (by decide)
    obtain rfl := (List.cons.inj hv').2
    have hforget : Counted x none opened s s' := hc.forget fun _ hk => nomatch hk
    rw [run_parenthesis_star hu, run_parenthesis_star hv]
    refine (reachedSome (starred hi hforget ho hroom h' h ?_ ?_)).mono fun _ _ _ _ hreached =>
      hreached.widen fun _ => rfl
    · rw [hu]
    · rw [hv]
  | @group _ _ u v hq hstar h =>
    have hq' : s'.rest.head? ≠ some '?' := hv ▸ h.head?_ne hq (by decide)
    have hstar' : s'.rest.head? ≠ some '*' := hv ▸ h.head?_ne hstar (by decide)
    rw [run_parenthesis_group (hu ▸ hq) (hu ▸ hstar), run_parenthesis_group hq' hstar']
    -- a group that is counted keeps what is open, as long as the count is known
    have hopens : Opens (nextGroup a :: ps) ((s.groupCount + 1) :: opened) := by
      cases ha : a with
      | none => exact .unknown _ ho
      | some k =>
        rw [hc.count k ha]
        exact .keeping _ ho
    have hcount : ∀ k, a.map (· + 1) = some k → k = s.groupCount + 1 := by
      intro k hk
      obtain ⟨m, rfl, rfl⟩ := Option.map_eq_some_iff.mp hk
      rw [hc.count m rfl]
    have hgroup := unnamedGroup hi hc (by rw [hu, hv]; exact h) hopens hcount hroom
    refine (reachedSome hgroup).mono fun _ _ _ _ hreached => hreached.widen ?_
    rintro rfl
    rfl

end Abreast

end SqlRegexp.Pattern
