import SqlRegexp.Proofs.Pattern.Abreast.Quantifier

/-!
Reading what stands in parentheses abreast.

`Level` relates two sources inside the same parentheses. A reader that reads alike wherever there is room enough
(`ReadsAlike`) reads alike inside a parenthesis (`Abreast.closed`), and **a group is read alike** (`Abreast.groupBody`),
as group `raised n` where it is group `n` of the pattern.
-/

namespace SqlRegexp.Pattern

open SqlRegexp.Text SqlRegexp.Unicode
open SqlRegexp.Match (raised raised_injective raised_of_pos contains_map_raised)
open Node (Counterpart)

/-! ### Levels -/

/-- What has been learnt of the groups, the last of which has a number if it is known, and some of which are open. -/
structure Counted (x : Bool) (a : Option Nat) (opened : List Nat) (s s' : Source) : Prop where
  beside : s.Beside x s'
  count : ∀ n, a = some n → s.groupCount = n
  opened_eq : s.opened = opened

/-- Both texts go on alike inside the same parentheses, with the same groups open. -/
structure Level (x : Bool) (a : Option Nat) (ps : List Paren) (opened : List Nat) (s s' : Source) : Prop
    extends Counted x a opened s s' where
  text : Raised x a ps s.rest s'.rest

/-- What two readings come to: results in a relation, and texts that go on alike. The number of the last group is not
known again once it has been lost. -/
def Reached {α : Type} (R : α → α → Prop) (x : Bool) (a : Option Nat) (ps : List Paren) (opened : List Nat) :
    α → Source → α → Source → Prop :=
  fun b t b' t' => R b b' ∧ ∃ a₁, (a = none → a₁ = none) ∧ Level x a₁ ps opened t t'

/-- So much is left to read of both texts that parentheses may be nested to some depths, and no more than there was. -/
structure Room (n n' : Nat) (s s' : Source) : Prop where
  depth : s.rest.length < n
  depth' : s'.rest.length < n'
  total : s.rest.length ≤ s.total
  total' : s'.rest.length ≤ s'.total

/-- Two readers read alike wherever there is room for some depths. -/
structure ReadsAlike (n n' : Nat) (r r' : Reading (Node Reference)) : Prop where
  onward : ∀ m, Reading.Onward m r
  onward' : ∀ m, Reading.Onward m r'
  meets : ∀ {x a ps opened s s'}, Level x a ps opened s s' → Opens ps opened → Room n n' s s' →
    Meets (Reached Counterpart x a ps opened) (r.run s) (r'.run s')

section

variable {α : Type} {R : α → α → Prop} {x : Bool} {a a₁ : Option Nat} {ps : List Paren} {opened : List Nat}
  {n n' : Nat} {s s' t t' : Source} {u v : List Char}

theorem Counted.leaving (h : Counted x a opened s s') : Counted x a opened (s.leaving u) (s'.leaving v) :=
  ⟨h.beside.leaving u v, h.count, h.opened_eq⟩

theorem Counted.forget (h : Counted x a opened s s') (ha : ∀ n, a₁ = some n → a = some n) : Counted x a₁ opened s s' :=
  ⟨h.beside, fun n hn => h.count n (ha n hn), h.opened_eq⟩

theorem Counted.level (h : Counted x a opened s s') (ht : Raised x a ps u v) :
    Level x a ps opened (s.leaving u) (s'.leaving v) := ⟨h.leaving, ht⟩

theorem Level.leaving (h : Level x a ps opened s s') (ht : Raised x a ps u v) :
    Level x a ps opened (s.leaving u) (s'.leaving v) := h.toCounted.level ht

theorem Level.setOptions (h : Level x a ps opened s s') {o : Options} (ho : o.verbose = true → x = true)
    (hposix : o.posix = s.globals.posix) :
    Level x a ps opened { s with options := o, skipping := o.verbose }
      { s' with options := o, skipping := o.verbose } :=
  ⟨⟨h.beside.setOptions ho hposix, h.count, h.opened_eq⟩, h.text⟩

/-- The number of the last group may be set anew where it is not known. -/
theorem Level.recount (h : Level x none ps opened s s') (first : Nat) :
    Level x none ps opened { s with groupCount := first } { s' with groupCount := first + 1 } :=
  have hb := h.beside
  ⟨⟨⟨hb.skipping, hb.options, hb.globals, hb.skips, hb.verbose, hb.posix, rfl, hb.names, hb.opened, hb.openings⟩,
    fun _ hn => (nomatch hn), h.opened_eq⟩, h.text⟩

theorem Level.paired (h : Level x a ps opened s s') : Paired (Raised x a ps) s s' :=
  ⟨h.beside.skipping, h.beside.options, Raised.inStep h.beside.skips a ps, h.text⟩

/-- What comes next in both texts. -/
theorem Level.visible (h : Level x a ps opened s s') : Raised x a ps s.visible s'.visible := by
  rw [Source.visible_eq, Source.visible_eq, h.beside.skipping]
  exact h.text.seen h.beside.skips

theorem Level.next (h : Level x a ps opened s s') :
    (s.visible = [] ∧ s'.visible = [')']) ∨ ∃ c u v, s.visible = c :: u ∧ s'.visible = c :: v ∧
      (c ∉ marks → Level x a ps opened (s.leaving u) (s'.leaving v)) := by
  rcases h.visible.uncons with hend | ⟨c, u, v, hu, hv, ht⟩
  · exact .inl hend
  · exact .inr ⟨c, u, v, hu, hv, fun hc => h.leaving (ht fun hs => hc (mem_marks hs))⟩

theorem Reached.of_level {b b' : α} (hR : R b b') (h : Level x a ps opened s s') :
    Reached R x a ps opened b s b' s' := ⟨hR, a, id, h⟩

theorem Reached.widen {b b' : α} (h : Reached R x a₁ ps opened b t b' t') (ha : a = none → a₁ = none) :
    Reached R x a ps opened b t b' t' := by
  obtain ⟨hR, a₂, ha₂, hl⟩ := h
  exact ⟨hR, a₂, fun hn => ha₂ (ha hn), hl⟩

/-- What has been read of a text has been part of it. -/
theorem Reading.Onward.of_ok {r : Reading α} (h : ∀ m, Reading.Onward m r) {b : α} (hr : r.run s = .ok (b, t)) :
    t.rest.length ≤ s.rest.length ∧ t.total = s.total ∧ t.globals = s.globals := by
  have hstays := h s.rest.length s (Nat.le_refl _)
  rw [hr] at hstays
  exact ⟨hstays.1, Prod.mk.inj hstays.2⟩

theorem Room.after {r r' : Reading α} {b b' : α} (h : Room n n' s s') (hr : ∀ m, Reading.Onward m r)
    (hr' : ∀ m, Reading.Onward m r') (hrun : r.run s = .ok (b, t)) (hrun' : r'.run s' = .ok (b', t')) :
    Room n n' t t' := by
  obtain ⟨hlen, htotal, -⟩ := Reading.Onward.of_ok hr hrun
  obtain ⟨hlen', htotal', -⟩ := Reading.Onward.of_ok hr' hrun'
  have hd := h.depth
  have hd' := h.depth'
  have ht := h.total
  have ht' := h.total'
  constructor <;> omega

/-- After the next character there is still room. -/
theorem Room.next (h : Room n n' s s') : Room n n' (s.leaving s.visible.tail) (s'.leaving s'.visible.tail) :=
  h.after (fun _ => .next) (fun _ => .next) (Reading.run_next s) (Reading.run_next s')

theorem Room.recount (h : Room n n' s s') (first : Nat) :
    Room n n' { s with groupCount := first } { s' with groupCount := first + 1 } :=
  ⟨h.depth, h.depth', h.total, h.total'⟩

theorem Room.leaving (h : Room n n' s s') (hu : u.length ≤ s.rest.length) (hv : v.length ≤ s'.rest.length) :
    Room n n' (s.leaving u) (s'.leaving v) :=
  ⟨Nat.lt_of_le_of_lt hu h.depth, Nat.lt_of_le_of_lt hv h.depth', Nat.le_trans hu h.total, Nat.le_trans hv h.total'⟩

end

/-! ### Inside a parenthesis -/

namespace Abreast

variable {α : Type} {R : α → α → Prop} {x : Bool} {a : Option Nat} {q : Paren} {ps : List Paren} {opened : List Nat}
  {n n' : Nat} {s s' : Source} {inside inside' : Reading (Node Reference)}

/-- What comes next where a parenthesis may end: either the pattern is at its end, or both texts go on alike behind the
parenthesis. -/
theorem closing (h : Level x a (q :: ps) opened s s') :
    (s.visible = [] ∧ s'.visible = [')']) ∨
      ∃ c u v, s.visible = c :: u ∧ s'.visible = c :: v ∧ (c = ')' → Raised x a ps u v) := by
  have ht := h.visible
  rcases ht.uncons with hend | ⟨c, u, v, hu, hv, -⟩
  · exact .inl hend
  · refine .inr ⟨c, u, v, hu, hv, ?_⟩
    rintro rfl
    rw [hu, hv] at ht
    cases ht with
    | close h => exact h
    | char hc => exact absurd (by decide) hc

/-- The end of a parenthesis is met in both texts. Only where the pattern is at its end, it is met in the other text
alone, which is at its end then. -/
theorem expectClose (h : Level x a (q :: ps) opened s s') :
    Meets (fun _ t _ t' => Level x a ps opened t t') ((Reading.expect ')').run s) ((Reading.expect ')').run s') := by
  rw [Reading.run_expect, Reading.run_expect]
  rcases closing h with ⟨hu, hv⟩ | ⟨c, u, v, hu, hv, ht⟩
  · rw [hu, hv]
    exact .spent _ _ rfl
  · rw [hu, hv, List.head?_cons, List.head?_cons, List.tail_cons, List.tail_cons]
    by_cases hc : c = ')'
    · subst hc
      rw [if_pos rfl, if_pos rfl]
      exact .ok (h.toCounted.level (ht rfl))
    · have hne : some c ≠ some ')' := fun he => hc (Option.some.inj he)
      rw [if_neg hne, if_neg hne]
      exact .refused _ _ _ _

/-- What is read inside a bracket leaves the options as they were. -/
theorem enclosed {r r' : Reading α} (hr : ∀ m, Reading.Onward m r) (hb : s.Beside x s')
    (h : Meets (Reached R x a ps opened) (r.run s) (r'.run s')) :
    Meets (Reached R x a ps opened) ((Reading.enclosed r).run s) ((Reading.enclosed r').run s') := by
  unfold Reading.enclosed
  rw [Reading.run_get_bind, Reading.run_get_bind]
  refine h.bind (fun _ => (Reading.Onward.setOptions _).bind fun _ => .pure _) ?_
  rintro b t b' t' ⟨hR, a₁, ha, hl⟩ hrun -
  have hglobals := (Reading.Onward.of_ok hr hrun).2.2
  rw [Reading.run_setOptions_bind, Reading.run_setOptions_bind, hb.options]
  exact .ok ⟨hR, a₁, ha, hl.setOptions hb.verbose (by rw [hglobals]; exact hb.posix)⟩

/-- A pattern and the end of the parenthesis around it are read alike. -/
theorem closed (hr : ReadsAlike n n' inside inside') (h : Level x a (q :: ps) opened s s') (ho : Opens (q :: ps) opened)
    (hroom : Room n n' s s') :
    Meets (Reached Counterpart x a ps opened) ((Reading.closed inside).run s) ((Reading.closed inside').run s') := by
  refine enclosed (fun m => (hr.onward m).bind fun _ => (Reading.Onward.expect _).bind fun _ => .pure _) h.beside
    ((hr.meets h ho hroom).bind ?_ ?_)
  · exact fun _ => (Reading.Onward.expect _).bind fun _ => .pure _
  · rintro b t b' t' ⟨hR, a₁, ha, hl⟩ - -
    refine (expectClose hl).bind (fun _ => .pure _) ?_
    rintro - t - t' hl' - -
    exact .ok ⟨hR, a₁, ha, hl'⟩

/-- What is ahead or behind is read alike. -/
theorem lookaround (behind positive : Bool) (hr : ReadsAlike n n' inside inside') (h : Level x a (q :: ps) opened s s')
    (ho : Opens (q :: ps) opened) (hroom : Room n n' s s') :
    Meets (Reached Counterpart x a ps opened) ((Reading.lookaround behind positive inside).run s)
      ((Reading.lookaround behind positive inside').run s') := by
  refine (closed hr h ho hroom).bind (fun _ => .pure _) ?_
  rintro b t b' t' ⟨hR, hl⟩ - -
  exact .ok ⟨hR.look behind positive, hl⟩

/-- A character that is no sign is taken from both texts, or from neither. -/
theorem accepted (h : Level x a ps opened s s') {c : Char} (hc : c ∉ marks) :
    ∃ b u v, (Reading.acceptChar c).run s = .ok (b, s.leaving u) ∧
      (Reading.acceptChar c).run s' = .ok (b, s'.leaving v) ∧
      Level x a ps opened (s.leaving u) (s'.leaving v) := by
  obtain ⟨b, u, v, hr, hr', ht⟩ := acceptChar h.paired hc
  exact ⟨b, u, v, hr, hr', h.leaving ht⟩

/-- The two branches of a choice are read alike. -/
theorem branches (hr : ReadsAlike n n' inside inside') (h : Level x a (q :: ps) opened s s')
    (ho : Opens (q :: ps) opened) (hroom : Room n n' s s') :
    Meets (Reached (fun b b' => Counterpart b.1 b'.1 ∧ Counterpart b.2 b'.2) x a ps opened)
      ((Reading.branches inside).run s) ((Reading.branches inside').run s') := by
  -- the closing parenthesis is expected alike behind one branch and behind two
  have hend (r₁ r₁' : Reading (Node Reference)) {b b' : Node Reference} {t t' : Source} {a₁ : Option Nat}
      (hb : Counterpart b b') (ha : a = none → a₁ = none)
      (hno : Meets (Reached Counterpart x a₁ (q :: ps) opened) (r₁.run t) (r₁'.run t')) :
      Meets (Reached (fun b b' => Counterpart b.1 b'.1 ∧ Counterpart b.2 b'.2) x a ps opened)
        ((r₁ >>= fun no => Reading.expect ')' >>= fun _ => pure (b, no)).run t)
        ((r₁' >>= fun no => Reading.expect ')' >>= fun _ => pure (b', no)).run t') := by
    refine hno.bind (fun _ => (Reading.Onward.expect _).bind fun _ => .pure _) ?_
    rintro d t d' t' ⟨hd, a₂, ha₂, hl⟩ - -
    refine (expectClose hl).bind (fun _ => .pure _) ?_
    rintro - t - t' hl' - -
    exact .ok ⟨⟨hb, hd⟩, a₂, fun hn => ha₂ (ha hn), hl'⟩
  unfold Reading.branches
  refine (hr.meets h ho hroom).bind ?_ ?_
  · refine fun yes => (Reading.Onward.acceptChar _).bind fun found => .either (hr.onward' 0 |>.bind fun _ => ?_) ?_
    · exact (Reading.Onward.expect _).bind fun _ => .pure _
    · exact (Reading.Onward.expect _).bind fun _ => .pure _
  · rintro yes t yes' t' ⟨hyes, a₁, ha, hl⟩ hrun hrun'
    have hroom₁ := hroom.after hr.onward hr.onward' hrun hrun'
    obtain ⟨found, u, v, hb, hb', hl₁⟩ := accepted hl (c := '|') (by decide)
    have hroom₂ := hroom₁.after (fun _ => Reading.Onward.acceptChar _) (fun _ => Reading.Onward.acceptChar _) hb hb'
    rw [Reading.run_bind_of_ok hb, Reading.run_bind_of_ok hb']
    cases found with
    | true => exact hend _ _ hyes ha (hr.meets hl₁ ho hroom₂)
    | false => exact hend (pure .empty) (pure .empty) hyes ha (.ok (.of_level rfl hl₁))

end Abreast

/-! ### Groups -/

namespace Source

theorem lt_freeNumber (s : Source) (named : Bool) : s.groupCount < s.freeNumber named := by
  unfold freeNumber
  dsimp only
  rw [List.find?_map]
  cases List.find? _ _ with
  | none => exact Nat.lt_succ_self _
  | some k =>
    rw [Option.map_some, Option.getD_some]
    omega

/-- A group without a name is the next one. -/
theorem freeNumber_false (s : Source) : s.freeNumber false = s.groupCount + 1 := by
  unfold freeNumber
  dsimp only
  rw [List.range_succ_eq_map, List.map_cons, List.find?_cons_of_pos rfl]
  rfl

end Source

namespace Source.Beside

variable {x : Bool} {s s' : Source}

theorem freeNumber (h : s.Beside x s') (named : Bool) : s'.freeNumber named = raised (s.freeNumber named) := by
  have htaken : s'.names.map Prod.snd = (s.names.map Prod.snd).map raised := by
    rw [h.names, List.map_map, List.map_map]
    rfl
  -- the numbers in use are raised with the count, so that the same one is free
  have hfree : ∀ k, (!named || !(s'.names.map Prod.snd).contains (s'.groupCount + 1 + k)) =
      (!named || !(s.names.map Prod.snd).contains (s.groupCount + 1 + k)) := by
    intro k
    have hraised : s'.groupCount + 1 + k = raised (s.groupCount + 1 + k) := by
      rw [h.groupCount, raised_of_pos (by omega)]
      omega
    rw [htaken, hraised, contains_map_raised]
  unfold Source.freeNumber
  dsimp only
  rw [List.find?_map, List.find?_map]
  have hsame : ((fun n => !named || !(s'.names.map Prod.snd).contains n) ∘ fun k => s'.groupCount + 1 + k) =
      (fun n => !named || !(s.names.map Prod.snd).contains n) ∘ fun k => s.groupCount + 1 + k := funext hfree
  rw [hsame, htaken, List.length_map]
  cases (List.range ((s.names.map Prod.snd).length + 1)).find? _ with
  | none =>
    rw [Option.map_none, Option.map_none, Option.getD_none, Option.getD_none, raised_of_pos (by omega), h.groupCount]
  | some k =>
    rw [Option.map_some, Option.map_some, Option.getD_some, Option.getD_some, raised_of_pos (by omega), h.groupCount]
    omega

/-- **Opening a group**: where it is group `n` in the pattern, it is `raised n` in the other text. -/
theorem openGroup (h : s.Beside x s') (name : Option (List Char)) :
    ∃ n t t', (Reading.openGroup name).run s = .ok (n, t) ∧ (Reading.openGroup name).run s' = .ok (raised n, t') ∧
      t.Beside x t' ∧ t.rest = s.rest ∧ t'.rest = s'.rest ∧ t.opened = n :: s.opened ∧
      (name = none → n = s.groupCount + 1 ∧ t.groupCount = n) := by
  unfold Reading.openGroup
  rw [Reading.run_get_bind, Reading.run_get_bind]
  have hbind : name.bind s'.number? = (name.bind s.number?).map raised := by
    cases name with
    | none => rfl
    | some cs => exact h.number? cs
  have hopened (n : Nat) : raised n :: s'.opened = (n :: s.opened).map raised ++ [1] := by
    rw [h.opened]
    rfl
  have hopenings (n : Nat) : raised n :: s'.openings = (n :: s.openings).map raised ++ [1] := by
    rw [h.openings]
    rfl
  rw [hbind]
  cases hn : name.bind s.number? with
  | some n =>
    refine ⟨n, _, _, rfl, rfl,
      ⟨h.skipping, h.options, h.globals, h.skips, h.verbose, h.posix, h.groupCount, h.names, hopened n, ?_⟩,
      rfl, rfl, rfl, ?_⟩
    · dsimp only
      rw [h.contains_opened]
      split
      · exact h.openings
      · exact hopenings n
    · rintro rfl
      cases hn
  | none =>
    rw [Option.map_none]
    dsimp only
    rw [h.freeNumber]
    have hpos := s.lt_freeNumber name.isSome
    have hnone : name = none → s.freeNumber name.isSome = s.groupCount + 1 := by
      rintro rfl
      exact s.freeNumber_false
    generalize s.freeNumber name.isSome = n at hpos hnone
    refine ⟨n, _, _, rfl, rfl,
      ⟨h.skipping, h.options, h.globals, h.skips, h.verbose, h.posix, raised_of_pos (by omega), ?_,
      hopened n, hopenings n⟩, rfl, rfl, rfl, fun he => ⟨hnone he, rfl⟩⟩
    cases name with
    | none => exact h.names
    | some cs => exact congrArg (List.cons (cs, raised n)) h.names

end Source.Beside

section Groups

variable {x : Bool} {a a₁ : Option Nat} {q : Paren} {ps : List Paren} {opened : List Nat} {n n' number : Nat}
  {s s' : Source} {inside inside' : Reading (Node Reference)}

theorem Level.closeGroup (h : Level x a ps (number :: opened) s s') :
    Level x a ps opened { s with opened := s.opened.tail } { s' with opened := s'.opened.tail } := by
  have hb := h.beside
  have hopened' : s'.opened.tail = opened.map raised ++ [1] := by
    rw [hb.opened, h.opened_eq]
    rfl
  have hopened : s.opened.tail = opened := by rw [h.opened_eq, List.tail_cons]
  refine ⟨⟨⟨hb.skipping, hb.options, hb.globals, hb.skips, hb.verbose, hb.posix, hb.groupCount, hb.names, ?_,
    hb.openings⟩,
    h.count, hopened⟩, h.text⟩
  dsimp only
  rw [hopened', hopened]

namespace Abreast

/-- The pattern and the end of the group opened last are read alike. -/
theorem groupOf (hr : ReadsAlike n n' inside inside') (h : Level x a (q :: ps) (number :: opened) s s')
    (ho : Opens (q :: ps) (number :: opened)) (hroom : Room n n' s s') :
    Meets (Reached Counterpart x a ps opened) ((Reading.groupOf number inside).run s)
      ((Reading.groupOf (raised number) inside').run s') := by
  refine (closed hr h ho hroom).bind (fun _ => Reading.Onward.closeGroup.bind fun _ => .pure _) ?_
  rintro b t b' t' ⟨hR, a₁, ha, hl⟩ - -
  rw [Reading.run_closeGroup_bind, Reading.run_closeGroup_bind]
  exact .ok ⟨hR.group number, a₁, ha, hl.closeGroup⟩

/-- **A group is read alike**, given what follows its opening and the parenthesis that it is read in. -/
theorem groupBody (hr : ReadsAlike n n' inside inside') (hc : Counted x a opened s s') {name : Option (List Char)}
    {before : Reading Unit} (honward : ∀ m, Reading.Onward m before)
    (hbefore : ∀ number t t', Counted x a₁ (number :: opened) t t' → t.rest = s.rest → t'.rest = s'.rest →
      Meets (fun _ u _ u' => Level x a₁ (q :: ps) (number :: opened) u u') (before.run t) (before.run t'))
    (hopens : ∀ number, (name = none → number = s.groupCount + 1) → Opens (q :: ps) (number :: opened))
    (hcount : ∀ k, a₁ = some k → name = none ∧ k = s.groupCount + 1) (hroom : Room n n' s s') :
    Meets (Reached Counterpart x a₁ ps opened) ((Reading.groupBody name before inside).run s)
      ((Reading.groupBody name before inside').run s') := by
  obtain ⟨number, t, t', hrun, hrun', hb, hrest, hrest', hopened, hnone⟩ := hc.beside.openGroup name
  have hroom₁ := hroom.after (fun _ => .openGroup name) (fun _ => .openGroup name) hrun hrun'
  have hcounted : Counted x a₁ (number :: opened) t t' := by
    refine ⟨hb, fun k hk => ?_, by rw [hopened, hc.opened_eq]⟩
    obtain ⟨hname, rfl⟩ := hcount k hk
    obtain ⟨rfl, htcount⟩ := hnone hname
    exact htcount
  have ho := hopens number fun hname => (hnone hname).1
  unfold Reading.groupBody
  rw [Reading.run_bind_of_ok hrun, Reading.run_bind_of_ok hrun']
  refine (hbefore number t t' hcounted hrest hrest').bind (fun _ => .groupOf _ (hr.onward' 0)) ?_
  rintro _ u _ u' hl hu hu'
  exact groupOf hr hl ho (hroom₁.after honward honward hu hu')

/-- A group without a name is read alike. -/
theorem unnamedGroup (hr : ReadsAlike n n' inside inside') (hc : Counted x a opened s s')
    (ht : Raised x a₁ (q :: ps) s.rest s'.rest) (ho : Opens (q :: ps) ((s.groupCount + 1) :: opened))
    (hcount : ∀ k, a₁ = some k → k = s.groupCount + 1) (hroom : Room n n' s s') :
    Meets (Reached Counterpart x a₁ ps opened) ((Reading.groupBody none (pure ()) inside).run s)
      ((Reading.groupBody none (pure ()) inside').run s') := by
  refine groupBody hr hc (fun _ => .pure ()) ?_ (fun number hn => hn rfl ▸ ho) (fun k hk => ⟨rfl, hcount k hk⟩) hroom
  intro number t t' hct hrest hrest'
  exact .ok ⟨hct, by rw [hrest, hrest']; exact ht⟩

/-- A named group is read alike. -/
theorem namedGroup (hr : ReadsAlike n n' inside inside') (hc : Counted x a opened s s') (ho : Opens ps opened)
    (ht : Raised x none (.unknown :: ps) s.rest s'.rest) (hroom : Room n n' s s') :
    Meets (Reached Counterpart x none ps opened) ((Reading.namedGroup inside).run s)
      ((Reading.namedGroup inside').run s') := by
  unfold Reading.namedGroup
  refine (groupName hc.beside.skips hc.beside.skipping false ht).bind ?_ ?_
  · intro g
    cases g
    · exact .fail _
    · exact .groupBody _ (.expect _) (hr.onward' 0)
  · rintro g t g' t' ⟨rfl, u, v, rfl, rfl, ht₁⟩ hrun hrun'
    have hroom₁ := hroom.after (fun _ => .groupName false) (fun _ => .groupName false) hrun hrun'
    cases g with
    | number m => exact .refused _ _ _ _
    | name cs =>
      refine groupBody hr hc.leaving (fun _ => .expect '>') ?_ (fun number _ => .unknown number ho)
        (fun k hk => by cases hk) hroom₁
      intro number t t' hct hrest hrest'
      rw [Reading.run_expect, Reading.run_expect]
      have ht₂ : Raised x none (.unknown :: ps) t.rest t'.rest := by rw [hrest, hrest']; exact ht₁
      rcases expect_step hct.beside ht₂ (c := '>') (by decide) (by decide) with ⟨hu, hv⟩ | ⟨u', v', hu, hv, ht₃⟩
      · rw [if_neg hu, if_neg hv]
        exact .refused _ _ _ _
      · rw [hu, hv, List.head?_cons, List.head?_cons, if_pos rfl, if_pos rfl]
        exact .ok (hct.level ht₃)

end Abreast

end Groups

end SqlRegexp.Pattern
