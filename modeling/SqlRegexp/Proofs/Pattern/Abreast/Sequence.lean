import SqlRegexp.Proofs.Pattern.Abreast.Bracket
import SqlRegexp.Proofs.Pattern.Abreast.Parenthesis

/-!
Reading sequences abreast. One element is read alike (`Abreast.element`), hence all elements up to the end of a sequence
are (`Abreast.elements`), and by induction on the depth of parentheses **sequences are read alike**
(`readsAlike_sequence`).
-/

namespace SqlRegexp.Pattern

open SqlRegexp.Text SqlRegexp.Unicode
open Node (Counterpart)

/-- Elements that differ in the numbers of their groups only. -/
abbrev ItemsAlike : Reading.Items → Reading.Items → Prop := List.Forall₂ (Option.Rel Counterpart)

namespace Abreast

variable {x : Bool} {a : Option Nat} {ps : List Paren} {opened : List Nat} {n n' : Nat} {s s' : Source}
  {inside inside' inner inner' : Reading (Node Reference)} {items items' : Reading.Items}

theorem paired_reached {R : Node Reference → Node Reference → Prop} {o o' : Except Refusal (Node Reference × Source)}
    (h : Meets (AlongBy R (Raised x a ps) s s') o o') (hc : Counted x a opened s s') :
    Meets (Reached R x a ps opened) o o' :=
  h.mono fun _ _ _ _ ⟨hR, _, _, ht, ht', hraised⟩ => by
    rw [ht, ht']
    exact .of_level hR (hc.level hraised)

/-- A quantifier is applied alike, or refused in both texts. -/
theorem repeated (h : Level x a ps opened s s') (hitems : ItemsAlike items items') (start start' : Nat)
    (b : Reading.Bounds) :
    Meets (Reached ItemsAlike x a ps opened) ((Reading.repeated start b items).run s)
      ((Reading.repeated start' b items').run s') := by
  cases hitems with
  | nil => exact .refused _ _ _ _
  | cons hitem hrest =>
    cases hitem with
    | none => cases hrest <;> exact .refused _ _ _ _
    | some hn =>
      refine (paired_reached (quantified h.paired hn b) h.toCounted).bind (fun _ => .pure _) ?_
      rintro m t m' t' ⟨hm, hl⟩ - -
      exact .ok ⟨.cons .none (.cons (.some hm) hrest), hl⟩

/-- What follows a backslash, a parenthesis or a bracket has been dealt with; any other character goes on alike. -/
theorem level_of_cons (hc : Counted x a opened s s') {c : Char} (ht : Raised x a ps (c :: s.rest) (c :: s'.rest))
    (hsign : c ∉ signs) : Level x a ps opened s s' := by
  obtain ⟨v, hv, h⟩ := ht.of_cons hsign
  obtain rfl := (List.cons.inj hv).2
  exact ⟨hc, h⟩

/-- A class is read alike, as an element of a sequence. -/
theorem bracketed (hc : Counted x a opened s s') (hroom : Room n n' s s')
    (ht : Raised x a ps ('[' :: s.rest) ('[' :: s'.rest)) :
    Meets (Reached Counterpart x a ps opened) (Reading.bracket.run s) (Reading.bracket.run s') := by
  generalize hr : s.rest = r at ht
  generalize hr' : s'.rest = r' at ht
  cases ht with
  | char hsign => exact absurd (by decide) hsign
  | classText hk h =>
    refine (bracket (b := true) hc.beside.options (fun hb => nomatch hb) hr hr' hroom.total hroom.total' hk).mono ?_
    rintro m _ m' _ ⟨⟨t, rfl, rfl⟩, -, rfl, rfl⟩
    exact .of_level rfl (hc.level h)
  | @classOpen _ _ r hk =>
    have hall : s.rest = r ++ [] := by rw [hr, List.append_nil]
    refine (bracket hc.beside.options (fun _ => ⟨rfl, rfl⟩) hall hr' hroom.total hroom.total' hk).mono ?_
    rintro m _ m' _ ⟨-, hb, -⟩
    cases hb

/-- **An element is read alike**, given the character that it begins with. -/
theorem element (hr : ReadsAlike n n' inside inside') (hi : ReadsAlike n n' inner inner')
    (hc : Counted x a opened s s') (ho : Opens ps opened) (hroom : Room n n' s s') {c : Char} (hclose : c ≠ ')')
    (ht : Raised x a ps (c :: s.rest) (c :: s'.rest)) (hitems : ItemsAlike items items') (start start' : Nat)
    (k : Casing) :
    Meets (Reached (fun b b' => b'.1 = b.1 ∧ ItemsAlike b.2 b'.2) x a ps opened)
      ((Reading.element inside inner start c k items).run s)
      ((Reading.element inside' inner' start' c k items').run s') := by
  unfold Reading.element
  split
  · refine (paired_reached (escape hc.beside (by rw [hc.opened_eq]; exact ho) ht) hc).bind (fun _ => .pure _) ?_
    rintro m t m' t' ⟨hm, hl⟩ - -
    exact .ok ⟨⟨rfl, .cons (.some hm) hitems⟩, hl⟩
  · refine (parenthesis hr hi hc ho hroom ht).bind ?_ ?_
    · intro found
      cases found
      · exact .casing_bind fun _ => .pure _
      · exact .pure _
    · rintro o t o' t' ⟨hm, hl⟩ - -
      cases hm with
      | some hm => exact .ok ⟨⟨rfl, .cons (.some hm) hitems⟩, hl⟩
      | none =>
        obtain ⟨a₁, ha, hl₁⟩ := hl
        rw [Reading.run_casing_bind, Reading.run_casing_bind, hl₁.beside.options]
        exact .ok ⟨⟨rfl, hitems⟩, a₁, ha, hl₁⟩
  · refine (bracketed hc hroom ht).bind (fun _ => .pure _) ?_
    rintro m t m' t' ⟨hm, hl⟩ - -
    exact .ok ⟨⟨rfl, .cons (.some hm) hitems⟩, hl⟩
  · next hslash hparen hbracket =>
    have hsign : c ∉ signs := by
      simp only [signs, List.mem_cons, List.not_mem_nil, or_false, not_or]
      exact ⟨hslash, hparen, hclose, hbracket⟩
    have hl := level_of_cons hc ht hsign
    have hliteral {u v : List Char} (hl₁ : Level x a ps opened (s.leaving u) (s'.leaving v)) :
        Meets (Reached (fun b b' => b'.1 = b.1 ∧ ItemsAlike b.2 b'.2) x a ps opened)
          (.ok ((k, some (.one (.char c.toNat true k)) :: items), s.leaving u))
          (.ok ((k, some (.one (.char c.toNat true k)) :: items'), s'.leaving v)) :=
      .ok (.of_level ⟨rfl, .cons (.some rfl) hitems⟩ hl₁)
    refine .either (fun _ => ?_) fun _ => .either (fun _ => ?_) fun _ => hliteral hl
    · -- a character that stands for a place or for any character
      rw [Reading.run_get_bind, Reading.run_get_bind, hc.beside.options]
      refine .ok (.of_level ⟨rfl, .cons (.some ?_) hitems⟩ hl)
      unfold Reading.placeChar
      split <;> rfl
    · -- a repeat of the last item, or a character that only looks like one
      refine (bounds hl.paired c).bind (fun b => ?_) ?_
      · cases b with
        | none => exact .pure _
        | some b => exact (Reading.Onward.repeated _ b _).bind fun _ => .pure _
      · rintro b _ _ _ ⟨rfl, u, v, rfl, rfl, ht₁⟩ - -
        have hl₁ := hl.leaving ht₁
        cases b with
        | none => exact hliteral hl₁
        | some b =>
          refine (repeated hl₁ hitems start start' b).bind (fun _ => .pure _) ?_
          rintro ms t ms' t' ⟨hms, hl₂⟩ - -
          exact .ok ⟨⟨rfl, hms⟩, hl₂⟩

/-- **The elements of a sequence are read alike**, up to its end. -/
theorem elements (hr : ReadsAlike n n' inside inside') (hi : ReadsAlike n n' inner inner') (ho : Opens ps opened)
    {limit limit' : Nat} (hlimit : s.rest.length < limit) (hlimit' : s'.rest.length < limit')
    (h : Level x a ps opened s s') (hroom : Room (n + 1) (n' + 1) s s') (hitems : ItemsAlike items items')
    (k : Casing) :
    Meets (Reached ItemsAlike x a ps opened) ((Reading.elements inside inner limit k items).run s)
      ((Reading.elements inside' inner' limit' k items').run s') := by
  induction limit generalizing limit' s s' a k items items' with
  | zero => exact absurd hlimit (Nat.not_lt_zero _)
  | succ limit ih =>
    cases limit' with
    | zero => exact absurd hlimit' (Nat.not_lt_zero _)
    | succ limit' =>
      have hend : Meets (Reached ItemsAlike x a ps opened) (.ok (items, s)) (.ok (items', s')) :=
        .ok (.of_level hitems h)
      have hvisible := h.visible
      rw [Reading.elements, Reading.elements, Reading.run_pos_bind, Reading.run_pos_bind, Reading.run_mark_bind,
        Reading.run_mark_bind]
      rcases hvisible.uncons with ⟨hu, hv⟩ | ⟨c, u, v, hu, hv, -⟩
      · rw [Reading.run_next_bind, hu, Reading.run_next_bind_of_cons hv]
        exact hend
      · rw [hu, hv] at hvisible
        rw [Reading.run_next_bind_of_cons hu, Reading.run_next_bind_of_cons hv]
        have hlen := s.length_visible
        have hlen' := s'.length_visible
        rw [hu, List.length_cons] at hlen
        rw [hv, List.length_cons] at hlen'
        split
        · next he => cases he
        · exact hend
        · exact hend
        · next d hclose _ he =>
          obtain rfl : c = d := Option.some.inj he
          have hne : c ≠ ')' := fun hc => hclose hc
          have hc₁ : Counted x a opened (s.leaving u) (s'.leaving v) := h.toCounted.leaving
          have hroom₁ : Room n n' (s.leaving u) (s'.leaving v) :=
            ⟨by have := hroom.depth; rw [Source.leaving_rest]; omega,
              by have := hroom.depth'; rw [Source.leaving_rest]; omega,
              by have := hroom.total; rw [Source.leaving_rest, Source.leaving_total]; omega,
              by have := hroom.total'; rw [Source.leaving_rest, Source.leaving_total]; omega⟩
          have honward {r r' : Reading (Node Reference)} (hr : ∀ m, Reading.Onward m r)
              (hr' : ∀ m, Reading.Onward m r')
              (start : Nat) (items : Reading.Items) (m : Nat) :
              Reading.Onward m (Reading.element r r' start c k items) :=
            .element (hr m) (hr' m) start c k items
          refine (element hr hi hc₁ ho hroom₁ hne hvisible hitems _ _ k).bind ?_ ?_
          · exact fun _ => .elements (hr.onward' 0) (hi.onward' 0) _ _ _
          · rintro ⟨k₁, ms⟩ t ⟨k₂, ms'⟩ t' ⟨⟨hk, hms⟩, a₁, ha, hl⟩ hrun hrun'
            obtain rfl : k₂ = k₁ := hk
            obtain ⟨hlt, htotal, -⟩ := Reading.Onward.of_ok (honward hr.onward hi.onward _ _) hrun
            obtain ⟨hlt', htotal', -⟩ := Reading.Onward.of_ok (honward hr.onward' hi.onward' _ _) hrun'
            rw [Source.leaving_rest] at hlt hlt'
            rw [Source.leaving_total] at htotal htotal'
            -- the element has taken something of both texts, so that the limits suffice for what is left
            have hroom₂ : Room (n + 1) (n' + 1) t t' :=
              ⟨by have := hroom.depth; omega, by have := hroom.depth'; omega, by have := hroom.total; omega,
                by have := hroom.total'; omega⟩
            exact (ih (by omega) (by omega) hl hroom₂ hms k₂).mono fun _ _ _ _ hreached => hreached.widen ha

/-- Alternatives are read alike. -/
theorem alternativesOf (hr : ReadsAlike n n' inside inside') (ho : Opens ps opened) {limit limit' : Nat}
    (hlimit : s.rest.length < limit) (hlimit' : s'.rest.length < limit') (h : Level x a ps opened s s')
    (hroom : Room n n' s s') :
    Meets (Reached (List.Forall₂ Counterpart) x a ps opened) ((Reading.alternativesOf inside limit).run s)
      ((Reading.alternativesOf inside' limit').run s') := by
  induction limit generalizing limit' s s' a with
  | zero => exact absurd hlimit (Nat.not_lt_zero _)
  | succ limit ih =>
    cases limit' with
    | zero => exact absurd hlimit' (Nat.not_lt_zero _)
    | succ limit' =>
      rw [Reading.alternativesOf, Reading.alternativesOf]
      refine (hr.meets h ho hroom).bind ?_ ?_
      · exact fun _ => (Reading.Onward.acceptChar _).bind fun _ =>
          .either ((Reading.Onward.alternativesOf (hr.onward' 0) _).bind fun _ => .pure _) (.pure _)
      · rintro m t m' t' ⟨hm, a₁, ha, hl⟩ hrun hrun'
        have hlen := (Reading.Onward.of_ok hr.onward hrun).1
        have hlen' := (Reading.Onward.of_ok hr.onward' hrun').1
        have hroom₁ := hroom.after hr.onward hr.onward' hrun hrun'
        obtain ⟨b, u, v, hb, hb', hl₁⟩ := accepted hl (c := '|') (by decide)
        have hroom₂ := hroom₁.after (fun _ => .acceptChar '|') (fun _ => .acceptChar '|') hb hb'
        rw [Reading.run_bind_of_ok hb, Reading.run_bind_of_ok hb']
        cases b with
        | true =>
          have hlt := length_of_accepted hb
          have hlt' := length_of_accepted hb'
          refine (ih (by omega) (by omega) hl₁ hroom₂).bind (fun _ => .pure _) ?_
          rintro ms w ms' w' ⟨hms, a₂, ha₂, hl₂⟩ - -
          exact .ok ⟨.cons hm hms, a₂, fun hn => ha₂ (ha hn), hl₂⟩
        | false => exact .ok ⟨.cons hm .nil, a₁, ha, hl₁⟩

end Abreast

/-! ### Whole sequences -/

namespace ReadsAlike

variable {n n' : Nat} {inside inside' : Reading (Node Reference)}

/-- Where sequences are read alike, alternatives of them are. -/
theorem choiceOf (hr : ReadsAlike n n' inside inside') :
    ReadsAlike n n' (Reading.choiceOf inside) (Reading.choiceOf inside') where
  onward m := .choiceOf (hr.onward m)
  onward' m := .choiceOf (hr.onward' m)
  meets h ho hroom := by
    unfold Reading.choiceOf
    rw [Reading.run_get_bind, Reading.run_get_bind]
    refine (Abreast.alternativesOf hr ho (Nat.lt_succ_of_le hroom.total) (Nat.lt_succ_of_le hroom.total') h hroom).bind
      (fun _ => .pure _) ?_
    rintro ms t ms' t' ⟨hms, hl⟩ - -
    exact .ok ⟨.choice hms, hl⟩

end ReadsAlike

theorem ItemsAlike.filterMap {items items' : Reading.Items} (h : ItemsAlike items items') :
    List.Forall₂ Counterpart (items.filterMap id) (items'.filterMap id) := by
  induction h with
  | nil => exact .nil
  | cons h _ ih =>
    cases h with
    | none => exact ih
    | some h => exact .cons h ih

/-- **Sequences are read alike**, however deep their parentheses are nested. -/
theorem readsAlike_sequence (n n' : Nat) : ReadsAlike n n' (Reading.sequence n) (Reading.sequence n') := by
  induction n generalizing n' with
  | zero => exact ⟨fun _ => .sequence 0, fun _ => .sequence n', fun _ _ hroom => absurd hroom.depth (Nat.not_lt_zero _)⟩
  | succ n ih =>
    refine ⟨fun _ => .sequence _, fun _ => .sequence n', fun h ho hroom => ?_⟩
    cases n' with
    | zero => exact absurd hroom.depth' (Nat.not_lt_zero _)
    | succ n' =>
      rw [Reading.sequence, Reading.sequence, Reading.run_get_bind, Reading.run_get_bind, h.beside.options]
      refine (Abreast.elements (ih n') (ih n').choiceOf ho (Nat.lt_succ_of_le hroom.total)
        (Nat.lt_succ_of_le hroom.total') h hroom (.cons .none .nil) _).bind (fun _ => .pure _) ?_
      rintro ms t ms' t' ⟨hms, hl⟩ - -
      exact .ok ⟨.ofList (ItemsAlike.filterMap (List.rel_reverse hms)), hl⟩

end SqlRegexp.Pattern
