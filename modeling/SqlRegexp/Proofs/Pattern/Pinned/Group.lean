import SqlRegexp.Proofs.Pattern.Abreast.Question
import SqlRegexp.Proofs.Pattern.Pinned.Escape

/-!
Reading groups, choices, calls and options of a pattern and of its pinned text, given readers of what stands inside that
follow one another.
-/

namespace SqlRegexp.Pattern

open PatternText SqlRegexp.Text SqlRegexp.Unicode
open Node (PinsTo)

namespace Pinning

variable {e : Pinning} {s : Source} {u : List Char} {inside inside' inner inner' : Reading (Node Reference)}

namespace Follows

/-! ### Groups -/

theorem openGroup (name : Option (List Char)) : e.Follows Eq (Reading.openGroup name) (Reading.openGroup name) := by
  intro s hs
  have hnumber : name.bind (e.pinned s).number? = name.bind s.number? := rfl
  unfold Reading.openGroup
  rw [Reading.run_get_bind, Reading.run_get_bind, hnumber]
  cases name.bind s.number? with
  | some n => exact .ok rfl ⟨hs.text, hs.total, hs.skips, hs.verbose⟩
  | none => exact .ok rfl ⟨hs.text, hs.total, hs.skips, hs.verbose⟩

section Inside

variable (hi : e.Follows PinsTo inner inner')

include hi

theorem closed : e.Follows PinsTo (Reading.closed inner) (Reading.closed inner') :=
  enclosed (hi.bind fun _ _ h => (expect (by decide)).bind fun _ _ _ => .pure h)

theorem groupBody (name : Option (List Char)) {before : Reading Unit} (hb : e.Follows Eq before before) :
    e.Follows PinsTo (Reading.groupBody name before inner) (Reading.groupBody name before inner') := by
  refine (openGroup name).bind fun n _ hn => hb.bind fun _ _ _ => ?_
  subst hn
  exact hi.closed.bind fun _ _ h => closeGroup.bind fun _ _ _ => .pure (h.group n)

/-- A group without a name is read alike. -/
theorem unnamedGroup : e.Follows PinsTo (Reading.groupBody none (Pure.pure ()) inner)
    (Reading.groupBody none (Pure.pure ()) inner') := hi.groupBody none (.pure rfl)

theorem namedGroup : e.Follows PinsTo (Reading.namedGroup inner) (Reading.namedGroup inner') := by
  refine (groupName false).bind fun g _ hg => ?_
  subst hg
  cases g with
  | name cs => exact hi.groupBody (some cs) (expect (by decide))
  | number n => exact .fail _ _

theorem lookaround (behind positive : Bool) :
    e.Follows PinsTo (Reading.lookaround behind positive inner) (Reading.lookaround behind positive inner') :=
  hi.closed.bind fun _ _ h => .pure (h.look behind positive)

theorem angled : e.Follows PinsTo (Reading.angled inner) (Reading.angled inner') := by
  intro s hs
  have hnamed (w w' : List Char) :
      e.Outcome PinsTo ((Reading.rewind s.rest >>= fun _ => Reading.namedGroup inner).run (s.leaving w))
        ((Reading.rewind (pinEnds s.rest) >>= fun _ => Reading.namedGroup inner').run ((e.pinned s).leaving w')) :=
    hi.namedGroup s hs
  unfold Reading.angled
  rw [Reading.run_mark_bind, Reading.run_mark_bind]
  refine hs.next_bind (fun c u _ hl => ?_) fun d d' halt u v => ?_
  · split
    · exact hi.lookaround _ _ _ hl
    · exact hi.lookaround _ _ _ hl
    · exact hnamed _ _
  · cases halt <;> exact hnamed _ _

end Inside

/-! ### Calls -/

theorem wholeCall (start start' : Nat) : e.Follows PinsTo (Reading.wholeCall start) (Reading.wholeCall start') :=
  (expect (by decide)).bind fun _ _ _ => .pure (.call (.number 0) start start')

theorem namedCall (start start' : Nat) : e.Follows PinsTo (Reading.namedCall start) (Reading.namedCall start') := by
  refine (groupName false).bind fun g _ hg => (expect (by decide)).bind fun _ _ _ => ?_
  subst hg
  exact .pure (.call g start start')

theorem numberedCall (digits : List Char) (start start' : Nat) :
    e.Follows PinsTo (Reading.numberedCall digits start) (Reading.numberedCall digits start') := by
  refine (takeWhile (eq_false_of_any (by decide))).bind fun more _ hmore => (expect (by decide)).bind fun _ _ _ => ?_
  subst hmore
  exact .pure (.call (Reading.numberedGroup (digits ++ more)) start start')

theorem relativeCall (forward : Bool) (start start' : Nat) :
    e.Follows PinsTo (Reading.relativeCall forward start) (Reading.relativeCall forward start') := by
  refine (takeWhile (eq_false_of_any (by decide))).bind fun digits _ hdigits => ?_
  subst hdigits
  refine .either (fun _ => .fail _ _) fun _ => (numeral _).bind fun offset _ hoffset => ?_
  subst hoffset
  intro s hs
  rw [Reading.run_get_bind, Reading.run_get_bind]
  refine .either (fun _ => .malformed _ _ _) fun _ => ?_
  exact ((expect (by decide)).bind fun _ _ _ => .pure (.call _ start start')) s hs

/-- What follows `(?P` is read alike. -/
theorem extension (hi : e.Follows PinsTo inner inner') :
    e.Follows PinsTo (Reading.extension inner) (Reading.extension inner') := by
  intro s hs
  unfold Reading.extension
  rw [Reading.run_pos_bind, Reading.run_pos_bind, Reading.run_mark_bind, Reading.run_mark_bind]
  refine hs.next_bind (fun c u _ hl => ?_) fun d d' halt u v => ?_
  · split
    · exact hi.namedGroup _ hl
    · refine (groupName true _ hl).bind fun g _ hg => (expect (by decide)).bind fun _ _ _ => ?_
      subst hg
      refine (isOpen g).bind fun found _ hfound => hfound ▸ .either (fun _ => .failAt _ _ _) fun _ => ?_
      exact backreference g _ _
    · exact namedCall _ _ _ hl
    · exact namedCall _ _ _ hl
    · exact .malformed _ _ _
  · cases halt <;> exact .malformed _ _ _

/-! ### Choices -/

section Branches

variable (hr : e.Follows PinsTo inside inside')

include hr

theorem branches :
    e.Follows (fun b b' => PinsTo b.1 b'.1 ∧ PinsTo b.2 b'.2) (Reading.branches inside) (Reading.branches inside') := by
  have hend {yes yes' : Node Reference} (hyes : PinsTo yes yes') {r r' : Reading (Node Reference)}
      (h : e.Follows PinsTo r r') :
      e.Follows (fun b b' => PinsTo b.1 b'.1 ∧ PinsTo b.2 b'.2)
        (r >>= fun no => Reading.expect ')' >>= fun _ => Pure.pure (yes, no))
        (r' >>= fun no => Reading.expect ')' >>= fun _ => Pure.pure (yes', no)) :=
    h.bind fun _ _ hno => (expect (by decide)).bind fun _ _ _ => .pure ⟨hyes, hno⟩
  refine hr.bind fun yes yes' hyes => (acceptChar (by decide)).bind fun found _ hfound => ?_
  subst hfound
  cases found with
  | true => exact hend hyes hr
  | false => exact hend hyes (.pure (R := PinsTo) rfl)

theorem choiceFor (g : GroupName) (start start' : Nat) :
    e.Follows PinsTo (Reading.choiceFor ⟨g, start⟩ inside) (Reading.choiceFor ⟨g, start'⟩ inside') := by
  refine hr.branches.bind ?_
  rintro ⟨yes, no⟩ ⟨yes', no'⟩ ⟨hyes, hno⟩
  refine .pure ?_
  rw [hyes.isTrivial, hno.isTrivial]
  split
  · rfl
  · exact .ifGroup g start start' hyes hno

theorem choiceByGroup (start start' : Nat) :
    e.Follows PinsTo (Reading.choiceByGroup start inside) (Reading.choiceByGroup start' inside') := by
  refine (groupName true).bind fun g _ hg => (expect (by decide)).bind fun _ _ _ => ?_
  subst hg
  exact hr.choiceFor g start start'

theorem choiceByLook (hi : e.Follows PinsTo inner inner') (behind positive : Bool) :
    e.Follows PinsTo (Reading.choiceByLook behind positive inside inner)
      (Reading.choiceByLook behind positive inside' inner') := by
  refine hi.closed.bind fun test test' htest => hr.branches.bind ?_
  rintro ⟨yes, no⟩ ⟨yes', no'⟩ ⟨hyes, hno⟩
  exact .pure (htest.ifLook behind positive hyes hno)

/-- What follows `(?(` is read alike. -/
theorem conditional (hi : e.Follows PinsTo inner inner') :
    e.Follows PinsTo (Reading.conditional inside inner) (Reading.conditional inside' inner') := by
  intro s hs
  have hgroup (place place' : Nat) (w w' : List Char) :
      e.Outcome PinsTo
        ((Reading.rewind s.rest >>= fun _ => Reading.enclosed (Reading.choiceByGroup place inside)).run (s.leaving w))
        ((Reading.rewind (pinEnds s.rest) >>= fun _ => Reading.enclosed (Reading.choiceByGroup place' inside')).run
          ((e.pinned s).leaving w')) := enclosed (hr.choiceByGroup place place') s hs
  unfold Reading.conditional
  rw [Reading.run_pos_bind, Reading.run_pos_bind, Reading.run_mark_bind, Reading.run_mark_bind]
  refine hs.next_bind (fun c u _ hl => .either (fun _ => ?_) fun _ => hgroup _ _ _ _) fun d d' halt u v => ?_
  · refine hl.next_bind (fun d w _ hl₁ => ?_) fun d d' halt w w' => ?_
    · split
      · exact hr.choiceByLook hi _ _ _ hl₁
      · exact hr.choiceByLook hi _ _ _ hl₁
      · refine hl₁.next_bind (fun b t _ hl₂ => ?_) fun d d' halt t t' => ?_
        · split
          · exact hr.choiceByLook hi _ _ _ hl₂
          · exact hr.choiceByLook hi _ _ _ hl₂
          · exact .malformed _ _ _
        · cases halt <;> exact .malformed _ _ _
      · exact .malformed _ _ _
    · cases halt <;> exact .malformed _ _ _
  · cases halt <;> exact hgroup _ _ _ _

/-! ### Branches that number their groups alike -/

theorem resetBranches (first : Nat) {limit limit' : Nat} (hle : limit ≤ limit') :
    e.Follows (fun b b' => List.Forall₂ PinsTo b.1 b'.1 ∧ b'.2 = b.2) (Reading.resetBranches inside first limit)
      (Reading.resetBranches inside' first limit') := by
  induction limit generalizing limit' with
  | zero => exact .fail _ _
  | succ limit ih =>
    obtain ⟨limit', rfl⟩ : ∃ m, limit' = m + 1 := ⟨limit' - 1, by omega⟩
    have hset : e.Follows (fun _ _ => True) (modify fun s => { s with groupCount := first })
        (modify fun s => { s with groupCount := first }) :=
      fun _ hs => .ok trivial ⟨hs.text, hs.total, hs.skips, hs.verbose⟩
    refine hset.bind fun _ _ _ => hr.bind fun n n' hn s hs => ?_
    rw [Reading.run_get_bind, Reading.run_get_bind]
    refine (acceptChar (by decide) s hs).bind fun found _ hfound => ?_
    subst hfound
    refine .either (fun _ => (ih (Nat.le_of_succ_le_succ hle)).bind ?_) fun _ => .pure ⟨.cons hn .nil, rfl⟩
    rintro ⟨ns, most⟩ ⟨ns', _⟩ ⟨hns, rfl⟩
    exact .pure ⟨.cons hn hns, rfl⟩

theorem branchReset : e.Follows PinsTo (Reading.branchReset inside) (Reading.branchReset inside') := by
  intro s hs
  unfold Reading.branchReset
  rw [Reading.run_get_bind, Reading.run_get_bind]
  have hle : s.total + 1 ≤ (e.pinned s).total + 1 := Nat.succ_le_succ (hs.total ▸ e.length_le)
  refine (hr.resetBranches s.groupCount hle s hs).bind ?_
  rintro ⟨ns, _⟩ ⟨ns', most⟩ ⟨hns, rfl⟩
  have hset : e.Follows (fun _ _ => True) (modify fun s => { s with groupCount := most })
      (modify fun s => { s with groupCount := most }) :=
    fun _ hs => .ok trivial ⟨hs.text, hs.total, hs.skips, hs.verbose⟩
  exact hset.bind fun _ _ _ => (expect (by decide)).bind fun _ _ _ => .pure (.choice hns)

end Branches

end Follows

end Pinning

end SqlRegexp.Pattern
