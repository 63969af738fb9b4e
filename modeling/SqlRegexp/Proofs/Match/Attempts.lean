import Mathlib.Tactic.Common
import SqlRegexp.Proofs.Match.Invariant

/-!
Attempts and where they lead.

* `Program.matchFrom_ahead`: a match never stops before the place where its attempt began, and where nothing that is
  looked at behind moves its start, it does not start before that place either (`Program.KeepsStartAhead.matchFrom`).
* `Program.attempt?`: a search with the place of the attempt that comes to a match.
* `Program.start_of_attempt?`: without `\K` this place is where the match starts, at the cursor or after it.
* `Program.matchFrom_beganAt`: without `\G` it does not matter where the search began, so that a match is found again
  at the place of its attempt (`Program.matchAt_of_attempt?`).
-/

namespace SqlRegexp.Pattern.Node

/-- Whether a pattern asks where the search began. -/
def asksSearchStart : Node Nat → Bool
  | assertion a => a == .searchStart
  | notAssertion a => a == .searchStart
  | seq a b => a.asksSearchStart || b.asksSearchStart
  | alt a b => a.asksSearchStart || b.asksSearchStart
  | group _ b => b.asksSearchStart
  | times _ _ _ b => b.asksSearchStart
  | atomic b => b.asksSearchStart
  | look _ _ b => b.asksSearchStart
  | ifGroup _ yes no => yes.asksSearchStart || no.asksSearchStart
  | ifLook _ _ test yes no => test.asksSearchStart || yes.asksSearchStart || no.asksSearchStart
  | _ => false

theorem asksSearchStart_of_bodyOf {number : Nat} {n b : Node Nat} (h : n.bodyOf number = some b)
    (hn : n.asksSearchStart = false) : b.asksSearchStart = false := by
  induction n with
  | group m body ih =>
    rw [bodyOf] at h
    split at h
    · cases h; exact hn
    · exact ih h hn
  | seq a c iha ihc | alt a c iha ihc | ifGroup m a c iha ihc =>
    simp only [bodyOf, Option.orElse_eq_orElse, Option.orElse_eq_or, Option.or_eq_some_iff] at h
    simp only [asksSearchStart, Bool.or_eq_false_iff] at hn
    rcases h with h | ⟨-, h⟩
    · exact iha h hn.1
    · exact ihc h hn.2
  | times greed least most body ih | atomic body ih | look behind positive body ih => exact ih h hn
  | ifLook behind positive test yes no iht ihy ihn =>
    simp only [bodyOf, Option.orElse_eq_orElse, Option.orElse_eq_or, Option.or_eq_some_iff] at h
    simp only [asksSearchStart, Bool.or_eq_false_iff] at hn
    rcases h with h | ⟨-, h | ⟨-, h⟩⟩
    · exact iht h hn.1.1
    · exact ihy h hn.1.2
    · exact ihn h hn.2
  | _ => cases h

/-- Whether a part that is looked at behind moves the start of the match, or may do so by a call. -/
def movesStartBehind : Node Nat → Bool
  | seq a b => a.movesStartBehind || b.movesStartBehind
  | alt a b => a.movesStartBehind || b.movesStartBehind
  | group _ b => b.movesStartBehind
  | times _ _ _ b => b.movesStartBehind
  | atomic b => b.movesStartBehind
  | look behind _ b => b.movesStartBehind || (behind && (b.movesStart || !b.called.isEmpty))
  | ifGroup _ yes no => yes.movesStartBehind || no.movesStartBehind
  | ifLook behind _ test yes no =>
    test.movesStartBehind || (behind && (test.movesStart || !test.called.isEmpty)) || yes.movesStartBehind ||
      no.movesStartBehind
  | _ => false

theorem movesStartBehind_of_bodyOf {number : Nat} {n b : Node Nat} (h : n.bodyOf number = some b)
    (hn : n.movesStartBehind = false) : b.movesStartBehind = false := by
  induction n with
  | group m body ih =>
    rw [bodyOf] at h
    split at h
    · cases h; exact hn
    · exact ih h hn
  | seq a c iha ihc | alt a c iha ihc | ifGroup m a c iha ihc =>
    simp only [bodyOf, Option.orElse_eq_orElse, Option.orElse_eq_or, Option.or_eq_some_iff] at h
    simp only [movesStartBehind, Bool.or_eq_false_iff] at hn
    rcases h with h | ⟨-, h⟩
    · exact iha h hn.1
    · exact ihc h hn.2
  | times greed least most body ih | atomic body ih => exact ih h hn
  | look behind positive body ih =>
    simp only [movesStartBehind, Bool.or_eq_false_iff] at hn
    exact ih h hn.1
  | ifLook behind positive test yes no iht ihy ihn =>
    simp only [bodyOf, Option.orElse_eq_orElse, Option.orElse_eq_or, Option.or_eq_some_iff] at h
    simp only [movesStartBehind, Bool.or_eq_false_iff] at hn
    rcases h with h | ⟨-, h | ⟨-, h⟩⟩
    · exact iht h hn.1.1.1
    · exact ihy h hn.1.2
    · exact ihn h hn.2
  | _ => cases h

end SqlRegexp.Pattern.Node

namespace SqlRegexp.Match

open SqlRegexp.Pattern SqlRegexp.Unicode

/-! ### Forward runs -/

/-- A run of a pattern that calls no group is the same whatever calls do. -/
theorem run_of_called_eq_nil {cx : Setting} (calls calls' : Calls) {n : Node Nat} (hn : n.called = []) :
    run cx calls n = run cx calls' n := by
  induction n with
  | seq a b iha ihb =>
    obtain ⟨ha, hb⟩ := List.append_eq_nil_iff.mp hn
    funext d s rest
    cases d <;> simp only [run, iha ha, ihb hb]
  | alt a b iha ihb | ifGroup number a b iha ihb =>
    obtain ⟨ha, hb⟩ := List.append_eq_nil_iff.mp hn
    funext d s rest
    simp only [run, iha ha, ihb hb]
  | group number body ih | times greed least most body ih | atomic body ih | look behind positive body ih =>
    funext d s rest
    simp only [run, ih hn]
  | ifLook behind positive test yes no iht ihy ihn =>
    obtain ⟨htests, hno⟩ := List.append_eq_nil_iff.mp hn
    obtain ⟨htest, hyes⟩ := List.append_eq_nil_iff.mp htests
    funext d s rest
    simp only [run, iht htest, ihy hyes, ihn hno]
  | call number => cases hn
  | empty | fail | one t | folded codes | assertion a | notAssertion a | backref number k | keep => rfl

/-- A state not before `b`, whose match starts at `a` or after it. -/
structure State.Ahead (a b : Nat) (s : State) : Prop where
  le_pos : b ≤ s.pos
  le_start : a ≤ s.trail.start

/-- A runner that keeps to these bounds, whether it goes on or fails. -/
def Ahead (a b : Nat) (body : State → Rest → Attempt) : Prop :=
  ∀ (F : State → Prop) (s : State) (rest : Rest), s.Ahead a b →
    (∀ t, t.Ahead a b → (rest t).Ends (a ≤ ·.start) F) → (body s rest).Ends (a ≤ ·.start) F

section Ahead

variable {cx : Setting} {a b : Nat} {F : State → Prop} {s t : State} {rest : Rest}

theorem State.Ahead.fail_ends (hs : s.Ahead a b) : s.fail.Ends (a ≤ ·.start) F := hs.le_start

theorem State.Ahead.after {trail : Trail} (hs : s.Ahead a b) (h : a ≤ trail.start) : (s.after trail).Ahead a b :=
  ⟨hs.le_pos, h⟩

theorem State.Ahead.step (hs : s.Ahead a b) : (s.step .forward).Ahead a b :=
  ⟨Nat.le_trans hs.le_pos (Nat.le_succ _), hs.le_start⟩

theorem passCodes_ahead {k : Casing} {codes : List Nat} (hs : s.Ahead a b)
    (h : cx.passCodes k .forward codes s = some t) : t.Ahead a b := by
  induction codes generalizing s with
  | nil => cases h; exact hs
  | cons c cs ih =>
    rw [Setting.passCodes] at h
    split at h
    · split at h
      · exact ih hs.step h
      · cases h
    · cases h

theorem passFolded_ahead {rounds : Nat} {codes : List Nat} (hs : s.Ahead a b)
    (h : cx.passFolded .forward rounds codes s = some t) : t.Ahead a b := by
  induction rounds generalizing s codes with
  | zero =>
    cases codes with
    | nil => cases h; exact hs
    | cons c cs => cases h
  | succ rounds ih =>
    cases codes with
    | nil => cases h; exact hs
    | cons c cs =>
      cases hn : cx.next? .forward s.pos with
      | none => simp [Setting.passFolded, hn] at h
      | some n =>
        simp only [Setting.passFolded, hn] at h
        split at h
        · exact ih hs.step h
        · cases h

theorem passGroup_ahead {k : Casing} {extent : Span} (hs : s.Ahead a b)
    (h : cx.passGroup k .forward extent s = some t) : t.Ahead a b := by
  unfold Setting.passGroup at h
  split at h
  · exact passFolded_ahead hs h
  · exact passCodes_ahead hs h

theorem andThen_ahead {reached : Option State} (hs : s.Ahead a b) (hreached : ∀ t, reached = some t → t.Ahead a b)
    (hrest : ∀ t, t.Ahead a b → (rest t).Ends (a ≤ ·.start) F) : (s.andThen reached rest).Ends (a ≤ ·.start) F := by
  unfold State.andThen
  cases hr : reached with
  | none => exact hs.fail_ends
  | some t => exact hrest t (hreached t hr)

theorem fromPlace_ends {place : Option DeadEnd} {goOn : Unit → Attempt} (hs : s.Ahead a b)
    (h : (goOn ()).Ends (a ≤ ·.start) F) : (fromPlace place s goOn).Ends (a ≤ ·.start) F := by
  unfold fromPlace
  cases place with
  | none => exact h
  | some e =>
    dsimp only
    split
    · exact hs.fail_ends
    · exact h.orElse fun trail htrail => htrail

theorem rounds_ahead {body : State → Rest → Attempt} (hbody : Ahead a b body) {greed : Greed} {least : Nat}
    {most : Option Nat} {entry : Option Nat} (hrest : ∀ t, t.Ahead a b → (rest t).Ends (a ≤ ·.start) F)
    (limit count : Nat) (s : State) (hs : s.Ahead a b) :
    (rounds body greed least most entry rest limit count s).Ends (a ≤ ·.start) F := by
  induction limit generalizing count s with
  | zero => exact hs.fail_ends
  | succ limit ih =>
    have henter : ∀ trail, a ≤ trail.start → Attempt.Ends (a ≤ ·.start) F
        (if mayEnter most count then
          body (s.after trail) fun t =>
            if least ≤ count + 1 ∧ t.pos = s.pos ∧ t.changes = s.changes then rest t
            else rounds body greed least most entry rest limit (count + 1) t
        else .failed trail) := by
      intro trail htrail
      split
      · refine hbody F (s.after trail) _ (hs.after htrail) fun t ht => ?_
        split
        · exact hrest t ht
        · exact ih (count + 1) t ht
      · exact htrail
    have hleave : ∀ trail, a ≤ trail.start → Attempt.Ends (a ≤ ·.start) F
        (if least ≤ count then rest (s.after trail) else .failed trail) := by
      intro trail htrail
      split
      · exact hrest (s.after trail) (hs.after htrail)
      · exact htrail
    rw [rounds.eq_def]
    refine fromPlace_ends hs ?_
    cases greed with
    | greedy => exact (henter _ hs.le_start).orElse hleave
    | «lazy» => exact (hleave _ hs.le_start).orElse henter

/-- What is looked at behind leaves the start where it is. -/
theorem behind_ends {calls : Calls} {body : Node Nat} (hbody : a = 0 ∨ (body.movesStart = false ∧ body.called = []))
    (hs : s.Ahead a b) : (run cx calls body .backward s .matched).Ends (a ≤ ·.start) (a ≤ ·.trail.start) := by
  rcases hbody with rfl | ⟨hmoves, hcalled⟩
  · cases run cx calls body .backward s .matched <;> exact Nat.zero_le _
  · have K := start_kept cx (a ≤ ·)
    rw [run_of_called_eq_nil calls (fun _ _ s _ => s.fail) hcalled]
    exact run_kept K (fun _ _ _ _ _ hs _ => K.fail hs) body (fun h => absurd (hmoves.symm.trans h) Bool.false_ne_true)
      .backward _ s _ hs.le_start fun t ht => ht

/-- What is looked at in either direction keeps the bound of the start. -/
theorem looked_ends {calls : Calls} (behind : Bool) {body : Node Nat} (hforward : Ahead a b (run cx calls body .forward))
    (hbehind : behind = true → a = 0 ∨ (body.movesStart = false ∧ body.called = [])) (hs : s.Ahead a b) :
    (run cx calls body (if behind then .backward else .forward) s .matched).Ends (a ≤ ·.start) (a ≤ ·.trail.start) := by
  cases behind with
  | true => exact behind_ends (hbehind rfl) hs
  | false => exact hforward _ s .matched hs fun t ht => ht.le_start

/-- **A forward run never goes back** behind the place where it began. If nothing that is looked at behind moves the
start of the match, the start is not put before that place either. -/
theorem run_ahead {calls : Calls} (hab : a ≤ b) (hcalls : ∀ number, Ahead a b (calls number .forward)) (n : Node Nat)
    (hn : a = 0 ∨ n.movesStartBehind = false) : Ahead a b (run cx calls n .forward) := by
  -- forward runs only: what is behind is looked at backward, but the run goes on from where it stood
  induction n with
  | empty => intro F s rest hs hrest; exact hrest s hs
  | fail => intro F s rest hs _; exact hs.fail_ends
  | one t =>
    intro F s rest hs hrest
    rw [run]
    split
    · split
      · exact hrest _ hs.step
      · exact hs.fail_ends
    · exact hs.fail_ends
  | folded codes =>
    intro F s rest hs hrest
    rw [run]
    exact andThen_ahead hs (fun t ht => passFolded_ahead hs ht) hrest
  | assertion a =>
    intro F s rest hs hrest
    rw [run]
    split
    · exact hrest s hs
    · exact hs.fail_ends
  | notAssertion a =>
    intro F s rest hs hrest
    rw [run]
    split
    · exact hs.fail_ends
    · exact hrest s hs
  | seq c d ihc ihd =>
    intro F s rest hs hrest
    simp only [Node.movesStartBehind, Bool.or_eq_false_iff] at hn
    rw [run]
    exact ihc (hn.imp_right And.left) F s _ hs fun t ht => ihd (hn.imp_right And.right) F t rest ht hrest
  | alt c d ihc ihd =>
    intro F s rest hs hrest
    simp only [Node.movesStartBehind, Bool.or_eq_false_iff] at hn
    rw [run]
    refine (ihc (hn.imp_right And.left) F s rest hs hrest).orElse fun trail htrail => ?_
    exact ihd (hn.imp_right And.right) F (s.after trail) rest (hs.after htrail) hrest
  | group number body ih =>
    intro F s rest hs hrest
    rw [run]
    refine ih hn F s _ hs fun t ht => hrest _ ?_
    unfold State.capture
    split
    · exact ht
    · exact ⟨ht.le_pos, ht.le_start⟩
  | times greed least most body ih =>
    intro F s rest hs hrest
    rw [run]
    exact rounds_ahead (ih hn) hrest _ _ s.entering ⟨hs.le_pos, hs.le_start⟩
  | atomic body ih =>
    intro F s rest hs hrest
    rw [run]
    have hbody := ih hn (State.Ahead a b) s .matched hs fun t ht => ht
    split
    · next t h => rw [h] at hbody; exact hrest t hbody
    · next trail h => rw [h] at hbody; exact hbody
  | look behind positive body ih =>
    intro F s rest hs hrest
    simp only [Node.movesStartBehind, Bool.or_eq_false_iff, Bool.and_eq_false_iff, Bool.not_eq_false'] at hn
    rw [run]
    have hbody := looked_ends behind (ih (hn.imp_right And.left))
      (fun hb => hn.imp_right fun h => (h.2.resolve_left (by simp [hb])).imp_right List.isEmpty_iff.mp) hs
    split
    · next t h =>
      rw [h] at hbody
      split
      · exact hrest _ ⟨hs.le_pos, hbody⟩
      · exact hbody
    · next trail h =>
      rw [h] at hbody
      split
      · exact hbody
      · exact hrest _ (hs.after hbody)
  | backref number k =>
    intro F s rest hs hrest
    rw [run]
    refine andThen_ahead hs (fun t ht => ?_) hrest
    obtain ⟨extent, -, h⟩ := Option.bind_eq_some_iff.mp ht
    exact passGroup_ahead hs h
  | ifGroup number yes no ihy ihn =>
    intro F s rest hs hrest
    simp only [Node.movesStartBehind, Bool.or_eq_false_iff] at hn
    rw [run]
    split
    · exact ihy (hn.imp_right And.left) F s rest hs hrest
    · exact ihn (hn.imp_right And.right) F s rest hs hrest
  | ifLook behind positive test yes no iht ihy ihn =>
    intro F s rest hs hrest
    simp only [Node.movesStartBehind, Bool.or_eq_false_iff, Bool.and_eq_false_iff, Bool.not_eq_false'] at hn
    have hyes := ihy (hn.imp_right fun h => h.1.2) F
    have hno := ihn (hn.imp_right And.right) F
    rw [run]
    have htest := looked_ends behind (iht (hn.imp_right fun h => h.1.1.1))
      (fun hb => hn.imp_right fun h => (h.1.1.2.resolve_left (by simp [hb])).imp_right List.isEmpty_iff.mp) hs
    split
    · next t h =>
      rw [h] at htest
      split
      · exact hyes _ rest ⟨hs.le_pos, htest⟩ hrest
      · exact hno _ rest (hs.after htest) hrest
    · next trail h =>
      rw [h] at htest
      dsimp only
      split
      · exact hno _ rest (hs.after htest) hrest
      · exact hyes _ rest (hs.after htest) hrest
  | call number => intro F s rest hs hrest; exact hcalls number F s rest hs hrest
  | keep =>
    intro F s rest hs hrest
    rw [run]
    exact (hrest s.startingHere ⟨hs.le_pos, Nat.le_trans hab hs.le_pos⟩).orElse fun trail _ => hs.le_start

theorem callsTo_ahead (hab : a ≤ b) {whole : Node Nat} (hwhole : a = 0 ∨ whole.movesStartBehind = false)
    (depth number : Nat) : Ahead a b (callsTo cx whole depth number .forward) := by
  induction depth generalizing number with
  | zero => intro F s rest hs _; exact hs.fail_ends
  | succ depth ih =>
    intro F s rest hs hrest
    rw [callsTo]
    split
    · next body hbody =>
      have hpart : a = 0 ∨ body.movesStartBehind = false := by
        split at hbody
        · cases hbody; exact hwhole
        · exact hwhole.imp_right (Node.movesStartBehind_of_bodyOf hbody)
      exact run_ahead hab ih body hpart F s _ hs fun t ht => hrest _ ⟨ht.le_pos, ht.le_start⟩
    · exact hs.fail_ends

end Ahead

namespace Program

variable {p : Program} {cx : Setting}

/-- A match from a place stops there or after it, and so do all starts if nothing that is looked at behind moves one. -/
theorem matchFrom_ends {a pos : Nat} (hle : a ≤ pos) (hp : a = 0 ∨ p.node.movesStartBehind = false) :
    (p.matchFrom cx pos).Ends (a ≤ ·.start) (State.Ahead a pos) :=
  matchFrom_delivers (fun _ ht => ht.le_start) fun r _ _ hrest =>
    @run_ahead { cx with remembers := r } _ _ _ hle (callsTo_ahead hle hp _) p.node hp _ _ _
      ⟨Nat.le_refl pos, hle⟩ hrest

/-- A match never stops before the place where its attempt began. -/
theorem matchFrom_ahead {pos : Nat} {s : State} (h : p.matchFrom cx pos = .matched s) : pos ≤ s.pos := by
  have hends := @matchFrom_ends p cx _ _ (Nat.zero_le pos) (.inl rfl)
  rw [h] at hends
  exact hends.le_pos

/-- No part of a pattern moves the start of its match before the place where the attempt began. -/
def KeepsStartAhead (p : Program) : Prop := p.node.movesStart = false ∨ p.node.movesStartBehind = false

/-- Then a match starts where its attempt began or after it, and so does a failed attempt. -/
theorem KeepsStartAhead.matchFrom (h : p.KeepsStartAhead) (pos : Nat) :
    (p.matchFrom cx pos).Ends (pos ≤ ·.start) fun s => pos ≤ s.trail.start := by
  rcases h with hmoves | hbehind
  · have hstart := @matchFrom_start p cx pos hmoves
    cases hm : p.matchFrom cx pos <;> rw [hm] at hstart <;> exact Nat.le_of_eq hstart.symm
  · have hends := @matchFrom_ends p cx _ _ (Nat.le_refl pos) (.inr hbehind)
    cases hm : p.matchFrom cx pos with
    | matched s => rw [hm] at hends; exact hends.le_start
    | failed trail => rw [hm] at hends; exact hends

end Program

/-! ### Where the search began -/

/-- The same setting, for a search that began somewhere else. -/
def Setting.beganAt (cx : Setting) (place : Nat) : Setting := { cx with searchStart := place }

theorem Setting.satisfies_beganAt (cx : Setting) (place : Nat) {a : Assertion} (ha : (a == .searchStart) = false)
    (pos : Nat) : (cx.beganAt place).satisfies a pos = cx.satisfies a pos := by
  cases a <;> first | rfl | cases ha

theorem passCodes_beganAt (cx : Setting) (place : Nat) (k : Casing) (d : Direction) (codes : List Nat) (s : State) :
    (cx.beganAt place).passCodes k d codes s = cx.passCodes k d codes s := by
  induction codes generalizing s with
  | nil => rfl
  | cons c cs ih =>
    rw [Setting.passCodes, Setting.passCodes]
    simp only [ih]
    rfl

theorem passFolded_beganAt (cx : Setting) (place : Nat) (d : Direction) (rounds : Nat) (codes : List Nat) (s : State) :
    (cx.beganAt place).passFolded d rounds codes s = cx.passFolded d rounds codes s := by
  induction rounds generalizing s codes with
  | zero => cases codes <;> rfl
  | succ rounds ih =>
    cases codes with
    | nil => rfl
    | cons c cs =>
      simp only [Setting.passFolded, ih]
      rfl

theorem passGroup_beganAt (cx : Setting) (place : Nat) (k : Casing) (d : Direction) (extent : Span) (s : State) :
    (cx.beganAt place).passGroup k d extent s = cx.passGroup k d extent s := by
  simp only [Setting.passGroup, passFolded_beganAt, passCodes_beganAt]
  rfl

/-- Without `\G` a pattern runs alike wherever the search began. -/
theorem run_beganAt (cx : Setting) (place : Nat) (calls : Calls) {n : Node Nat} (hn : n.asksSearchStart = false) :
    run (cx.beganAt place) calls n = run cx calls n := by
  induction n with
  | assertion a | notAssertion a =>
    funext d s rest
    rw [run, run, Setting.satisfies_beganAt cx place hn]
  | folded codes =>
    funext d s rest
    rw [run, run, passFolded_beganAt]
  | seq a b iha ihb =>
    simp only [Node.asksSearchStart, Bool.or_eq_false_iff] at hn
    funext d s rest
    cases d <;> simp only [run, iha hn.1, ihb hn.2]
  | alt a b iha ihb | ifGroup number a b iha ihb =>
    simp only [Node.asksSearchStart, Bool.or_eq_false_iff] at hn
    funext d s rest
    simp only [run, iha hn.1, ihb hn.2]
  | atomic body ih | look behind positive body ih =>
    funext d s rest
    simp only [run, ih hn]
  | group number body ih | times greed least most body ih =>
    funext d s rest
    simp only [run, ih hn]
    rfl
  | backref number k =>
    funext d s rest
    simp only [run, passGroup_beganAt]
  | ifLook behind positive test yes no iht ihy ihn =>
    simp only [Node.asksSearchStart, Bool.or_eq_false_iff] at hn
    funext d s rest
    simp only [run, iht hn.1.1, ihy hn.1.2, ihn hn.2]
  | empty | fail | one t | call number | keep => rfl

theorem callsTo_beganAt (cx : Setting) (place : Nat) {whole : Node Nat} (hwhole : whole.asksSearchStart = false)
    (depth : Nat) : callsTo (cx.beganAt place) whole depth = callsTo cx whole depth := by
  induction depth with
  | zero => rfl
  | succ depth ih =>
    funext number d s rest
    rw [callsTo, callsTo, ih]
    split
    · next body hbody =>
      have hnone : body.asksSearchStart = false := by
        split at hbody
        · cases hbody; exact hwhole
        · exact Node.asksSearchStart_of_bodyOf hbody hwhole
      rw [run_beganAt cx place _ hnone]
    · rfl

namespace Program

variable {p : Program}

section Began

variable (cx : Setting) (place : Nat) (hp : p.node.asksSearchStart = false)

include hp

theorem runFrom_beganAt (pos : Nat) (rest : Rest) :
    p.runFrom (cx.beganAt place) pos rest = p.runFrom cx pos rest := by
  unfold runFrom
  rw [run_beganAt cx place _ hp, callsTo_beganAt cx place hp]
  rfl

theorem improve_beganAt (pos : Nat) (among : State → Bool) (measure : State → Nat) (tries : Nat) (s : State) :
    p.improve (cx.beganAt place) pos among measure tries s = p.improve cx pos among measure tries s := by
  induction tries generalizing s with
  | zero => rfl
  | succ tries ih =>
    rw [improve, improve]
    simp only [runFrom_beganAt cx place hp, ih]
    rfl

theorem best_beganAt (pos : Nat) (measures : List (State → Nat)) (among : State → Bool) (s : State) :
    p.best (cx.beganAt place) pos measures among s = p.best cx pos measures among s := by
  induction measures generalizing among s with
  | nil => rfl
  | cons measure measures ih =>
    rw [best, best]
    simp only [improve_beganAt cx place hp, ih]
    rfl

/-- Without `\G` it does not matter for a match where the search began. -/
theorem matchFrom_beganAt (pos : Nat) : p.matchFrom (cx.beganAt place) pos = p.matchFrom cx pos := by
  have hlongest : ∀ s, p.longestEnd (cx.beganAt place) pos s = p.longestEnd cx pos s := by
    intro s
    unfold longestEnd
    rw [improve_beganAt cx place hp]
    exact best_beganAt { cx with remembers := false } place hp pos _ _ _
  unfold matchFrom
  simp only [runFrom_beganAt cx place hp, hlongest]

end Began

/-! ### Searches -/

/-- The first match from a place on, as `firstFrom` finds it, with the place where its attempt began. -/
def attemptFrom (p : Program) (cx : Setting) : (tries pos : Nat) → Option (Nat × State)
  | 0, _ => none
  | tries + 1, pos =>
    if cx.text.size < pos then none
    else if !p.mayStart cx pos then attemptFrom p cx tries (pos + 1)
    else match p.matchFrom cx pos with
      | .matched s => some (pos, s)
      | .failed trail => attemptFrom p cx tries (trail.start + 1)

theorem map_snd_attemptFrom (cx : Setting) (tries pos : Nat) :
    (p.attemptFrom cx tries pos).map Prod.snd = p.firstFrom cx tries pos := by
  induction tries generalizing pos with
  | zero => rfl
  | succ tries ih =>
    rw [attemptFrom, firstFrom]
    split
    · rfl
    · split
      · exact ih _
      · cases p.matchFrom cx pos with
        | matched s => rfl
        | failed trail => exact ih _

theorem matchFrom_of_attemptFrom {cx : Setting} {tries pos b : Nat} {s : State}
    (h : p.attemptFrom cx tries pos = some (b, s)) : b ≤ cx.text.size ∧ p.matchFrom cx b = .matched s := by
  induction tries generalizing pos with
  | zero => cases h
  | succ tries ih =>
    rw [attemptFrom] at h
    split at h
    · cases h
    · next hle =>
      split at h
      · exact ih h
      · split at h
        · next t ht =>
          cases h
          exact ⟨by omega, ht⟩
        · exact ih h

/-- Where no start is moved back, a failed attempt is followed by one further on. -/
theorem le_of_attemptFrom {cx : Setting} (hp : p.KeepsStartAhead) {tries pos b : Nat} {s : State}
    (h : p.attemptFrom cx tries pos = some (b, s)) : pos ≤ b := by
  induction tries generalizing pos with
  | zero => cases h
  | succ tries ih =>
    rw [attemptFrom] at h
    split at h
    · cases h
    · split at h
      · have := ih h
        omega
      · have hstart := @KeepsStartAhead.matchFrom p cx hp pos
        split at h
        · cases h
          exact Nat.le_refl _
        · next trail ht =>
          rw [ht] at hstart
          have : trail.start + 1 ≤ b := ih h
          have : pos ≤ trail.start := hstart
          omega

/-- The match that a search finds, with the place where its attempt began. -/
def attempt? (p : Program) (text : Array Char) (pos : Nat) : Option (Nat × Found) :=
  let pos := min pos text.size
  (p.attemptFrom (p.setting text pos) (text.size + 1 - pos) pos).map fun a => (a.1, a.2.found)

theorem search_eq_attempt? (text : Array Char) (pos : Nat) :
    p.search text pos = (p.attempt? text pos).map Prod.snd := by
  unfold search attempt?
  simp only [← map_snd_attemptFrom, Option.map_map]
  rfl

section Attempt

variable {text : Array Char} {pos b : Nat} {m : Found}

theorem exists_matchFrom_of_attempt? (h : p.attempt? text pos = some (b, m)) :
    b ≤ text.size ∧ ∃ s, p.matchFrom (p.setting text (min pos text.size)) b = .matched s ∧ s.found = m := by
  obtain ⟨⟨b', s⟩, hs, heq⟩ := Option.map_eq_some_iff.mp h
  obtain ⟨rfl, rfl⟩ := Prod.mk.inj heq
  obtain ⟨hle, hm⟩ := matchFrom_of_attemptFrom hs
  exact ⟨hle, s, hm, rfl⟩

theorem le_stop_of_attempt? (h : p.attempt? text pos = some (b, m)) : b ≤ m.stop := by
  obtain ⟨-, s, hs, rfl⟩ := exists_matchFrom_of_attempt? h
  exact matchFrom_ahead hs

/-- Where no start is moved back, an attempt does not begin before the cursor, and its match does not start before it. -/
theorem le_start_of_attempt? (hp : p.KeepsStartAhead) (h : p.attempt? text pos = some (b, m)) :
    min pos text.size ≤ b ∧ b ≤ m.start := by
  obtain ⟨⟨b', s⟩, hs, heq⟩ := Option.map_eq_some_iff.mp h
  obtain ⟨rfl, rfl⟩ := Prod.mk.inj heq
  have hstart := @KeepsStartAhead.matchFrom p (p.setting text (min pos text.size)) hp b'
  rw [(matchFrom_of_attemptFrom hs).2] at hstart
  exact ⟨le_of_attemptFrom hp hs, hstart⟩

/-- Without `\K` a match starts where its attempt began, and not before the cursor. -/
theorem start_of_attempt? (hp : p.node.movesStart = false) (h : p.attempt? text pos = some (b, m)) :
    m.start = b ∧ min pos text.size ≤ b := by
  obtain ⟨-, s, hs, rfl⟩ := exists_matchFrom_of_attempt? h
  have hstart := @matchFrom_start p (p.setting text (min pos text.size)) b hp
  rw [hs] at hstart
  exact ⟨hstart, (le_start_of_attempt? (.inl hp) h).1⟩

/-- **Without `\G` a match is found again** at the place where its attempt began. -/
theorem matchAt_of_attempt? (hp : p.node.asksSearchStart = false) (h : p.attempt? text pos = some (b, m)) :
    p.matchAt text b = some m := by
  obtain ⟨hle, s, hs, rfl⟩ := exists_matchFrom_of_attempt? h
  have hagain : p.matchFrom (p.setting text b) b = .matched s := by
    rw [← hs]
    exact matchFrom_beganAt (p.setting text (min pos text.size)) b hp b
  simp only [matchAt, Nat.min_eq_left hle, hagain]
  rfl

end Attempt

end Program

end SqlRegexp.Match
