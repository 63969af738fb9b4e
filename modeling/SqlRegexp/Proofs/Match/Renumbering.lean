import Mathlib.Tactic.Common
import SqlRegexp.Match.Search

/-!
Putting a pattern into a group of its own.

`Node.renumbered f` changes every number of a group by `f`, that of a group as well as those that the pattern refers
to. `Program.enclosed` raises all numbers by one and puts the pattern into group 1. A run of the enclosed pattern goes
step by step like a run of the pattern, in states that have one more group in front (`State.behindGroup`):
`run_renumbered` is the induction over patterns, `callsTo_enclosed` the one over the depth of calls, and
`Program.runFrom_enclosed` what comes of it for whole patterns.
-/

namespace SqlRegexp.Pattern.Node

section Relabelled

variable {ρ σ τ : Type}

/-- A pattern with every reference and every number of a group changed. -/
def relabelled (f : ρ → σ) (g : Nat → Nat) : Node ρ → Node σ
  | empty => .empty
  | fail => .fail
  | one t => .one t
  | folded codes => .folded codes
  | assertion a => .assertion a
  | notAssertion a => .notAssertion a
  | seq a b => .seq (a.relabelled f g) (b.relabelled f g)
  | alt a b => .alt (a.relabelled f g) (b.relabelled f g)
  | group n b => .group (g n) (b.relabelled f g)
  | times greed least most b => .times greed least most (b.relabelled f g)
  | atomic b => .atomic (b.relabelled f g)
  | look behind positive b => .look behind positive (b.relabelled f g)
  | backref r k => .backref (f r) k
  | ifGroup r yes no => .ifGroup (f r) (yes.relabelled f g) (no.relabelled f g)
  | ifLook behind positive test yes no =>
    .ifLook behind positive (test.relabelled f g) (yes.relabelled f g) (no.relabelled f g)
  | call r => .call (f r)
  | keep => .keep

variable {f : ρ → σ} {g : Nat → Nat}

@[simp] theorem isSingle_relabelled (n : Node ρ) : (n.relabelled f g).isSingle = n.isSingle := by
  induction n with
  | group m b ih => exact ih
  | _ => rfl

@[simp] theorem movesStart_relabelled (n : Node ρ) : (n.relabelled f g).movesStart = n.movesStart := by
  induction n <;> simp_all [relabelled, movesStart]

@[simp] theorem opening_relabelled (n : Node ρ) : (n.relabelled f g).opening = n.opening := by
  induction n <;> simp_all [relabelled, opening]

end Relabelled

/-- A pattern with every number of a group changed, that of a group as well as those referred to. -/
abbrev renumbered (f : Nat → Nat) (n : Node Nat) : Node Nat := n.relabelled f f

variable {f : Nat → Nat}

@[simp] theorem referenced_renumbered (n : Node Nat) : (n.renumbered f).referenced = n.referenced.map f := by
  induction n <;> simp_all [relabelled, referenced]

@[simp] theorem called_renumbered (n : Node Nat) : (n.renumbered f).called = n.called.map f := by
  induction n <;> simp_all [relabelled, called]

theorem bodyOf_renumbered (hf : f.Injective) (number : Nat) (n : Node Nat) :
    (n.renumbered f).bodyOf (f number) = (n.bodyOf number).map (renumbered f) := by
  induction n with
  | group m b ih =>
    simp only [relabelled, bodyOf, hf.eq_iff]
    split
    · rfl
    · exact ih
  | seq a b iha ihb | alt a b iha ihb | ifGroup m a b iha ihb =>
    simp only [relabelled, bodyOf, iha, ihb, Option.orElse_eq_orElse, Option.orElse_eq_or]
    cases a.bodyOf number <;> rfl
  | times greed least most b ih | atomic b ih | look behind positive b ih => exact ih
  | ifLook behind positive test yes no iht ihy ihn =>
    simp only [relabelled, bodyOf, iht, ihy, ihn, Option.orElse_eq_orElse, Option.orElse_eq_or]
    cases test.bodyOf number <;> cases yes.bodyOf number <;> rfl
  | _ => rfl

end SqlRegexp.Pattern.Node

namespace SqlRegexp.Match

open SqlRegexp.Pattern SqlRegexp.Unicode

/-- The number of a group after one more group has been opened before it. The number 0 stands for no group. -/
def raised (n : Nat) : Nat := if n = 0 then 0 else n + 1

theorem raised_of_pos {n : Nat} (h : 1 ≤ n) : raised n = n + 1 := if_neg (Nat.ne_of_gt h)

theorem raised_injective : raised.Injective := by
  intro a b h
  unfold raised at h
  split at h <;> split at h <;> omega

theorem raised_ne_one (n : Nat) : raised n ≠ 1 := by
  unfold raised
  split <;> omega

theorem raised_eq_zero {n : Nat} : raised n = 0 ↔ n = 0 := by
  unfold raised
  split <;> omega

theorem contains_map_raised (ns : List Nat) (n : Nat) : (ns.map raised).contains (raised n) = ns.contains n := by
  simp [List.contains_eq_mem, List.mem_map, raised_injective.eq_iff]

namespace Attempt

/-- Changes the state at the end of a way through. -/
def mapState (g : State → State) : Attempt → Attempt
  | matched s => matched (g s)
  | failed trail => failed trail

theorem mapState_orElse (g : State → State) (o : Attempt) (other other' : Trail → Attempt)
    (h : ∀ trail, other' trail = (other trail).mapState g) :
    (o.mapState g).orElse other' = (o.orElse other).mapState g := by
  cases o with
  | matched s => rfl
  | failed trail => exact h trail

end Attempt

namespace State

/-- The state with one more group in front, which has not matched. -/
def behindGroup (s : State) : State := { s with groups := none :: s.groups }

@[simp] theorem behindGroup_pos (s : State) : s.behindGroup.pos = s.pos := rfl

theorem behindGroup_step (s : State) (d : Direction) : (s.step d).behindGroup = s.behindGroup.step d := by
  cases d <;> rfl

theorem span?_behindGroup (s : State) (n : Nat) : s.behindGroup.span? (raised n) = s.span? n := by
  unfold span? raised
  split
  · rfl
  · next hn =>
    obtain ⟨m, rfl⟩ := Nat.exists_eq_succ_of_ne_zero hn
    rfl

theorem behindGroup_capture (s : State) (referenced : List Nat) (n a b : Nat) :
    (s.capture referenced n a b).behindGroup = s.behindGroup.capture (referenced.map raised) (raised n) a b := by
  unfold capture
  simp only [raised_eq_zero, contains_map_raised, span?_behindGroup]
  split
  · rfl
  · next hn =>
    obtain ⟨m, rfl⟩ := Nat.exists_eq_succ_of_ne_zero hn
    rfl

end State

/-! ### Runs -/

/-- The setting in which the references of a pattern are raised. -/
def Setting.raised (cx : Setting) : Setting := { cx with referenced := cx.referenced.map Match.raised }

@[simp] theorem Setting.raised_next? (cx : Setting) (d : Direction) (pos : Nat) :
    cx.raised.next? d pos = cx.next? d pos := rfl

@[simp] theorem Setting.raised_repertoire (cx : Setting) : cx.raised.repertoire = cx.repertoire := rfl

section Pass

variable (cx : Setting)

theorem passCodes_raised (k : Casing) (d : Direction) (codes : List Nat) (s : State) :
    cx.raised.passCodes k d codes s.behindGroup = (cx.passCodes k d codes s).map State.behindGroup := by
  induction codes generalizing s with
  | nil => rfl
  | cons c cs ih =>
    rw [Setting.passCodes, Setting.passCodes]
    simp only [Setting.raised_next?, State.behindGroup_pos]
    cases cx.next? d s.pos with
    | none => rfl
    | some n =>
      dsimp only
      show (if k.same cx.repertoire c n then _ else none) = _
      split
      · rw [← State.behindGroup_step]
        exact ih _
      · rfl

theorem passFolded_raised (d : Direction) (rounds : Nat) (codes : List Nat) (s : State) :
    cx.raised.passFolded d rounds codes s.behindGroup = (cx.passFolded d rounds codes s).map State.behindGroup := by
  induction rounds generalizing s codes with
  | zero => cases codes <;> rfl
  | succ rounds ih =>
    cases codes with
    | nil => rfl
    | cons c cs =>
      cases hn : cx.next? d s.pos with
      | none => simp [Setting.passFolded, hn]
      | some n =>
        simp only [Setting.passFolded, Setting.raised_next?, Setting.raised_repertoire, State.behindGroup_pos, hn]
        cases Setting.stripFolding cx.repertoire _ (c :: cs) with
        | none => rfl
        | some left =>
          rw [← State.behindGroup_step]
          exact ih _ _

theorem passGroup_raised (k : Casing) (d : Direction) (extent : Span) (s : State) :
    cx.raised.passGroup k d extent s.behindGroup = (cx.passGroup k d extent s).map State.behindGroup := by
  unfold Setting.passGroup
  dsimp only
  split
  · exact passFolded_raised cx d _ _ s
  · exact passCodes_raised cx k d _ s

end Pass

/-- Two runners go alike, the second one in states with one more group in front. -/
def Alike (body body' : State → Rest → Attempt) : Prop :=
  ∀ (g : State → State) (s : State) (rest rest' : Rest), (∀ t, rest' t.behindGroup = (rest t).mapState g) →
    body' s.behindGroup rest' = (body s rest).mapState g

theorem fromPlace_behindGroup (g : State → State) (place : Option DeadEnd) (s : State) (goOn goOn' : Unit → Attempt)
    (h : goOn' () = (goOn ()).mapState g) :
    fromPlace place s.behindGroup goOn' = (fromPlace place s goOn).mapState g := by
  unfold fromPlace
  cases place with
  | none => exact h
  | some e =>
    show (if s.trail.deadEnds.contains e then s.fail else _) = _
    dsimp only
    split
    · rfl
    · rw [h]
      exact Attempt.mapState_orElse g _ _ _ fun trail => rfl

theorem andThen_behindGroup (g : State → State) (s : State) (reached : Option State) (rest rest' : Rest)
    (hrest : ∀ t, rest' t.behindGroup = (rest t).mapState g) :
    s.behindGroup.andThen (reached.map State.behindGroup) rest' = (s.andThen reached rest).mapState g := by
  cases reached with
  | none => rfl
  | some t => exact hrest t

theorem rounds_alike {body body' : State → Rest → Attempt} (hbody : Alike body body') (greed : Greed) (least : Nat)
    (most : Option Nat) (entry : Option Nat) (g : State → State) (rest rest' : Rest)
    (hrest : ∀ t, rest' t.behindGroup = (rest t).mapState g) (limit count : Nat) (s : State) :
    rounds body' greed least most entry rest' limit count s.behindGroup =
      (rounds body greed least most entry rest limit count s).mapState g := by
  induction limit generalizing count s with
  | zero => rfl
  | succ limit ih =>
    rw [rounds.eq_def, rounds.eq_def body]
    refine fromPlace_behindGroup g _ s _ _ ?_
    -- one more round, and no further round, each after something has been tried in vain
    have henter : ∀ trail, (if mayEnter most count then
          body' (s.behindGroup.after trail) fun t =>
            if least ≤ count + 1 ∧ t.pos = s.pos ∧ t.changes = s.changes then rest' t
            else rounds body' greed least most entry rest' limit (count + 1) t
        else .failed trail) =
        (if mayEnter most count then
          body (s.after trail) fun t =>
            if least ≤ count + 1 ∧ t.pos = s.pos ∧ t.changes = s.changes then rest t
            else rounds body greed least most entry rest limit (count + 1) t
        else .failed trail : Attempt).mapState g := by
      intro trail
      split
      · refine hbody g (s.after trail) _ _ fun t => ?_
        show (if least ≤ count + 1 ∧ t.pos = s.pos ∧ t.changes = s.changes then rest' t.behindGroup else _) = _
        split
        · exact hrest t
        · exact ih (count + 1) t
      · rfl
    have hleave : ∀ trail, (if least ≤ count then rest' (s.behindGroup.after trail) else .failed trail) =
        (if least ≤ count then rest (s.after trail) else .failed trail : Attempt).mapState g := by
      intro trail
      split
      · exact hrest (s.after trail)
      · rfl
    cases greed with
    | greedy =>
      exact (congrArg (Attempt.orElse · _) (henter s.trail)).trans (Attempt.mapState_orElse g _ _ _ hleave)
    | «lazy» =>
      exact (congrArg (Attempt.orElse · _) (hleave s.trail)).trans (Attempt.mapState_orElse g _ _ _ henter)

/-- **A renumbered pattern runs like the pattern**, with one more group in front of all others. -/
theorem run_renumbered {cx : Setting} {calls calls' : Calls}
    (hcalls : ∀ number d, Alike (calls number d) (calls' (raised number) d)) (n : Node Nat) (d : Direction) :
    Alike (run cx calls n d) (run cx.raised calls' (n.renumbered raised) d) := by
  -- by the pattern; the parts are run in the same states, but for the group in front
  induction n generalizing d with
  | empty => intro g s rest rest' hrest; exact hrest s
  | fail => intro g s rest rest' _; rfl
  | one t =>
    intro g s rest rest' hrest
    rw [Node.renumbered, Node.relabelled, run, run]
    simp only [Setting.raised_next?, State.behindGroup_pos]
    cases cx.next? d s.pos with
    | none => rfl
    | some m =>
      dsimp only
      show (if t.holds cx.repertoire m then _ else _) = _
      split
      · rw [← State.behindGroup_step]
        exact hrest _
      · rfl
  | folded codes =>
    intro g s rest rest' hrest
    rw [Node.renumbered, Node.relabelled, run, run, passFolded_raised]
    exact andThen_behindGroup g s _ rest rest' hrest
  | assertion a =>
    intro g s rest rest' hrest
    rw [Node.renumbered, Node.relabelled, run, run]
    show (if cx.satisfies a s.pos then _ else _) = _
    split
    · exact hrest s
    · rfl
  | notAssertion a =>
    intro g s rest rest' hrest
    rw [Node.renumbered, Node.relabelled, run, run]
    show (if cx.satisfies a s.pos then _ else _) = _
    split
    · rfl
    · exact hrest s
  | seq a b iha ihb =>
    intro g s rest rest' hrest
    cases d with
    | forward =>
      rw [Node.renumbered, Node.relabelled, run, run]
      exact iha .forward g s _ _ fun t => ihb .forward g t rest rest' hrest
    | backward =>
      rw [Node.renumbered, Node.relabelled, run, run]
      exact ihb .backward g s _ _ fun t => iha .backward g t rest rest' hrest
  | alt a b iha ihb =>
    intro g s rest rest' hrest
    rw [Node.renumbered, Node.relabelled, run, run, iha d g s rest rest' hrest]
    exact Attempt.mapState_orElse g _ _ _ fun trail => ihb d g (s.after trail) rest rest' hrest
  | group number body ih =>
    intro g s rest rest' hrest
    rw [Node.renumbered, Node.relabelled, run, run]
    refine ih d g s _ _ fun t => ?_
    rw [← hrest, State.behindGroup_capture]
    rfl
  | times greed least most body ih =>
    intro g s rest rest' hrest
    rw [Node.renumbered, Node.relabelled, run, run, Node.isSingle_relabelled]
    -- the limit counts the references, and raised they are as many
    have hlimit : cx.raised.roundLimit least = cx.roundLimit least := by
      simp [Setting.roundLimit, Setting.raised]
    rw [hlimit]
    exact rounds_alike (ih d) greed least most _ g rest rest' hrest _ 0 s.entering
  | atomic body ih =>
    intro g s rest rest' hrest
    rw [Node.renumbered, Node.relabelled, run, run, ih d State.behindGroup s .matched .matched fun t => rfl]
    cases run cx calls body d s .matched with
    | matched t => exact hrest t
    | failed trail => rfl
  | look behind positive body ih =>
    intro g s rest rest' hrest
    rw [Node.renumbered, Node.relabelled, run, run, ih _ State.behindGroup s .matched .matched fun t => rfl]
    cases run cx calls body (if behind then .backward else .forward) s .matched with
    | matched t =>
      show (if positive then _ else _) = _
      cases positive
      · rfl
      · exact hrest { t with pos := s.pos }
    | failed trail =>
      show (if positive then _ else _) = _
      cases positive
      · exact hrest (s.after trail)
      · rfl
  | backref number k =>
    intro g s rest rest' hrest
    rw [Node.renumbered, Node.relabelled, run, run, State.span?_behindGroup]
    rw [← andThen_behindGroup g s _ rest rest' hrest]
    congr 1
    cases s.span? number with
    | none => rfl
    | some extent => exact passGroup_raised cx k d extent s
  | ifGroup number yes no ihy ihn =>
    intro g s rest rest' hrest
    rw [Node.renumbered, Node.relabelled, run, run, State.span?_behindGroup]
    split
    · exact ihy d g s rest rest' hrest
    · exact ihn d g s rest rest' hrest
  | ifLook behind positive test yes no iht ihy ihn =>
    intro g s rest rest' hrest
    rw [Node.renumbered, Node.relabelled, run, run, iht _ State.behindGroup s .matched .matched fun t => rfl]
    cases run cx calls test (if behind then .backward else .forward) s .matched with
    | matched t =>
      show (if positive then _ else _) = _
      cases positive
      · exact ihn d g (s.after t.trail) rest rest' hrest
      · exact ihy d g { t with pos := s.pos } rest rest' hrest
    | failed trail =>
      show (if positive then _ else _) = _
      cases positive
      · exact ihy d g (s.after trail) rest rest' hrest
      · exact ihn d g (s.after trail) rest rest' hrest
  | call number => intro g s rest rest' hrest; exact hcalls number d g s rest rest' hrest
  | keep =>
    intro g s rest rest' hrest
    rw [Node.renumbered, Node.relabelled, run, run]
    show Attempt.orElse (rest' s.startingHere.behindGroup) _ = _
    rw [hrest]
    exact Attempt.mapState_orElse g _ _ _ fun trail => rfl

end SqlRegexp.Match
