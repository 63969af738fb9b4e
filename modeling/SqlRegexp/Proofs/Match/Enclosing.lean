import Mathlib.Data.List.Forall2
import Mathlib.Tactic.Common
import SqlRegexp.Proofs.Match.Attempts
import SqlRegexp.Proofs.Match.Renumbering

/-!
Patterns in a group of their own.

`Program.enclosed` puts a pattern into group 1 and raises the numbers of all its groups. Each step from a run to a
search is followed: `callsTo_enclosed` for the depth of calls, `runFrom_enclosed`, `improve_enclosed` and
`matchFrom_enclosed` for attempts, and **`attempt?_enclosed`** for searches: the enclosed pattern finds the matches of
the pattern, and group 1 reaches from the place of the attempt to the end of the match.
-/

namespace SqlRegexp.Match

open SqlRegexp.Pattern SqlRegexp.Unicode

namespace State

/-- The state after the text from a place on has been kept as a group in front of all others. -/
def inGroup (s : State) (a : Nat) : State := { s with groups := some ⟨min a s.pos, max a s.pos⟩ :: s.groups }

theorem initial_succ (pos count : Nat) : initial pos (count + 1) = (initial pos count).behindGroup := rfl

/-- No reference asks for the group in front, so that keeping it changes nothing else. -/
theorem behindGroup_capture_one (s : State) (referenced : List Nat) (a b : Nat) :
    s.behindGroup.capture (referenced.map raised) 1 a b =
      { s with groups := some ⟨min a b, max a b⟩ :: s.groups } := by
  have hnot : (referenced.map raised).contains 1 = false := by
    simp [List.contains_eq_mem, raised_ne_one]
  unfold capture
  rw [if_neg Nat.one_ne_zero, hnot]
  rfl

end State

namespace Program

/-- A pattern in a group of its own, which comes before all its groups. -/
def enclosed (p : Program) : Program :=
  ⟨.group 1 (p.node.renumbered raised), p.groupCount + 1, p.longest, p.repertoire⟩

variable {p : Program}

@[simp] theorem enclosed_node : p.enclosed.node = .group 1 (p.node.renumbered raised) := rfl

@[simp] theorem enclosed_groupCount : p.enclosed.groupCount = p.groupCount + 1 := rfl

theorem setting_enclosed (text : Array Char) (place : Nat) :
    p.enclosed.setting text place = (p.setting text place).raised := by
  simp [setting, Setting.raised, Node.referenced, Node.movesStart, enclosed]

theorem callLimit_enclosed (cx : Setting) : p.enclosed.callLimit cx.raised = p.callLimit cx := by
  simp [callLimit, Node.called, Setting.raised]

/-- Calls of an enclosed pattern go like those of the pattern itself, however deep they go. -/
theorem callsTo_enclosed (cx : Setting) (depth number : Nat) (d : Direction) :
    Alike (callsTo cx p.node depth number d) (callsTo cx.raised p.enclosed.node depth (raised number) d) := by
  induction depth generalizing number d with
  | zero => intro g s rest rest' _; rfl
  | succ depth ih =>
    intro g s rest rest' hrest
    rw [callsTo, callsTo]
    cases number with
    | zero =>
      -- the enclosing group keeps an extent, which is forgotten after the call
      show run cx.raised _ (.group 1 (p.node.renumbered raised)) d s.behindGroup _ = _
      rw [run]
      refine run_renumbered (fun number d => ih number d) p.node d g s _ _ fun t => ?_
      rw [← hrest]
      show rest' { t.behindGroup.capture (cx.referenced.map raised) 1 s.pos t.pos with groups := _ } = _
      rw [State.behindGroup_capture_one]
      rfl
    | succ n =>
      have hbody : p.enclosed.node.bodyOf (raised (n + 1)) =
          (p.node.bodyOf (n + 1)).map (Node.renumbered raised) := by
        rw [enclosed_node, Node.bodyOf, if_neg (Ne.symm (raised_ne_one _)),
          Node.bodyOf_renumbered raised_injective]
      rw [if_neg (Nat.succ_ne_zero n), if_neg (mt raised_eq_zero.mp (Nat.succ_ne_zero n)), hbody]
      cases p.node.bodyOf (n + 1) with
      | none => rfl
      | some body =>
        refine run_renumbered (fun number d => ih number d) body d g s _ _ fun t => ?_
        rw [← hrest]
        rfl

/-- A run of an enclosed pattern goes like one of the pattern itself. -/
theorem runFrom_enclosed (cx : Setting) (pos : Nat) (g : State → State) {rest rest' : Rest}
    (hrest : ∀ t, rest' (t.inGroup pos) = (rest t).mapState g) :
    p.enclosed.runFrom cx.raised pos rest' = (p.runFrom cx pos rest).mapState g := by
  unfold runFrom
  rw [callLimit_enclosed, enclosed_groupCount, State.initial_succ, enclosed_node, run]
  refine run_renumbered (fun number d => callsTo_enclosed cx _ number d) p.node .forward g _ _ _ fun t => ?_
  rw [← hrest]
  exact congrArg rest' (State.behindGroup_capture_one t cx.referenced pos t.pos)

theorem improve_enclosed (cx : Setting) (pos : Nat) {among among' : State → Bool} {measure measure' : State → Nat}
    (hamong : ∀ t, among' (t.inGroup pos) = among t) (hmeasure : ∀ t, measure' (t.inGroup pos) = measure t)
    (tries : Nat) (s : State) :
    p.enclosed.improve cx.raised pos among' measure' tries (s.inGroup pos) =
      (p.improve cx pos among measure tries s).inGroup pos := by
  induction tries generalizing s with
  | zero => rfl
  | succ tries ih =>
    rw [improve, improve]
    simp only [hmeasure]
    show (if measure s = cx.text.size then _ else _) = _
    split
    · rfl
    · have hbetter : ∀ t, (fun t => if among' t && decide (measure s < measure' t) then .matched t else t.fail)
          (t.inGroup pos) = Attempt.mapState (·.inGroup pos)
            (if among t && decide (measure s < measure t) then .matched t else t.fail) := by
        intro t
        dsimp only
        rw [hamong, hmeasure]
        split <;> rfl
      rw [runFrom_enclosed cx pos _ hbetter]
      cases p.runFrom cx pos fun t => if among t && decide (measure s < measure t) then .matched t else t.fail with
      | matched t => exact ih t
      | failed trail => rfl

/-- No end is better by a measure that is the same for all those that come into question. -/
theorem improve_eq_self (cx : Setting) (pos : Nat) {among : State → Bool} {measure : State → Nat} (tries : Nat)
    {s : State} (h : ∀ t, among t = true → measure t ≤ measure s) : p.improve cx pos among measure tries s = s := by
  cases tries with
  | zero => rfl
  | succ tries =>
    rw [improve]
    split
    · rfl
    · have K : Kept cx True (fun _ => True) (fun _ => True) := by constructor <;> intros <;> trivial
      have hworse : ∀ t, True → Attempt.Ends (fun _ => True) (fun _ => False)
          (if among t && decide (measure s < measure t) then .matched t else t.fail) := by
        intro t _
        split
        · next hb =>
          obtain ⟨hmem, hlt⟩ := Bool.and_eq_true_iff.mp hb
          exact absurd (of_decide_eq_true hlt) (Nat.not_lt.mpr (h t hmem))
        · trivial
      have hrun : (p.runFrom cx pos _).Ends (fun _ => True) fun _ => False :=
        p.runFrom_kept K (fun _ => trivial) trivial hworse
      split
      · next t ht => rw [ht] at hrun; exact hrun.elim
      · rfl

theorem best_enclosed (cx : Setting) (pos : Nat) {measures measures' : List (State → Nat)}
    (hmeasures : List.Forall₂ (fun f' f => ∀ t, f' (t.inGroup pos) = f t) measures' measures)
    {among among' : State → Bool} (hamong : ∀ t, among' (t.inGroup pos) = among t) (s : State) :
    p.enclosed.best cx.raised pos measures' among' (s.inGroup pos) = (p.best cx pos measures among s).inGroup pos := by
  induction hmeasures generalizing among among' s with
  | nil => rfl
  | cons hf _ ih =>
    rw [best, best]
    have hsize : cx.raised.text.size = cx.text.size := rfl
    rw [hsize, improve_enclosed cx pos hamong hf]
    refine ih (fun t => ?_) _
    rw [hamong, hf, hf]

/-- The longest match is the same: of the group in front all ends in question have the same length. -/
theorem longestEnd_enclosed (cx : Setting) (pos : Nat) (s : State) :
    p.enclosed.longestEnd cx.raised pos (s.inGroup pos) = (p.longestEnd cx pos s).inGroup pos := by
  have hsize : cx.raised.text.size = cx.text.size := rfl
  unfold longestEnd
  simp only [hsize]
  have hpos : ∀ t : State, State.pos (t.inGroup pos) = t.pos := fun t => rfl
  have htrue : ∀ t : State, (fun _ => true) (t.inGroup pos) = (fun _ => true) t := fun t => rfl
  rw [improve_enclosed cx pos htrue hpos]
  generalize p.improve cx pos (fun _ => true) State.pos (cx.text.size + 1) s = farthest
  -- the length of the group in front, as a measure of the ends of the pattern itself
  let whole : State → Nat := fun t => max pos t.pos - min pos t.pos
  have hwhole : ∀ t : State, (t.pos == farthest.pos) = true → whole t = whole farthest := by
    intro t ht
    rw [show whole t = max pos t.pos - min pos t.pos from rfl, eq_of_beq ht]
  have hlengths : List.Forall₂ (fun f' f => ∀ t : State, f' (t.inGroup pos) = f t)
      ((List.range (p.groupCount + 1)).map fun i (t : State) => t.groupLength (i + 1))
      (whole :: (List.range p.groupCount).map fun i (t : State) => t.groupLength (i + 1)) := by
    rw [List.range_succ_eq_map, List.map_cons, List.map_map]
    refine .cons (fun t => rfl) (List.forall₂_map_left_iff.mpr (List.forall₂_map_right_iff.mpr ?_))
    exact List.forall₂_same.mpr fun i _ t => rfl
  have hbest : p.best { cx with remembers := false } pos
      (whole :: (List.range p.groupCount).map fun i (t : State) => t.groupLength (i + 1))
      (fun t => t.pos == farthest.pos) farthest =
      p.best { cx with remembers := false } pos
        ((List.range p.groupCount).map fun i (t : State) => t.groupLength (i + 1))
        (fun t => t.pos == farthest.pos) farthest := by
    rw [best, improve_eq_self _ _ _ fun t ht => Nat.le_of_eq (hwhole t ht)]
    congr 1
    funext t
    cases ht : t.pos == farthest.pos with
    | false => rfl
    | true => simp [hwhole t ht]
  rw [← hbest]
  exact best_enclosed { cx with remembers := false } pos hlengths (fun t => rfl) farthest

/-- An attempt with an enclosed pattern comes to the same end, and the group in front reaches from the place of the
attempt to that end. -/
theorem matchFrom_enclosed (cx : Setting) (pos : Nat) :
    p.enclosed.matchFrom cx.raised pos = (p.matchFrom cx pos).mapState (·.inGroup pos) := by
  have hmatched : ∀ t : State, Attempt.matched (t.inGroup pos) = (Attempt.matched t).mapState (·.inGroup pos) :=
    fun t => rfl
  unfold matchFrom
  rw [runFrom_enclosed cx pos _ hmatched]
  cases p.runFrom cx pos .matched with
  | matched s =>
    show Attempt.matched (if p.longest then _ else _) = .matched (State.inGroup (if p.longest then _ else _) pos)
    cases p.longest with
    | false => rfl
    | true => exact congrArg Attempt.matched (longestEnd_enclosed cx pos s)
  | failed trail => rfl

theorem mayStart_enclosed (cx : Setting) (pos : Nat) : p.enclosed.mayStart cx.raised pos = p.mayStart cx pos := by
  simp only [mayStart, enclosed, Node.opening, Node.opening_relabelled]
  rfl

theorem attemptFrom_enclosed (cx : Setting) (tries pos : Nat) :
    p.enclosed.attemptFrom cx.raised tries pos =
      (p.attemptFrom cx tries pos).map fun a => (a.1, a.2.inGroup a.1) := by
  induction tries generalizing pos with
  | zero => rfl
  | succ tries ih =>
    rw [attemptFrom, attemptFrom, mayStart_enclosed, matchFrom_enclosed]
    show (if cx.text.size < pos then _ else _) = _
    split
    · rfl
    · split
      · exact ih _
      · cases p.matchFrom cx pos with
        | matched s => rfl
        | failed trail => exact ih _

end Program

/-- The match of an enclosed pattern in an attempt from a place. -/
def Found.enclosedFrom (m : Found) (b : Nat) : Found := ⟨m.start, m.stop, some ⟨b, m.stop⟩ :: m.groups⟩

theorem State.found_inGroup {s : State} {b : Nat} (h : b ≤ s.pos) : (s.inGroup b).found = s.found.enclosedFrom b := by
  unfold inGroup found Found.enclosedFrom
  rw [Nat.min_eq_left h, Nat.max_eq_right h]

namespace Program

variable {p : Program}

/-- **A search with an enclosed pattern** finds the match of the pattern. Group 1 reaches from the place of the attempt
to the end of the match, and every other group is one further on. -/
theorem attempt?_enclosed (text : Array Char) (pos : Nat) :
    p.enclosed.attempt? text pos = (p.attempt? text pos).map fun a => (a.1, a.2.enclosedFrom a.1) := by
  simp only [attempt?, setting_enclosed, attemptFrom_enclosed]
  generalize min pos text.size = pos
  cases h : p.attemptFrom (p.setting text pos) (text.size + 1 - pos) pos with
  | none => rfl
  | some a =>
    have hle := matchFrom_ahead (matchFrom_of_attemptFrom h).2
    exact congrArg (fun m => some (a.1, m)) (State.found_inGroup hle)

theorem matchAt_enclosed {text : Array Char} {b : Nat} (hb : b ≤ text.size) :
    p.enclosed.matchAt text b = (p.matchAt text b).map (·.enclosedFrom b) := by
  simp only [matchAt, Nat.min_eq_left hb, setting_enclosed, matchFrom_enclosed]
  cases h : p.matchFrom (p.setting text b) b with
  | matched s => exact congrArg some (State.found_inGroup (matchFrom_ahead h))
  | failed trail => rfl

end Program

end SqlRegexp.Match
