import SqlRegexp.Proofs.Pattern.Arranging
import SqlRegexp.Proofs.Pattern.Pinned.Node

/-!
A pattern that asks for the end of no line is arranged as one (`arranged`), and stays one when its runs are formed
(`withRuns`): neither makes a place out of anything else.
-/

namespace SqlRegexp.Pattern

open SqlRegexp.Unicode

namespace Node

/-- Whether any of several patterns asks for the end of a line. -/
def anyAsks {ρ : Type} (ns : List (Node ρ)) : Bool := ns.any asksLineEnd

section AnyAsks

variable {ρ : Type}

@[simp] theorem anyAsks_nil : anyAsks ([] : List (Node ρ)) = false := rfl

@[simp] theorem anyAsks_cons (n : Node ρ) (ns : List (Node ρ)) : anyAsks (n :: ns) = (n.asksLineEnd || anyAsks ns) := rfl

@[simp] theorem anyAsks_append (ns ms : List (Node ρ)) : anyAsks (ns ++ ms) = (anyAsks ns || anyAsks ms) :=
  List.any_append

@[simp] theorem anyAsks_reverse (ns : List (Node ρ)) : anyAsks ns.reverse = anyAsks ns := List.any_reverse

theorem anyAsks_eq_false {ns : List (Node ρ)} : anyAsks ns = false ↔ ∀ n ∈ ns, n.asksLineEnd = false := by
  simp [anyAsks]

/-- Fewer patterns ask for no more. -/
theorem anyAsks_of_subset {ns ms : List (Node ρ)} (h : ∀ n ∈ ms, n ∈ ns) (hns : anyAsks ns = false) :
    anyAsks ms = false := anyAsks_eq_false.mpr fun n hn => anyAsks_eq_false.mp hns n (h n hn)

@[simp] theorem asksLineEnd_ofList (ns : List (Node ρ)) : (ofList ns).asksLineEnd = anyAsks ns := by
  induction ns with
  | nil => rfl
  | cons n ns ih =>
    cases ns with
    | nil => exact (Bool.or_false _).symm
    | cons m ms => exact congrArg (n.asksLineEnd || ·) ih

@[simp] theorem asksLineEnd_choice (ns : List (Node ρ)) : (choice ns).asksLineEnd = anyAsks ns := by
  have hfoldr (ns : List (Node ρ)) : (ns.foldr alt fail).asksLineEnd = anyAsks ns := by
    induction ns with
    | nil => rfl
    | cons n ns ih => exact congrArg (n.asksLineEnd || ·) ih
  match ns with
  | [] => rfl
  | [n] => exact (Bool.or_false _).symm
  | n :: m :: ms => exact hfoldr _

@[simp] theorem anyAsks_items (n : Node ρ) : anyAsks n.items = n.asksLineEnd := by
  induction n <;> simp_all [items, asksLineEnd]

@[simp] theorem anyAsks_chained (n : Node ρ) : anyAsks n.chained = n.asksLineEnd := by
  induction n <;> simp_all [chained, asksLineEnd]

@[simp] theorem anyAsks_branches (n : Node ρ) : anyAsks n.branches = n.asksLineEnd := by
  cases n <;> simp [branches, asksLineEnd]

end AnyAsks

@[simp] theorem anyAsks_spliced (p : Place) (n : Node Nat) : anyAsks (spliced p n) = n.asksLineEnd := by
  unfold spliced
  split <;> simp

end Node

open Node

/-! ### Branches -/

theorem asksLineEnd_of_mem_items {branches : List (Node Nat)} (h : anyAsks branches = false) {l : List (Node Nat)}
    (hl : l ∈ branches.map items) : anyAsks l = false := by
  obtain ⟨n, hn, rfl⟩ := List.mem_map.mp hl
  rw [anyAsks_items]
  exact anyAsks_eq_false.mp h n hn

theorem takeShared_asks (r : Repertoire) (behind : Bool) {branches : List (Node Nat)} (h : anyAsks branches = false) :
    anyAsks (takeShared r behind branches).1 = false ∧ anyAsks (takeShared r behind branches).2 = false := by
  have hordered : ∀ l ∈ (if behind then (branches.map items).map List.reverse else branches.map items),
      anyAsks l = false := by
    intro l hl
    split at hl
    · obtain ⟨k, hk, rfl⟩ := List.mem_map.mp hl
      rw [anyAsks_reverse]
      exact asksLineEnd_of_mem_items h hk
    · exact asksLineEnd_of_mem_items h hl
  have hrestored (l : List (Node Nat)) : anyAsks (if behind then l.reverse else l) = anyAsks l := by
    split
    · exact anyAsks_reverse l
    · rfl
  unfold takeShared
  dsimp only
  generalize (if behind then (branches.map items).map List.reverse else branches.map items) = ordered at hordered
  cases ordered with
  | nil => exact ⟨rfl, h⟩
  | cons first others =>
    dsimp only
    cases cuttable _ (sharedCount first others) with
    | zero => exact ⟨rfl, h⟩
    | succ count =>
      -- what is shared and what is left of a branch are items of it
      refine ⟨?_, anyAsks_eq_false.mpr fun n hn => ?_⟩
      · exact (hrestored _).trans
          (anyAsks_of_subset (fun _ => List.mem_of_mem_take) (hordered first List.mem_cons_self))
      · obtain ⟨l, hl, rfl⟩ := List.mem_map.mp hn
        rw [asksLineEnd_ofList, hrestored]
        exact anyAsks_of_subset (fun _ => List.mem_of_mem_drop) (hordered l hl)

@[simp] theorem joinedBranch_asks (ts : List CharTest) (k : Casing) : anyAsks (joinedBranch ts k) = false := by
  unfold joinedBranch
  split <;> rfl

@[simp] theorem joinSingles_asks (pending : List CharTest) (k : Casing) (ns : List (Node Nat)) :
    anyAsks (joinSingles pending k ns) = anyAsks ns := by
  fun_induction joinSingles pending k ns <;> simp_all [asksLineEnd]

theorem joinBranches_asks (r : Repertoire) (behind : Bool) {branches : List (Node Nat)} (h : anyAsks branches = false) :
    (joinBranches r behind branches).asksLineEnd = false := by
  obtain ⟨hshared, hrest⟩ := takeShared_asks r behind h
  unfold joinBranches
  dsimp only
  rw [asksLineEnd_ofList]
  split <;> simp [hshared, hrest]

/-! ### Whole patterns -/

@[simp] theorem CharTest.asksLineEnd_arranged (r : Repertoire) (t : CharTest) : (t.arranged r).asksLineEnd = false := by
  have hfolded (long : List (List Nat)) : anyAsks (long.map (Node.folded (ρ := Nat))) = false := by
    rw [anyAsks_eq_false]
    intro n hn
    obtain ⟨_, -, rfl⟩ := List.mem_map.mp hn
    rfl
  unfold CharTest.arranged
  split
  · simp [hfolded, asksLineEnd]
  · dsimp only
    split <;> simp [hfolded, asksLineEnd]
  · rfl

namespace Node

theorem arrange_asks (r : Repertoire) {n : Node Nat} (h : n.asksLineEnd = false) (behind : Bool) (p : Place) :
    anyAsks (n.arrange r behind p) = false := by
  induction n generalizing behind p with
  | seq a b iha ihb =>
    rw [asksLineEnd, Bool.or_eq_false_iff] at h
    rw [arrange]
    split <;> simp [iha h.1, ihb h.2]
  | alt a b iha ihb =>
    rw [asksLineEnd, Bool.or_eq_false_iff] at h
    have hboth : anyAsks ((ofList (a.arrange r behind .alone)).branches ++ b.arrange r behind .inChoice) = false := by
      simp [iha h.1, ihb h.2]
    rw [arrange]
    split
    · exact hboth
    · rw [anyAsks_spliced]
      exact joinBranches_asks r behind hboth
  | fail =>
    rw [arrange]
    split <;> rfl
  | one t => simp [arrange]
  | group n b ih | times g l m b ih => simp [arrange, asksLineEnd, ih h]
  | atomic b ih | look back positive b ih =>
    rw [arrange, anyAsks_spliced]
    split <;> simp [asksLineEnd, ih h]
  | ifGroup n yes no ihy ihn =>
    rw [asksLineEnd, Bool.or_eq_false_iff] at h
    simp [arrange, asksLineEnd, ihy h.1, ihn h.2]
  | ifLook back positive test yes no iht ihy ihn =>
    rw [asksLineEnd, Bool.or_eq_false_iff, Bool.or_eq_false_iff] at h
    simp [arrange, asksLineEnd, iht h.1.1, ihy h.1.2, ihn h.2]
  | empty | folded | assertion | notAssertion | backref | call | keep => simpa [arrange] using h

/-- **Arranging asks for no end of a line.** -/
theorem asksLineEnd_arranged (r : Repertoire) {n : Node Nat} (h : n.asksLineEnd = false) :
    (n.arranged r).asksLineEnd = false := by
  rw [arranged, asksLineEnd_ofList]
  exact arrange_asks r h false .alone

end Node

/-! ### Runs of literal characters -/

@[simp] theorem asksLineEnd_literalNode (code : Nat) (k : Casing) : (literalNode code k).asksLineEnd = false := by
  unfold literalNode
  dsimp only
  split <;> rfl

@[simp] theorem anyAsks_map_literalNode (codes : List Nat) (k : Casing) :
    anyAsks (codes.map fun c => literalNode c k) = false := by
  rw [anyAsks_eq_false]
  intro n hn
  obtain ⟨c, -, rfl⟩ := List.mem_map.mp hn
  exact asksLineEnd_literalNode c k

@[simp] theorem cutStretches_asks (codes : List Nat) (start : Nat) (stretches : List (Nat × Nat)) :
    anyAsks (cutStretches codes start stretches) = false := by
  induction stretches generalizing start with
  | nil => exact anyAsks_map_literalNode _ _
  | cons s rest ih =>
    rw [cutStretches, anyAsks_append, anyAsks_append, anyAsks_map_literalNode, ih]
    split <;> simp [asksLineEnd]

@[simp] theorem runNodes_asks (r : Repertoire) (codes : List Nat) (k : Casing) :
    anyAsks (runNodes r codes k) = false := by
  unfold runNodes
  dsimp only
  split
  · exact cutStretches_asks _ _ _
  · exact anyAsks_map_literalNode _ _

namespace LiteralRun

@[simp] theorem nodes_asks (run : LiteralRun) (r : Repertoire) : anyAsks (run.nodes r) = false := runNodes_asks ..

@[simp] theorem push_asks (run : LiteralRun) (r : Repertoire) (code : Nat) (k : Casing) :
    anyAsks (run.push r code k).1 = false := by
  unfold push
  split
  · rfl
  · exact nodes_asks run r

@[simp] theorem given_asks (run : Option LiteralRun) (r : Repertoire) :
    anyAsks ((run.map (·.nodes r)).getD []) = false := by
  cases run with
  | none => rfl
  | some run => exact nodes_asks run r

@[simp] theorem before_asks (run : Option LiteralRun) (r : Repertoire) (n : Node Nat) :
    anyAsks (before run r n) = n.asksLineEnd := by
  simp [before]

end LiteralRun

namespace Node

theorem formRuns_asks (r : Repertoire) (n : Node Nat) (run : Option LiteralRun) :
    anyAsks (n.formRuns r run) = n.asksLineEnd := by
  fun_induction n.formRuns r run with
  | case1 code k => simp [asksLineEnd]
  | case2 code k run left run' hpush =>
    have hleft := run.push_asks r code k
    rw [hpush] at hleft
    simp [asksLineEnd, hleft]
  | case3 code k b run left run' hpush ih =>
    have hleft := (run.getD {}).push_asks r code k
    rw [hpush] at hleft
    simp [asksLineEnd, hleft, ih]
  | _ => simp_all [asksLineEnd]

/-- Forming runs asks for no other end of a line. -/
theorem asksLineEnd_withRuns (r : Repertoire) (n : Node Nat) : (n.withRuns r).asksLineEnd = n.asksLineEnd := by
  rw [withRuns, asksLineEnd_ofList, formRuns_asks]

end Node

end SqlRegexp.Pattern
