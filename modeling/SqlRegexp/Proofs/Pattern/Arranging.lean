import SqlRegexp.Pattern.Literal
import SqlRegexp.Proofs.Pattern.Counterpart

/-!
Arranging a pattern does not look at the numbers of its groups.

What branches begin with is compared, so numbers must not come to coincide: for an injective `f` a pattern renumbered by
`f` is arranged as the pattern is and then renumbered (`arrange_renumbered`), and its runs are formed likewise
(`formRuns_renumbered`).
-/

namespace SqlRegexp.Pattern

open SqlRegexp.Unicode

namespace Node

variable {f : Nat → Nat}

theorem renumbered_injective (hf : f.Injective) : (renumbered f).Injective := by
  intro a b h
  induction a generalizing b <;> cases b <;> simp_all [relabelled]
  all_goals grind [Function.Injective]

theorem beq_renumbered (hf : f.Injective) (a b : Node Nat) : (a.renumbered f == b.renumbered f) = (a == b) :=
  Bool.eq_iff_iff.mpr (by simp [(renumbered_injective hf).eq_iff])

/-! ### Sequences and choices -/

theorem renumbered_ofList (ns : List (Node Nat)) : (ofList ns).renumbered f = ofList (ns.map (renumbered f)) :=
  relabelled_ofList ns

theorem renumbered_choice (ns : List (Node Nat)) : (choice ns).renumbered f = choice (ns.map (renumbered f)) :=
  relabelled_choice ns

theorem items_renumbered (n : Node Nat) : (n.renumbered f).items = n.items.map (renumbered f) := by
  induction n <;> simp_all [relabelled, items]

theorem chained_renumbered (n : Node Nat) : (n.renumbered f).chained = n.chained.map (renumbered f) := by
  induction n <;> simp_all [relabelled, chained]

theorem branches_renumbered (n : Node Nat) : (n.renumbered f).branches = n.branches.map (renumbered f) := by
  cases n <;> simp [relabelled, branches, chained_renumbered]

theorem unscoped_renumbered (n : Node Nat) : (n.renumbered f).unscoped = n.unscoped.renumbered f := by
  induction n with
  | assertion a | notAssertion a => cases a <;> rfl
  | _ => simp_all [relabelled, unscoped]

theorem isShareable_renumbered (n : Node Nat) : (n.renumbered f).isShareable = n.isShareable := by
  induction n with
  | alt a b iha ihb =>
    by_cases hb : b = .fail
    · subst hb
      exact iha
    · have hb' : b.renumbered f ≠ .fail := fun h => hb (relabelled_eq_fail.mp h)
      show (alt (a.renumbered f) (b.renumbered f)).isShareable = _
      rw [isShareable.eq_6 _ _ hb', isShareable.eq_6 _ _ hb, iha, ihb]
  | _ => simp_all [relabelled, isShareable]

theorem spliced_renumbered (p : Place) (n : Node Nat) :
    spliced p (n.renumbered f) = (spliced p n).map (renumbered f) := by
  unfold spliced
  split
  · exact items_renumbered n
  · rfl

end Node

open Node

section

variable {f : Nat → Nat}

/-! ### Common beginnings -/

theorem sharedCount_renumbered (hf : f.Injective) (ns : List (Node Nat)) (others : List (List (Node Nat))) :
    sharedCount (ns.map (renumbered f)) (others.map (List.map (renumbered f))) = sharedCount ns others := by
  induction ns generalizing others with
  | nil => rfl
  | cons n ns ih =>
    have hsame (o : List (Node Nat)) :
        ((o.map (renumbered f)).head?.any fun m => m.unscoped == (n.renumbered f).unscoped) =
          o.head?.any fun m => m.unscoped == n.unscoped := by
      cases o with
      | nil => rfl
      | cons m ms =>
        simp only [List.map_cons, List.head?_cons, Option.any_some, unscoped_renumbered, beq_renumbered hf]
    have htails : (others.map (List.map (renumbered f))).map List.tail =
        (others.map List.tail).map (List.map (renumbered f)) := by
      rw [List.map_map, List.map_map]
      refine List.map_congr_left fun o _ => ?_
      cases o <;> rfl
    rw [List.map_cons, sharedCount, sharedCount, isShareable_renumbered, List.all_map, htails, ih]
    simp only [Function.comp_def, hsame]

theorem fullLetter?_renumbered (n : Node Nat) : fullLetter? (n.renumbered f) = fullLetter? n := by
  cases n <;> rfl

theorem casedLetter?_renumbered (n : Node Nat) : casedLetter? (n.renumbered f) = casedLetter? n := by
  cases n <;> rfl

theorem foldTogether_renumbered (ns : List (Node Nat)) : foldTogether (ns.map (renumbered f)) = foldTogether ns := by
  have hletters : (ns.map (renumbered f)).mapM casedLetter? = ns.mapM casedLetter? := by
    induction ns with
    | nil => rfl
    | cons n ns ih => simp only [List.map_cons, List.mapM_cons, casedLetter?_renumbered, ih]
  unfold foldTogether
  rw [hletters, List.length_map]

theorem mayCut_renumbered (ns : List (Node Nat)) (place : Nat) :
    mayCut (ns.map (renumbered f)) place = mayCut ns place := by
  have hfull (i : Nat) : (((ns.map (renumbered f))[i]?).any fun n => (fullLetter? n).isSome) =
      (ns[i]?).any fun n => (fullLetter? n).isSome := by
    rw [List.getElem?_map]
    cases ns[i]? with
    | none => rfl
    | some n => simp only [Option.map_some, Option.any_some, fullLetter?_renumbered]
  have htogether (start stop : Nat) : foldTogether (((ns.map (renumbered f)).take stop).drop start) =
      foldTogether ((ns.take stop).drop start) := by
    rw [← List.map_take, ← List.map_drop, foldTogether_renumbered]
  unfold mayCut
  simp only [hfull, htogether]

theorem takeShared_renumbered (hf : f.Injective) (r : Repertoire) (behind : Bool) (branches : List (Node Nat)) :
    takeShared r behind (branches.map (renumbered f)) =
      ((takeShared r behind branches).1.map (renumbered f), (takeShared r behind branches).2.map (renumbered f)) := by
  have hlists : (branches.map (renumbered f)).map items = (branches.map items).map (List.map (renumbered f)) := by
    rw [List.map_map, List.map_map]
    exact List.map_congr_left fun n _ => items_renumbered n
  have hordered : (if behind then ((branches.map (renumbered f)).map items).map List.reverse
        else (branches.map (renumbered f)).map items) =
      (if behind then (branches.map items).map List.reverse else branches.map items).map (List.map (renumbered f)) := by
    rw [hlists]
    split
    · simp only [List.map_map, Function.comp_def, List.map_reverse]
    · rfl
  have hcut (count : Nat) : (r == .western || ((branches.map (renumbered f)).map items).all fun l =>
        mayCut l (if behind then l.length - count else count)) =
      (r == .western || (branches.map items).all fun l => mayCut l (if behind then l.length - count else count)) := by
    rw [hlists, List.all_map]
    simp only [Function.comp_def, List.length_map, mayCut_renumbered]
  have hrestored (l : List (Node Nat)) : (if behind then (l.map (renumbered f)).reverse else l.map (renumbered f)) =
      (if behind then l.reverse else l).map (renumbered f) := by
    split
    · exact (List.map_reverse ..).symm
    · rfl
  unfold takeShared
  dsimp only
  rw [hordered]
  simp only [hcut]
  cases (if behind then (branches.map items).map List.reverse else branches.map items) with
  | nil => rfl
  | cons first others =>
    have hshared := sharedCount_renumbered hf first others
    have hrest (count : Nat) : ((first :: others).map (List.map (renumbered f))).map (fun l =>
          ofList (if behind then (l.drop count).reverse else l.drop count)) =
        ((first :: others).map fun l => ofList (if behind then (l.drop count).reverse else l.drop count)).map
          (renumbered f) := by
      rw [List.map_map, List.map_map]
      refine List.map_congr_left fun l _ => ?_
      simp only [Function.comp_def, ← List.map_drop, hrestored, renumbered_ofList]
    rw [List.map_cons]
    dsimp only
    rw [hshared]
    cases cuttable _ (sharedCount first others) with
    | zero => rfl
    | succ count =>
      have hfirst := hrestored (first.take (count + 1))
      rw [List.map_take] at hfirst
      exact congrArg₂ Prod.mk hfirst (hrest (count + 1))

/-! ### Neighbouring characters -/

theorem joinedBranch_renumbered (ts : List CharTest) (k : Casing) :
    (joinedBranch ts k).map (renumbered f) = joinedBranch ts k := by
  unfold joinedBranch
  split <;> rfl

theorem joinSingles_renumbered (pending : List CharTest) (k : Casing) (ns : List (Node Nat)) :
    joinSingles pending k (ns.map (renumbered f)) = (joinSingles pending k ns).map (renumbered f) := by
  induction ns generalizing pending k with
  | nil => exact (joinedBranch_renumbered _ _).symm
  | cons n ns ih =>
    have hother {m m' : Node Nat} (hm : ∀ t, m ≠ .one t) (hm' : m' = m.renumbered f) :
        joinSingles pending k (m' :: ns.map (renumbered f)) =
          (joinSingles pending k (m :: ns)).map (renumbered f) := by
      subst hm'
      have hone : ∀ t, m.renumbered f ≠ .one t := by
        intro t ht
        cases m <;> cases ht
        exact hm t rfl
      rw [joinSingles.eq_3 _ _ _ _ hone, joinSingles.eq_3 _ _ _ _ hm, List.map_append, joinedBranch_renumbered,
        List.map_cons, ih]
    cases n with
    | one t =>
      show joinSingles pending k (.one t :: ns.map (renumbered f)) = _
      rw [joinSingles, joinSingles]
      split
      · rw [List.map_append, joinedBranch_renumbered, List.map_cons, ih]
        rfl
      · split
        · exact ih _ _
        · rw [List.map_append, joinedBranch_renumbered, ih]
    | _ => exact hother (fun _ => nofun) rfl

theorem joinBranches_renumbered (hf : f.Injective) (r : Repertoire) (behind : Bool) (branches : List (Node Nat)) :
    joinBranches r behind (branches.map (renumbered f)) = (joinBranches r behind branches).renumbered f := by
  unfold joinBranches
  rw [takeShared_renumbered hf]
  dsimp only
  rw [joinSingles_renumbered, renumbered_ofList]
  refine congrArg ofList ?_
  split
  · rw [List.map_cons, renumbered_choice]
  · rw [List.map_append, List.map_cons, renumbered_choice, List.map_nil]

/-! ### Whole patterns -/

theorem CharTest.renumbered_arranged (r : Repertoire) (t : CharTest) :
    (t.arranged r).renumbered f = t.arranged r := by
  have hfolded (long : List (List Nat)) :
      (long.map (Node.folded (ρ := Nat))).map (renumbered f) = long.map .folded := by
    rw [List.map_map]
    exact List.map_congr_left fun _ _ => rfl
  unfold CharTest.arranged
  split
  · dsimp only
    rw [renumbered_choice, List.map_cons, hfolded]
    rfl
  · dsimp only
    split
    · rw [renumbered_choice, hfolded]
    · rw [renumbered_choice, List.map_cons, hfolded]
      rfl
  · rfl

namespace Node

theorem arrange_renumbered (hf : f.Injective) (r : Repertoire) (n : Node Nat) (behind : Bool) (p : Place) :
    (n.renumbered f).arrange r behind p = (n.arrange r behind p).map (renumbered f) := by
  induction n generalizing behind p with
  | seq a b iha ihb =>
    show (seq (a.renumbered f) (b.renumbered f)).arrange r behind p = _
    rw [arrange, arrange, iha, ihb, ← List.map_append]
    split
    · rfl
    · rw [List.map_cons, renumbered_ofList, List.map_nil]
  | alt a b iha ihb =>
    show (alt (a.renumbered f) (b.renumbered f)).arrange r behind p = _
    rw [arrange, arrange, iha, ihb, ← renumbered_ofList, branches_renumbered, ← List.map_append]
    split
    · rfl
    · rw [joinBranches_renumbered hf, spliced_renumbered]
  | fail =>
    show fail.arrange r behind p = _
    rw [arrange]
    split <;> rfl
  | one t =>
    show spliced p (t.arranged r) = (spliced p (t.arranged r)).map (renumbered f)
    rw [← spliced_renumbered, CharTest.renumbered_arranged]
  | group n b ih =>
    show [group (f n) (ofList ((b.renumbered f).arrange r behind .alone))] = _
    rw [ih, ← renumbered_ofList]
    rfl
  | times g l m b ih =>
    show [times g l m (ofList ((b.renumbered f).arrange r behind .alone))] = _
    rw [ih, ← renumbered_ofList]
    rfl
  | atomic b ih =>
    show spliced p (ite _ (ofList ((b.renumbered f).arrange r behind .alone)) _) = _
    rw [ih, ← renumbered_ofList, isTrivial_relabelled, arrange, ← spliced_renumbered]
    refine congrArg _ ?_
    split <;> rfl
  | look back positive b ih =>
    show spliced p (ite _ (ofList ((b.renumbered f).arrange r back .alone)) _) = _
    rw [ih, ← renumbered_ofList, isTrivial_relabelled, arrange, ← spliced_renumbered]
    refine congrArg _ ?_
    split <;> rfl
  | ifGroup n yes no ihy ihn =>
    show [ifGroup (f n) (ofList ((yes.renumbered f).arrange r behind .alone))
      (ofList ((no.renumbered f).arrange r behind .alone))] = _
    rw [ihy, ihn, ← renumbered_ofList, ← renumbered_ofList]
    rfl
  | ifLook back positive test yes no iht ihy ihn =>
    show [ifLook back positive (ofList ((test.renumbered f).arrange r back .alone))
      (ofList ((yes.renumbered f).arrange r back .alone)) (ofList ((no.renumbered f).arrange r back .alone))] = _
    rw [iht, ihy, ihn, ← renumbered_ofList, ← renumbered_ofList, ← renumbered_ofList]
    rfl
  | empty | folded | assertion | notAssertion | backref | call | keep => exact spliced_renumbered p _

theorem arranged_renumbered (hf : f.Injective) (r : Repertoire) (n : Node Nat) :
    (n.renumbered f).arranged r = (n.arranged r).renumbered f := by
  rw [arranged, arranged, arrange_renumbered hf, renumbered_ofList]

end Node

/-! ### Runs of literal characters -/

theorem literalNode_renumbered (code : Nat) (k : Casing) : (literalNode code k).renumbered f = literalNode code k := by
  unfold literalNode
  dsimp only
  split <;> rfl

theorem map_literalNode_renumbered (codes : List Nat) (k : Casing) :
    (codes.map fun c => literalNode c k).map (renumbered f) = codes.map fun c => literalNode c k := by
  rw [List.map_map]
  exact List.map_congr_left fun c _ => literalNode_renumbered c k

theorem cutStretches_renumbered (codes : List Nat) (start : Nat) (stretches : List (Nat × Nat)) :
    (cutStretches codes start stretches).map (renumbered f) = cutStretches codes start stretches := by
  induction stretches generalizing start with
  | nil => exact map_literalNode_renumbered _ _
  | cons s rest ih =>
    rw [cutStretches, List.map_append, List.map_append, map_literalNode_renumbered, ih]
    congr 2
    split
    · rfl
    · rw [List.map_cons, literalNode_renumbered, List.map_nil]
    · rfl

theorem runNodes_renumbered (r : Repertoire) (codes : List Nat) (k : Casing) :
    (runNodes r codes k).map (renumbered f) = runNodes r codes k := by
  unfold runNodes
  dsimp only
  split
  · exact cutStretches_renumbered _ _ _
  · exact map_literalNode_renumbered _ _

namespace LiteralRun

theorem nodes_renumbered (run : LiteralRun) (r : Repertoire) : (run.nodes r).map (renumbered f) = run.nodes r :=
  runNodes_renumbered ..

/-- What a character leaves of the run it is put to has no number either. -/
theorem left_renumbered {run run' : LiteralRun} {r : Repertoire} {code : Nat} {k : Casing} {left : List (Node Nat)}
    (h : run.push r code k = (left, run')) : left.map (renumbered f) = left := by
  obtain rfl : (run.push r code k).1 = left := congrArg Prod.fst h
  unfold push
  split
  · rfl
  · exact nodes_renumbered run r

theorem nodesBefore_renumbered (run : Option LiteralRun) (r : Repertoire) :
    ((run.map (·.nodes r)).getD []).map (renumbered f) = (run.map (·.nodes r)).getD [] := by
  cases run with
  | none => rfl
  | some run => exact nodes_renumbered run r

theorem before_renumbered (run : Option LiteralRun) (r : Repertoire) (n : Node Nat) :
    before run r (n.renumbered f) = (before run r n).map (renumbered f) := by
  unfold before
  rw [List.map_append, nodesBefore_renumbered]
  rfl

end LiteralRun

namespace Node

theorem formRuns_renumbered (r : Repertoire) (n : Node Nat) (run : Option LiteralRun) :
    (n.renumbered f).formRuns r run = (n.formRuns r run).map (renumbered f) := by
  fun_induction n.formRuns r run with
  | case1 code k => exact (congrArg (fun m => [m]) (literalNode_renumbered code k)).symm
  | case2 code k run left run' hpush =>
    show (one (.char code true k)).formRuns r (some run) = _
    rw [formRuns, hpush, List.map_append, LiteralRun.left_renumbered hpush, run'.nodes_renumbered]
  | case3 code k b run left run' hpush ih =>
    show (seq (one (.char code true k)) (b.renumbered f)).formRuns r run = _
    rw [formRuns, hpush, List.map_append, LiteralRun.left_renumbered hpush, ← ih]
  | case4 a b run ha iha ihb =>
    have ha' : ∀ code k, a.renumbered f = .one (.char code true k) → False := by
      intro code k h
      cases a <;> cases h
      exact ha code k rfl
    show (seq (a.renumbered f) (b.renumbered f)).formRuns r run = _
    rw [formRuns.eq_4 _ _ _ _ ha', iha, ihb, List.map_append, List.map_append, LiteralRun.nodesBefore_renumbered]
  | case5 a b run iha ihb =>
    rw [← LiteralRun.before_renumbered]
    show LiteralRun.before run r (.alt (.ofList ((a.renumbered f).formRuns r none))
      (.ofList ((b.renumbered f).formRuns r none))) = _
    rw [iha, ihb, ← renumbered_ofList, ← renumbered_ofList]
    rfl
  | case6 n b run ih =>
    rw [← LiteralRun.before_renumbered]
    show LiteralRun.before run r (.group (f n) (.ofList ((b.renumbered f).formRuns r none))) = _
    rw [ih, ← renumbered_ofList]
    rfl
  | case7 g l m b run ih =>
    rw [← LiteralRun.before_renumbered]
    show LiteralRun.before run r (.times g l m (.ofList ((b.renumbered f).formRuns r none))) = _
    rw [ih, ← renumbered_ofList]
    rfl
  | case8 b run ih =>
    rw [← LiteralRun.before_renumbered]
    show LiteralRun.before run r (.atomic (.ofList ((b.renumbered f).formRuns r none))) = _
    rw [ih, ← renumbered_ofList]
    rfl
  | case9 behind positive b run ih =>
    rw [← LiteralRun.before_renumbered]
    show LiteralRun.before run r (.look behind positive (.ofList ((b.renumbered f).formRuns r none))) = _
    rw [ih, ← renumbered_ofList]
    rfl
  | case10 n yes no run ihy ihn =>
    rw [← LiteralRun.before_renumbered]
    show LiteralRun.before run r (.ifGroup (f n) (.ofList ((yes.renumbered f).formRuns r none))
      (.ofList ((no.renumbered f).formRuns r none))) = _
    rw [ihy, ihn, ← renumbered_ofList, ← renumbered_ofList]
    rfl
  | case11 behind positive test yes no run iht ihy ihn =>
    rw [← LiteralRun.before_renumbered]
    show LiteralRun.before run r (.ifLook behind positive (.ofList ((test.renumbered f).formRuns r none))
      (.ofList ((yes.renumbered f).formRuns r none)) (.ofList ((no.renumbered f).formRuns r none))) = _
    rw [iht, ihy, ihn, ← renumbered_ofList, ← renumbered_ofList, ← renumbered_ofList]
    rfl
  | case12 n run hone _ hseq halt hgroup htimes hatomic hlook hif hifLook =>
    -- what is left are the patterns without parts, and a character that is excluded
    rw [← LiteralRun.before_renumbered]
    cases n with
    | one t =>
      cases t with
      | char code positive k =>
        cases positive with
        | false => rfl
        | true => exact absurd rfl (hone code k)
      | _ => rfl
    | seq a b => exact absurd rfl (hseq a b)
    | alt a b => exact absurd rfl (halt a b)
    | group n b => exact absurd rfl (hgroup n b)
    | times g l m b => exact absurd rfl (htimes g l m b)
    | atomic b => exact absurd rfl (hatomic b)
    | look behind positive b => exact absurd rfl (hlook behind positive b)
    | ifGroup n yes no => exact absurd rfl (hif n yes no)
    | ifLook behind positive test yes no => exact absurd rfl (hifLook behind positive test yes no)
    | _ => rfl

theorem withRuns_renumbered (r : Repertoire) (n : Node Nat) :
    (n.renumbered f).withRuns r = (n.withRuns r).renumbered f := by
  rw [withRuns, withRuns, formRuns_renumbered, renumbered_ofList]

/-- A group stays around its pattern when this is arranged and its runs are formed. -/
theorem withRuns_arranged_group (r : Repertoire) (number : Nat) (n : Node Nat) :
    ((group number n).arranged r).withRuns r = group number ((n.arranged r).withRuns r) := rfl

end Node

end

end SqlRegexp.Pattern
