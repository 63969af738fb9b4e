import SqlRegexp.Proofs.Match.Text
import SqlRegexp.Proofs.Mode
import SqlRegexp.Proofs.Occurrences

/-!
Searching for literal patterns.

Where the match parameter has the pattern taken literally (`Mode.AsksLiteral`), the pattern is described as the program
of a text (`Mode.AsksLiteral.describes`), and locating an occurrence gives the span of one of its leftmost occurrences
(`Mode.AsksLiteral.locate_whole`). So **the functions search for a text** (`literal_mode_searches_text`).
-/

namespace SqlRegexp

open SqlRegexp.Match SqlRegexp.Pattern SqlRegexp.PatternText SqlRegexp.Unicode

namespace Match

/-- What is listed as an occurrence is one. -/
theorem LeftmostFrom.occursAt {cs w : List Char} {c : Nat} {is : List Nat} (h : LeftmostFrom cs w c is) :
    ∀ i ∈ is, OccursAt cs w i := by
  induction h with
  | done => exact fun i hi => nomatch hi
  | next _ hoccurs _ _ ih => exact List.forall_mem_cons.mpr ⟨hoccurs, ih⟩

/-- The characters from an occurrence on, as many as the text has. -/
theorem OccursAt.take_drop {cs w : List Char} {i : Nat} (h : OccursAt cs w i) : (w.drop i).take cs.length = cs := by
  obtain ⟨before, after, rfl, rfl⟩ := h
  rw [List.drop_left, List.take_left]

end Match

namespace Mode

/-- The letters of a match parameter have patterns taken literally: `q` is among them, case counts, and the letters have
a meaning and go together. -/
structure AsksLiteral (cs : List Char) : Prop where
  literal : 'q' ∈ cs
  exact : lastCase? cs ≠ some 'i'
  known : ∀ c ∈ cs, c ∈ dialectLetters ++ engineLetters
  repertoires : ¬ ('a' ∈ cs ∧ 'u' ∈ cs)

namespace AsksLiteral

variable {flags : List Char} (h : AsksLiteral flags) (everyMatch : Bool) (policy : NewlinePolicy)
include h

theorem literalOr (cs : List Char) :
    (ofParameter (some flags) everyMatch policy).literalOr cs = escapeLiteral cs := by
  have hextra : (ofParameter (some flags) everyMatch policy).extra = (others flags).map fun c => [c] :=
    (Letters.sums_ofList flags).extra
  have hmem : ['q'] ∈ (others flags).map fun c => [c] :=
    List.mem_map_of_mem (mem_others.mpr ⟨h.literal, by decide⟩)
  have hliteral : (ofParameter (some flags) everyMatch policy).isLiteral = true := by
    rw [isLiteral, hextra]
    exact List.contains_iff_mem.mpr hmem
  rw [Mode.literalOr, hliteral, if_pos rfl]

/-- The options of such letters: case counts, and one repertoire is asked for at most. -/
theorem exists_options : ∃ o, (ofParameter (some flags) everyMatch policy).options = .ok o ∧ o.ignoreCase = false ∧
    (o.ascii && o.unicode) = false := by
  have hknown : firstUnknown? flags = none :=
    List.find?_eq_none.mpr fun c hc hunknown => by simp [h.known c hc] at hunknown
  obtain ⟨o, ho, hasked⟩ := exists_asked (some flags) everyMatch policy hknown
  refine ⟨o, of_mapError ho, ?_, ?_⟩
  · exact Bool.eq_false_iff.mpr fun hcase => h.exact (hasked.ignoreCase.mp hcase)
  · rw [Bool.and_eq_false_iff, ← Bool.not_eq_true, ← Bool.not_eq_true, ← not_and_or]
    exact fun hboth => h.repertoires ⟨hasked.ascii.mp hboth.1, hasked.unicode.mp hboth.2⟩

/-- **A literal pattern is described** as the program of its text. -/
theorem describes : ∃ longest r, ∀ cs,
    (ofParameter (some flags) everyMatch policy).Describes (escapeLiteral cs) (Program.ofText cs longest r) := by
  obtain ⟨o, ho, hcase, hrepertoires⟩ := h.exists_options everyMatch policy
  refine ⟨o.posix, o.repertoire?.getD .worldwide, fun cs => ⟨o, ho, ?_⟩⟩
  rw [show (ofParameter (some flags) everyMatch policy).pinned (escapeLiteral cs) = escapeLiteral cs from
    pinnedIf_escapeLiteral _ cs]
  exact compile_escapeLiteral cs hcase hrepertoires

theorem keepsRepertoire (cs : List Char) :
    (ofParameter (some flags) everyMatch policy).KeepsRepertoire (escapeLiteral cs) := by
  obtain ⟨o, ho, hcase, -⟩ := h.exists_options everyMatch policy
  have hpinned : (ofParameter (some flags) everyMatch policy).pinned (escapeLiteral cs) = escapeLiteral cs :=
    pinnedIf_escapeLiteral _ cs
  intro o' ho'
  obtain rfl : o = o' := Except.ok.inj (ho.symm.trans ho')
  rw [hpinned]
  exact keepsRepertoire_escapeLiteral cs hcase

end AsksLiteral

/-- An engine follows the description on a literal pattern and on the text that encloses it. -/
structure FollowedLiterally [Engine] (flags : List Char) (policy : NewlinePolicy) (cs : List Char) : Prop where
  escaped : (ofParameter (some flags) true policy).Followed (escapeLiteral cs)
  enclosed : (ofParameter (some flags) true policy).Followed ('(' :: escapeLiteral cs ++ [')'])

namespace AsksLiteral

/-- The engine that is built on the description follows it on every literal pattern. -/
theorem followedLiterally_reference {flags : List Char} (h : AsksLiteral flags) (policy : NewlinePolicy)
    (cs : List Char) : @FollowedLiterally Engine.reference flags policy cs := by
  obtain ⟨longest, r, hp⟩ := h.describes true policy
  have hq := (hp cs).enclosed (encloses_escapeLiteral _ cs) (h.keepsRepertoire true policy cs)
    (enclose_escapeLiteral cs)
  exact @FollowedLiterally.mk Engine.reference flags policy cs (followed_of_describes (hp cs))
    (followed_of_describes hq)

section Searching

variable [LawfulEngine] {flags cs : List Char} {policy : NewlinePolicy} (h : AsksLiteral flags)
  (hf : FollowedLiterally flags policy cs)
include h hf

/-- **A literal pattern is compiled** to what finds its text. -/
theorem exists_compile : ∃ longest r P,
    ((ofParameter (some flags) true policy).compile (escapeLiteral cs)).result = .ok P ∧
      Engine.Does P (Program.ofText cs longest r) := by
  obtain ⟨longest, r, hp⟩ := h.describes true policy
  exact ⟨longest, r, hf.escaped.exists_compile (hp cs)⟩

theorem exists_compile_enclosed : ∃ longest r Q,
    ((ofParameter (some flags) true policy).compile ('(' :: escapeLiteral cs ++ [')'])).result = .ok Q ∧
      Engine.Does Q (Program.ofText cs longest r).enclosed := by
  obtain ⟨longest, r, hp⟩ := h.describes true policy
  exact ⟨longest, r, hf.enclosed.exists_compile ((hp cs).enclosed (encloses_escapeLiteral _ cs)
    (h.keepsRepertoire true policy cs) (enclose_escapeLiteral cs))⟩

/-- A whole occurrence is located where the text lies. -/
theorem locate_whole {subject : List Char} {position : Nat} {is : List Nat}
    (his : LeftmostFrom cs (subject.drop (position - 1)) 0 is) (k : Nat) :
    (locate ⟨some subject, some cs, position, k, 0, ofParameter (some flags) true policy⟩).result =
      .ok (is[k - 1]?.map fun i => ⟨position - 1 + i + 1, cs.length, by omega⟩) := by
  obtain ⟨longest, r, Q, hQ, hdoes⟩ := h.exists_compile_enclosed hf
  have henclose : enclose ((ofParameter (some flags) true policy).literalOr cs) =
      .ok ('(' :: escapeLiteral cs ++ [')']) := by
    rw [h.literalOr]
    exact enclose_escapeLiteral cs
  have htransparent := @Engine.transparent_of_does Engine.reference _ _ (Program.ofText cs longest r)
    (Engine.reference_does _) (Engine.reference_does _) Program.movesStart_ofText (subject.drop (position - 1)).toArray
  have hnth : ((Program.ofText cs longest r).enclosed.walk _).nth? (k - 1) 0 = _ :=
    @Engine.Transparent.nth? Engine.reference _ _ _ htransparent (k - 1) 0
  rw [locate_result_enclosed hdoes rfl rfl rfl henclose hQ Program.asksSearchStart_ofText, hnth]
  show Except.ok ((Option.map Found.enclosed (((Program.ofText cs longest r).walk _).nth? (k - 1) 0)).bind _) = _
  rw [Program.nth?_ofText his]
  cases is[k - 1]? with
  | none => rfl
  | some i =>
    show Except.ok (some (SubjectSpan.mk (position - 1 + i + 1) (i + cs.length - i) _)) = _
    simp only [Nat.add_sub_cancel_left]
    rfl

/-- A literal pattern has no groups, so that none is located. -/
theorem locate_group (subject : List Char) (position k : Nat) {g : Nat} (hg : 1 ≤ g) :
    (locate ⟨some subject, some cs, position, k, g, ofParameter (some flags) true policy⟩).result = .ok none := by
  obtain ⟨longest, r, P, hP, hdoes⟩ := h.exists_compile hf
  rw [locate_result rfl rfl]
  dsimp only
  rw [forGroup_pos hg, h.literalOr]
  show (Mode.compile _ _).result.bind _ = _
  rw [hP]
  refine if_pos ?_
  rw [hdoes.groupCount]
  exact hg

end Searching

end AsksLiteral

end Mode

section

variable [LawfulEngine] {policy : NewlinePolicy} {flags subject cs : List Char} (h : Mode.AsksLiteral flags)
  (hf : Mode.FollowedLiterally flags policy cs)
include h hf

theorem like_literal (subject : List Char) :
    ∃ found, (like policy (some subject) (some cs) (some flags)).result = .ok found ∧
      (found = true ↔ cs <:+: subject) := by
  obtain ⟨longest, r, P, hP, hdoes⟩ := h.exists_compile hf
  refine ⟨((Program.ofText cs longest r).search subject.toArray 0).isSome, ?_, ?_⟩
  · rw [like_result, h.literalOr, hP, ← hdoes.search]
    rfl
  · exact Program.isSome_search_ofText subject.toArray

theorem count_literal {position : Value} {i : Nat} (hposition : (checked .position position).result = .ok i)
    {is : List Nat} (his : LeftmostFrom cs (subject.drop (i - 1)) 0 is) :
    (count policy (some subject) (some cs) position (some flags)).result = .ok is.length := by
  obtain ⟨longest, r, P, hP, hdoes⟩ := h.exists_compile hf
  obtain ⟨ms, hms⟩ := (hdoes.advances Program.movesStart_ofText (subject.drop (i - 1)).toArray).forward.exists_all
  have hlist : ms = is.map (Program.foundText cs) := by
    refine List.ext_getElem? fun k => ?_
    rw [← Walk.nth?_eq_getElem? hms, hdoes.walk, Program.nth?_ofText his, List.getElem?_map]
  rw [count_result, hposition, h.literalOr]
  show (Mode.compile _ _).result.bind _ = _
  rw [hP]
  show (Engine.walk P _).all?.elim _ _ = _
  rw [hms, hlist]
  exact congrArg Except.ok (List.length_map _)

section Occurrence

variable {i k : Nat} (hi : 1 ≤ i) (hk : 1 ≤ k)
include hi hk

/-- The places of the start and of the end of an occurrence. -/
theorem instr_literal {is : List Nat} (his : LeftmostFrom cs (subject.drop (i - 1)) 0 is) {r : Nat}
    (hr : Argument.returnOption.admits r = true) :
    (instr policy (some subject) (some cs) (.integer i) (.integer k) (.integer r) (some flags) (.integer 0)).result =
      .ok (is[k - 1]?.elim 0 fun j => if r = 1 then i + j + cs.length else i + j) := by
  rw [instr_result_of_checked (checked_position hi) (checked_occurrence hk) checked_whole (checked_of_admits _ hr),
    h.locate_whole hf his]
  cases is[k - 1]? with
  | none => rfl
  | some j =>
    have hstart : i - 1 + j + 1 = i + j := by omega
    show Except.ok (if r = 1 then i - 1 + j + 1 + cs.length else i - 1 + j + 1) = _
    rw [hstart]
    rfl

/-- What is found is the text itself. -/
theorem substr_literal {is : List Nat} (his : LeftmostFrom cs (subject.drop (i - 1)) 0 is) :
    (substr policy (some subject) (some cs) (.integer i) (.integer k) (some flags) (.integer 0)).result =
      .ok (is[k - 1]?.map fun _ => cs) := by
  rw [substr_result_of_checked (checked_position hi) (checked_occurrence hk) checked_whole, h.locate_whole hf his]
  cases hj : is[k - 1]? with
  | none => rfl
  | some j =>
    have htake : (subject.drop (i - 1 + j + 1 - 1)).take cs.length = cs := by
      rw [Nat.add_sub_cancel, ← List.drop_drop]
      exact (his.occursAt j (List.mem_of_getElem? hj)).take_drop
    exact congrArg (fun found => Except.ok (some found)) htake

/-- No group is found. -/
theorem group_literal {g : Nat} (hg : 1 ≤ g) :
    (∀ r : Nat, Argument.returnOption.admits r = true →
      (instr policy (some subject) (some cs) (.integer i) (.integer k) (.integer r) (some flags)
        (.integer g)).result = .ok 0) ∧
    (substr policy (some subject) (some cs) (.integer i) (.integer k) (some flags) (.integer g)).result = .ok none := by
  have hnone := h.locate_group hf subject i k hg
  constructor
  · intro r hr
    rw [instr_result_of_checked (checked_position hi) (checked_occurrence hk) (checked_group g)
      (checked_of_admits _ hr), hnone]
    rfl
  · rw [substr_result_of_checked (checked_position hi) (checked_occurrence hk) (checked_group g), hnone]
    rfl

end Occurrence

end

/-- **With `q` the functions search for a text.** Let case count, and let the letters have a meaning and go together.
Then a pattern matches if it lies somewhere in the subject. From a position on it is counted, and found, where its
leftmost occurrences are that do not overlap, the empty pattern once at every place; no group of it is ever found. For
neither raising references nor pinning end anchors changes the text of a literal pattern. So it is with every engine
that follows the description on that text, by itself and enclosed. -/
theorem literal_mode_searches_text [LawfulEngine] (policy : NewlinePolicy) (subject cs flags : List Char)
    (h : Mode.AsksLiteral flags) (hf : Mode.FollowedLiterally flags policy cs) (position : Nat)
    (hposition : 1 ≤ position) :
    let window := subject.drop (position - 1)
    let place := fun (k g : Nat) (returnOption : Int) => (instr policy (some subject) (some cs) (.integer position)
      (.integer k) (.integer returnOption) (some flags) (.integer g)).result
    let text := fun (k g : Nat) => (substr policy (some subject) (some cs) (.integer position) (.integer k) (some flags)
      (.integer g)).result
    (∃ found, (like policy (some subject) (some cs) (some flags)).result = .ok found ∧
      (found = true ↔ cs <:+: subject)) ∧
    (∃ is, LeftmostFrom cs window 0 is ∧ (∀ js, LeftmostFrom cs window 0 js → js = is) ∧
      (cs = [] → is = List.range (window.length + 1)) ∧
      (count policy (some subject) (some cs) (.integer position) (some flags)).result = .ok is.length ∧
      ∀ k, 1 ≤ k →
        place k 0 0 = .ok (is[k - 1]?.elim 0 fun i => position + i) ∧
        place k 0 1 = .ok (is[k - 1]?.elim 0 fun i => position + i + cs.length) ∧
        text k 0 = .ok (is[k - 1]?.map fun _ => cs) ∧
        ∀ g, 1 ≤ g → place k g 0 = .ok 0 ∧ place k g 1 = .ok 0 ∧ text k g = .ok none) ∧
    (∀ offset, shiftReferences (escapeLiteral cs) offset = .ok (escapeLiteral cs)) ∧
    pinEnds (escapeLiteral cs) = escapeLiteral cs := by
  intro window place text
  obtain ⟨is, his⟩ := exists_leftmostFrom cs window 0
  refine ⟨like_literal h hf subject, ⟨is, his, fun js => his.unique, ?_,
    count_literal h hf (checked_position hposition) his, fun k hk => ⟨?_, ?_, ?_, fun g hg => ?_⟩⟩,
    shiftReferences_escapeLiteral cs, pinEnds_escapeLiteral cs⟩
  · rintro rfl
    rw [List.range_eq_range']
    exact (leftmostFrom_nil window _ 0 (Nat.zero_add _)).unique his
  · exact instr_literal h hf hposition hk his (r := 0) rfl
  · exact instr_literal h hf hposition hk his (r := 1) rfl
  · exact substr_literal h hf hposition hk his
  · obtain ⟨hplace, htext⟩ := @group_literal _ policy flags subject cs h hf position k hposition hk g hg
    exact ⟨hplace 0 rfl, hplace 1 rfl, htext⟩

theorem asksLiteral_verbose : Mode.AsksLiteral ['q', 'x'] :=
  ⟨by decide, by decide, by simp [Mode.dialectLetters, Mode.engineLetters], by decide⟩

attribute [local instance] Engine.lawfulReference in
/-- The second point behind the first character, though the text is one that has a meaning of its own. -/
theorem literal_mode_searches_text_point :
    (like .uniform (some "a.b.c".toList) (some ['.']) (some ['q', 'x'])).result = .ok true ∧
    (count .uniform (some "a.b.c".toList) (some ['.']) (.integer 2) (some ['q', 'x'])).result = .ok 2 ∧
    (instr .uniform (some "a.b.c".toList) (some ['.']) (.integer 2) (.integer 2) (.integer 0) (some ['q', 'x'])
      (.integer 0)).result = .ok 4 := by
  obtain ⟨⟨found, hlike, hfound⟩, ⟨is, -, hunique, -, hcount, hplaces⟩, -⟩ :=
    literal_mode_searches_text .uniform "a.b.c".toList ['.'] ['q', 'x'] asksLiteral_verbose
      (asksLiteral_verbose.followedLiterally_reference .uniform ['.']) 2 (by decide)
  have his : LeftmostFrom ['.'] ("a.b.c".toList.drop 1) 0 [0, 2] := by
    refine .next (by decide) (by decide) (fun j _ hj => absurd hj (by omega)) ?_
    refine .next (by decide) (by decide) (fun j hj hlt => ?_) (.done fun i hi hoccurs => ?_)
    · obtain rfl : j = 1 := by simp at hj; omega
      decide
    · have hle : i ≤ 4 := hoccurs.le
      obtain rfl | rfl : i = 3 ∨ i = 4 := by simp at hi; omega
      all_goals exact absurd hoccurs (by decide)
  obtain rfl := hunique _ his
  refine ⟨?_, hcount, (hplaces 2 (by decide)).1⟩
  rw [hlike, hfound.mpr (by decide)]

end SqlRegexp
