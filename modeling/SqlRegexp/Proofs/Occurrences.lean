import SqlRegexp.Proofs.Enclosing
import SqlRegexp.Proofs.Position

/-!
Occurrences of a pattern, counted and found.

Counting walks through the matches of the pattern itself; an occurrence is found by a walk through those of its enclosed
text, and matched once more where it starts. Where enclosing keeps the meaning of a pattern (`Mode.Encloses`), both
walks meet the same matches, so **an occurrence is found exactly if it has been counted** (`count_agrees_with_instr`).
The other results need more of a pattern: without `\G` and `\K` **a match is found again with all its groups**
(`occurrence_matched_again`), and where nothing that is looked at behind has a `\K` **a walk moves on** and ends
(`walk_moves_on`).
-/

namespace SqlRegexp

open SqlRegexp.Match SqlRegexp.Pattern SqlRegexp.PatternText

/-! ### Walks through the enclosed text -/

section Walks

variable {p : Program} {text : Array Char}

/-- The enclosed program finds `m'` where the pattern, searched from `c` on, finds `m` by an attempt from `b`. -/
structure FoundEnclosed (p : Program) (text : Array Char) (c b : Nat) (m m' : Found) : Prop where
  attempt : p.attempt? text c = some (b, m)
  eq_enclosedFrom : m' = m.enclosedFrom b

namespace FoundEnclosed

variable {c b : Nat} {m m' : Found} (h : FoundEnclosed p text c b m m')
include h

theorem le_stop : b ≤ m.stop := Program.le_stop_of_attempt? h.attempt

/-- Without `\G` both are found again where the attempt began. -/
theorem again (hp : p.node.asksSearchStart = false) :
    p.matchAt text b = some m ∧ p.enclosed.matchAt text b = some m' := by
  have hagain := Program.matchAt_of_attempt? hp h.attempt
  refine ⟨hagain, ?_⟩
  rw [Program.matchAt_enclosed (Program.exists_matchFrom_of_attempt? h.attempt).1, hagain, h.eq_enclosedFrom]
  rfl

end FoundEnclosed

theorem met?_enclosed (c : Nat) :
    Option.Rel (fun m m' => ∃ b, FoundEnclosed p text c b m m') ((p.walk text).met? c)
      ((p.enclosed.walk text).met? c) := by
  have hmet (p : Program) : (p.walk text).met? c = if c ≤ text.size then p.search text c else none := rfl
  rw [hmet, hmet]
  split
  · rcases p.search_enclosed text c with ⟨hnone, hnone'⟩ | ⟨b, m, hattempt, hm, hm'⟩
    · rw [hnone, hnone']
      exact .none
    · rw [hm, hm']
      exact .some ⟨b, hattempt, rfl⟩
  · exact .none

/-- Both walks meet the same matches. -/
theorem nth?_enclosed (k c : Nat) :
    Option.Rel (fun m m' => ∃ c b, FoundEnclosed p text c b m m') ((p.walk text).nth? k c)
      ((p.enclosed.walk text).nth? k c) := by
  refine Walk.nth?_rel (fun c => ?_) (fun ⟨_, _, h⟩ => by rw [h.eq_enclosedFrom]; rfl) k c
  have hrel := @met?_enclosed p text c
  generalize (p.walk text).met? c = met at hrel
  generalize (p.enclosed.walk text).met? c = met' at hrel
  cases hrel with
  | none => exact .none
  | some h => exact .some ⟨c, h⟩

theorem isSome_nth?_enclosed (k c : Nat) :
    ((p.enclosed.walk text).nth? k c).isSome = ((p.walk text).nth? k c).isSome := by
  have hrel := @nth?_enclosed p text k c
  generalize (p.walk text).nth? k c = met at hrel
  generalize (p.enclosed.walk text).nth? k c = met' at hrel
  cases hrel <;> rfl

theorem exists_of_nth?_enclosed {k c : Nat} {m' : Found} (h : (p.enclosed.walk text).nth? k c = some m') :
    ∃ c b m, FoundEnclosed p text c b m m' := by
  have hrel := @nth?_enclosed p text k c
  rw [h] at hrel
  generalize (p.walk text).nth? k c = met at hrel
  cases hrel with
  | some hm =>
    obtain ⟨c, b, hm⟩ := hm
    exact ⟨c, b, _, hm⟩

/-- The first group of a match with the enclosed program, in the coordinates of a text that starts earlier. -/
theorem groupSpan_enclosedFrom (m : Found) (b offset : Nat) :
    groupSpan (m.enclosedFrom b) 1 offset = some ⟨offset + b + 1, m.stop - b, by omega⟩ := rfl

section Finding

variable {m : Mode} {pattern w : List Char}

/-- The whole occurrence is the first group of the match with the enclosed pattern. -/
theorem findOccurrence_result_enclosed [Engine] {Q : Engine.Program} (hdoes : Engine.Does Q p.enclosed)
    {request : Request} {window : List Char} (henclose : enclose pattern = .ok w)
    (hQ : (request.mode.compile w).result = .ok Q) :
    (findOccurrence window pattern request).result =
      .ok (((p.enclosed.walk window.toArray).nth? (request.occurrence - 1) 0).bind fun m => groupSpan m 1 0) := by
  rw [findOccurrence, Narrated.result_bind_of_ok (forGroup_zero henclose), Narrated.result_bind_of_ok hQ, hdoes.walk]
  refine walkTo_result (fun {c m'} hmet => ?_) _ _ _
  obtain ⟨_, b, m, hm⟩ := exists_of_nth?_enclosed (k := 0) hmet
  rw [hm.eq_enclosedFrom]
  exact ⟨⟨b, _⟩, rfl, hm.le_stop⟩

/-- Without `\G` the whole occurrence is located at that first group. -/
theorem locate_result_enclosed [LawfulEngine] {Q : Engine.Program} (hdoes : Engine.Does Q p.enclosed)
    {request : Request} {subject given : List Char} (hsubject : request.subject = some subject)
    (hgiven : request.pattern = some given) (hgroup : request.group = 0)
    (henclose : enclose (request.mode.literalOr given) = .ok w) (hQ : (request.mode.compile w).result = .ok Q)
    (hstart : p.node.asksSearchStart = false) :
    (locate request).result =
      .ok (((p.enclosed.walk (subject.drop (request.position - 1)).toArray).nth? (request.occurrence - 1) 0).bind
        fun m => groupSpan m 1 (request.position - 1)) := by
  rw [locate_result hsubject hgiven, hgroup, forGroup_zero henclose]
  show (request.mode.compile w).result.bind _ = _
  rw [hQ]
  have hone : ¬ Engine.groupCount Q < 1 := by
    rw [hdoes.groupCount]
    exact Nat.not_lt.mpr (Nat.le_add_left 1 p.groupCount)
  simp only [Except.bind]
  rw [if_neg hone, findOccurrence_result_enclosed hdoes henclose hQ]
  cases h : (p.enclosed.walk (subject.drop (request.position - 1)).toArray).nth? (request.occurrence - 1) 0 with
  | none => rfl
  | some m' =>
    obtain ⟨_, b, m, hm⟩ := exists_of_nth?_enclosed h
    have hplace : 0 + b + 1 - 1 = b := by omega
    simp only [Except.map, Option.bind_some]
    rw [hm.eq_enclosedFrom, groupSpan_enclosedFrom, Option.bind_some]
    simp only [hplace]
    rw [hdoes.matchAt, (hm.again hstart).2, hm.eq_enclosedFrom]
    rfl

end Finding

end Walks

/-! ### Counting and finding -/

theorem checked_occurrence {k : Nat} (hk : 1 ≤ k) : (checked .occurrence (.integer k)).result = .ok k :=
  checked_of_admits .occurrence (by simp only [Argument.admits, decide_eq_true_eq]; omega)

section Counting

variable {policy : NewlinePolicy} {parameter : Option (List Char)} {subject given w : List Char}

/-- Counting that ends with a number has walked through the matches of the pattern. -/
theorem exists_all_of_count [Engine] {position : Value} {n : Nat}
    (hcount : (count policy (some subject) (some given) position parameter).result = .ok n) :
    ∃ i P ms, (checked .position position).result = .ok i ∧
      ((Mode.ofParameter parameter true policy).compile
        ((Mode.ofParameter parameter true policy).literalOr given)).result = .ok P ∧
      (Engine.walk P (subject.drop (i - 1)).toArray).all? = some ms ∧ ms.length = n := by
  rw [count_result] at hcount
  obtain ⟨i, hposition, hcount⟩ := exists_of_bind hcount
  obtain ⟨P, hP, hcount⟩ := exists_of_bind hcount
  cases hall : (Engine.walk P (subject.drop (i - 1)).toArray).all? with
  | none =>
    rw [hall] at hcount
    cases hcount
  | some ms =>
    rw [hall] at hcount
    exact ⟨i, P, ms, hposition, hP, hall, Except.ok.inj hcount⟩

variable [LawfulEngine] {m : Mode} (hmode : m = Mode.ofParameter parameter true policy)
  (h : m.Encloses (m.literalOr given)) (hkeeps : m.KeepsRepertoire (m.literalOr given))
  (henclose : enclose (m.literalOr given) = .ok w) (hf : m.Followed (m.literalOr given)) (hf' : m.Followed w)
  (hstart : m.IgnoresSearchStart (m.literalOr given))
include hmode h hkeeps henclose hf hf' hstart

/-- Where enclosing keeps the meaning of the pattern, the place of an occurrence is read off the match of the enclosed
program. -/
theorem instr_result_enclosed {P : Engine.Program} (hP : (m.compile (m.literalOr given)).result = .ok P) :
    ∃ p, m.Describes (m.literalOr given) p ∧ Engine.Does P p ∧
      ∀ {position returnOption : Value} {i k r : Nat}, (checked .position position).result = .ok i → 1 ≤ k →
        (checked .returnOption returnOption).result = .ok r →
        (instr policy (some subject) (some given) position (.integer k) returnOption parameter (.integer 0)).result =
          .ok ((((p.enclosed.walk (subject.drop (i - 1)).toArray).nth? (k - 1) 0).bind
            fun m => groupSpan m 1 (i - 1)).elim 0 (SubjectSpan.edge r)) := by
  subst hmode
  obtain ⟨p, Q, hp, hdoes, hQ, hdoes'⟩ := hf.exists_enclosed hf' h hkeeps henclose hP
  refine ⟨p, hp, hdoes, fun {position returnOption i k r} hposition hk hreturn => ?_⟩
  rw [instr_result_of_checked hposition (checked_occurrence hk) checked_whole hreturn,
    locate_result_enclosed hdoes' rfl rfl rfl henclose hQ (hstart p hp)]
  rfl

/-- **An occurrence is found exactly if it has been counted**, where enclosing keeps the meaning of the pattern, no part
of it asks for the start of the search, and the engine follows the description on the pattern and on the text that
encloses it: if counting ends with a number, asking for the place of any occurrence ends with a place or, from that
number on, with none. -/
theorem count_agrees_with_instr {position : Value} {n : Nat}
    (hcount : (count policy (some subject) (some given) position parameter).result = .ok n) (k : Nat) (hk : 1 ≤ k) :
    ∃ s, (instr policy (some subject) (some given) position (.integer k) (.integer 0) parameter (.integer 0)).result =
      .ok s ∧ (s ≠ 0 ↔ k ≤ n) := by
  obtain ⟨i, P, ms, hposition, hP, hall, rfl⟩ := exists_all_of_count hcount
  rw [← hmode] at hP
  obtain ⟨p, hp, hdoes, hinstr⟩ := @instr_result_enclosed policy parameter subject given w _ m hmode h hkeeps henclose
    hf hf' hstart P hP
  refine ⟨_, hinstr hposition hk (checked_of_admits .returnOption rfl), ?_⟩
  -- an occurrence is found if there are as many matches
  have hsome : ((p.enclosed.walk (subject.drop (i - 1)).toArray).nth? (k - 1) 0).isSome = true ↔ k - 1 < ms.length := by
    rw [hdoes.walk] at hall
    rw [isSome_nth?_enclosed, Walk.nth?_eq_getElem? hall]
    simp
  cases h' : (p.enclosed.walk (subject.drop (i - 1)).toArray).nth? (k - 1) 0 with
  | none =>
    rw [h'] at hsome
    exact ⟨fun hne => absurd rfl hne, fun hle => absurd (hsome.mpr (by omega)) Bool.false_ne_true⟩
  | some m' =>
    rw [h'] at hsome
    have hlt := hsome.mp rfl
    obtain ⟨_, b, m, hm⟩ := exists_of_nth?_enclosed h'
    rw [hm.eq_enclosedFrom]
    exact ⟨fun _ => by omega, fun _ => SubjectSpan.edge_pos _ _⟩

end Counting

attribute [local instance] Engine.lawfulReference in
theorem count_agrees_with_instr_doubled :
    ∃ s, (instr .uniform (some "aaaa".toList) (some "(a)\\1".toList) (.integer 1) (.integer (2 : Nat)) (.integer 0) none
      (.integer 0)).result = .ok s ∧ (s ≠ 0 ↔ 2 ≤ 2) :=
  have hp : Mode.Describes (.ofParameter none true .uniform) "(a)\\1".toList doubledProgram :=
    ⟨_, rfl, by decide +kernel⟩
  @count_agrees_with_instr .uniform none "aaaa".toList "(a)\\1".toList "((a)\\2)".toList _ _ rfl
    (encloses_doubled rfl) (by decide +kernel) (by decide +kernel) (Mode.followed_reference rfl (by decide +kernel))
    (Mode.followed_reference rfl (by decide +kernel)) (Mode.ignoresSearchStart_of_describes hp rfl) (.integer 1) 2
    (by decide +kernel) 2 (by decide)

attribute [local instance] Engine.reference in
/-- The enclosed text of a pattern that counts one occurrence need not compile: a number in place of a name is not
raised, and then refers to the group around the whole. -/
theorem count_disagrees_with_instr :
    (count .uniform (some "aa".toList) (some "(a)(?P=1)".toList) (.integer 1) none).result = .ok 1 ∧
      (instr .uniform (some "aa".toList) (some "(a)(?P=1)".toList) (.integer 1) (.integer 1) (.integer 0) none
        (.integer 0)).result = .error (.pattern (.malformed "cannot refer to an open group at position 7")) :=
  ⟨by decide +kernel, by decide +kernel⟩

/-! ### Matching once more -/

section Matching

variable [Engine] {request : Request} {window pattern w : List Char} {P Q : Engine.Program} {whole : SubjectSpan}

/-- **A match is found again with all its groups**, where enclosing keeps the meaning of the pattern, the pattern has
neither `\G` nor `\K`, and the engine follows the description on both texts. Whatever occurrence has been found, the
enclosed pattern matches at its start as it did when the occurrence was counted, and so does the pattern itself: over
the whole occurrence, with each group as in the match counted. -/
theorem occurrence_matched_again (h : request.mode.Encloses pattern) (hkeeps : request.mode.KeepsRepertoire pattern)
    (henclose : enclose pattern = .ok w) (hf : request.mode.Followed pattern) (hf' : request.mode.Followed w)
    (hmoves : request.mode.KeepsStart pattern) (hstart : request.mode.IgnoresSearchStart pattern)
    (hP : (request.mode.compile pattern).result = .ok P) (hQ : (request.mode.compile w).result = .ok Q)
    (hfound : (findOccurrence window pattern request).result = .ok (some whole)) :
    ∃ counted m, (Engine.walk Q window.toArray).nth? (request.occurrence - 1) 0 = some counted ∧
      Engine.matchAt Q window.toArray (whole.start - 1) = some counted ∧
      Engine.matchAt P window.toArray (whole.start - 1) = some m ∧
      (counted.start = whole.start - 1 ∧ counted.stop = whole.stop - 1) ∧
      (m.start = whole.start - 1 ∧ m.stop = whole.stop - 1) ∧
      ∀ i, 1 ≤ i → m.span? i = counted.span? (i + 1) := by
  obtain ⟨p, Q', hp, hdoes, hQ', hdoes'⟩ := hf.exists_enclosed hf' h hkeeps henclose hP
  obtain rfl : Q' = Q := Except.ok.inj (hQ'.symm.trans hQ)
  rw [findOccurrence_result_enclosed hdoes' henclose hQ] at hfound
  obtain ⟨counted, hcounted, hspan⟩ := Option.bind_eq_some_iff.mp (Except.ok.inj hfound)
  obtain ⟨_, b, m, hm⟩ := exists_of_nth?_enclosed hcounted
  obtain ⟨hagain, hagain'⟩ := hm.again (hstart p hp)
  have hle := hm.le_stop
  -- the extent counts from one, the cursor from zero
  have hwhole : whole.start - 1 = b ∧ whole.stop - 1 = m.stop := by
    rw [hm.eq_enclosedFrom, groupSpan_enclosedFrom] at hspan
    obtain rfl := Option.some.inj hspan
    show 0 + b + 1 - 1 = b ∧ 0 + b + 1 + (m.stop - b) - 1 = m.stop
    omega
  have hextent : m.start = b ∧ m.stop = m.stop := ⟨(Program.start_of_attempt? (hmoves p hp) hm.attempt).1, rfl⟩
  rw [hwhole.1, hwhole.2, hdoes.matchAt, hdoes'.matchAt, hdoes'.walk]
  refine ⟨counted, m, hcounted, hagain', hagain, ?_, hextent, fun i hi => ?_⟩
  · rw [hm.eq_enclosedFrom]
    exact hextent
  · rw [hm.eq_enclosedFrom]
    exact (span?_enclosedFrom m b hi).symm

end Matching

attribute [local instance] Engine.reference in
theorem occurrence_matched_again_doubled :
    ∃ counted m, (Engine.walk doubledProgram.enclosed "baaaa".toList.toArray).nth? 1 0 = some counted ∧
      Engine.matchAt doubledProgram.enclosed "baaaa".toList.toArray 3 = some counted ∧
      Engine.matchAt doubledProgram "baaaa".toList.toArray 3 = some m ∧
      (counted.start = 3 ∧ counted.stop = 5) ∧ (m.start = 3 ∧ m.stop = 5) ∧
      ∀ i, 1 ≤ i → m.span? i = counted.span? (i + 1) :=
  have hp : Mode.Describes {} "(a)\\1".toList doubledProgram := ⟨_, rfl, by decide +kernel⟩
  @occurrence_matched_again _ ⟨some "baaaa".toList, some "(a)\\1".toList, 1, 2, 1, {}⟩ "baaaa".toList "(a)\\1".toList
    "((a)\\2)".toList doubledProgram doubledProgram.enclosed ⟨4, 2, by decide⟩ (encloses_doubled rfl)
    (by decide +kernel) (by decide +kernel) (Mode.followed_reference rfl (by decide +kernel))
    (Mode.followed_reference rfl (by decide +kernel)) (Mode.keepsStart_of_describes hp rfl)
    (Mode.ignoresSearchStart_of_describes hp rfl) (by decide +kernel) (by decide +kernel) (by decide +kernel)

/-- The program of `(\Gb)|(b)`. -/
def searchStartProgram : Program :=
  ⟨.alt (.group 1 (.seq (.assertion .searchStart) (.one (.char 98 true .exact))))
    (.alt (.group 2 (.one (.char 98 true .exact))) .fail), 2, false, .worldwide⟩

attribute [local instance] Engine.reference in
/-- With `\G` another alternative may match once more: the occurrence has been counted through the second group, which
takes no part where the search starts at the occurrence. -/
theorem occurrence_matched_otherwise :
    ∃ (request : Request) (window w : List Char) (whole : SubjectSpan) (counted m : Found),
      enclose "(\\Gb)|(b)".toList = .ok w ∧
      (request.mode.compile "(\\Gb)|(b)".toList).result = .ok searchStartProgram ∧
      (request.mode.compile w).result = .ok searchStartProgram.enclosed ∧
      (findOccurrence window "(\\Gb)|(b)".toList request).result = .ok (some whole) ∧
      (searchStartProgram.enclosed.walk window.toArray).nth? (request.occurrence - 1) 0 = some counted ∧
      searchStartProgram.matchAt window.toArray (whole.start - 1) = some m ∧
      counted.span? 3 = some (some ⟨1, 2⟩) ∧ m.span? 2 = some none :=
  ⟨⟨some "ab".toList, some "(\\Gb)|(b)".toList, 1, 1, 2, {}⟩, "ab".toList, "((\\Gb)|(b))".toList, ⟨2, 1, by decide⟩,
    ⟨1, 2, [some ⟨1, 2⟩, none, some ⟨1, 2⟩]⟩, ⟨1, 2, [some ⟨1, 2⟩, none]⟩, by decide +kernel, by decide +kernel,
    by decide +kernel, by decide +kernel, by decide +kernel, by decide +kernel, rfl, rfl⟩

/-! ### Moving on -/

section Moving

variable {p : Program} {text : Array Char} {k offset : Nat} {s s' : SubjectSpan}

theorem offset_lt_start {found : Found} {group : Nat} (h : groupSpan found group offset = some s) :
    offset < s.start := by
  unfold groupSpan at h
  obtain ⟨e, -, rfl⟩ := Option.map_eq_some_iff.mp h
  show offset < offset + e.start + 1
  omega

/-- Where no start is moved back, two occurrences in a row do not overlap, and the second starts behind the start of the
first: what is read is where their attempts began. -/
theorem edges_in_order (hp : p.KeepsStartAhead)
    (h : ((p.enclosed.walk text).nth? k 0).bind (groupSpan · 1 offset) = some s)
    (h' : ((p.enclosed.walk text).nth? (k + 1) 0).bind (groupSpan · 1 offset) = some s') :
    s.start < s'.start ∧ s.stop ≤ s'.start := by
  obtain ⟨found, hfound, hspan⟩ := Option.bind_eq_some_iff.mp h
  obtain ⟨found', hfound', hspan'⟩ := Option.bind_eq_some_iff.mp h'
  obtain ⟨_, b, m, hm⟩ := exists_of_nth?_enclosed hfound
  have hle := hm.le_stop
  have hstart := (Program.le_start_of_attempt? hp hm.attempt).2
  rw [hm.eq_enclosedFrom, groupSpan_enclosedFrom] at hspan
  obtain rfl := Option.some.inj hspan
  -- the second is met where the walk goes on after the first, which is behind the place of the first attempt
  have hnext : b < found.next ∧ m.stop ≤ found.next := by
    rw [hm.eq_enclosedFrom]
    show b < (if m.start < m.stop then m.stop else m.stop + 1) ∧ m.stop ≤ if m.start < m.stop then m.stop else m.stop + 1
    split <;> omega
  rw [Walk.nth?_succ, hfound] at hfound'
  have hrel := @met?_enclosed p text found.next
  rw [show (p.enclosed.walk text).met? found.next = some found' from hfound'] at hrel
  generalize (p.walk text).met? found.next = met at hrel
  cases hrel with
  | some hm' =>
    obtain ⟨b', hm'⟩ := hm'
    have hcursor := (Program.le_start_of_attempt? hp hm'.attempt).1
    have hsize : found.next ≤ text.size := Walk.le_of_met? hfound'
    rw [hm'.eq_enclosedFrom, groupSpan_enclosedFrom] at hspan'
    obtain rfl := Option.some.inj hspan'
    show offset + b + 1 < offset + b' + 1 ∧ offset + b + 1 + (m.stop - b) ≤ offset + b' + 1
    omega

/-- The numbers for two occurrences in a row, where 0 stands for none. -/
theorem elim_edges_in_order {o o' : Option SubjectSpan} {i : Nat} (hfirst : ∀ s, o = some s → i ≤ s.start)
    (horder : ∀ s, o = some s → ∀ s', o' = some s' → s.start < s'.start ∧ s.stop ≤ s'.start) :
    (o.elim 0 (SubjectSpan.edge 0) ≠ 0 → i ≤ o.elim 0 (SubjectSpan.edge 0)) ∧
      (o.elim 0 (SubjectSpan.edge 0) ≠ 0 → o'.elim 0 (SubjectSpan.edge 0) ≠ 0 →
        o.elim 0 (SubjectSpan.edge 0) < o'.elim 0 (SubjectSpan.edge 0) ∧
          o.elim 0 (SubjectSpan.edge 1) ≤ o'.elim 0 (SubjectSpan.edge 0)) := by
  cases o with
  | none => exact ⟨fun hne => absurd rfl hne, fun hne => absurd rfl hne⟩
  | some s =>
    refine ⟨fun _ => hfirst s rfl, fun _ hne' => ?_⟩
    cases o' with
    | none => exact absurd rfl hne'
    | some s' => exact horder s rfl s' rfl

end Moving

/-- No part of a pattern that is looked at behind moves the start of its match, as `\K` does there. -/
def Mode.KeepsStartAhead (m : Mode) (pattern : List Char) : Prop := ∀ p, m.Describes pattern p → p.KeepsStartAhead

theorem Mode.keepsStartAhead_of_describes {m : Mode} {pattern : List Char} {p : Program} (h : m.Describes pattern p)
    (hp : p.KeepsStartAhead) : m.KeepsStartAhead pattern :=
  fun _ h' => h.unique h' ▸ hp

/-- **A walk moves on**, where nothing is found before the cursor: the cursor grows with every match, so that there is
at most one match more than there are characters, and counting ends. So it is wherever the engine follows the
description and no part of the pattern that is looked at behind moves the start of its match. Where enclosing keeps the
meaning of the pattern as well and no part of it asks for the start of the search, occurrences found in a row do not
overlap, and each starts behind the start of the one before. -/
theorem walk_moves_on [LawfulEngine] {m : Mode} {pattern : List Char} {P : Engine.Program}
    (hP : (m.compile pattern).result = .ok P) :
    (∀ text : Array Char, Engine.NeverBefore P text →
      (∀ c found, (Engine.walk P text).met? c = some found → c < found.next) ∧
      ∃ ms : List Found, ms.length ≤ text.size + 1 ∧ ∀ k, (Engine.walk P text).nth? k 0 = ms[k]?) ∧
    (m.Followed pattern → m.KeepsStartAhead pattern → ∀ text, Engine.NeverBefore P text) ∧
    ∀ policy parameter given, m = Mode.ofParameter parameter true policy → pattern = m.literalOr given →
      ∀ (subject : List Char) (position : Value) (i : Nat), (checked .position position).result = .ok i →
        (Engine.NeverBefore P (subject.drop (i - 1)).toArray →
          ∃ n, (count policy (some subject) (some given) position parameter).result = .ok n ∧
            n ≤ subject.length - (i - 1) + 1) ∧
        ∀ w, enclose pattern = .ok w → m.Followed pattern → m.Followed w → m.Encloses pattern →
          m.KeepsRepertoire pattern → m.KeepsStartAhead pattern → m.IgnoresSearchStart pattern → ∀ k : Nat, 1 ≤ k →
            let place := fun (k : Nat) (returnOption : Int) => (instr policy (some subject) (some given) position
              (.integer k) (.integer returnOption) parameter (.integer 0)).result
            ∃ start stop start', place k 0 = .ok start ∧ place k 1 = .ok stop ∧ place (k + 1) 0 = .ok start' ∧
              (start ≠ 0 → i ≤ start) ∧ (start ≠ 0 → start' ≠ 0 → start < start' ∧ stop ≤ start') := by
  have hall {text : Array Char} (htext : Engine.NeverBefore P text) :
      ∃ ms, (Engine.walk P text).all? = some ms ∧ ms.length ≤ text.size + 1 := by
    obtain ⟨ms, hms⟩ := Walk.exists_all (w := Engine.walk P text) htext.lt_next
    exact ⟨ms, hms, Walk.length_le_of_upTo? hms⟩
  refine ⟨fun text htext => ⟨fun c found hfound => htext.lt_next hfound, ?_⟩, fun hf hahead text => ?_, ?_⟩
  · obtain ⟨ms, hms, hlength⟩ := hall htext
    exact ⟨ms, hlength, Walk.nth?_eq_getElem? hms⟩
  · obtain ⟨p, hp, hdoes⟩ := hf.exists_does hP
    exact hdoes.neverBefore (hahead p hp) text
  · rintro policy parameter given rfl rfl subject position i hposition
    refine ⟨fun htext => ?_, fun w henclose hf hf' h hkeeps hahead hstart k hk => ?_⟩
    · obtain ⟨ms, hms, hlength⟩ := hall htext
      refine ⟨ms.length, ?_, by simpa using hlength⟩
      rw [count_result, hposition]
      show Except.bind _ _ = _
      rw [hP]
      show Option.elim _ _ _ = _
      rw [hms]
      rfl
    · obtain ⟨p, hp, -, hinstr⟩ := @instr_result_enclosed policy parameter subject given w _ _ rfl h hkeeps henclose
        hf hf' hstart P hP
      have hzero := @checked_of_admits .returnOption 0 rfl
      have hone := @checked_of_admits .returnOption 1 rfl
      have hk' : k + 1 - 1 = k - 1 + 1 := by omega
      refine ⟨_, _, _, hinstr hposition hk hzero, hinstr hposition hk hone,
        hinstr hposition (Nat.le_add_left 1 k) hzero, ?_⟩
      rw [hk']
      refine elim_edges_in_order (fun s hs => ?_) fun s hs s' hs' => edges_in_order (hahead p hp) hs hs'
      obtain ⟨found, -, hspan⟩ := Option.bind_eq_some_iff.mp hs
      have := offset_lt_start hspan
      omega

/-- The program of `a\Kb`. -/
def keptEndProgram : Program :=
  ⟨.seq (.one (.char 97 true .exact)) (.seq .keep (.one (.char 98 true .exact))), 0, false, .worldwide⟩

theorem encloses_keptEnd {m : Mode} : m.Encloses "a\\Kb".toList where
  clear := by
    refine ⟨true, fun _ => rfl, ?_⟩
    have hkeep : PlainEscape true 'K' ['b'] := ⟨fun h => absurd h (by decide), fun h => absurd h (by decide)⟩
    exact .char (by decide) (by decide) (.escape hkeep (.char (by decide) (by decide) .done))
  not_question := by decide
  not_star := by decide

attribute [local instance] Engine.lawfulReference in
theorem walk_moves_on_kept_end :
    let place := fun (k : Nat) (returnOption : Int) => (instr .uniform (some "abab".toList) (some "a\\Kb".toList)
      (.integer 1) (.integer k) (.integer returnOption) none (.integer 0)).result
    (∀ text : Array Char, (∀ c found, (Engine.walk keptEndProgram text).met? c = some found → c < found.next) ∧
      ∃ ms : List Found, ms.length ≤ text.size + 1 ∧ ∀ k, (Engine.walk keptEndProgram text).nth? k 0 = ms[k]?) ∧
    (∃ n, (count .uniform (some "abab".toList) (some "a\\Kb".toList) (.integer 1) none).result = .ok n ∧ n ≤ 5) ∧
    ∃ start stop start', place 1 0 = .ok start ∧ place 1 1 = .ok stop ∧ place 2 0 = .ok start' ∧
      (start ≠ 0 → 1 ≤ start) ∧ (start ≠ 0 → start' ≠ 0 → start < start' ∧ stop ≤ start') := by
  intro place
  have hp : (Mode.ofParameter none true .uniform).Describes "a\\Kb".toList keptEndProgram :=
    ⟨_, rfl, by decide +kernel⟩
  have hf : (Mode.ofParameter none true .uniform).Followed "a\\Kb".toList :=
    Mode.followed_reference rfl (by decide +kernel)
  have hahead := Mode.keepsStartAhead_of_describes hp (.inr rfl)
  have h := @walk_moves_on _ (.ofParameter none true .uniform) "a\\Kb".toList keptEndProgram (by decide +kernel)
  obtain ⟨hcount, hplace⟩ := h.2.2 .uniform none "a\\Kb".toList rfl rfl "abab".toList (.integer 1) 1 (by decide +kernel)
  have hnever := h.2.1 hf hahead
  exact ⟨fun text => h.1 text (hnever text), hcount (hnever _),
    hplace "(a\\Kb)".toList (by decide +kernel) hf (Mode.followed_reference rfl (by decide +kernel)) encloses_keptEnd
      (by decide +kernel) hahead (Mode.ignoresSearchStart_of_describes hp rfl) 1 (by decide)⟩

attribute [local instance] Engine.reference in
/-- A pattern that moves the start of its match before the cursor is found again and again: counting has no end, and
more occurrences are found than the subject has places. -/
theorem walk_stays :
    (count .uniform (some "a".toList) (some "(?<=\\Ka)".toList) (.integer 1) none).result = .error .endless ∧
      (instr .uniform (some "a".toList) (some "(?<=\\Ka)".toList) (.integer 1) (.integer 2) (.integer 0) none
        (.integer 0)).result = .ok 2 ∧
      (instr .uniform (some "a".toList) (some "(?<=\\Ka)".toList) (.integer 1) (.integer 3) (.integer 0) none
        (.integer 0)).result = .ok 2 :=
  ⟨by decide +kernel, by decide +kernel, by decide +kernel⟩

end SqlRegexp
