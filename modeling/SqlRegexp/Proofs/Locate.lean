import SqlRegexp.Dialect.Functions
import SqlRegexp.Proofs.Engine

/-!
Finding an occurrence against a walk of the pattern itself.

`locate` walks the enclosed pattern and then matches once more at the place found; `locate_eq_walk` says that it reads
the group of the match that a plain walk of the pattern meets there, given three laws of the engine: matches lie behind
the cursor (`Engine.Advances`), the enclosed pattern finds the same matches (`Engine.Transparent`), and a match is found
again at its own start (`Engine.FindsAgain`).
-/

namespace SqlRegexp

open SqlRegexp.Match

/-! ### Reading a group where an occurrence has been found -/

section Locate

variable {request : Request} {enclosed : List Char}

theorem forGroup_zero {pattern : List Char} (h : PatternText.enclose pattern = .ok enclosed) :
    (forGroup pattern 0).result = .ok (enclosed, 1) := by
  unfold forGroup PatternText.forGroup
  rw [if_pos rfl, h]
  rfl

theorem forGroup_pos {pattern : List Char} {group : Nat} (h : 0 < group) :
    (forGroup pattern group).result = .ok (pattern, group) := by
  unfold forGroup PatternText.forGroup
  rw [if_neg (by omega)]
  rfl

/-- The span of the group asked for, in a match of the pattern in the part of the subject that is searched. -/
def Request.spanIn (request : Request) (m : Found) : Option SubjectSpan :=
  groupSpan m request.group (request.position - 1)

section Reading

variable [Engine] {q : Engine.Program} {group : Nat}

/-- Where a match is found again, its group is read. -/
theorem readGroup_result {window : List Char} {m : Found} {e : Option Span}
    {whole : SubjectSpan} {place : Nat} (hplace : whole.start - 1 = place)
    (hagain : Engine.matchAt q window.toArray place = some m) (he : m.span? group = some e)
    (hle : ∀ s, e = some s → s.start ≤ s.stop) :
    (readGroup request q group window whole).result = .ok (groupSpan m group (request.position - 1)) := by
  subst hplace
  unfold readGroup groupSpan
  simp only [hagain, bounds, he, Narrated.result_bind, Narrated.result_ofResult, Option.join_some]
  cases e with
  | none => rfl
  | some s =>
    have hspan := SubjectSpan.ofInts_of_le (request.position - 1) (hle s rfl)
    have hstart : ¬ ((s.start : Int) < 0) := by omega
    simp [Except.mapError, bind, Except.bind, hstart, hspan]

/-- What `locate` does once its pattern is compiled and has the group. -/
theorem locate_result_of_compile {subject given effective : List Char}
    (hsubject : request.subject = some subject) (hgiven : request.pattern = some given)
    (hfor : (forGroup (request.mode.literalOr given) request.group).result = .ok (effective, group))
    (hq : (request.mode.compile effective).result = .ok q) (hgroup : group ≤ Engine.groupCount q)
    {found : Option SubjectSpan}
    (hfind : (findOccurrence (subject.drop (request.position - 1)) (request.mode.literalOr given) request).result =
      .ok found) :
    (locate request).result = found.elim (.ok none) fun whole =>
      (readGroup request q group (subject.drop (request.position - 1)) whole).result := by
  unfold locate
  rw [hsubject, hgiven]
  dsimp only
  rw [Narrated.result_bind_of_ok hfor, Narrated.result_bind_of_ok hq]
  dsimp only
  rw [if_neg (by omega), Narrated.result_bind_of_ok hfind]
  cases found <;> rfl

/-- A group that the pattern does not have is not found. -/
theorem locate_result_of_missing {subject given effective : List Char}
    (hsubject : request.subject = some subject) (hgiven : request.pattern = some given)
    (hfor : (forGroup (request.mode.literalOr given) request.group).result = .ok (effective, group))
    (hq : (request.mode.compile effective).result = .ok q) (hgroup : Engine.groupCount q < group) :
    (locate request).result = .ok none := by
  unfold locate
  rw [hsubject, hgiven]
  dsimp only
  rw [Narrated.result_bind_of_ok hfor, Narrated.result_bind_of_ok hq]
  dsimp only
  rw [if_pos hgroup]
  rfl

end Reading

section Laws

variable [LawfulEngine] {p w : Engine.Program}

/-- The walk to an occurrence of an enclosed pattern gives the whole extent of the match of the pattern itself. -/
theorem findOccurrence_result {window pattern : List Char} (henclosed : PatternText.enclose pattern = .ok enclosed)
    (hw : (request.mode.compile enclosed).result = .ok w) (hadv : Engine.Advances p window.toArray)
    (htr : Engine.Transparent p w window.toArray) :
    (findOccurrence window pattern request).result =
      .ok (((Engine.walk p window.toArray).nth? (request.occurrence - 1) 0).bind fun m => groupSpan m 0 0) := by
  have hgroup : ∀ {c m}, (Engine.walk w window.toArray).met? c = some m → ∃ s, m.span? 1 = some (some s) ∧
      s.start ≤ s.stop := by
    intro c m hm
    rw [htr.met?] at hm
    obtain ⟨m', hm', rfl⟩ := Option.map_eq_some_iff.mp hm
    exact ⟨_, m'.enclosed_span?_one, hadv.forward.start_le hm'⟩
  rw [findOccurrence, Narrated.result_bind_of_ok (forGroup_zero henclosed), Narrated.result_bind_of_ok hw,
    walkTo_result hgroup, htr.nth?]
  congr 1
  cases (Engine.walk p window.toArray).nth? (request.occurrence - 1) 0 with
  | none => rfl
  | some m => rfl

variable {subject given : List Char} (hsubject : request.subject = some subject)
  (hgiven : request.pattern = some given)
  (henclosed : PatternText.enclose (request.mode.literalOr given) = .ok enclosed)
  (hw : (request.mode.compile enclosed).result = .ok w)
  (hadv : Engine.Advances p (subject.drop (request.position - 1)).toArray)
  (htr : Engine.Transparent p w (subject.drop (request.position - 1)).toArray)

include hsubject hgiven henclosed hw hadv htr

/-- The whole match is read as the first group of the enclosed pattern. -/
theorem locate_result_zero (hgroup : request.group = 0)
    (hagain : Engine.FindsAgain w (subject.drop (request.position - 1)).toArray) :
    (locate request).result =
      .ok (((Engine.walk p (subject.drop (request.position - 1)).toArray).nth? (request.occurrence - 1) 0).bind
        request.spanIn) := by
  have hfor : (forGroup (request.mode.literalOr given) request.group).result = .ok (enclosed, 1) := by
    rw [hgroup]
    exact forGroup_zero henclosed
  have hone : 1 ≤ Engine.groupCount w := by rw [htr.groupCount]; omega
  rw [locate_result_of_compile hsubject hgiven hfor hw hone (findOccurrence_result henclosed hw hadv htr)]
  cases hm : (Engine.walk p (subject.drop (request.position - 1)).toArray).nth? (request.occurrence - 1) 0 with
  | none => rfl
  | some m =>
    obtain ⟨c, hc⟩ := Walk.exists_met?_of_nth? hm
    have hsearch := htr.search c (Walk.le_of_met? hc)
    rw [show Engine.search p _ c = some m from Walk.search_of_met? hc] at hsearch
    have hmatch := hagain c _ (Walk.le_of_met? hc) hsearch
    have hplace : 0 + m.start + 1 - 1 = m.enclosed.start := by show _ = m.start; omega
    have hle := hadv.forward.start_le hc
    simp only [Option.bind_some, groupSpan, Found.span?, if_true, Option.join_some, Option.map_some, Option.elim_some]
    rw [readGroup_result hplace hmatch m.enclosed_span?_one fun s hs => by cases hs; exact hle]
    unfold Request.spanIn
    rw [hgroup]
    rfl

/-- Any other group is read from the pattern itself. -/
theorem locate_result_pos (hgroup : 0 < request.group)
    (hp : (request.mode.compile (request.mode.literalOr given)).result = .ok p)
    (hagain : Engine.FindsAgain p (subject.drop (request.position - 1)).toArray) :
    (locate request).result =
      .ok (((Engine.walk p (subject.drop (request.position - 1)).toArray).nth? (request.occurrence - 1) 0).bind
        request.spanIn) := by
  have hfor := @forGroup_pos (request.mode.literalOr given) _ hgroup
  rcases Nat.lt_or_ge (Engine.groupCount p) request.group with hlt | hle
  · rw [locate_result_of_missing hsubject hgiven hfor hp hlt]
    cases hm : (Engine.walk p (subject.drop (request.position - 1)).toArray).nth? (request.occurrence - 1) 0 with
    | none => rfl
    | some m =>
      have hnone := (Engine.within_of_nth? hm).span?_eq_none hlt
      simp [Request.spanIn, groupSpan, hnone]
  · rw [locate_result_of_compile hsubject hgiven hfor hp hle (findOccurrence_result henclosed hw hadv htr)]
    cases hm : (Engine.walk p (subject.drop (request.position - 1)).toArray).nth? (request.occurrence - 1) 0 with
    | none => rfl
    | some m =>
      obtain ⟨c, hc⟩ := Walk.exists_met?_of_nth? hm
      have hwithin := Engine.within_of_met? hc
      have hmatch := hagain c m (Walk.le_of_met? hc) (Walk.search_of_met? hc)
      have hplace : 0 + m.start + 1 - 1 = m.start := by omega
      obtain ⟨e, he⟩ := hwithin.exists_span? hle
      have hstart := hadv.forward.start_le hc
      simp only [Option.bind_some, groupSpan, Found.span?, if_true, Option.join_some, Option.map_some,
        Option.elim_some]
      rw [readGroup_result hplace hmatch he fun s hs => hwithin.span?_le hstart (hs ▸ he)]
      rfl

end Laws

end Locate

section Counting

variable [LawfulEngine]

/-- Counting is walking through the pattern itself. -/
theorem count_result_of_walk {policy : NewlinePolicy} {subject given : List Char} {position : Nat}
    {parameter : Option (List Char)} {p : Engine.Program} {ms : List Found} (hposition : 1 ≤ position)
    (hp : ((Mode.ofParameter parameter true policy).compile
      ((Mode.ofParameter parameter true policy).literalOr given)).result = .ok p)
    (hms : (Engine.walk p (subject.drop (position - 1)).toArray).all? = some ms) :
    (count policy (some subject) (some given) (.integer position) parameter).result = .ok ms.length := by
  have hchecked : (checked .position (.integer position)).result = .ok position := by
    have hadmits : Argument.position.admits (position : Int) = true := by
      simp only [Argument.admits, decide_eq_true_eq]
      omega
    simp [checked, Argument.checkOptional, Argument.check, hadmits, Except.mapError]
  unfold count
  rw [Narrated.result_bind_of_ok hchecked]
  dsimp only
  rw [Narrated.result_bind_of_ok (Narrated.result_tell _), Narrated.result_bind_of_ok hp, hms]
  rfl

/-- **`locate` against a plain walk.** With the pattern and its enclosed form compiled, and the three laws of the
engine on the part of the subject that is searched, the occurrence asked for is the one at its place in the list of
matches of the pattern itself, the group is read from that match, and nothing is found exactly if there are too few
matches, too few groups, or the group took no part. `count` gives the number of those matches. -/
theorem locate_eq_walk (request : Request) (subject given enclosed : List Char) (p w : Engine.Program)
    (hsubject : request.subject = some subject) (hgiven : request.pattern = some given)
    (hposition : 1 ≤ request.position) (hoccurrence : 1 ≤ request.occurrence)
    (hp : (request.mode.compile (request.mode.literalOr given)).result = .ok p)
    (henclosed : PatternText.enclose (request.mode.literalOr given) = .ok enclosed)
    (hw : (request.mode.compile enclosed).result = .ok w)
    (hadv : Engine.Advances p (subject.drop (request.position - 1)).toArray)
    (htr : Engine.Transparent p w (subject.drop (request.position - 1)).toArray)
    (hpagain : Engine.FindsAgain p (subject.drop (request.position - 1)).toArray)
    (hwagain : Engine.FindsAgain w (subject.drop (request.position - 1)).toArray) :
    ∃ ms, (Engine.walk p (subject.drop (request.position - 1)).toArray).all? = some ms ∧
      (locate request).result = .ok (ms[request.occurrence - 1]?.bind request.spanIn) ∧
      ((locate request).result = .ok none ↔
        ms.length < request.occurrence ∨ Engine.groupCount p < request.group ∨
          ∃ m, ms[request.occurrence - 1]? = some m ∧ m.span? request.group = some none) ∧
      ∀ policy parameter, request.mode = Mode.ofParameter parameter true policy →
        (count policy (some subject) (some given) (.integer request.position) parameter).result = .ok ms.length := by
  obtain ⟨ms, hms⟩ := hadv.forward.exists_all
  have hnth := Walk.nth?_eq_getElem? hms (request.occurrence - 1)
  have hlocate : (locate request).result = .ok (ms[request.occurrence - 1]?.bind request.spanIn) := by
    rw [← hnth]
    rcases Nat.eq_zero_or_pos request.group with hgroup | hgroup
    · exact locate_result_zero hsubject hgiven henclosed hw hadv htr hgroup hwagain
    · exact locate_result_pos hsubject hgiven henclosed hw hadv htr hgroup hp hpagain
  refine ⟨ms, hms, hlocate, ?_, fun policy parameter hmode => ?_⟩
  · -- no answer: too few matches, or no such group, or one that took no part
    rw [hlocate, Except.ok.injEq]
    cases hm : ms[request.occurrence - 1]? with
    | none =>
      have hlt : ms.length < request.occurrence := by
        have := List.getElem?_eq_none_iff.mp hm
        omega
      simp [hlt]
    | some m =>
      have hge : ¬ ms.length < request.occurrence := by
        have := (List.getElem?_eq_some_iff.mp hm).1
        omega
      have hwithin := Engine.within_of_nth? (hnth.trans hm)
      simp only [Option.bind_some, hge, false_or, Option.some.injEq, exists_eq_left']
      unfold Request.spanIn groupSpan
      rw [Option.map_eq_none_iff]
      rcases Nat.lt_or_ge (Engine.groupCount p) request.group with hlt | hle
      · simp [hwithin.span?_eq_none hlt, hlt]
      · obtain ⟨e, he⟩ := hwithin.exists_span? hle
        simp [he, Nat.not_lt.mpr hle]
  · exact count_result_of_walk hposition (hmode ▸ hp) hms

end Counting

/-- The program of `(a)(b)`. -/
def pairProgram : Match.Program :=
  ⟨.seq (.group 1 (.one (.char 97 true .exact))) (.group 2 (.one (.char 98 true .exact))), 2, false, .worldwide⟩

attribute [local instance] Engine.lawfulReference in
theorem locate_eq_walk_pair :
    let request : Request := ⟨some "xabab".toList, some "(a)(b)".toList, 2, 2, 2, Mode.ofParameter none true .uniform⟩
    ∃ ms, (pairProgram.walk "abab".toList.toArray).all? = some ms ∧
      (locate request).result = .ok (ms[1]?.bind request.spanIn) ∧
      ((locate request).result = .ok none ↔
        ms.length < 2 ∨ 2 < 2 ∨ ∃ m, ms[1]? = some m ∧ m.span? 2 = some none) ∧
      ∀ policy parameter, request.mode = Mode.ofParameter parameter true policy →
        (count policy (some "xabab".toList) (some "(a)(b)".toList) (.integer 2) parameter).result = .ok ms.length :=
  locate_eq_walk ⟨some "xabab".toList, some "(a)(b)".toList, 2, 2, 2, Mode.ofParameter none true .uniform⟩
    "xabab".toList "(a)(b)".toList "((a)(b))".toList pairProgram pairProgram.enclosed rfl rfl (by decide) (by decide)
    (by decide +kernel) (by decide +kernel) (by decide +kernel)
    ((Engine.reference_does pairProgram).advances rfl _)
    (Engine.transparent_of_does (Engine.reference_does _) (Engine.reference_does _) rfl _)
    ((Engine.reference_does _).findsAgain rfl rfl _) ((Engine.reference_does _).findsAgain rfl rfl _)

end SqlRegexp
