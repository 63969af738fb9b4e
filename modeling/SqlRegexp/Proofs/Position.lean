import SqlRegexp.Proofs.Functions

/-!
Where a search starts.

The functions search the part of the subject from the position on and nothing before it. So a position says no more
than which part that is: an occurrence found there from the first character on is the one found in the subject from
the position on, moved by the characters before it (`locate_result_shifted`, `results_from_position`).
-/

namespace SqlRegexp

open SqlRegexp.Match

namespace SubjectSpan

/-- A span as it lies in a text with more characters in front. -/
def shifted (s : SubjectSpan) (before : Nat) : SubjectSpan where
  start := s.start + before
  length := s.length
  start_pos := Nat.le_add_right_of_le s.start_pos

theorem edge_shifted (s : SubjectSpan) (before returnOption : Nat) :
    (s.shifted before).edge returnOption = s.edge returnOption + before := by
  unfold edge stop
  split
  · simp only [shifted]
    omega
  · rfl

theorem edge_pos (s : SubjectSpan) (returnOption : Nat) : s.edge returnOption ≠ 0 := by
  have hstart := s.start_pos
  unfold edge stop
  split <;> omega

theorem extract_shifted (s : SubjectSpan) (before : Nat) (subject : List Char) :
    (s.shifted before).extract subject = s.extract (subject.drop before) := by
  have hstart := s.start_pos
  simp only [extract, shifted, List.drop_drop]
  congr 2
  omega

end SubjectSpan

/-! ### Locating an occurrence -/

/-- The walk to an occurrence does not look at the request: it only tells about it. -/
theorem walkTo_result_congr {request request' : Request} (pattern : List Char) (group : Nat) (w : Walk)
    (ahead passed cursor : Nat) :
    (walkTo request pattern group w ahead passed cursor).result =
      (walkTo request' pattern group w ahead passed cursor).result := by
  induction ahead generalizing passed cursor with
  | zero =>
    unfold walkTo
    cases w.met? cursor <;> simp only [Narrated.result_bind, Narrated.result_tell]
  | succ ahead ih =>
    unfold walkTo
    cases w.met? cursor with
    | none => simp only [Narrated.result_bind, Narrated.result_tell]
    | some m => simp only [Narrated.result_bind, Narrated.result_tell, ih]

theorem findOccurrence_result_congr [Engine] (request request' : Request)
    (hoccurrence : request.occurrence = request'.occurrence) (hmode : request.mode = request'.mode)
    (window pattern : List Char) :
    (findOccurrence window pattern request).result = (findOccurrence window pattern request').result := by
  simp only [findOccurrence, Narrated.result_bind, hoccurrence, hmode]
  refine congrArg _ (funext fun enclosed => congrArg _ (funext fun program => ?_))
  exact walkTo_result_congr ..

theorem groupSpan_shifted (m : Found) (group before : Nat) :
    groupSpan m group before = (groupSpan m group 0).map (SubjectSpan.shifted · before) := by
  unfold groupSpan
  rw [Option.map_map]
  refine congrArg (Option.map · _) (funext fun s => ?_)
  simp only [Function.comp, SubjectSpan.shifted]
  congr 1
  omega

/-- **An occurrence from a position on** is the one in the part of the subject from there, moved by what is before. -/
theorem locate_result_shifted [LawfulEngine] (subject : List Char) (pattern : Option (List Char))
    (before occurrence group : Nat) (mode : Mode) :
    (locate ⟨some subject, pattern, before + 1, occurrence, group, mode⟩).result =
      (locate ⟨some (subject.drop before), pattern, 1, occurrence, group, mode⟩).result.map
        (Option.map (SubjectSpan.shifted · before)) := by
  cases pattern with
  | none => rfl
  | some given =>
    rw [locate_result rfl rfl, locate_result rfl rfl]
    simp only [Nat.add_sub_cancel, Nat.sub_self, List.drop_zero]
    rw [findOccurrence_result_congr ⟨some subject, some given, before + 1, occurrence, group, mode⟩
      ⟨some (subject.drop before), some given, 1, occurrence, group, mode⟩ rfl rfl]
    rcases (forGroup (mode.literalOr given) group).result with e | effective
    · rfl
    simp only [Except.bind]
    rcases (mode.compile effective.1).result with e | program
    · rfl
    dsimp only
    split
    · rfl
    rcases (findOccurrence (subject.drop before) (mode.literalOr given) _).result with e | found
    · rfl
    refine congrArg Except.ok ?_
    -- only the extent of the group tells where the text was cut
    rw [Option.map_bind]
    refine congrArg _ (funext fun whole => ?_)
    rw [Function.comp, Option.map_bind]
    exact congrArg _ (funext fun m => groupSpan_shifted m effective.2 before)

/-! ### The functions -/

theorem checked_position {i : Nat} (hi : 1 ≤ i) : (checked .position (.integer i)).result = .ok i :=
  checked_of_admits .position (by simp only [Argument.admits, decide_eq_true_eq]; omega)

theorem checked_one : (checked .position (.integer 1)).result = .ok 1 := checked_position (i := 1) (Nat.le_refl 1)

section Functions

variable [LawfulEngine] (policy : NewlinePolicy) (subject : List Char) (pattern : Option (List Char)) (before : Nat)
  (occurrence returnOption group : Value) (parameter : Option (List Char))

theorem count_result_shifted :
    (count policy (some subject) pattern (.integer ((before + 1 : Nat) : Int)) parameter).result =
      (count policy (some (subject.drop before)) pattern (.integer 1) parameter).result := by
  unfold count
  rw [Narrated.result_bind_of_ok (checked_position (Nat.le_add_left 1 before)), Narrated.result_bind_of_ok checked_one]
  cases pattern <;> rfl

theorem substr_result_shifted :
    (substr policy (some subject) pattern (.integer ((before + 1 : Nat) : Int)) occurrence parameter group).result =
      (substr policy (some (subject.drop before)) pattern (.integer 1) occurrence parameter group).result := by
  rw [substr_result, substr_result, checked_position (Nat.le_add_left 1 before), checked_one]
  simp only [Except.bind]
  rcases (checked .occurrence occurrence).result with e | occurrence
  · rfl
  dsimp only
  rcases (checked .group group).result with e | group
  · rfl
  dsimp only
  rw [locate_result_shifted]
  rcases (locate ⟨some (subject.drop before), _, _, _, _, _⟩).result with e | found
  · rfl
  · cases found with
    | none => rfl
    | some s => exact congrArg (fun t => Except.ok (some t)) (s.extract_shifted before subject)

theorem instr_result_shifted :
    (instr policy (some subject) pattern (.integer ((before + 1 : Nat) : Int)) occurrence returnOption parameter
        group).result =
      (instr policy (some (subject.drop before)) pattern (.integer 1) occurrence returnOption parameter
        group).result.map fun n => if n = 0 then 0 else n + before := by
  rw [instr_result, instr_result, checked_position (Nat.le_add_left 1 before), checked_one]
  simp only [Except.bind]
  rcases (checked .occurrence occurrence).result with e | occurrence
  · rfl
  dsimp only
  rcases (checked .group group).result with e | group
  · rfl
  dsimp only
  rcases (checked .returnOption returnOption).result with e | returnOption
  · rfl
  dsimp only
  rw [locate_result_shifted]
  rcases (locate ⟨some (subject.drop before), _, _, _, _, _⟩).result with e | found
  · rfl
  · cases found with
    | none => rfl
    | some s =>
      refine congrArg Except.ok ?_
      simp only [Option.map_some, Option.elim_some, SubjectSpan.edge_shifted, s.edge_pos returnOption, if_false]

end Functions

/-- **A position stands for the part of the subject from there.** Counting and the text of an occurrence are the same
in that part from its first character on, and so is the place of an occurrence once the characters before are added;
each call fails as its counterpart does. So nothing before the position has any influence. -/
theorem results_from_position [LawfulEngine] (policy : NewlinePolicy) (subject : List Char) (pattern : Option (List Char))
    (before : Nat) (occurrence returnOption group : Value) (parameter : Option (List Char)) :
    let position : Value := .integer ((before + 1 : Nat) : Int)
    let countIn := fun text position => (count policy (some text) pattern position parameter).result
    let textIn := fun text position => (substr policy (some text) pattern position occurrence parameter group).result
    let placeIn := fun text position =>
      (instr policy (some text) pattern position occurrence returnOption parameter group).result
    (countIn subject position = countIn (subject.drop before) (.integer 1) ∧
      textIn subject position = textIn (subject.drop before) (.integer 1) ∧
      placeIn subject position =
        (placeIn (subject.drop before) (.integer 1)).map fun n => if n = 0 then 0 else n + before) ∧
    ∀ other : List Char, other.drop before = subject.drop before →
      countIn other position = countIn subject position ∧ textIn other position = textIn subject position ∧
        placeIn other position = placeIn subject position := by
  refine ⟨⟨count_result_shifted .., substr_result_shifted .., instr_result_shifted ..⟩, fun other hother => ?_⟩
  refine ⟨?_, ?_, ?_⟩
  · exact (count_result_shifted ..).trans (hother ▸ (count_result_shifted ..).symm)
  · exact (substr_result_shifted ..).trans (hother ▸ (substr_result_shifted ..).symm)
  · exact (instr_result_shifted ..).trans (hother ▸ (instr_result_shifted ..).symm)

end SqlRegexp
