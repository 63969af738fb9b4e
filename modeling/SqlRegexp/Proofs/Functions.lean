import SqlRegexp.Proofs.Locate

/-!
What the functions give, as computations on results alone.

`locate_result`, `instr_result`, `count_result` and `substr_result` leave out what is told on the way. `substr_result`
also leaves out the case that `substr` keeps from searching, the first group of a pattern without groups: there `locate`
finds nothing either. Hence the start, the stop and the text of an occurrence are read off one span
(`instr_substr_agree`).
-/

namespace SqlRegexp

open SqlRegexp.Match SqlRegexp.Pattern

/-- Both of two steps have a result where they have one together. -/
theorem exists_of_bind {ε α β : Type} {r : Except ε α} {f : α → Except ε β} {b : β} (h : r.bind f = .ok b) :
    ∃ a, r = .ok a ∧ f a = .ok b := by
  cases r with
  | ok a => exact ⟨a, rfl, h⟩
  | error e => cases h

theorem of_mapError {ε ε' α : Type} {r : Except ε α} {f : ε → ε'} {a : α} (h : r.mapError f = .ok a) : r = .ok a := by
  cases r with
  | ok b => exact congrArg Except.ok (Except.ok.inj h)
  | error e => cases h

namespace SubjectSpan

/-- The number of the first character, or of the one after the last. -/
def edge (returnOption : Nat) (s : SubjectSpan) : Nat := if returnOption = 1 then s.stop else s.start

/-- A span that ends in a subject, or is empty, covers as many characters as it is long. -/
theorem length_extract {s : SubjectSpan} {subject : List Char}
    (h : s.start - 1 + s.length ≤ subject.length ∨ s.length = 0) : (s.extract subject).length = s.length := by
  simp only [extract, List.length_take, List.length_drop]
  omega

end SubjectSpan

theorem one_le_of_forGroup {pattern effective : List Char} {group number : Nat}
    (h : (forGroup pattern group).result = .ok (effective, number)) : 1 ≤ number := by
  rcases Nat.eq_zero_or_pos group with rfl | hpos
  · unfold forGroup PatternText.forGroup at h
    rw [if_pos rfl] at h
    cases henclose : PatternText.enclose pattern with
    | error e =>
      rw [henclose] at h
      cases h
    | ok enclosed =>
      rw [henclose] at h
      cases h
      exact Nat.le_refl 1
  · rw [forGroup_pos hpos] at h
    cases h
    exact hpos

/-- The span of a group lies in the part of the subject that is searched. -/
theorem groupSpan_within {m : Found} {size count group offset : Nat} {s : SubjectSpan} (hm : m.Within size count)
    (hgroup : 1 ≤ group) (h : groupSpan m group offset = some s) :
    offset ≤ s.start - 1 ∧ s.start - 1 + s.length ≤ offset + size := by
  unfold groupSpan at h
  obtain ⟨e, he, rfl⟩ := Option.map_eq_some_iff.mp h
  have hspan := Option.join_eq_some_iff.mp he
  unfold Found.span? at hspan
  rw [if_neg (by omega)] at hspan
  obtain ⟨hle, hstop⟩ := hm.group_le e (List.mem_of_getElem? hspan)
  simp only
  omega

/-- A number that an argument takes passes its check. -/
theorem checked_of_admits (a : Argument) {n : Nat} (h : a.admits n = true) :
    (checked a (.integer n)).result = .ok n := by
  simp [checked, Argument.checkOptional, Argument.check, h, Except.mapError]

theorem checked_group (g : Nat) : (checked .group (.integer g)).result = .ok g :=
  checked_of_admits .group (by simp only [Argument.admits, decide_eq_true_eq]; omega)

/-- The whole match is asked for as group 0. -/
theorem checked_whole : (checked .group (.integer 0)).result = .ok 0 := checked_group 0

/-- What is located is read as a text. -/
theorem result_bind_extract (found : Narrated (Option SubjectSpan)) (subject : List Char)
    {read : Option SubjectSpan → Narrated (Option (List Char))} (hnone : read none = pure none)
    (hsome : ∀ span, read (some span) = pure (some (span.extract subject))) :
    (found >>= read).result = found.result.map (Option.map (SubjectSpan.extract · subject)) := by
  rw [Narrated.result_bind]
  cases found.result with
  | error e => rfl
  | ok span? =>
    cases span? with
    | none => exact congrArg Narrated.result hnone
    | some span => exact congrArg Narrated.result (hsome span)

/-! ### Results -/

section Results

variable [Engine]

theorem Mode.compile_result (m : Mode) (pattern : List Char) :
    (m.compile pattern).result = m.callOptions.bind fun o =>
      (Engine.compile (m.pinned pattern) o).mapError .pattern := by
  unfold compile
  rw [Narrated.result_bind_of_ok (Narrated.result_tell _), Narrated.result_bind]
  rfl

/-- Whether every match is wanted makes no difference to a pattern. -/
theorem Mode.compile_result_everyMatch (parameter : Option (List Char)) (everyMatch : Bool) (policy : NewlinePolicy)
    (given : List Char) :
    ((Mode.ofParameter parameter everyMatch policy).compile
      ((Mode.ofParameter parameter everyMatch policy).literalOr given)).result =
      ((Mode.ofParameter parameter true policy).compile
        ((Mode.ofParameter parameter true policy).literalOr given)).result := by
  rw [compile_result, compile_result]
  rfl

theorem Mode.exists_options_of_compile {m : Mode} {pattern : List Char} {P : Engine.Program}
    (h : (m.compile pattern).result = .ok P) :
    ∃ o, m.options = .ok o ∧ Engine.compile (m.pinned pattern) o = .ok P := by
  rw [compile_result, callOptions] at h
  obtain ⟨o, ho, h⟩ := exists_of_bind h
  exact ⟨o, of_mapError ho, of_mapError h⟩

theorem locate_result_of_null {request : Request} (h : request.subject = none ∨ request.pattern = none) :
    (locate request).result = .ok none := by
  unfold locate
  rcases h with h | h
  · rw [h]
    rfl
  · rw [h]
    cases request.subject <;> rfl

theorem instr_result (policy : NewlinePolicy) (subject pattern : Option (List Char))
    (position occurrence returnOption : Value) (parameter : Option (List Char)) (group : Value) :
    (instr policy subject pattern position occurrence returnOption parameter group).result =
      (checked .position position).result.bind fun position =>
        (checked .occurrence occurrence).result.bind fun occurrence =>
          (checked .group group).result.bind fun group =>
            (checked .returnOption returnOption).result.bind fun returnOption =>
              (locate ⟨subject, pattern, position, occurrence, group,
                  Mode.ofParameter parameter true policy⟩).result.map
                fun found => found.elim 0 (SubjectSpan.edge returnOption) := by
  unfold instr
  rw [Narrated.result_bind]
  refine congrArg _ (funext fun position => ?_)
  rw [Narrated.result_bind]
  refine congrArg _ (funext fun occurrence => ?_)
  rw [Narrated.result_bind]
  refine congrArg _ (funext fun group => ?_)
  rw [Narrated.result_bind]
  refine congrArg _ (funext fun returnOption => ?_)
  rw [Narrated.result_bind_of_ok (Narrated.result_tell _), Narrated.result_bind]
  cases (locate ⟨subject, pattern, position, occurrence, group, Mode.ofParameter parameter true policy⟩).result with
  | error e => rfl
  | ok found => cases found <;> rfl

theorem like_result (policy : NewlinePolicy) (subject given : List Char) (parameter : Option (List Char)) :
    (like policy (some subject) (some given) parameter).result =
      ((Mode.ofParameter parameter true policy).compile
        ((Mode.ofParameter parameter true policy).literalOr given)).result.bind fun program =>
          .ok (Engine.search program subject.toArray 0).isSome := by
  unfold like
  dsimp only
  rw [Narrated.result_bind_of_ok (Narrated.result_tell _), Narrated.result_bind, Mode.compile_result_everyMatch]
  rfl

theorem count_result (policy : NewlinePolicy) (subject given : List Char) (position : Value)
    (parameter : Option (List Char)) :
    (count policy (some subject) (some given) position parameter).result =
      (checked .position position).result.bind fun position =>
        ((Mode.ofParameter parameter true policy).compile
          ((Mode.ofParameter parameter true policy).literalOr given)).result.bind fun program =>
            (Engine.walk program (subject.drop (position - 1)).toArray).all?.elim (.error .endless)
              fun ms => .ok ms.length := by
  unfold count
  rw [Narrated.result_bind]
  refine congrArg _ (funext fun position => ?_)
  dsimp only
  rw [Narrated.result_bind_of_ok (Narrated.result_tell _), Narrated.result_bind]
  refine congrArg _ (funext fun program => ?_)
  cases (Engine.walk program (subject.drop (position - 1)).toArray).all? <;> rfl

end Results

variable [LawfulEngine]

/-- A group is read in the match at a place, if there is one and the group took part in it. -/
theorem readGroup_result_of_le {request : Request} {program : Engine.Program} {group : Nat} {window : List Char}
    {whole : SubjectSpan} (hgroup : 1 ≤ group) (hcount : group ≤ Engine.groupCount program) :
    (readGroup request program group window whole).result =
      .ok ((Engine.matchAt program window.toArray (whole.start - 1)).bind fun m =>
        groupSpan m group (request.position - 1)) := by
  cases hm : Engine.matchAt program window.toArray (whole.start - 1) with
  | none =>
    unfold readGroup
    rw [hm]
    rfl
  | some m =>
    have hwithin := LawfulEngine.matchAt_within hm
    obtain ⟨e, he⟩ := hwithin.exists_span? hcount
    have hmem : e ∈ m.groups := by
      unfold Found.span? at he
      rw [if_neg (by omega)] at he
      exact List.mem_of_getElem? he
    exact readGroup_result rfl hm he fun s hs => (hwithin.group_le s (hs ▸ hmem)).1

/-- What `locate` does: it compiles the pattern to ask, looks for the occurrence, and reads the group there. -/
theorem locate_result {request : Request} {subject given : List Char} (hsubject : request.subject = some subject)
    (hgiven : request.pattern = some given) :
    (locate request).result =
      (forGroup (request.mode.literalOr given) request.group).result.bind fun effective =>
        (request.mode.compile effective.1).result.bind fun program =>
          if Engine.groupCount program < effective.2 then .ok none
          else
            (findOccurrence (subject.drop (request.position - 1)) (request.mode.literalOr given) request).result.map
              fun found => found.bind fun whole =>
                (Engine.matchAt program (subject.drop (request.position - 1)).toArray (whole.start - 1)).bind fun m =>
                  groupSpan m effective.2 (request.position - 1) := by
  unfold locate
  rw [hsubject, hgiven]
  dsimp only
  rw [Narrated.result_bind]
  cases hfor : (forGroup (request.mode.literalOr given) request.group).result with
  | error e => rfl
  | ok effective =>
    show (_ >>= _ : Narrated _).result = _
    rw [Narrated.result_bind]
    refine congrArg _ (funext fun program => ?_)
    split
    · rfl
    · next hcount =>
      rw [Narrated.result_bind]
      cases (findOccurrence (subject.drop (request.position - 1)) (request.mode.literalOr given) request).result with
      | error e => rfl
      | ok found =>
        cases found with
        | none => rfl
        -- the program has the group, so that reading it does not fail
        | some whole => exact readGroup_result_of_le (one_le_of_forGroup hfor) (by omega)

/-- The first group is looked for with the pattern itself, so it fails as the pattern does. -/
theorem locate_result_of_error {subject given : List Char} {position occurrence : Nat} {mode : Mode} {e : CallError}
    (hp : (mode.compile (mode.literalOr given)).result = .error e) :
    (locate ⟨some subject, some given, position, occurrence, 1, mode⟩).result = .error e := by
  rw [locate_result rfl rfl]
  show (mode.compile (mode.literalOr given)).result.bind _ = _
  rw [hp]
  rfl

/-- For the first group of a pattern that has none, `locate` finds nothing. -/
theorem locate_result_of_no_group {subject given : List Char} {position occurrence : Nat} {mode : Mode}
    {p : Engine.Program} (hp : (mode.compile (mode.literalOr given)).result = .ok p) (hcount : Engine.groupCount p = 0) :
    (locate ⟨some subject, some given, position, occurrence, 1, mode⟩).result = .ok none := by
  rw [locate_result rfl rfl]
  show (mode.compile (mode.literalOr given)).result.bind _ = _
  rw [hp]
  exact if_pos (by simp [hcount])

theorem substr_result (policy : NewlinePolicy) (subject pattern : Option (List Char)) (position occurrence : Value)
    (parameter : Option (List Char)) (group : Value) :
    (substr policy subject pattern position occurrence parameter group).result =
      (checked .position position).result.bind fun position =>
        (checked .occurrence occurrence).result.bind fun occurrence =>
          (checked .group group).result.bind fun group =>
            (locate ⟨subject, pattern, position, occurrence, group, Mode.ofParameter parameter true policy⟩).result.map
              (Option.map (SubjectSpan.extract · (subject.getD []))) := by
  unfold substr
  rw [Narrated.result_bind]
  refine congrArg _ (funext fun position => ?_)
  rw [Narrated.result_bind]
  refine congrArg _ (funext fun occurrence => ?_)
  rw [Narrated.result_bind]
  refine congrArg _ (funext fun group => ?_)
  cases subject with
  | none =>
    rw [locate_result_of_null (.inl rfl)]
    rfl
  | some subject =>
    cases pattern with
    | none =>
      rw [locate_result_of_null (.inr rfl)]
      rfl
    | some given =>
      dsimp only
      rw [Narrated.result_bind_of_ok (Narrated.result_tell _)]
      split
      · next hone =>
        -- the first group: locating it in a pattern without groups would find nothing either
        subst hone
        rw [Narrated.result_bind]
        cases hp : ((Mode.ofParameter parameter true policy).compile
          ((Mode.ofParameter parameter true policy).literalOr given)).result with
        | error e =>
          rw [locate_result_of_error hp]
          rfl
        | ok p =>
          show (ite _ _ _ : Narrated _).result = _
          split
          · next hcount =>
            rw [locate_result_of_no_group hp hcount]
            rfl
          · exact result_bind_extract _ subject rfl fun _ => rfl
      · exact result_bind_extract _ subject rfl fun _ => rfl

section Checked

variable {policy : NewlinePolicy} {subject pattern parameter : Option (List Char)}
  {position occurrence group returnOption : Value} {i k g r : Nat}
  (hposition : (checked .position position).result = .ok i)
  (hoccurrence : (checked .occurrence occurrence).result = .ok k) (hgroup : (checked .group group).result = .ok g)
include hposition hoccurrence hgroup

/-- With numbers that pass their checks, a place is read off the span that is located. -/
theorem instr_result_of_checked (hreturn : (checked .returnOption returnOption).result = .ok r) :
    (instr policy subject pattern position occurrence returnOption parameter group).result =
      (locate ⟨subject, pattern, i, k, g, Mode.ofParameter parameter true policy⟩).result.map
        fun found => found.elim 0 (SubjectSpan.edge r) := by
  rw [instr_result, hposition, hoccurrence, hgroup, hreturn]
  rfl

theorem substr_result_of_checked :
    (substr policy subject pattern position occurrence parameter group).result =
      (locate ⟨subject, pattern, i, k, g, Mode.ofParameter parameter true policy⟩).result.map
        (Option.map (SubjectSpan.extract · (subject.getD []))) := by
  rw [substr_result, hposition, hoccurrence, hgroup]
  rfl

end Checked

/-! ### One span for start, stop and text -/

/-- What is located lies in the part of the subject that is searched, which is empty at a position behind the end. -/
theorem locate_in_window {request : Request} {subject : List Char} {s : SubjectSpan}
    (hsubject : request.subject = some subject) (h : (locate request).result = .ok (some s)) :
    request.position - 1 ≤ s.start - 1 ∧
      s.start - 1 + s.length ≤ request.position - 1 + (subject.length - (request.position - 1)) := by
  cases hgiven : request.pattern with
  | none =>
    rw [locate_result_of_null (.inr hgiven)] at h
    cases h
  | some given =>
    rw [locate_result hsubject hgiven] at h
    obtain ⟨effective, hfor, h⟩ := exists_of_bind h
    obtain ⟨program, -, h⟩ := exists_of_bind h
    have hgroup := one_le_of_forGroup hfor
    split at h
    · cases h
    · cases hfind : (findOccurrence (subject.drop (request.position - 1)) (request.mode.literalOr given)
        request).result with
      | error e =>
        rw [hfind] at h
        cases h
      | ok found =>
        rw [hfind] at h
        obtain ⟨whole, -, hwhole⟩ := Option.bind_eq_some_iff.mp (Except.ok.inj h)
        obtain ⟨m, hm, hspan⟩ := Option.bind_eq_some_iff.mp hwhole
        have hwithin := groupSpan_within (LawfulEngine.matchAt_within hm) hgroup hspan
        rwa [List.size_toArray, List.length_drop] at hwithin

/-- What is located ends in the subject, or is empty at a position behind the end. -/
theorem locate_within {request : Request} {subject : List Char} {s : SubjectSpan}
    (hsubject : request.subject = some subject) (h : (locate request).result = .ok (some s)) :
    s.start - 1 + s.length ≤ subject.length ∨ s.length = 0 := by
  have hwindow := locate_in_window hsubject h
  omega

/-- **Start, stop and text of an occurrence agree.** All three calls fail alike, or all find nothing, or the text is the
stretch of the subject between the start and the stop. What `substr` gives is always the text of the span that `locate`
gives, also where it does not search. -/
theorem instr_substr_agree (policy : NewlinePolicy) (subject pattern : Option (List Char)) (position occurrence : Value)
    (parameter : Option (List Char)) (group : Value) :
    let start := (instr policy subject pattern position occurrence (.integer 0) parameter group).result
    let stop := (instr policy subject pattern position occurrence (.integer 1) parameter group).result
    let text := (substr policy subject pattern position occurrence parameter group).result
    ((∃ e, start = .error e ∧ stop = .error e ∧ text = .error e) ∨
      (start = .ok 0 ∧ stop = .ok 0 ∧ text = .ok none) ∨
      ∃ cs s e t, subject = some cs ∧ start = .ok s ∧ stop = .ok e ∧ text = .ok (some t) ∧
        1 ≤ s ∧ s ≤ e ∧ e - s = t.length ∧ t = (cs.drop (s - 1)).take (e - s)) ∧
    ∀ p k g, (checked .position position).result = .ok p → (checked .occurrence occurrence).result = .ok k →
      (checked .group group).result = .ok g →
        text = (locate ⟨subject, pattern, p, k, g, Mode.ofParameter parameter true policy⟩).result.map
          (Option.map (SubjectSpan.extract · (subject.getD []))) := by
  intro start stop text
  have hzero := @checked_of_admits .returnOption 0 rfl
  have hone := @checked_of_admits .returnOption 1 rfl
  simp only [start, stop, text, instr_result, substr_result]
  -- a check that fails gives its error to all three
  rcases (checked .position position).result with e | p
  · exact ⟨.inl ⟨e, rfl, rfl, rfl⟩, fun _ _ _ h => nomatch h⟩
  rcases (checked .occurrence occurrence).result with e | k
  · exact ⟨.inl ⟨e, rfl, rfl, rfl⟩, fun _ _ _ _ h => nomatch h⟩
  rcases (checked .group group).result with e | g
  · exact ⟨.inl ⟨e, rfl, rfl, rfl⟩, fun _ _ _ _ _ h => nomatch h⟩
  refine ⟨?_, fun p' k' g' hp hk hg => by cases hp; cases hk; cases hg; rfl⟩
  simp only [Except.bind]
  rw [show (checked .returnOption (.integer 0)).result = .ok 0 from hzero,
    show (checked .returnOption (.integer 1)).result = .ok 1 from hone]
  cases hlocate : (locate ⟨subject, pattern, p, k, g, Mode.ofParameter parameter true policy⟩).result with
  | error e => exact .inl ⟨e, rfl, rfl, rfl⟩
  | ok found =>
    cases found with
    | none => exact .inr (.inl ⟨rfl, rfl, rfl⟩)
    | some s =>
      cases subject with
      | none =>
        rw [locate_result_of_null (.inl rfl)] at hlocate
        cases hlocate
      | some cs =>
        -- both edges and the text are those of one span
        refine .inr (.inr ⟨cs, s.start, s.stop, s.extract cs, rfl, rfl, rfl, rfl, s.start_pos, ?_, ?_, ?_⟩)
        · exact Nat.le_add_right ..
        · rw [SubjectSpan.length_extract (locate_within rfl hlocate), SubjectSpan.stop, Nat.add_sub_cancel_left]
        · rw [SubjectSpan.extract, SubjectSpan.stop, Nat.add_sub_cancel_left]

end SqlRegexp
