import SqlRegexp.Proofs.Functions

/-!
How calls fail once their arguments are in order.

Compiling fails at a letter or at the pattern (`CompilingFails`). A scan for an occurrence fails in these ways, or at a
group number in the text of the pattern, or where the group around the whole cannot be read (`ScanFails`,
`findOccurrence_error_iff`): that group may be missing or may have taken no part in a match, if the pattern is one that
its parentheses do not enclose. Looking for a group of the occurrence adds no failure of its own (`locate_error_iff`).
-/

namespace SqlRegexp

open SqlRegexp.Match SqlRegexp.Text

/-- One of two steps fails where they fail together. -/
theorem error_of_bind {ε α β : Type} {r : Except ε α} {f : α → Except ε β} {e : ε} (h : r.bind f = .error e) :
    r = .error e ∨ ∃ a, r = .ok a ∧ f a = .error e := by
  cases r with
  | ok a => exact .inr ⟨a, rfl, h⟩
  | error e' =>
    cases h
    exact .inl rfl

theorem error_of_map {ε α β : Type} {r : Except ε α} {f : α → β} {e : ε} (h : r.map f = .error e) : r = .error e := by
  cases r with
  | ok a => cases h
  | error e' => exact congrArg Except.error (Except.error.inj h)

theorem error_of_mapError {ε ε' α : Type} {r : Except ε α} {f : ε → ε'} {e : ε'} (h : r.mapError f = .error e) :
    ∃ e', r = .error e' ∧ e = f e' := by
  cases r with
  | ok a => cases h
  | error e' => exact ⟨e', rfl, (Except.error.inj h).symm⟩

/-- The failures of compiling. -/
inductive CompilingFails : CallError → Prop
  | letter (l : List Char) : CompilingFails (.letter l)
  | pattern (e : EngineError) : CompilingFails (.pattern e)

/-- The failures of looking for an occurrence. -/
inductive LocatingFails : CallError → Prop
  | compiling {e : CallError} (h : CompilingFails e) : LocatingFails e
  | numeral (e : NumeralError) : LocatingFails (.numeral e)
  /-- The group around the whole has taken no part in the match. -/
  | unmatched : LocatingFails (.span (.startTooSmall 0))
  /-- There is no group around the whole. -/
  | missing : LocatingFails (.span .noSuchGroup)

theorem Mode.compilingFails [Engine] {m : Mode} {pattern : List Char} {e : CallError}
    (h : (m.compile pattern).result = .error e) : CompilingFails e := by
  rw [compile_result] at h
  rcases error_of_bind h with h | ⟨o, -, h⟩
  · obtain ⟨l, -, rfl⟩ := error_of_mapError h
    exact .letter l
  · obtain ⟨c, -, rfl⟩ := error_of_mapError h
    exact .pattern c

/-- Only where the whole is asked for can the text to compile be missing: a number cannot be written in it. -/
theorem forGroup_fails {pattern : List Char} {group : Nat} {e : CallError}
    (h : (forGroup pattern group).result = .error e) :
    ∃ n, PatternText.enclose pattern = .error n ∧ e = .numeral n := by
  rw [forGroup, Narrated.result_ofResult] at h
  obtain ⟨n, hn, rfl⟩ := error_of_mapError h
  refine ⟨n, ?_, rfl⟩
  unfold PatternText.forGroup at hn
  split at hn
  · cases henclose : PatternText.enclose pattern with
    | error n' =>
      rw [henclose] at hn
      cases hn
      rfl
    | ok w =>
      rw [henclose] at hn
      cases hn
  · cases hn

/-- How a scan for an occurrence of a pattern fails in a window: before it starts, or at the first group of the enclosed
text, which is missing if that text has no group at all, and may take no part in the match that is wanted. -/
inductive ScanFails [Engine] (m : Mode) (pattern window : List Char) (occurrence : Nat) : CallError → Prop
  | numeral {n : NumeralError} (h : PatternText.enclose pattern = .error n) :
      ScanFails m pattern window occurrence (.numeral n)
  | compiling {w : List Char} {e : CallError} (hw : PatternText.enclose pattern = .ok w)
      (h : (m.compile w).result = .error e) : ScanFails m pattern window occurrence e
  | missing {w : List Char} {Q : Engine.Program} (hw : PatternText.enclose pattern = .ok w)
      (hQ : (m.compile w).result = .ok Q) (hcount : Engine.groupCount Q = 0)
      (hmet : (Engine.walk Q window.toArray).met? 0 ≠ none) :
      ScanFails m pattern window occurrence (.span .noSuchGroup)
  | unmatched {w : List Char} {Q : Engine.Program} {found : Found} (hw : PatternText.enclose pattern = .ok w)
      (hQ : (m.compile w).result = .ok Q)
      (hfound : (Engine.walk Q window.toArray).nth? (occurrence - 1) 0 = some found)
      (hspan : found.span? 1 = some none) : ScanFails m pattern window occurrence (.span (.startTooSmall 0))

section Locate

variable [LawfulEngine] {request : Request} {window pattern w : List Char} {Q : Engine.Program} {e : CallError}

/-- What a scan gives once the enclosed text is compiled. -/
theorem findOccurrence_result_of_compile (henclose : PatternText.enclose pattern = .ok w)
    (hQ : (request.mode.compile w).result = .ok Q) :
    (findOccurrence window pattern request).result =
      if Engine.groupCount Q = 0 then
        if (Engine.walk Q window.toArray).met? 0 = none then .ok none else .error (.span .noSuchGroup)
      else
        ((Engine.walk Q window.toArray).nth? (request.occurrence - 1) 0).elim (.ok none) fun found =>
          if (found.span? 1).join = none then .error (.span (.startTooSmall 0)) else .ok (groupSpan found 1 0) := by
  rw [findOccurrence, Narrated.result_bind_of_ok (forGroup_zero henclose), Narrated.result_bind_of_ok hQ]
  split
  · next hcount => exact walkTo_result_of_missing (fun hm => (Engine.within_of_met? hm).span?_eq_none (by omega)) _ _ _
  · next hcount =>
    refine walkTo_result_of_exists (fun {c found} hm => ?_) _ _ _
    have hwithin := Engine.within_of_met? hm
    obtain ⟨extent, hextent⟩ := hwithin.exists_span? (Nat.one_le_iff_ne_zero.mpr hcount)
    refine ⟨extent, hextent, fun s hs => (hwithin.group_le s ?_).1⟩
    rw [hs] at hextent
    exact List.mem_of_getElem? hextent

/-- Once the enclosed text is compiled, a scan can fail at its first group only. -/
theorem scanFails_iff_of_compile {m : Mode} {occurrence : Nat} (henclose : PatternText.enclose pattern = .ok w)
    (hQ : (m.compile w).result = .ok Q) :
    ScanFails m pattern window occurrence e ↔
      (Engine.groupCount Q = 0 ∧ (Engine.walk Q window.toArray).met? 0 ≠ none ∧ e = .span .noSuchGroup) ∨
      ∃ found, (Engine.walk Q window.toArray).nth? (occurrence - 1) 0 = some found ∧ found.span? 1 = some none ∧
        e = .span (.startTooSmall 0) := by
  constructor
  · intro h
    cases h with
    | numeral h => cases henclose.symm.trans h
    | compiling hw h =>
      cases henclose.symm.trans hw
      cases hQ.symm.trans h
    | missing hw h hcount hmet =>
      cases henclose.symm.trans hw
      cases hQ.symm.trans h
      exact .inl ⟨hcount, hmet, rfl⟩
    | unmatched hw h hfound hspan =>
      cases henclose.symm.trans hw
      cases hQ.symm.trans h
      exact .inr ⟨_, hfound, hspan, rfl⟩
  · rintro (⟨hcount, hmet, rfl⟩ | ⟨found, hfound, hspan, rfl⟩)
    · exact .missing henclose hQ hcount hmet
    · exact .unmatched henclose hQ hfound hspan

theorem findOccurrence_error_iff_of_compile (henclose : PatternText.enclose pattern = .ok w)
    (hQ : (request.mode.compile w).result = .ok Q) :
    (findOccurrence window pattern request).result = .error e ↔
      ScanFails request.mode pattern window request.occurrence e := by
  rw [findOccurrence_result_of_compile henclose hQ, scanFails_iff_of_compile henclose hQ]
  by_cases hcount : Engine.groupCount Q = 0
  · -- no match has a first group
    have hnone {found : Found} (hfound : (Engine.walk Q window.toArray).nth? (request.occurrence - 1) 0 = some found) :
        found.span? 1 = none := (Engine.within_of_nth? hfound).span?_eq_none (by omega)
    rw [if_pos hcount]
    constructor
    · intro h
      split at h
      · cases h
      · next hmet =>
        cases h
        exact .inl ⟨hcount, hmet, rfl⟩
    · rintro (⟨-, hmet, rfl⟩ | ⟨found, hfound, hspan, -⟩)
      · rw [if_neg hmet]
      · cases (hnone hfound).symm.trans hspan
  · rw [if_neg hcount]
    cases hfound : (Engine.walk Q window.toArray).nth? (request.occurrence - 1) 0 with
    | none => simp [hcount]
    | some found =>
      obtain ⟨extent, hextent⟩ := (Engine.within_of_nth? hfound).exists_span? (Nat.one_le_iff_ne_zero.mpr hcount)
      cases extent <;> simp [hcount, hextent, eq_comm]

/-- **A scan fails in four ways and in no other.** -/
theorem findOccurrence_error_iff :
    (findOccurrence window pattern request).result = .error e ↔
      ScanFails request.mode pattern window request.occurrence e := by
  cases henclose : PatternText.enclose pattern with
  | error n =>
    have hfor : (forGroup pattern 0).result = .error (.numeral n) := by
      rw [forGroup, PatternText.forGroup, if_pos rfl, henclose]
      rfl
    rw [findOccurrence, Narrated.result_bind, hfor]
    constructor
    · intro h
      cases h
      exact .numeral henclose
    · intro h
      cases h with
      | numeral h => cases henclose.symm.trans h; rfl
      | compiling hw | missing hw | unmatched hw => cases henclose.symm.trans hw
  | ok w =>
    cases hQ : (request.mode.compile w).result with
    | error e' =>
      rw [findOccurrence, Narrated.result_bind_of_ok (forGroup_zero henclose), Narrated.result_bind, hQ]
      constructor
      · intro h
        cases h
        exact .compiling henclose hQ
      · intro h
        cases h with
        | numeral h => cases henclose.symm.trans h
        | compiling hw h => cases henclose.symm.trans hw; cases hQ.symm.trans h; rfl
        | missing hw h | unmatched hw h => cases henclose.symm.trans hw; cases hQ.symm.trans h
    | ok Q => exact findOccurrence_error_iff_of_compile henclose hQ

/-- **Looking for a group of an occurrence fails** where the text to compile cannot be written, where that text is
refused, or where the scan fails; where the group asked for is read, nothing fails any more. -/
theorem locate_error_iff :
    (locate request).result = .error e ↔ ∃ subject given, request.subject = some subject ∧
      request.pattern = some given ∧
      ((forGroup (request.mode.literalOr given) request.group).result = .error e ∨
        ∃ effective, (forGroup (request.mode.literalOr given) request.group).result = .ok effective ∧
          ((request.mode.compile effective.1).result = .error e ∨
            ∃ P, (request.mode.compile effective.1).result = .ok P ∧ effective.2 ≤ Engine.groupCount P ∧
              ScanFails request.mode (request.mode.literalOr given) (subject.drop (request.position - 1))
                request.occurrence e)) := by
  cases hsubject : request.subject with
  | none =>
    rw [locate_result_of_null (.inl hsubject)]
    exact ⟨fun h => (nomatch h), fun ⟨_, _, h, _⟩ => (nomatch h)⟩
  | some subject =>
    cases hgiven : request.pattern with
    | none =>
      rw [locate_result_of_null (.inr hgiven)]
      exact ⟨fun h => (nomatch h), fun ⟨_, _, _, h, _⟩ => (nomatch h)⟩
    | some given =>
      rw [locate_result hsubject hgiven]
      simp only [Option.some.injEq, ← findOccurrence_error_iff]
      constructor
      · -- in the order of the steps: the group, the pattern, the occurrence; what is read then does not fail
        intro h
        refine ⟨subject, given, rfl, rfl, ?_⟩
        rcases error_of_bind h with hfor | ⟨effective, hfor, h⟩
        · exact .inl hfor
        refine .inr ⟨effective, hfor, ?_⟩
        rcases error_of_bind h with hcompile | ⟨P, hP, h⟩
        · exact .inl hcompile
        refine .inr ⟨P, hP, ?_⟩
        split at h
        · cases h
        · next hcount => exact ⟨Nat.le_of_not_lt hcount, error_of_map h⟩
      · rintro ⟨_, _, rfl, rfl, hfor | ⟨effective, hfor, hcompile | ⟨P, hP, hcount, hfind⟩⟩⟩
        · rw [hfor]
          rfl
        · simp only [hfor, Except.bind, hcompile]
        · simp only [hfor, Except.bind, hP, if_neg (Nat.not_lt.mpr hcount), hfind, Except.map]

/-- **Looking for an occurrence fails in few ways.** -/
theorem locate_fails (h : (locate request).result = .error e) : LocatingFails e := by
  obtain ⟨subject, given, -, -, hfor | ⟨effective, -, hcompile | ⟨P, -, -, hscan⟩⟩⟩ := locate_error_iff.mp h
  · obtain ⟨n, -, rfl⟩ := forGroup_fails hfor
    exact .numeral n
  · exact .compiling (Mode.compilingFails hcompile)
  · cases hscan with
    | numeral => exact .numeral _
    | compiling _ h => exact .compiling (Mode.compilingFails h)
    | missing => exact .missing
    | unmatched => exact .unmatched

/-- Looking for an occurrence fails at a number only where the pattern cannot be enclosed. -/
theorem enclose_error_of_locate {n : NumeralError} (h : (locate request).result = .error (.numeral n)) :
    ∃ given, request.pattern = some given ∧ PatternText.enclose (request.mode.literalOr given) = .error n := by
  obtain ⟨subject, given, -, hgiven, hfor | ⟨effective, -, hcompile | ⟨P, -, -, hscan⟩⟩⟩ := locate_error_iff.mp h
  · obtain ⟨n', hn', hnumeral⟩ := forGroup_fails hfor
    cases hnumeral
    exact ⟨given, hgiven, hn'⟩
  · cases Mode.compilingFails hcompile
  · cases hscan with
    | numeral h => exact ⟨given, hgiven, h⟩
    | compiling _ h => cases Mode.compilingFails h

end Locate

end SqlRegexp
