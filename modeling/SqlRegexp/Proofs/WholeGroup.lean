import SqlRegexp.Proofs.Enclosing
import SqlRegexp.Proofs.Failures

/-!
The group around the whole.

A scan asks the enclosed text for its first group, the parentheses put around the pattern, and takes for granted that
there is one and that it takes part in every match. So it does for a pattern that its parentheses enclose; then a scan
fails in no other way than compiling does. A pattern that does not compile by itself may come to something else between
parentheses: then the group may be missing, or a match may go by without it (`group_around_missing`). `scan_fails` says
which of these a scan comes to, for every pattern and every engine.
-/

namespace SqlRegexp

open SqlRegexp.Match SqlRegexp.Pattern SqlRegexp.PatternText SqlRegexp.Text

/-- The group around the whole takes part in every match of the enclosed text. -/
def GroupAround [Engine] (m : Mode) (pattern : List Char) : Prop :=
  ∀ w Q, enclose pattern = .ok w → (m.compile w).result = .ok Q → 1 ≤ Engine.groupCount Q ∧
    ∀ (text : Array Char) (c : Nat) (found : Found), Engine.search Q text c = some found →
      ∃ s, found.span? 1 = some (some s) ∧ s.start ≤ s.stop ∧ s.stop ≤ text.size

section Scan

variable [LawfulEngine] {m : Mode} {pattern : List Char}

/-- Then a scan fails only before it starts. -/
theorem ScanFails.of_groupAround {window : List Char} {occurrence : Nat} {e : CallError} (hgroup : GroupAround m pattern)
    (h : ScanFails m pattern window occurrence e) :
    CompilingFails e ∨ ∃ n, enclose pattern = .error n ∧ e = .numeral n := by
  cases h with
  | numeral h => exact .inr ⟨_, h, rfl⟩
  | compiling _ h => exact .inl (Mode.compilingFails h)
  | missing hw hQ hcount =>
    have hone := (hgroup _ _ hw hQ).1
    omega
  | unmatched hw hQ hfound hspan =>
    obtain ⟨c, hc⟩ := Walk.exists_met?_of_nth? hfound
    obtain ⟨s, hs, -⟩ := (hgroup _ _ hw hQ).2 _ _ _ (Walk.search_of_met? hc)
    cases hspan.symm.trans hs

theorem Mode.Encloses.groupAround (h : m.Encloses pattern) (hf : m.Followed pattern)
    (hf' : ∀ w, enclose pattern = .ok w → m.Followed w) (hcompiles : ∃ P, (m.compile pattern).result = .ok P) :
    GroupAround m pattern := by
  obtain ⟨P, hP⟩ := hcompiles
  obtain ⟨p, hp, -⟩ := hf.exists_does hP
  intro w Q hw hQ
  obtain ⟨q, hq, hdoes⟩ := (hf' w hw).exists_does hQ
  obtain ⟨hcount, body, hbody⟩ := hp.group_around hq h hw
  have hone : 1 ≤ q.groupCount := by omega
  refine ⟨hdoes.groupCount ▸ hone, fun text c found hfound => ?_⟩
  exact Program.search_whole_group hbody (Nat.le_refl 1) hone ((hdoes.search text c).symm.trans hfound)

/-- **How a scan fails.** For every pattern and request, a scan fails exactly before it starts, or at the group around
the whole, which is missing or took no part in the match that is wanted; and looking for one of the groups of the
occurrence adds no failure but those of the text that is compiled for it. Where an engine that follows the description
compiles a pattern and its parentheses enclose it, the group takes part in every match and lies in the text searched:
there a scan fails as compiling does, or because the number of a group cannot be written. -/
theorem scan_fails :
    (∀ (request : Request) (window : List Char) (e : CallError),
      (findOccurrence window pattern request).result = .error e ↔
        ScanFails request.mode pattern window request.occurrence e) ∧
    (∀ (request : Request) (subject given : List Char) (e : CallError), request.subject = some subject →
      request.pattern = some given → request.mode.literalOr given = pattern →
      ((locate request).result = .error e ↔
        (forGroup pattern request.group).result = .error e ∨
          ∃ effective, (forGroup pattern request.group).result = .ok effective ∧
            ((request.mode.compile effective.1).result = .error e ∨
              ∃ P, (request.mode.compile effective.1).result = .ok P ∧ effective.2 ≤ Engine.groupCount P ∧
                ScanFails request.mode pattern (subject.drop (request.position - 1)) request.occurrence e))) ∧
    (m.Encloses pattern → m.Followed pattern → (∀ w, enclose pattern = .ok w → m.Followed w) →
      (∃ P, (m.compile pattern).result = .ok P) →
      GroupAround m pattern ∧ ∀ request : Request, request.mode = m → ∀ e : CallError,
        ((∃ window, (findOccurrence window pattern request).result = .error e) ∨
          (∃ given, request.pattern = some given ∧ m.literalOr given = pattern) ∧ (locate request).result = .error e) →
        CompilingFails e ∨ ∃ n, enclose pattern = .error n ∧ e = .numeral n) := by
  refine ⟨fun request window e => findOccurrence_error_iff, ?_, fun h hf hf' hcompiles => ?_⟩
  · rintro request subject given e hsubject hgiven rfl
    rw [locate_error_iff, hsubject, hgiven]
    constructor
    · rintro ⟨_, _, hsubject', hgiven', h⟩
      cases hsubject'
      cases hgiven'
      exact h
    · exact fun h => ⟨subject, given, rfl, rfl, h⟩
  · have hgroup := h.groupAround hf hf' hcompiles
    refine ⟨hgroup, ?_⟩
    rintro request rfl e (⟨window, hscan⟩ | ⟨⟨given, hgiven, rfl⟩, hlocate⟩)
    · exact (findOccurrence_error_iff.mp hscan).of_groupAround hgroup
    · obtain ⟨subject, given', -, hgiven', hfor | ⟨effective, -, hcompile | ⟨P, -, -, hscan⟩⟩⟩ :=
        locate_error_iff.mp hlocate
      · obtain rfl : given = given' := Option.some.inj (hgiven.symm.trans hgiven')
        exact .inr (forGroup_fails hfor)
      · exact .inl (Mode.compilingFails hcompile)
      · obtain rfl : given = given' := Option.some.inj (hgiven.symm.trans hgiven')
        exact hscan.of_groupAround hgroup

end Scan

attribute [local instance] Engine.lawfulReference in
theorem scan_fails_doubled :
    (∀ e, (locate ⟨some "baa".toList, some "(a)\\1".toList, 1, 1, 0, {}⟩).result = .error e ↔
      (forGroup "(a)\\1".toList 0).result = .error e ∨
        ∃ effective, (forGroup "(a)\\1".toList 0).result = .ok effective ∧
          ((Mode.compile {} effective.1).result = .error e ∨
            ∃ P, (Mode.compile {} effective.1).result = .ok P ∧ effective.2 ≤ Engine.groupCount P ∧
              ScanFails {} "(a)\\1".toList "baa".toList 1 e)) ∧
    GroupAround {} "(a)\\1".toList ∧ ∀ request : Request, request.mode = {} → ∀ e : CallError,
      ((∃ window, (findOccurrence window "(a)\\1".toList request).result = .error e) ∨
        (∃ given, request.pattern = some given ∧ Mode.literalOr {} given = "(a)\\1".toList) ∧
          (locate request).result = .error e) →
      CompilingFails e ∨ ∃ n, enclose "(a)\\1".toList = .error n ∧ e = .numeral n := by
  have h := @scan_fails _ {} "(a)\\1".toList
  have henclose : enclose "(a)\\1".toList = .ok "((a)\\2)".toList := by decide +kernel
  have hf : Mode.Followed {} "(a)\\1".toList := Mode.followed_reference rfl (by decide +kernel)
  have hf' : Mode.Followed {} "((a)\\2)".toList := Mode.followed_reference rfl (by decide +kernel)
  refine ⟨fun e => h.2.1 _ _ _ e rfl rfl rfl, h.2.2 (encloses_doubled rfl) hf (fun w hw => ?_)
    ⟨doubledProgram, by decide +kernel⟩⟩
  obtain rfl := Except.ok.inj (henclose.symm.trans hw)
  exact hf'

attribute [local instance] Engine.reference in
/-- Parentheses in the wrong order and a question mark at the start are refused by themselves. Enclosed, `a)|(b` is an
alternative whose other branch leaves the first group out, and `?:b` has no group that is kept. -/
theorem group_around_missing :
    (locate ⟨some "b".toList, some "a)|(b".toList, 1, 1, 0, {}⟩).result = .error (.span (.startTooSmall 0)) ∧
      (findOccurrence "b".toList "?:b".toList ⟨some "b".toList, some "?:b".toList, 1, 1, 0, {}⟩).result =
        .error (.span .noSuchGroup) :=
  ⟨by decide +kernel, by decide +kernel⟩

end SqlRegexp
