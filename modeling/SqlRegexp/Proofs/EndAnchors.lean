import SqlRegexp.Proofs.Enclosing
import SqlRegexp.Proofs.Pattern.Pinned.Arranging
import SqlRegexp.Proofs.Pattern.Pinned.Compile

/-!
End anchors under the boundary default.

Under the boundary default a mode has a pattern compiled with its end anchors pinned. `Mode.FindsAnchors m pattern` says
that the scan which pins them finds the classes and comments of the pattern where its reader does. Then **pinning changes
end anchors only** (`pinned_is_parsed`): the text compiles as the pattern does, with the end of the subject for every end
of a line.

The scan takes the bracket that closes the name of a class for the end of the class around it, and a bracket in a comment
for the beginning of a class. So it may refuse a pattern, or leave an anchor as it is (`pinning_misreads`).
-/

namespace SqlRegexp

open SqlRegexp.Match SqlRegexp.Pattern SqlRegexp.PatternText

namespace Mode

variable {m : Mode} {pattern : List Char} {o : Options} {p : Program}

/-- The scan for end anchors finds the classes and comments of a pattern where its reader does. -/
def FindsAnchors (m : Mode) (pattern : List Char) : Prop := ∃ x, (m.extended = true → x = true) ∧ Scanned x pattern

/-- Where there are no classes and no comments, none are missed. -/
theorem findsAnchors_of_plain (hclass : '[' ∉ pattern) (hcomment : '#' ∉ pattern) : m.FindsAnchors pattern :=
  ⟨true, fun _ => rfl, .of_plain hclass hcomment⟩

/-- A program of a pinned pattern asks for the end of no line. -/
theorem asksLineEnd_program_pinned (P : Parsed) : P.pinned.program.node.asksLineEnd = false := by
  show (Node.withRuns _ (Node.arranged _ _)).asksLineEnd = false
  rw [Node.asksLineEnd_withRuns]
  exact Node.asksLineEnd_arranged _ (Node.asksLineEnd_pinned _)

/-- **Pinning changes end anchors only.** Where an engine compiles a pattern as it stands, a mode with the boundary
default has it compiled too, if the engine follows the description on both texts and the scan finds what the reader does,
as it does in every pattern without classes and comments. What is parsed of the pinned text is
the pattern with the end of the subject for every end of a line, and nothing else is changed; each of the two is found
as it is parsed. -/
theorem pinned_is_parsed [Engine] {P : Engine.Program} (hb : m.boundary = true) (ho : m.options = .ok o)
    (h : m.FindsAnchors pattern ∨ '[' ∉ pattern ∧ '#' ∉ pattern) (hf : Engine.Follows pattern o)
    (hf' : Engine.Follows (m.pinned pattern) o) (hP : Engine.compile pattern o = .ok P) :
    ∃ parsed Q, parse pattern o = .ok parsed ∧ parse (m.pinned pattern) o = .ok parsed.pinned ∧
      Engine.Does P parsed.program ∧ (m.compile pattern).result = .ok Q ∧ Engine.Does Q parsed.pinned.program ∧
      parsed.pinned.program.node.asksLineEnd = false := by
  obtain ⟨x, hx, hscanned⟩ := h.elim id fun hplain => findsAnchors_of_plain hplain.1 hplain.2
  obtain ⟨p, hp, hdoes⟩ := hf.exists_of_compile hP
  rw [compile_eq_parse] at hp
  obtain ⟨parsed, hparse, rfl⟩ : ∃ parsed, parse pattern o = .ok parsed ∧ parsed.program = p := by
    cases hparse : parse pattern o with
    | error e =>
      rw [hparse] at hp
      cases hp
    | ok parsed =>
      rw [hparse] at hp
      exact ⟨parsed, rfl, Except.ok.inj hp⟩
  have hpinned : parse (m.pinned pattern) o = .ok parsed.pinned := by
    rw [pinned, if_pos hb]
    exact parse_pinEnds hscanned (fun hv => hx (verbose_of_options ho ▸ hv)) hparse
  obtain ⟨Q, hQ, hdoes'⟩ := hf'.compiled parsed.pinned.program (by rw [compile_eq_parse, hpinned]; rfl)
  refine ⟨parsed, Q, hparse, hpinned, hdoes, ?_, hdoes', asksLineEnd_program_pinned parsed⟩
  rw [compile_result, callOptions, ho]
  show (Engine.compile _ o).mapError _ = _
  rw [hQ]
  rfl

/-- The program of `(?#in $)[$[:digit:]]\$|b$`. -/
def dollarsProgram : Program :=
  ⟨.alt (.seq (.one (.oneOf [.having (.code 36), .having (.property ⟨.posixDigit, true, none⟩)] true .exact))
      (.one (.char 36 true .exact)))
    (.alt (.seq (.one (.char 98 true .exact)) (.assertion (.endOfLastLine false))) .fail), 0, false, .worldwide⟩

theorem findsAnchors_dollars {m : Mode} (hm : m.extended = false) :
    m.FindsAnchors "(?#in $)[$[:digit:]]\\$|b$".toList := by
  have hclass : ClassText true "$[:digit:]]".toList :=
    .plain (by decide) (.member (by decide) (.char (by decide) (by decide) (fun _ h => absurd h (by decide))
      (.named (k := [']']) rfl .close)))
  have hcomment : CommentText "in $".toList :=
    .char (by decide) (by decide) (.char (by decide) (by decide) (.char (by decide) (by decide)
      (.char (by decide) (by decide) .nil)))
  have hplain {c : Char} {u : List Char} (hc : c ∉ openers) (hne : c ≠ '#') (h : Scanned false u) :
      Scanned false (c :: u) := .char hc (fun _ => hne) h
  have hend : Scanned false "\\$|b$".toList :=
    .escape '$' (hplain (by decide) (by decide) (hplain (by decide) (by decide) (hplain (by decide) (by decide) .nil)))
  refine ⟨false, fun h => absurd (hm.symm.trans h) Bool.false_ne_true, ?_⟩
  exact .comment hcomment rfl (.bracketed hclass rfl rfl hend)

attribute [local instance] Engine.reference in
theorem pinned_is_parsed_dollars :
    ∃ parsed Q, parse "(?#in $)[$[:digit:]]\\$|b$".toList {} = .ok parsed ∧
      parse "(?#in \\Z)[$[:digit:]]\\$|b\\Z".toList {} = .ok parsed.pinned ∧
      Engine.Does dollarsProgram parsed.program ∧
      (Mode.compile { boundary := true } "(?#in $)[$[:digit:]]\\$|b$".toList).result = .ok Q ∧
      Engine.Does Q parsed.pinned.program ∧ parsed.pinned.program.node.asksLineEnd = false :=
  pinned_is_parsed (m := { boundary := true }) (P := dollarsProgram) rfl rfl (.inl (findsAnchors_dollars rfl))
    (Engine.reference_follows (by decide +kernel)) (Engine.reference_follows (by decide +kernel)) (by decide +kernel)

/-- The program of `(?#[)a$`. -/
def unpinnedProgram : Program :=
  ⟨.seq (.one (.char 97 true .exact)) (.assertion (.endOfLastLine false)), 0, false, .worldwide⟩

attribute [local instance] Engine.reference in
/-- A class goes on behind the name of a class inside it, where the scan takes it to have ended; so a pattern is refused
once its anchors are pinned. And a class that begins in a comment is none, so an anchor stays as it is. -/
theorem pinning_misreads :
    (∃ (m : Mode) (pattern : List Char) (o : Options) (P : Engine.Program),
      m.boundary = true ∧ m.options = .ok o ∧ Engine.compile pattern o = .ok P ∧
        (m.compile pattern).result = .error (.pattern (.malformed "bad escape \\Z at position 12"))) ∧
      ∃ (m : Mode) (pattern : List Char) (o : Options) (P : Engine.Program),
        m.boundary = true ∧ m.options = .ok o ∧ Engine.compile pattern o = .ok P ∧
          (m.compile pattern).result = .ok P ∧ Engine.Does P unpinnedProgram ∧ unpinnedProgram.node.asksLineEnd = true :=
  ⟨⟨{ boundary := true }, "[[:digit:]$]".toList, {},
      ⟨.one (.oneOf [.having (.property ⟨.posixDigit, true, none⟩), .having (.code 36)] true .exact), 0, false,
        .worldwide⟩, rfl, rfl, by decide +kernel, by decide +kernel⟩,
    ⟨{ boundary := true }, "(?#[)a$".toList, {}, unpinnedProgram, rfl, rfl, by decide +kernel, by decide +kernel,
      Engine.reference_does unpinnedProgram, rfl⟩⟩

end Mode

end SqlRegexp
