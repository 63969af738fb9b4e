import SqlRegexp.Proofs.Functions
import SqlRegexp.Proofs.Pattern.Abreast.Compile
import SqlRegexp.Proofs.Pattern.Clear

/-!
Patterns and their enclosed texts, as a mode has them compiled.

`Mode.Encloses m pattern` says that enclosing keeps the meaning of a pattern: a scan and a reader of the text agree,
and an opening parenthesis in front of it opens a group. Then the text compiles to the enclosed program
(`Mode.Describes.enclosed`), so that **what it finds is what the pattern finds, one group further on**
(`enclosed_finds`), and **it is refused exactly if the pattern is** (`enclosed_refused_iff`).
-/

namespace SqlRegexp

open SqlRegexp.Match SqlRegexp.Pattern SqlRegexp.PatternText

namespace Mode

variable {m : Mode} {pattern w : List Char} {p q : Program}

/-! ### Patterns that can be enclosed -/

theorem verbose_of_addExtras {o o' : Options} {letters : List (List Char)} (h : addExtras o letters = .ok o') :
    o'.verbose = o.verbose := by
  induction letters generalizing o with
  | nil =>
    cases h
    rfl
  | cons letter letters ih =>
    rw [addExtras] at h
    cases hextra : extraOption? letter with
    | none =>
      rw [hextra] at h
      cases h
    | some p =>
      rw [hextra] at h
      rw [ih h]
      have hverbose : p.verbose = false := by
        unfold extraOption? at hextra
        split at hextra <;> cases hextra <;> rfl
      show (o.verbose || p.verbose) = o.verbose
      rw [hverbose, Bool.or_false]

/-- Blanks and comments are ignored where the mode says so; no extra letter asks for that. -/
theorem verbose_of_options {o : Options} (h : m.options = .ok o) : o.verbose = m.extended :=
  verbose_of_addExtras h

/-- Enclosing keeps the meaning of a pattern: its references, classes and comments are what a scan takes for some, and
with an opening parenthesis in front it begins no special group. -/
structure Encloses (m : Mode) (pattern : List Char) : Prop where
  clear : ∃ x, (m.extended = true → x = true) ∧ Clear x (some 0) [] pattern
  not_question : pattern.head? ≠ some '?'
  not_star : pattern.head? ≠ some '*'

/-- A mode gives a pattern the same repertoire at its end as at its start. -/
def KeepsRepertoire (m : Mode) (pattern : List Char) : Prop :=
  ∀ o, m.options = .ok o → Pattern.KeepsRepertoire (m.pinned pattern) o

instance (m : Mode) (pattern : List Char) : Decidable (m.KeepsRepertoire pattern) :=
  match h : m.options with
  | .ok o =>
    decidable_of_iff (Pattern.KeepsRepertoire (m.pinned pattern) o)
      ⟨fun ho o' ho' => by rw [h] at ho'; cases ho'; exact ho, fun hall => hall o h⟩
  | .error e => isTrue fun o ho => by rw [h] at ho; cases ho

/-- A literal pattern can be enclosed, whatever it is. -/
theorem encloses_escapeLiteral (m : Mode) (cs : List Char) : m.Encloses (escapeLiteral cs) where
  clear := ⟨true, fun _ => rfl, clear_escapeLiteral cs⟩
  not_question := head?_escapeLiteral_ne (by decide) (by decide)
  not_star := head?_escapeLiteral_ne (by decide) (by decide)

/-- The text that a pattern is enclosed in, with end anchors pinned as a mode has it. -/
theorem Encloses.exists_raised (h : m.Encloses pattern) (hw : enclose pattern = .ok w) :
    ∃ x v, (m.extended = true → x = true) ∧ m.pinned w = '(' :: v ∧ Raised x (some 0) [] (m.pinned pattern) v := by
  obtain ⟨x, hx, hclear⟩ := h.clear
  unfold enclose shiftReferences at hw
  cases hshift : shiftFrom 1 0 .outside pattern with
  | error e =>
    rw [hshift] at hw
    cases hw
  | ok v =>
    rw [hshift] at hw
    cases hw
    refine ⟨x, pinnedIf m.boundary v ++ [')'], hx, ?_, hclear.raised m.boundary hshift⟩
    show pinnedIf m.boundary ('(' :: (v ++ [')'])) = _
    rw [pinnedIf_cons (by decide), pinnedIf_append_close]

theorem head?_pinned_ne {c : Char} (h : pattern.head? ≠ some c) (hc : c ≠ '\\') : (m.pinned pattern).head? ≠ some c :=
  head?_pinnedIf_ne h hc

/-! ### Compiling -/

/-- The program that the description makes of a pattern under a mode. -/
def Describes (m : Mode) (pattern : List Char) (p : Program) : Prop :=
  ∃ o, m.options = .ok o ∧ Pattern.compile (m.pinned pattern) o = .ok p

/-- An engine follows the description on a pattern as a mode has it compiled. -/
def Followed [Engine] (m : Mode) (pattern : List Char) : Prop :=
  ∀ o, m.options = .ok o → Engine.Follows (m.pinned pattern) o

/-- No part of a pattern moves the start of its match, as `\K` does. -/
def KeepsStart (m : Mode) (pattern : List Char) : Prop := ∀ p, m.Describes pattern p → p.node.movesStart = false

/-- No part of a pattern asks where the search began, as `\G` does. -/
def IgnoresSearchStart (m : Mode) (pattern : List Char) : Prop :=
  ∀ p, m.Describes pattern p → p.node.asksSearchStart = false

/-- A pattern counts a group back from before its first one, as `(?-1)` does in front. -/
def CountsBeforeFirst (m : Mode) (pattern : List Char) : Prop :=
  ∃ o n, m.options = .ok o ∧
    Pattern.compile (m.pinned pattern) o = .error (.malformed ⟨m.pinned pattern, .invalidRelativeNumber, n⟩)

theorem Describes.unique (h : m.Describes pattern p) (h' : m.Describes pattern q) : p = q := by
  obtain ⟨o, ho, hp⟩ := h
  obtain ⟨o', ho', hq⟩ := h'
  obtain rfl : o = o' := Except.ok.inj (ho.symm.trans ho')
  exact Except.ok.inj (hp.symm.trans hq)

theorem Describes.not_countsBeforeFirst (h : m.Describes pattern p) : ¬ m.CountsBeforeFirst pattern := by
  obtain ⟨o, ho, hp⟩ := h
  rintro ⟨o', n, ho', hn⟩
  obtain rfl : o = o' := Except.ok.inj (ho.symm.trans ho')
  cases hn.symm.trans hp

theorem keepsStart_of_describes (h : m.Describes pattern p) (hp : p.node.movesStart = false) : m.KeepsStart pattern :=
  fun _ h' => h.unique h' ▸ hp

theorem ignoresSearchStart_of_describes (h : m.Describes pattern p) (hp : p.node.asksSearchStart = false) :
    m.IgnoresSearchStart pattern :=
  fun _ h' => h.unique h' ▸ hp

/-- What the description makes of a pattern and of the text that encloses it: neither compiles, or both do and the text
is the enclosed program. Otherwise the pattern counts a group back from before its first one. -/
theorem compile_pinned_alike {o : Options} (h : m.Encloses pattern) (hkeeps : m.KeepsRepertoire pattern)
    (ho : m.options = .ok o) (hw : enclose pattern = .ok w) :
    m.CountsBeforeFirst pattern ∨ Both (fun p q => q = p.enclosed) (Pattern.compile (m.pinned pattern) o)
      (Pattern.compile (m.pinned w) o) := by
  obtain ⟨x, v, hx, hpinned, hraised⟩ := h.exists_raised hw
  have hverbose : o.verbose = true → x = true := fun hv => hx (verbose_of_options ho ▸ hv)
  rw [hpinned]
  rcases compile_alike hverbose hraised (head?_pinned_ne h.not_question (by decide))
    (head?_pinned_ne h.not_star (by decide)) (hkeeps o ho) with ⟨n, hn⟩ | hboth
  · exact .inl ⟨o, n, ho, hn⟩
  · exact .inr hboth

/-- **A pattern that compiles has an enclosed text that compiles** to the enclosed program. -/
theorem Describes.enclosed (hp : m.Describes pattern p) (h : m.Encloses pattern) (hkeeps : m.KeepsRepertoire pattern)
    (hw : enclose pattern = .ok w) : m.Describes w p.enclosed := by
  obtain ⟨o, ho, hp⟩ := hp
  refine ⟨o, ho, ?_⟩
  rcases compile_pinned_alike h hkeeps ho hw with ⟨o', n, ho', hn⟩ | hboth
  · obtain rfl : o = o' := Except.ok.inj (ho.symm.trans ho')
    cases hn.symm.trans hp
  · rw [hp] at hboth
    obtain ⟨q, hq, rfl⟩ := hboth.exists_ok
    exact hq

/-- Where both compile, the text has a group around the whole. -/
theorem Describes.group_around (hp : m.Describes pattern p) (hq : m.Describes w q) (h : m.Encloses pattern)
    (hw : enclose pattern = .ok w) : q.groupCount = p.groupCount + 1 ∧ ∃ body, q.node = .group 1 body := by
  obtain ⟨x, v, hx, hpinned, hraised⟩ := h.exists_raised hw
  obtain ⟨o, ho, hp⟩ := hp
  obtain ⟨o', ho', hq⟩ := hq
  obtain rfl : o = o' := Except.ok.inj (ho.symm.trans ho')
  rw [hpinned] at hq
  obtain ⟨hcount, hgroup, -⟩ := compile_eq_enclosed (fun hv => hx (verbose_of_options ho ▸ hv)) hraised
    (head?_pinned_ne h.not_question (by decide)) (head?_pinned_ne h.not_star (by decide)) hp hq
  exact ⟨hcount, hgroup⟩

section Engines

variable [Engine] {P Q : Engine.Program}

/-- What an engine compiles, it finds as described. -/
theorem Followed.exists_does (h : m.Followed pattern) (hP : (m.compile pattern).result = .ok P) :
    ∃ p, m.Describes pattern p ∧ Engine.Does P p := by
  obtain ⟨o, ho, hP⟩ := exists_options_of_compile hP
  obtain ⟨p, hp, hdoes⟩ := (h o ho).exists_of_compile hP
  exact ⟨p, ⟨o, ho, hp⟩, hdoes⟩

/-- What is described, an engine compiles. -/
theorem Followed.exists_compile (h : m.Followed pattern) (hp : m.Describes pattern p) :
    ∃ P, (m.compile pattern).result = .ok P ∧ Engine.Does P p := by
  obtain ⟨o, ho, hp⟩ := hp
  obtain ⟨P, hP, hdoes⟩ := (h o ho).compiled p hp
  refine ⟨P, ?_, hdoes⟩
  rw [compile_result, callOptions, ho]
  show (Engine.compile _ o).mapError _ = _
  rw [hP]
  rfl

/-- An engine compiles a pattern exactly if the letters of the mode have a meaning and the description does. -/
theorem Followed.compiles_iff (h : m.Followed pattern) :
    (∃ P, (m.compile pattern).result = .ok P) ↔
      ∃ o, m.options = .ok o ∧ ∃ p, Pattern.compile (m.pinned pattern) o = .ok p := by
  constructor
  · rintro ⟨P, hP⟩
    obtain ⟨p, ⟨o, ho, hp⟩, -⟩ := h.exists_does hP
    exact ⟨o, ho, p, hp⟩
  · rintro ⟨o, ho, p, hp⟩
    obtain ⟨P, hP, -⟩ := h.exists_compile ⟨o, ho, hp⟩
    exact ⟨P, hP⟩

/-- **An engine compiles the enclosed text of a pattern that it compiles**, to the enclosed program. -/
theorem Followed.exists_enclosed (hf : m.Followed pattern) (hf' : m.Followed w) (h : m.Encloses pattern)
    (hkeeps : m.KeepsRepertoire pattern) (hw : enclose pattern = .ok w) (hP : (m.compile pattern).result = .ok P) :
    ∃ p Q, m.Describes pattern p ∧ Engine.Does P p ∧ (m.compile w).result = .ok Q ∧ Engine.Does Q p.enclosed := by
  obtain ⟨p, hp, hdoes⟩ := hf.exists_does hP
  obtain ⟨Q, hQ, hdoes'⟩ := hf'.exists_compile (hp.enclosed h hkeeps hw)
  exact ⟨p, Q, hp, hdoes, hQ, hdoes'⟩

end Engines

end Mode

/-! ### What is found -/

section Finding

variable {m : Mode} {pattern w : List Char}

theorem span?_enclosedFrom (found : Found) (b : Nat) {i : Nat} (hi : 1 ≤ i) :
    (found.enclosedFrom b).span? (i + 1) = found.span? i := by
  cases i with
  | zero => omega
  | succ i => rfl

/-- **An enclosed text finds what its pattern finds.** It has one group more. From every place in every text it finds a
match exactly if the pattern does, with the same extent and with every group one further on; group 1 is the whole match
unless the pattern moves the start of its match. -/
theorem enclosed_finds [Engine] {P Q : Engine.Program} (h : m.Encloses pattern) (hkeeps : m.KeepsRepertoire pattern)
    (henclose : enclose pattern = .ok w) (hf : m.Followed pattern) (hf' : m.Followed w)
    (hP : (m.compile pattern).result = .ok P) (hQ : (m.compile w).result = .ok Q) :
    Engine.groupCount Q = Engine.groupCount P + 1 ∧ ∀ (text : Array Char) (c : Nat),
      (Engine.search Q text c).isSome = (Engine.search P text c).isSome ∧
      ∀ found, Engine.search P text c = some found → ∃ found', Engine.search Q text c = some found' ∧
        found'.start = found.start ∧ found'.stop = found.stop ∧
        (∀ i, 1 ≤ i → found'.span? (i + 1) = found.span? i) ∧
        (m.KeepsStart pattern → found'.span? 1 = some (some ⟨found.start, found.stop⟩)) := by
  obtain ⟨p, Q', hp, hdoes, hQ', hdoes'⟩ := hf.exists_enclosed hf' h hkeeps henclose hP
  obtain rfl : Q' = Q := Except.ok.inj (hQ'.symm.trans hQ)
  rw [hdoes.groupCount, hdoes'.groupCount]
  refine ⟨Program.enclosed_groupCount, fun text c => ?_⟩
  rw [hdoes.search, hdoes'.search]
  rcases p.search_enclosed text c with ⟨hnone, hnone'⟩ | ⟨b, found, hattempt, hfound, hfound'⟩
  · rw [hnone, hnone']
    exact ⟨rfl, fun _ h => nomatch h⟩
  · rw [hfound, hfound']
    refine ⟨rfl, fun found₁ h₁ => ?_⟩
    cases h₁
    refine ⟨_, rfl, rfl, rfl, fun i hi => span?_enclosedFrom found b hi, fun hstart => ?_⟩
    rw [(Program.start_of_attempt? (hstart p hp) hattempt).1]
    rfl

end Finding

/-- The program of `(a)\1`. -/
def doubledProgram : Program :=
  ⟨.seq (.group 1 (.one (.char 97 true .exact))) (.backref 1 .exact), 1, false, .worldwide⟩

theorem encloses_doubled {m : Mode} (hm : m.extended = false) : m.Encloses "(a)\\1".toList where
  clear := by
    refine ⟨false, fun h => absurd (hm.symm.trans h) Bool.false_ne_true, ?_⟩
    have hone : ShortNumber false ['1'] [] 1 := .one rfl (by decide) fun c hc => nomatch hc
    have hback : Clear false (some 1) [] ('\\' :: (['1'] ++ [])) :=
      .backslash hone (fun _ c hc => nomatch hc) (fun h => absurd h (by decide)) .done
    exact .group (by decide) (by decide) (.char (by decide) (fun h => nomatch h) (.close hback))
  not_question := by decide
  not_star := by decide

/-- The engine that is built on the description follows it on what is compiled there. -/
theorem Mode.followed_reference {m : Mode} {pattern : List Char} {o : Options} (ho : m.options = .ok o)
    (h : Described (m.pinned pattern) o) : @Mode.Followed Engine.reference m pattern := by
  intro o' ho'
  obtain rfl : o = o' := Except.ok.inj (ho.symm.trans ho')
  exact Engine.reference_follows h

/-- In particular on what the description makes a program of. -/
theorem Mode.followed_of_describes {m : Mode} {pattern : List Char} {p : Program} (h : m.Describes pattern p) :
    @Mode.Followed Engine.reference m pattern := by
  obtain ⟨o, ho, hp⟩ := h
  exact followed_reference ho (Engine.described_of_compile hp)

attribute [local instance] Engine.reference in
theorem enclosed_finds_doubled :
    Engine.groupCount doubledProgram.enclosed = Engine.groupCount doubledProgram + 1 ∧
      ∀ (text : Array Char) (c : Nat),
        (Engine.search doubledProgram.enclosed text c).isSome = (Engine.search doubledProgram text c).isSome ∧
        ∀ found, Engine.search doubledProgram text c = some found →
          ∃ found', Engine.search doubledProgram.enclosed text c = some found' ∧
            found'.start = found.start ∧ found'.stop = found.stop ∧
            (∀ i, 1 ≤ i → found'.span? (i + 1) = found.span? i) ∧
            (Mode.KeepsStart {} "(a)\\1".toList → found'.span? 1 = some (some ⟨found.start, found.stop⟩)) :=
  enclosed_finds (m := {}) (w := "((a)\\2)".toList) (P := doubledProgram) (Q := doubledProgram.enclosed)
    (encloses_doubled rfl) (by decide +kernel) (by decide +kernel) (Mode.followed_reference rfl (by decide +kernel))
    (Mode.followed_reference rfl (by decide +kernel)) (by decide +kernel) (by decide +kernel)

/-- The program of `(a)(b)(?P=2)`. -/
def namedNumberProgram : Program :=
  ⟨.seq (.group 1 (.one (.char 97 true .exact))) (.seq (.group 2 (.one (.char 98 true .exact))) (.backref 2 .exact)),
    2, false, .worldwide⟩

/-- The program of `((a)(b)(?P=2))`, whose reference has not been raised. -/
def unraisedProgram : Program :=
  ⟨.group 1 (.seq (.group 2 (.one (.char 97 true .exact)))
    (.seq (.group 3 (.one (.char 98 true .exact))) (.backref 2 .exact))), 3, false, .worldwide⟩

attribute [local instance] Engine.reference in
/-- A number in place of a name is a reference too, but no scan raises it: the enclosed text does not find what the
pattern finds. -/
theorem enclosed_misses_named_number :
    ∃ (m : Mode) (pattern w : List Char) (P Q : Engine.Program) (text : Array Char),
      enclose pattern = .ok w ∧ (m.compile pattern).result = .ok P ∧ (m.compile w).result = .ok Q ∧
        Engine.search P text 0 = some ⟨0, 3, [some ⟨0, 1⟩, some ⟨1, 2⟩]⟩ ∧ Engine.search Q text 0 = none :=
  ⟨{}, "(a)(b)(?P=2)".toList, "((a)(b)(?P=2))".toList, namedNumberProgram, unraisedProgram, "abb".toList.toArray,
    by decide +kernel, by decide +kernel, by decide +kernel, by decide +kernel, by decide +kernel⟩

/-! ### What is refused -/

/-- A call is refused: its pattern does not compile, or a letter of its match parameter means nothing. -/
def Refused {α : Type} (r : Except CallError α) : Prop :=
  ∃ e, r = .error e ∧ ((∃ letter, e = .letter letter) ∨ ∃ c, e = .pattern c)

section Refusing

variable {α β : Type}

theorem not_refused_ok (a : α) : ¬ Refused (.ok a : Except CallError α) := fun ⟨_, h, _⟩ => nomatch h

theorem not_refused_span (r : Except SpanError α) : ¬ Refused (r.mapError .span) := by
  cases r with
  | ok a => exact not_refused_ok a
  | error e => rintro ⟨_, h, ⟨_, rfl⟩ | ⟨_, rfl⟩⟩ <;> cases h

/-- Only the first of two steps can be refused. -/
theorem refused_bind {r : Except CallError α} {f : α → Except CallError β} (h : ∀ a, r = .ok a → ¬ Refused (f a)) :
    Refused (r.bind f) ↔ Refused r := by
  cases r with
  | ok a => exact ⟨fun hr => absurd hr (h a rfl), fun hr => absurd hr (not_refused_ok a)⟩
  | error e =>
    constructor <;> rintro ⟨_, he, hrefusal⟩ <;> cases he <;> exact ⟨e, rfl, hrefusal⟩

theorem refused_map {r : Except CallError α} {f : α → β} : Refused (r.map f) ↔ Refused r := by
  cases r with
  | ok a => exact ⟨fun hr => absurd hr (not_refused_ok (f a)), fun hr => absurd hr (not_refused_ok a)⟩
  | error e =>
    constructor <;> rintro ⟨_, he, hrefusal⟩ <;> cases he <;> exact ⟨e, rfl, hrefusal⟩

end Refusing

theorem Mode.refused_compile_iff [Engine] {m : Mode} {pattern : List Char} :
    Refused (m.compile pattern).result ↔ ¬ ∃ P, (m.compile pattern).result = .ok P := by
  rw [compile_result, callOptions]
  cases m.options with
  | error letter =>
    refine iff_of_true ⟨_, rfl, .inl ⟨letter, rfl⟩⟩ ?_
    rintro ⟨P, hP⟩
    cases hP
  | ok o =>
    show Refused ((Engine.compile _ o).mapError _) ↔ ¬ ∃ P, (Engine.compile _ o).mapError _ = _
    cases Engine.compile (m.pinned pattern) o with
    | error c =>
      refine iff_of_true ⟨_, rfl, .inr ⟨c, rfl⟩⟩ ?_
      rintro ⟨P, hP⟩
      cases hP
    | ok p => exact ⟨fun h => absurd h (not_refused_ok p), fun h => absurd ⟨p, rfl⟩ h⟩

/-- A walk is never refused: it can only fail at the extent of a group. -/
theorem not_refused_walkTo (request : Request) (pattern : List Char) (group : Nat) (w : Walk)
    (ahead passed cursor : Nat) : ¬ Refused (walkTo request pattern group w ahead passed cursor).result := by
  induction ahead generalizing passed cursor with
  | zero =>
    unfold walkTo
    cases w.met? cursor with
    | none => exact not_refused_ok _
    | some found =>
      simp only [Narrated.result_bind, Narrated.result_ofResult, Narrated.result_tell, Narrated.result_pure]
      refine (refused_bind fun extent _ => ?_).not.mpr (not_refused_span _)
      exact (refused_bind fun span _ => not_refused_ok _).not.mpr (not_refused_span _)
  | succ ahead ih =>
    unfold walkTo
    cases w.met? cursor with
    | none => exact not_refused_ok _
    | some found =>
      simp only [Narrated.result_bind, Narrated.result_ofResult, Narrated.result_tell]
      exact (refused_bind fun extent _ => ih _ _).not.mpr (not_refused_span _)

section Functions

variable [LawfulEngine] {policy : NewlinePolicy} {parameter : Option (List Char)} {given w : List Char}

/-- Whether a walk for the whole occurrence is refused depends on the enclosed text alone. -/
theorem refused_locate_iff {request : Request} {subject : List Char} (hsubject : request.subject = some subject)
    (hgiven : request.pattern = some given) (hgroup : request.group = 0)
    (henclose : enclose (request.mode.literalOr given) = .ok w) :
    Refused (locate request).result ↔ Refused (request.mode.compile w).result := by
  rw [locate_result hsubject hgiven, hgroup, forGroup_zero henclose]
  show Refused ((request.mode.compile w).result.bind _) ↔ _
  refine refused_bind fun q hq => ?_
  split
  · exact not_refused_ok _
  · rw [refused_map, findOccurrence, Narrated.result_bind_of_ok (forGroup_zero henclose),
      Narrated.result_bind_of_ok hq]
    exact not_refused_walkTo _ _ _ _ _ _ _

theorem refused_like_iff (subject : List Char) :
    Refused (like policy (some subject) (some given) parameter).result ↔
      Refused ((Mode.ofParameter parameter true policy).compile
        ((Mode.ofParameter parameter true policy).literalOr given)).result := by
  rw [like_result]
  exact refused_bind fun _ _ => not_refused_ok _

theorem refused_count_iff {position : Value} {k : Nat} (hposition : (checked .position position).result = .ok k)
    (subject : List Char) :
    Refused (count policy (some subject) (some given) position parameter).result ↔
      Refused ((Mode.ofParameter parameter true policy).compile
        ((Mode.ofParameter parameter true policy).literalOr given)).result := by
  rw [count_result, hposition]
  show Refused (Except.bind _ fun p => Option.elim _ _ _) ↔ _
  refine refused_bind fun P _ => ?_
  cases (Engine.walk P (subject.drop (k - 1)).toArray).all? with
  | none => rintro ⟨_, he, ⟨_, rfl⟩ | ⟨_, rfl⟩⟩ <;> cases he
  | some ms => exact not_refused_ok _

/-- **An enclosed text is refused exactly if its pattern is**, by an engine that follows the description on both and
unless the pattern counts a group back from before its first one. So the functions that look for a whole occurrence, and
compile nothing but the enclosed text, are refused exactly if those are that compile the pattern itself. -/
theorem enclosed_refused_iff {m : Mode} {pattern : List Char} (h : m.Encloses pattern)
    (hkeeps : m.KeepsRepertoire pattern) (henclose : enclose pattern = .ok w)
    (hrelative : ¬ m.CountsBeforeFirst pattern) (hf : m.Followed pattern) (hf' : m.Followed w) :
    ((∃ Q, (m.compile w).result = .ok Q) ↔ ∃ P, (m.compile pattern).result = .ok P) ∧
    ∀ policy parameter given, m = Mode.ofParameter parameter true policy → pattern = m.literalOr given →
      ∀ (subject : List Char) (position occurrence returnOption : Value) (i k r : Nat),
        (checked .position position).result = .ok i → (checked .occurrence occurrence).result = .ok k →
        (checked .returnOption returnOption).result = .ok r →
          let refused := Refused (like policy (some subject) (some given) parameter).result
          (Refused (count policy (some subject) (some given) position parameter).result ↔ refused) ∧
          (Refused (instr policy (some subject) (some given) position occurrence returnOption parameter
            (.integer 0)).result ↔ refused) ∧
          (Refused (substr policy (some subject) (some given) position occurrence parameter (.integer 0)).result ↔
            refused) := by
  have hiff : (∃ Q, (m.compile w).result = .ok Q) ↔ ∃ P, (m.compile pattern).result = .ok P := by
    rw [hf.compiles_iff, hf'.compiles_iff]
    refine exists_congr fun o => and_congr_right fun ho => ?_
    rcases Mode.compile_pinned_alike h hkeeps ho henclose with hcounts | hboth
    · exact absurd hcounts hrelative
    · exact hboth.ok_iff
  refine ⟨hiff, ?_⟩
  rintro policy parameter given rfl rfl subject position occurrence returnOption i k r hi hk hr
  have hgroup : (checked .group (.integer 0)).result = .ok 0 := checked_of_admits .group rfl
  have hlocate : Refused (locate ⟨some subject, some given, i, k, 0, Mode.ofParameter parameter true policy⟩).result ↔
      Refused (like policy (some subject) (some given) parameter).result := by
    rw [refused_locate_iff rfl rfl rfl henclose, refused_like_iff, Mode.refused_compile_iff, Mode.refused_compile_iff,
      hiff]
  refine ⟨(refused_count_iff hi subject).trans (refused_like_iff subject).symm, ?_, ?_⟩
  · rw [instr_result, hi, hk, hgroup, hr]
    exact refused_map.trans hlocate
  · rw [substr_result, hi, hk, hgroup]
    exact refused_map.trans hlocate

end Functions

attribute [local instance] Engine.lawfulReference in
theorem enclosed_refused_iff_doubled :
    let m := Mode.ofParameter none true .uniform
    let refused := Refused (like .uniform (some "aab".toList) (some "(a)\\1".toList) none).result
    ((∃ Q, (m.compile "((a)\\2)".toList).result = .ok Q) ↔ ∃ P, (m.compile "(a)\\1".toList).result = .ok P) ∧
      (Refused (count .uniform (some "aab".toList) (some "(a)\\1".toList) (.integer 1) none).result ↔ refused) ∧
      (Refused (instr .uniform (some "aab".toList) (some "(a)\\1".toList) (.integer 1) (.integer 1) (.integer 0) none
        (.integer 0)).result ↔ refused) ∧
      (Refused (substr .uniform (some "aab".toList) (some "(a)\\1".toList) (.integer 1) (.integer 1) none
        (.integer 0)).result ↔ refused) := by
  intro m refused
  have hp : m.Describes "(a)\\1".toList doubledProgram := ⟨_, rfl, by decide +kernel⟩
  have hencloses : m.Encloses "(a)\\1".toList := encloses_doubled rfl
  have h := enclosed_refused_iff (w := "((a)\\2)".toList) hencloses (by decide +kernel) (by decide +kernel)
    hp.not_countsBeforeFirst (Mode.followed_reference rfl (by decide +kernel))
    (Mode.followed_reference rfl (by decide +kernel))
  exact ⟨h.1, h.2 .uniform none _ rfl rfl _ (.integer 1) (.integer 1) (.integer 0) 1 1 0 (by decide +kernel)
    (by decide +kernel) (by decide +kernel)⟩

attribute [local instance] Engine.reference in
/-- A pattern whose parentheses close and open at its ends in the wrong order is refused, but not its enclosed text,
which is all that is compiled where the whole occurrence is asked for. -/
theorem enclosed_admits_unbalanced :
    Refused (like .uniform (some "ab".toList) (some "a)(b".toList) none).result ∧
      Refused (count .uniform (some "ab".toList) (some "a)(b".toList) (.integer 1) none).result ∧
      (instr .uniform (some "ab".toList) (some "a)(b".toList) (.integer 1) (.integer 1) (.integer 0) none
        (.integer 0)).result = .ok 1 := by
  have hrefused {α : Type} {r : Except CallError α}
      (h : r = .error (.pattern (.malformed "unbalanced parenthesis at position 1"))) : Refused r :=
    ⟨_, h, .inr ⟨_, rfl⟩⟩
  exact ⟨hrefused (by decide +kernel), hrefused (by decide +kernel), by decide +kernel⟩

end SqlRegexp
