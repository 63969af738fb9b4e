import SqlRegexp.Proofs.Pattern.Abreast.Compile
import SqlRegexp.Proofs.Pattern.Clear

/-!
Literal patterns, from their text to what is matched.

A literal pattern is made of plain characters and of escapes, and so is every rest of it (`escapeLiteral_cons`). Both
scans carry it over as it is (`shiftReferences_escapeLiteral`, `pinEnds_escapeLiteral`). A reader takes each character
and each escape for the character that it stands for, also where blanks and comments are ignored
(`run_elements_escapeLiteral`), and arranging and forming runs leave the sequence of these characters alone. So **a
literal pattern compiles to the text that it has been made of** (`compile_escapeLiteral`).
-/

namespace SqlRegexp

open SqlRegexp.Pattern SqlRegexp.Text SqlRegexp.Unicode

/-! ### The text of a literal pattern -/

/-- The first character of a literal pattern is an escape, or stands for itself. -/
theorem escapeLiteral_cons (c : Char) (cs : List Char) :
    (needsEscape c = true ∧ escapeLiteral (c :: cs) = '\\' :: c :: escapeLiteral cs) ∨
      (needsEscape c = false ∧ escapeLiteral (c :: cs) = c :: escapeLiteral cs) := by
  by_cases h : needsEscape c = true
  · exact .inl ⟨h, by simp [escapeLiteral, h]⟩
  · exact .inr ⟨by simpa using h, by simp [escapeLiteral, h]⟩

theorem length_le_escapeLiteral (cs : List Char) : cs.length ≤ (escapeLiteral cs).length := by
  induction cs with
  | nil => exact Nat.le_refl 0
  | cons c cs ih =>
    rcases escapeLiteral_cons c cs with ⟨-, h⟩ | ⟨-, h⟩
    · rw [h, List.length_cons, List.length_cons, List.length_cons]
      omega
    · rw [h, List.length_cons, List.length_cons]
      omega

/-- A character that gets a backslash is none of those that do not. -/
theorem ne_of_needsEscape {c d : Char} (hc : needsEscape c = true) (hd : needsEscape d = false) : c ≠ d := by
  rintro rfl
  rw [hc] at hd
  cases hd

theorem isBlank_of_isLatinLetter {c : Char} (h : isLatinLetter c = true) : isBlank c.toNat = false := by
  have hrange : (97 ≤ c.toNat ∧ c.toNat ≤ 122) ∨ (65 ≤ c.toNat ∧ c.toNat ≤ 90) := by
    simp only [isLatinLetter, Bool.or_eq_true, decide_eq_true_eq] at h
    exact h
  simp [isBlank, isWhiteSpace]
  omega

/-- Letters and digits get no backslash. -/
theorem not_alphanumeric_of_needsEscape {c : Char} (h : needsEscape c = true) :
    isLatinLetter c = false ∧ isDecimal c = false := by
  have hletters : ∀ d ∈ specialSigns, isLatinLetter d = false := eq_false_of_any (by decide)
  have hdecimals : ∀ d ∈ specialSigns, isDecimal d = false := eq_false_of_any (by decide)
  rcases Bool.or_eq_true_iff.mp h with hsign | hblank
  · have hmem := List.contains_iff_mem.mp hsign
    exact ⟨hletters c hmem, hdecimals c hmem⟩
  · constructor
    · by_contra hletter
      rw [isBlank_of_isLatinLetter (by simpa using hletter)] at hblank
      cases hblank
    · by_contra hdecimal
      rw [isBlank_of_isDecimal (by simpa using hdecimal)] at hblank
      cases hblank

namespace PatternText

/-! ### Scans -/

/-- **Raising references leaves a literal pattern as it is**, whatever they are raised by. -/
theorem shiftReferences_escapeLiteral (cs : List Char) (offset : Int) :
    shiftReferences (escapeLiteral cs) offset = .ok (escapeLiteral cs) := by
  show shiftFrom offset 0 .outside (escapeLiteral cs) = _
  induction cs with
  | nil => rfl
  | cons c cs ih =>
    rcases escapeLiteral_cons c cs with ⟨hc, h⟩ | ⟨hc, h⟩
    · have hescape : PlainEscape false c (escapeLiteral cs) := plainEscape_of_needsEscape hc
      have hinside : (Place.outside.next '\\') = .outside → referenceAt? (c :: escapeLiteral cs) = .ok none :=
        fun he => (nomatch he)
      rw [h, shiftFrom_of_none fun _ => referenceAt?_escape hescape, shiftFrom_of_none hinside]
      show ((shiftFrom offset 0 .outside (escapeLiteral cs)).map _).map _ = _
      rw [ih]
      rfl
    · have hslash : c ≠ '\\' := (ne_of_needsEscape (by decide) hc).symm
      have hopen : c ≠ '(' := (ne_of_needsEscape (by decide) hc).symm
      have hbracket : c ≠ '[' := (ne_of_needsEscape (by decide) hc).symm
      have hnext : Place.outside.next c = .outside := by simp [Place.next, hslash, hbracket]
      rw [h, shiftFrom_of_none fun _ => referenceAt?_of_ne hslash hopen, hnext, ih]
      rfl

/-- **Pinning end anchors leaves a literal pattern as it is**: it has none. -/
theorem pinnedIf_escapeLiteral (b : Bool) (cs : List Char) : pinnedIf b (escapeLiteral cs) = escapeLiteral cs := by
  induction cs with
  | nil => exact pinnedIf_nil
  | cons c cs ih =>
    rcases escapeLiteral_cons c cs with ⟨-, h⟩ | ⟨hc, h⟩
    · rw [h, pinnedIf_escape, ih]
    · have hunmarked : Unmarked c :=
        ⟨(ne_of_needsEscape (by decide) hc).symm, (ne_of_needsEscape (by decide) hc).symm,
          (ne_of_needsEscape (by decide) hc).symm⟩
      rw [h, pinnedIf_cons hunmarked, ih]

theorem pinEnds_escapeLiteral (cs : List Char) : pinEnds (escapeLiteral cs) = escapeLiteral cs :=
  pinnedIf_escapeLiteral true cs

theorem enclose_escapeLiteral (cs : List Char) :
    enclose (escapeLiteral cs) = .ok ('(' :: escapeLiteral cs ++ [')']) := by
  rw [enclose, shiftReferences_escapeLiteral]
  rfl

end PatternText

namespace Pattern

/-! ### What a text is matched as -/

/-- The pattern that matches a character and no other. -/
def Node.letter {ρ : Type} (c : Char) : Node ρ := .one (.char c.toNat true .exact)

/-- The pattern that matches a text, character by character. -/
def Node.text {ρ : Type} (cs : List Char) : Node ρ := .ofList (cs.map .letter)

namespace Reading

/-! ### Reading -/

section Escape

variable {c : Char} (hc : needsEscape c = true)
include hc

theorem hexWidth?_of_needsEscape : hexWidth? c = none := by
  unfold hexWidth?
  split <;> first | rfl | exact absurd hc (by decide)

theorem placeLetter?_of_needsEscape (o : Options) : placeLetter? o c = none := by
  unfold placeLetter?
  dsimp only
  split <;> first | rfl | exact absurd hc (by decide)

theorem classLetter?_of_needsEscape : classLetter? c = none := by
  unfold classLetter?
  split <;> first | rfl | exact absurd hc (by decide)

theorem controlLetter?_of_needsEscape : controlLetter? c = none := by
  unfold controlLetter?
  split <;> first | rfl | exact absurd hc (by decide)

theorem commonEscape_of_needsEscape : commonEscape c = pure (.literal c.toNat) := by
  unfold commonEscape
  rw [classLetter?_of_needsEscape hc]
  dsimp only
  rw [controlLetter?_of_needsEscape hc, (not_alphanumeric_of_needsEscape hc).1]
  rfl

/-- **An escape of a sign or a blank** is the character itself. -/
theorem run_escapeOf_of_needsEscape {s : Source} (hcasing : s.options.casing = .exact) :
    (escapeOf c).run s = .ok (.letter c, s) := by
  have hne {d : Char} (hd : needsEscape d = false) : (c == d) = false := by
    simpa using ne_of_needsEscape hc hd
  have hnode : (nodeOf (.literal c.toNat)).run s = .ok (.letter c, s) := by
    rw [nodeOf, run_casing_bind, hcasing]
    rfl
  unfold escapeOf
  rw [run_get_bind, hexWidth?_of_needsEscape hc, placeLetter?_of_needsEscape hc]
  simp only [@hne 'g' (by decide), @hne 'L' (by decide), @hne 'N' (by decide), @hne 'p' (by decide),
    @hne 'P' (by decide), @hne 'R' (by decide), @hne '0' (by decide), (not_alphanumeric_of_needsEscape hc).2,
    Bool.false_eq_true, if_false, Bool.or_false, commonEscape_of_needsEscape hc, pure_bind]
  exact hnode

end Escape

section Elements

variable {inner alternatives : Reading (Node Reference)} {s : Source}

/-- An escape, after its backslash. -/
theorem run_element_escape (hcasing : s.options.casing = .exact) {c : Char} (hc : needsEscape c = true)
    (cs : List Char) (start : Nat) (items : Items) :
    (element inner alternatives start '\\' .exact items).run (s.leaving (c :: cs)) =
      .ok ((.exact, some (.letter c) :: items), s.leaving cs) := by
  have hescape : escape.run (s.leaving (c :: cs)) = .ok (.letter c, s.leaving cs) := by
    rw [escape, run_verbatim_next_bind]
    exact run_escapeOf_of_needsEscape hc (s := s.leaving cs) hcasing
  rw [element, run_bind_of_ok hescape]
  rfl

/-- A character that stands for itself. -/
theorem run_element_plain {c : Char} (hc : needsEscape c = false) (start : Nat) (items : Items) :
    (element inner alternatives start c .exact items).run s =
      .ok ((.exact, some (.letter c) :: items), s) := by
  have hne {d : Char} (hd : needsEscape d = true) : c ≠ d := (ne_of_needsEscape hd hc).symm
  have hbeq {d : Char} (hd : needsEscape d = true) : (c == d) = false := by simpa using hne hd
  unfold element
  split
  · exact absurd rfl (hne (d := '\\') (by decide))
  · exact absurd rfl (hne (d := '(') (by decide))
  · exact absurd rfl (hne (d := '[') (by decide))
  · simp only [@hbeq '.' (by decide), @hbeq '^' (by decide), @hbeq '$' (by decide), @hbeq '?' (by decide),
      @hbeq '*' (by decide), @hbeq '+' (by decide), @hbeq '\x7b' (by decide), Bool.false_eq_true, if_false,
      Bool.or_false]
    rfl

/-- The elements from one on, that one read. -/
theorem run_elements_of_element {c : Char} {cs : List Char} (hvisible : s.visible = c :: cs) (hclose : c ≠ ')')
    (hbar : c ≠ '|') {k k' : Casing} {items items' : Items} {t : Source}
    (h : (element inner alternatives s.pos c k items).run (s.leaving cs) = .ok ((k', items'), t)) (limit : Nat) :
    (elements inner alternatives (limit + 1) k items).run s = (elements inner alternatives limit k' items').run t := by
  rw [elements, run_pos_bind, run_mark_bind, run_next_bind_of_cons hvisible]
  split
  · next he => cases he
  · next he => exact absurd (Option.some.inj he) hclose
  · next he => exact absurd (Option.some.inj he) hbar
  · next d _ _ he =>
    obtain rfl := Option.some.inj he
    rw [run_bind_of_ok h]

/-- **Reading a literal pattern**: every character of the text is an element, in the order of the text. -/
theorem run_elements_escapeLiteral (cs : List Char) {limit : Nat} (hlimit : cs.length < limit) {s : Source}
    (hcasing : s.options.casing = .exact) (hrest : s.rest = escapeLiteral cs) (items : Items) :
    (elements inner alternatives limit .exact items).run s =
      .ok ((cs.map fun c => some (.letter c)).reverse ++ items, s.leaving []) := by
  induction cs generalizing limit s items with
  | nil =>
    obtain ⟨limit, rfl⟩ : ∃ n, limit = n + 1 := ⟨limit - 1, by omega⟩
    have hvisible : s.visible = [] := Source.visible_eq_nil hrest
    have hleft : s.leaving [] = s := by
      conv_rhs => rw [← s.leaving_self, hrest]
      rfl
    rw [elements, run_pos_bind, run_mark_bind, run_next_bind, hvisible, hleft]
    rfl
  | cons c cs ih =>
    obtain ⟨limit, rfl⟩ : ∃ n, limit = n + 1 := ⟨limit - 1, by omega⟩
    have hshorter : cs.length < limit := Nat.lt_of_succ_lt_succ hlimit
    have hitems : ((c :: cs).map fun c => some (.letter c)).reverse ++ items =
        (cs.map fun c => some (.letter c)).reverse ++
          (some (Node.letter c) :: items) := by
      rw [List.map_cons, List.reverse_cons, List.append_assoc]
      rfl
    have hgoOn := ih hshorter (s := s.leaving (escapeLiteral cs)) hcasing rfl
      (some (.letter c) :: items)
    rw [hitems]
    -- a character is written behind a backslash, or as it stands
    rcases escapeLiteral_cons c cs with ⟨hc, h⟩ | ⟨hc, h⟩
    · have hvisible := visible_cons (hrest.trans h) (by decide) (by decide)
      rw [run_elements_of_element hvisible (by decide) (by decide) (run_element_escape hcasing hc _ _ items)]
      exact hgoOn
    · have hblank : isBlank c.toNat = false := (Bool.or_eq_false_iff.mp hc).2
      have hne {d : Char} (hd : needsEscape d = true) : c ≠ d := (ne_of_needsEscape hd hc).symm
      have hvisible := visible_cons (hrest.trans h) hblank (hne (by decide))
      rw [run_elements_of_element hvisible (hne (by decide)) (hne (by decide)) (run_element_plain hc _ items)]
      exact hgoOn

end Elements

/-- The elements of a text in a row. -/
theorem ofList_elements (cs : List Char) :
    Node.ofList (((cs.map fun c => some (Node.letter c)).reverse ++ [none]).reverse.filterMap id) =
      (.text cs : Node Reference) := by
  have hletters : (cs.map fun c => some (Node.letter c)).filterMap id = (cs.map .letter : List (Node Reference)) := by
    induction cs with
    | nil => rfl
    | cons c cs ih => exact congrArg (Node.letter c :: ·) ih
  rw [List.reverse_append, List.reverse_reverse]
  exact congrArg Node.ofList hletters

/-- A literal pattern is the whole of its text. -/
theorem run_whole_escapeLiteral {cs : List Char} {s : Source} (hcasing : s.options.casing = .exact)
    (hrest : s.rest = escapeLiteral cs) (htotal : cs.length ≤ s.total) :
    whole.run s = .ok (.text cs, s.leaving []) := by
  have hsequence (depth : Nat) : (sequence (depth + 1)).run s = .ok (.text cs, s.leaving []) := by
    rw [sequence, run_get_bind, hcasing, run_bind_of_ok
      (run_elements_escapeLiteral cs (Nat.lt_succ_of_le htotal) hcasing hrest [none]), ofList_elements]
    rfl
  rw [run_whole, run_choiceOf_of_end (hsequence _) rfl]
  exact if_pos (Source.visible_eq_nil rfl)

end Reading

/-! ### Compiling -/

theorem Options.union_empty (o : Options) : o.union {} = o := by
  simp [Options.union]

theorem Options.casing_of_not_ignoreCase {o : Options} (h : o.ignoreCase = false) : o.casing = .exact := by
  rw [casing, h]
  rfl

/-- Reading a literal pattern ends with its text and with the options that it began with. -/
theorem readPattern_escapeLiteral (cs : List Char) {o : Options} (ho : o.ignoreCase = false) :
    readPattern (escapeLiteral cs) o 4 {} = .ok (.text cs, (Source.ofPattern (escapeLiteral cs) o {}).leaving []) := by
  have hcasing : (Source.ofPattern (escapeLiteral cs) o {}).options.casing = .exact := by
    show (o.union {}).casing = _
    rw [o.union_empty]
    exact Options.casing_of_not_ignoreCase ho
  rw [readPattern, Reading.run_whole_escapeLiteral hcasing rfl (length_le_escapeLiteral cs)]

namespace Node

theorem text_cons_cons {ρ : Type} (c d : Char) (cs : List Char) :
    (text (c :: d :: cs) : Node ρ) = .seq (.letter c) (text (d :: cs)) := rfl

/-- What holds of the empty pattern and of a character, and is kept by a character in front, holds of every text. -/
theorem text_induction {ρ : Type} {P : Node ρ → Prop} (hempty : P .empty) (hletter : ∀ c, P (.letter c))
    (hseq : ∀ c n, P n → P (.seq (.letter c) n)) (cs : List Char) : P (text cs) := by
  induction cs with
  | nil => exact hempty
  | cons c cs ih =>
    cases cs with
    | nil => exact hletter c
    | cons d cs => exact hseq c _ ih

/-- A text has no references to be resolved. -/
theorem resolve_text {ρ σ ε : Type} (onReference onChoice onCall : ρ → Except ε σ) (cs : List Char) :
    (text cs).resolve onReference onChoice onCall = .ok (text cs) := by
  induction cs with
  | nil => rfl
  | cons c cs ih =>
    cases cs with
    | nil => rfl
    | cons d cs =>
      rw [text_cons_cons, resolve, ih]
      rfl

/-- Arranging leaves a text as it is: among the items of a sequence it is its characters. -/
theorem arrange_text (r : Repertoire) (cs : List Char) :
    (text cs).arrange r false .inSequence = cs.map .letter := by
  induction cs with
  | nil => rfl
  | cons c cs ih =>
    cases cs with
    | nil => rfl
    | cons d cs =>
      rw [text_cons_cons, arrange, ih]
      rfl

theorem arranged_text (r : Repertoire) (cs : List Char) : (text cs).arranged r = text cs := by
  match cs with
  | [] | [_] => rfl
  | c :: d :: cs =>
    rw [text_cons_cons, arranged, arrange, arrange_text]
    rfl

theorem runNodes_exact (r : Repertoire) (codes : List Nat) :
    runNodes r codes .exact = codes.map fun n => .one (.char n true .exact) := by
  unfold runNodes
  rw [ite_self]
  rfl

/-- A character that matches itself only joins a run of such characters. -/
theorem push_exact (r : Repertoire) (c : Char) (codes : List Nat) :
    (LiteralRun.mk codes .exact).push r c.toNat .exact = ([], ⟨c.toNat :: codes, .exact⟩) := if_pos (.inl rfl)

theorem formRuns_letter (r : Repertoire) (c : Char) (run : LiteralRun) :
    (letter c).formRuns r (some run) = (run.push r c.toNat .exact).1 ++ (run.push r c.toNat .exact).2.nodes r := rfl

theorem formRuns_letter_seq (r : Repertoire) (c : Char) (b : Node Nat) (run : Option LiteralRun) :
    (seq (letter c) b).formRuns r run = ((run.getD {}).push r c.toNat .exact).1 ++
      b.formRuns r (some ((run.getD {}).push r c.toNat .exact).2) := rfl

/-- A run of characters that match themselves only goes on to the end of the text. -/
theorem formRuns_text (r : Repertoire) (c : Char) (cs : List Char) (codes : List Nat) :
    (text (c :: cs)).formRuns r (some ⟨codes, .exact⟩) =
      (codes.reverse ++ (c :: cs).map Char.toNat).map fun n => .one (.char n true .exact) := by
  induction cs generalizing c codes with
  | nil =>
    show (letter c).formRuns r _ = _
    rw [formRuns_letter, push_exact, LiteralRun.nodes, runNodes_exact, List.reverse_cons]
    rfl
  | cons d cs ih =>
    rw [text_cons_cons, formRuns_letter_seq, Option.getD_some, push_exact, List.nil_append, ih, List.reverse_cons,
      List.append_assoc]
    rfl

theorem withRuns_text (r : Repertoire) (cs : List Char) : (text cs).withRuns r = text cs := by
  match cs with
  | [] | [_] => rfl
  | c :: d :: cs =>
    have hruns : (text (c :: d :: cs)).formRuns r none = (c :: d :: cs).map .letter := by
      rw [text_cons_cons, formRuns_letter_seq, Option.getD_none, push_exact, List.nil_append, formRuns_text,
        List.map_append, List.map_map]
      rfl
    rw [withRuns, hruns]
    rfl

end Node

/-- **A literal pattern compiles to its text**, unless both repertoires are asked for. -/
theorem compile_escapeLiteral (cs : List Char) {o : Options} (ho : o.ignoreCase = false)
    (hrepertoires : (o.ascii && o.unicode) = false) :
    compile (escapeLiteral cs) o = .ok ⟨.text cs, 0, o.posix, o.repertoire?.getD .worldwide⟩ := by
  have hoptions : (Source.ofPattern (escapeLiteral cs) o {}).options = o := o.union_empty
  unfold compile
  rw [readPattern_escapeLiteral cs ho]
  simp only [bind, Except.bind, Source.leaving_options, hoptions, hrepertoires, Bool.false_eq_true, if_false, pure,
    Except.pure, Node.resolve_text, Except.mapError, Node.arranged_text, Node.withRuns_text]
  rfl

/-- A literal pattern leaves the repertoire as it is. -/
theorem keepsRepertoire_escapeLiteral (cs : List Char) {o : Options} (ho : o.ignoreCase = false) :
    KeepsRepertoire (escapeLiteral cs) o := by
  have hoptions : (Source.ofPattern (escapeLiteral cs) o {}).options = o := o.union_empty
  intro read hread
  rw [readPattern_escapeLiteral cs ho] at hread
  cases hread
  rw [Source.leaving_options, hoptions]
  exact ⟨rfl, rfl⟩

end Pattern

end SqlRegexp
