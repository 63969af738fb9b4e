import Mathlib.Algebra.Group.Nat.Defs
import SqlRegexp.Proofs.Text.Numeral
import SqlRegexp.Proofs.Yaml.Keeps
import SqlRegexp.Yaml.Token

/-!
Where a text of a document denotes no character.

The readers of a document only move on in its text, so what is ahead of them is always an end of it (`Reads`). They give
up where the text breaks a rule, and at one more place: an escape with a number that no character has. Two or four
digits do not get that far. So **a text that is given up for want of a character has an escape with eight digits, beyond
the last character** (`tokens_flaw`).
-/

namespace SqlRegexp.Yaml

open SqlRegexp.Text

/-- The flaws that a text can have: it breaks a rule, or an escape in it with eight digits denotes a number beyond the
last character. -/
inductive FlawIn (text : List Char) : Flaw → Prop
  | malformed : FlawIn text .malformed
  | noCharacter {ds rest : List Char} (h : '\\' :: 'U' :: (ds ++ rest) <:+ text) (hlength : ds.length = 8)
    (hdigits : ∀ d ∈ ds, (hexValue? d).isSome = true) (hcode : 0x10FFFF < ofDigits 16 (ds.filterMap hexValue?)) :
    FlawIn text (.noCharacter (ofDigits 16 (ds.filterMap hexValue?)))

/-- A reader that only moves on in a text, and gives up for a flaw of it. -/
abbrev Reads {α : Type} (text : List Char) (r : Reading α) : Prop := Keeps (fun k => k.rest <:+ text) (FlawIn text) r

theorem Cursor.next_suffix (k : Cursor) : k.next.rest <:+ k.rest := by
  unfold Cursor.next
  split
  · exact List.suffix_refl _
  · next c rest h =>
    rw [h]
    split <;> exact List.suffix_cons ..

theorem Cursor.advance_suffix (count : Nat) (k : Cursor) : (k.advance count).rest <:+ k.rest := by
  induction count generalizing k with
  | zero => exact List.suffix_refl _
  | succ count ih => exact (ih k.next).trans k.next_suffix

namespace Reading

variable {text : List Char}

/-! ### Steps -/

theorem reads_refuse {α : Type} : Reads text (refuse : Reading α) := .throw .malformed

theorem reads_demand (b : Bool) : Reads text (demand b) := .ite (fun _ => .pure _) fun _ => reads_refuse

theorem reads_ahead (count : Nat) : Reads text (ahead count) := .get_bind fun _ _ => .pure _

theorem reads_peek : Reads text peek := reads_ahead 0

theorem reads_isAhead (count : Nat) (p : Char → Bool) : Reads text (isAhead count p) :=
  .bind (reads_ahead count) fun _ => .pure _

theorem reads_skip (count : Nat) : Reads text (skip count) := .modify fun k hk => (k.advance_suffix count).trans hk

theorem reads_takeWhile (p : Char → Bool) : Reads text (takeWhile p) :=
  .get_bind fun _ _ => .bind (reads_skip _) fun _ => .pure _

theorem reads_skipWhile (p : Char → Bool) : Reads text (skipWhile p) := .bind (reads_takeWhile p) fun _ => .pure _

theorem reads_lineBreak : Reads text lineBreak := by
  refine .bind reads_peek fun c => ?_
  split
  · exact .ite (fun _ => .bind (reads_skip 1) fun _ => .pure _) fun _ => .pure _
  · exact .pure _

theorem reads_wordEnds (count : Nat) : Reads text (wordEnds count) := .bind (reads_ahead count) fun _ => .pure _

theorem reads_spaceEnds (count : Nat) : Reads text (spaceEnds count) := .bind (reads_ahead count) fun _ => .pure _

theorem reads_lineEnds : Reads text lineEnds := .bind reads_peek fun _ => .pure _

theorem reads_isFence (mark : Char) : Reads text (isFence mark) :=
  .get_bind fun _ _ => .bind (reads_wordEnds 3) fun _ => .pure _

theorem reads_isDocumentFence : Reads text isDocumentFence :=
  .bind (reads_isFence '-') fun _ => .bind (reads_isFence '.') fun _ => .pure _

theorem reads_skipComment : Reads text skipComment :=
  .bind (reads_isAhead 0 _) fun _ => .ite (fun _ => reads_skipWhile _) fun _ => .pure _

theorem reads_restOfLine : Reads text restOfLine :=
  .bind (reads_skipWhile _) fun _ => .bind reads_skipComment fun _ => .bind reads_lineEnds fun _ =>
    .bind (reads_demand _) fun _ => .bind reads_lineBreak fun _ => .pure _

/-! ### Properties and directives -/

theorem reads_name : Reads text name := .bind (reads_takeWhile _) fun _ => .bind (reads_demand _) fun _ => .pure _

theorem reads_anchorName : Reads text anchorName :=
  .bind (reads_skip 1) fun _ => .bind reads_name fun _ => .bind (reads_wordEnds 0) fun _ =>
    .bind (reads_isAhead 0 _) fun _ => .bind (reads_demand _) fun _ => .pure _

theorem reads_tagHandle : Reads text tagHandle :=
  .bind (reads_isAhead 0 _) fun _ => .bind (reads_demand _) fun _ => .bind (reads_skip 1) fun _ =>
    .bind (reads_isAhead 0 _) fun _ => .ite (fun _ => .pure _) fun _ =>
      .bind (reads_takeWhile _) fun _ => .bind (reads_isAhead 0 _) fun _ => .bind (reads_demand _) fun _ =>
        .bind (reads_skip 1) fun _ => .pure _

theorem reads_addressBytes (limit : Nat) : Reads text (addressBytes limit) := by
  induction limit with
  | zero => exact reads_refuse
  | succ limit ih =>
    refine .bind (reads_isAhead 0 _) fun _ => .ite (fun _ => .pure _) fun _ => .bind (reads_skip 1) fun _ => ?_
    exact .get_bind fun _ _ => .bind (reads_demand _) fun _ => .bind (reads_skip 2) fun _ => .bind ih fun _ => .pure _

theorem reads_addressRest (limit : Nat) : Reads text (addressRest limit) := by
  induction limit with
  | zero => exact reads_refuse
  | succ limit ih =>
    refine .bind (reads_isAhead 0 _) fun _ => .ite (fun _ => ?_) fun _ => ?_
    · refine .bind (reads_addressBytes _) fun bytes => ?_
      split
      · exact .bind ih fun _ => .pure _
      · exact reads_refuse
    · refine .bind (reads_takeWhile _) fun cs => ?_
      split
      · exact .pure _
      · exact .bind ih fun _ => .pure _

theorem reads_address : Reads text address :=
  .bind (reads_isAhead 0 _) fun _ => .bind (reads_demand _) fun _ => .get_bind fun _ _ => reads_addressRest _

theorem reads_tag : Reads text tag := by
  have hend : ∀ t : TagText, Reads text (do demand (← spaceEnds 0); return t) := fun t =>
    .bind (reads_spaceEnds 0) fun _ => .bind (reads_demand _) fun _ => .pure _
  refine .get_bind fun k _ => .bind (reads_wordEnds 1) fun _ => .ite (fun _ => ?_) fun _ => .ite (fun _ => ?_) fun _ =>
    .ite (fun _ => ?_) fun _ => ?_
  · refine .bind (reads_skip 2) fun _ => .bind reads_address fun _ => .bind (reads_isAhead 0 _) fun _ => ?_
    exact .bind (reads_demand _) fun _ => .bind (reads_skip 1) fun _ => .bind (.pure _) fun t => hend t
  · exact .bind (reads_skip 1) fun _ => .bind (.pure _) fun t => hend t
  · exact .bind reads_tagHandle fun _ => .bind reads_address fun _ => .bind (.pure _) fun t => hend t
  · exact .bind (reads_skip 1) fun _ => .bind reads_address fun _ => .bind (.pure _) fun t => hend t

theorem reads_versionNumber : Reads text versionNumber :=
  .bind (reads_takeWhile _) fun _ => .bind (reads_demand _) fun _ => .pure _

theorem reads_versionDirective : Reads text versionDirective :=
  .bind (reads_skipWhile _) fun _ => .bind reads_versionNumber fun _ => .bind (reads_isAhead 0 _) fun _ =>
    .bind (reads_demand _) fun _ => .bind (reads_skip 1) fun _ => .bind reads_versionNumber fun _ =>
      .bind (reads_spaceEnds 0) fun _ => .bind (reads_demand _) fun _ => .pure _

theorem reads_handleDirective : Reads text handleDirective :=
  .bind (reads_skipWhile _) fun _ => .bind reads_tagHandle fun _ => .bind (reads_isAhead 0 _) fun _ =>
    .bind (reads_demand _) fun _ => .bind (reads_skipWhile _) fun _ => .bind reads_address fun _ =>
      .bind (reads_spaceEnds 0) fun _ => .bind (reads_demand _) fun _ => .pure _

theorem reads_directive : Reads text directive := by
  have hend : ∀ d : Directive, Reads text (do restOfLine; return d) := fun d => .bind reads_restOfLine fun _ => .pure _
  refine .bind (reads_skip 1) fun _ => .bind reads_name fun cs => .bind (reads_spaceEnds 0) fun _ => ?_
  refine .bind (reads_demand _) fun _ => .ite (fun _ => ?_) fun _ => .ite (fun _ => ?_) fun _ => ?_
  · exact .bind reads_versionDirective fun d => hend d
  · exact .bind reads_handleDirective fun d => hend d
  · exact .bind (reads_skipWhile _) fun _ => .bind (.pure _) fun d => hend d

/-! ### Scalars -/

theorem reads_quotedBreaks (limit : Nat) : Reads text (quotedBreaks limit) := by
  induction limit with
  | zero => exact reads_refuse
  | succ limit ih =>
    refine .bind reads_isDocumentFence fun _ => .ite (fun _ => reads_refuse) fun _ => ?_
    refine .bind (reads_skipWhile _) fun _ => .bind reads_lineBreak fun b => ?_
    split
    · exact .pure _
    · exact .bind ih fun _ => .pure _

theorem reads_quotedGap (limit : Nat) : Reads text (quotedGap limit) := by
  refine .bind (reads_takeWhile _) fun _ => .bind reads_peek fun c => ?_
  split
  · exact reads_refuse
  · refine .bind reads_lineBreak fun b => ?_
    split
    · exact .pure _
    · exact .bind (reads_quotedBreaks limit) fun _ => .pure _

theorem reads_plainBreaks (limit : Nat) : Reads text (plainBreaks limit) := by
  induction limit with
  | zero => exact reads_refuse
  | succ limit ih =>
    refine .bind (reads_skipWhile _) fun _ => .bind reads_lineBreak fun b => ?_
    split
    · exact .pure _
    · exact .bind reads_isDocumentFence fun _ => .ite (fun _ => .pure _) fun _ => .bind ih fun _ => .pure _

theorem reads_plainGap (limit : Nat) : Reads text (plainGap limit) := by
  refine .bind (reads_takeWhile _) fun _ => .bind reads_lineBreak fun b => ?_
  split
  · exact .pure _
  · refine .bind reads_isDocumentFence fun _ => .ite (fun _ => .pure _) fun _ => ?_
    refine .bind (reads_plainBreaks limit) fun more => ?_
    split <;> exact .pure _

theorem reads_plainFrom (inFlow : Bool) (column : Int) (limit : Nat) (lineEnded : Bool) (gap : List Char) :
    Reads text (plainFrom inFlow column limit lineEnded gap) := by
  induction limit generalizing lineEnded gap with
  | zero => exact reads_refuse
  | succ limit ih =>
    refine .bind (reads_isAhead 0 _) fun _ => .ite (fun _ => .pure _) fun _ => .get_bind fun k _ => ?_
    split
    · exact .pure _
    · refine .bind (reads_skip _) fun _ => .bind (reads_plainGap _) fun p => .get_bind fun k' _ => ?_
      dsimp only
      split
      · exact .pure _
      · exact .ite (fun _ => .bind (ih _ _) fun _ => .pure _) fun _ => .pure _
      · exact .ite (fun _ => .bind (ih _ _) fun _ => .pure _) fun _ => .pure _

theorem reads_plainScalar (inFlow : Bool) (around : Int) : Reads text (plainScalar inFlow around) :=
  .get_bind fun _ _ => reads_plainFrom _ _ _ _ _

theorem reads_chompingSign : Reads text chompingSign := by
  refine .bind reads_peek fun c => ?_
  split
  · exact .bind (reads_skip 1) fun _ => .pure _
  · exact .bind (reads_skip 1) fun _ => .pure _
  · exact .pure _

theorem reads_indentationDigit : Reads text indentationDigit := by
  refine .bind reads_peek fun c => ?_
  split
  · exact reads_refuse
  · exact .bind (reads_skip 1) fun _ => .pure _
  · exact .pure _

theorem reads_blockHeader : Reads text blockHeader := by
  refine .bind reads_chompingSign fun sign => .bind reads_indentationDigit fun digit => ?_
  have hend : ∀ sign : Option Chomping, Reads text (do
      demand (← spaceEnds 0)
      restOfLine
      return (sign.getD .clip, digit)) := fun sign =>
    .bind (reads_spaceEnds 0) fun _ => .bind (reads_demand _) fun _ => .bind reads_restOfLine fun _ => .pure _
  exact .ite (fun _ => .bind reads_chompingSign fun sign => hend sign) fun _ => .bind (.pure _) fun sign => hend sign

theorem reads_indentTo (column : Nat) : Reads text (indentTo column) := .get_bind fun _ _ => reads_skip _

theorem reads_emptyLines (column limit : Nat) : Reads text (emptyLines column limit) := by
  induction limit with
  | zero => exact reads_refuse
  | succ limit ih =>
    refine .bind (reads_indentTo column) fun _ => .bind reads_lineBreak fun b => ?_
    split
    · exact .pure _
    · exact .bind ih fun _ => .pure _

theorem reads_leadingLines (limit : Nat) : Reads text (leadingLines limit) := by
  induction limit with
  | zero => exact reads_refuse
  | succ limit ih =>
    refine .bind (reads_takeWhile _) fun _ => .get_bind fun _ _ => .bind reads_lineBreak fun b => ?_
    split
    · exact .pure _
    · exact .bind ih fun _ => .pure _

theorem reads_blockLines (isFolded : Bool) (column limit : Nat) (before : List Char) :
    Reads text (blockLines isFolded column limit before) := by
  induction limit generalizing before with
  | zero => exact reads_refuse
  | succ limit ih =>
    refine .bind (reads_isAhead 0 _) fun _ => .bind (reads_takeWhile _) fun _ => .bind reads_lineBreak fun _ => ?_
    refine .bind (reads_emptyLines column _) fun gap => .get_bind fun _ _ => .ite (fun _ => ?_) fun _ => .pure _
    exact .bind (reads_isAhead 0 _) fun _ => .bind (ih gap) fun _ => .pure _

theorem reads_blockScalar (isFolded : Bool) (around : Int) : Reads text (blockScalar isFolded around) := by
  refine .bind (reads_skip 1) fun _ => .bind reads_blockHeader fun header => .get_bind fun k _ => ?_
  dsimp only
  split
  · exact .bind (reads_emptyLines _ _) fun _ => .bind (.pure _) fun _ => .get_bind fun _ _ =>
      .ite (fun _ => .bind (reads_blockLines _ _ _ _) fun _ => .pure _) fun _ => .pure _
  · exact .bind (reads_leadingLines _) fun _ => .bind (.pure _) fun _ => .get_bind fun _ _ =>
      .ite (fun _ => .bind (reads_blockLines _ _ _ _) fun _ => .pure _) fun _ => .pure _

/-! ### Escapes -/

theorem hexValue?_lt {c : Char} {d : Nat} (h : hexValue? c = some d) : d < 16 := by
  have hle : ∀ {a b : Char}, a ≤ b → a.toNat ≤ b.toNat := fun h => UInt32.le_iff_toNat_le.mp h
  unfold hexValue? at h
  split at h
  · next hc =>
    have hnine := hle hc.2
    cases h
    change c.toNat ≤ 57 at hnine
    show c.toNat - 48 < 16
    omega
  · split at h
    · next hc =>
      have hf := hle hc.2
      cases h
      change c.toNat ≤ 102 at hf
      show c.toNat - 97 + 10 < 16
      omega
    · split at h
      · next hc =>
        have hf := hle hc.2
        cases h
        change c.toNat ≤ 70 at hf
        show c.toNat - 65 + 10 < 16
        omega
      · cases h

theorem escapeWidth?_cases {c : Char} {width : Nat} (h : escapeWidth? c = some width) :
    c = 'U' ∧ width = 8 ∨ width ≤ 4 := by
  obtain ⟨before, after, hwidths, -⟩ := List.lookup_eq_some_iff.mp h
  have hmem : (c, width) ∈ [('x', 2), ('u', 4), ('U', 8)] := by
    rw [hwidths]
    exact List.mem_append_right _ (List.mem_cons_self ..)
  simp only [List.mem_cons, Prod.mk.injEq, List.not_mem_nil, or_false] at hmem
  rcases hmem with ⟨-, rfl⟩ | ⟨-, rfl⟩ | ⟨rfl, rfl⟩
  · exact .inr (by decide)
  · exact .inr (by decide)
  · exact .inl ⟨rfl, rfl⟩

/-- Where as many digits are read as there are characters, all of them are digits. -/
theorem isSome_of_length_filterMap {cs : List Char} {f : Char → Option Nat} (h : cs.length ≤ (cs.filterMap f).length) :
    ∀ c ∈ cs, (f c).isSome = true := by
  induction cs with
  | nil => exact fun c hc => nomatch hc
  | cons c cs ih =>
    have hle := List.length_filterMap_le f cs
    cases hc : f c with
    | none =>
      rw [List.filterMap_cons_none hc, List.length_cons] at h
      omega
    | some d =>
      rw [List.filterMap_cons_some hc, List.length_cons, List.length_cons] at h
      intro c' hc'
      rcases List.mem_cons.mp hc' with rfl | hc'
      · rw [hc]
        rfl
      · exact ih (by omega) c' hc'

theorem advance_one {k : Cursor} {c : Char} {cs : List Char} (h : k.rest = c :: cs) : (k.advance 1).rest = cs := by
  show k.next.rest = cs
  unfold Cursor.next
  rw [h]
  dsimp only
  split <;> rfl

/-- A code beyond the last character comes from eight digits. -/
theorem ends_numberedEscape {letter : Char} {width : Nat} {k : Cursor} (hletter : escapeWidth? letter = some width)
    (hk : '\\' :: letter :: k.rest <:+ text) :
    Ends (fun _ k => k.rest <:+ text) (FlawIn text) ((numberedEscape width).run k) := by
  have hrest : k.rest <:+ text := (List.suffix_cons ..).trans ((List.suffix_cons ..).trans hk)
  refine .bind_of_ok (a := k) rfl ?_
  have hdemand : ∀ b : Bool, (b = true → Ends (fun _ k => k.rest <:+ text) (FlawIn text)
      ((do skip width; characterOf (ofDigits 16 ((k.rest.take width).filterMap hexValue?)) : Reading Char).run k)) →
      Ends (fun _ k => k.rest <:+ text) (FlawIn text)
        ((do demand b; skip width; characterOf (ofDigits 16 ((k.rest.take width).filterMap hexValue?)) :
          Reading Char).run k) := by
    intro b hb
    cases b with
    | false => exact .error .malformed
    | true => exact hb rfl
  refine hdemand _ fun hlength => ?_
  have hlength : ((k.rest.take width).filterMap hexValue?).length = width := by simpa using hlength
  have hle := List.length_filterMap_le hexValue? (k.rest.take width)
  have htake : (k.rest.take width).length ≤ width := by rw [List.length_take]; exact Nat.min_le_left ..
  -- as many values as characters: each of them is a digit
  have hdigits : ∀ d ∈ k.rest.take width, (hexValue? d).isSome = true := isSome_of_length_filterMap (by omega)
  have hsmall : ofDigits 16 ((k.rest.take width).filterMap hexValue?) < 16 ^ width := by
    have hlt : ∀ d ∈ (k.rest.take width).filterMap hexValue?, d < 16 := by
      intro d hd
      obtain ⟨c, -, hc⟩ := List.mem_filterMap.mp hd
      exact hexValue?_lt hc
    have hbound := ofDigits_lt hlt
    rwa [hlength] at hbound
  refine .bind_of_ok (a := ()) (t := k.advance width) rfl ?_
  unfold characterOf
  split
  · next hcode =>
    refine .error ?_
    rcases escapeWidth?_cases hletter with ⟨rfl, rfl⟩ | hwidth
    · have htext : '\\' :: 'U' :: (k.rest.take 8 ++ k.rest.drop 8) <:+ text := by rwa [List.take_append_drop]
      exact .noCharacter htext (by omega) hdigits hcode
    · -- four digits stay below the last character there is
      have hpow : 16 ^ width ≤ 16 ^ 4 := Nat.pow_le_pow_right (by decide) hwidth
      omega
  · have hsuffix : (k.advance width).rest <:+ text := (k.advance_suffix width).trans hrest
    split <;> exact .ok hsuffix

theorem ends_escape {limit : Nat} {k : Cursor} (hk : '\\' :: k.rest <:+ text) :
    Ends (fun _ k => k.rest <:+ text) (FlawIn text) ((escape limit).run k) := by
  have hrest : k.rest <:+ text := (List.suffix_cons ..).trans hk
  refine .bind_of_ok (a := k.rest[0]?) (t := k) rfl ?_
  cases hcs : k.rest with
  | nil => exact .error .malformed
  | cons c cs =>
    dsimp only [List.getElem?_cons_zero]
    split
    · exact Keeps.bind (reads_skip 1) (fun _ => .pure _) k hrest
    · next width _ hletter =>
      refine .bind_of_ok (a := ()) (t := k.advance 1) rfl (.bind (ends_numberedEscape hletter ?_) fun _ => Keeps.pure _)
      rwa [advance_one hcs, ← hcs]
    · exact Keeps.ite (fun _ => .bind reads_lineBreak fun _ => reads_quotedBreaks limit) (fun _ => reads_refuse) k hrest

theorem reads_quotedRest (quote : Char) (limit : Nat) : Reads text (quotedRest quote limit) := by
  induction limit with
  | zero => exact reads_refuse
  | succ limit ih =>
    intro k hk
    refine .bind_of_ok (a := k.rest[0]?) (t := k) rfl ?_
    cases hcs : k.rest with
    | nil => exact .error .malformed
    | cons c cs =>
      dsimp only [List.getElem?_cons_zero]
      have hpart : ∀ part : List Char, Reads text (do return part ++ (← quotedRest quote limit)) := fun _ =>
        .bind ih fun _ => .pure _
      split
      · refine Keeps.bind (reads_skip 1) (fun _ => .bind (reads_isAhead 0 _) fun _ => ?_) k hk
        exact .ite (fun _ => .bind (reads_skip 1) fun _ => .bind ih fun _ => .pure _) fun _ => .pure _
      · split
        · exact Keeps.bind (reads_quotedGap _) (fun part => hpart part) k hk
        · split
          · next hslash =>
            -- behind the backslash the text is known to hold it
            have hc : c = '\\' := of_decide_eq_true (Bool.and_eq_true_iff.mp hslash).1
            refine .bind_of_ok (a := ()) (t := k.advance 1) rfl (.bind (ends_escape ?_) fun part => hpart part)
            rw [advance_one hcs, ← hc, ← hcs]
            exact hk
          · exact Keeps.bind (reads_skip 1) (fun _ => .bind (.pure _) fun part => hpart part) k hk

theorem reads_quotedScalar (quote : Char) : Reads text (quotedScalar quote) :=
  .bind (reads_skip 1) fun _ => .get_bind fun _ _ => reads_quotedRest quote _

end Reading

/-! ### Tokens -/

namespace Lexer

variable {text : List Char}

/-- A step of the reader of tokens that only moves on in a text, and gives up for a flaw of it. -/
abbrev Reads {α : Type} (text : List Char) (m : Step α) : Prop :=
  Keeps (fun s => s.cursor.rest <:+ text) (FlawIn text) m

theorem reads_reading {α : Type} {r : Reading α} (h : Yaml.Reads text r) : Reads text (reading r) := by
  refine .get_bind fun s hs => .lift_bind (fun e he => (h s.cursor hs).2 e he) fun p hp => ?_
  have hrest : p.2.rest <:+ text := (h s.cursor hs).1 p.1 p.2 hp
  exact .bind (.set hrest) fun _ => .pure _

theorem reads_demand (b : Bool) : Reads text (demand b) := .ite (fun _ => .pure _) fun _ => .throw .malformed

theorem reads_emit (t : Token) : Reads text (emit t) := .modify fun _ h => h

theorem reads_allowKey (b : Bool) : Reads text (allowKey b) := .modify fun _ h => h

theorem reads_dropStale : Reads text dropStale := .get_bind fun _ hs => .bind (reads_demand _) fun _ => .set hs

theorem reads_dropPlace : Reads text dropPlace := .get_bind fun _ hs => .bind (reads_demand _) fun _ => .set hs

theorem reads_savePlace : Reads text savePlace :=
  .get_bind fun _ _ => .ite (fun _ => .bind reads_dropPlace fun _ => .modify fun _ h => h) fun _ => .pure _

theorem reads_unwind (column : Int) : Reads text (unwind column) := by
  refine .modify fun s hs => ?_
  split
  · exact hs
  · exact hs

theorem reads_indentTo (column : Int) (before : Nat) (t : Token) : Reads text (indentTo column before t) := by
  refine .modify fun s hs => ?_
  split <;> exact hs

theorem reads_skipToToken (limit : Nat) : Reads text (skipToToken limit) := by
  induction limit with
  | zero => exact .throw .malformed
  | succ limit ih =>
    have hgap : Yaml.Reads text (do Reading.skipWhile (· == ' '); Reading.skipComment) :=
      .bind (Reading.reads_skipWhile _) fun _ => Reading.reads_skipComment
    refine .bind (reads_reading (.get_bind fun k _ => .bind (Reading.reads_isAhead 0 _) fun _ => ?_)) fun _ =>
      .bind (reads_reading Reading.reads_lineBreak) fun b => ?_
    · exact .ite (fun _ => .bind (Reading.reads_skip 1) fun _ => hgap) fun _ => hgap
    · split
      · exact .pure _
      · exact .bind (.modify fun _ h => h) fun _ => ih

theorem reads_endBlocks : Reads text endBlocks :=
  .bind (reads_unwind _) fun _ => .bind reads_dropPlace fun _ => reads_allowKey _

/-- Passing a sign and adding its token. -/
theorem reads_sign (count : Nat) (t : Token) : Reads text (do reading (Reading.skip count); emit t) :=
  .bind (reads_reading (Reading.reads_skip _)) fun _ => reads_emit _

theorem reads_openBracket (t : Token) : Reads text (openBracket t) :=
  .bind reads_savePlace fun _ => .bind (.modify fun _ h => h) fun _ => reads_sign 1 t

theorem reads_closeBracket (t : Token) : Reads text (closeBracket t) :=
  .bind reads_dropPlace fun _ => .bind (.modify fun _ h => h) fun _ => reads_sign 1 t

theorem reads_comma : Reads text comma :=
  .bind (reads_allowKey _) fun _ => .bind reads_dropPlace fun _ => reads_sign 1 _

theorem reads_blockSign (collection sign : Token) (keyAfter : Bool) : Reads text (blockSign collection sign keyAfter) :=
  .get_bind fun _ _ => .bind (reads_demand _) fun _ => .bind (reads_indentTo _ _ _) fun _ =>
    .bind (reads_allowKey _) fun _ => .bind reads_dropPlace fun _ => reads_sign 1 sign

theorem reads_valueSign : Reads text valueSign := by
  refine .get_bind fun s hs => ?_
  split
  · exact .bind (.set hs) fun _ => .bind (reads_indentTo _ _ _) fun _ => .bind (reads_allowKey _) fun _ =>
      reads_sign 1 _
  · exact reads_blockSign _ _ _

theorem reads_word {r : Reading Token} (h : Yaml.Reads text r) : Reads text (word r) :=
  .bind reads_savePlace fun _ => .bind (reads_allowKey _) fun _ => .bind (reads_reading h) fun _ => reads_emit _

theorem reads_plain : Reads text plain :=
  .bind reads_savePlace fun _ => .get_bind fun _ _ => .bind (reads_reading (Reading.reads_plainScalar _ _)) fun _ =>
    .bind (reads_allowKey _) fun _ => reads_emit _

theorem reads_block (isFolded : Bool) : Reads text (block isFolded) :=
  .bind (reads_allowKey _) fun _ => .bind reads_dropPlace fun _ => .get_bind fun _ _ =>
    .bind (reads_reading (Reading.reads_blockScalar _ _)) fun _ => reads_emit _

theorem reads_fence (t : Token) : Reads text (fence t) := .bind reads_endBlocks fun _ => reads_sign 3 t

theorem reads_tokenAt (c : Char) : Reads text (tokenAt c) := by
  refine .get_bind fun s _ => .bind (reads_reading (Reading.reads_wordEnds 1)) fun _ => ?_
  refine .ite (fun _ => .bind reads_endBlocks fun _ => .bind (reads_reading Reading.reads_directive) fun _ =>
    reads_emit _) fun _ => ?_
  refine .bind (reads_reading (Reading.reads_isFence _)) fun _ => .ite (fun _ => reads_fence _) fun _ => ?_
  refine .bind (reads_reading (Reading.reads_isFence _)) fun _ => .ite (fun _ => reads_fence _) fun _ => ?_
  refine .ite (fun _ => reads_openBracket _) fun _ => .ite (fun _ => reads_openBracket _) fun _ => ?_
  refine .ite (fun _ => reads_closeBracket _) fun _ => .ite (fun _ => reads_closeBracket _) fun _ => ?_
  refine .ite (fun _ => reads_comma) fun _ => .ite (fun _ => reads_blockSign _ _ _) fun _ => ?_
  refine .ite (fun _ => .get_bind fun _ _ => reads_blockSign _ _ _) fun _ => .ite (fun _ => reads_valueSign) fun _ => ?_
  refine .ite (fun _ => reads_word (.map _ Reading.reads_anchorName)) fun _ => ?_
  refine .ite (fun _ => reads_word (.map _ Reading.reads_anchorName)) fun _ => ?_
  refine .ite (fun _ => reads_word (.map _ Reading.reads_tag)) fun _ => ?_
  refine .ite (fun _ => reads_block false) fun _ => .ite (fun _ => reads_block true) fun _ => ?_
  refine .ite (fun _ => reads_word (.map _ (Reading.reads_quotedScalar c))) fun _ => ?_
  exact .ite (fun _ => reads_plain) fun _ => .throw .malformed

theorem reads_run (limit : Nat) : Reads text (run limit) := by
  induction limit with
  | zero => exact .throw .malformed
  | succ limit ih =>
    refine .bind (reads_skipToToken _) fun _ => .bind reads_dropStale fun _ => .get_bind fun _ _ => ?_
    refine .bind (reads_unwind _) fun _ => .get_bind fun _ _ => ?_
    split
    · exact reads_endBlocks
    · exact .bind (reads_tokenAt _) fun _ => ih

end Lexer

theorem tokens_flaw {text : List Char} {f : Flaw} (h : tokens text = .error f) : FlawIn text f := by
  have hrun := Lexer.reads_run (text.length + 1) { cursor := { rest := text } } (List.suffix_refl text)
  unfold tokens at h
  cases hr : (Lexer.run (text.length + 1)).run { cursor := { rest := text } } with
  | ok p =>
    rw [hr] at h
    cases h
  | error f' =>
    rw [hr] at h
    cases h
    exact hrun.2 f hr

end SqlRegexp.Yaml
