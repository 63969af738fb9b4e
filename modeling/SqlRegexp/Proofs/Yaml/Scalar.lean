import Mathlib.Algebra.Group.Nat.Defs
import SqlRegexp.Yaml.Scalar

/-!
Scalars that their kind does not foresee.

The kinds refuse most unfit texts in words of their own. Some texts no rule of a kind foresees: a word that is no truth
value, a date in no form of a date, a number without any digit, and more parts in sixtieths than a double can weigh.
`Unforeseen` lists these scalars, and **no others fail in that way** (`value_unforeseen_iff`). A scalar that has its
kind from its looks is none of them, unless it has too many parts or a line feed at its end (`looks_of_unforeseen`): a
tag has to say what the text is not.
-/

namespace SqlRegexp.Yaml

open SqlRegexp.Text SqlRegexp.Unicode

/-- The reasons that are no refusal in the words of a kind. -/
inductive ContentError.Raw : ContentError → Prop
  | emptyNumber : Raw .emptyNumber
  | unknownTruth (word : List Char) : Raw (.unknownTruth word)
  | notADate : Raw .notADate
  | weightTooLarge : Raw .weightTooLarge
  | endless : Raw .endless

namespace Scalar

/-- The words of the truth values. -/
def words : List String := ["yes", "true", "on", "no", "false", "off"]

/-- The size in a real number, in small letters and without underscores. -/
def realSizeText (cs : List Char) : List Char := (splitSign (lowered (withoutJoiners cs))).2

/-- The scalars that no rule of their kind foresees, with what is wrong with them. -/
inductive Unforeseen : Kind → List Char → ContentError → Prop
  | truth {cs : List Char} (h : ∀ w ∈ words, lowered cs ≠ w.toList) :
    Unforeseen .truth cs (.unknownTruth (lowered cs))
  | date {cs : List Char} (h : Date.read? (Kind.withoutLineFeed cs) = none) : Unforeseen .date cs .notADate
  | integer {cs : List Char} (h : (splitSign (withoutJoiners cs)).2 = []) : Unforeseen .integer cs .emptyNumber
  | real {cs : List Char} (h : withoutJoiners cs = []) : Unforeseen .real cs .emptyNumber
  | weight {cs : List Char} {parts : List Float} (hsome : withoutJoiners cs ≠ [])
    (hcolon : ':' ∈ realSizeText cs) (hparts : (pieces ':' (realSizeText cs)).mapM plainReal = .ok parts)
    (hweight : ∃ i < parts.length, (nearestDouble (60 ^ i) 0).isInf = true) : Unforeseen .real cs .weightTooLarge

/-! ### Each kind -/

theorem truth_eq_error_iff {cs : List Char} {e : ContentError} :
    truth cs = .error e ↔ e = .unknownTruth (lowered cs) ∧ ∀ w ∈ words, lowered cs ≠ w.toList := by
  have hany : ∀ ws : List String,
      (ws.any fun w => lowered cs == w.toList) = true ↔ ∃ w ∈ ws, lowered cs = w.toList := by
    simp
  have hwords : words = ["yes", "true", "on"] ++ ["no", "false", "off"] := rfl
  unfold truth
  simp only [hany, hwords, List.mem_append]
  split
  · next h =>
    obtain ⟨w, hw, heq⟩ := h
    exact iff_of_false (fun h => nomatch h) fun h => h.2 w (.inl hw) heq
  · next hyes =>
    split
    · next h =>
      obtain ⟨w, hw, heq⟩ := h
      exact iff_of_false (fun h => nomatch h) fun h => h.2 w (.inr hw) heq
    · next hno =>
      constructor
      · intro h
        cases h
        exact ⟨rfl, fun w hw heq => hw.elim (fun hw => hyes ⟨w, hw, heq⟩) fun hw => hno ⟨w, hw, heq⟩⟩
      · rintro ⟨rfl, -⟩
        rfl

theorem nonempty_of_ne {cs : List Char} (h : cs ≠ []) : nonempty cs = .ok cs := by
  unfold nonempty
  rw [if_neg (by simpa using h)]

theorem sumSixtieths_eq_error_iff {sum : Float} {weight : Nat} {ds : List Float} {e : ContentError} :
    sumSixtieths sum weight ds = .error e ↔
      e = .weightTooLarge ∧ ∃ i < ds.length, (nearestDouble (weight * 60 ^ i) 0).isInf = true := by
  induction ds generalizing sum weight with
  | nil => simp [sumSixtieths]
  | cons d ds ih =>
    rw [sumSixtieths]
    by_cases hw : (nearestDouble weight 0).isInf = true
    · rw [if_pos hw]
      constructor
      · intro h
        cases h
        exact ⟨rfl, 0, Nat.zero_lt_succ _, by simpa using hw⟩
      · rintro ⟨rfl, -⟩
        rfl
    · -- the parts to come weigh sixty times as much
      rw [if_neg hw, ih]
      refine and_congr_right fun _ => ?_
      constructor
      · rintro ⟨i, hi, hinf⟩
        refine ⟨i + 1, Nat.succ_lt_succ hi, ?_⟩
        rwa [Nat.pow_succ, Nat.mul_comm (60 ^ i), ← Nat.mul_assoc]
      · rintro ⟨i, hi, hinf⟩
        cases i with
        | zero => exact absurd (by simpa using hinf) hw
        | succ i =>
          refine ⟨i, Nat.lt_of_succ_lt_succ hi, ?_⟩
          rwa [Nat.pow_succ, Nat.mul_comm (60 ^ i), ← Nat.mul_assoc] at hinf

/-- What fails in the words of its kind is not raw. -/
theorem not_raw_mapError {ε α : Type} {r : Except ε α} {f : ε → ContentError} (hf : ∀ e, ¬ (f e).Raw) {e : ContentError}
    (h : r.mapError f = .error e) : ¬ e.Raw := by
  cases r with
  | ok a => cases h
  | error e' =>
    cases h
    exact hf e'

theorem whole_raw_iff {cs : List Char} {e : ContentError} :
    whole cs = .error e ∧ e.Raw ↔ e = .emptyNumber ∧ (splitSign (withoutJoiners cs)).2 = [] := by
  unfold whole
  cases hsize : (splitSign (withoutJoiners cs)).2 with
  | nil =>
    show (((nonempty (splitSign (withoutJoiners cs)).2) >>= _ : Except ContentError Value) = _ ∧ _) ↔ _
    rw [hsize]
    constructor
    · rintro ⟨h, -⟩
      cases h
      exact ⟨rfl, rfl⟩
    · rintro ⟨rfl, -⟩
      exact ⟨rfl, .emptyNumber⟩
  | cons c ds =>
    -- digits that cannot be read are a flaw of the numeral, not one that escapes
    refine iff_of_false ?_ fun h => nomatch h.2
    rintro ⟨h, hraw⟩
    change ((nonempty (splitSign (withoutJoiners cs)).2) >>= _ : Except ContentError Value) = _ at h
    rw [hsize] at h
    change ((wholeSize (c :: ds)).mapError ContentError.numeral >>= _ : Except ContentError Value) = _ at h
    cases hwhole : (wholeSize (c :: ds)).mapError ContentError.numeral with
    | ok n =>
      rw [hwhole] at h
      cases h
    | error e' =>
      rw [hwhole] at h
      cases h
      exact not_raw_mapError (f := ContentError.numeral) (fun e he => nomatch he) hwhole hraw

theorem plainReal_not_raw {cs : List Char} {e : ContentError} (h : plainReal cs = .error e) : ¬ e.Raw := by
  unfold plainReal at h
  dsimp only at h
  split at h
  · cases h
  · cases h
    exact fun hraw => nomatch hraw

theorem mapM_plainReal_not_raw {ps : List (List Char)} {e : ContentError} (h : ps.mapM plainReal = .error e) :
    ¬ e.Raw := by
  induction ps with
  | nil => cases h
  | cons p ps ih =>
    rw [List.mapM_cons] at h
    cases hp : plainReal p with
    | error e' =>
      rw [hp] at h
      cases h
      exact plainReal_not_raw hp
    | ok x =>
      rw [hp] at h
      cases hps : ps.mapM plainReal with
      | error e' =>
        rw [hps] at h
        cases h
        exact ih hps
      | ok xs =>
        rw [hps] at h
        cases h

/-- A size fails unforeseen only where its parts in sixtieths are numbers, but too many of them. -/
theorem realSize_raw_iff {cs : List Char} {e : ContentError} :
    realSize cs = .error e ∧ e.Raw ↔
      e = .weightTooLarge ∧ ':' ∈ cs ∧ ∃ parts, (pieces ':' cs).mapM plainReal = .ok parts ∧
        ∃ i < parts.length, (nearestDouble (60 ^ i) 0).isInf = true := by
  unfold realSize
  split
  · next h =>
    subst h
    exact iff_of_false (fun h => nomatch h.1) fun h => absurd h.2.1 (by decide)
  · split
    · next h =>
      subst h
      exact iff_of_false (fun h => nomatch h.1) fun h => absurd h.2.1 (by decide)
    · split
      · next hcolon =>
        have hmem : ':' ∈ cs := by simpa using hcolon
        cases hparts : (pieces ':' cs).mapM plainReal with
        | error e' =>
          refine iff_of_false ?_ fun h => ?_
          · rintro ⟨h, hraw⟩
            cases h
            exact mapM_plainReal_not_raw hparts hraw
          · obtain ⟨-, -, parts, h, -⟩ := h
            cases h
        | ok parts =>
          show (sumSixtieths 0.0 1 parts.reverse = _ ∧ _) ↔ _
          rw [sumSixtieths_eq_error_iff]
          simp only [List.length_reverse, Nat.one_mul, hmem, true_and, Except.ok.injEq, exists_eq_left']
          constructor
          · exact fun h => h.1
          · rintro ⟨rfl, h⟩
            exact ⟨⟨rfl, h⟩, .weightTooLarge⟩
      · next hcolon =>
        refine iff_of_false (fun h => plainReal_not_raw h.1 h.2) fun h => hcolon ?_
        simpa using h.2.1

theorem real_raw_iff {cs : List Char} {e : ContentError} :
    real cs = .error e ∧ e.Raw ↔
      e = .emptyNumber ∧ withoutJoiners cs = [] ∨
        withoutJoiners cs ≠ [] ∧ realSize (realSizeText cs) = .error e ∧ e.Raw := by
  unfold real realSizeText
  by_cases hempty : withoutJoiners cs = []
  · rw [hempty]
    constructor
    · rintro ⟨h, -⟩
      cases h
      exact .inl ⟨rfl, rfl⟩
    · rintro (⟨rfl, -⟩ | ⟨h, -⟩)
      · exact ⟨rfl, .emptyNumber⟩
      · exact absurd rfl h
  · rw [nonempty_of_ne hempty]
    change ((realSize (splitSign (lowered (withoutJoiners cs))).2 >>= _ : Except ContentError Value) = _ ∧ _) ↔ _
    cases realSize (splitSign (lowered (withoutJoiners cs))).2 with
    | ok x => exact iff_of_false (fun h => nomatch h.1) (by simp [hempty])
    | error e' =>
      constructor
      · rintro ⟨h, hraw⟩
        cases h
        exact .inr ⟨hempty, rfl, hraw⟩
      · rintro (⟨-, h⟩ | ⟨-, h, hraw⟩)
        · exact absurd h hempty
        · cases h
          exact ⟨rfl, hraw⟩

theorem binary_not_raw {cs : List Char} {e : ContentError} (h : binary cs = .error e) : ¬ e.Raw := by
  unfold binary at h
  split at h
  · split at h
    · cases h
    · cases h
      exact fun hraw => nomatch hraw
  · cases h
    exact fun hraw => nomatch hraw

theorem date_raw_iff {cs : List Char} {e : ContentError} :
    date cs = .error e ∧ e.Raw ↔ e = .notADate ∧ Date.read? (Kind.withoutLineFeed cs) = none := by
  unfold date
  cases Date.read? (Kind.withoutLineFeed cs) with
  | none =>
    constructor
    · rintro ⟨h, -⟩
      cases h
      exact ⟨rfl, rfl⟩
    · rintro ⟨rfl, -⟩
      exact ⟨rfl, .notADate⟩
  | some d =>
    refine iff_of_false ?_ fun h => nomatch h.2
    dsimp only
    cases d.fault? with
    | none => exact fun h => nomatch h.1
    | some f =>
      rintro ⟨h, hraw⟩
      cases h
      cases hraw

/-- **A scalar fails unforeseen exactly if it is one of those listed.** -/
theorem value_unforeseen_iff {k : Kind} {cs : List Char} {e : ContentError} :
    value k cs = .error e ∧ e.Raw ↔ Unforeseen k cs e := by
  constructor
  · rintro ⟨h, hraw⟩
    cases k with
    | truth =>
      obtain ⟨rfl, hwords⟩ := truth_eq_error_iff.mp h
      exact .truth hwords
    | integer =>
      obtain ⟨rfl, hempty⟩ := whole_raw_iff.mp ⟨h, hraw⟩
      exact .integer hempty
    | real =>
      rcases real_raw_iff.mp ⟨h, hraw⟩ with ⟨rfl, hempty⟩ | ⟨hsome, hsize⟩
      · exact .real hempty
      · obtain ⟨rfl, hcolon, parts, hparts, hweight⟩ := realSize_raw_iff.mp hsize
        exact .weight hsome hcolon hparts hweight
    | binary => exact absurd hraw (binary_not_raw h)
    | date =>
      obtain ⟨rfl, hnone⟩ := date_raw_iff.mp ⟨h, hraw⟩
      exact .date hnone
    | null | text => cases h
    | sequence | mapping | pairs | set | merge | default | unknown =>
      cases h
      cases hraw
  · intro h
    cases h with
    | truth h => exact ⟨truth_eq_error_iff.mpr ⟨rfl, h⟩, .unknownTruth _⟩
    | date h => exact date_raw_iff.mpr ⟨rfl, h⟩
    | integer h => exact whole_raw_iff.mpr ⟨rfl, h⟩
    | real h => exact real_raw_iff.mpr (.inl ⟨rfl, h⟩)
    | weight hsome hcolon hparts hweight =>
      exact real_raw_iff.mpr (.inr ⟨hsome, realSize_raw_iff.mpr ⟨rfl, hcolon, _, hparts, hweight⟩⟩)

/-! ### Looks -/

section Looks

variable {cs : List Char}

/-- What a text of a kind looks like, for the kinds with unforeseen scalars. -/
def LooksLike (cs : List Char) : Kind → Prop
  | .truth => ∃ w ∈ Kind.truthWords, cs = w.toList
  | .real => Kind.isReal cs = true
  | .integer => Kind.isWhole (splitSign cs).2 = true
  | .date => (Date.read? cs).isSome = true
  | _ => True

theorem looksLike_ofPlain (cs : List Char) : LooksLike cs (Kind.ofPlain cs) := by
  unfold Kind.ofPlain
  dsimp only
  split
  · next hwords =>
    obtain ⟨w, hw, heq⟩ := List.any_eq_true.mp hwords
    exact ⟨w, hw, eq_of_beq heq⟩
  split
  · trivial
  split
  · trivial
  split
  · trivial
  split
  · assumption
  split
  · assumption
  split
  · next hdate =>
    show (Date.read? cs).isSome = true
    cases hread : Date.read? cs with
    | none =>
      rw [hread] at hdate
      cases hdate
    | some d => rfl
  · trivial

theorem mem_of_mem_splitSign {c : Char} (h : c ∈ (splitSign cs).2) : c ∈ cs := by
  unfold splitSign at h
  split at h
  · exact List.mem_cons_of_mem _ h
  · exact List.mem_cons_of_mem _ h
  · exact h

theorem mem_splitSign {c : Char} (h : c ∈ cs) (hminus : c ≠ '-') (hplus : c ≠ '+') : c ∈ (splitSign cs).2 := by
  unfold splitSign
  split
  · exact (List.mem_cons.mp h).resolve_left hminus
  · exact (List.mem_cons.mp h).resolve_left hplus
  · exact h

theorem mem_withoutJoiners {c : Char} (h : c ∈ cs) (hc : c ≠ '_') : c ∈ withoutJoiners cs :=
  List.mem_filter.mpr ⟨h, decide_eq_true hc⟩

theorem head_of_pieces {sep c d : Char} {ds : List Char} {ps : List (List Char)}
    (h : pieces sep (c :: cs) = (d :: ds) :: ps) : d = c := by
  change (if c = sep then [] :: pieces sep cs else consPiece c (pieces sep cs)) = _ at h
  split at h
  · cases h
  · cases hp : pieces sep cs with
    | nil =>
      rw [hp] at h
      cases h
      rfl
    | cons p ps' =>
      rw [hp] at h
      cases h
      rfl

/-- A whole number has a digit. -/
theorem exists_decimal_of_isWhole (h : Kind.isWhole cs = true) : ∃ c ∈ cs, isDecimal c = true := by
  unfold Kind.isWhole at h
  split at h
  · exact ⟨'0', by simp, by decide⟩
  · exact ⟨'0', by simp, by decide⟩
  · exact ⟨'0', by simp, by decide⟩
  · exact ⟨'0', by simp, by decide⟩
  · next c ds _ _ _ _ =>
    refine ⟨c, List.mem_cons_self .., ?_⟩
    rcases Bool.or_eq_true_iff.mp h with h | h
    · exact (Bool.and_eq_true_iff.mp h).1
    · unfold Kind.isSexagesimal at h
      split at h
      · next d ds' p ps hp =>
        rw [head_of_pieces hp] at h
        exact (Bool.and_eq_true_iff.mp (Bool.and_eq_true_iff.mp h).1).1
      · cases h
  · cases h

/-- A real number has a point. -/
theorem point_mem_of_isReal (h : Kind.isReal cs = true) : '.' ∈ cs := by
  unfold Kind.isReal at h
  simp only [Bool.or_eq_true] at h
  have hinf : ∀ w ∈ [".inf", ".Inf", ".INF"], '.' ∈ w.toList := by decide
  have hnan : ∀ w ∈ [".nan", ".NaN", ".NAN"], '.' ∈ w.toList := by decide
  rcases h with ((h | h) | h) | h
  · unfold Kind.isPointed at h
    dsimp only at h
    split at h
    · next rest hrest =>
      have hmem : '.' ∈ (splitSign cs).2.dropWhile (· != '.') := by rw [hrest]; exact List.mem_cons_self ..
      exact mem_of_mem_splitSign (List.dropWhile_sublist _ |>.subset hmem)
    · cases h
  · obtain ⟨w, hw, heq⟩ := List.any_eq_true.mp h
    refine mem_of_mem_splitSign ?_
    rw [eq_of_beq heq]
    exact hinf w hw
  · obtain ⟨w, hw, heq⟩ := List.any_eq_true.mp h
    rw [eq_of_beq heq]
    exact hnan w hw
  · split at h
    · exact List.mem_cons_self ..
    · cases h

theorem lowered_truthWords : ∀ w ∈ Kind.truthWords, ∃ v ∈ words, lowered w.toList = v.toList := by
  decide +kernel

/-- **Looks do not mislead.** A scalar that has its kind from its looks is foreseen, unless it ends with a line feed,
which does not change the looks, or has too many parts in sixtieths. -/
theorem looks_of_unforeseen {e : ContentError} (h : Unforeseen (Kind.implicit true cs) cs e) :
    cs.getLast? = some '\n' ∨ e = .weightTooLarge := by
  by_cases hlast : cs.getLast? = some '\n'
  · exact .inl hlast
  · have hsame : Kind.withoutLineFeed cs = cs := by
      unfold Kind.withoutLineFeed
      rw [if_neg (by simp [hlast])]
    have hlooks : LooksLike cs (Kind.implicit true cs) := by
      unfold Kind.implicit
      rw [if_pos rfl, hsame]
      exact looksLike_ofPlain cs
    generalize Kind.implicit true cs = k at h hlooks
    refine .inr ?_
    cases h with
    | truth h =>
      obtain ⟨w, hw, rfl⟩ := hlooks
      obtain ⟨v, hv, heq⟩ := lowered_truthWords w hw
      exact absurd heq (h v hv)
    | date h =>
      rw [hsame] at h
      have hsome : (Date.read? cs).isSome = true := hlooks
      rw [h] at hsome
      cases hsome
    | integer h =>
      obtain ⟨c, hmem, hc⟩ := exists_decimal_of_isWhole hlooks
      have hne : ∀ d : Char, isDecimal d = false → c ≠ d := fun d hd heq => by rw [heq, hd] at hc; cases hc
      have hjoined := mem_withoutJoiners (mem_of_mem_splitSign hmem) (hne '_' (by decide))
      have hsize := mem_splitSign hjoined (hne '-' (by decide)) (hne '+' (by decide))
      rw [h] at hsize
      cases hsize
    | real h =>
      have hpoint := mem_withoutJoiners (point_mem_of_isReal hlooks) (by decide : '.' ≠ '_')
      rw [h] at hpoint
      cases hpoint
    | weight => rfl

end Looks

end Scalar

end SqlRegexp.Yaml
