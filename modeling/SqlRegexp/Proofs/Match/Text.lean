import Mathlib.Data.Nat.Find
import SqlRegexp.Proofs.Match.Laws
import SqlRegexp.Proofs.Walk
import SqlRegexp.Proofs.Pattern.Literal

/-!
Searching for a text.

`OccursAt cs w i` says where a text lies in another, and `LeftmostFrom cs w c is` that `is` are its occurrences from
`c` on, taken from the left and without overlaps. A run of `Node.text cs` passes the text or fails where it began
(`run_text`); hence a search finds the first occurrence (`search_ofText`), and **a walk meets the leftmost
occurrences**, one after the other (`nth?_ofText`).
-/

namespace SqlRegexp.Match

open SqlRegexp.Pattern SqlRegexp.Unicode

/-! ### Occurrences -/

/-- A text occurs in another at a place, counted from 0. -/
def OccursAt (cs w : List Char) (i : Nat) : Prop := ∃ before after, w = before ++ (cs ++ after) ∧ before.length = i

/-- The occurrences of a text from a place on, each the first one that begins where the one before has ended, or behind
it if that one is empty. -/
inductive LeftmostFrom (cs w : List Char) : Nat → List Nat → Prop
  | done {c} (hnone : ∀ i, c ≤ i → ¬ OccursAt cs w i) : LeftmostFrom cs w c []
  | next {c i is} (hle : c ≤ i) (hoccurs : OccursAt cs w i) (hfirst : ∀ j, c ≤ j → j < i → ¬ OccursAt cs w j)
      (hrest : LeftmostFrom cs w (i + max 1 cs.length) is) : LeftmostFrom cs w c (i :: is)

section Occurrences

variable {cs w : List Char} {i : Nat}

theorem occursAt_iff : OccursAt cs w i ↔ i ≤ w.length ∧ cs <+: w.drop i := by
  constructor
  · rintro ⟨before, after, rfl, rfl⟩
    rw [List.drop_left]
    exact ⟨by simp, List.prefix_append ..⟩
  · rintro ⟨hle, after, hafter⟩
    exact ⟨w.take i, after, by rw [hafter, List.take_append_drop], List.length_take_of_le hle⟩

instance : Decidable (OccursAt cs w i) := decidable_of_iff _ occursAt_iff.symm

theorem infix_iff_occursAt : cs <:+: w ↔ ∃ i, OccursAt cs w i := by
  constructor
  · rintro ⟨before, after, rfl⟩
    exact ⟨before.length, before, after, List.append_assoc .., rfl⟩
  · rintro ⟨_, before, after, rfl, -⟩
    exact ⟨before, after, List.append_assoc ..⟩

theorem OccursAt.le (h : OccursAt cs w i) : i ≤ w.length := (occursAt_iff.mp h).1

/-- The empty text occurs at every place. -/
theorem occursAt_nil : OccursAt [] w i ↔ i ≤ w.length := by simp [occursAt_iff]

/-- From every place on there are leftmost occurrences. -/
theorem exists_leftmostFrom (cs w : List Char) (c : Nat) : ∃ is, LeftmostFrom cs w c is := by
  -- by induction on what is left of the text
  induction hn : w.length + 1 - c using Nat.strongRecOn generalizing c with
  | ind n ih =>
    by_cases h : ∃ i, c ≤ i ∧ OccursAt cs w i
    · obtain ⟨hle, hoccurs⟩ := Nat.find_spec h
      have hend := hoccurs.le
      obtain ⟨is, his⟩ := ih (w.length + 1 - (Nat.find h + max 1 cs.length)) (by omega) _ rfl
      exact ⟨Nat.find h :: is, .next hle hoccurs (fun j hj hlt hocc => Nat.find_min h hlt ⟨hj, hocc⟩) his⟩
    · exact ⟨[], .done fun i hi hocc => h ⟨i, hi, hocc⟩⟩

/-- The leftmost occurrences are determined. -/
theorem LeftmostFrom.unique {c : Nat} {is js : List Nat} (h : LeftmostFrom cs w c is) (h' : LeftmostFrom cs w c js) :
    js = is := by
  induction h generalizing js with
  | done hnone =>
    cases h' with
    | done => rfl
    | next hle hoccurs _ _ => exact absurd hoccurs (hnone _ hle)
  | @next c i is hle hoccurs hfirst hrest ih =>
    cases h' with
    | done hnone => exact absurd hoccurs (hnone _ hle)
    | @next _ j js hle' hoccurs' hfirst' hrest' =>
      have hij : i = j := by
        rcases Nat.lt_trichotomy i j with hlt | heq | hlt
        · exact absurd hoccurs (hfirst' i hle hlt)
        · exact heq
        · exact absurd hoccurs' (hfirst j hle' hlt)
      subst hij
      rw [ih hrest']

/-- The empty text occurs once at every place. -/
theorem leftmostFrom_nil (w : List Char) (count c : Nat) (hcount : c + count = w.length + 1) :
    LeftmostFrom [] w c (List.range' c count) := by
  induction count generalizing c with
  | zero => exact .done fun i hi hocc => absurd hocc.le (by omega)
  | succ count ih =>
    rw [List.range'_succ]
    refine .next (Nat.le_refl c) (occursAt_nil.mpr (by omega)) (fun j hj hlt => absurd hlt (by omega)) ?_
    exact ih (c + 1) (by omega)

end Occurrences

/-! ### Running a text -/

theorem run_ofList_cons (cx : Setting) (calls : Calls) (n : Node Nat) (ns : List (Node Nat)) (s : State) (rest : Rest) :
    run cx calls (.ofList (n :: ns)) .forward s rest =
      run cx calls n .forward s fun t => run cx calls (.ofList ns) .forward t rest := by
  cases ns with
  | nil => rfl
  | cons m ms => rfl

theorem Setting.code?_eq (cx : Setting) (pos : Nat) :
    cx.code? pos = ((cx.text.toList.drop pos).head?).map Char.toNat := by
  rw [Setting.code?, List.head?_drop, Array.getElem?_toList]

theorem run_one_forward (cx : Setting) (calls : Calls) (t : CharTest) (s : State) (rest : Rest) :
    run cx calls (.one t) .forward s rest =
      match cx.code? s.pos with
      | some n => if t.holds cx.repertoire n then rest { s with pos := s.pos + 1 } else .failed s.trail
      | none => .failed s.trail :=
  rfl

/-- A run of one character. -/
theorem run_letter (cx : Setting) (calls : Calls) (c : Char) (s : State) (rest : Rest) :
    run cx calls (.letter c) .forward s rest =
      if (cx.text.toList.drop s.pos).head? = some c then rest { s with pos := s.pos + 1 } else .failed s.trail := by
  rw [Node.letter, run_one_forward, Setting.code?_eq]
  cases (cx.text.toList.drop s.pos).head? with
  | none => rfl
  | some d =>
    have hholds : (CharTest.char c.toNat true .exact).holds cx.repertoire d.toNat = true ↔ some d = some c := by
      show ((c.toNat == d.toNat) == true) = true ↔ _
      rw [beq_true, beq_iff_eq, Char.toNat_inj, Option.some_inj, eq_comm]
    by_cases h : some d = some c
    · rw [if_pos h]
      exact if_pos (hholds.mpr h)
    · rw [if_neg h]
      exact if_neg (mt hholds.mp h)

/-- **A run of a text** goes on behind it, or fails with nothing left behind. -/
theorem run_text (cx : Setting) (calls : Calls) (cs : List Char) (s : State) (rest : Rest) :
    run cx calls (.text cs) .forward s rest =
      if cs <+: cx.text.toList.drop s.pos then rest { s with pos := s.pos + cs.length } else .failed s.trail := by
  induction cs generalizing s with
  | nil => exact (if_pos (List.nil_prefix)).symm
  | cons c cs ih =>
    have hcons : (c :: cs <+: cx.text.toList.drop s.pos) ↔
        (cx.text.toList.drop s.pos).head? = some c ∧ cs <+: cx.text.toList.drop (s.pos + 1) := by
      rw [← List.tail_drop]
      cases cx.text.toList.drop s.pos with
      | nil => simp
      | cons d ds => simp [List.cons_prefix_cons, eq_comm]
    show run cx calls (.ofList (.letter c :: cs.map .letter)) .forward s rest = _
    rw [run_ofList_cons, run_letter]
    by_cases hhead : (cx.text.toList.drop s.pos).head? = some c
    · rw [if_pos hhead]
      refine (ih { s with pos := s.pos + 1 }).trans ?_
      have hlength : s.pos + 1 + cs.length = s.pos + (c :: cs).length := by
        rw [List.length_cons]
        omega
      simp only [hcons, hhead, true_and, hlength]
    · rw [if_neg hhead, if_neg fun h => hhead (hcons.mp h).1]

/-! ### The program of a text -/

/-- The program that matches a text and nothing else. -/
def Program.ofText (cs : List Char) (longest : Bool) (r : Repertoire) : Program := ⟨.text cs, 0, longest, r⟩

namespace Program

variable {cs : List Char} {longest : Bool} {r : Repertoire}

theorem movesStart_ofText : (ofText cs longest r).node.movesStart = false := by
  show (Node.text cs).movesStart = false
  exact Node.text_induction (P := fun n => n.movesStart = false) rfl (fun _ => rfl) (fun _ _ h => h) cs

theorem asksSearchStart_ofText : (ofText cs longest r).node.asksSearchStart = false := by
  show (Node.text cs).asksSearchStart = false
  exact Node.text_induction (P := fun n => n.asksSearchStart = false) rfl (fun _ => rfl) (fun _ _ h => h) cs

/-- A text begins with a character or with nothing, so that a search tries every place. -/
theorem mayStart_ofText (cx : Setting) (pos : Nat) : (ofText cs longest r).mayStart cx pos = true := by
  match cs with
  | [] | [_] | _ :: _ :: _ => cases r <;> rfl

/-- The state behind a text that begins at a place. -/
def behindText (cs : List Char) (pos : Nat) : State := { State.initial pos 0 with pos := pos + cs.length }

theorem runFrom_ofText (cx : Setting) (pos : Nat) (rest : Rest) :
    (ofText cs longest r).runFrom cx pos rest =
      if cs <+: cx.text.toList.drop pos then rest (behindText cs pos) else .failed { start := pos } :=
  run_text cx _ cs (.initial pos 0) rest

/-- All ends of a match from a place are one. -/
theorem matchFrom_ofText (cx : Setting) (pos : Nat) :
    (ofText cs longest r).matchFrom cx pos =
      if cs <+: cx.text.toList.drop pos then .matched (behindText cs pos) else .failed { start := pos } := by
  unfold matchFrom
  rw [runFrom_ofText]
  by_cases h : cs <+: cx.text.toList.drop pos
  · rw [if_pos h]
    have hlongest : (ofText cs longest r).longestEnd cx pos (behindText cs pos) = behindText cs pos := by
      have himprove : (ofText cs longest r).improve cx pos (fun _ => true) State.pos (cx.text.size + 1)
          (behindText cs pos) = behindText cs pos := by
        rw [improve, runFrom_ofText, if_pos h]
        simp [State.fail]
      unfold longestEnd
      dsimp only
      rw [himprove]
      rfl
    dsimp only
    rw [hlongest, ite_self]
  · rw [if_neg h]

/-- A search meets the first occurrence from a place on. -/
theorem firstFrom_ofText {cx : Setting} {tries pos i : Nat} (hle : pos ≤ i) (htries : i < pos + tries)
    (hoccurs : OccursAt cs cx.text.toList i) (hfirst : ∀ j, pos ≤ j → j < i → ¬ OccursAt cs cx.text.toList j) :
    (ofText cs longest r).firstFrom cx tries pos = some (behindText cs i) := by
  induction tries generalizing pos with
  | zero => omega
  | succ tries ih =>
    obtain ⟨hsize, hprefix⟩ := occursAt_iff.mp hoccurs
    rw [Array.length_toList] at hsize
    rw [firstFrom, mayStart_ofText, matchFrom_ofText, if_neg (by omega)]
    rcases Nat.eq_or_lt_of_le hle with rfl | hlt
    · rw [if_pos hprefix]
      rfl
    · have hnot : ¬ cs <+: cx.text.toList.drop pos := fun h =>
        hfirst pos (Nat.le_refl pos) hlt (occursAt_iff.mpr ⟨by rw [Array.length_toList]; omega, h⟩)
      rw [if_neg hnot]
      show (ofText cs longest r).firstFrom cx tries (pos + 1) = _
      exact ih hlt (by omega) fun j hj => hfirst j (by omega)

theorem firstFrom_ofText_eq_none {cx : Setting} {tries pos : Nat}
    (hnone : ∀ j, pos ≤ j → ¬ OccursAt cs cx.text.toList j) :
    (ofText cs longest r).firstFrom cx tries pos = none := by
  induction tries generalizing pos with
  | zero => rfl
  | succ tries ih =>
    rw [firstFrom, mayStart_ofText, matchFrom_ofText]
    split
    · rfl
    · next hsize =>
      have hnot : ¬ cs <+: cx.text.toList.drop pos := fun h =>
        hnone pos (Nat.le_refl pos) (occursAt_iff.mpr ⟨by rw [Array.length_toList]; omega, h⟩)
      rw [if_neg hnot]
      show (ofText cs longest r).firstFrom cx tries (pos + 1) = _
      exact ih fun j hj => hnone j (by omega)

def foundText (cs : List Char) (i : Nat) : Found := ⟨i, i + cs.length, []⟩

/-- **A search for a text** finds its first occurrence. -/
theorem search_ofText {text : Array Char} {c i : Nat} (hle : c ≤ i) (hoccurs : OccursAt cs text.toList i)
    (hfirst : ∀ j, c ≤ j → j < i → ¬ OccursAt cs text.toList j) :
    (ofText cs longest r).search text c = some (foundText cs i) := by
  have hsize := hoccurs.le
  rw [Array.length_toList] at hsize
  have hstate : (ofText cs longest r).firstFrom ((ofText cs longest r).setting text c) (text.size + 1 - c) c =
      some (behindText cs i) := firstFrom_ofText hle (by omega) hoccurs hfirst
  rw [search_of_le (hle.trans hsize), hstate]
  rfl

theorem search_ofText_eq_none {text : Array Char} {c : Nat} (hc : c ≤ text.size)
    (hnone : ∀ j, c ≤ j → ¬ OccursAt cs text.toList j) : (ofText cs longest r).search text c = none := by
  have hstate : (ofText cs longest r).firstFrom ((ofText cs longest r).setting text c) (text.size + 1 - c) c = none :=
    firstFrom_ofText_eq_none hnone
  rw [search_of_le hc, hstate]
  rfl

theorem isSome_search_ofText (text : Array Char) :
    ((ofText cs longest r).search text 0).isSome = true ↔ cs <:+: text.toList := by
  obtain ⟨is, his⟩ := exists_leftmostFrom cs text.toList 0
  rw [infix_iff_occursAt]
  cases his with
  | done hnone =>
    rw [search_ofText_eq_none (Nat.zero_le _) hnone]
    exact ⟨fun h => (nomatch h), fun ⟨i, hi⟩ => absurd hi (hnone i (Nat.zero_le i))⟩
  | next hle hoccurs hfirst _ =>
    rw [search_ofText hle hoccurs hfirst]
    exact ⟨fun _ => ⟨_, hoccurs⟩, fun _ => rfl⟩

/-- **A walk meets the leftmost occurrences**, in their order. -/
theorem nth?_ofText {text : Array Char} {c : Nat} {is : List Nat} (h : LeftmostFrom cs text.toList c is) (k : Nat) :
    ((ofText cs longest r).walk text).nth? k c = is[k]?.map (foundText cs) := by
  have hmet (c : Nat) : ((ofText cs longest r).walk text).met? c =
      if c ≤ text.size then (ofText cs longest r).search text c else none := rfl
  induction h generalizing k with
  | @done c hnone =>
    have hnot : ((ofText cs longest r).walk text).met? c = none := by
      rw [hmet]
      split
      · next hc => exact search_ofText_eq_none hc hnone
      · rfl
    cases k <;> simp [Walk.nth?, hnot]
  | @next c i is hle hoccurs hfirst _ ih =>
    have hsize := hoccurs.le
    rw [Array.length_toList] at hsize
    have hfound : ((ofText cs longest r).walk text).met? c = some (foundText cs i) := by
      rw [hmet, if_pos (by omega), search_ofText hle hoccurs hfirst]
    have hnext : (foundText cs i).next = i + max 1 cs.length := by
      show (if i < i + cs.length then i + cs.length else i + cs.length + 1) = _
      by_cases hpos : 0 < cs.length
      · rw [if_pos (by omega), Nat.max_eq_right hpos]
      · rw [if_neg (by omega), Nat.max_eq_left (by omega)]
        omega
    cases k with
    | zero => exact hfound
    | succ k =>
      rw [Walk.nth?, hfound, Option.bind_some, hnext, ih k]
      rfl

end Program

end SqlRegexp.Match
