import Mathlib.Data.List.Count
import SqlRegexp.Proofs.Match.Enclosing
import SqlRegexp.Proofs.Pattern.Abreast.Whole
import SqlRegexp.Proofs.Pattern.Arranging

/-!
Compiling a pattern and the text that encloses it.

What both come to when they are read is resolved alike (`EnclosedAlike.resolve`) and arranged alike, so **the text
compiles to the enclosed program of the pattern** (`compile_eq_enclosed`), and it compiles exactly if the pattern does
(`compile_alike`). The repertoire is the one in force at the end of a pattern: options at the top level of the pattern
may change it there, but not behind the parenthesis that encloses the pattern.
-/

namespace SqlRegexp.Pattern

open SqlRegexp.Match (Program raised raised_of_pos raised_eq_zero raised_injective raised_ne_one)
open SqlRegexp.Text SqlRegexp.Unicode
open Node (Counterpart)

/-! ### Resolving references -/

namespace EnclosedAlike

variable {o : Options} {r r' : Node Reference × Source}

theorem find? (h : EnclosedAlike o r r') (g : GroupName) : r'.2.find? g.raised = (r.2.find? g).map raised := by
  cases g with
  | number n => rfl
  | name cs =>
    show r'.2.number? cs = (r.2.number? cs).map raised
    unfold Source.number?
    rw [h.names]
    induction r.2.names with
    | nil => rfl
    | cons e es ih =>
      rw [List.map_cons, List.lookup_cons, List.lookup_cons, ih]
      cases cs == e.1 <;> rfl

theorem raised_le (h : EnclosedAlike o r r') (n : Nat) : raised n ≤ r'.2.groupCount ↔ n ≤ r.2.groupCount := by
  rw [h.groupCount]
  unfold raised
  split <;> omega

theorem resolveReference (h : EnclosedAlike o r r') :
    Counterpart.ResolveAlike r.2.resolveReference r'.2.resolveReference := by
  intro q q' hq
  unfold Source.resolveReference
  rw [hq, h.find?]
  cases r.2.find? q.group with
  | none => exact .error _ _
  | some n =>
    have hpos : 1 ≤ raised n ↔ 1 ≤ n := by unfold raised; split <;> omega
    dsimp only [Option.map_some]
    simp only [hpos, h.raised_le]
    split
    · exact .ok rfl
    · exact .error _ _

theorem resolveChoice (h : EnclosedAlike o r r') :
    Counterpart.ResolveAlike r.2.resolveChoice r'.2.resolveChoice := by
  intro q q' hq
  unfold Source.resolveChoice
  rw [hq, h.find?]
  cases r.2.find? q.group with
  | none =>
    dsimp only [Option.map_none]
    have hname (cs : List Char) : q.group.raised = .name cs ↔ q.group = .name cs := by
      cases q.group <;> simp [GroupName.raised]
    simp only [hname]
    split
    · exact .ok rfl
    · exact .error _ _
  | some n =>
    dsimp only [Option.map_some]
    simp only [h.raised_le]
    split
    · exact .ok rfl
    · exact .error _ _

theorem count_openings (h : EnclosedAlike o r r') (n : Nat) :
    r'.2.openings.count (raised n) = r.2.openings.count n := by
  have hone : (1 == raised n) = false := by simpa using (raised_ne_one n).symm
  rw [h.openings, List.count_append, List.count_map_of_injective _ _ raised_injective, List.count_cons, List.count_nil,
    hone]
  rfl

theorem resolveCall (h : EnclosedAlike o r r') : Counterpart.ResolveAlike r.2.resolveCall r'.2.resolveCall := by
  intro q q' hq
  unfold Source.resolveCall
  rw [hq, h.find?]
  cases r.2.find? q.group with
  | none => exact .error _ _
  | some n =>
    have hpos : 0 < raised n ↔ 0 < n := by unfold raised; split <;> omega
    have hlt : r'.2.groupCount < raised n ↔ r.2.groupCount < n := by
      rw [← Nat.not_le, ← Nat.not_le, h.raised_le]
    dsimp only [Option.map_some]
    simp only [hlt, hpos, h.count_openings]
    split
    · exact .error _ _
    · split
      · exact .error _ _
      · exact .ok rfl

/-- **References are resolved alike.** -/
theorem resolve (h : EnclosedAlike o r r') :
    Both (fun n n' => n' = .group 1 (n.renumbered raised))
      (r.1.resolve r.2.resolveReference r.2.resolveChoice r.2.resolveCall)
      (r'.1.resolve r'.2.resolveReference r'.2.resolveChoice r'.2.resolveCall) := by
  obtain ⟨m, hm, hcounterpart⟩ := h.node
  rw [hm]
  have hresolved := hcounterpart.resolve h.resolveReference h.resolveChoice h.resolveCall
  generalize r.1.resolve r.2.resolveReference r.2.resolveChoice r.2.resolveCall = out at hresolved
  show Both _ _ (m.resolve _ _ _ >>= fun b => _)
  generalize m.resolve r'.2.resolveReference r'.2.resolveChoice r'.2.resolveCall = out' at hresolved
  cases hresolved with
  | ok hn => exact .ok (congrArg (Node.group 1) hn)
  | error e e' => exact .error e e'

end EnclosedAlike

/-! ### Compiling -/

/-- The program of a pattern that has been read and resolved. -/
def Source.program (s : Source) (node : Node Nat) : Program :=
  let r := s.options.repertoire?.getD .worldwide
  ⟨(node.arranged r).withRuns r, s.groupCount, s.options.posix, r⟩

/-- A pattern compiles if it can be read, its options agree and its references can be resolved. -/
theorem compile_eq (pattern : List Char) (o : Options) :
    compile pattern o = readPattern pattern o 4 {} >>= fun r =>
      if r.2.options.ascii && r.2.options.unicode then .error .conflictingRepertoires
      else ((r.1.resolve r.2.resolveReference r.2.resolveChoice r.2.resolveCall).mapError fun e =>
        .malformed ⟨pattern, e.1, e.2⟩).map r.2.program := by
  unfold compile
  refine congrArg _ (funext fun r => ?_)
  dsimp only
  split
  · rfl
  · cases r.1.resolve r.2.resolveReference r.2.resolveChoice r.2.resolveCall <;> rfl

/-- At its end a pattern has the options for the repertoire that it is read under. -/
def KeepsRepertoire (pattern : List Char) (o : Options) : Prop :=
  ∀ r, readPattern pattern o 4 {} = .ok r → r.2.options.ascii = o.ascii ∧ r.2.options.unicode = o.unicode

instance (pattern : List Char) (o : Options) : Decidable (KeepsRepertoire pattern o) :=
  match h : readPattern pattern o 4 {} with
  | .ok r =>
    decidable_of_iff (r.2.options.ascii = o.ascii ∧ r.2.options.unicode = o.unicode)
      ⟨fun hr r' hr' => by rw [h] at hr'; cases hr'; exact hr, fun hall => hall r h⟩
  | .error e => isTrue fun r hr => by rw [h] at hr; cases hr

/-- With the same repertoire what has been read comes to a program and to the one that encloses it. -/
theorem EnclosedAlike.program {o : Options} {r r' : Node Reference × Source} (h : EnclosedAlike o r r') {n : Node Nat}
    (hrepertoire : (r'.2.program (.group 1 (n.renumbered raised))).repertoire = (r.2.program n).repertoire) :
    r'.2.program (.group 1 (n.renumbered raised)) = (r.2.program n).enclosed := by
  unfold Source.program at hrepertoire ⊢
  dsimp only at hrepertoire ⊢
  rw [hrepertoire, h.groupCount, h.posix, Node.withRuns_arranged_group, Node.arranged_renumbered raised_injective,
    Node.withRuns_renumbered]
  rfl

/-- Once read alike, both come to programs or neither does. -/
theorem EnclosedAlike.programs {ε ε' : Type} {o : Options} {r r' : Node Reference × Source} (h : EnclosedAlike o r r')
    (f : Cause × Nat → ε) (f' : Cause × Nat → ε') :
    Both (fun P W : Program => W.groupCount = P.groupCount + 1 ∧ (∃ body, W.node = .group 1 body) ∧
        (W.repertoire = P.repertoire → W = P.enclosed))
      (((r.1.resolve r.2.resolveReference r.2.resolveChoice r.2.resolveCall).mapError f).map r.2.program)
      (((r'.1.resolve r'.2.resolveReference r'.2.resolveChoice r'.2.resolveCall).mapError f').map r'.2.program) :=
  (h.resolve.mapError f f').map fun _ _ hn => hn ▸ ⟨h.groupCount, ⟨_, Node.withRuns_arranged_group ..⟩, h.program⟩

section Compile

variable {x : Bool} {p v : List Char} {o : Options}

variable (hx : o.verbose = true → x = true) (h : Raised x (some 0) [] p v) (hq : p.head? ≠ some '?')
  (hstar : p.head? ≠ some '*')

include hx h hq hstar

/-- **A text that encloses a pattern compiles to its enclosed program**, if the repertoire is the same. Its first group
is around the whole in any case. -/
theorem compile_eq_enclosed {P W : Program} (hp : compile p o = .ok P) (hw : compile ('(' :: v) o = .ok W) :
    W.groupCount = P.groupCount + 1 ∧ (∃ body, W.node = .group 1 body) ∧
      (W.repertoire = P.repertoire → W = P.enclosed) := by
  rw [compile_eq] at hp hw
  rcases readPattern_alike (g := {}) hx h hq hstar 4 ⟨rfl, rfl, rfl⟩ with ⟨n, hn⟩ | hread
  · rw [hn] at hp
    cases hp
  · generalize readPattern p o 4 {} = out at hp hread
    generalize readPattern ('(' :: v) o 4 {} = out' at hw hread
    cases hread with
    | error => cases hp
    | @ok r r' hr =>
      change ite _ _ _ = _ at hp hw
      split at hp
      · cases hp
      · split at hw
        · cases hw
        · have hboth := hr.programs (fun e => CompileError.malformed ⟨p, e.1, e.2⟩)
            fun e => CompileError.malformed ⟨'(' :: v, e.1, e.2⟩
          rw [hp, hw] at hboth
          obtain ⟨_, heq, hW⟩ := hboth.exists_ok
          exact Except.ok.inj heq ▸ hW

/-- **A text that encloses a pattern compiles exactly if the pattern does**, unless a group is counted backwards from
the start of the pattern, or the pattern changes its repertoire. -/
theorem compile_alike (hkeeps : KeepsRepertoire p o) :
    (∃ n, compile p o = .error (.malformed ⟨p, .invalidRelativeNumber, n⟩)) ∨
      Both (fun P W => W = P.enclosed) (compile p o) (compile ('(' :: v) o) := by
  rw [compile_eq, compile_eq]
  unfold KeepsRepertoire at hkeeps
  rcases readPattern_alike (g := {}) hx h hq hstar 4 ⟨rfl, rfl, rfl⟩ with ⟨n, hn⟩ | hread
  · rw [hn]
    exact .inl ⟨n, rfl⟩
  · refine .inr ?_
    generalize readPattern p o 4 {} = out at hread hkeeps
    generalize readPattern ('(' :: v) o 4 {} = out' at hread
    cases hread with
    | error => exact .error _ _
    | @ok r r' hr =>
      -- both readings end with the repertoire that they began with
      obtain ⟨hascii, hunicode⟩ := hkeeps r rfl
      have hrepertoire : r'.2.options.repertoire? = r.2.options.repertoire? := by
        unfold Options.repertoire?
        rw [hr.ascii, hr.unicode, hascii, hunicode]
      show Both _ (ite _ _ _) (ite _ _ _)
      rw [hr.ascii, hr.unicode, hascii, hunicode]
      split
      · exact .error _ _
      · refine (hr.resolve.mapError _ _).map fun n n' hn => hn ▸ hr.program ?_
        show r'.2.options.repertoire?.getD _ = r.2.options.repertoire?.getD _
        rw [hrepertoire]

end Compile

end SqlRegexp.Pattern
