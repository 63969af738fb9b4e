import SqlRegexp.Proofs.Pattern.Abreast.Compile
import SqlRegexp.Proofs.Pattern.Pinned.Whole

/-!
Parsing a pattern and its pinned text.

A pattern is compiled by parsing it and arranging what that gives (`compile_eq_parse`). **The pinned text of a pattern
parses to the pinned pattern** (`parse_pinEnds`), if the scan for end anchors finds the classes and comments of the
pattern where its reader does.
-/

namespace SqlRegexp.Pattern

open PatternText SqlRegexp.Match SqlRegexp.Unicode
open Node (PinsTo)

/-- A pattern that has been read and resolved, but not arranged. -/
structure Parsed where
  node : Node Nat
  groupCount : Nat
  posix : Bool
  repertoire : Repertoire

namespace Parsed

/-- The program that a parsed pattern is arranged as. -/
def program (p : Parsed) : Program :=
  ⟨(p.node.arranged p.repertoire).withRuns p.repertoire, p.groupCount, p.posix, p.repertoire⟩

/-- A parsed pattern, with the end of the text for every end of a line. -/
def pinned (p : Parsed) : Parsed := { p with node := p.node.pinned }

end Parsed

/-- What has been read of a pattern, once its references are resolved. -/
def Source.parsed (s : Source) (node : Node Nat) : Parsed :=
  ⟨node, s.groupCount, s.options.posix, s.options.repertoire?.getD .worldwide⟩

def parse (pattern : List Char) (o : Options) : Except CompileError Parsed :=
  readPattern pattern o 4 {} >>= fun r =>
    if r.2.options.ascii && r.2.options.unicode then .error .conflictingRepertoires
    else ((r.1.resolve r.2.resolveReference r.2.resolveChoice r.2.resolveCall).mapError fun e =>
      .malformed ⟨pattern, e.1, e.2⟩).map r.2.parsed

/-- **Compiling is parsing and arranging.** -/
theorem compile_eq_parse (pattern : List Char) (o : Options) :
    compile pattern o = (parse pattern o).map Parsed.program := by
  rw [compile_eq, parse]
  cases readPattern pattern o 4 {} with
  | error e => rfl
  | ok r =>
    show ite _ _ _ = Except.map _ (ite _ _ _)
    split
    · rfl
    · cases r.1.resolve r.2.resolveReference r.2.resolveChoice r.2.resolveCall <;> rfl

/-! ### Which group a reference finds -/

namespace Source

variable (s : Source)

theorem findsByName_resolveReference : PinsTo.FindsByName s.resolveReference := by
  intro q q' hq n h
  unfold resolveReference at h ⊢
  rw [hq]
  cases hfind : s.find? q.group <;> rw [hfind] at h
  · cases h
  · dsimp only at h ⊢
    split at h
    · next hm => rw [if_pos hm, h]
    · cases h

theorem findsByName_resolveChoice : PinsTo.FindsByName s.resolveChoice := by
  intro q q' hq n h
  unfold resolveChoice at h ⊢
  rw [hq]
  cases hfind : s.find? q.group <;> rw [hfind] at h <;> dsimp only at h ⊢ <;> split at h
  · next hm => rw [if_pos hm, h]
  · cases h
  · next hm => rw [if_pos hm, h]
  · cases h

theorem findsByName_resolveCall : PinsTo.FindsByName s.resolveCall := by
  intro q q' hq n h
  unfold resolveCall at h ⊢
  rw [hq]
  cases hfind : s.find? q.group <;> rw [hfind] at h <;> dsimp only at h ⊢
  · cases h
  · split at h
    · cases h
    · next hlt =>
      rw [if_neg hlt]
      split at h
      · cases h
      · next hm => rw [if_neg hm, h]

end Source

/-- **The pinned text of a pattern parses to the pinned pattern.** -/
theorem parse_pinEnds {x : Bool} {p : List Char} {o : Options} (h : Scanned x p) (hx : o.verbose = true → x = true)
    {P : Parsed} (hp : parse p o = .ok P) : parse (pinEnds p) o = .ok P.pinned := by
  unfold parse at hp ⊢
  cases hread : readPattern p o 4 {} with
  | error err =>
    rw [hread] at hp
    cases hp
  | ok r =>
    obtain ⟨n', hread', hn⟩ := readPattern_pinEnds h hx 4 rfl hread
    rw [hread] at hp
    rw [hread']
    change ite _ _ _ = _ at hp
    show ite (r.2.options.ascii && r.2.options.unicode) _ _ = _
    split at hp
    · cases hp
    · next hrepertoire =>
      rw [if_neg hrepertoire]
      cases hresolve : r.1.resolve r.2.resolveReference r.2.resolveChoice r.2.resolveCall with
      | error err =>
        rw [hresolve] at hp
        cases hp
      | ok node =>
        rw [hresolve] at hp
        cases hp
        have hpinned := hn.resolve r.2.findsByName_resolveReference r.2.findsByName_resolveChoice
          r.2.findsByName_resolveCall hresolve
        show ((n'.resolve r.2.resolveReference r.2.resolveChoice r.2.resolveCall).mapError _).map _ = _
        rw [hpinned]
        rfl

end SqlRegexp.Pattern
