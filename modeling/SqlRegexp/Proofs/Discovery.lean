import Mathlib.Data.List.FinRange
import SqlRegexp.Proofs.Files
import SqlRegexp.Settings.Discovery

/-!
Which settings file is found.

A candidate has a rank: how many steps lead upward to its directory, and which of the names it has. Candidates are
looked at in the order of their ranks (`candidates_eq`), and the search stops at the first one that is a regular file or
that the system refuses to look at (`find_cases`). So **the file that is found is the nearest one, if the place has an
absolute path and no candidate before the file is refused** (`find_is_nearest`). Directories do not stop the search, and
neither does what lies above the file. A place that has no absolute path, as one with a null character in its name, ends
the search before it begins (`exists_file_not_found`).
-/

namespace SqlRegexp.Settings

open SqlRegexp.Files

/-- The rank of a candidate for a place. -/
structure Rank (p : Path) where
  /-- How many steps lead upward from the place to the directory. -/
  steps : Fin (p.names.length + 1)
  /-- Which name is looked for there. -/
  index : Fin fileNames.length

namespace Rank

variable {p : Path} {a b : Rank p}

def path (r : Rank p) : Path := (Path.parent^[r.steps] p).child (fileNames.get r.index)

/-- Fewer steps come first, and of as many steps the name that comes first. -/
def Before (a b : Rank p) : Prop := a.steps < b.steps ∨ a.steps = b.steps ∧ a.index < b.index

/-- There is a regular file at the candidate. -/
def IsFile (files : Tree) (r : Rank p) : Prop := ∃ bs, files.lookup r.path = .ok (.file bs)

/-- The system refuses to look at the candidate, which does not mean that there is nothing. -/
def IsRefused (files : Tree) (r : Rank p) (e : Trouble) : Prop :=
  files.lookup r.path = .error e ∧ e.isPassed = false

/-- The candidate does not stop a search. -/
def IsPassed (files : Tree) (r : Rank p) : Prop := ¬ r.IsFile files ∧ ∀ e, ¬ r.IsRefused files e

theorem Before.asymm (h : a.Before b) : ¬ b.Before a := by
  unfold Before at *
  omega

theorem before_or_eq_or_before (a b : Rank p) : a.Before b ∨ a = b ∨ b.Before a := by
  obtain ⟨s, i⟩ := a
  obtain ⟨s', i'⟩ := b
  simp only [Before, mk.injEq]
  omega

/-- All ranks in their order. -/
def all (p : Path) : List (Rank p) :=
  (List.finRange (p.names.length + 1)).flatMap fun s => (List.finRange fileNames.length).map fun i => ⟨s, i⟩

theorem mem_all (r : Rank p) : r ∈ all p :=
  List.mem_flatMap.mpr ⟨r.steps, List.mem_finRange _, List.mem_map.mpr ⟨r.index, List.mem_finRange _, rfl⟩⟩

theorem pairwise_all (p : Path) : (all p).Pairwise Before := by
  refine List.pairwise_flatMap.mpr ⟨fun s _ => ?_, ?_⟩
  · exact List.pairwise_map.mpr ((List.pairwise_lt_finRange _).imp fun hlt => .inr ⟨rfl, hlt⟩)
  · refine (List.pairwise_lt_finRange _).imp fun {s s'} hlt r hr r' hr' => .inl ?_
    obtain ⟨i, -, rfl⟩ := List.mem_map.mp hr
    obtain ⟨i', -, rfl⟩ := List.mem_map.mp hr'
    exact hlt

/-- Candidates are looked at in the order of their ranks. -/
theorem candidates_eq (p : Path) : candidates p = (all p).map path := by
  have hnames (q : Path) : fileNames.map q.child =
      (List.finRange fileNames.length).map fun i => q.child (fileNames.get i) := by
    conv_lhs => rw [← List.map_get_finRange fileNames, List.map_map]
    rfl
  unfold candidates upward all
  rw [← List.map_coe_finRange_eq_range, List.map_flatMap, List.flatMap_map, List.flatMap_map]
  congr 1
  funext s
  rw [hnames, List.map_map]
  congr 1
  funext i
  show _ = (Path.parent^[s] p).child (fileNames.get i)
  rw [Path.parent_iterate]

/-- Candidates in different directories are different. -/
theorem names_ne (h : a.steps ≠ b.steps) : a.path.names ≠ b.path.names := by
  intro heq
  have hlength := congrArg List.length heq
  simp only [path, Path.parent_iterate, Path.child, List.length_append, List.length_take,
    List.length_singleton] at hlength
  omega

theorem hasNull_path (hp : p.hasNull = false) (r : Rank p) : r.path.hasNull = false := by
  have hname : ∀ name ∈ fileNames, name.contains '\x00' = false := by decide
  rw [path, Path.parent_iterate, Path.child, Path.hasNull, List.any_append, Bool.or_eq_false_iff]
  refine ⟨?_, ?_⟩
  · exact List.any_eq_false.mpr fun n hn => List.any_eq_false.mp hp n (List.mem_of_mem_take hn)
  · rw [List.any_cons, List.any_nil, Bool.or_false]
    exact hname _ (List.get_mem fileNames r.index)

theorem plain_path (hp : Path.Plain p.names) (r : Rank p) : Path.Plain r.path.names := by
  have hname : ∀ name ∈ fileNames, name ≠ Path.above ∧ Path.isName name = true := by decide
  rw [path, Path.parent_iterate, Path.child]
  intro n hn
  rcases List.mem_append.mp hn with hn | hn
  · exact hp n (List.mem_of_mem_take hn)
  · obtain rfl := List.mem_singleton.mp hn
    exact hname _ (List.get_mem fileNames r.index)

end Rank

/-! ### The search -/

section Search

variable {files : Tree} {start p : Path}

/-- A search ends at the first candidate that stops it. -/
theorem firstFile_cases {ι : Type} (files : Tree) (path : ι → Path) (rs : List ι) :
    (∃ before r after, rs = before ++ r :: after ∧ (∀ r' ∈ before, files.isFile (path r') = .ok false) ∧
      (files.isFile (path r) = .ok true ∧ firstFile files (rs.map path) = .ok (some (path r)) ∨
        ∃ e, files.isFile (path r) = .error e ∧ firstFile files (rs.map path) = .error (.system e (path r)))) ∨
      (∀ r ∈ rs, files.isFile (path r) = .ok false) ∧ firstFile files (rs.map path) = .ok none := by
  induction rs with
  | nil => exact .inr ⟨fun _ h => (nomatch h), rfl⟩
  | cons r rs ih =>
    rw [List.map_cons, firstFile]
    cases hr : files.isFile (path r) with
    | error e => exact .inl ⟨[], r, rs, rfl, fun _ h => (nomatch h), .inr ⟨e, hr, rfl⟩⟩
    | ok found =>
      cases found with
      | true => exact .inl ⟨[], r, rs, rfl, fun _ h => (nomatch h), .inl ⟨hr, rfl⟩⟩
      | false =>
        rcases ih with ⟨before, r', after, rfl, hbefore, hends⟩ | ⟨hnone, hends⟩
        · exact .inl ⟨r :: before, r', after, rfl, List.forall_mem_cons.mpr ⟨hr, hbefore⟩, hends⟩
        · exact .inr ⟨List.forall_mem_cons.mpr ⟨hr, hnone⟩, hends⟩

section Candidates

variable (hp : p.hasNull = false) {r : Rank p}
include hp

theorem Rank.isFile_iff : files.isFile r.path = .ok true ↔ r.IsFile files := by
  rw [Tree.isFile_eq_true_iff]
  exact and_iff_right (r.hasNull_path hp)

theorem Rank.isRefused_iff {e : Trouble} : files.isFile r.path = .error e ↔ r.IsRefused files e := by
  rw [Tree.isFile_eq_error_iff]
  exact and_iff_right (r.hasNull_path hp)

theorem Rank.isPassed_iff : files.isFile r.path = .ok false ↔ r.IsPassed files := by
  unfold IsPassed
  simp only [← isFile_iff hp, ← isRefused_iff hp]
  cases files.isFile r.path with
  | error e => simp
  | ok found => cases found <;> simp

end Candidates

theorem Rank.IsFile.not_isRefused {r : Rank p} (h : r.IsFile files) (e : Trouble) : ¬ r.IsRefused files e := by
  obtain ⟨bs, hbs⟩ := h
  rintro ⟨he, -⟩
  cases hbs.symm.trans he

theorem find_of_resolve (h : files.resolve start = .ok p) :
    find files start = firstFile files ((Rank.all p).map Rank.path) := by
  rw [find, h, ← Rank.candidates_eq]
  rfl

section Resolved

variable (h : files.resolve start = .ok p)
include h

/-- **The search stops at the first candidate** that is a file or refused, in the order of ranks. -/
theorem find_cases :
    (∃ r : Rank p, (∀ r' : Rank _, r'.Before r → r'.IsPassed files) ∧
      (r.IsFile files ∧ find files start = .ok (some r.path) ∨
        ∃ e, r.IsRefused files e ∧ find files start = .error (.system e r.path))) ∨
      (∀ r : Rank p, r.IsPassed files) ∧ find files start = .ok none := by
  have hp := Tree.hasNull_of_resolve h
  rw [find_of_resolve h]
  rcases firstFile_cases files Rank.path (Rank.all p) with ⟨before, r, after, hall, hbefore, hends⟩ | ⟨hnone, hends⟩
  · refine .inl ⟨r, fun r' hr' => ?_, ?_⟩
    · have hsorted := Rank.pairwise_all p
      have hmem := Rank.mem_all r'
      rw [hall] at hsorted hmem
      rcases List.mem_append.mp hmem with hmem | hmem
      · exact (Rank.isPassed_iff hp).mp (hbefore r' hmem)
      · -- what comes after the candidate is not before it
        have hafter := (List.pairwise_cons.mp (List.pairwise_append.mp hsorted).2.1).1
        rcases List.mem_cons.mp hmem with rfl | hmem
        · exact absurd hr' hr'.asymm
        · exact absurd hr' (hafter r' hmem).asymm
    · rcases hends with ⟨hr, hends⟩ | ⟨e, hr, hends⟩
      · exact .inl ⟨(Rank.isFile_iff hp).mp hr, hends⟩
      · exact .inr ⟨e, (Rank.isRefused_iff hp).mp hr, hends⟩
  · exact .inr ⟨fun r => (Rank.isPassed_iff hp).mp (hnone r (Rank.mem_all r)), hends⟩

/-- The first candidate that is not passed decides. -/
theorem find_of_first {r : Rank p} (hstops : ¬ r.IsPassed files)
    (hbefore : ∀ r' : Rank _, r'.Before r → r'.IsPassed files) :
    r.IsFile files ∧ find files start = .ok (some r.path) ∨
      ∃ e, r.IsRefused files e ∧ find files start = .error (.system e r.path) := by
  rcases find_cases h with ⟨r', hbefore', hends⟩ | ⟨hnone, -⟩
  · have hstops' : ¬ r'.IsPassed files := fun h => by
      rcases hends with ⟨hfile, -⟩ | ⟨e, hrefused, -⟩
      · exact h.1 hfile
      · exact h.2 e hrefused
    rcases Rank.before_or_eq_or_before r' r with hlt | rfl | hgt
    · exact absurd (hbefore r' hlt) hstops'
    · exact hends
    · exact absurd (hbefore' r hgt) hstops
  · exact absurd (hnone r) hstops

theorem find_eq_some_iff {q : Path} :
    find files start = .ok (some q) ↔
      ∃ r : Rank p, r.path = q ∧ r.IsFile files ∧ ∀ r' : Rank _, r'.Before r → r'.IsPassed files := by
  constructor
  · intro hfound
    rcases find_cases h with ⟨r, hbefore, ⟨hfile, hfind⟩ | ⟨e, -, hfind⟩⟩ | ⟨-, hfind⟩
    · rw [hfind] at hfound
      cases hfound
      exact ⟨r, rfl, hfile, hbefore⟩
    all_goals
      rw [hfind] at hfound
      cases hfound
  · rintro ⟨r, rfl, hfile, hbefore⟩
    rcases find_of_first h (fun h => h.1 hfile) hbefore with ⟨-, hfind⟩ | ⟨e, hrefused, -⟩
    · exact hfind
    · exact absurd hrefused (hfile.not_isRefused e)

theorem find_eq_error_iff {e : PathError} :
    find files start = .error e ↔
      ∃ (r : Rank p) (x : Trouble), e = .system x r.path ∧ r.IsRefused files x ∧
        ∀ r' : Rank _, r'.Before r → r'.IsPassed files := by
  constructor
  · intro hfound
    rcases find_cases h with ⟨r, hbefore, ⟨-, hfind⟩ | ⟨x, hrefused, hfind⟩⟩ | ⟨-, hfind⟩
    · rw [hfind] at hfound
      cases hfound
    · rw [hfind] at hfound
      cases hfound
      exact ⟨r, x, rfl, hrefused, hbefore⟩
    · rw [hfind] at hfound
      cases hfound
  · rintro ⟨r, x, rfl, hrefused, hbefore⟩
    rcases find_of_first h (fun h => h.2 x hrefused) hbefore with ⟨hfile, -⟩ | ⟨y, hy, hfind⟩
    · exact absurd hrefused (hfile.not_isRefused x)
    · cases hrefused.1.symm.trans hy.1
      exact hfind

theorem find_eq_none_iff : find files start = .ok none ↔ ∀ r : Rank p, r.IsPassed files := by
  constructor
  · intro hfound
    rcases find_cases h with ⟨r, -, ⟨-, hfind⟩ | ⟨e, -, hfind⟩⟩ | ⟨hnone, -⟩
    · rw [hfind] at hfound
      cases hfound
    · rw [hfind] at hfound
      cases hfound
    · exact hnone
  · intro hnone
    rcases find_cases h with ⟨r, -, ⟨hfile, -⟩ | ⟨e, hrefused, -⟩⟩ | ⟨-, hfind⟩
    · exact absurd hfile (hnone r).1
    · exact absurd hrefused ((hnone r).2 e)
    · exact hfind

/-- Where there are no links, candidates in different directories lead to different places. -/
theorem Rank.locate_ne (hlinks : files.LinkFree) {r r' : Rank p} (hsteps : r.steps ≠ r'.steps) {l : Location}
    (hl : files.locate r'.path = .ok l) : files.locate r.path ≠ .ok l := by
  obtain ⟨habsolute, hplain⟩ := Tree.plain_of_resolve h
  have hnames {r : Rank p} (hr : files.locate r.path = .ok l) : r.path.names = files.root.names ++ l := by
    refine hlinks.names_of_locate ?_ (r.plain_path hplain) hr
    rw [Rank.path, Path.parent_iterate]
    exact habsolute
  exact fun hr => Rank.names_ne hsteps (by rw [hnames hr, hnames hl])

/-- A new file above the one that is found is not found, unless a candidate that is as near leads to it. -/
theorem find_put {r r' : Rank p} {l : Location} {bs : List UInt8} (hfind : find files start = .ok (some r.path))
    (hsteps : r.steps < r'.steps) (hl : files.locate r'.path = .ok l) (hfresh : files.content? l = none)
    (hlook : files.refuses .look l = none)
    (haway : files.LinkFree ∨ ∀ r'' : Rank p, r''.steps ≤ r.steps → files.locate r''.path ≠ .ok l) :
    find (files.put l (.file bs)) start = .ok (some r.path) := by
  have hp := Tree.hasNull_of_resolve h
  obtain ⟨r₀, hpath, hfile, hbefore⟩ := (find_eq_some_iff h).mp hfind
  have hsame : r₀.steps = r.steps := by
    by_contra hne
    exact Rank.names_ne hne (congrArg Path.names hpath)
  have hkeeps (r₁ : Rank p) (hle : r₁.steps ≤ r₀.steps) :
      (files.put l (.file bs)).isFile r₁.path = files.isFile r₁.path := by
    rw [hsame] at hle
    refine Tree.isFile_put hfresh ?_
    rcases haway with hlinks | haway
    · refine Rank.locate_ne h hlinks (fun heq => ?_) hl
      rw [heq] at hle
      exact absurd hsteps (Nat.not_lt.mpr hle)
    · exact haway r₁ hle
  have hput : (files.put l (.file bs)).resolve start = .ok p := (Tree.resolve_put hfresh hlook start).trans h
  refine (find_eq_some_iff hput).mpr ⟨r₀, hpath, ?_, fun r₁ hr₁ => ?_⟩
  · exact (Rank.isFile_iff hp).mp ((hkeeps r₀ (Nat.le_refl _)).trans ((Rank.isFile_iff hp).mpr hfile))
  · have hle : r₁.steps ≤ r₀.steps := by
      rcases hr₁ with hlt | ⟨heq, -⟩
      · exact Nat.le_of_lt hlt
      · exact Nat.le_of_eq (congrArg Fin.val heq)
    exact (Rank.isPassed_iff hp).mp ((hkeeps r₁ hle).trans ((Rank.isPassed_iff hp).mpr (hbefore r₁ hr₁)))

end Resolved

/-- **The settings file that is found is the nearest one**: the first regular file among the candidates, in the order of
the steps upward and then of the names, if the place has an absolute path and the system refuses to look at no candidate
before it. Nothing is found exactly if no candidate is a file or refused, and otherwise the first candidate is reported
that is refused. Candidates that are directories, or missing, or below a file, or behind too many links, are passed. A
settings file that is added above the one that is found changes nothing, unless a link leads to it from a candidate that
is as near. -/
theorem find_is_nearest (files : Tree) (start : Path) :
    (∀ e, files.resolve start = .error e → find files start = .error e) ∧
    ∀ p, files.resolve start = .ok p →
      (∀ q, find files start = .ok (some q) ↔
        ∃ r : Rank p, r.path = q ∧ r.IsFile files ∧ ∀ r' : Rank _, r'.Before r → r'.IsPassed files) ∧
      (find files start = .ok none ↔ ∀ r : Rank p, r.IsPassed files) ∧
      (∀ e, find files start = .error e ↔
        ∃ (r : Rank p) (x : Trouble), e = .system x r.path ∧ r.IsRefused files x ∧
          ∀ r' : Rank _, r'.Before r → r'.IsPassed files) ∧
      (∀ r : Rank p, r.IsFile files →
        (∀ r' : Rank _, r'.Before r → files.lookup r'.path = .ok .directory ∨ files.lookup r'.path = .error .absent ∨
          files.lookup r'.path = .error .notDirectory ∨ files.lookup r'.path = .error .tooManyLinks) →
        find files start = .ok (some r.path)) ∧
      ∀ (r r' : Rank p) (l : Location) (bs : List UInt8),
        find files start = .ok (some r.path) → r.steps < r'.steps → files.locate r'.path = .ok l →
          files.content? l = none → files.refuses .look l = none →
          (files.LinkFree ∨ ∀ r'' : Rank p, r''.steps ≤ r.steps → files.locate r''.path ≠ .ok l) →
          find (files.put l (.file bs)) start = .ok (some r.path) := by
  refine ⟨fun e he => ?_, fun p hp => ⟨fun _ => find_eq_some_iff hp, find_eq_none_iff hp, fun _ => find_eq_error_iff hp,
    fun r hfile hbefore => ?_, fun r r' l bs => find_put hp⟩⟩
  · rw [find, he]
    rfl
  · refine (find_eq_some_iff hp).mpr ⟨r, rfl, hfile, fun r' hr' => ?_⟩
    have hpassed {e : Trouble} (he : files.lookup r'.path = .error e) (h : e.isPassed = true) : r'.IsPassed files := by
      refine ⟨fun ⟨bs, hbs⟩ => (nomatch hbs.symm.trans he), fun e' h' => ?_⟩
      obtain ⟨he', hstops⟩ := h'
      cases he.symm.trans he'
      cases h.symm.trans hstops
    rcases hbefore r' hr' with h | h | h | h
    · refine ⟨fun ⟨bs, hbs⟩ => (nomatch hbs.symm.trans h), fun e' h' => ?_⟩
      cases h.symm.trans h'.1
    · exact hpassed h (by decide)
    · exact hpassed h (by decide)
    · exact hpassed h (by decide)

/-- A tree with nothing but a settings file. -/
def settingsOnly : Tree := { root := ⟨1, []⟩, entries := [(["oraregex.yaml".toList], .file [])] }

/-- The nearest file is not always found: a place with a null character in its name has a file above it, but the search
ends before it begins. -/
theorem exists_file_not_found :
    (∃ bs, settingsOnly.lookup ⟨1, ["oraregex.yaml".toList]⟩ = .ok (.file bs)) ∧
      find settingsOnly ⟨0, [['a', '\x00', 'b']]⟩ = .error .nullCharacter :=
  ⟨⟨[], by decide +kernel⟩, by decide +kernel⟩

-- a directory of the first name is passed, and the names come before the directories
example : find { root := ⟨1, []⟩, entries := [(["a".toList], .directory),
    (["a".toList, "oraregex.yaml".toList], .directory), (["a".toList, ".oraregex.yml".toList], .file []),
    (["oraregex.yaml".toList], .file [])] } ⟨0, ["a".toList]⟩ =
    .ok (some ⟨1, ["a".toList, ".oraregex.yml".toList]⟩) := by decide +kernel

end Search

end SqlRegexp.Settings
