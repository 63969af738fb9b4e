import Mathlib.Logic.Function.Iterate
import Mathlib.Tactic.Common
import SqlRegexp.Files.Resolve

/-!
Trees of files, and what changes in them.

What is put somewhere changes nothing elsewhere (`content?_put_of_ne`). **A new file is met only by the paths that lead
to it**: for every other path, whether it leads to a file stays as it was (`isFile_put`), and the links on all paths are
the same (`resolve_put`). Where there are no links, a path of plain names leads to the place that its names are
(`names_of_locate`), so that two such paths with different names do not meet.
-/

namespace SqlRegexp.Files

/-! ### Paths -/

namespace Path

theorem parent_iterate (p : Path) (steps : Nat) :
    parent^[steps] p = ⟨p.slashes, p.names.take (p.names.length - steps)⟩ := by
  induction steps with
  | zero => rw [Nat.sub_zero, List.take_length]; rfl
  | succ steps ih =>
    rw [Function.iterate_succ_apply', ih, parent, List.dropLast_eq_take, List.length_take, List.take_take]
    congr 2
    omega

/-- All parts are names, and none is a double dot. -/
def Plain (names : List Name) : Prop := ∀ n ∈ names, n ≠ above ∧ isName n = true

theorem plain_settleName {settled : List Name} (h : Plain settled) (n : Name) : Plain (settleName settled n) := by
  unfold settleName
  split
  · exact fun m hm => h m (List.dropLast_subset _ hm)
  · next habove =>
    split
    · next hname =>
      intro m hm
      rcases List.mem_append.mp hm with hm | hm
      · exact h m hm
      · obtain rfl := List.mem_singleton.mp hm
        exact ⟨habove, hname⟩
    · exact h

/-- Names that are settled are plain. -/
theorem plain_settleNames (names : List Name) : Plain (settleNames names) := by
  have hfold (settled : List Name) (h : Plain settled) : Plain (names.foldl settleName settled) := by
    induction names generalizing settled with
    | nil => exact h
    | cons n names ih => exact ih _ (plain_settleName h n)
  exact hfold [] fun n hn => nomatch hn

end Path

/-! ### Contents -/

namespace Tree

variable {t : Tree} {l k : Location} {c : Content}

@[simp] theorem root_put : (t.put l c).root = t.root := rfl

@[simp] theorem here_put : (t.put l c).here = t.here := rfl

@[simp] theorem refuses_put : (t.put l c).refuses = t.refuses := rfl

theorem content?_put (hl : l ≠ []) : (t.put l c).content? l = some c := by
  simp [content?, put, hl]

/-- What is put somewhere changes nothing elsewhere. -/
theorem content?_put_of_ne (h : k ≠ l) : (t.put l c).content? k = t.content? k := by
  have hkeep : (fun e : Location × Content => decide ((e.1 != l) = true ∧ (e.1 == k) = true)) = fun e => e.1 == k := by
    funext e
    by_cases he : e.1 = k
    · simp [he, h]
    · simp [he]
  unfold content? put
  rw [List.find?_cons_of_neg (by simpa using Ne.symm h), List.find?_filter, hkeep]

/-- A new file is no link, and there was none before. -/
theorem link?_put {bs : List UInt8} (hfresh : t.content? l = none) (k : Location) :
    (t.put l (.file bs)).link? k = t.link? k := by
  unfold link?
  by_cases hk : k = l
  · subst hk
    have hk : k ≠ [] := by
      rintro rfl
      cases hfresh
    rw [content?_put hk, hfresh]
  · rw [content?_put_of_ne hk]

theorem ne_nil_of_content? (h : t.content? l ≠ some .directory) : l ≠ [] := by
  rintro rfl
  exact h rfl

/-! ### Making directories and files -/

/-- A directory is only made where there is nothing. -/
theorem exists_of_makeDirectory {p : Path} {made : Tree} (h : t.makeDirectory p = .ok made) :
    ∃ l, t.content? l = none ∧ made = t.put l .directory := by
  unfold makeDirectory at h
  cases hl : t.reach false p with
  | error e =>
    rw [hl] at h
    cases h
  | ok l =>
    rw [hl] at h
    simp only [bind, Except.bind] at h
    split at h
    · cases h
    · next hnone =>
      split at h
      · cases h
      · exact ⟨l, Option.not_isSome_iff_eq_none.mp hnone, (Except.ok.inj h).symm⟩

/-- What there is stays when a directory is made. -/
theorem content?_makeDirectory {p : Path} {made : Tree} (h : t.makeDirectory p = .ok made)
    (hk : t.content? k = some c) : made.content? k = some c := by
  obtain ⟨l, hl, rfl⟩ := exists_of_makeDirectory h
  rw [content?_put_of_ne, hk]
  rintro rfl
  rw [hl] at hk
  cases hk

/-- What there is stays when directories are made, also where they are made in vain. -/
theorem content?_makeDirectories {p : Path} (hk : t.content? k = some c) :
    (t.makeDirectories p).1.content? k = some c := by
  fun_induction makeDirectories t p with
  | case1 p made hmade => exact content?_makeDirectory hmade hk
  | case2 | case7 | case8 => exact hk
  | case3 p _ _ made e hparents ih | case5 p _ _ made hparents e _ _ ih | case6 p _ _ made hparents e _ _ ih =>
    rw [hparents] at ih
    exact ih
  | case4 p _ _ made hparents all hall ih =>
    rw [hparents] at ih
    exact content?_makeDirectory hall ih

/-- A file is made empty exactly where its path leads and nothing keeps it from being written. -/
theorem exists_clearFile_iff {p : Path} :
    (∃ cleared, t.clearFile p = .ok (l, cleared)) ↔ t.locate p = .ok l ∧ t.writeTrouble? l = none := by
  unfold clearFile
  cases hl : t.locate p with
  | error e => exact ⟨fun ⟨_, h⟩ => (nomatch h), fun h => nomatch h.1⟩
  | ok k =>
    simp only [bind, Except.bind]
    constructor
    · rintro ⟨cleared, h⟩
      split at h
      · cases h
      · next hnone =>
        cases h
        exact ⟨rfl, hnone⟩
    · rintro ⟨hk, hnone⟩
      cases hk
      rw [hnone]
      exact ⟨_, rfl⟩

theorem of_clearFile {p : Path} {cleared : Tree} (h : t.clearFile p = .ok (l, cleared)) :
    l ≠ [] ∧ cleared = t.put l (.file []) := by
  obtain ⟨hl, hnone⟩ := exists_clearFile_iff.mp ⟨cleared, h⟩
  constructor
  · rintro rfl
    cases hnone
  · unfold clearFile at h
    rw [hl] at h
    simp only [bind, Except.bind, hnone] at h
    cases h
    rfl

theorem content?_extendFile {old bytes : List UInt8} (h : t.content? l = some (.file old)) :
    (t.extendFile l bytes).content? l = some (.file (old ++ bytes)) := by
  have hl : l ≠ [] := by
    refine @ne_nil_of_content? t l ?_
    rw [h]
    exact fun h => nomatch h
  unfold extendFile
  rw [h]
  exact content?_put hl

theorem content?_extendFile_of_ne {bytes : List UInt8} (h : k ≠ l) :
    (t.extendFile l bytes).content? k = t.content? k := by
  unfold extendFile
  split <;> exact content?_put_of_ne h

/-! ### Following paths -/

section Following

variable {names : List Name} {p : Path} {through : Bool}

/-- Past a file that is new no path leads on; nor did one before. -/
theorem walk_put {bs : List UInt8} (hfresh : t.content? l = none) (names : List Name) (k : Location) :
    (t.put l (.file bs)).walk through k names = t.walk through k names ∨
      (t.put l (.file bs)).walk through k names = .error .notDirectory ∧ t.walk through k names = .error .absent := by
  induction names generalizing k with
  | nil => exact .inl rfl
  | cons n names ih =>
    have hl : l ≠ [] := by
      rintro rfl
      cases hfresh
    rw [walk, walk]
    by_cases hk : k = l
    · -- the new file ends what leads through it, where there was nothing before
      subst hk
      rw [content?_put hl, hfresh]
      exact .inr ⟨rfl, rfl⟩
    · rw [content?_put_of_ne hk, refuses_put, root_put, link?_put hfresh]
      cases t.content? k with
      | none => exact .inl rfl
      | some c =>
        cases c with
        | file _ => exact .inl rfl
        | link _ => exact .inl rfl
        | directory =>
          dsimp only
          cases t.refuses .search k with
          | some e => exact .inl rfl
          | none =>
            dsimp only
            split
            · split
              · exact .inl rfl
              · exact ih _
            · split
              · exact ih _
              · split
                · exact .inl rfl
                · split
                  · exact .inl rfl
                  · exact ih _

theorem start_put {c : Content} (dir : Location) (p : Path) : (t.put l c).start dir p = t.start dir p := rfl

theorem follow_put {bs : List UInt8} (hfresh : t.content? l = none) (links : Nat) (names : List Name) (k : Location) :
    (t.put l (.file bs)).follow through links k names = t.follow through links k names ∨
      (t.put l (.file bs)).follow through links k names = .error .notDirectory ∧
        t.follow through links k names = .error .absent := by
  induction links generalizing k names with
  | zero =>
    unfold follow
    rcases @walk_put t l through bs hfresh names k with heq | ⟨hput, hwalk⟩
    · rw [heq]
      exact .inl rfl
    · rw [hput, hwalk]
      exact .inr ⟨rfl, rfl⟩
  | succ links ih =>
    unfold follow
    rcases @walk_put t l through bs hfresh names k with heq | ⟨hput, hwalk⟩
    · rw [heq]
      cases t.walk through k names with
      | error e => exact .inl rfl
      | ok leg =>
        cases leg with
        | arrived m => exact .inl rfl
        | redirected dir target rest =>
          simp only [bind, Except.bind, start_put]
          cases t.start dir target with
          | error e => exact .inl rfl
          | ok place => exact ih _ _
    · rw [hput, hwalk]
      exact .inr ⟨rfl, rfl⟩

theorem reach_put {bs : List UInt8} (hfresh : t.content? l = none) (p : Path) :
    (t.put l (.file bs)).reach through p = t.reach through p ∨
      (t.put l (.file bs)).reach through p = .error .notDirectory ∧ t.reach through p = .error .absent := by
  unfold reach
  split
  · exact .inl rfl
  · rw [start_put, here_put]
    cases t.start t.here p with
    | error e => exact .inl rfl
    | ok place => exact follow_put hfresh t.linkLimit place.2 place.1

theorem look_put_of_ne (h : k ≠ l) : (t.put l c).look k = t.look k := by
  unfold look
  rw [content?_put_of_ne h]
  rfl

end Following

/-! ### Where there are no links -/

section LinkFree

variable {names : List Name} {p : Path}

/-- No link is anywhere. -/
def LinkFree (t : Tree) : Prop := ∀ l, t.link? l = none

/-- Plain names lead to where they say. -/
theorem LinkFree.eq_of_walk (h : t.LinkFree) (hnames : Path.Plain names) {leg : Leg}
    (hwalk : t.walk true l names = .ok leg) : leg = .arrived (l ++ names) := by
  induction names generalizing l with
  | nil =>
    cases hwalk
    rw [List.append_nil]
  | cons n names ih =>
    obtain ⟨habove, hname⟩ := hnames n List.mem_cons_self
    rw [walk] at hwalk
    split at hwalk
    · cases hwalk
    · split at hwalk
      · cases hwalk
      · rw [if_neg habove, hname, if_neg (by decide)] at hwalk
        split at hwalk
        · cases hwalk
        · split at hwalk
          · next target htarget => cases (h _).symm.trans htarget
          · rw [ih (fun m hm => hnames m (List.mem_cons_of_mem n hm)) hwalk, List.append_assoc]
            rfl
    · cases hwalk

theorem LinkFree.eq_of_follow (h : t.LinkFree) (hnames : Path.Plain names) {links : Nat}
    (hfollow : t.follow true links l names = .ok k) : k = l ++ names := by
  cases hwalk : t.walk true l names with
  | error e => cases links <;> rw [follow, hwalk] at hfollow <;> cases hfollow
  | ok leg =>
    rw [h.eq_of_walk hnames hwalk] at hwalk
    cases links <;> rw [follow, hwalk] at hfollow <;> cases hfollow <;> rfl

/-- An absolute path of plain names tells the location that it leads to. -/
theorem LinkFree.names_of_locate (h : t.LinkFree) (habsolute : p.isAbsolute = true) (hnames : Path.Plain p.names)
    (hl : t.locate p = .ok l) : p.names = t.root.names ++ l := by
  unfold locate reach start at hl
  rw [if_pos habsolute] at hl
  split at hl
  · cases hl
  · split at hl
    · next hroot =>
      rw [Except.bind] at hl
      obtain ⟨rest, hrest⟩ := List.isPrefixOf_iff_prefix.mp hroot
      have hdrop : Path.Plain (p.names.drop t.root.names.length) := fun n hn => hnames n (List.mem_of_mem_drop hn)
      have hk := h.eq_of_follow hdrop hl
      rw [List.nil_append, ← hrest, List.drop_left] at hk
      rw [hk, hrest]
    · cases hl

end LinkFree

/-! ### Regular files -/

section Regular

variable {p : Path} {bs : List UInt8}

/-- A path leads to a regular file, which can be looked at. -/
theorem isFile_eq_true_iff : t.isFile p = .ok true ↔ p.hasNull = false ∧ ∃ bs, t.lookup p = .ok (.file bs) := by
  unfold isFile
  split
  · next hnull => simp [hnull]
  · next hnull =>
    simp only [Bool.not_eq_true] at hnull
    rw [hnull]
    cases t.lookup p with
    | error e =>
      dsimp only
      split <;> simp
    | ok c => cases c <;> simp

theorem isFile_eq_error_iff {e : Trouble} :
    t.isFile p = .error e ↔ p.hasNull = false ∧ t.lookup p = .error e ∧ e.isPassed = false := by
  unfold isFile
  split
  · next hnull => simp [hnull]
  · next hnull =>
    simp only [Bool.not_eq_true] at hnull
    rw [hnull]
    cases t.lookup p with
    | error e' =>
      dsimp only
      split
      · next hpassed =>
        constructor
        · nofun
        · rintro ⟨-, h, hstops⟩
          cases h
          rw [hpassed] at hstops
          cases hstops
      · next hpassed =>
        constructor
        · intro h
          cases h
          exact ⟨rfl, rfl, Bool.eq_false_iff.mpr hpassed⟩
        · rintro ⟨-, h, -⟩
          cases h
          rfl
    | ok c => cases c <;> simp

/-- **A new file is met only by the paths that lead to it.** -/
theorem isFile_put (hfresh : t.content? l = none) (hp : t.locate p ≠ .ok l) :
    (t.put l (.file bs)).isFile p = t.isFile p := by
  have hlookup : (t.put l (.file bs)).lookup p = t.lookup p ∨
      (t.put l (.file bs)).lookup p = .error .notDirectory ∧ t.lookup p = .error .absent := by
    unfold lookup locate
    rcases @reach_put t l true bs hfresh p with heq | ⟨hput, hreach⟩
    · rw [heq]
      cases hk : t.reach true p with
      | error e => exact .inl rfl
      | ok k =>
        have hne : k ≠ l := by
          rintro rfl
          exact hp hk
        exact .inl (look_put_of_ne hne)
    · rw [hput, hreach]
      exact .inr ⟨rfl, rfl⟩
  unfold isFile
  split
  · rfl
  · rcases hlookup with heq | ⟨hput, hlookup⟩
    · rw [heq]
    · rw [hput, hlookup]
      rfl

end Regular

/-! ### Resolving -/

section Resolving

variable {bs : List UInt8}

/-- A new file is no link, and there was none before. -/
theorem target?_put (hfresh : t.content? l = none) (p : Path) : (t.put l (.file bs)).target? p = t.target? p := by
  unfold target? peek
  split
  · rfl
  · rcases @reach_put t l false bs hfresh p with heq | ⟨hput, hreach⟩
    · rw [heq]
      cases t.reach false p with
      | error e => rfl
      | ok k =>
        simp only [bind, Except.bind, pure, Except.pure]
        by_cases hk : k = l
        · subst hk
          have hnew : k ≠ [] := by
            rintro rfl
            cases hfresh
          have hold : t.look k = .error .absent := by
            unfold look
            rw [hfresh]
          rw [hold]
          unfold look
          rw [content?_put hnew]
          cases (t.put k (.file bs)).refuses .look k <;> rfl
        · rw [look_put_of_ne hk]
          rfl
    · rw [hput, hreach]
      rfl

theorem joinNames_put (hfresh : t.content? l = none) (joinTarget : LinksMet → Path → Path → Except PathError Joined)
    (met : LinksMet) (p : Path) (names : List Name) :
    (t.put l (.file bs)).joinNames joinTarget met p names = t.joinNames joinTarget met p names := by
  induction names generalizing met p with
  | nil => rfl
  | cons n names ih =>
    rw [joinNames, joinNames]
    simp only [ih, target?_put hfresh]

theorem join_put (hfresh : t.content? l = none) (within : Nat) : (t.put l (.file bs)).join within = t.join within := by
  induction within with
  | zero =>
    funext met dir p
    exact joinNames_put hfresh _ _ _ _
  | succ within ih =>
    funext met dir p
    show (t.put l (.file bs)).joinNames ((t.put l (.file bs)).join within) met _ p.names = _
    rw [ih, joinNames_put hfresh]
    rfl

theorem loops_put (hfresh : t.content? l = none) (hlook : t.refuses .look l = none) (p : Path) :
    (t.put l (.file bs)).loops p = t.loops p := by
  unfold loops lookup locate
  rcases @reach_put t l true bs hfresh p with heq | ⟨hput, hreach⟩
  · rw [heq]
    cases t.reach true p with
    | error e => rfl
    | ok k =>
      simp only [bind, Except.bind]
      by_cases hk : k = l
      · subst hk
        have hnew : k ≠ [] := by
          rintro rfl
          cases hfresh
        have hold : t.look k = .error .absent := by
          unfold look
          rw [hfresh]
        have hafter : (t.put k (.file bs)).look k = .ok (.file bs) := by
          unfold look
          rw [content?_put hnew, show (t.put k (.file bs)).refuses = t.refuses from rfl, hlook]
        rw [hold, hafter]
        rfl
      · rw [look_put_of_ne hk]
  · rw [hput, hreach]
    rfl

/-- The links on a path stay as they are when a file is added that can be looked at. -/
theorem resolve_put (hfresh : t.content? l = none) (hlook : t.refuses .look l = none) (p : Path) :
    (t.put l (.file bs)).resolve p = t.resolve p := by
  unfold resolve
  rw [join_put hfresh, show (t.put l (.file bs)).linksWithin = t.linksWithin from rfl]
  cases t.join t.linksWithin [] {} p with
  | error e => rfl
  | ok j =>
    simp only [bind, Except.bind]
    rw [show (t.put l (.file bs)).settle j.path = t.settle j.path from rfl, loops_put hfresh hlook]

/-- A path that has been resolved is absolute, of names that are settled and without a null character. -/
theorem exists_of_resolve {p q : Path} (h : t.resolve p = .ok q) :
    (∃ p', q = ⟨1, (t.settle p').names⟩) ∧ q.hasNull = false := by
  unfold resolve at h
  cases hj : t.join t.linksWithin [] {} p with
  | error e =>
    rw [hj] at h
    cases h
  | ok j =>
    rw [hj] at h
    simp only [bind, Except.bind] at h
    split at h
    · cases h
    · next hnull =>
      split at h
      · cases h
      · cases h
        exact ⟨⟨_, rfl⟩, Bool.eq_false_iff.mpr hnull⟩

/-- A path that has been resolved has no null character in it. -/
theorem hasNull_of_resolve {p q : Path} (h : t.resolve p = .ok q) : q.hasNull = false := (exists_of_resolve h).2

/-- A path that has been resolved is absolute and of plain names. -/
theorem plain_of_resolve {p q : Path} (h : t.resolve p = .ok q) : q.isAbsolute = true ∧ Path.Plain q.names := by
  obtain ⟨⟨p', rfl⟩, -⟩ := exists_of_resolve h
  exact ⟨rfl, Path.plain_settleNames _⟩

end Resolving

end Tree

end SqlRegexp.Files
