import Mathlib.Tactic.Common
import SqlRegexp.Dialect.Locate

/-!
Walks, match by match.

* `Walk.nth? w k c`: the match with `k` others before it that a walk meets from the cursor `c` on.
* `Walk.nth?_eq_getElem?`: a walk that ends has its matches in a list, and `nth?` looks them up.
* `Walk.Forward`: no match starts before the cursor it is searched from; such a walk ends (`Walk.Forward.exists_all`).
* `walkTo_result_of_exists`, `walkTo_result_of_missing`: walking to an occurrence reads a group of the match that `nth?`
  gives, and fails if the group took no part in it or the matches do not have it.
-/

namespace SqlRegexp.Match

/-- Where neither end of a match is before the cursor, the walk moves on. -/
theorem Found.lt_next {c : Nat} {m : Found} (hstart : c ≤ m.start) (hstop : c ≤ m.stop) : c < m.next := by
  unfold next
  split <;> omega

namespace Walk

variable {w : Walk}

/-- The match with `k` others before it that a walk meets from a cursor on. -/
def nth? (w : Walk) : (k cursor : Nat) → Option Found
  | 0, cursor => w.met? cursor
  | k + 1, cursor => (w.met? cursor).bind fun m => w.nth? k m.next

theorem nth?_eq_getElem? {limit cursor : Nat} {ms : List Found} (h : w.upTo? limit cursor = some ms) (k : Nat) :
    w.nth? k cursor = ms[k]? := by
  induction limit generalizing cursor ms k with
  | zero =>
    rw [upTo?] at h
    split at h
    · cases h
    · next hm =>
      cases h
      -- a walk that is listed in no steps has met nothing
      have hnone : w.met? cursor = none := by simpa using hm
      cases k <;> simp [nth?, hnone]
  | succ limit ih =>
    rw [upTo?] at h
    cases hm : w.met? cursor with
    | none =>
      rw [hm] at h
      cases h
      cases k <;> simp [nth?, hm]
    | some m =>
      rw [hm] at h
      obtain ⟨ms', hms', rfl⟩ := Option.map_eq_some_iff.mp h
      cases k with
      | zero => simp [nth?, hm]
      | succ k => simpa [nth?, hm] using ih hms' k

/-- Two walks that search alike meet alike. -/
theorem met?_congr {w' : Walk} {f : Found → Found} (hsize : w'.size = w.size)
    (h : ∀ c ≤ w.size, w'.search c = (w.search c).map f) (cursor : Nat) :
    w'.met? cursor = (w.met? cursor).map f := by
  unfold met?
  rw [hsize]
  split
  · next hc => exact h cursor hc
  · rfl

/-- Matches that are changed without changing where the walk goes on are met in the same order. -/
theorem nth?_map {w' : Walk} {f : Found → Found} (hmet : ∀ c, w'.met? c = (w.met? c).map f)
    (hnext : ∀ m, (f m).next = m.next) (k cursor : Nat) : w'.nth? k cursor = (w.nth? k cursor).map f := by
  induction k generalizing cursor with
  | zero => exact hmet cursor
  | succ k ih =>
    rw [nth?, nth?, hmet]
    cases w.met? cursor with
    | none => rfl
    | some m => simpa [hnext] using ih m.next

/-- Walks that meet related matches at every cursor meet related matches throughout, if such matches agree on where a
walk goes on. -/
theorem nth?_rel {w' : Walk} {R : Found → Found → Prop} (hmet : ∀ c, Option.Rel R (w.met? c) (w'.met? c))
    (hnext : ∀ {m m'}, R m m' → m.next = m'.next) (k cursor : Nat) :
    Option.Rel R (w.nth? k cursor) (w'.nth? k cursor) := by
  induction k generalizing cursor with
  | zero => exact hmet cursor
  | succ k ih =>
    have hrel := hmet cursor
    rw [nth?, nth?]
    generalize w.met? cursor = met at hrel
    generalize w'.met? cursor = met' at hrel
    cases hrel with
    | none => exact .none
    | some hm => simpa [hnext hm] using ih _

/-- A match is met where the walk goes on after the match before it. -/
theorem nth?_succ (k cursor : Nat) : w.nth? (k + 1) cursor = (w.nth? k cursor).bind fun m => w.met? m.next := by
  induction k generalizing cursor with
  | zero => rfl
  | succ k ih =>
    show (w.met? cursor).bind (fun m => w.nth? (k + 1) m.next) = ((w.met? cursor).bind fun m => w.nth? k m.next).bind _
    rw [Option.bind_assoc]
    exact congrArg _ (funext fun m => ih m.next)

theorem length_le_of_upTo? {limit cursor : Nat} {ms : List Found} (h : w.upTo? limit cursor = some ms) :
    ms.length ≤ limit := by
  induction limit generalizing cursor ms with
  | zero =>
    rw [upTo?] at h
    split at h
    · cases h
    · cases h
      exact Nat.le_refl _
  | succ limit ih =>
    rw [upTo?] at h
    cases hm : w.met? cursor with
    | none =>
      rw [hm] at h
      cases h
      exact Nat.zero_le _
    | some m =>
      rw [hm] at h
      obtain ⟨ms', hms', rfl⟩ := Option.map_eq_some_iff.mp h
      exact Nat.succ_le_succ (ih hms')

/-- Every match that the walk meets lies in the text, and behind the cursor. -/
structure Forward (w : Walk) : Prop where
  cursor_le : ∀ {c m}, w.met? c = some m → c ≤ m.start
  start_le : ∀ {c m}, w.met? c = some m → m.start ≤ m.stop
  stop_le : ∀ {c m}, w.met? c = some m → m.stop ≤ w.size

theorem search_of_met? {c : Nat} {m : Found} (h : w.met? c = some m) : w.search c = some m := by
  unfold met? at h
  split at h
  · exact h
  · cases h

theorem le_of_met? {c : Nat} {m : Found} (h : w.met? c = some m) : c ≤ w.size := by
  unfold met? at h
  split at h
  · assumption
  · cases h

/-- A walk that moves on at every match ends. -/
theorem exists_upTo (hw : ∀ {c m}, w.met? c = some m → c < m.next) {limit cursor : Nat}
    (hlimit : w.size < limit + cursor) : ∃ ms, w.upTo? limit cursor = some ms := by
  induction limit generalizing cursor with
  | zero =>
    refine ⟨[], ?_⟩
    rw [upTo?, if_neg]
    intro hsome
    obtain ⟨m, hm⟩ := Option.isSome_iff_exists.mp hsome
    have := le_of_met? hm
    omega
  | succ limit ih =>
    rw [upTo?]
    cases hm : w.met? cursor with
    | none => exact ⟨[], rfl⟩
    | some m =>
      have hlt := hw hm
      obtain ⟨ms, hms⟩ := ih (show w.size < limit + m.next by omega)
      exact ⟨m :: ms, by simp [hms]⟩

theorem exists_all (hw : ∀ {c m}, w.met? c = some m → c < m.next) : ∃ ms, w.all? = some ms :=
  exists_upTo hw (by omega)

namespace Forward

/-- The walk moves on at every match. -/
theorem lt_next (hw : w.Forward) {c : Nat} {m : Found} (h : w.met? c = some m) : c < m.next :=
  Found.lt_next (hw.cursor_le h) (Nat.le_trans (hw.cursor_le h) (hw.start_le h))

theorem exists_all (hw : w.Forward) : ∃ ms, w.all? = some ms := Walk.exists_all hw.lt_next

end Forward

/-- The cursor at which a walk meets a match. -/
theorem exists_met?_of_nth? {k cursor : Nat} {m : Found} (h : w.nth? k cursor = some m) :
    ∃ c, w.met? c = some m := by
  induction k generalizing cursor with
  | zero => exact ⟨cursor, h⟩
  | succ k ih =>
    rw [nth?] at h
    obtain ⟨m', -, hm'⟩ := Option.bind_eq_some_iff.mp h
    exact ih hm'

end Walk

end SqlRegexp.Match

namespace SqlRegexp

open SqlRegexp.Match

/-- The span of a group in a match, in the coordinates of a text that starts `offset` characters earlier. -/
def groupSpan (m : Found) (group offset : Nat) : Option SubjectSpan :=
  ((m.span? group).join).map fun s => ⟨offset + s.start + 1, s.stop - s.start, by omega⟩

theorem SubjectSpan.ofInts_of_le {start stop : Nat} (offset : Nat) (h : start ≤ stop) :
    SubjectSpan.ofInts ((offset : Int) + start + 1) (stop - start) =
      .ok ⟨offset + start + 1, stop - start, by omega⟩ := by
  unfold SubjectSpan.ofInts
  rw [dif_pos (by omega), if_pos (by omega)]
  congr 2
  all_goals omega

/-- Walking to an occurrence reads the group of the match with `ahead` others before it, and fails if that group took no
part in the match. -/
theorem walkTo_result_of_exists {request : Request} {pattern : List Char} {group : Nat} {w : Walk}
    (hgroup : ∀ {c m}, w.met? c = some m →
      ∃ e, m.span? group = some e ∧ ∀ s : Span, e = some s → s.start ≤ s.stop) (ahead passed cursor : Nat) :
    (walkTo request pattern group w ahead passed cursor).result = (w.nth? ahead cursor).elim (.ok none) fun m =>
      if (m.span? group).join = none then .error (.span (.startTooSmall 0)) else .ok (groupSpan m group 0) := by
  induction ahead generalizing passed cursor with
  | zero =>
    rw [walkTo, Walk.nth?]
    cases hm : w.met? cursor with
    | none => rfl
    | some m =>
      obtain ⟨e, he, hle⟩ := hgroup hm
      cases e with
      | none =>
        have hb : bounds m group = .ok (-1, -1) := by simp [bounds, he]
        simp only [hb, Narrated.result_bind, Narrated.result_ofResult, Narrated.result_tell, Narrated.result_pure,
          Except.mapError]
        simp [bind, Except.bind, he, SubjectSpan.ofInts]
      | some s =>
        have hb : bounds m group = .ok ((s.start : Int), (s.stop : Int)) := by simp [bounds, he]
        have hspan := SubjectSpan.ofInts_of_le 0 (hle s rfl)
        simp only [Int.natCast_zero, Int.zero_add] at hspan
        simp only [hb, Narrated.result_bind, Narrated.result_ofResult, Narrated.result_tell, Narrated.result_pure,
          Except.mapError]
        simp [bind, Except.bind, hspan, groupSpan, he]
  | succ ahead ih =>
    rw [walkTo, Walk.nth?]
    cases hm : w.met? cursor with
    | none => rfl
    | some m =>
      obtain ⟨e, he, -⟩ := hgroup hm
      obtain ⟨extent, hb⟩ : ∃ extent, bounds m group = .ok extent := by
        unfold bounds
        rw [he]
        cases e <;> exact ⟨_, rfl⟩
      simp only [hb, Narrated.result_bind, Narrated.result_ofResult, Except.mapError, Option.bind_some]
      exact ih (passed + 1) m.next

/-- Where the group takes part in every match, it is read. -/
theorem walkTo_result {request : Request} {pattern : List Char} {group : Nat} {w : Walk}
    (hgroup : ∀ {c m}, w.met? c = some m → ∃ s, m.span? group = some (some s) ∧ s.start ≤ s.stop)
    (ahead passed cursor : Nat) :
    (walkTo request pattern group w ahead passed cursor).result =
      .ok ((w.nth? ahead cursor).bind fun m => groupSpan m group 0) := by
  rw [walkTo_result_of_exists fun hm => ?_]
  · cases hm : w.nth? ahead cursor with
    | none => rfl
    | some m =>
      obtain ⟨c, hc⟩ := Walk.exists_met?_of_nth? hm
      obtain ⟨s, hs, -⟩ := hgroup hc
      rw [Option.elim_some, if_neg (by simp [hs]), Option.bind_some]
  · obtain ⟨s, hs, hle⟩ := hgroup hm
    exact ⟨some s, hs, fun s' hs' => Option.some.inj hs' ▸ hle⟩

/-- A walk that reads a group which no match has fails as soon as it meets one. -/
theorem walkTo_result_of_missing {request : Request} {pattern : List Char} {group : Nat} {w : Walk}
    (hgroup : ∀ {c m}, w.met? c = some m → m.span? group = none) (ahead passed cursor : Nat) :
    (walkTo request pattern group w ahead passed cursor).result =
      if w.met? cursor = none then .ok none else .error (.span .noSuchGroup) := by
  rw [walkTo]
  cases hm : w.met? cursor with
  | none => rfl
  | some m =>
    have hb : bounds m group = .error .noSuchGroup := by simp [bounds, hgroup hm]
    simp only [hb, Narrated.result_bind, Narrated.result_ofResult, Except.mapError]
    rfl

end SqlRegexp
