import Mathlib.Tactic.Common
import SqlRegexp.Dialect.Compiled

/-!
Scanning the text of a pattern for its references and end anchors.

A scan goes from character to character and keeps nothing but the place it is at. `shiftFrom_of_none` and
`shiftFrom_of_some` are its steps. What it passes without a change is `passed?`; such a text it only carries over
(`shiftFrom_passed`, `pinFrom_passed`). `pinnedIf` is what a mode makes of the end anchors, with an equation for each
kind of character.
-/

namespace SqlRegexp.PatternText

open SqlRegexp.Text SqlRegexp.Unicode

/-- What a run of characters leaves of a text. -/
theorem drop_length_takeWhile (p : Char → Bool) (u : List Char) : u.drop (u.takeWhile p).length = u.dropWhile p := by
  have happend := @List.drop_left _ (u.takeWhile p) (u.dropWhile p)
  rwa [List.takeWhile_append_dropWhile] at happend

theorem takeWhile_eq_nil {p : Char → Bool} {u : List Char} (h : ∀ c ∈ u.head?, p c = false) : u.takeWhile p = [] := by
  cases u with
  | nil => rfl
  | cons c u => exact List.takeWhile_cons_of_neg (by rw [h c rfl]; exact Bool.false_ne_true)

/-! ### Raising references -/

section Shift

variable {offset : Int} {place : Place} {c : Char} {u : List Char}

theorem shiftFrom_skip (cs : List Char) : shiftFrom offset cs.length place (cs ++ u) = shiftFrom offset 0 place u := by
  induction cs with
  | nil => rfl
  | cons c cs ih => exact ih

/-- A character that begins no reference is carried over. -/
theorem shiftFrom_of_none (h : place = .outside → referenceAt? (c :: u) = .ok none) :
    shiftFrom offset 0 place (c :: u) = (shiftFrom offset 0 (place.next c) u).map (c :: ·) := by
  have hnone : (if place = .outside then referenceAt? (c :: u) else pure none) = .ok none := by
    split
    · next hplace => exact h hplace
    · rfl
  rw [shiftFrom, hnone]
  show (shiftFrom offset 0 (place.next c) u >>= fun cs => Except.ok (c :: cs)) = _
  cases shiftFrom offset 0 (place.next c) u <;> rfl

/-- A character that is carried over where the scan goes on as before. -/
theorem exists_of_shiftFrom {v : List Char} (h : shiftFrom offset 0 place (c :: u) = .ok v)
    (hnone : place = .outside → referenceAt? (c :: u) = .ok none) :
    ∃ v', v = c :: v' ∧ shiftFrom offset 0 (place.next c) u = .ok v' := by
  rw [shiftFrom_of_none hnone] at h
  cases hu : shiftFrom offset 0 (place.next c) u with
  | error e =>
    rw [hu] at h
    cases h
  | ok v' =>
    rw [hu] at h
    cases h
    exact ⟨v', rfl, rfl⟩

/-- A reference is written anew. -/
theorem shiftFrom_of_some {r : Numbered} (h : referenceAt? (c :: u) = .ok (some r)) :
    shiftFrom offset 0 .outside (c :: u) = (r.spelling.write (r.number + offset)).bind fun text =>
      (shiftFrom offset (r.length - 1) .outside u).map (text ++ ·) := by
  rw [shiftFrom, if_pos rfl, h]
  show (r.spelling.write (r.number + offset) >>= fun text =>
    shiftFrom offset (r.length - 1) .outside u >>= fun cs => Except.ok (text ++ cs)) = _
  refine congrArg _ (funext fun text => ?_)
  cases shiftFrom offset (r.length - 1) .outside u <;> rfl

/-- The scan goes on behind a reference that is written anew. -/
theorem shiftFrom_reference {r : Numbered} {cs : List Char} (hr : referenceAt? (c :: (cs ++ u)) = .ok (some r))
    (hlength : r.length = cs.length + 1) :
    shiftFrom offset 0 .outside (c :: (cs ++ u)) = (r.spelling.write (r.number + offset)).bind fun text =>
      (shiftFrom offset 0 .outside u).map (text ++ ·) := by
  rw [shiftFrom_of_some hr, hlength, Nat.add_sub_cancel, shiftFrom_skip]

theorem exists_of_shiftFrom_reference {r : Numbered} {cs v : List Char}
    (h : shiftFrom offset 0 .outside (c :: (cs ++ u)) = .ok v) (hr : referenceAt? (c :: (cs ++ u)) = .ok (some r))
    (hlength : r.length = cs.length + 1) :
    ∃ text v', r.spelling.write (r.number + offset) = .ok text ∧ v = text ++ v' ∧
      shiftFrom offset 0 .outside u = .ok v' := by
  rw [shiftFrom_reference hr hlength] at h
  cases htext : r.spelling.write (r.number + offset) with
  | error e =>
    rw [htext] at h
    cases h
  | ok text =>
    rw [htext] at h
    cases hu : shiftFrom offset 0 .outside u with
    | error e =>
      rw [hu] at h
      cases h
    | ok v' =>
      rw [hu] at h
      cases h
      exact ⟨text, v', rfl, rfl, rfl⟩

end Shift

/-! ### Texts without a change -/

/-- The place behind a text in which a scan changes nothing: outside classes it has no backslash, no opening
parenthesis and no end anchor. -/
def passed? : Place → List Char → Option Place
  | place, [] => some place
  | place, c :: cs =>
    if place = .outside ∧ (c = '\\' ∨ c = '(' ∨ c = '$') then none else passed? (place.next c) cs

section Passed

variable {place place' : Place} {cs : List Char}

theorem passed?_cons {c : Char} (h : passed? place (c :: cs) = some place') :
    ¬ (place = .outside ∧ (c = '\\' ∨ c = '(' ∨ c = '$')) ∧ passed? (place.next c) cs = some place' := by
  rw [passed?] at h
  split at h
  · cases h
  · next hc => exact ⟨hc, h⟩

theorem referenceAt?_of_ne {c : Char} {u : List Char} (hslash : c ≠ '\\') (hopen : c ≠ '(') :
    referenceAt? (c :: u) = .ok none := by
  unfold referenceAt?
  split
  · next h => exact absurd (List.cons.inj h).1 hslash
  · next h => exact absurd (List.cons.inj h).1 hopen
  · rfl

theorem shiftFrom_passed (offset : Int) (h : passed? place cs = some place') (u : List Char) :
    shiftFrom offset 0 place (cs ++ u) = (shiftFrom offset 0 place' u).map (cs ++ ·) := by
  induction cs generalizing place with
  | nil =>
    obtain rfl := Option.some.inj h
    rw [List.nil_append]
    cases shiftFrom offset 0 place u <;> rfl
  | cons c cs ih =>
    obtain ⟨hc, h⟩ := passed?_cons h
    have hnone : place = .outside → referenceAt? (c :: (cs ++ u)) = .ok none := fun hplace =>
      referenceAt?_of_ne (fun he => hc ⟨hplace, .inl he⟩) fun he => hc ⟨hplace, .inr (.inl he)⟩
    rw [List.cons_append, shiftFrom_of_none hnone, ih h]
    cases shiftFrom offset 0 place' u <;> rfl

theorem exists_of_shiftFrom_passed {offset : Int} {u v : List Char} (hpassed : passed? place cs = some place')
    (h : shiftFrom offset 0 place (cs ++ u) = .ok v) : ∃ v', v = cs ++ v' ∧ shiftFrom offset 0 place' u = .ok v' := by
  rw [shiftFrom_passed offset hpassed] at h
  cases hu : shiftFrom offset 0 place' u with
  | error e =>
    rw [hu] at h
    cases h
  | ok v' =>
    rw [hu] at h
    cases h
    exact ⟨v', rfl, rfl⟩

theorem pinFrom_passed (h : passed? place cs = some place') (u : List Char) :
    pinFrom place (cs ++ u) = cs ++ pinFrom place' u := by
  induction cs generalizing place with
  | nil =>
    cases h
    rfl
  | cons c cs ih =>
    obtain ⟨hc, h⟩ := passed?_cons h
    rw [List.cons_append, pinFrom, if_neg fun he => hc ⟨he.1, .inr (.inr he.2)⟩, ih h]
    rfl

end Passed

/-! ### Pinning end anchors -/

/-- A text with its end anchors pinned, if they are to be. -/
def pinnedIf (b : Bool) (u : List Char) : List Char := if b then pinEnds u else u

section Pinned

variable {b : Bool} {c : Char} {u : List Char}

@[simp] theorem pinnedIf_nil : pinnedIf b [] = [] := by cases b <;> rfl

/-- The characters behind which a scan goes on as before. -/
def Unmarked (c : Char) : Prop := c ≠ '\\' ∧ c ≠ '[' ∧ c ≠ '$'

instance (c : Char) : Decidable (Unmarked c) := inferInstanceAs (Decidable (_ ∧ _))

theorem next_of_unmarked (h : Unmarked c) : Place.outside.next c = .outside := by
  show (if c = '\\' then Place.escaped false else if c = '[' then .opened else .outside) = _
  rw [if_neg h.1, if_neg h.2.1]

theorem pinnedIf_cons (h : Unmarked c) : pinnedIf b (c :: u) = c :: pinnedIf b u := by
  cases b with
  | false => rfl
  | true =>
    show pinFrom .outside (c :: u) = _
    rw [pinFrom, next_of_unmarked h, if_neg fun he => h.2.2 he.2]
    rfl

theorem pinnedIf_append {cs : List Char} (h : ∀ c ∈ cs, Unmarked c) : pinnedIf b (cs ++ u) = cs ++ pinnedIf b u := by
  induction cs with
  | nil => rfl
  | cons c cs ih =>
    rw [List.cons_append, pinnedIf_cons (h c List.mem_cons_self), ih fun d hd => h d (List.mem_cons_of_mem _ hd)]
    rfl

theorem pinnedIf_escape : pinnedIf b ('\\' :: c :: u) = '\\' :: c :: pinnedIf b u := by
  cases b with
  | false => rfl
  | true =>
    show pinFrom .outside ('\\' :: c :: u) = _
    rw [pinFrom, if_neg (by decide), pinFrom, if_neg fun he => nomatch he.1]
    rfl

theorem pinnedIf_dangling : pinnedIf b ['\\'] = ['\\'] := by cases b <;> rfl

theorem pinnedIf_dollar : pinnedIf b ('$' :: u) = (if b then ['\\', 'Z'] else ['$']) ++ pinnedIf b u := by
  cases b with
  | false => rfl
  | true =>
    show pinFrom .outside ('$' :: u) = _
    rw [pinFrom, if_pos ⟨rfl, rfl⟩]
    rfl

theorem pinnedIf_class {k : List Char} (h : passed? .opened k = some .outside) :
    pinnedIf b ('[' :: (k ++ u)) = '[' :: (k ++ pinnedIf b u) := by
  cases b with
  | false => rfl
  | true =>
    show pinFrom .outside ('[' :: (k ++ u)) = _
    rw [pinFrom, if_neg (by decide)]
    exact congrArg ('[' :: ·) (pinFrom_passed h u)

theorem pinnedIf_class_open {k : List Char} {place : Place} (h : passed? .opened k = some place) :
    pinnedIf b ('[' :: k) = '[' :: k := by
  cases b with
  | false => rfl
  | true =>
    have hpinned := pinFrom_passed h []
    rw [List.append_nil, pinFrom, List.append_nil] at hpinned
    show pinFrom .outside ('[' :: k) = _
    rw [pinFrom, if_neg (by decide)]
    exact congrArg ('[' :: ·) hpinned

theorem pinnedIf_passed {cs : List Char} (h : passed? .outside cs = some .outside) :
    pinnedIf b (cs ++ u) = cs ++ pinnedIf b u := by
  cases b with
  | false => rfl
  | true => exact pinFrom_passed h u

/-- A closing parenthesis at the end is no end anchor, wherever the scan is. -/
theorem pinnedIf_append_close : pinnedIf b (u ++ [')']) = pinnedIf b u ++ [')'] := by
  have hpin (place : Place) : pinFrom place (u ++ [')']) = pinFrom place u ++ [')'] := by
    induction u generalizing place with
    | nil => simp [pinFrom]
    | cons c u ih => rw [List.cons_append, pinFrom, pinFrom, ih, List.append_assoc]
  cases b with
  | false => rfl
  | true => exact hpin .outside

/-! ### Beginnings of pinned texts -/

theorem pinnedIf_eq_cons {t : List Char} (hc : Unmarked c) (h : pinnedIf b u = c :: t) :
    ∃ t', u = c :: t' ∧ t = pinnedIf b t' := by
  cases b with
  | false => exact ⟨t, h, rfl⟩
  | true =>
    cases u with
    | nil => cases h
    | cons d u =>
      change pinFrom .outside (d :: u) = _ at h
      rw [pinFrom] at h
      split at h
      · exact absurd (List.cons.inj h).1.symm hc.1
      · obtain ⟨rfl, rfl⟩ := List.cons.inj h
        rw [next_of_unmarked hc]
        exact ⟨u, rfl, rfl⟩

theorem head?_pinnedIf :
    (pinnedIf b u).head? = u.head? ∨ u.head? = some '$' ∧ (pinnedIf b u).head? = some '\\' := by
  cases b with
  | false => exact .inl rfl
  | true =>
    cases u with
    | nil => exact .inl rfl
    | cons c u =>
      show (pinFrom .outside (c :: u)).head? = _ ∨ _ ∧ (pinFrom .outside (c :: u)).head? = _
      rw [pinFrom]
      split
      · next hc => exact .inr ⟨congrArg some hc.2, rfl⟩
      · exact .inl rfl

theorem head?_pinnedIf_ne (h : u.head? ≠ some c) (hc : c ≠ '\\') : (pinnedIf b u).head? ≠ some c := by
  rcases @head?_pinnedIf b u with he | ⟨-, he⟩
  · rw [he]
    exact h
  · rw [he]
    exact fun he => hc (Option.some.inj he).symm

/-- What does not tell an end anchor from a backslash finds the same at the beginning of the pinned text. -/
theorem any_head?_pinnedIf {p : Char → Bool} (hp : p '\\' = p '$') : (pinnedIf b u).head?.any p = u.head?.any p := by
  rcases @head?_pinnedIf b u with he | ⟨hu, he⟩
  · rw [he]
  · rw [he, hu]
    exact hp

/-- A run of characters of a kind at the beginning of a text is the same in the pinned one. -/
theorem takeWhile_pinnedIf {p : Char → Bool} (hp : ∀ c, p c = true → Unmarked c) (hslash : p '\\' = false) :
    (pinnedIf b u).takeWhile p = u.takeWhile p ∧ (pinnedIf b u).dropWhile p = pinnedIf b (u.dropWhile p) := by
  induction u with
  | nil => simp
  | cons c u ih =>
    by_cases hc : p c = true
    · rw [pinnedIf_cons (hp c hc), List.takeWhile_cons_of_pos hc, List.takeWhile_cons_of_pos hc,
        List.dropWhile_cons_of_pos hc, List.dropWhile_cons_of_pos hc, ih.1, ih.2]
      exact ⟨rfl, rfl⟩
    · rw [List.takeWhile_cons_of_neg hc, List.dropWhile_cons_of_neg hc]
      -- a pinned anchor begins with a backslash, at which the run ends too
      have hhead : ∀ d ∈ (pinnedIf b (c :: u)).head?, ¬ p d = true := by
        intro d hd
        rcases @head?_pinnedIf b (c :: u) with he | ⟨-, he⟩
        · rw [he] at hd
          cases hd
          exact hc
        · rw [he] at hd
          cases hd
          rw [hslash]
          exact Bool.false_ne_true
      cases hpin : pinnedIf b (c :: u) with
      | nil => exact ⟨rfl, rfl⟩
      | cons d ds =>
        rw [hpin] at hhead
        have hd := hhead d rfl
        rw [List.takeWhile_cons_of_neg hd, List.dropWhile_cons_of_neg hd]
        exact ⟨rfl, rfl⟩

end Pinned

end SqlRegexp.PatternText
