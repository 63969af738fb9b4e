import Mathlib.Tactic.Common
import SqlRegexp.Pattern.Reader

/-!
Running the steps of a reader.

Every elementary step has an equation, which says what it gives and what is left to read. The equations of steps that
always succeed come in the form of a step that is followed by others (`run_next_bind` and its like), and simplification
runs through them; `run_bind_of_ok` and `run_bind_of_error` are for all other steps.
-/

namespace SqlRegexp.Pattern

open SqlRegexp.Text SqlRegexp.Unicode

namespace Source

/-- The source with something else left to read. -/
def leaving (s : Source) (rest : List Char) : Source := { s with rest := rest }

section Leaving

variable (s : Source) (cs ds : List Char)

@[simp] theorem leaving_rest : (s.leaving cs).rest = cs := rfl

@[simp] theorem leaving_leaving : (s.leaving cs).leaving ds = s.leaving ds := rfl

@[simp] theorem leaving_self : s.leaving s.rest = s := rfl

@[simp] theorem leaving_total : (s.leaving cs).total = s.total := rfl

@[simp] theorem leaving_skipping : (s.leaving cs).skipping = s.skipping := rfl

@[simp] theorem leaving_options : (s.leaving cs).options = s.options := rfl

@[simp] theorem leaving_globals : (s.leaving cs).globals = s.globals := rfl

@[simp] theorem leaving_groupCount : (s.leaving cs).groupCount = s.groupCount := rfl

@[simp] theorem leaving_names : (s.leaving cs).names = s.names := rfl

@[simp] theorem leaving_opened : (s.leaving cs).opened = s.opened := rfl

@[simp] theorem leaving_openings : (s.leaving cs).openings = s.openings := rfl

end Leaving

/-- A text without the blanks and comments at its front, where these are ignored. -/
def seen (skipping : Bool) (cs : List Char) : List Char := if skipping then skipIgnored false cs else cs

/-- The characters that pass a test at the front of a text, and what follows them. -/
def taken (skipping : Bool) (p : Char → Bool) (cs : List Char) : List Char × List Char :=
  if skipping then gather p false cs else (cs.takeWhile p, cs.dropWhile p)

theorem visible_eq (s : Source) : s.visible = seen s.skipping s.rest := rfl

@[simp] theorem leaving_visible (s : Source) (cs : List Char) : (s.leaving cs).visible = seen s.skipping cs := rfl

end Source

namespace Reading

variable {α β : Type}

theorem run_bind (r : Reading α) (k : α → Reading β) (s : Source) :
    (r >>= k).run s = r.run s >>= fun p => (k p.1).run p.2 := rfl

theorem run_bind_of_ok {r : Reading α} {s t : Source} {a : α} (h : r.run s = .ok (a, t)) (k : α → Reading β) :
    (r >>= k).run s = (k a).run t := by
  rw [run_bind, h]
  rfl

theorem run_bind_of_error {r : Reading α} {s : Source} {e : Refusal} (h : r.run s = .error e) (k : α → Reading β) :
    (r >>= k).run s = .error e := by
  rw [run_bind, h]
  rfl

theorem map_eq_bind (f : α → β) (r : Reading α) : f <$> r = r >>= fun a => pure (f a) :=
  (bind_pure_comp f r).symm

/-! ### Steps that fail -/

@[simp] theorem run_failAt (cause : Cause) (n : Nat) (s : Source) :
    (failAt cause n : Reading α).run s = .error (.malformed cause n) := rfl

@[simp] theorem run_fail (cause : Cause) (s : Source) :
    (fail cause : Reading α).run s = .error (.malformed cause s.pos) := rfl

/-! ### Steps that look at the source or change it -/

section Steps

variable (s : Source)

@[simp] theorem run_get_bind (k : Source → Reading β) : (get >>= k).run s = (k s).run s := rfl

@[simp] theorem run_modify_bind (f : Source → Source) (k : PUnit → Reading β) :
    (modify f >>= k).run s = (k ⟨⟩).run (f s) := rfl

@[simp] theorem run_pos_bind (k : Nat → Reading β) : (pos >>= k).run s = (k s.pos).run s := rfl

@[simp] theorem run_casing_bind (k : Casing → Reading β) : (casing >>= k).run s = (k s.options.casing).run s := rfl

@[simp] theorem run_mark_bind (k : List Char → Reading β) : (mark >>= k).run s = (k s.rest).run s := rfl

@[simp] theorem run_rewind_bind (cs : List Char) (k : Unit → Reading β) :
    (rewind cs >>= k).run s = (k ()).run (s.leaving cs) := rfl

@[simp] theorem run_setOptions_bind (o : Options) (k : Unit → Reading β) :
    (setOptions o >>= k).run s = (k ()).run { s with options := o, skipping := o.verbose } := rfl

@[simp] theorem run_closeGroup_bind (k : Unit → Reading β) :
    (closeGroup >>= k).run s = (k ()).run { s with opened := s.opened.tail } := rfl

/-! ### Steps that read characters -/

theorem run_nextRaw : nextRaw.run s = .ok (s.rest.head?, s.leaving s.rest.tail) := by
  cases s with
  | mk rest => cases rest <;> rfl

@[simp] theorem run_nextRaw_bind (k : Option Char → Reading β) :
    (nextRaw >>= k).run s = (k s.rest.head?).run (s.leaving s.rest.tail) := run_bind_of_ok (run_nextRaw s) k

theorem run_next : next.run s = .ok (s.visible.head?, s.leaving s.visible.tail) := by
  unfold next
  rw [run_get_bind]
  cases s.visible <;> rfl

@[simp] theorem run_next_bind (k : Option Char → Reading β) :
    (next >>= k).run s = (k s.visible.head?).run (s.leaving s.visible.tail) := run_bind_of_ok (run_next s) k

/-- Reading the next character where it is known. -/
theorem run_next_bind_of_cons {s : Source} {c : Char} {cs : List Char} (h : s.visible = c :: cs)
    (k : Option Char → Reading β) : (next >>= k).run s = (k (some c)).run (s.leaving cs) := by
  rw [run_next_bind, h, List.head?_cons, List.tail_cons]

@[simp] theorem run_peek_bind (k : Option Char → Reading β) : (peek >>= k).run s = (k s.visible.head?).run s := rfl

theorem run_accept (cs : List Char) :
    (accept cs).run s =
      if cs.isPrefixOf s.visible then .ok (true, s.leaving (s.visible.drop cs.length)) else .ok (false, s) := by
  unfold accept
  rw [run_get_bind]
  dsimp only
  split <;> rfl

@[simp] theorem run_accept_bind (cs : List Char) (k : Bool → Reading β) :
    (accept cs >>= k).run s =
      if cs.isPrefixOf s.visible then (k true).run (s.leaving (s.visible.drop cs.length)) else (k false).run s := by
  rw [run_bind, run_accept]
  split <;> rfl

theorem run_acceptChar (c : Char) :
    (acceptChar c).run s =
      if s.visible.head? = some c then .ok (true, s.leaving s.visible.tail) else .ok (false, s) := by
  rw [acceptChar, run_accept]
  cases s.visible with
  | nil => rfl
  | cons d ds =>
    by_cases h : d = c
    · simp [List.isPrefixOf, h]
    · simp [List.isPrefixOf, h, Ne.symm h]

@[simp] theorem run_acceptChar_bind (c : Char) (k : Bool → Reading β) :
    (acceptChar c >>= k).run s =
      if s.visible.head? = some c then (k true).run (s.leaving s.visible.tail) else (k false).run s := by
  rw [run_bind, run_acceptChar]
  split <;> rfl

theorem run_expect (c : Char) :
    (expect c).run s =
      if s.visible.head? = some c then .ok ((), s.leaving s.visible.tail)
      else .error (.malformed (.missing c) s.pos) := by
  unfold expect
  rw [run_acceptChar_bind]
  split <;> rfl

@[simp] theorem run_expect_bind (c : Char) (k : Unit → Reading β) :
    (expect c >>= k).run s =
      if s.visible.head? = some c then (k ()).run (s.leaving s.visible.tail)
      else .error (.malformed (.missing c) s.pos) := by
  rw [run_bind, run_expect]
  split <;> rfl

theorem run_takeWhile (p : Char → Bool) :
    (takeWhile p).run s =
      .ok ((Source.taken s.skipping p s.rest).1, s.leaving (Source.taken s.skipping p s.rest).2) := by
  unfold takeWhile Source.taken
  rw [run_get_bind]
  dsimp only
  split <;> rfl

@[simp] theorem run_takeWhile_bind (p : Char → Bool) (k : List Char → Reading β) :
    (takeWhile p >>= k).run s =
      (k (Source.taken s.skipping p s.rest).1).run (s.leaving (Source.taken s.skipping p s.rest).2) :=
  run_bind_of_ok (run_takeWhile s p) k

@[simp] theorem run_takeWhileRaw_bind (p : Char → Bool) (k : List Char → Reading β) :
    (takeWhileRaw p >>= k).run s = (k (s.rest.takeWhile p)).run (s.leaving (s.rest.dropWhile p)) := rfl

theorem run_verbatim_next : (verbatim next).run s = .ok (s.rest.head?, s.leaving s.rest.tail) := by
  cases s with
  | mk rest => cases rest <;> rfl

@[simp] theorem run_verbatim_next_bind (k : Option Char → Reading β) :
    (verbatim next >>= k).run s = (k s.rest.head?).run (s.leaving s.rest.tail) := run_bind_of_ok (run_verbatim_next s) k

end Steps

end Reading

end SqlRegexp.Pattern
