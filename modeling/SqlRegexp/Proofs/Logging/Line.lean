import Mathlib.Tactic.Common
import SqlRegexp.Logging.Record

/-!
The lines of the console.

A template is filled in from left to right: text without per cent signs stays as it is, and a name in parentheses gives
way to the part that it names. The version of the program stands in the template, so that **a line is composed as it
should be if the version has no per cent sign** (`consoleLine_eq`); with one, a line may not be composed at all.
-/

namespace SqlRegexp.Logging

open SqlRegexp.Text SqlRegexp.Time

namespace Template

variable {part? : List Char → Option Part} {size limit : Nat} {cs : List Char}

theorem fillFrom_nil : fillFrom part? size limit [] = .ok [] := by
  cases limit <;> rfl

theorem fillFrom_cons {c : Char} (hc : c ≠ '%') :
    fillFrom part? size (limit + 1) (c :: cs) = (fillFrom part? size limit cs).map (c :: ·) := by
  rw [fillFrom, if_neg hc]
  cases fillFrom part? size limit cs <;> rfl

/-- Text without per cent signs stays as it is. -/
theorem fillFrom_append {u : List Char} (hu : '%' ∉ u) :
    fillFrom part? size (u.length + limit) (u ++ cs) = (fillFrom part? size limit cs).map (u ++ ·) := by
  induction u with
  | nil =>
    rw [List.length_nil, Nat.zero_add, List.nil_append]
    cases fillFrom part? size limit cs <;> rfl
  | cons c u ih =>
    rw [List.mem_cons, not_or] at hu
    rw [List.length_cons, Nat.add_right_comm, List.cons_append, fillFrom_cons (Ne.symm hu.1), ih hu.2]
    cases fillFrom part? size limit cs <;> rfl

/-- A name without parentheses ends at the first one. -/
theorem splitName?_append {name : List Char} (hopen : '(' ∉ name) (hclose : ')' ∉ name) :
    splitName? 0 (name ++ ')' :: cs) = some (name, cs) := by
  induction name with
  | nil => rfl
  | cons c name ih =>
    rw [List.mem_cons, not_or] at hopen hclose
    rw [List.cons_append, splitName?, if_neg (Ne.symm hclose.1), if_neg (Ne.symm hopen.1), ih hopen.2 hclose.2]
    rfl

theorem convert_part {name text : List Char} {p : Part} (hopen : '(' ∉ name) (hclose : ')' ∉ name)
    (hpart : part? name = some p) (hplain : p.plain = .ok text) :
    convert part? size ('(' :: (name ++ ')' :: 's' :: cs)) = .ok (text, cs) := by
  have hname : readName part? ('(' :: (name ++ ')' :: 's' :: cs)) = .ok ⟨'s' :: cs, some p⟩ := by
    rw [readName, splitName?_append hopen hclose]
    dsimp only
    rw [hpart]
  have happly (index : Nat) : Conversion.apply {} 's' index p = .ok text := by
    show Conversion.setShown {} <$> p.plain = _
    rw [hplain]
    show Except.ok (List.replicate (0 - text.length) ' ' ++ text) = _
    rw [Nat.zero_sub]
    rfl
  rw [convert, hname]
  show (Conversion.apply {} 's' _ p >>= fun shown => pure (shown, cs)) = _
  rw [happly]
  rfl

/-- A name in parentheses gives way to the part that it names. -/
theorem fillFrom_part {name text : List Char} {p : Part} (hopen : '(' ∉ name) (hclose : ')' ∉ name)
    (hpart : part? name = some p) (hplain : p.plain = .ok text) :
    fillFrom part? size (limit + 1) ('%' :: '(' :: (name ++ ')' :: 's' :: cs)) =
      (fillFrom part? size limit cs).map (text ++ ·) := by
  rw [fillFrom, if_pos rfl]
  have hsign : afterSign part? size ('(' :: (name ++ ')' :: 's' :: cs)) = .ok (text, cs) :=
    convert_part hopen hclose hpart hplain
  rw [hsign]
  show (fillFrom part? size limit cs >>= fun filled => pure (text ++ filled)) = _
  cases fillFrom part? size limit cs <;> rfl

end Template

namespace Record

open Template

/-- The line of a record on the console: the moment, the version of the program, and the message. -/
def consoleText (r : Record) (version : List Char) : List Char :=
  r.withTraces (r.created.stamp momentFormat ++ " | OraRegex - ".toList ++ version ++ " | ".toList ++ r.message)

/-- **The line of a version without per cent signs is composed.** -/
theorem consoleLine_eq {version : List Char} (h : '%' ∉ version) (r : Record) :
    r.consoleLine version = .ok (r.consoleText version) := by
  obtain ⟨between, hbetween⟩ : ∃ u, u = " | OraRegex - ".toList ++ version ++ " | ".toList := ⟨_, rfl⟩
  have hsigns : '%' ∉ between := by
    have hfirst : '%' ∉ " | OraRegex - ".toList := by decide
    have hlast : '%' ∉ " | ".toList := by decide
    rw [hbetween, List.mem_append, List.mem_append]
    exact fun hmem => hmem.elim (fun hmem => hmem.elim hfirst h) hlast
  have htemplate : consoleTemplate version = '%' :: '(' :: ("asctime".toList ++ (')' :: 's' :: (between ++
      ('%' :: '(' :: ("message".toList ++ [')', 's']))))) := by
    have hfirst : "%(asctime)s | OraRegex - ".toList =
        '%' :: '(' :: ("asctime".toList ++ (')' :: 's' :: " | OraRegex - ".toList)) := rfl
    have hlast : " | %(message)s".toList = " | ".toList ++ ('%' :: '(' :: ("message".toList ++ [')', 's'])) := rfl
    show "%(asctime)s | OraRegex - ".toList ++ version ++ " | %(message)s".toList = _
    simp only [hfirst, hlast, hbetween, List.cons_append, List.append_assoc]
  -- one round for each of the two parts and each character between them, and some to spare
  have hlimit : (consoleTemplate version).length = between.length + (20 + 1) + 1 := by
    rw [htemplate]
    simp
  have hmoment : r.part? "asctime".toList = some (.text (r.created.stamp momentFormat)) := rfl
  have hmessage : r.part? "message".toList = some (.text r.message) := rfl
  rw [consoleLine, fill, hlimit, htemplate, fillFrom_part (by decide) (by decide) hmoment rfl, fillFrom_append hsigns,
    fillFrom_part (by decide) (by decide) hmessage rfl, fillFrom_nil]
  simp [Except.map, Functor.map, consoleText, hbetween]

end Record

end SqlRegexp.Logging
