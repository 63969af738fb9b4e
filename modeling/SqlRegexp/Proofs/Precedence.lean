import SqlRegexp.Dialect.Call
import SqlRegexp.Proofs.Failures

/-!
Which failure of a call comes first.

A function checks its numbers in their order (`Function.numbers`), then looks whether a text is missing, and only then
reads letters and patterns. `checkAll` is the first of these steps, `AfterChecks` says of a result that it comes behind
them, and `Function.Proceeds` what it is then. `Function.afterChecks` is that every call is made like this, and
`failure_precedence` puts its cases in their order.
-/

namespace SqlRegexp

/-! ### One number -/

namespace Argument

/-- A value that an argument takes: null, which stands for its default, or a whole number in its range. -/
def Takes (a : Argument) (v : Value) : Prop := v = .null ∨ ∃ n, v = .integer n ∧ a.admits n = true

/-- Why an argument does not take a value: it is out of range, or no whole number. -/
def refusal (a : Argument) : Value → ArgumentError
  | .integer _ => .outOfRange a
  | v => .notInteger a v.kindName

/-- Null stands for the default, which is in the range of its argument. -/
theorem checkOptional_null (a : Argument) : a.checkOptional .null = a.checkOptional (.integer a.default) := by
  cases a <;> rfl

theorem exists_of_takes {a : Argument} {v : Value} (h : a.Takes v) : ∃ n, a.checkOptional v = .ok n := by
  rcases h with rfl | ⟨n, rfl, hn⟩
  · exact ⟨_, rfl⟩
  · exact ⟨n.toNat, if_pos hn⟩

theorem checkOptional_of_not_takes {a : Argument} {v : Value} (h : ¬ a.Takes v) :
    a.checkOptional v = .error (a.refusal v) := by
  cases v with
  | null => exact absurd (.inl rfl) h
  | integer n => exact if_neg fun hn => h (.inr ⟨n, rfl, hn⟩)
  | _ => rfl

/-- What a check gives passes the check again. -/
theorem check_of_checkOptional {a : Argument} {v : Value} {n : Nat} (h : a.checkOptional v = .ok n) :
    a.check (.integer n) = .ok n := by
  have admits_of_check : ∀ {i : Int}, a.check (.integer i) = .ok n → a.admits i = true ∧ i.toNat = n := by
    intro i hi
    by_cases hadmits : a.admits i = true
    · exact ⟨hadmits, Except.ok.inj ((if_pos hadmits).symm.trans hi)⟩
    · exact absurd ((if_neg hadmits).symm.trans hi) (by simp)
  have hadmits : ∃ i, a.admits i = true ∧ i.toNat = n := by
    cases v with
    | null =>
      rw [checkOptional_null] at h
      exact ⟨_, admits_of_check h⟩
    | integer i => exact ⟨i, admits_of_check h⟩
    | _ => cases h
  obtain ⟨i, hi, rfl⟩ := hadmits
  -- a number in a range is not negative
  have hnonneg : 0 ≤ i := by
    cases a <;> simp [admits] at hi <;> omega
  rw [Int.toNat_of_nonneg hnonneg]
  exact if_pos hi

end Argument

/-- A check ends with a number that the argument takes, or with why it does not take the value. -/
theorem checked_result (a : Argument) (v : Value) :
    (∃ n, a.Takes v ∧ (checked a v).result = .ok n) ∨
      (¬ a.Takes v ∧ (checked a v).result = .error (.argument (a.refusal v))) := by
  by_cases h : a.Takes v
  · obtain ⟨n, hn⟩ := Argument.exists_of_takes h
    exact .inl ⟨n, h, by rw [checked, Narrated.result_ofResult, hn]; rfl⟩
  · exact .inr ⟨h, by rw [checked, Narrated.result_ofResult, Argument.checkOptional_of_not_takes h]; rfl⟩

theorem checked_null (a : Argument) : checked a .null = checked a (.integer a.default) := by
  rw [checked, a.checkOptional_null]
  rfl

/-- A request of numbers that have been checked is never refused. -/
theorem Request.check_of_checkOptional (subject pattern : Option (List Char)) (mode : Mode) {v v' v'' : Value}
    {position occurrence group : Nat} (hposition : Argument.position.checkOptional v = .ok position)
    (hoccurrence : Argument.occurrence.checkOptional v' = .ok occurrence)
    (hgroup : Argument.group.checkOptional v'' = .ok group) :
    Request.check subject pattern (.integer position) (.integer occurrence) (.integer group) mode =
      .ok ⟨subject, pattern, position, occurrence, group, mode⟩ := by
  unfold Request.check
  rw [Argument.check_of_checkOptional hposition, Argument.check_of_checkOptional hoccurrence,
    Argument.check_of_checkOptional hgroup]
  rfl

/-! ### All numbers of a function -/

/-- Checks the numbers for some arguments, one after the other. -/
def checkAll (number : Argument → Value) : List Argument → Except CallError Unit
  | [] => .ok ()
  | a :: as => (checked a (number a)).result.bind fun _ => checkAll number as

theorem checkAll_ok_iff {number : Argument → Value} {as : List Argument} :
    checkAll number as = .ok () ↔ ∀ a ∈ as, a.Takes (number a) := by
  induction as with
  | nil => exact ⟨fun _ _ h => (nomatch h), fun _ => rfl⟩
  | cons a as ih =>
    rw [checkAll, List.forall_mem_cons]
    rcases checked_result a (number a) with ⟨n, htakes, hn⟩ | ⟨hrefused, he⟩
    · rw [hn]
      exact ih.trans (and_iff_right htakes).symm
    · rw [he]
      exact ⟨fun h => (nomatch h), fun h => absurd h.1 hrefused⟩

/-- The first number that is refused decides. -/
theorem checkAll_append_cons {number : Argument → Value} {before after : List Argument} {a : Argument}
    (hbefore : ∀ b ∈ before, b.Takes (number b)) (ha : ¬ a.Takes (number a)) :
    checkAll number (before ++ a :: after) = .error (.argument (a.refusal (number a))) := by
  induction before with
  | nil =>
    rw [List.nil_append, checkAll]
    rcases checked_result a (number a) with ⟨n, htakes, -⟩ | ⟨-, he⟩
    · exact absurd htakes ha
    · rw [he]
      rfl
  | cons b before ih =>
    obtain ⟨hb, hbefore⟩ := List.forall_mem_cons.mp hbefore
    rw [List.cons_append, checkAll]
    rcases checked_result b (number b) with ⟨n, -, hn⟩ | ⟨hrefused, -⟩
    · rw [hn]
      exact ih hbefore
    · exact absurd hb hrefused

theorem exists_of_checkAll_error {number : Argument → Value} {as : List Argument} {e : CallError}
    (h : checkAll number as = .error e) :
    ∃ a ∈ as, ¬ a.Takes (number a) ∧ e = .argument (a.refusal (number a)) := by
  induction as with
  | nil => cases h
  | cons a as ih =>
    rw [checkAll] at h
    rcases checked_result a (number a) with ⟨n, -, hn⟩ | ⟨hrefused, he⟩
    · rw [hn] at h
      obtain ⟨b, hb, hrefused, he⟩ := ih h
      exact ⟨b, List.mem_cons_of_mem _ hb, hrefused, he⟩
    · rw [he] at h
      exact ⟨a, List.mem_cons_self .., hrefused, (Except.error.inj h).symm⟩

/-- A result that comes after checks: the first of them to fail decides, and `Rest` holds of it if none fails. -/
structure AfterChecks (number : Argument → Value) (as : List Argument) {α : Type} (Rest : Except CallError α → Prop)
    (r : Except CallError α) : Prop where
  refused : ∀ e, checkAll number as = .error e → r = .error e
  passed : checkAll number as = .ok () → Rest r

namespace AfterChecks

variable {number : Argument → Value} {α : Type} {Rest : Except CallError α → Prop}

theorem nil {r : Except CallError α} (h : Rest r) : AfterChecks number [] Rest r :=
  ⟨fun _ he => (nomatch he), fun _ => h⟩

/-- One more check in front. -/
theorem cons {a : Argument} {as : List Argument} {next : Nat → Except CallError α}
    (h : ∀ n, AfterChecks number as Rest (next n)) :
    AfterChecks number (a :: as) Rest ((checked a (number a)).result.bind next) := by
  cases hchecked : (checked a (number a)).result with
  | error e =>
    refine ⟨fun e' he => ?_, fun hok => ?_⟩ <;> rw [checkAll, hchecked] at *
    · cases he
      rfl
    · cases hok
  | ok n =>
    refine ⟨fun e' he => (h n).refused e' ?_, fun hok => (h n).passed ?_⟩ <;> rw [checkAll, hchecked] at *
    · exact he
    · exact hok

/-- A step behind the checks. -/
theorem bind {β : Type} {Rest : Except CallError β → Prop} {as : List Argument} {r : Except CallError α}
    {next : α → Except CallError β} (h : AfterChecks number as (fun r => Rest (r.bind next)) r) :
    AfterChecks number as Rest (r.bind next) := by
  refine ⟨fun e he => ?_, h.passed⟩
  rw [h.refused e he]
  rfl

end AfterChecks

namespace Function

/-- The numbers that a function takes, in the order in which it checks them. -/
def numbers : Function → List Argument
  | like => []
  | count => [.position]
  | instr => [.position, .occurrence, .group, .returnOption]
  | substr => [.position, .occurrence, .group]

/-- The result for a pattern that is not found, and for a text that is missing. -/
def notFound : Function → Value
  | like => .boolean false
  | count | instr => .integer 0
  | substr => .null

/-- How a function fails once its numbers are checked and both texts are there. -/
def Fails : Function → CallError → Prop
  | like, e => CompilingFails e
  | count, e => CompilingFails e ∨ e = .endless
  | instr, e | substr, e => LocatingFails e

/-- A result of a function whose numbers are in order. -/
structure Proceeds (f : Function) (subject pattern : Option (List Char)) (r : Except CallError Value) : Prop where
  missing : subject = none ∨ pattern = none → r = .ok f.notFound
  fails : ∀ e, r = .error e → f.Fails e

/-- A text, or null for want of one. -/
def textOrNull (t : Option (List Char)) : Value := t.elim .null .text

/-- The values of a call: three texts, each of which may be missing, and any values for the numbers. -/
def valuesOf (subject pattern flags : Option (List Char)) (number : Argument → Value) : Parameter → Value
  | .subject => textOrNull subject
  | .pattern => textOrNull pattern
  | .flags => textOrNull flags
  | .position => number .position
  | .occurrence => number .occurrence
  | .group => number .group
  | .returnOption => number .returnOption

@[simp] theorem text?_textOrNull (t : Option (List Char)) : (textOrNull t).text? = t := by
  cases t <;> rfl

theorem Fails.not_argument {f : Function} {e : CallError} (h : f.Fails e) (x : ArgumentError) : e ≠ .argument x := by
  have not_compiling : ∀ {e}, CompilingFails e → e ≠ .argument x := by
    rintro _ (⟨-⟩ | ⟨-⟩) <;> nofun
  have not_locating : ∀ {e}, LocatingFails e → e ≠ .argument x := by
    rintro _ (h | ⟨-⟩ | - | -)
    · exact not_compiling h
    all_goals nofun
  cases f with
  | like => exact not_compiling h
  | count =>
    rcases h with h | rfl
    · exact not_compiling h
    · nofun
  | instr => exact not_locating h
  | substr => exact not_locating h

/-! ### Calls -/

section Call

variable {f : Function} {policy : NewlinePolicy} {subject pattern flags : Option (List Char)}
  {number : Argument → Value} {e : CallError}

/-- A number that is left out has its default. -/
theorem apply_of_default [Engine] {number' : Argument → Value}
    (h : ∀ a, number' a = number a ∨ number a = .null ∧ number' a = .integer a.default) :
    f.apply policy (valuesOf subject pattern flags number') =
      f.apply policy (valuesOf subject pattern flags number) := by
  have hchecked : ∀ a, checked a (number' a) = checked a (number a) := by
    intro a
    rcases h a with heq | ⟨hnull, hdefault⟩
    · rw [heq]
    · rw [hnull, hdefault, checked_null]
  cases f with
  | like => rfl
  | count => simp only [apply, SqlRegexp.count, valuesOf, hchecked]
  | instr => simp only [apply, SqlRegexp.instr, valuesOf, hchecked]
  | substr => simp only [apply, SqlRegexp.substr, valuesOf, hchecked]

theorem proceeds_like [Engine] : like.Proceeds subject pattern
    (like.apply policy (valuesOf subject pattern flags number)).result := by
  rw [apply]
  simp only [valuesOf, text?_textOrNull]
  cases subject with
  | none => exact ⟨fun _ => rfl, fun e h => (nomatch h)⟩
  | some subject =>
    cases pattern with
    | none => exact ⟨fun _ => rfl, fun e h => (nomatch h)⟩
    | some given =>
      refine ⟨fun h => by simp at h, fun e h => ?_⟩
      simp only [SqlRegexp.like, Narrated.result_bind, Narrated.result_tell] at h
      rcases error_of_bind h with h | ⟨b, -, h⟩
      · rcases error_of_bind h with h | ⟨-, -, h⟩
        · cases h
        · rcases error_of_bind h with h | ⟨p, -, h⟩
          · exact Mode.compilingFails h
          · cases h
      · cases h

/-- What is located is read as a value. -/
theorem proceeds_of_locate [LawfulEngine] (hf : f = instr ∨ f = substr) {α : Type} {read : Option SubjectSpan → α}
    {next : α → Except CallError Value} (hnext : ∀ a, ∃ v, next a = .ok v) (hnone : next (read none) = .ok f.notFound)
    {request : Request} (hsubject : request.subject = subject) (hpattern : request.pattern = pattern) :
    f.Proceeds subject pattern (((locate request).result.map read).bind next) := by
  refine ⟨fun h => ?_, fun e h => ?_⟩
  · rw [locate_result_of_null (hsubject ▸ hpattern ▸ h), ← hnone]
    rfl
  · cases hlocate : (locate request).result with
    | ok found =>
      rw [hlocate] at h
      obtain ⟨v, hv⟩ := hnext (read found)
      exact (nomatch hv.symm.trans h)
    | error e' =>
      rw [hlocate] at h
      cases h
      rcases hf with rfl | rfl
      all_goals exact locate_fails hlocate

/-- **The checks of a call come first.** After them comes the look at the texts, and everything else after that. -/
theorem afterChecks [LawfulEngine] (f : Function) (policy : NewlinePolicy) (subject pattern flags : Option (List Char))
    (number : Argument → Value) :
    AfterChecks number f.numbers (f.Proceeds subject pattern)
      (f.apply policy (valuesOf subject pattern flags number)).result := by
  cases f with
  | like => exact .nil proceeds_like
  | count =>
    rw [apply]
    simp only [valuesOf, text?_textOrNull]
    rw [Narrated.result_bind, SqlRegexp.count, Narrated.result_bind]
    refine .bind (.cons fun position => .nil ⟨?_, fun e h => ?_⟩)
    · rintro (rfl | rfl)
      · rfl
      · cases subject <;> rfl
    · cases subject with
      | none => cases h
      | some subject =>
        cases pattern with
        | none => cases h
        | some given =>
          rcases error_of_bind h with h | ⟨n, -, h⟩
          · dsimp only at h
            rw [Narrated.result_bind_of_ok (Narrated.result_tell _), Narrated.result_bind] at h
            rcases error_of_bind h with h | ⟨p, -, h⟩
            · exact .inl (Mode.compilingFails h)
            · split at h
              · cases h
              · cases h
                exact .inr rfl
          · cases h
  | instr =>
    rw [apply]
    simp only [valuesOf, text?_textOrNull]
    rw [Narrated.result_bind, instr_result]
    refine .bind (.cons fun position => .cons fun occurrence => .cons fun group => .cons fun returnOption => .nil ?_)
    exact proceeds_of_locate (.inl rfl) (fun n => ⟨_, rfl⟩) (by rfl) rfl rfl
  | substr =>
    rw [apply]
    simp only [valuesOf, text?_textOrNull]
    rw [Narrated.result_bind, substr_result]
    refine .bind (.cons fun position => .cons fun occurrence => .cons fun group => .nil ?_)
    refine proceeds_of_locate (.inr rfl) (fun found => ?_) rfl rfl rfl
    cases found with
    | none => exact ⟨_, rfl⟩
    | some cs => exact ⟨_, rfl⟩

end Call

end Function

/-- **Numbers come first, missing texts second.** For every function: a number that is left out has its default; the
first number that is not taken, in the order of `Function.numbers`, decides whatever the texts and letters are; with all
numbers taken and a text missing, nothing is found, whatever the letters and the other text are; and a call fails only
at such a number, or for another reason, with numbers that are all taken and both texts. -/
theorem failure_precedence [LawfulEngine] (f : Function) (policy : NewlinePolicy)
    (subject pattern flags : Option (List Char)) (number : Argument → Value) :
    let result := (f.apply policy (Function.valuesOf subject pattern flags number)).result
    (∀ number', (∀ a, number' a = number a ∨ number a = .null ∧ number' a = .integer a.default) →
      (f.apply policy (Function.valuesOf subject pattern flags number')).result = result) ∧
    (∀ before a after, f.numbers = before ++ a :: after → (∀ b ∈ before, b.Takes (number b)) →
      ¬ a.Takes (number a) → result = .error (.argument (a.refusal (number a)))) ∧
    ((∀ a ∈ f.numbers, a.Takes (number a)) → subject = none ∨ pattern = none → result = .ok f.notFound) ∧
    ∀ e, result = .error e →
      (∃ a ∈ f.numbers, ¬ a.Takes (number a) ∧ e = .argument (a.refusal (number a))) ∨
      (∀ a ∈ f.numbers, a.Takes (number a)) ∧ (∃ s p, subject = some s ∧ pattern = some p) ∧
        ∀ x, e ≠ .argument x := by
  intro result
  have hresult := Function.afterChecks f policy subject pattern flags number
  refine ⟨fun number' h => congrArg Narrated.result (Function.apply_of_default h), ?_, fun htakes hmissing => ?_,
    fun e he => ?_⟩
  · intro before a after hnumbers hbefore ha
    exact hresult.refused _ (hnumbers ▸ checkAll_append_cons hbefore ha)
  · exact (hresult.passed (checkAll_ok_iff.mpr htakes)).missing hmissing
  · cases hall : checkAll number f.numbers with
    | error e' =>
      obtain ⟨a, ha, hrefused, rfl⟩ := exists_of_checkAll_error hall
      exact .inl ⟨a, ha, hrefused, (Except.error.inj ((hresult.refused _ hall).symm.trans he)).symm⟩
    | ok =>
      -- all numbers pass, so what fails is what the function does with them
      have hproceeds := hresult.passed hall
      refine .inr ⟨checkAll_ok_iff.mp hall, ?_, (hproceeds.fails e he).not_argument⟩
      cases subject with
      | none => exact (nomatch (hproceeds.missing (.inl rfl)).symm.trans he)
      | some s =>
        cases pattern with
        | none => exact (nomatch (hproceeds.missing (.inr rfl)).symm.trans he)
        | some p => exact ⟨s, p, rfl, rfl⟩

attribute [local instance] Engine.lawfulReference in
/-- Of an occurrence and a group that are both out of order, the occurrence is reported; and without them, a missing
subject is not found, though the pattern has no sense and the letter no meaning. -/
theorem failure_precedence_occurrence :
    (Function.instr.apply .uniform (Function.valuesOf none (some ['(']) (some ['?']) fun
      | .occurrence => .boolean true
      | .group => .integer (-1)
      | _ => .null)).result = .error (.argument (.notInteger .occurrence "bool")) ∧
    (Function.instr.apply .uniform (Function.valuesOf none (some ['(']) (some ['?']) fun _ => .null)).result =
      .ok (.integer 0) := by
  constructor
  · refine (failure_precedence .instr .uniform none (some ['(']) (some ['?']) _).2.1 [.position] .occurrence
      [.group, .returnOption] rfl ?_ ?_
    · intro b hb
      cases List.mem_singleton.mp hb
      exact .inl rfl
    · rintro (h | ⟨n, h, -⟩) <;> cases h
  · exact (failure_precedence .instr .uniform none (some ['(']) (some ['?']) _).2.2.1 (fun _ _ => .inl rfl) (.inl rfl)

end SqlRegexp
