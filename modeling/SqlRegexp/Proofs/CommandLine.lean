import SqlRegexp.CommandLine.Run
import SqlRegexp.Proofs.Precedence

/-!
How a run of a command that calls a function ends.

The settings are read (`settingsIn`), then the function is called. `run_call` follows a run to its end: either there
are settings and a value, and the value is printed, or nothing is printed and the run ends with the exit code for
what keeps a command from its work, but for failures that the program does not foresee. These are the stray faults of
a settings file, unless they are of a kind with others that are foreseen, and, in a call, the failures that `Unforeseen`
lists; each of them ends a run without an exit code.
-/

namespace SqlRegexp

/-- Refusing a pattern does not change what the others find. -/
@[reducible] def LawfulEngine.refusingEmpty [LawfulEngine] : LawfulEngine where
  toEngine := Engine.refusingEmpty
  search_within := LawfulEngine.search_within
  matchAt_within := LawfulEngine.matchAt_within

namespace Function

/-- The numbers among the values. -/
def numbersOf (value : Parameter → Value) : Argument → Value
  | .position => value .position
  | .occurrence => value .occurrence
  | .group => value .group
  | .returnOption => value .returnOption

/-- A function makes use of the texts among the first three values, and of the numbers as they are. -/
theorem apply_eq_valuesOf [Engine] (f : Function) (policy : NewlinePolicy) (value : Parameter → Value) :
    ∃ number, f.apply policy value = f.apply policy
      (valuesOf (value .subject).text? (value .pattern).text? (value .flags).text? number) := by
  refine ⟨numbersOf value, ?_⟩
  unfold apply
  simp only [valuesOf, numbersOf, text?_textOrNull]

/-- A call fails at an argument, or as its function does. -/
theorem fails_of_apply [LawfulEngine] {f : Function} {policy : NewlinePolicy} {value : Parameter → Value} {e : CallError}
    (h : (f.apply policy value).result = .error e) : (∃ x, e = .argument x) ∨ f.Fails e := by
  obtain ⟨number, hvalues⟩ := f.apply_eq_valuesOf policy value
  rw [hvalues] at h
  have hresult := f.afterChecks policy (value .subject).text? (value .pattern).text? (value .flags).text? number
  cases hall : checkAll number f.numbers with
  | error e' =>
    obtain ⟨a, -, -, rfl⟩ := exists_of_checkAll_error hall
    exact .inl ⟨_, (Except.error.inj ((hresult.refused _ hall).symm.trans h)).symm⟩
  | ok => exact .inr ((hresult.passed hall).fails e h)

/-- The same if the pattern is a list, since an engine that refuses one pattern is lawful too. -/
theorem fails_of_applyListed [LawfulEngine] {f : Function} {policy : NewlinePolicy} {value : Parameter → Value}
    {e : CallError} (h : (f.applyListed policy value).2.result = .error e) : (∃ x, e = .argument x) ∨ f.Fails e := by
  unfold applyListed at h
  split at h
  · dsimp only at h
    split at h
    · exact fails_of_apply h
    · exact @fails_of_apply LawfulEngine.refusingEmpty _ _ _ _ h
  · exact fails_of_apply h

end Function

namespace CommandLine

open SqlRegexp.Files SqlRegexp.Pattern SqlRegexp.Text

/-! ### Settings -/

/-- The settings in the file that is given or found, which is read once the log tells so; the usual ones if there is
none. -/
def settingsIn [Yaml.Reader] (o : Logging.Occasion) (config : Option (List Char)) (s : Logging.State) :
    Except LoadError Settings :=
  match settingsPath s.files config with
  | .error f => .error (.stray f)
  | .ok none => .ok {}
  | .ok (some path) =>
    Settings.load (tellLoading o path s).files path

/-- Only a stray fault of a kind that is not foreseen leaves a run without an exit code. -/
theorem endingWithout_eq_crash_iff {e : LoadError} {c : Crash} :
    endingWithout e = .crash c ↔ ∃ x, e = .stray x ∧ x.kindName ∉ foreseenKinds ∧ c = .load x := by
  cases e with
  | stray x =>
    rw [endingWithout]
    by_cases h : x.kindName ∈ foreseenKinds
    · rw [if_pos (List.contains_iff_mem.mpr h)]
      refine iff_of_false (fun h => nomatch h) ?_
      rintro ⟨y, hy, hnot, -⟩
      cases hy
      exact hnot h
    · rw [if_neg fun hmem => h (List.contains_iff_mem.mp hmem)]
      simp [h, eq_comm]
  | _ => exact iff_of_false (fun h => nomatch h) fun ⟨x, h, _⟩ => nomatch h

theorem endingWithout_or (e : LoadError) : endingWithout e = .exit unusable ∨ ∃ c, endingWithout e = .crash c := by
  cases e with
  | stray x =>
    rw [endingWithout]
    split
    · exact .inl rfl
    · exact .inr ⟨_, rfl⟩
  | _ => exact .inl rfl

theorem settingsFor_snd [Yaml.Reader] (o : Logging.Occasion) (config : Option (List Char)) (s : Logging.State) :
    (settingsFor o config s).2 = (settingsIn o config s).mapError endingWithout := by
  unfold settingsFor settingsIn
  cases settingsPath s.files config with
  | error f => rfl
  | ok path =>
    cases path with
    | none => rfl
    | some path =>
      dsimp only
      cases Settings.load (tellLoading o path s).files path with
      | ok settings => rfl
      | error e => rfl

/-! ### Calls -/

/-- The failures that the program does not foresee, among those that the steps of a call can have. -/
inductive Unforeseen : Function → CallError → Prop
  /-- The engine does not compile the pattern, and not because it is malformed. -/
  | engine (f : Function) (kind message : String) : Unforeseen f (.pattern (.other kind message))
  /-- The walk through the matches has no end. -/
  | endless : Unforeseen .count .endless
  /-- Such digits stand in a reference whose number is to be raised, or the number becomes too large. -/
  | raised {f : Function} (hf : f = .instr ∨ f = .substr) (e : NumeralError) : Unforeseen f (.numeral e)
  /-- The group around the whole pattern has taken no part in the match. -/
  | unmatched {f : Function} (hf : f = .instr ∨ f = .substr) : Unforeseen f (.span (.startTooSmall 0))
  /-- There is no group around the whole pattern. -/
  | missing {f : Function} (hf : f = .instr ∨ f = .substr) : Unforeseen f (.span .noSuchGroup)

theorem Unforeseen.failureMessage? {f : Function} {e : CallError} (h : Unforeseen f e) : failureMessage? e = none := by
  cases h <;> rfl

theorem unforeseen_of_compilingFails {e : CallError} (h : CompilingFails e) (hmessage : failureMessage? e = none)
    (f : Function) : Unforeseen f e := by
  cases h with
  | letter l => cases hmessage
  | pattern c =>
    cases c with
    | malformed m => cases hmessage
    | other kind m => exact .engine f kind m

theorem unforeseen_of_locatingFails {e : CallError} (h : LocatingFails e) (hmessage : failureMessage? e = none)
    {f : Function} (hf : f = .instr ∨ f = .substr) : Unforeseen f e := by
  cases h with
  | compiling h => exact unforeseen_of_compilingFails h hmessage f
  | numeral e => exact .raised hf e
  | unmatched => exact .unmatched hf
  | missing => exact .missing hf

/-- A call fails in a way that has a message, or in one of the ways that are listed. -/
theorem unforeseen_of_apply [LawfulEngine] {f : Function} {policy : NewlinePolicy} {value : Parameter → Value}
    {e : CallError} (h : (f.applyListed policy value).2.result = .error e) (hmessage : failureMessage? e = none) :
    Unforeseen f e := by
  rcases Function.fails_of_applyListed h with ⟨x, rfl⟩ | hfails
  · cases hmessage
  · cases f with
    | like => exact unforeseen_of_compilingFails hfails hmessage .like
    | count =>
      rcases hfails with hfails | rfl
      · exact unforeseen_of_compilingFails hfails hmessage .count
      · exact .endless
    | instr => exact unforeseen_of_locatingFails hfails hmessage (.inl rfl)
    | substr => exact unforeseen_of_locatingFails hfails hmessage (.inr rfl)

/-! ### Runs -/

/-- The state of the log, and of the files, when the settings are looked for. -/
def started (w : Surroundings) (r : Invocation) : Logging.State :=
  Logging.State.setUp { files := w.files } w.version r.debug none w.occasion

/-- What a call of a function comes to: a value, or why there is none. -/
def called [Engine] (settings : Settings) (f : Function) (values : Call.Binding) : Except CallError Value :=
  (f.applyListed settings.policy (Call.valueOf values)).2.result

section

variable {w : Surroundings} {arguments : List (List Char)} {r : Invocation} {f : Function} {values : Call.Binding}

/-- A run comes to an end for want of settings, or as its call does. -/
theorem run_of_call [Engine] [Yaml.Reader] (hr : Invocation.ofArguments arguments = .ok r)
    (hcommand : r.command = some (.call f values)) :
    ∃ s, run w arguments =
      match settingsIn w.occasion r.config (started w r) with
      | .error e => { logging := s, ending := endingWithout e }
      | .ok settings => runCall w.occasion settings f values s := by
  have hsnd := settingsFor_snd w.occasion r.config (started w r)
  unfold run
  rw [hr]
  dsimp only
  rw [hcommand]
  dsimp only
  rw [show Logging.State.setUp { files := w.files } w.version r.debug none w.occasion = started w r from rfl]
  generalize settingsFor w.occasion r.config (started w r) = read at hsnd
  obtain ⟨s, settings⟩ := read
  refine ⟨s, ?_⟩
  subst hsnd
  cases settingsIn w.occasion r.config (started w r) with
  | error e => rfl
  | ok settings => rfl

variable {settings : Settings} (o : Logging.Occasion) (s : Logging.State)

/-- The value of a call is printed. -/
theorem runCall_of_value [Engine] {v : Value} (h : called settings f values = .ok v) :
    let ended := runCall o settings f values s
    ended.complaint = none ∧ ended.ending = .exit success ∧ ended.output = outputLine v.asAnswer := by
  intro ended
  have hresult : (f.applyListed settings.policy (Call.valueOf values)).2.result = .ok v := h
  dsimp only [ended, runCall]
  rw [hresult]
  exact ⟨rfl, rfl, rfl⟩

/-- A call that fails prints nothing, and only what is not foreseen leaves the run without an exit code. -/
theorem runCall_of_failure [LawfulEngine] {e : CallError} (h : called settings f values = .error e) :
    let ended := runCall o settings f values s
    ended.complaint = none ∧ ended.output = [] ∧ (ended.ending = .exit unusable ∨ ∃ c, ended.ending = .crash c) ∧
      ∀ c, ended.ending = .crash c ↔ Unforeseen f e ∧ c = .call e := by
  intro ended
  have hresult : (f.applyListed settings.policy (Call.valueOf values)).2.result = .error e := h
  dsimp only [ended, runCall]
  rw [hresult]
  dsimp only
  cases hmessage : failureMessage? e with
  | none =>
    have hun : Unforeseen f e := unforeseen_of_apply h hmessage
    refine ⟨rfl, rfl, .inr ⟨_, rfl⟩, fun c => ?_⟩
    constructor
    · rintro ⟨⟩
      exact ⟨hun, rfl⟩
    · rintro ⟨-, rfl⟩
      rfl
  | some told =>
    refine ⟨rfl, rfl, .inl rfl, fun c => ?_⟩
    constructor
    · nofun
    · rintro ⟨hun, -⟩
      rw [hun.failureMessage?] at hmessage
      cases hmessage

end

/-- **How a run of a call ends.** If the settings load and the call has a value, the run prints it and ends with
success. Otherwise it prints nothing, and its exit code says that the command could not do its work, except for a stray
fault of the settings file that is of no foreseen kind and for the failures of `Unforeseen`: those, and no others, end it
without an exit code. -/
theorem run_call [LawfulEngine] [Yaml.Reader] (w : Surroundings) (arguments : List (List Char)) {r : Invocation}
    {f : Function} {values : Call.Binding} (hr : Invocation.ofArguments arguments = .ok r)
    (hcommand : r.command = some (.call f values)) :
    let settings := settingsIn w.occasion r.config (started w r)
    let ended := run w arguments
    ended.complaint = none ∧
    (∀ s v, settings = .ok s → called s f values = .ok v →
      ended.ending = .exit success ∧ ended.output = outputLine v.asAnswer) ∧
    ((∀ s v, settings = .ok s → called s f values ≠ .ok v) →
      ended.output = [] ∧ (ended.ending = .exit unusable ∨ ∃ c, ended.ending = .crash c)) ∧
    ∀ c, ended.ending = .crash c ↔
      (∃ x, settings = .error (.stray x) ∧ x.kindName ∉ foreseenKinds ∧ c = .load x) ∨
      ∃ s e, settings = .ok s ∧ called s f values = .error e ∧ Unforeseen f e ∧ c = .call e := by
  intro settings ended
  obtain ⟨log, hrun⟩ := run_of_call (w := w) hr hcommand
  cases hsettings : settingsIn w.occasion r.config (started w r) with
  | error e =>
    rw [hsettings] at hrun
    simp only [settings, ended, hsettings, hrun]
    refine ⟨trivial, fun s v h => (nomatch h), fun _ => ⟨trivial, endingWithout_or e⟩, fun c => ?_⟩
    rw [endingWithout_eq_crash_iff]
    constructor
    · rintro ⟨x, rfl, hkind, rfl⟩
      exact .inl ⟨x, rfl, hkind, rfl⟩
    · rintro (⟨x, hx, hkind, rfl⟩ | ⟨s, e', h, -⟩)
      · exact ⟨x, Except.error.inj hx, hkind, rfl⟩
      · cases h
  | ok s =>
    rw [hsettings] at hrun
    simp only [settings, ended, hsettings, hrun]
    cases hcalled : called s f values with
    | ok v =>
      obtain ⟨hcomplaint, hending, houtput⟩ := runCall_of_value w.occasion log hcalled
      refine ⟨hcomplaint, ?_, fun hnone => absurd hcalled (hnone s v rfl), fun c => ?_⟩
      · rintro _ v' ⟨⟩ hv
        cases hcalled.symm.trans hv
        exact ⟨hending, houtput⟩
      · rw [hending]
        constructor
        · nofun
        · rintro (⟨x, h, -⟩ | ⟨_, e, ⟨⟩, he, -⟩)
          · cases h
          · cases hcalled.symm.trans he
    | error e =>
      obtain ⟨hcomplaint, houtput, hending, hcrash⟩ := runCall_of_failure w.occasion log hcalled
      refine ⟨hcomplaint, ?_, fun _ => ⟨houtput, hending⟩, fun c => (hcrash c).trans ?_⟩
      · rintro _ v ⟨⟩ hv
        cases hcalled.symm.trans hv
      · constructor
        · rintro ⟨hun, rfl⟩
          exact .inr ⟨s, e, rfl, hcalled, hun, rfl⟩
        · rintro (⟨x, h, -⟩ | ⟨_, e', ⟨⟩, he', hun, rfl⟩)
          · cases h
          · cases hcalled.symm.trans he'
            exact ⟨hun, rfl⟩

attribute [local instance] Engine.lawfulReference Yaml.Reader.reference in
/-- Without a settings file a run prints what its call gives. -/
theorem run_call_like :
    let w : Surroundings := ⟨{ root := ⟨1, []⟩ }, [], { now := ⟨0, 0⟩ }⟩
    let arguments := [['l', 'i', 'k', 'e'], ['a'], ['a']]
    (run w arguments).ending = .exit success ∧ (run w arguments).output = ['t', 'r', 'u', 'e', '\n'] := by
  intro w arguments
  have hcalled : called {} .like [(.pattern, .text ['a']), (.subject, .text ['a'])] = .ok (.boolean true) := by
    rfl
  exact (run_call w arguments rfl rfl).2.1 {} (.boolean true) rfl hcalled

attribute [local instance] Engine.reference Yaml.Reader.reference in
/-- Letters that ask for both repertoires of characters are accepted, but the run ends without an exit code. -/
theorem run_crashes :
    ∃ r f values, Invocation.ofArguments
        [['l', 'i', 'k', 'e'], ['a'], ['a'], ['-', '-', 'f', 'l', 'a', 'g', 's'], ['a', 'u']] = .ok r ∧
      r.command = some (.call f values) ∧
      (run ⟨{ root := ⟨1, []⟩ }, [], { now := ⟨0, 0⟩ }⟩
        [['l', 'i', 'k', 'e'], ['a'], ['a'], ['-', '-', 'f', 'l', 'a', 'g', 's'], ['a', 'u']]).ending =
        .crash (.call (.pattern (.other "ValueError" "ASCII, LOCALE and UNICODE flags are mutually incompatible"))) := by
  refine ⟨_, _, _, rfl, rfl, ?_⟩
  decide +kernel

end CommandLine

end SqlRegexp
