import Mathlib.Tactic.Common
import SqlRegexp.Proofs.Files
import SqlRegexp.Proofs.Settings
import SqlRegexp.Proofs.Yaml.Reading
import SqlRegexp.Settings.File

/-!
How the reading of a settings file ends.

Each way in which it may end is told exactly: the settings come from a file whose document is nothing or a mapping of
valid settings, a path is reported as missing if no file is there, and what is wrong with a document is refused as the
reader of documents says (`load_confined`). A fault that is passed on as it is comes from the system, which does not let
the file be looked for or read, or from the reader, for a document that it does not foresee. The faults of the second
sort are those of `Yaml.StrayIn` if the reader reads the file as the reference does; `!!bool maybe` is one of them
(`stray_truth`).
-/

namespace SqlRegexp.Settings

open SqlRegexp.Files SqlRegexp.Text SqlRegexp.Yaml

/-- A path leads to a file that can be read, and these are its bytes. -/
def Holds (files : Tree) (path : List Char) (bs : List UInt8) : Prop :=
  files.isFile (Path.ofText path) = .ok true ∧ files.read (Path.ofText path) = .ok bs

/-- The system refuses to say whether there is a file at a path, or to read it. -/
def Refused (files : Tree) (path : List Char) (e : Trouble) : Prop :=
  files.isFile (Path.ofText path) = .error e ∨
    files.isFile (Path.ofText path) = .ok true ∧ files.read (Path.ofText path) = .error e

/-- Why the value of a document gives no settings. -/
inductive Unfit : Value → ContentFault → Prop
  | notMapping {v : Value} (hnull : v ≠ .null) (hmapping : ∀ es, v ≠ .mapping es) : Unfit v .notMapping
  | settings {es : List (Value × Value)} {e : SettingsError} (h : ofEntries es = .error e) :
    Unfit (.mapping es) (.settings e)

/-! ### Values -/

/-- The settings in the value of a document: the defaults for null, and those of a mapping. -/
theorem ofValue_eq_ok_iff {v : Value} {s : Settings} :
    ofValue v = .ok s ↔ v = .null ∧ s = {} ∨ ∃ es, v = .mapping es ∧ ofEntries es = .ok s := by
  cases v with
  | null => simp [ofValue, eq_comm]
  | mapping es =>
    simp only [ofValue, reduceCtorEq, false_and, Value.mapping.injEq, exists_eq_left', false_or]
    cases ofEntries es <;> simp [Except.mapError]
  | _ => simp [ofValue]

theorem ofValue_eq_error_iff {v : Value} {e : LoadError} : ofValue v = .error e ↔ ∃ f, Unfit v f ∧ e = .invalid f := by
  constructor
  · intro h
    cases v with
    | null => cases h
    | mapping es =>
      change (ofEntries es).mapError _ = _ at h
      cases hes : ofEntries es with
      | ok s =>
        rw [hes] at h
        cases h
      | error e' =>
        rw [hes] at h
        exact ⟨_, .settings hes, (Except.error.inj h).symm⟩
    | _ => exact ⟨_, .notMapping (fun h => nomatch h) (fun es h => nomatch h), (Except.error.inj h).symm⟩
  · rintro ⟨f, hf, rfl⟩
    cases hf with
    | notMapping hnull hmapping =>
      cases v with
      | null => exact absurd rfl hnull
      | mapping es => exact absurd rfl (hmapping es)
      | _ => rfl
    | settings h =>
      show (ofEntries _).mapError _ = _
      rw [h]
      rfl

/-! ### Files -/

section Files

variable {files : Tree} {path : List Char} {bs : List UInt8}

/-- At a path there is a file, or there is none, or the system does not say. -/
theorem holds_or (files : Tree) (path : List Char) :
    (∃ bs, Holds files path bs) ∨ files.isFile (Path.ofText path) = .ok false ∨ ∃ e, Refused files path e := by
  cases h : files.isFile (Path.ofText path) with
  | error e => exact .inr (.inr ⟨e, .inl h⟩)
  | ok isFile =>
    cases isFile with
    | false => exact .inr (.inl rfl)
    | true =>
      cases hread : files.read (Path.ofText path) with
      | ok bs => exact .inl ⟨bs, h, hread⟩
      | error e => exact .inr (.inr ⟨e, .inr ⟨h, hread⟩⟩)

theorem Holds.bytes_eq {bs' : List UInt8} (h : Holds files path bs) (h' : Holds files path bs') : bs = bs' :=
  Except.ok.inj (h.2.symm.trans h'.2)

theorem Holds.not_refused (h : Holds files path bs) {e : Trouble} (h' : Refused files path e) : False := by
  rcases h' with h' | h'
  · exact nomatch h.1.symm.trans h'
  · exact nomatch h.2.symm.trans h'.2

variable [Reader]

theorem load_of_holds (h : Holds files path bs) :
    load files path = ((Reader.read bs).mapError LoadError.ofRead).bind ofValue := by
  unfold load
  dsimp only
  rw [h.1]
  dsimp only
  rw [h.2]
  rfl

theorem load_of_refused {e : Trouble} (h : Refused files path e) :
    load files path = .error (.stray (.path (.system e (Path.ofText path)))) := by
  unfold load
  dsimp only
  rcases h with h | ⟨h, hread⟩
  · rw [h]
  · rw [h]
    dsimp only
    rw [hread]
    rfl

theorem load_of_missing (h : files.isFile (Path.ofText path) = .ok false) :
    load files path = .error (.notFound path) := by
  unfold load
  dsimp only
  rw [h]

/-- All the ways in which a file that is there may be read. -/
theorem load_error_of_holds (h : Holds files path bs) {e : LoadError} :
    load files path = .error e ↔
      (∃ r, Reader.read bs = .error r ∧ e = .ofRead r) ∨ ∃ v f, Reader.read bs = .ok v ∧ Unfit v f ∧ e = .invalid f := by
  rw [load_of_holds h]
  cases Reader.read bs with
  | error r => simp [Except.mapError, Except.bind, eq_comm]
  | ok v => simpa [Except.mapError, Except.bind] using ofValue_eq_error_iff

/-- Settings are read exactly from a file whose document has a value with these settings. -/
theorem load_eq_ok_iff {s : Settings} :
    load files path = .ok s ↔ ∃ bs v, Holds files path bs ∧ Reader.read bs = .ok v ∧
      (v = .null ∧ s = {} ∨ ∃ es, v = .mapping es ∧ ofEntries es = .ok s) := by
  constructor
  · intro h
    rcases holds_or files path with ⟨bs, hbs⟩ | hmissing | ⟨e, hrefused⟩
    · rw [load_of_holds hbs] at h
      cases hv : Reader.read bs with
      | error r =>
        rw [hv] at h
        cases h
      | ok v =>
        rw [hv] at h
        exact ⟨bs, v, hbs, hv, ofValue_eq_ok_iff.mp h⟩
    · rw [load_of_missing hmissing] at h
      cases h
    · rw [load_of_refused hrefused] at h
      cases h
  · rintro ⟨bs, v, hbs, hv, hs⟩
    rw [load_of_holds hbs, hv]
    exact ofValue_eq_ok_iff.mpr hs

/-- A path is reported as missing exactly if no file is there. -/
theorem load_eq_notFound_iff {q : List Char} :
    load files path = .error (.notFound q) ↔ files.isFile (Path.ofText path) = .ok false ∧ q = path := by
  rcases holds_or files path with ⟨bs, hbs⟩ | hmissing | ⟨e, hrefused⟩
  · rw [load_error_of_holds hbs, hbs.1]
    refine iff_of_false ?_ fun h => nomatch h.1
    rintro (⟨r, -, hr⟩ | ⟨v, f, -, -, hf⟩)
    · cases r <;> cases hr
    · cases hf
  · rw [load_of_missing hmissing, hmissing]
    simp [eq_comm]
  · rw [load_of_refused hrefused]
    refine iff_of_false (fun h => nomatch h) fun ⟨h, _⟩ => ?_
    rcases hrefused with h' | ⟨h', -⟩ <;> exact nomatch h.symm.trans h'

/-- A failure that is neither a missing file nor a refusal of the system is one to read a file that is there. -/
theorem load_eq_error_iff {e : LoadError} (hnotFound : ∀ q, e ≠ .notFound q) (hpath : ∀ f, e ≠ .stray (.path f)) :
    load files path = .error e ↔ ∃ bs, Holds files path bs ∧
      ((∃ r, Reader.read bs = .error r ∧ e = .ofRead r) ∨
        ∃ v f, Reader.read bs = .ok v ∧ Unfit v f ∧ e = .invalid f) := by
  constructor
  · intro h
    rcases holds_or files path with ⟨bs, hbs⟩ | hmissing | ⟨e', hrefused⟩
    · exact ⟨bs, hbs, (load_error_of_holds hbs).mp h⟩
    · rw [load_of_missing hmissing] at h
      exact absurd (Except.error.inj h).symm (hnotFound path)
    · rw [load_of_refused hrefused] at h
      exact absurd (Except.error.inj h).symm (hpath _)
  · rintro ⟨bs, hbs, h⟩
    exact (load_error_of_holds hbs).mpr h

theorem load_eq_malformed_iff :
    load files path = .error .malformed ↔ ∃ bs, Holds files path bs ∧ Reader.read bs = .error .malformed := by
  rw [load_eq_error_iff (by simp) (by simp)]
  refine exists_congr fun bs => and_congr_right fun _ => ⟨?_, fun h => .inl ⟨_, h, rfl⟩⟩
  rintro (⟨r, hr, he⟩ | ⟨v, f, -, -, hf⟩)
  · cases r with
    | malformed => exact hr
    | unusable f => cases he
    | stray f => cases he
  · cases hf

theorem load_eq_invalid_iff {f : ContentFault} :
    load files path = .error (.invalid f) ↔ ∃ bs, Holds files path bs ∧
      ((∃ r, f = .reading r ∧ Reader.read bs = .error (.unusable r)) ∨ ∃ v, Reader.read bs = .ok v ∧ Unfit v f) := by
  rw [load_eq_error_iff (by simp) (by simp)]
  refine exists_congr fun bs => and_congr_right fun _ => ⟨?_, ?_⟩
  · rintro (⟨r, hr, he⟩ | ⟨v, g, hv, hg, hf⟩)
    · cases r with
      | unusable g =>
        cases he
        exact .inl ⟨g, rfl, hr⟩
      | malformed => cases he
      | stray g => cases he
    · cases hf
      exact .inr ⟨v, hv, hg⟩
  · rintro (⟨r, rfl, hr⟩ | ⟨v, hv, hf⟩)
    · exact .inl ⟨_, hr, rfl⟩
    · exact .inr ⟨v, f, hv, hf, rfl⟩

theorem load_eq_stray_iff {f : StrayFault} :
    load files path = .error (.stray f) ↔
      (∃ e, Refused files path e ∧ f = .path (.system e (Path.ofText path))) ∨
        ∃ bs g, Holds files path bs ∧ Reader.read bs = .error (.stray g) ∧ f = .reading g := by
  rcases holds_or files path with ⟨bs, hbs⟩ | hmissing | ⟨e, hrefused⟩
  · rw [load_error_of_holds hbs]
    constructor
    · rintro (⟨r, hr, he⟩ | ⟨v, g, -, -, hf⟩)
      · cases r with
        | stray g =>
          cases he
          exact .inr ⟨bs, g, hbs, hr, rfl⟩
        | malformed => cases he
        | unusable g => cases he
      · cases hf
    · rintro (⟨e, he, -⟩ | ⟨bs', g, hbs', hg, rfl⟩)
      · exact (hbs.not_refused he).elim
      · cases hbs.bytes_eq hbs'
        exact .inl ⟨_, hg, rfl⟩
  · rw [load_of_missing hmissing]
    refine iff_of_false (fun h => nomatch h) ?_
    rintro (⟨e, he | he, -⟩ | ⟨bs, g, hbs, -, -⟩)
    · exact nomatch hmissing.symm.trans he
    · exact nomatch hmissing.symm.trans he.1
    · exact nomatch hmissing.symm.trans hbs.1
  · rw [load_of_refused hrefused]
    constructor
    · intro h
      cases h
      exact .inl ⟨e, hrefused, rfl⟩
    · rintro (⟨e', he', rfl⟩ | ⟨bs, g, hbs, -, -⟩)
      · rw [← load_of_refused he', load_of_refused hrefused]
      · exact (hbs.not_refused hrefused).elim

/-- A fault that a reader passes on is one of those listed, if the reader reads the file as the reference does. -/
theorem strayIn_of_load (hbs : Holds files path bs) (href : Reader.read bs = valueOfBytes bs) {g : Stray}
    (h : load files path = .error (.stray (.reading g))) :
    ∃ cs, Utf8.decode bs = .ok cs ∧ StrayIn (settleLineEnds cs) g := by
  rcases load_eq_stray_iff.mp h with ⟨e, -, heq⟩ | ⟨bs', g', hbs', hg, heq⟩
  · cases heq
  · cases heq
    cases hbs.bytes_eq hbs'
    exact strayIn_of_valueOfBytes (href ▸ hg)

end Files

/-- **The reading of a settings file ends in few ways.** It gives settings exactly if a file is there, its document is
read, and the value is nothing or a mapping that holds these settings. The path is reported as missing exactly if no file
is there, and the file as malformed or invalid exactly if its document is, or does not fit. A fault is passed on as it is
exactly if the system refuses to look for the file or to read it, or the reader of documents meets one that it does not
foresee; if the reader reads the file as the reference does, `Yaml.StrayIn` lists what that may be. -/
theorem load_confined [Reader] (files : Tree) (path : List Char) :
    (∀ s, load files path = .ok s ↔ ∃ bs v, Holds files path bs ∧ Reader.read bs = .ok v ∧
      (v = .null ∧ s = {} ∨ ∃ es, v = .mapping es ∧ ofEntries es = .ok s)) ∧
    (∀ q, load files path = .error (.notFound q) ↔ files.isFile (Path.ofText path) = .ok false ∧ q = path) ∧
    (load files path = .error .malformed ↔ ∃ bs, Holds files path bs ∧ Reader.read bs = .error .malformed) ∧
    (∀ f, load files path = .error (.invalid f) ↔ ∃ bs, Holds files path bs ∧
      ((∃ r, f = .reading r ∧ Reader.read bs = .error (.unusable r)) ∨ ∃ v, Reader.read bs = .ok v ∧ Unfit v f)) ∧
    (∀ f, load files path = .error (.stray f) ↔
      (∃ e, Refused files path e ∧ f = .path (.system e (Path.ofText path))) ∨
        ∃ bs g, Holds files path bs ∧ Reader.read bs = .error (.stray g) ∧ f = .reading g) ∧
    ∀ bs, Holds files path bs → Reader.read bs = valueOfBytes bs → ∀ g,
      load files path = .error (.stray (.reading g)) →
        ∃ cs, Utf8.decode bs = .ok cs ∧ StrayIn (settleLineEnds cs) g :=
  ⟨fun _ => load_eq_ok_iff, fun _ => load_eq_notFound_iff, load_eq_malformed_iff, fun _ => load_eq_invalid_iff,
    fun _ => load_eq_stray_iff, fun _ hbs href _ => strayIn_of_load hbs href⟩

def loneFile (name : String) (content : String) : Tree where
  root := ⟨1, []⟩
  entries := [([name.toList], .file content.toUTF8.toList)]

section Reference

attribute [local instance] Reader.reference

/-- A word that is no truth value where a tag asks for one escapes as it is. -/
theorem stray_truth :
    load (loneFile "o.yaml" "a: !!bool maybe\n") "o.yaml".toList =
      .error (.stray (.reading (.unknownTruth "maybe".toList))) := by
  have h : (load (loneFile "o.yaml" "a: !!bool maybe\n") "o.yaml".toList).map (fun _ => ()) =
      .error (.stray (.reading (.unknownTruth "maybe".toList))) := by decide +kernel
  cases hload : load (loneFile "o.yaml" "a: !!bool maybe\n") "o.yaml".toList with
  | ok s =>
    rw [hload] at h
    cases h
  | error e =>
    rw [hload] at h
    cases h
    rfl

end Reference

end SqlRegexp.Settings
