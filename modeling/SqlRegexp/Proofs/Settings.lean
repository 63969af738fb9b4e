import SqlRegexp.Settings.Basic

/-!
Which mappings hold settings.

The settings are read from a section of the mapping if there is one, and else from the mapping itself (`ReadFrom`).
**They are accepted exactly if every key there is known, the policy is one of the two and the limit is null or a number
that is not zero or below** (`accepted_exactly`); otherwise the refusal names all keys at fault, and no other
(`FaultAt`). Two things get by. A number that is no number is neither above zero nor at zero or below, and it is taken
for a limit; and beside a section nothing is read, so that whatever stands there is passed over
(`limit_and_section_unchecked`).
-/

namespace SqlRegexp.Settings

open SqlRegexp.Text

/-! ### Numbers above zero -/

open Float.Model in
theorem unpack_zero : (0.0 : Float).toModel.unpack = .zero .positive := by rfl

open Float.Model in
/-- What is not zero or below is above zero, or no number at all. -/
theorem not_le_zero_iff (x : Float) : ¬ x ≤ 0.0 ↔ 0.0 < x ∨ x.isNaN = true := by
  have hle : x ≤ 0.0 ↔ x.toModel.unpack.le (.zero .positive) = true := by
    rw [← unpack_zero]
    exact decide_eq_true_iff
  have hlt : 0.0 < x ↔ (UnpackedFloat.zero .positive).lt x.toModel.unpack = true := by
    rw [← unpack_zero]
    exact decide_eq_true_iff
  rw [hle, hlt]
  show _ ↔ _ ∨ x.toModel.unpack.isNaN = true
  cases x.toModel.unpack with
  | notANumber => decide
  | infinity sign => cases sign <;> decide
  | zero sign => cases sign <;> decide
  | finite sign mantissa exponent h =>
    cases sign with
    | negative => exact iff_of_false (absurd rfl) (by rintro (h | h) <;> cases h)
    | positive => exact iff_of_true (fun h => by cases h) (.inl rfl)

/-! ### Values under the keys -/

theorem isText_iff {v : Value} {cs : List Char} : v.isText cs = true ↔ v = .text cs := by
  cases v <;> simp [Value.isText]

theorem policyOf_eq_ok_iff {v : Value} {p : NewlinePolicy} : policyOf v = .ok p ↔ v = .text p.label.toList := by
  unfold policyOf
  split
  · next h =>
    obtain rfl := isText_iff.mp h
    cases p <;> simp [NewlinePolicy.label]
  · next hu =>
    split
    · next h =>
      obtain rfl := isText_iff.mp h
      cases p <;> simp [NewlinePolicy.label]
    · next hl =>
      rw [isText_iff] at hu hl
      cases p <;> simp only [NewlinePolicy.label, hu, hl, reduceCtorEq]

theorem policyOf_eq_error_iff {v : Value} {f : Fault} :
    policyOf v = .error f ↔ f = .notAPolicy ∧ ∀ p : NewlinePolicy, v ≠ .text p.label.toList := by
  simp only [ne_eq, ← policyOf_eq_ok_iff]
  unfold policyOf
  split
  · simp
  · split
    · simp
    · simp [eq_comm]

theorem timeoutOf_null : timeoutOf .null = .ok none := rfl

theorem timeoutOf_of_ne_null {v : Value} (hv : v ≠ .null) :
    timeoutOf v = (numberOf v).bind fun x => if x ≤ 0.0 then .error .notPositive else .ok (some x) := by
  have hcases : timeoutOf v = numberOf v >>= fun x => do
      if x ≤ 0.0 then throw .notPositive
      return some x := by
    cases v <;> first | rfl | exact absurd rfl hv
  rw [hcases]
  refine congrArg (Except.bind _) (funext fun x => ?_)
  split <;> rfl

theorem timeoutOf_eq_ok_iff {v : Value} {t : Option Float} :
    timeoutOf v = .ok t ↔ v = .null ∧ t = none ∨
      ∃ x, numberOf v = .ok x ∧ (0.0 < x ∨ x.isNaN = true) ∧ t = some x := by
  by_cases hv : v = .null
  · subst hv
    have hnumber : ∀ x, numberOf .null ≠ .ok x := fun x h => nomatch h
    simp only [timeoutOf_null, hnumber, Except.ok.injEq, true_and, false_and, exists_false, or_false, eq_comm]
  · rw [timeoutOf_of_ne_null hv]
    cases numberOf v with
    | error f => simp [Except.bind, hv]
    | ok x =>
      simp only [Except.bind, hv, false_and, false_or, Except.ok.injEq, exists_eq_left', ← not_le_zero_iff]
      split
      · next hle => simp [hle]
      · next hle => simp [hle, eq_comm]

theorem timeoutOf_eq_error_iff {v : Value} {f : Fault} :
    timeoutOf v = .error f ↔
      v ≠ .null ∧ (numberOf v = .error f ∨ ∃ x, numberOf v = .ok x ∧ x ≤ 0.0 ∧ f = .notPositive) := by
  by_cases hv : v = .null
  · subst hv
    simp [timeoutOf_null]
  · rw [timeoutOf_of_ne_null hv]
    cases numberOf v with
    | error f' => simp [Except.bind, hv]
    | ok x =>
      simp only [Except.bind, ne_eq, hv, not_false_eq_true, true_and, reduceCtorEq, false_or, Except.ok.injEq,
        exists_eq_left']
      split
      · next hle => simp [hle, eq_comm]
      · next hle => simp [hle]

/-! ### Keys -/

section Keys

variable {entries own : List (Value × Value)}

theorem keysAreText_iff : keysAreText entries = true ↔ ∀ e ∈ entries, ∃ cs, e.1 = .text cs := by
  unfold keysAreText
  rw [List.all_eq_true]
  refine forall₂_congr fun e _ => ?_
  cases e.1 <;> simp

theorem mem_unknownKeys {key : List Char} :
    key ∈ unknownKeys entries ↔ (∃ v, (.text key, v) ∈ entries) ∧ key ≠ policyKey ∧ key ≠ timeoutKey := by
  unfold unknownKeys
  rw [List.mem_filterMap]
  constructor
  · rintro ⟨⟨k, v⟩, hmem, hk⟩
    cases k with
    | text cs =>
      dsimp only at hk
      split at hk
      · cases hk
      · next hunknown =>
        cases hk
        exact ⟨⟨v, hmem⟩, not_or.mp hunknown⟩
    | _ => cases hk
  · rintro ⟨⟨v, hmem⟩, hpolicy, htimeout⟩
    exact ⟨(.text key, v), hmem, if_neg (not_or.mpr ⟨hpolicy, htimeout⟩)⟩

/-- Where every key is a text, none is unknown exactly if every one is known. -/
theorem unknownKeys_eq_nil_iff (htext : ∀ e ∈ entries, ∃ cs, e.1 = .text cs) :
    unknownKeys entries = [] ↔ ∀ e ∈ entries, e.1 = .text policyKey ∨ e.1 = .text timeoutKey := by
  rw [List.eq_nil_iff_forall_not_mem]
  simp only [mem_unknownKeys, not_and]
  constructor
  · rintro hnone ⟨k, v⟩ hmem
    obtain ⟨cs, rfl⟩ := htext _ hmem
    by_cases hpolicy : cs = policyKey
    · exact .inl (congrArg _ hpolicy)
    · by_cases htimeout : cs = timeoutKey
      · exact .inr (congrArg _ htimeout)
      · exact absurd htimeout (hnone cs ⟨v, hmem⟩ hpolicy)
  · rintro hknown cs ⟨v, hmem⟩ hpolicy htimeout
    rcases hknown _ hmem with h | h
    · exact hpolicy (Value.text.inj h)
    · exact htimeout (Value.text.inj h)

end Keys

/-! ### Sections -/

/-- The entries that a mapping's settings are read from: its section's if it has one, and else its own. -/
inductive ReadFrom (entries : List (Value × Value)) : List (Value × Value) → Prop
  | whole (h : Value.entry? sectionKey entries = none) : ReadFrom entries entries
  | nested {own : List (Value × Value)} (h : Value.entry? sectionKey entries = some (.mapping own)) :
    ReadFrom entries own

/-- The policy of entries: the one named, and `uniform` if there is no word of it. -/
inductive PolicyIn (entries : List (Value × Value)) : NewlinePolicy → Prop
  | missing (h : Value.entry? policyKey entries = none) : PolicyIn entries .uniform
  | named {p : NewlinePolicy} (h : Value.entry? policyKey entries = some (.text p.label.toList)) : PolicyIn entries p

/-- The limit of entries: none, or what the value under its key stands for as a number, unless that is zero or below. -/
inductive TimeoutIn (entries : List (Value × Value)) : Option Float → Prop
  | missing (h : Value.entry? timeoutKey entries = none) : TimeoutIn entries none
  | null (h : Value.entry? timeoutKey entries = some .null) : TimeoutIn entries none
  | number {v : Value} {x : Float} (h : Value.entry? timeoutKey entries = some v) (hx : numberOf v = .ok x)
    (hpos : 0.0 < x ∨ x.isNaN = true) : TimeoutIn entries (some x)

/-- Entries are those of settings: all keys are known, and both settings have their values from them. -/
structure Valid (entries : List (Value × Value)) (s : Settings) : Prop where
  known : ∀ e ∈ entries, e.1 = .text policyKey ∨ e.1 = .text timeoutKey
  policy : PolicyIn entries s.policy
  timeout : TimeoutIn entries s.timeout

/-- What is wrong with entries, and under which key. -/
inductive FaultAt (entries : List (Value × Value)) : List Char → Fault → Prop
  | policy {v : Value} (h : Value.entry? policyKey entries = some v)
    (hv : ∀ p : NewlinePolicy, v ≠ .text p.label.toList) : FaultAt entries policyKey .notAPolicy
  | notNumber {v : Value} {f : Fault} (h : Value.entry? timeoutKey entries = some v) (hv : v ≠ .null)
    (hf : numberOf v = .error f) : FaultAt entries timeoutKey f
  | notPositive {v : Value} {x : Float} (h : Value.entry? timeoutKey entries = some v) (hx : numberOf v = .ok x)
    (hle : x ≤ 0.0) : FaultAt entries timeoutKey .notPositive
  | unknown {key : List Char} {v : Value} (h : (.text key, v) ∈ entries) (hpolicy : key ≠ policyKey)
    (htimeout : key ≠ timeoutKey) : FaultAt entries key .unknownKey

/-- Why a mapping is refused. -/
inductive Refusal (entries : List (Value × Value)) : SettingsError → Prop
  | sectionNotMapping {v : Value} (h : Value.entry? sectionKey entries = some v) (hv : ∀ own, v ≠ .mapping own) :
    Refusal entries .sectionNotMapping
  | keyNotText {own : List (Value × Value)} {e : Value × Value} (h : ReadFrom entries own) (he : e ∈ own)
    (hkey : ∀ cs, e.1 ≠ .text cs) : Refusal entries .keyNotText
  | invalid {own : List (Value × Value)} {faults : List (List Char × Fault)} (h : ReadFrom entries own)
    (htext : ∀ e ∈ own, ∃ cs, e.1 = .text cs) (hsome : faults ≠ [])
    (hfaults : ∀ key f, (key, f) ∈ faults ↔ FaultAt own key f) : Refusal entries (.invalid faults)

section Section

variable {entries : List (Value × Value)}

/-- The policy under its key, or the fault there. -/
def policyIn (entries : List (Value × Value)) : Except Fault NewlinePolicy :=
  (Value.entry? policyKey entries).elim (.ok .uniform) policyOf

/-- The limit under its key, or the fault there. -/
def timeoutIn (entries : List (Value × Value)) : Except Fault (Option Float) :=
  (Value.entry? timeoutKey entries).elim (.ok none) timeoutOf

theorem policyIn_eq_ok_iff {p : NewlinePolicy} : policyIn entries = .ok p ↔ PolicyIn entries p := by
  unfold policyIn
  cases h : Value.entry? policyKey entries with
  | none =>
    constructor
    · intro hp
      cases hp
      exact .missing h
    · rintro (_ | h')
      · rfl
      · rw [h] at h'
        cases h'
  | some v =>
    rw [Option.elim_some, policyOf_eq_ok_iff]
    constructor
    · rintro rfl
      exact .named h
    · rintro (h' | h')
      · rw [h] at h'
        cases h'
      · exact Option.some.inj (h.symm.trans h')

theorem timeoutIn_eq_ok_iff {t : Option Float} : timeoutIn entries = .ok t ↔ TimeoutIn entries t := by
  unfold timeoutIn
  cases h : Value.entry? timeoutKey entries with
  | none =>
    constructor
    · intro ht
      cases ht
      exact .missing h
    · rintro (_ | h' | ⟨h', -, -⟩)
      · rfl
      all_goals
        rw [h] at h'
        cases h'
  | some v =>
    rw [Option.elim_some, timeoutOf_eq_ok_iff]
    constructor
    · rintro (⟨rfl, rfl⟩ | ⟨x, hx, hpos, rfl⟩)
      · exact .null h
      · exact .number h hx hpos
    · rintro (h' | h' | ⟨h', hx, hpos⟩)
      · rw [h] at h'
        cases h'
      · exact .inl ⟨Option.some.inj (h.symm.trans h'), rfl⟩
      · obtain rfl := Option.some.inj (h.symm.trans h')
        exact .inr ⟨_, hx, hpos, rfl⟩

theorem mem_faultOf {α : Type} {key key' : List Char} {r : Except Fault α} {f : Fault} :
    (key', f) ∈ faultOf key r ↔ key' = key ∧ r = .error f := by
  cases r <;> simp [faultOf, eq_comm]

/-- The faults of entries, in the order in which they are listed. -/
def faultsIn (entries : List (Value × Value)) : List (List Char × Fault) :=
  faultOf policyKey (policyIn entries) ++ faultOf timeoutKey (timeoutIn entries) ++
    (unknownKeys entries).map fun key => (key, .unknownKey)

theorem mem_faultsIn {key : List Char} {f : Fault} : (key, f) ∈ faultsIn entries ↔ FaultAt entries key f := by
  unfold faultsIn policyIn timeoutIn
  simp only [List.mem_append, mem_faultOf, List.mem_map, Prod.mk.injEq, mem_unknownKeys]
  constructor
  · rintro ((⟨rfl, hf⟩ | ⟨rfl, hf⟩) | ⟨_, ⟨⟨v, hmem⟩, hpolicy, htimeout⟩, rfl, rfl⟩)
    · cases h : Value.entry? policyKey entries with
      | none =>
        rw [h] at hf
        cases hf
      | some v =>
        rw [h, Option.elim_some, policyOf_eq_error_iff] at hf
        obtain ⟨rfl, hv⟩ := hf
        exact .policy h hv
    · cases h : Value.entry? timeoutKey entries with
      | none =>
        rw [h] at hf
        cases hf
      | some v =>
        rw [h, Option.elim_some, timeoutOf_eq_error_iff] at hf
        obtain ⟨hv, hf | ⟨x, hx, hle, rfl⟩⟩ := hf
        · exact .notNumber h hv hf
        · exact .notPositive h hx hle
    · exact .unknown hmem hpolicy htimeout
  · rintro (⟨h, hv⟩ | ⟨h, hv, hf⟩ | ⟨h, hx, hle⟩ | ⟨h, hpolicy, htimeout⟩)
    · exact .inl (.inl ⟨rfl, by rw [h, Option.elim_some, policyOf_eq_error_iff]; exact ⟨rfl, hv⟩⟩)
    · exact .inl (.inr ⟨rfl, by rw [h, Option.elim_some, timeoutOf_eq_error_iff]; exact ⟨hv, .inl hf⟩⟩)
    · refine .inl (.inr ⟨rfl, ?_⟩)
      rw [h, Option.elim_some, timeoutOf_eq_error_iff]
      -- nothing is no number, so that it cannot be too small a one
      refine ⟨fun hv => ?_, .inr ⟨_, hx, hle, rfl⟩⟩
      rw [hv] at hx
      cases hx
    · exact .inr ⟨key, ⟨⟨_, h⟩, hpolicy, htimeout⟩, rfl, rfl⟩

theorem ofSection_eq (htext : keysAreText entries = true) :
    ofSection entries =
      match policyIn entries, timeoutIn entries, unknownKeys entries with
      | .ok p, .ok t, [] => .ok ⟨p, t⟩
      | p, t, unknown => .error (.invalid (faultOf policyKey p ++ faultOf timeoutKey t ++
          unknown.map fun key => (key, .unknownKey))) := by
  unfold ofSection
  rw [htext]
  rfl

/-- What a section whose keys are texts comes to: its settings, or all its faults. -/
theorem ofSection_of_text (htext : keysAreText entries = true) :
    (∃ p t, policyIn entries = .ok p ∧ timeoutIn entries = .ok t ∧ unknownKeys entries = [] ∧
        ofSection entries = .ok ⟨p, t⟩) ∨
      faultsIn entries ≠ [] ∧ ofSection entries = .error (.invalid (faultsIn entries)) := by
  rw [ofSection_eq htext]
  unfold faultsIn
  cases policyIn entries with
  | error f => exact .inr ⟨by simp [faultOf], rfl⟩
  | ok p =>
    cases timeoutIn entries with
    | error f => exact .inr ⟨by simp [faultOf], rfl⟩
    | ok t =>
      cases unknownKeys entries with
      | nil => exact .inl ⟨p, t, rfl, rfl, rfl, rfl⟩
      | cons key keys => exact .inr ⟨by simp [faultOf], rfl⟩

theorem ofSection_of_not_text (htext : keysAreText entries = false) : ofSection entries = .error .keyNotText := by
  unfold ofSection
  rw [htext]
  rfl

theorem ofSection_eq_ok_iff {s : Settings} : ofSection entries = .ok s ↔ Valid entries s := by
  constructor
  · intro h
    cases htext : keysAreText entries with
    | false =>
      rw [ofSection_of_not_text htext] at h
      cases h
    | true =>
      rcases ofSection_of_text htext with ⟨p, t, hp, ht, hunknown, heq⟩ | ⟨-, heq⟩
      · obtain rfl := Except.ok.inj (heq.symm.trans h)
        exact ⟨(unknownKeys_eq_nil_iff (keysAreText_iff.mp htext)).mp hunknown, policyIn_eq_ok_iff.mp hp,
          timeoutIn_eq_ok_iff.mp ht⟩
      · rw [heq] at h
        cases h
  · rintro ⟨hknown, hpolicy, htimeout⟩
    have htext : ∀ e ∈ entries, ∃ cs, e.1 = .text cs := fun e he => (hknown e he).elim (⟨_, ·⟩) (⟨_, ·⟩)
    rcases ofSection_of_text (keysAreText_iff.mpr htext) with ⟨p, t, hp, ht, -, heq⟩ | ⟨hsome, -⟩
    · rw [heq]
      obtain rfl := Except.ok.inj (hp.symm.trans (policyIn_eq_ok_iff.mpr hpolicy))
      obtain rfl := Except.ok.inj (ht.symm.trans (timeoutIn_eq_ok_iff.mpr htimeout))
      rfl
    · refine absurd ?_ hsome
      unfold faultsIn
      rw [policyIn_eq_ok_iff.mpr hpolicy, timeoutIn_eq_ok_iff.mpr htimeout, (unknownKeys_eq_nil_iff htext).mpr hknown]
      rfl

/-- A section is refused for a key that is no text, or else for all its faults. -/
theorem refusal_of_ofSection {whole : List (Value × Value)} (hread : ReadFrom whole entries) {e : SettingsError}
    (h : ofSection entries = .error e) : Refusal whole e := by
  cases htext : keysAreText entries with
  | false =>
    rw [ofSection_of_not_text htext] at h
    cases h
    obtain ⟨entry, hmem, hkey⟩ := List.all_eq_false.mp htext
    refine .keyNotText hread hmem fun cs hcs => hkey ?_
    rw [hcs]
  | true =>
    rcases ofSection_of_text htext with ⟨p, t, -, -, -, heq⟩ | ⟨hsome, heq⟩
    · rw [heq] at h
      cases h
    · rw [heq] at h
      cases h
      exact .invalid hread (keysAreText_iff.mp htext) hsome fun key f => mem_faultsIn

end Section

/-- What a mapping comes to is what the entries that its settings are read from come to. -/
theorem ofEntries_of_readFrom {entries own : List (Value × Value)} (h : ReadFrom entries own) :
    ofEntries entries = ofSection own := by
  unfold ofEntries
  cases h with
  | whole h => rw [h]
  | nested h => rw [h]

theorem readFrom_or (entries : List (Value × Value)) :
    (∃ own, ReadFrom entries own) ∨
      ofEntries entries = .error .sectionNotMapping ∧
        ∃ v, Value.entry? sectionKey entries = some v ∧ ∀ own, v ≠ .mapping own := by
  unfold ofEntries
  cases h : Value.entry? sectionKey entries with
  | none => exact .inl ⟨entries, .whole h⟩
  | some v =>
    cases v with
    | mapping own => exact .inl ⟨own, .nested h⟩
    | _ => exact .inr ⟨rfl, _, rfl, fun own hown => nomatch hown⟩

/-- **Settings are accepted exactly if they are valid.** A mapping gives settings exactly if those of its section, or
else its own entries, have known keys only and fit values under them; so a limit is above zero unless it is no number
at all. Every other mapping is refused: because its section is no mapping, because a key is no text, or for its faults,
all of them and no others. -/
theorem accepted_exactly (entries : List (Value × Value)) :
    (∀ s, ofEntries entries = .ok s ↔ ∃ own, ReadFrom entries own ∧ Valid own s) ∧
    (∀ s x, ofEntries entries = .ok s → s.timeout = some x → 0.0 < x ∨ x.isNaN = true) ∧
    ∀ e, ofEntries entries = .error e → Refusal entries e := by
  have hok : ∀ s, ofEntries entries = .ok s ↔ ∃ own, ReadFrom entries own ∧ Valid own s := by
    intro s
    constructor
    · intro h
      rcases readFrom_or entries with ⟨own, hread⟩ | ⟨herror, -⟩
      · rw [ofEntries_of_readFrom hread] at h
        exact ⟨own, hread, ofSection_eq_ok_iff.mp h⟩
      · rw [herror] at h
        cases h
    · rintro ⟨own, hread, hvalid⟩
      rw [ofEntries_of_readFrom hread]
      exact ofSection_eq_ok_iff.mpr hvalid
  refine ⟨hok, fun s x hs hx => ?_, fun e he => ?_⟩
  · obtain ⟨own, -, -, -, htimeout⟩ := (hok s).mp hs
    rw [hx] at htimeout
    cases htimeout with
    | number _ _ hpos => exact hpos
  · rcases readFrom_or entries with ⟨own, hread⟩ | ⟨herror, v, hv, hmapping⟩
    · rw [ofEntries_of_readFrom hread] at he
      exact refusal_of_ofSection hread he
    · rw [herror] at he
      cases he
      exact .sectionNotMapping hv hmapping

/-- A misspelt key beside a section is passed over, and a limit that is no number is accepted. -/
theorem limit_and_section_unchecked :
    ofEntries [(.text sectionKey, .mapping []), (.text "timout".toList, .integer 1)] = .ok {} ∧
      ∃ s x, ofEntries [(.text timeoutKey, .text "nan".toList)] = .ok s ∧ s.timeout = some x ∧ ¬ 0.0 < x :=
  ⟨by rfl, _, _, by rfl, by rfl, by decide +kernel⟩

end SqlRegexp.Settings
