import Mathlib.Algebra.Group.Nat.Defs
import Mathlib.Data.List.Induction
import Mathlib.Tactic.Common
import SqlRegexp.Dialect.Compiled

/-!
The letters of the match parameter, and what they ask for.

Letters are added one after the other. `Letters.Sums` says what they add up to, and `sums_ofList` that they do;
`addExtras_letters` does the same for the letters of the engine. Together they give the mode and the options of every
match parameter: `mode_and_options_of_parameter`.
-/

namespace SqlRegexp

open SqlRegexp.Pattern SqlRegexp.Text

namespace Mode

/-! ### Letters of the dialect -/

/-- The letters that have a meaning in the dialect. -/
def dialectLetters : List Char := ['i', 'c', 'n', 'm', 'x']

/-- The letters that the engine gives a meaning. -/
def engineLetters : List Char := ['a', 'b', 'e', 'f', 'p', 'q', 's', 'u', 'w']

/-- The last of the letters that say how case is treated. -/
def lastCase? (cs : List Char) : Option Char := (cs.filter fun c => c == 'i' || c == 'c').getLast?

/-- The letters without a meaning in the dialect, each where it comes first. -/
def others (cs : List Char) : List Char := (cs.filter fun c => !dialectLetters.contains c).eraseDups

/-- The first letter without any meaning. -/
def firstUnknown? (cs : List Char) : Option Char := cs.find? fun c => !(dialectLetters ++ engineLetters).contains c

theorem mem_others {cs : List Char} {c : Char} : c ∈ others cs ↔ c ∈ cs ∧ c ∉ dialectLetters := by
  simp [others, List.mem_eraseDups]

theorem others_append_dialect {c : Char} (h : c ∈ dialectLetters) (cs : List Char) :
    others (cs ++ [c]) = others cs := by
  unfold others
  rw [List.filter_append, List.filter_cons_of_neg (by simpa using h), List.filter_nil, List.append_nil]

theorem others_append_other {c : Char} (h : c ∉ dialectLetters) (cs : List Char) :
    others (cs ++ [c]) = if c ∈ others cs then others cs else others cs ++ [c] := by
  have hsplit : others (cs ++ [c]) =
      others cs ++ ([c].removeAll (cs.filter fun c => !dialectLetters.contains c)).eraseDups := by
    unfold others
    rw [List.filter_append, List.filter_cons_of_pos (by simpa using h), List.filter_nil, List.eraseDups_append]
  rw [hsplit]
  by_cases hmem : c ∈ cs
  · have hremoved : [c].removeAll (cs.filter fun c => !dialectLetters.contains c) = [] := by
      simp [List.removeAll, hmem, h]
    rw [hremoved, if_pos (mem_others.mpr ⟨hmem, h⟩), List.eraseDups_nil, List.append_nil]
  · have hkept : [c].removeAll (cs.filter fun c => !dialectLetters.contains c) = [c] := by
      simp [List.removeAll, hmem]
    rw [hkept, if_neg fun hothers => hmem (mem_others.mp hothers).1]
    rfl

theorem lastCase?_append (cs : List Char) (c : Char) :
    lastCase? (cs ++ [c]) = if c = 'i' ∨ c = 'c' then some c else lastCase? cs := by
  unfold lastCase?
  rw [List.filter_append]
  by_cases h : c = 'i' ∨ c = 'c'
  · rw [List.filter_cons_of_pos (by simpa using h), if_pos h]
    simp
  · rw [List.filter_cons_of_neg (by simpa using h), if_neg h]
    simp

namespace Letters

/-- What letters add up to: of the two on case the last counts, and those without a meaning here are kept in their
order. -/
structure Sums (cs : List Char) (l : Letters) : Prop where
  ignoreCase : l.ignoreCase = true ↔ lastCase? cs = some 'i'
  dotAll : l.dotAll = true ↔ 'n' ∈ cs
  multiline : l.multiline = true ↔ 'm' ∈ cs
  extended : l.extended = true ↔ 'x' ∈ cs
  extra : l.extra = (others cs).map fun c => [c]

theorem sums_nil : Sums [] {} where
  ignoreCase := by decide
  dotAll := by decide
  multiline := by decide
  extended := by decide
  extra := rfl

/-- One more letter. -/
theorem Sums.add {cs : List Char} {l : Letters} (h : Sums cs l) (c : Char) : Sums (cs ++ [c]) (l.add c) := by
  obtain ⟨hcase, hdot, hmulti, hextended, hextra⟩ := h
  unfold Letters.add
  split
  case h_1 | h_2 | h_3 | h_4 | h_5 =>
    constructor
    case extra => exact hextra.trans (congrArg _ (others_append_dialect (by decide) cs).symm)
    all_goals simp [lastCase?_append, *]
  -- no letter of the dialect: it is kept once, however often it is written
  case h_6 hi hc hn hm hx =>
    have hdialect : c ∉ dialectLetters := by
      simpa [dialectLetters] using ⟨hi, hc, hn, hm, hx⟩
    have hkept : l.extra.contains [c] = true ↔ c ∈ others cs := by simp [hextra]
    have hother := others_append_other hdialect cs
    have hcaseless : lastCase? (cs ++ [c]) = lastCase? cs := by
      rw [lastCase?_append, if_neg (not_or.mpr ⟨hi, hc⟩)]
    have hn' : ('n' ∈ cs ++ [c]) ↔ 'n' ∈ cs := by simp [Ne.symm hn]
    have hm' : ('m' ∈ cs ++ [c]) ↔ 'm' ∈ cs := by simp [Ne.symm hm]
    have hx' : ('x' ∈ cs ++ [c]) ↔ 'x' ∈ cs := by simp [Ne.symm hx]
    have hsums {extra : List (List Char)} (hnew : extra = (others (cs ++ [c])).map fun c => [c]) :
        Sums (cs ++ [c]) { l with extra } :=
      ⟨by rw [hcaseless]; exact hcase, hdot.trans hn'.symm, hmulti.trans hm'.symm, hextended.trans hx'.symm, hnew⟩
    split
    · next hcontains =>
      refine hsums ?_
      rw [hother, if_pos (hkept.mp hcontains), hextra]
    · next hcontains =>
      refine hsums ?_
      rw [hother, if_neg fun hmem => hcontains (hkept.mpr hmem), hextra, List.map_append]
      rfl

/-- **What letters add up to**, however many there are. -/
theorem sums_ofList (cs : List Char) : Sums cs (ofList cs) := by
  induction cs using List.reverseRecOn with
  | nil => exact sums_nil
  | append_singleton cs c ih =>
    have hadd : ofList (cs ++ [c]) = (ofList cs).add c := by simp [ofList]
    rw [hadd]
    exact ih.add c

end Letters

/-! ### The mode -/

/-- The flags that a match parameter asks for, whether they go together or not. -/
def flagsOf (parameter : Option (List Char)) (everyMatch : Bool) (policy : NewlinePolicy) : ModeFlags :=
  let l := Letters.ofList (parameter.getD [])
  ⟨l.ignoreCase, l.dotAll, l.multiline, l.extended, boundaryHolds policy parameter l, everyMatch, l.extra⟩

section OfParameter

variable (parameter : Option (List Char)) (everyMatch : Bool) (policy : NewlinePolicy)

/-- The flags of a match parameter always go together. -/
theorem toMode?_flagsOf :
    (flagsOf parameter everyMatch policy).toMode? = some (ofParameter parameter everyMatch policy) :=
  dif_pos (boundaryHolds_consistent policy parameter)

theorem boundary_ofParameter_iff :
    (ofParameter parameter everyMatch policy).boundary = true ↔
      (policy ≠ .legacy ∧ 'n' ∉ parameter.getD [] ∧ 'm' ∉ parameter.getD []) ∨
        (policy = .legacy ∧ parameter = none) := by
  have h := Letters.sums_ofList (parameter.getD [])
  show boundaryHolds policy parameter (Letters.ofList (parameter.getD [])) = true ↔ _
  cases policy with
  | uniform => simp [boundaryHolds, ← h.dotAll, ← h.multiline]
  | legacy => simp [boundaryHolds]

/-- The policies differ over a match parameter that is given and names no newline mode. -/
theorem ofParameter_policies_ne_iff :
    ofParameter parameter everyMatch .uniform ≠ ofParameter parameter everyMatch .legacy ↔
      parameter ≠ none ∧ 'n' ∉ parameter.getD [] ∧ 'm' ∉ parameter.getD [] := by
  have hboundary : ofParameter parameter everyMatch .uniform = ofParameter parameter everyMatch .legacy ↔
      ((ofParameter parameter everyMatch .uniform).boundary = true ↔
        (ofParameter parameter everyMatch .legacy).boundary = true) := by
    rw [← Bool.eq_iff_iff]
    simp [ofParameter]
  rw [ne_eq, hboundary, boundary_ofParameter_iff, boundary_ofParameter_iff]
  cases parameter with
  | none => simp
  | some cs => simp

end OfParameter

/-! ### Options -/

/-- The options that letters of the engine ask for. -/
def extraOptions (cs : List Char) : Options where
  ascii := cs.contains 'a'
  bestMatch := cs.contains 'b'
  enhanceMatch := cs.contains 'e'
  fullCase := cs.contains 'f'
  posix := cs.contains 'p'
  dotAll := cs.contains 's'
  unicode := cs.contains 'u'
  word := cs.contains 'w'

theorem extraOption?_singleton (c : Char) :
    extraOption? [c] = if c ∈ engineLetters then some (extraOptions [c]) else none := by
  unfold extraOption?
  split
  case h_10 ha hb he hf hp hs hu hw hq =>
    rw [if_neg]
    intro hmem
    simp only [engineLetters, List.mem_cons, List.not_mem_nil, or_false] at hmem
    simp_all
  all_goals next h => obtain rfl := (List.cons.inj h).1; decide

theorem union_extraOptions_cons (o : Options) (c : Char) (cs : List Char) :
    (o.union (extraOptions [c])).union (extraOptions cs) = o.union (extraOptions (c :: cs)) := by
  simp only [Options.union, extraOptions, List.contains_cons, List.contains_nil, Bool.or_false, Bool.or_assoc]

/-- **Letters of the engine add their options**, up to the first one that means nothing. -/
theorem addExtras_letters (o : Options) (cs : List Char) :
    addExtras o (cs.map fun c => [c]) =
      (cs.find? fun c => !engineLetters.contains c).elim (.ok (o.union (extraOptions cs))) fun c => .error [c] := by
  induction cs generalizing o with
  | nil => simp [addExtras, extraOptions, Options.union]
  | cons c cs ih =>
    rw [List.map_cons, addExtras, extraOption?_singleton]
    by_cases h : c ∈ engineLetters
    · rw [if_pos h]
      dsimp only
      rw [ih, union_extraOptions_cons, List.find?_cons_of_neg (by simpa using h)]
    · rw [if_neg h, List.find?_cons_of_pos (by simpa using h)]
      rfl

/-- Leaving out what has come before changes nothing for a search. -/
theorem find?_eraseDups (p : Char → Bool) (cs : List Char) : cs.eraseDups.find? p = cs.find? p := by
  induction cs using List.reverseRecOn with
  | nil => rfl
  | append_singleton cs c ih =>
    rw [List.eraseDups_append, List.find?_append, List.find?_append, ih]
    by_cases hmem : c ∈ cs
    · have hremoved : [c].removeAll cs = [] := by simp [List.removeAll, hmem]
      rw [hremoved, List.eraseDups_nil, List.find?_nil, Option.or_none]
      cases hfind : cs.find? p with
      | some d => rfl
      | none => simp [List.find?_eq_none.mp hfind c hmem]
    · have hkept : [c].removeAll cs = [c] := by simp [List.removeAll, hmem]
      rw [hkept]
      rfl

theorem find?_others (cs : List Char) :
    ((others cs).find? fun c => !engineLetters.contains c) = firstUnknown? cs := by
  unfold others firstUnknown?
  rw [find?_eraseDups, List.find?_filter]
  refine congrArg (cs.find? ·) (funext fun c => ?_)
  by_cases h : c ∈ dialectLetters <;> by_cases h' : c ∈ engineLetters <;> simp [h, h']

/-- The options that a match parameter asks for under a policy. The letter `q` asks for none: it has the pattern taken
literally. -/
structure Asked (parameter : Option (List Char)) (policy : NewlinePolicy) (o : Options) : Prop where
  multiline : o.multiline = true ↔ 'm' ∈ parameter.getD []
  dotAll : o.dotAll = true ↔ 'n' ∈ parameter.getD [] ∨ 's' ∈ parameter.getD [] ∨
    (policy = .legacy ∧ parameter ≠ none ∧ 'm' ∉ parameter.getD [])
  ignoreCase : o.ignoreCase = true ↔ lastCase? (parameter.getD []) = some 'i'
  verbose : o.verbose = true ↔ 'x' ∈ parameter.getD []
  ascii : o.ascii = true ↔ 'a' ∈ parameter.getD []
  bestMatch : o.bestMatch = true ↔ 'b' ∈ parameter.getD []
  enhanceMatch : o.enhanceMatch = true ↔ 'e' ∈ parameter.getD []
  fullCase : o.fullCase = true ↔ 'f' ∈ parameter.getD []
  posix : o.posix = true ↔ 'p' ∈ parameter.getD []
  unicode : o.unicode = true ↔ 'u' ∈ parameter.getD []
  word : o.word = true ↔ 'w' ∈ parameter.getD []

/-- The mask of the options that a match parameter asks for under a policy: the bit of each letter, and no other. -/
structure Masked (parameter : Option (List Char)) (policy : NewlinePolicy) (mask : Nat) : Prop where
  ignoreCase : mask.testBit 1 = true ↔ lastCase? (parameter.getD []) = some 'i'
  multiline : mask.testBit 3 = true ↔ 'm' ∈ parameter.getD []
  dotAll : mask.testBit 4 = true ↔ 'n' ∈ parameter.getD [] ∨ 's' ∈ parameter.getD [] ∨
    (policy = .legacy ∧ parameter ≠ none ∧ 'm' ∉ parameter.getD [])
  unicode : mask.testBit 5 = true ↔ 'u' ∈ parameter.getD []
  verbose : mask.testBit 6 = true ↔ 'x' ∈ parameter.getD []
  ascii : mask.testBit 7 = true ↔ 'a' ∈ parameter.getD []
  word : mask.testBit 11 = true ↔ 'w' ∈ parameter.getD []
  bestMatch : mask.testBit 12 = true ↔ 'b' ∈ parameter.getD []
  fullCase : mask.testBit 14 = true ↔ 'f' ∈ parameter.getD []
  enhanceMatch : mask.testBit 15 = true ↔ 'e' ∈ parameter.getD []
  posix : mask.testBit 16 = true ↔ 'p' ∈ parameter.getD []
  only : ∀ i, mask.testBit i = true → i ∈ [1, 3, 4, 5, 6, 7, 11, 12, 14, 15, 16]

section Options

variable (parameter : Option (List Char)) (everyMatch : Bool) (policy : NewlinePolicy)

theorem options_ofParameter :
    (ofParameter parameter everyMatch policy).options =
      (firstUnknown? (parameter.getD [])).elim
        (.ok ((ofParameter parameter everyMatch policy).ownOptions.union (extraOptions (others (parameter.getD [])))))
        fun c => .error [c] := by
  have h := (Letters.sums_ofList (parameter.getD [])).extra
  show addExtras _ (Letters.ofList (parameter.getD [])).extra = _
  rw [h, addExtras_letters, find?_others]

theorem callOptions_eq_error_iff (e : CallError) :
    (ofParameter parameter everyMatch policy).callOptions = .error e ↔
      ∃ c, firstUnknown? (parameter.getD []) = some c ∧ e = .letter [c] := by
  unfold callOptions
  rw [options_ofParameter]
  cases firstUnknown? (parameter.getD []) with
  | none => simp [Except.mapError]
  | some c => simp [Except.mapError, eq_comm]

/-- Where every letter has a meaning, the mode has the options that its letters ask for. -/
theorem exists_asked (h : firstUnknown? (parameter.getD []) = none) :
    ∃ o, (ofParameter parameter everyMatch policy).callOptions = .ok o ∧ Asked parameter policy o := by
  have hsums := Letters.sums_ofList (parameter.getD [])
  have hboundary := boundary_ofParameter_iff parameter everyMatch policy
  refine ⟨_, by rw [callOptions, options_ofParameter, h]; rfl, ?_⟩
  have hextra : ∀ c, c ∉ dialectLetters → ((others (parameter.getD [])).contains c = true ↔ c ∈ parameter.getD []) := by
    intro c hc
    rw [List.contains_iff_mem, mem_others]
    exact and_iff_left hc
  -- with no newline mode at all the boundary default is what keeps `.` from line feeds
  have hdot : (ofParameter parameter everyMatch policy).ownOptions.dotAll = true ↔ 'n' ∈ parameter.getD [] ∨
      (policy = .legacy ∧ parameter ≠ none ∧ 'm' ∉ parameter.getD []) := by
    show ((Letters.ofList (parameter.getD [])).dotAll || !((ofParameter parameter everyMatch policy).boundary ||
      (Letters.ofList (parameter.getD [])).dotAll || (Letters.ofList (parameter.getD [])).multiline)) = true ↔ _
    rw [Bool.or_eq_true, Bool.not_eq_true', Bool.or_eq_false_iff, Bool.or_eq_false_iff, ← Bool.not_eq_true,
      ← Bool.not_eq_true, ← Bool.not_eq_true, hboundary, hsums.dotAll, hsums.multiline]
    by_cases hn : 'n' ∈ parameter.getD []
    · exact iff_of_true (.inl hn) (.inl hn)
    · by_cases hm : 'm' ∈ parameter.getD []
      · simp [hn, hm]
      · cases policy <;> simp [hn, hm]
  constructor <;>
    simp only [Options.union, extraOptions, Bool.or_eq_true]
  · exact (or_iff_left (by decide)).trans hsums.multiline
  · rw [hdot, hextra 's' (by decide)]
    exact or_right_comm.trans or_assoc
  · exact (or_iff_left (by decide)).trans hsums.ignoreCase
  · exact (or_iff_left (by decide)).trans hsums.extended
  all_goals exact (or_iff_right Bool.false_ne_true).trans (hextra _ (by decide))

end Options

end Mode

/-! ### Bits -/

namespace Pattern

/-- Adding a power of two to a smaller number sets its bit. -/
theorem testBit_add_two_pow {total e : Nat} (h : total < 2 ^ e) (i : Nat) :
    (total + 2 ^ e).testBit i = true ↔ total.testBit i = true ∨ i = e := by
  rw [Nat.add_comm]
  rcases Nat.lt_trichotomy i e with hi | rfl | hi
  · rw [Nat.testBit_two_pow_add_gt hi, or_iff_left (Nat.ne_of_lt hi)]
  · rw [Nat.testBit_two_pow_add_eq, Nat.testBit_lt_two_pow h]
    simp
  · have hbound : 2 ^ (e + 1) ≤ 2 ^ i := Nat.pow_le_pow_right (by decide) hi
    rw [Nat.pow_succ] at hbound
    rw [Nat.testBit_lt_two_pow (by omega), Nat.testBit_lt_two_pow (by omega), or_iff_left (Nat.ne_of_gt hi)]

/-- Adding up powers of two that grow sets their bits and no others. -/
theorem testBit_foldl_powers {es : List Nat} {bs : List (Bool × Nat)} (hes : es.Pairwise (· < ·))
    (hbs : bs.map Prod.snd = es.map (2 ^ ·)) {total : Nat} (htotal : ∀ e ∈ es, total < 2 ^ e) (i : Nat) :
    (bs.foldl (fun total b => if b.1 then total + b.2 else total) total).testBit i = true ↔
      total.testBit i = true ∨ (true, 2 ^ i) ∈ bs := by
  induction bs generalizing es total with
  | nil => simp
  | cons b bs ih =>
    cases es with
    | nil => cases hbs
    | cons e es =>
      obtain ⟨hb, htail⟩ := List.cons.inj hbs
      obtain ⟨hlt, hes⟩ := List.pairwise_cons.mp hes
      have hhere : total < 2 ^ e := htotal e (List.mem_cons_self ..)
      have hsmall : ∀ e' ∈ es, total < 2 ^ e' := fun e' he' => htotal e' (List.mem_cons_of_mem _ he')
      rw [List.foldl_cons]
      obtain ⟨set, n⟩ := b
      obtain rfl : n = 2 ^ e := hb
      cases set with
      | false =>
        refine (ih hes htail hsmall).trans (or_congr_right ?_)
        simp
      | true =>
        -- the powers grow, so that each one added stands above all that the total holds
        have hgrown : ∀ e' ∈ es, total + 2 ^ e < 2 ^ e' := fun e' he' =>
          calc total + 2 ^ e < 2 ^ e + 2 ^ e := Nat.add_lt_add_right hhere _
            _ = 2 ^ (e + 1) := by rw [Nat.pow_succ]; omega
            _ ≤ 2 ^ e' := Nat.pow_le_pow_right (by decide) (hlt e' he')
        have hhead : (true, 2 ^ i) = (true, 2 ^ e) ↔ i = e := by
          rw [Prod.mk.injEq, Nat.pow_right_inj (by decide)]
          exact and_iff_right rfl
        refine (ih hes htail hgrown).trans ?_
        rw [testBit_add_two_pow hhere, List.mem_cons, hhead, or_assoc]

/-- **The bits of options** are those of the options set, and no others. -/
theorem Options.testBit_mask (o : Options) (i : Nat) : o.mask.testBit i = true ↔ (true, 2 ^ i) ∈ o.bits := by
  unfold mask
  have hpowers : o.bits.map Prod.snd = [1, 3, 4, 5, 6, 7, 11, 12, 14, 15, 16].map (2 ^ ·) := rfl
  rw [testBit_foldl_powers (by decide) hpowers (by decide)]
  simp

/-- The bit of each option by its number. -/
theorem Options.testBit_mask_iff (o : Options) (i : Nat) :
    o.mask.testBit i = true ↔ i = 1 ∧ o.ignoreCase = true ∨ i = 3 ∧ o.multiline = true ∨ i = 4 ∧ o.dotAll = true ∨
      i = 5 ∧ o.unicode = true ∨ i = 6 ∧ o.verbose = true ∨ i = 7 ∧ o.ascii = true ∨ i = 11 ∧ o.word = true ∨
      i = 12 ∧ o.bestMatch = true ∨ i = 14 ∧ o.fullCase = true ∨ i = 15 ∧ o.enhanceMatch = true ∨
      i = 16 ∧ o.posix = true := by
  have hpower (e : Nat) : 2 ^ i = 2 ^ e ↔ i = e := Nat.pow_right_inj (by decide)
  rw [testBit_mask]
  show (true, 2 ^ i) ∈ [(o.ignoreCase, 2 ^ 1), (o.multiline, 2 ^ 3), (o.dotAll, 2 ^ 4), (o.unicode, 2 ^ 5),
    (o.verbose, 2 ^ 6), (o.ascii, 2 ^ 7), (o.word, 2 ^ 11), (o.bestMatch, 2 ^ 12), (o.fullCase, 2 ^ 14),
    (o.enhanceMatch, 2 ^ 15), (o.posix, 2 ^ 16)] ↔ _
  simp only [List.mem_cons, List.not_mem_nil, or_false, Prod.mk.injEq, hpower, eq_comm (a := true), and_comm]

end Pattern

/-- Options that are asked for have the mask that is. -/
theorem Mode.Asked.masked {parameter : Option (List Char)} {policy : NewlinePolicy} {o : Options}
    (h : Asked parameter policy o) : Masked parameter policy o.mask := by
  constructor
  case only =>
    intro i hi
    rw [Options.testBit_mask_iff] at hi
    simp only [List.mem_cons, List.not_mem_nil, or_false]
    omega
  all_goals rw [Options.testBit_mask_iff]
  · simpa using h.ignoreCase
  · simpa using h.multiline
  · simpa using h.dotAll
  · simpa using h.unicode
  · simpa using h.verbose
  · simpa using h.ascii
  · simpa using h.word
  · simpa using h.bestMatch
  · simpa using h.fullCase
  · simpa using h.enhanceMatch
  · simpa using h.posix

/-- **What a match parameter asks for.** Its flags always go together. Of `i` and `c` the last counts, each of the other
letters of the dialect sets its own flag, and the letters of the engine are kept, each once and in the order in which
they first come. The boundary default holds under one policy if no newline mode is named, and under the other if there
is no parameter at all. The call fails at the first letter without a meaning; if there is none, every option is set for
its own letter, but for `.`, which also matches line feeds where the default does not hold and no lines are told apart;
the mask has the bits of these options alone, each at its own place. Whether every match is wanted has no influence on
any of this. -/
theorem mode_and_options_of_parameter (parameter : Option (List Char)) (everyMatch : Bool) (policy : NewlinePolicy) :
    let given := parameter.getD []
    let m := Mode.ofParameter parameter everyMatch policy
    ((Mode.flagsOf parameter everyMatch policy).toMode? = some m ∧
      (m.ignoreCase = true ↔ Mode.lastCase? given = some 'i') ∧
      (m.dotAll = true ↔ 'n' ∈ given) ∧ (m.multiline = true ↔ 'm' ∈ given) ∧ (m.extended = true ↔ 'x' ∈ given) ∧
      m.extra = (Mode.others given).map (fun c => [c]) ∧
      (m.boundary = true ↔ (policy ≠ .legacy ∧ 'n' ∉ given ∧ 'm' ∉ given) ∨ (policy = .legacy ∧ parameter = none))) ∧
    (Mode.ofParameter parameter everyMatch .uniform ≠ Mode.ofParameter parameter everyMatch .legacy ↔
      parameter ≠ none ∧ 'n' ∉ given ∧ 'm' ∉ given) ∧
    (∀ e, m.callOptions = .error e ↔ ∃ c, Mode.firstUnknown? given = some c ∧ e = .letter [c]) ∧
    (∀ c, (CallError.letter [c]).kindName = "error" ∧
      (CallError.letter [c]).message = "invalid regular expression option: " ++ quotedString [c]) ∧
    (Mode.firstUnknown? given = none → ∃ o, m.callOptions = .ok o ∧ Mode.Asked parameter policy o ∧
      (∀ i, o.mask.testBit i = true ↔ (true, 2 ^ i) ∈ o.bits) ∧ Mode.Masked parameter policy o.mask) := by
  intro given m
  have hsums := Mode.Letters.sums_ofList given
  refine ⟨⟨?_, ?_, ?_, ?_, ?_, ?_, ?_⟩, ?_, ?_, fun c => ⟨rfl, rfl⟩, fun hknown => ?_⟩
  · exact Mode.toMode?_flagsOf parameter everyMatch policy
  · exact hsums.ignoreCase
  · exact hsums.dotAll
  · exact hsums.multiline
  · exact hsums.extended
  · exact hsums.extra
  · exact Mode.boundary_ofParameter_iff parameter everyMatch policy
  · exact Mode.ofParameter_policies_ne_iff parameter everyMatch
  · exact Mode.callOptions_eq_error_iff parameter everyMatch policy
  · obtain ⟨o, ho, hasked⟩ := Mode.exists_asked parameter everyMatch policy hknown
    exact ⟨o, ho, hasked, o.testBit_mask, hasked.masked⟩

/-- Case is decided twice here, and `e` comes twice; under this policy `.` matches line feeds. The four bits are those of
case, `.`, comments and the search for the best match. -/
theorem mode_and_options_of_six_letters :
    ∃ o, (Mode.ofParameter (some "icexie".toList) true .legacy).callOptions = .ok o ∧
      Mode.Asked (some "icexie".toList) .legacy o ∧ (∀ i, o.mask.testBit i = true ↔ (true, 2 ^ i) ∈ o.bits) ∧
      Mode.Masked (some "icexie".toList) .legacy o.mask ∧ o.mask = 0x8052 := by
  obtain ⟨o, ho, hasked, hbits, hmasked⟩ :=
    (mode_and_options_of_parameter (some "icexie".toList) true .legacy).2.2.2.2 (by decide)
  have hmask : (Mode.ofParameter (some "icexie".toList) true .legacy).callOptions.map Options.mask = .ok 0x8052 := by
    decide
  rw [ho] at hmask
  exact ⟨o, ho, hasked, hbits, hmasked, Except.ok.inj hmask⟩

end SqlRegexp
