import Mathlib.Tactic.Common
import SqlRegexp.Match.Search

/-!
What every run of a pattern keeps.

An invariant says something of states and something of what a failed way leaves behind. `Kept` collects what one
step of the matcher has to keep; `run_kept` is the induction over patterns and `callsTo_kept` the one over the depth
of calls. Two invariants follow: the number of groups stays and all extents lie in the text (`Program.search_within`),
and without `\K` the reported match starts where its attempt began (`Program.matchFrom_start`).

`Program.Delivers` is for what no step keeps and the end of a run has all the same: a group around the whole pattern
takes part in every match (`Program.search_whole_group`).
-/

namespace SqlRegexp.Match

open SqlRegexp.Pattern SqlRegexp.Unicode

/-- What a run comes to satisfies `F` if it is a way through, and `T` if nothing but a trail is left. -/
def Attempt.Ends (T : Trail → Prop) (F : State → Prop) : Attempt → Prop
  | .matched s => F s
  | .failed trail => T trail

theorem Attempt.Ends.orElse {T : Trail → Prop} {F : State → Prop} {o : Attempt} {other : Trail → Attempt}
    (ho : o.Ends T F) (hother : ∀ trail, T trail → (other trail).Ends T F) : (o.orElse other).Ends T F := by
  cases o with
  | matched s => exact ho
  | failed trail => exact hother trail ho

/-- What one step of the matcher has to keep, so that a run keeps the invariant `I` of states and `T` of trails.
Where a pattern may move the start of the reported match, `moves` holds. -/
structure Kept (cx : Setting) (moves : Prop) (I : State → Prop) (T : Trail → Prop) : Prop where
  trail : ∀ {s}, I s → T s.trail
  after : ∀ {s trail}, I s → T trail → I (s.after trail)
  step : ∀ {s d n}, I s → cx.next? d s.pos = some n → I (s.step d)
  back : ∀ {s t}, I s → I t → I { t with pos := s.pos }
  capture : ∀ {s t number}, I s → I t → I (t.capture cx.referenced number s.pos t.pos)
  restore : ∀ {s t}, I s → I t → I { t with groups := s.groups }
  entering : ∀ {s}, I s → I s.entering
  deadEnd : ∀ {trail e}, T trail → T { trail with deadEnds := trail.deadEnds.insert e }
  startingHere : ∀ {s}, moves → I s → I s.startingHere
  putBack : ∀ {s trail}, moves → I s → T trail → T { trail with start := s.trail.start }

namespace Kept

variable {cx : Setting} {moves : Prop} {I : State → Prop} {T : Trail → Prop}

theorem fail (K : Kept cx moves I T) {F : State → Prop} {s : State} (hs : I s) : s.fail.Ends T F := K.trail hs

theorem passCodes (K : Kept cx moves I T) {k : Casing} {d : Direction} {codes : List Nat} {s t : State} (hs : I s)
    (h : cx.passCodes k d codes s = some t) : I t := by
  induction codes generalizing s with
  | nil => cases h; exact hs
  | cons c cs ih =>
    rw [Setting.passCodes] at h
    split at h
    · next n hn =>
      split at h
      · exact ih (K.step hs hn) h
      · cases h
    · cases h

theorem passFolded (K : Kept cx moves I T) {d : Direction} {rounds : Nat} {codes : List Nat} {s t : State} (hs : I s)
    (h : cx.passFolded d rounds codes s = some t) : I t := by
  induction rounds generalizing s codes with
  | zero =>
    cases codes with
    | nil => cases h; exact hs
    | cons c cs => cases h
  | succ rounds ih =>
    cases codes with
    | nil => cases h; exact hs
    | cons c cs =>
      cases hn : cx.next? d s.pos with
      | none => simp [Setting.passFolded, hn] at h
      | some n =>
        simp only [Setting.passFolded, hn] at h
        split at h
        · exact ih (K.step hs hn) h
        · cases h

theorem passGroup (K : Kept cx moves I T) {k : Casing} {d : Direction} {extent : Span} {s t : State} (hs : I s)
    (h : cx.passGroup k d extent s = some t) : I t := by
  unfold Setting.passGroup at h
  split at h
  · exact K.passFolded hs h
  · exact K.passCodes hs h

theorem andThen (K : Kept cx moves I T) {F : State → Prop} {s : State} {reached : Option State} {rest : Rest}
    (hs : I s) (hreached : ∀ t, reached = some t → I t) (hrest : ∀ t, I t → (rest t).Ends T F) :
    (s.andThen reached rest).Ends T F := by
  unfold State.andThen
  cases hr : reached with
  | none => exact K.fail hs
  | some t => exact hrest t (hreached t hr)

/-- A runner that keeps the invariant whatever comes after it. -/
def Runner (I : State → Prop) (T : Trail → Prop) (body : State → Rest → Attempt) : Prop :=
  ∀ (F : State → Prop) (s : State) (rest : Rest), I s → (∀ t, I t → (rest t).Ends T F) → (body s rest).Ends T F

theorem fromPlace (K : Kept cx moves I T) {F : State → Prop} {place : Option DeadEnd} {s : State}
    {goOn : Unit → Attempt} (hs : I s) (h : (goOn ()).Ends T F) : (Match.fromPlace place s goOn).Ends T F := by
  unfold Match.fromPlace
  cases place with
  | none => exact h
  | some e =>
    dsimp only
    split
    · exact K.fail hs
    · exact h.orElse fun trail htrail => K.deadEnd htrail

/-- The rounds of a repeat keep what its body keeps. -/
theorem rounds (K : Kept cx moves I T) {body : State → Rest → Attempt} (hbody : Runner I T body) {greed : Greed}
    {least : Nat} {most : Option Nat} {entry : Option Nat} {F : State → Prop} {rest : Rest}
    (hrest : ∀ t, I t → (rest t).Ends T F) (limit count : Nat) (s : State) (hs : I s) :
    (Match.rounds body greed least most entry rest limit count s).Ends T F := by
  induction limit generalizing count s with
  | zero => exact K.fail hs
  | succ limit ih =>
    have henter : ∀ trail, T trail → Attempt.Ends T F
        (if mayEnter most count then
          body (s.after trail) fun t =>
            if least ≤ count + 1 ∧ t.pos = s.pos ∧ t.changes = s.changes then rest t
            else Match.rounds body greed least most entry rest limit (count + 1) t
        else .failed trail) := by
      intro trail htrail
      split
      · refine hbody F _ _ (K.after hs htrail) fun t ht => ?_
        split
        · exact hrest t ht
        · exact ih (count + 1) t ht
      · exact htrail
    have hleave : ∀ trail, T trail → Attempt.Ends T F
        (if least ≤ count then rest (s.after trail) else .failed trail) := by
      intro trail htrail
      split
      · exact hrest _ (K.after hs htrail)
      · exact htrail
    rw [Match.rounds.eq_def]
    refine K.fromPlace hs ?_
    cases greed with
    | greedy => exact (henter _ (K.trail hs)).orElse hleave
    | «lazy» => exact (hleave _ (K.trail hs)).orElse henter

end Kept

section Run

variable {cx : Setting} {moves : Prop} {I : State → Prop} {T : Trail → Prop} {calls : Calls}

/-- **A run keeps an invariant** that every step of it keeps. -/
theorem run_kept (K : Kept cx moves I T) (hcalls : ∀ number d, Kept.Runner I T (calls number d)) (n : Node Nat)
    (hn : n.movesStart = true → moves) (d : Direction) : Kept.Runner I T (run cx calls n d) := by
  -- by the pattern: each step of a run keeps the invariant, and the ends of the parts are where the rest begins
  induction n generalizing d with
  | empty => intro F s rest hs hrest; exact hrest s hs
  | fail => intro F s rest hs _; exact K.fail hs
  | one t =>
    intro F s rest hs hrest
    rw [run]
    split
    · next m hm =>
      split
      · exact hrest _ (K.step hs hm)
      · exact K.fail hs
    · exact K.fail hs
  | folded codes =>
    intro F s rest hs hrest
    rw [run]
    exact K.andThen hs (fun t ht => K.passFolded hs ht) hrest
  | assertion a =>
    intro F s rest hs hrest
    rw [run]
    split
    · exact hrest s hs
    · exact K.fail hs
  | notAssertion a =>
    intro F s rest hs hrest
    rw [run]
    split
    · exact K.fail hs
    · exact hrest s hs
  | seq a b iha ihb =>
    intro F s rest hs hrest
    simp only [Node.movesStart, Bool.or_eq_true] at hn
    have ha := iha (fun h => hn (.inl h)) d
    have hb := ihb (fun h => hn (.inr h)) d
    cases d with
    | forward =>
      rw [run]
      exact ha F s _ hs fun t ht => hb F t rest ht hrest
    | backward =>
      rw [run]
      exact hb F s _ hs fun t ht => ha F t rest ht hrest
  | alt a b iha ihb =>
    intro F s rest hs hrest
    simp only [Node.movesStart, Bool.or_eq_true] at hn
    rw [run]
    refine (iha (fun h => hn (.inl h)) d F s rest hs hrest).orElse fun trail htrail => ?_
    exact ihb (fun h => hn (.inr h)) d F _ rest (K.after hs htrail) hrest
  | group number body ih =>
    intro F s rest hs hrest
    rw [run]
    exact ih hn d F s _ hs fun t ht => hrest _ (K.capture hs ht)
  | times greed least most body ih =>
    intro F s rest hs hrest
    rw [run]
    exact K.rounds (ih hn d) hrest _ _ _ (K.entering hs)
  | atomic body ih =>
    intro F s rest hs hrest
    rw [run]
    have hbody := ih hn d I s .matched hs fun t ht => ht
    split
    · next t h => rw [h] at hbody; exact hrest t hbody
    · next trail h => rw [h] at hbody; exact hbody
  | look behind positive body ih =>
    -- what is looked at has no rest of its own, so that its ends have the invariant themselves
    intro F s rest hs hrest
    rw [run]
    have hbody := ih hn (if behind then .backward else .forward) I s .matched hs fun t ht => ht
    split
    · next t h =>
      rw [h] at hbody
      split
      · exact hrest _ (K.back hs hbody)
      · exact K.fail hbody
    · next trail h =>
      rw [h] at hbody
      split
      · exact hbody
      · exact hrest _ (K.after hs hbody)
  | backref number k =>
    intro F s rest hs hrest
    rw [run]
    refine K.andThen hs (fun t ht => ?_) hrest
    obtain ⟨extent, -, h⟩ := Option.bind_eq_some_iff.mp ht
    exact K.passGroup hs h
  | ifGroup number yes no ihy ihn =>
    intro F s rest hs hrest
    simp only [Node.movesStart, Bool.or_eq_true] at hn
    rw [run]
    split
    · exact ihy (fun h => hn (.inl h)) d F s rest hs hrest
    · exact ihn (fun h => hn (.inr h)) d F s rest hs hrest
  | ifLook behind positive test yes no iht ihy ihn =>
    intro F s rest hs hrest
    simp only [Node.movesStart, Bool.or_eq_true] at hn
    have hyes := ihy (fun h => hn (.inl (.inr h))) d F
    have hno := ihn (fun h => hn (.inr h)) d F
    rw [run]
    have htest := iht (fun h => hn (.inl (.inl h))) (if behind then .backward else .forward) I s .matched hs
      fun t ht => ht
    split
    · next t h =>
      rw [h] at htest
      split
      · exact hyes _ rest (K.back hs htest) hrest
      · exact hno _ rest (K.after hs (K.trail htest)) hrest
    · next trail h =>
      rw [h] at htest
      dsimp only
      split
      · exact hno _ rest (K.after hs htest) hrest
      · exact hyes _ rest (K.after hs htest) hrest
  | call number => intro F s rest hs hrest; exact hcalls number d F s rest hs hrest
  | keep =>
    intro F s rest hs hrest
    have hmoves := hn rfl
    rw [run]
    exact (hrest _ (K.startingHere hmoves hs)).orElse fun trail htrail => K.putBack hmoves hs htrail

/-- A called group is part of the whole pattern. -/
theorem movesStart_of_bodyOf {number : Nat} {n b : Node Nat} (h : n.bodyOf number = some b) :
    b.movesStart = true → n.movesStart = true := by
  induction n with
  | group m body ih =>
    rw [Node.bodyOf] at h
    split at h
    · cases h; exact id
    · exact ih h
  | seq a c iha ihc | alt a c iha ihc | ifGroup m a c iha ihc =>
    simp only [Node.bodyOf, Option.orElse_eq_orElse, Option.orElse_eq_or, Option.or_eq_some_iff] at h
    simp only [Node.movesStart, Bool.or_eq_true]
    rcases h with h | ⟨-, h⟩
    · exact fun hb => .inl (iha h hb)
    · exact fun hb => .inr (ihc h hb)
  | times greed least most body ih | atomic body ih | look behind positive body ih => exact ih h
  | ifLook behind positive test yes no iht ihy ihn =>
    simp only [Node.bodyOf, Option.orElse_eq_orElse, Option.orElse_eq_or, Option.or_eq_some_iff] at h
    simp only [Node.movesStart, Bool.or_eq_true]
    rcases h with h | ⟨-, h | ⟨-, h⟩⟩
    · exact fun hb => .inl (.inl (iht h hb))
    · exact fun hb => .inl (.inr (ihy h hb))
    · exact fun hb => .inr (ihn h hb)
  | _ => cases h

/-- Calls keep an invariant, however deep they go. -/
theorem callsTo_kept (K : Kept cx moves I T) {whole : Node Nat} (hwhole : whole.movesStart = true → moves)
    (depth number : Nat) (d : Direction) : Kept.Runner I T (callsTo cx whole depth number d) := by
  induction depth generalizing number d with
  | zero => intro F s rest hs _; exact K.fail hs
  | succ depth ih =>
    intro F s rest hs hrest
    rw [callsTo]
    split
    · next body hbody =>
      have hmoves : body.movesStart = true → moves := by
        split at hbody
        · cases hbody; exact hwhole
        · exact fun h => hwhole (movesStart_of_bodyOf hbody h)
      exact run_kept K ih body hmoves d F s _ hs fun t ht => hrest _ (K.restore hs ht)
    · exact K.fail hs

end Run

/-! ### Whole patterns -/

namespace Program

variable {p : Program} {cx : Setting} {moves : Prop} {I : State → Prop} {T : Trail → Prop}

theorem runFrom_kept (K : Kept cx moves I T) (hmoves : p.node.movesStart = true → moves) {F : State → Prop} {pos : Nat}
    {rest : Rest} (hs : I (.initial pos p.groupCount)) (hrest : ∀ t, I t → (rest t).Ends T F) :
    (p.runFrom cx pos rest).Ends T F :=
  run_kept K (callsTo_kept K hmoves _) p.node hmoves .forward F _ rest hs hrest

/-- The ends that a run of a pattern from a place hands on have `J`, and what it leaves behind when it fails has `T`. -/
def Delivers (p : Program) (cx : Setting) (pos : Nat) (T : Trail → Prop) (J : State → Prop) : Prop :=
  ∀ (F : State → Prop) (rest : Rest), (∀ t, J t → (rest t).Ends T F) → (p.runFrom cx pos rest).Ends T F

section Delivers

variable {pos : Nat} {J : State → Prop}

theorem improve_delivers (hJ : ∀ t, J t → T t.trail) (h : p.Delivers cx pos T J) {among : State → Bool}
    {measure : State → Nat} (tries : Nat) {s : State} (hs : J s) : J (p.improve cx pos among measure tries s) := by
  induction tries generalizing s with
  | zero => exact hs
  | succ tries ih =>
    rw [improve]
    split
    · exact hs
    · have hbetter : ∀ t, J t →
          Attempt.Ends T J (if among t && decide (measure s < measure t) then .matched t else t.fail) := by
        intro t ht
        split
        · exact ht
        · exact hJ t ht
      have hrun := h J _ hbetter
      split
      · next t ht => rw [ht] at hrun; exact ih hrun
      · exact hs

theorem best_delivers (hJ : ∀ t, J t → T t.trail) (h : p.Delivers cx pos T J) (measures : List (State → Nat))
    {among : State → Bool} {s : State} (hs : J s) : J (p.best cx pos measures among s) := by
  induction measures generalizing among s with
  | nil => exact hs
  | cons measure measures ih => exact ih (improve_delivers hJ h _ hs)

/-- A match from a place is an end that a run from there hands on, whatever the setting remembers meanwhile. -/
theorem matchFrom_delivers (hJ : ∀ t, J t → T t.trail)
    (h : ∀ remembers, p.Delivers { cx with remembers := remembers } pos T J) : (p.matchFrom cx pos).Ends T J := by
  have hrun := h cx.remembers J .matched fun t ht => ht
  rw [matchFrom]
  split
  · next s hs =>
    rw [hs] at hrun
    show J _
    split
    · exact best_delivers hJ (h false) _ (improve_delivers hJ (h cx.remembers) _ hrun)
    · exact hrun
  · next trail ht => rw [ht] at hrun; exact hrun

end Delivers

/-- A match from a place keeps an invariant that does not depend on what the setting remembers. -/
theorem matchFrom_kept (K : ∀ remembers, Kept { cx with remembers := remembers } moves I T)
    (hmoves : p.node.movesStart = true → moves) {pos : Nat} (hinit : I (.initial pos p.groupCount)) :
    (p.matchFrom cx pos).Ends T I :=
  matchFrom_delivers (fun _ => (K cx.remembers).trail) fun r _ _ hrest => p.runFrom_kept (K r) hmoves hinit hrest

/-- A search finds what a match from some place comes to. -/
theorem exists_matchFrom_of_firstFrom {tries pos : Nat} {s : State} (h : p.firstFrom cx tries pos = some s) :
    ∃ b ≤ cx.text.size, p.matchFrom cx b = .matched s := by
  induction tries generalizing pos with
  | zero => cases h
  | succ tries ih =>
    rw [firstFrom] at h
    split at h
    · cases h
    · next hle =>
      split at h
      · exact ih h
      · split at h
        · next t ht => cases h; exact ⟨pos, Nat.le_of_not_lt hle, ht⟩
        · exact ih h

end Program

/-! ### Extents -/

/-- Everything that a state speaks of lies in a text of a size, and there are `count` groups. -/
structure State.Within (size count : Nat) (s : State) : Prop where
  pos_le : s.pos ≤ size
  start_le : s.trail.start ≤ size
  groups_length : s.groups.length = count
  group_le : ∀ e, some e ∈ s.groups → e.start ≤ e.stop ∧ e.stop ≤ size

theorem Setting.next?_forward_lt {cx : Setting} {pos n : Nat} (h : cx.next? .forward pos = some n) :
    pos < cx.text.size := by
  obtain ⟨c, hc, -⟩ := Option.map_eq_some_iff.mp h
  exact (Array.getElem?_eq_some_iff.mp hc).1

theorem State.Within.kept (cx : Setting) (count : Nat) :
    Kept cx True (State.Within cx.text.size count) fun trail => trail.start ≤ cx.text.size where
  trail hs := hs.start_le
  after hs ht := ⟨hs.pos_le, ht, hs.groups_length, hs.group_le⟩
  step {s d n} hs hn := by
    refine ⟨?_, ?_, ?_, ?_⟩
    · have hpos := hs.pos_le
      cases d with
      | forward => exact Setting.next?_forward_lt hn
      | backward => show s.pos - 1 ≤ _; omega
    all_goals cases d
    exacts [hs.start_le, hs.start_le, hs.groups_length, hs.groups_length, hs.group_le, hs.group_le]
  back hs ht := ⟨hs.pos_le, ht.start_le, ht.groups_length, ht.group_le⟩
  capture {s t number} hs ht := by
    unfold State.capture
    split
    · exact ht
    · have h1 := hs.pos_le
      have h2 := ht.pos_le
      refine ⟨ht.pos_le, ht.start_le, ?_, fun e he => ?_⟩
      · show (t.groups.set _ _).length = count
        rw [List.length_set]
        exact ht.groups_length
      · rcases List.mem_or_eq_of_mem_set he with he | he
        · exact ht.group_le e he
        · cases he
          show min _ _ ≤ max _ _ ∧ max _ _ ≤ _
          omega
  restore hs ht := ⟨ht.pos_le, ht.start_le, hs.groups_length, hs.group_le⟩
  entering hs := ⟨hs.pos_le, hs.start_le, hs.groups_length, hs.group_le⟩
  deadEnd ht := ht
  startingHere _ hs := ⟨hs.pos_le, hs.pos_le, hs.groups_length, hs.group_le⟩
  putBack _ hs _ := hs.start_le

theorem State.Within.initial {size pos : Nat} (count : Nat) (h : pos ≤ size) :
    (State.initial pos count).Within size count where
  pos_le := h
  start_le := h
  groups_length := List.length_replicate ..
  group_le e he := by cases List.eq_of_mem_replicate he

theorem Program.matchFrom_within {p : Program} {cx : Setting} {pos : Nat} {s : State} (hpos : pos ≤ cx.text.size)
    (h : p.matchFrom cx pos = .matched s) : s.Within cx.text.size p.groupCount := by
  have K : ∀ r, Kept { cx with remembers := r } True (State.Within cx.text.size p.groupCount) fun trail =>
      trail.start ≤ cx.text.size := fun r => State.Within.kept { cx with remembers := r } p.groupCount
  have hends := p.matchFrom_kept K (fun _ => trivial) (State.Within.initial p.groupCount hpos)
  rw [h] at hends
  exact hends

/-- At a place of the text a search begins there. -/
theorem Program.search_of_le {p : Program} {text : Array Char} {pos : Nat} (h : pos ≤ text.size) :
    p.search text pos = (p.firstFrom (p.setting text pos) (text.size + 1 - pos) pos).map State.found := by
  rw [search, Nat.min_eq_left h]

theorem Program.search_within {p : Program} {text : Array Char} {pos : Nat} {m : Found}
    (h : p.search text pos = some m) : m.Within text.size p.groupCount := by
  obtain ⟨s, hs, rfl⟩ := Option.map_eq_some_iff.mp h
  obtain ⟨b, hb, hm⟩ := exists_matchFrom_of_firstFrom hs
  have hw := matchFrom_within hb hm
  exact ⟨hw.start_le, hw.pos_le, hw.groups_length, hw.group_le⟩

theorem Program.matchAt_within {p : Program} {text : Array Char} {pos : Nat} {m : Found}
    (h : p.matchAt text pos = some m) : m.Within text.size p.groupCount := by
  obtain ⟨s, hs, rfl⟩ := Option.map_eq_some_iff.mp h
  cases hm : p.matchFrom (p.setting text (min pos text.size)) (min pos text.size) with
  | failed trail => rw [hm] at hs; cases hs
  | matched t =>
    rw [hm] at hs
    cases hs
    have hw := matchFrom_within (Nat.min_le_right ..) hm
    exact ⟨hw.start_le, hw.pos_le, hw.groups_length, hw.group_le⟩

namespace Found.Within

variable {m : Found} {size count : Nat}

/-- A group of the pattern has an extent or took no part. -/
theorem exists_span? (h : m.Within size count) {group : Nat} (hg : group ≤ count) : ∃ e, m.span? group = some e := by
  unfold Found.span?
  split
  · exact ⟨_, rfl⟩
  · have hlt : group - 1 < m.groups.length := by rw [h.groups_length]; omega
    exact ⟨_, List.getElem?_eq_getElem hlt⟩

/-- A match says nothing of a group that the pattern does not have. -/
theorem span?_eq_none (h : m.Within size count) {group : Nat} (hg : count < group) : m.span? group = none := by
  unfold Found.span?
  rw [if_neg (by omega), List.getElem?_eq_none]
  rw [h.groups_length]
  omega

theorem span?_le (h : m.Within size count) (hm : m.start ≤ m.stop) {group : Nat} {e : Span}
    (he : m.span? group = some (some e)) : e.start ≤ e.stop := by
  unfold Found.span? at he
  split at he
  · cases he; exact hm
  · exact (h.group_le e (List.mem_of_getElem? he)).1

end Found.Within

/-! ### A group around the whole -/

theorem State.span?_capture {s : State} {referenced : List Nat} {number a b : Nat} (hpos : 1 ≤ number)
    (hle : number ≤ s.groups.length) :
    (s.capture referenced number a b).span? number = some ⟨min a b, max a b⟩ := by
  have hne : number ≠ 0 := by omega
  have hlt : number - 1 < s.groups.length := by omega
  simp only [capture, span?, if_neg hne, List.getElem?_set_self hlt, Option.join_some]

theorem State.span?_found {s : State} {number : Nat} {e : Span} (h : s.span? number = some e) :
    s.found.span? number = some (some e) := by
  unfold State.span? at h
  unfold Found.span?
  split at h
  · cases h
  · next hne =>
    rw [if_neg hne]
    exact Option.join_eq_some_iff.mp h

/-- **A group around the whole pattern takes part in every match.** -/
theorem Program.search_whole_group {p : Program} {number : Nat} {body : Node Nat} (hnode : p.node = .group number body)
    (hpos : 1 ≤ number) (hle : number ≤ p.groupCount) {text : Array Char} {pos : Nat} {m : Found}
    (h : p.search text pos = some m) :
    ∃ e, m.span? number = some (some e) ∧ e.start ≤ e.stop ∧ e.stop ≤ text.size := by
  obtain ⟨s, hs, rfl⟩ := Option.map_eq_some_iff.mp h
  obtain ⟨b, hb, hm⟩ := exists_matchFrom_of_firstFrom hs
  -- the body of the group is run first, then the group is kept: the ends have it although no step keeps that
  have hdelivers : ∀ r, p.Delivers { p.setting text (min pos text.size) with remembers := r } b
      (fun trail => trail.start ≤ text.size) fun t => t.Within text.size p.groupCount ∧ ∃ e, t.span? number = some e := by
    intro r F rest hrest
    have K := State.Within.kept { p.setting text (min pos text.size) with remembers := r } p.groupCount
    have hinit := State.Within.initial p.groupCount hb
    unfold runFrom
    rw [hnode, run]
    refine run_kept K (callsTo_kept K (fun _ => trivial) _) body (fun _ => trivial) .forward F _ _ hinit fun t ht => ?_
    refine hrest _ ⟨K.capture hinit ht, _, State.span?_capture hpos ?_⟩
    rw [ht.groups_length]
    exact hle
  have hends := matchFrom_delivers (fun t ht => ht.1.start_le) hdelivers
  rw [hm] at hends
  obtain ⟨hwithin, e, he⟩ := hends
  refine ⟨e, State.span?_found he, hwithin.group_le e ?_⟩
  unfold State.span? at he
  rw [if_neg (by omega)] at he
  exact List.mem_of_getElem? (Option.join_eq_some_iff.mp he)

/-! ### The start of the match -/

/-- Without `\K` a run leaves the start of the reported match where it is. -/
theorem start_kept (cx : Setting) (T : Nat → Prop) :
    Kept cx False (fun s => T s.trail.start) fun trail => T trail.start where
  trail hs := hs
  after _ ht := ht
  step {_ d _} hs _ := by cases d <;> exact hs
  back _ ht := ht
  capture _ ht := by unfold State.capture; split <;> exact ht
  restore _ ht := ht
  entering hs := hs
  deadEnd ht := ht
  startingHere h := h.elim
  putBack h := h.elim

/-- Without `\K` a match starts where its attempt began, and so does a failed attempt. -/
theorem Program.matchFrom_start {p : Program} {cx : Setting} {pos : Nat} (hp : p.node.movesStart = false) :
    (p.matchFrom cx pos).Ends (fun trail => trail.start = pos) fun s => s.trail.start = pos := by
  have K : ∀ r, Kept { cx with remembers := r } False (fun s => s.trail.start = pos) fun trail =>
      trail.start = pos := fun r => start_kept { cx with remembers := r } (· = pos)
  exact p.matchFrom_kept K (fun h => by simp [hp] at h) rfl

end SqlRegexp.Match
