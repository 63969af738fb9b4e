import SqlRegexp.Proofs.Pattern.Running

/-!
Reading goes onward.

`Onward n r`: from a place with at most `n` characters left the reader `r` never goes back behind it, and at the end of
the text no option for the whole pattern turns up any more. Every reader goes onward, up to `Onward.sequence` and
`Onward.choiceOf`. So the rounds and the depth that the length of a pattern allows are never used up, and a reader that
is at the end of the text stays there.
-/

namespace SqlRegexp.Pattern

open SqlRegexp.Text SqlRegexp.Unicode

namespace Source

theorem length_skipIgnored (inComment : Bool) (cs : List Char) : (skipIgnored inComment cs).length ≤ cs.length := by
  induction cs generalizing inComment with
  | nil => cases inComment <;> exact Nat.le_refl _
  | cons c cs ih =>
    have hfalse := ih false
    have htrue := ih true
    cases inComment <;> simp only [skipIgnored, List.length_cons]
    · split
      · omega
      · split
        · omega
        · exact Nat.le_refl _
    · split <;> omega

theorem length_seen (skipping : Bool) (cs : List Char) : (seen skipping cs).length ≤ cs.length := by
  unfold seen
  split
  · exact length_skipIgnored false cs
  · exact Nat.le_refl _

theorem length_visible (s : Source) : s.visible.length ≤ s.rest.length := length_seen s.skipping s.rest

theorem visible_eq_nil {s : Source} (h : s.rest = []) : s.visible = [] := by
  have hlen := s.length_visible
  rw [h] at hlen
  exact List.length_eq_zero_iff.mp (Nat.le_zero.mp hlen)

theorem length_gather (p : Char → Bool) (inComment : Bool) (cs : List Char) :
    (gather p inComment cs).2.length ≤ cs.length := by
  induction cs generalizing inComment with
  | nil => cases inComment <;> exact Nat.le_refl _
  | cons c cs ih =>
    have hfalse := ih false
    have htrue := ih true
    cases inComment <;> simp only [gather, List.length_cons]
    · split
      · omega
      · split
        · omega
        · split
          · dsimp only
            omega
          · exact Nat.le_refl _
    · split <;> omega

/-- What no reader changes: the length of the pattern, and the options that hold for all of it. -/
def frame (s : Source) : Nat × Options := (s.total, s.globals)

theorem length_taken (skipping : Bool) (p : Char → Bool) (cs : List Char) :
    (taken skipping p cs).2.length ≤ cs.length := by
  unfold taken
  split
  · exact length_gather p false cs
  · exact (List.dropWhile_suffix p).length_le

end Source

namespace Reading

variable {α β : Type} {n : Nat}

/-- What is read goes on with at most `n` characters left of a pattern that has its frame. Options for the whole pattern
come to those that hold for it already, and at the end of the text none turn up. -/
def Stays (n : Nat) (frame : Nat × Options) : Except Refusal (α × Source) → Prop
  | .ok (_, t) => t.rest.length ≤ n ∧ t.frame = frame
  | .error (.again g) => 0 < n ∧ ∃ more : Options, g = frame.2.union more.global
  | .error _ => True

/-- From a place with at most `n` characters left a reader never goes back behind it. -/
def Onward (n : Nat) (r : Reading α) : Prop := ∀ s : Source, s.rest.length ≤ n → Stays n s.frame (r.run s)

theorem Stays.bind {frame : Nat × Options} {o : Except Refusal (α × Source)}
    {f : α × Source → Except Refusal (β × Source)} (ho : Stays n frame o)
    (hf : ∀ a t, t.rest.length ≤ n → t.frame = frame → Stays n frame (f (a, t))) :
    Stays n frame (o >>= f) := by
  cases o with
  | ok p => exact hf p.1 p.2 ho.1 ho.2
  | error e => cases e <;> exact ho

namespace Onward

theorem pure (a : α) : Onward n (Pure.pure a : Reading α) := fun _ hs => ⟨hs, rfl⟩

theorem failAt (cause : Cause) (place : Nat) : Onward n (Reading.failAt cause place : Reading α) := fun _ _ => trivial

theorem fail (cause : Cause) : Onward n (Reading.fail cause : Reading α) := fun _ _ => trivial

theorem bind {r : Reading α} {k : α → Reading β} (hr : Onward n r) (hk : ∀ a, Onward n (k a)) :
    Onward n (r >>= k) := fun s hs => (hr s hs).bind fun a t hlen hframe => hframe ▸ hk a t hlen

theorem either {c : Prop} [Decidable c] {r r' : Reading α} (h : Onward n r) (h' : Onward n r') :
    Onward n (if c then r else r') := by
  split
  · exact h
  · exact h'

theorem map {r : Reading α} (f : α → β) (hr : Onward n r) : Onward n (f <$> r) := by
  rw [map_eq_bind]
  exact hr.bind fun a => .pure _

/-- A step that changes neither what is left to read nor the frame of the pattern. -/
theorem modify {f : Source → Source} (h : ∀ s, (f s).rest = s.rest ∧ (f s).frame = s.frame) :
    Onward n (modify f : Reading PUnit) := fun s hs => ⟨by rw [(h s).1]; exact hs, (h s).2⟩

theorem get_bind {k : Source → Reading β} (hk : ∀ s : Source, s.rest.length ≤ n → Onward n (k s)) :
    Onward n (get >>= k) := fun s hs => hk s hs s hs

theorem mark_bind {k : List Char → Reading β} (hk : ∀ here : List Char, here.length ≤ n → Onward n (k here)) :
    Onward n (mark >>= k) := fun s hs => hk s.rest hs s hs

theorem pos_bind {k : Nat → Reading β} (hk : ∀ place, Onward n (k place)) : Onward n (Reading.pos >>= k) :=
  fun s hs => hk s.pos s hs

theorem casing_bind {k : Casing → Reading β} (hk : ∀ c, Onward n (k c)) : Onward n (casing >>= k) :=
  fun s hs => hk s.options.casing s hs

theorem rewind {here : List Char} (h : here.length ≤ n) : Onward n (Reading.rewind here) := fun _ _ => ⟨h, rfl⟩

theorem nextRaw : Onward n Reading.nextRaw := by
  intro s hs
  rw [run_nextRaw]
  exact ⟨by rw [Source.leaving_rest, List.length_tail]; omega, rfl⟩

theorem next : Onward n Reading.next := by
  intro s hs
  have := s.length_visible
  rw [run_next]
  exact ⟨by rw [Source.leaving_rest, List.length_tail]; omega, rfl⟩

theorem verbatim_next : Onward n (verbatim Reading.next) := by
  intro s hs
  rw [run_verbatim_next]
  exact ⟨by rw [Source.leaving_rest, List.length_tail]; omega, rfl⟩

theorem peek : Onward n Reading.peek := fun _ hs => ⟨hs, rfl⟩

theorem accept (cs : List Char) : Onward n (Reading.accept cs) := by
  intro s hs
  have := s.length_visible
  rw [run_accept]
  split
  · exact ⟨by rw [Source.leaving_rest, List.length_drop]; omega, rfl⟩
  · exact ⟨hs, rfl⟩

theorem acceptChar (c : Char) : Onward n (Reading.acceptChar c) := accept [c]

theorem expect (c : Char) : Onward n (Reading.expect c) := by
  refine (acceptChar c).bind fun found => ?_
  cases found
  · exact fail _
  · exact pure ()

theorem takeWhile (p : Char → Bool) : Onward n (Reading.takeWhile p) := by
  intro s hs
  have := Source.length_taken s.skipping p s.rest
  rw [run_takeWhile]
  exact ⟨by rw [Source.leaving_rest]; omega, rfl⟩

theorem takeWhileRaw (p : Char → Bool) : Onward n (Reading.takeWhileRaw p) := by
  refine mark_bind fun here hh => (rewind ?_).bind fun _ => .pure _
  exact Nat.le_trans (List.dropWhile_suffix p).length_le hh

theorem numeral (x : Except NumeralError α) : Onward n (Reading.numeral x) := by
  cases x with
  | ok a => exact pure a
  | error e => exact fun _ _ => trivial

theorem setOptions (o : Options) : Onward n (Reading.setOptions o) := modify fun _ => ⟨rfl, rfl⟩

theorem closeGroup : Onward n Reading.closeGroup := modify fun _ => ⟨rfl, rfl⟩

theorem openGroup (name : Option (List Char)) : Onward n (Reading.openGroup name) := by
  intro s hs
  unfold Reading.openGroup
  rw [run_get_bind]
  cases name.bind s.number? with
  | some m => exact ⟨hs, rfl⟩
  | none => exact ⟨hs, rfl⟩

theorem isOpen (group : GroupName) : Onward n (Reading.isOpen group) := by
  refine get_bind fun s _ => ?_
  cases group
  · exact pure _
  · exact pure _

theorem verbatim {r : Reading α} (hr : Onward n r) : Onward n (Reading.verbatim r) := by
  refine get_bind fun s _ => Onward.bind (modify fun _ => ⟨rfl, rfl⟩) fun _ => hr.bind fun a => ?_
  exact Onward.bind (modify fun _ => ⟨rfl, rfl⟩) fun _ => pure a

theorem enclosed {r : Reading α} (hr : Onward n r) : Onward n (Reading.enclosed r) :=
  get_bind fun _ _ => hr.bind fun a => (setOptions _).bind fun _ => .pure a

theorem closed {r : Reading α} (hr : Onward n r) : Onward n (Reading.closed r) :=
  enclosed (hr.bind fun a => (expect ')').bind fun _ => .pure a)

theorem attempt {r : Reading α} (hr : Onward n r) : Onward n (Reading.attempt r) := by
  intro s hs
  have h := hr s hs
  unfold Reading.attempt
  rw [run_get_bind]
  cases hrun : r.run s with
  | ok p =>
    rw [hrun] at h
    exact h
  | error e =>
    rw [hrun] at h
    cases e with
    | malformed cause place => exact ⟨hs, rfl⟩
    | numeral e => trivial
    | again o => exact h

theorem nameFrom (numeric : Bool) (cs : List Char) : Onward n (Reading.nameFrom numeric cs) := by
  refine either (fail _) (either (either (fail _) ((numeral _).bind fun m => either (fail _) (pure _))) ?_)
  exact either (fail _) (pure _)

theorem groupName (numeric : Bool) : Onward n (Reading.groupName numeric) :=
  (takeWhile _).bind fun cs => nameFrom numeric cs

/-! ### Escapes -/

theorem hexDigits (letter : Char) (start width : Nat) (digits : List Char) :
    Onward n (Reading.hexDigits letter start width digits) := by
  induction width generalizing digits with
  | zero => exact pure _
  | succ width ih =>
    rw [Reading.hexDigits]
    refine next.bind fun c => ?_
    split
    · split
      · exact ih _
      · exact failAt _ _
    · exact failAt _ _

theorem hexEscape (letter : Char) (width : Nat) : Onward n (Reading.hexEscape letter width) := by
  refine pos_bind fun start => (hexDigits _ _ _ _).bind fun digits => ?_
  dsimp only
  split
  · exact (failAt _ _).bind fun _ => pure _
  · exact pure _

theorem octalDigits (width : Nat) : Onward n (Reading.octalDigits width) := by
  induction width with
  | zero => exact pure _
  | succ width ih =>
    rw [Reading.octalDigits]
    refine mark_bind fun here hh => next.bind fun c => ?_
    split
    · split
      · exact ih.bind fun _ => pure _
      · exact (rewind hh).bind fun _ => pure _
    · exact (rewind hh).bind fun _ => pure _

theorem octalEscape (first : Char) : Onward n (Reading.octalEscape first) := by
  refine (octalDigits 2).bind fun more => ?_
  split
  · exact pure _
  · exact fail _

theorem propertyName : Onward n Reading.propertyName := by
  refine (takeWhileRaw _).bind fun name => mark_bind fun here hh => next.bind fun c => ?_
  split
  · split
    · refine (takeWhileRaw _).bind fun value => ?_
      split
      · exact (rewind hh).bind fun _ => pure _
      · exact pure _
    · exact (rewind hh).bind fun _ => pure _
  · exact (rewind hh).bind fun _ => pure _

theorem namedProperty (name : Option (List Char) × List Char) (positive : Bool) (scope : Option Repertoire)
    (bracketed : Bool) : Onward n (Reading.namedProperty name positive scope bracketed) := by
  unfold Reading.namedProperty
  split
  · exact pure _
  · exact fail _

theorem propertyEscape (positive : Bool) : Onward n (Reading.propertyEscape positive) := by
  refine mark_bind fun here hh => get_bind fun s _ => next.bind fun c => ?_
  have hback : Onward n (do Reading.rewind here; return Escaped.literal (if positive then 'p'.toNat else 'P'.toNat)) :=
    (rewind hh).bind fun _ => pure _
  dsimp only
  split
  · refine (acceptChar _).bind fun negated => propertyName.bind fun name => (acceptChar _).bind fun found => ?_
    cases found
    · exact hback
    · exact (namedProperty _ _ _ _).bind fun _ => pure _
  · exact either ((namedProperty _ _ _ _).bind fun _ => pure _) hback
  · exact hback

theorem nameEscape : Onward n Reading.nameEscape := by
  refine mark_bind fun here hh => (acceptChar _).bind fun found => ?_
  have hback : Onward n (do Reading.rewind here; return Escaped.literal 'N'.toNat) := (rewind hh).bind fun _ => pure _
  cases found
  · exact hback
  · refine (takeWhileRaw _).bind fun name => (acceptChar _).bind fun found => ?_
    generalize codeNamed? name = code
    cases found
    · exact hback
    · cases code
      · exact (fail _).bind fun _ => hback
      · exact pure _

theorem commonEscape (c : Char) : Onward n (Reading.commonEscape c) := by
  unfold Reading.commonEscape
  split
  · exact get_bind fun s _ => pure _
  · split
    · exact pure _
    · split
      · exact fail _
      · exact pure _

theorem memberEscape (c : Char) : Onward n (Reading.memberEscape c) := by
  unfold Reading.memberEscape
  split
  · exact (hexEscape _ _).map _
  · exact either nameEscape (either (propertyEscape _) (either ((octalEscape _).map _) (commonEscape _)))

theorem classEscape : Onward n Reading.classEscape := by
  refine verbatim_next.bind fun c => ?_
  cases c with
  | none => exact fail _
  | some c => exact (memberEscape c).bind fun _ => pure _

theorem backreference (group : GroupName) (place : Nat) : Onward n (Reading.backreference group place) :=
  casing_bind fun _ => pure _

theorem bracketReference : Onward n Reading.bracketReference := by
  refine (expect _).bind fun _ => pos_bind fun start => (groupName _).bind fun group => (expect _).bind fun _ => ?_
  exact (isOpen _).bind fun _ => either (fail _) (backreference _ _)

theorem nodeOf (e : Escaped) : Onward n (Reading.nodeOf e) := by
  cases e
  · exact casing_bind fun _ => pure _
  · exact pure _
  · exact casing_bind fun _ => pure _
  · exact pure _

theorem digitReference (number : Nat) {back : List Char} (hback : back.length ≤ n) :
    Onward n (Reading.digitReference number back) :=
  (rewind hback).bind fun _ => (isOpen _).bind fun _ => either (fail _) (pos_bind fun _ => backreference _ _)

theorem digitEscape (first : Char) : Onward n (Reading.digitEscape first) := by
  refine mark_bind fun afterFirst hfirst => next.bind fun second => ?_
  cases second with
  | none => exact digitReference _ hfirst
  | some second =>
    refine either (mark_bind fun afterSecond hsecond => next.bind fun third => ?_) (digitReference _ hfirst)
    cases third with
    | none => exact digitReference _ hsecond
    | some third => exact either (get_bind fun s _ => nodeOf _) (digitReference _ hsecond)

theorem bracketEscape : Onward n Reading.bracketEscape := by
  refine (attempt bracketReference).bind fun found => ?_
  cases found
  · exact nodeOf _
  · exact pure _

theorem listEscape : Onward n Reading.listEscape :=
  (expect _).bind fun _ => (groupName _).bind fun _ => (expect _).bind fun _ => fail _

theorem escapeOf (c : Char) : Onward n (Reading.escapeOf c) := by
  refine get_bind fun s _ => ?_
  split
  · exact (hexEscape _ _).bind fun _ => nodeOf _
  · exact pure _
  · refine either bracketEscape (either listEscape (either (nameEscape.bind nodeOf) (either ?_ (either (pure _) ?_))))
    · exact (propertyEscape _).bind nodeOf
    · exact either ((octalEscape _).bind fun _ => nodeOf _)
        (either (digitEscape _) ((commonEscape _).bind nodeOf))

theorem escape : Onward n Reading.escape := by
  refine verbatim_next.bind fun c => ?_
  cases c with
  | none => exact fail _
  | some c => exact escapeOf c

/-! ### Classes -/

theorem namedClass : Onward n Reading.namedClass := by
  refine (acceptChar _).bind fun negated => propertyName.bind fun name => (accept _).bind fun found => ?_
  cases found
  · exact pure _
  · exact (namedProperty _ _ _ _).bind fun _ => pure _

theorem classChar : Onward n Reading.classChar := by
  refine next.bind fun c => ?_
  cases c
  · exact fail _
  · exact pure _

theorem namedMember : Onward n Reading.namedMember :=
  (accept _).bind fun _ => either namedClass (pure none)

theorem classMember : Onward n Reading.classMember := by
  refine (acceptChar _).bind fun escaped => ?_
  cases escaped
  · refine mark_bind fun here hh => namedMember.bind fun named => ?_
    cases named
    · exact (rewind hh).bind fun _ => classChar
    · exact pure _
  · exact classEscape

theorem rangeFrom (low : Trait) : Onward n (Reading.rangeFrom low) := by
  cases low
  · refine (acceptChar _).bind fun hyphen => ?_
    cases hyphen
    · exact pure _
    · refine mark_bind fun here hh => (acceptChar _).bind fun closing => ?_
      cases closing
      · refine classMember.bind fun high => ?_
        cases high
        · exact either ((fail _).bind fun _ => pure _) (pure _)
        · exact pure _
        · exact pure _
      · exact (rewind hh).bind fun _ => pure _
  · exact pure _
  · exact pure _

theorem classRange : Onward n Reading.classRange := classMember.bind rangeFrom

theorem classMembers (limit : Nat) : Onward n (Reading.classMembers limit) := by
  induction limit with
  | zero => exact fail _
  | succ limit ih =>
    rw [Reading.classMembers]
    refine classRange.bind fun here => (acceptChar _).bind fun closing => ?_
    cases closing
    · exact ih.bind fun _ => pure _
    · exact pure _

theorem classOf (limit : Nat) (k : Casing) : Onward n (Reading.classOf limit k) :=
  (acceptChar _).bind fun _ => (classMembers _).bind fun _ => pure _

theorem bracket : Onward n Reading.bracket := get_bind fun _ _ => verbatim (classOf _ _)

/-! ### Quantifiers and options -/

theorem optionalNumeral (digits : List Char) : Onward n (Reading.optionalNumeral digits) :=
  either (pure none) ((numeral _).map some)

theorem boundsOf (start : Nat) (low high : List Char) : Onward n (Reading.boundsOf start low high) :=
  (optionalNumeral low).bind fun _ => (optionalNumeral high).bind fun _ =>
    either (failAt _ _) (either (failAt _ _) (pure _))

theorem constraintsAhead : Onward n Reading.constraintsAhead :=
  mark_bind fun _ hh => (takeWhile _).bind fun _ => next.bind fun _ => (rewind hh).bind fun _ => pure _

theorem braceBounds : Onward n Reading.braceBounds := by
  refine pos_bind fun start => mark_bind fun here hh => (takeWhile _).bind fun low =>
    (acceptChar _).bind fun comma => ?_
  have hupper : Onward n (Reading.upperDigits comma low) := either (takeWhile _) (pure low)
  refine hupper.bind fun high => (acceptChar _).bind fun closing => ?_
  exact either ((rewind hh).bind fun _ => constraintsAhead.bind fun _ => either (failAt _ _) (pure _)) (boundsOf _ _ _)

theorem bounds (c : Char) : Onward n (Reading.bounds c) := by
  unfold Reading.bounds
  split
  · exact pure _
  · exact pure _
  · exact pure _
  · exact braceBounds

theorem quantified (node : Node Reference) (b : Bounds) : Onward n (Reading.quantified node b) := by
  refine mark_bind fun here hh => next.bind fun c => ?_
  dsimp only
  split
  · exact (pure _).bind fun _ => pure _
  · exact (pure _).bind fun _ => pure _
  · exact (rewind hh).bind fun _ => (pure _).bind fun _ => pure _

theorem optionLetters (limit : Nat) (o : Options) : Onward n (Reading.optionLetters limit o) := by
  induction limit generalizing o with
  | zero => exact pure _
  | succ limit ih =>
    rw [Reading.optionLetters]
    refine mark_bind fun here hh => next.bind fun c => ?_
    split
    · exact ih _
    · exact (rewind hh).bind fun _ => pure _

/-- At the end of the text there are no option letters. -/
theorem run_optionLetters_of_nil {s : Source} (hs : s.rest = []) (limit : Nat) (o : Options) :
    (Reading.optionLetters limit o).run s = .ok (o, s) := by
  cases limit with
  | zero => rfl
  | succ limit =>
    have hvisible : s.visible = [] := by
      rw [Source.visible_eq, hs]
      unfold Source.seen
      split <;> rfl
    rw [Reading.optionLetters, run_mark_bind, run_next_bind, hvisible]
    show (Reading.rewind s.rest >>= fun _ => Pure.pure o).run _ = _
    rw [run_rewind_bind, Source.leaving_leaving, Source.leaving_self]
    rfl

section Parentheses

variable {sequence alternatives : Reading (Node Reference)}

theorem optionScope {on off : Options} (hon : n = 0 → on = {}) (ha : Onward n alternatives) :
    Onward n (Reading.optionScope on off alternatives) := by
  intro s hs
  unfold Reading.optionScope
  rw [run_get_bind]
  split
  · trivial
  · split
    · trivial
    · split
      · next h =>
        refine ⟨Nat.pos_of_ne_zero fun hn => ?_, on, rfl⟩
        rw [hon hn] at h
        simp [Options.global, Options.without, Options.isEmpty] at h
      · refine Onward.bind (acceptChar _) (fun inside => either (enclosed ?_) ?_) s hs
        · exact (setOptions _).bind fun _ => ha.bind fun _ => (expect _).bind fun _ => pure _
        · exact (acceptChar _).bind fun atEnd => either ((setOptions _).bind fun _ => pure _) (fail _)

theorem optionGroup (ha : Onward n alternatives) : Onward n (Reading.optionGroup alternatives) := by
  refine get_bind fun s _ => ?_
  rcases Nat.eq_zero_or_pos n with rfl | hn
  · -- at the end of the text no letter is read
    intro t ht
    rw [run_bind_of_ok (run_optionLetters_of_nil (List.length_eq_zero_iff.mp (Nat.le_zero.mp ht)) _ _)]
    refine Onward.bind (acceptChar _) (fun found => either ?_ (optionScope (fun _ => rfl) ha)) t ht
    exact (optionLetters _ _).bind fun off => either (fail _) (optionScope (fun _ => rfl) ha)
  · have hon : ∀ on : Options, n = 0 → on = {} := fun on h => absurd h (Nat.ne_of_gt hn)
    refine (optionLetters _ _).bind fun on => (acceptChar _).bind fun found => either ?_ (optionScope (hon on) ha)
    exact (optionLetters _ _).bind fun off => either (fail _) (optionScope (hon on) ha)

theorem groupOf (number : Nat) (ha : Onward n alternatives) : Onward n (Reading.groupOf number alternatives) :=
  ha.closed.bind fun _ => closeGroup.bind fun _ => pure _

theorem groupBody (name : Option (List Char)) {beforeBody : Reading Unit} (hb : Onward n beforeBody)
    (ha : Onward n alternatives) : Onward n (Reading.groupBody name beforeBody alternatives) :=
  (openGroup _).bind fun number => hb.bind fun _ => groupOf number ha

theorem namedGroup (ha : Onward n alternatives) : Onward n (Reading.namedGroup alternatives) := by
  refine (groupName _).bind fun name => ?_
  cases name
  · exact fail _
  · exact groupBody _ (expect _) ha

theorem lookaround (behind positive : Bool) (ha : Onward n alternatives) :
    Onward n (Reading.lookaround behind positive alternatives) := ha.closed.bind fun _ => pure _

theorem comment (limit : Nat) : Onward n (Reading.comment limit) := by
  induction limit with
  | zero => exact fail _
  | succ limit ih =>
    rw [Reading.comment]
    refine mark_bind fun here hh => nextRaw.bind fun c => ?_
    split
    · exact nextRaw.bind fun _ => ih
    · exact (rewind hh).bind fun _ => expect _
    · exact (rewind hh).bind fun _ => expect _
    · exact ih

theorem branches (hs : Onward n sequence) : Onward n (Reading.branches sequence) := by
  refine hs.bind fun yes => (acceptChar _).bind fun found => either (hs.bind fun no => ?_) ?_
  · exact (expect _).bind fun _ => pure _
  · exact (expect _).bind fun _ => pure _

theorem choiceByLook (behind positive : Bool) (hs : Onward n sequence) (ha : Onward n alternatives) :
    Onward n (Reading.choiceByLook behind positive sequence alternatives) :=
  ha.closed.bind fun _ => (branches hs).bind fun _ => pure _

theorem choiceFor (group : Reference) (hs : Onward n sequence) : Onward n (Reading.choiceFor group sequence) :=
  (branches hs).bind fun _ => pure _

theorem choiceByGroup (start : Nat) (hs : Onward n sequence) : Onward n (Reading.choiceByGroup start sequence) :=
  (groupName _).bind fun _ => (expect _).bind fun _ => choiceFor _ hs

theorem conditional (hs : Onward n sequence) (ha : Onward n alternatives) :
    Onward n (Reading.conditional sequence alternatives) := by
  refine pos_bind fun start => mark_bind fun here hh => ?_
  have hrefuse : Onward n (do Reading.rewind here; Reading.fail .expectedLookaround : Reading (Node Reference)) :=
    (rewind hh).bind fun _ => fail _
  refine next.bind fun c => either (next.bind fun c => ?_) ((rewind hh).bind fun _ => enclosed (choiceByGroup _ hs))
  split
  · exact choiceByLook _ _ hs ha
  · exact choiceByLook _ _ hs ha
  · refine next.bind fun c => ?_
    split
    · exact choiceByLook _ _ hs ha
    · exact choiceByLook _ _ hs ha
    · exact hrefuse
  · exact hrefuse

theorem resetBranches (hs : Onward n sequence) (first limit : Nat) :
    Onward n (Reading.resetBranches sequence first limit) := by
  induction limit with
  | zero => exact fail _
  | succ limit ih =>
    rw [Reading.resetBranches]
    refine Onward.bind (modify fun _ => ⟨rfl, rfl⟩) fun _ => hs.bind fun node => get_bind fun s _ => ?_
    exact (acceptChar _).bind fun found => either (ih.bind fun _ => pure _) (pure _)

theorem branchReset (hs : Onward n sequence) : Onward n (Reading.branchReset sequence) := by
  refine get_bind fun s _ => (resetBranches hs _ _).bind fun ns => ?_
  exact Onward.bind (modify fun _ => ⟨rfl, rfl⟩) fun _ => (expect _).bind fun _ => pure _

theorem numberedCall (digits : List Char) (start : Nat) : Onward n (Reading.numberedCall digits start) :=
  (takeWhile _).bind fun _ => (expect _).bind fun _ => pure _

theorem relativeCall (forward : Bool) (start : Nat) : Onward n (Reading.relativeCall forward start) := by
  refine (takeWhile _).bind fun digits => either (fail _) ((numeral _).bind fun offset => get_bind fun s _ => ?_)
  exact either (fail _) ((expect _).bind fun _ => pure _)

theorem wholeCall (start : Nat) : Onward n (Reading.wholeCall start) := (expect _).bind fun _ => pure _

theorem namedCall (start : Nat) : Onward n (Reading.namedCall start) :=
  (groupName _).bind fun _ => (expect _).bind fun _ => pure _

theorem extension (ha : Onward n alternatives) : Onward n (Reading.extension alternatives) := by
  refine pos_bind fun start => mark_bind fun here hh => next.bind fun c => ?_
  split
  · exact namedGroup ha
  · refine (groupName _).bind fun group => (expect _).bind fun _ => (isOpen _).bind fun found => ?_
    exact either (failAt _ _) (backreference _ _)
  · exact namedCall _
  · exact namedCall _
  · exact (rewind hh).bind fun _ => fail _

theorem angled (ha : Onward n alternatives) : Onward n (Reading.angled alternatives) := by
  refine mark_bind fun here hh => next.bind fun c => ?_
  split
  · exact lookaround _ _ ha
  · exact lookaround _ _ ha
  · exact (rewind hh).bind fun _ => namedGroup ha

theorem questioned (hs : Onward n sequence) (ha : Onward n alternatives) :
    Onward n (Reading.questioned sequence alternatives) := by
  refine pos_bind fun start => mark_bind fun here hh => ?_
  have hoptions : Onward n (do Reading.rewind here; Reading.optionGroup alternatives) :=
    (rewind hh).bind fun _ => optionGroup ha
  refine nextRaw.bind fun c => ?_
  split
  · exact (angled ha).map _
  · exact (lookaround _ _ ha).map _
  · exact (lookaround _ _ ha).map _
  · exact (extension ha).map _
  · exact get_bind fun s _ => (comment _).bind fun _ => pure _
  · exact (conditional hs ha).map _
  · exact ha.closed.map _
  · exact (branchReset hs).map _
  · exact (wholeCall _).map _
  · exact (namedCall _).map _
  · refine either ((numberedCall _ _).map _) (peek.bind fun c => ?_)
    exact either ((relativeCall _ _).map _) hoptions
  · exact hoptions

theorem verb (word : List Char) (start : Nat) : Onward n (Reading.verb word start) :=
  either ((expect _).bind fun _ => pure _) (failAt _ _)

theorem starred {here : List Char} (hh : here.length ≤ n) (ha : Onward n alternatives) :
    Onward n (Reading.starred alternatives here) := by
  refine pos_bind fun start => (takeWhile _).bind fun word => either (verb _ _) ((rewind hh).bind fun _ => ?_)
  exact groupBody none (pure ()) ha

theorem parenthesis (hs : Onward n sequence) (ha : Onward n alternatives) :
    Onward n (Reading.parenthesis sequence alternatives) := by
  refine mark_bind fun here hh => nextRaw.bind fun c => ?_
  split
  · exact questioned hs ha
  · exact (starred hh ha).map _
  · exact (rewind hh).bind fun _ => (groupBody none (pure ()) ha).map _

end Parentheses

/-! ### Sequences -/

theorem repeated (start : Nat) (b : Bounds) (items : Items) : Onward n (Reading.repeated start b items) := by
  unfold Reading.repeated
  split
  · exact (quantified _ _).bind fun _ => pure _
  · exact failAt _ _
  · exact failAt _ _
  · exact failAt _ _

theorem element {sequence alternatives : Reading (Node Reference)} (hs : Onward n sequence)
    (ha : Onward n alternatives) (start : Nat) (c : Char) (k : Casing) (items : Items) :
    Onward n (Reading.element sequence alternatives start c k items) := by
  unfold Reading.element
  split
  · exact escape.bind fun _ => pure _
  · refine (parenthesis hs ha).bind fun found => ?_
    cases found
    · exact casing_bind fun _ => pure _
    · exact pure _
  · exact bracket.bind fun _ => pure _
  · refine either (get_bind fun s _ => pure _) (either ((bounds _).bind fun found => ?_) (pure _))
    cases found
    · exact pure _
    · exact (repeated _ _ _).bind fun _ => pure _

theorem elements {sequence alternatives : Reading (Node Reference)} (hs : Onward n sequence)
    (ha : Onward n alternatives) (limit : Nat) (k : Casing) (items : Items) :
    Onward n (Reading.elements sequence alternatives limit k items) := by
  induction limit generalizing k items with
  | zero => exact fail _
  | succ limit ih =>
    rw [Reading.elements]
    refine pos_bind fun start => mark_bind fun here hh => next.bind fun c => ?_
    split
    · exact (rewind hh).bind fun _ => pure _
    · exact (rewind hh).bind fun _ => pure _
    · exact (rewind hh).bind fun _ => pure _
    · exact (element hs ha _ _ _ _).bind fun p => ih _ _

theorem alternativesOf {sequence : Reading (Node Reference)} (hs : Onward n sequence) (limit : Nat) :
    Onward n (Reading.alternativesOf sequence limit) := by
  induction limit with
  | zero => exact fail _
  | succ limit ih =>
    rw [Reading.alternativesOf]
    exact hs.bind fun _ => (acceptChar _).bind fun _ => either (ih.bind fun _ => pure _) (pure _)

theorem choiceOf {sequence : Reading (Node Reference)} (hs : Onward n sequence) :
    Onward n (Reading.choiceOf sequence) := get_bind fun _ _ => (alternativesOf hs _).bind fun _ => pure _

/-- **Reading a sequence goes onward**, however deep its parentheses may be nested. -/
theorem sequence (depth : Nat) : Onward n (Reading.sequence depth) := by
  induction depth with
  | zero => exact fail _
  | succ depth ih => exact get_bind fun _ _ => (elements ih (choiceOf ih) _ _ _).bind fun _ => pure _

end Onward

end Reading

end SqlRegexp.Pattern
