import SqlRegexp.Proofs.Pattern.Counterpart

/-!
Patterns whose end anchors hold at the end of the text only.

`Node.pinned` replaces every end of a line by the end of the text and leaves everything else as it is: nothing else at all
where no end of a line is asked for (`pinned_eq_self`). `Node.PinsTo n n'` says that `n'` is `n` pinned, wherever in a
text the references of both stand, and **a pattern that can be resolved can be resolved once it is pinned**
(`PinsTo.resolve`).
-/

namespace SqlRegexp.Pattern

def Assertion.isLineEnd : Assertion → Bool
  | endOfLastLine _ | endOfLine _ => true
  | _ => false

/-- A place, with the end of the text for the end of a line. -/
def Assertion.pinned (a : Assertion) : Assertion := if a.isLineEnd then .endOfText else a

namespace Node

variable {ρ σ τ ε : Type}

/-- A pattern, with the end of the text for every end of a line. -/
def pinned : Node ρ → Node ρ
  | assertion a => .assertion a.pinned
  | seq a b => .seq a.pinned b.pinned
  | alt a b => .alt a.pinned b.pinned
  | group n b => .group n b.pinned
  | times greed least most b => .times greed least most b.pinned
  | atomic b => .atomic b.pinned
  | look behind positive b => .look behind positive b.pinned
  | ifGroup r yes no => .ifGroup r yes.pinned no.pinned
  | ifLook behind positive test yes no => .ifLook behind positive test.pinned yes.pinned no.pinned
  | n => n

def asksLineEnd : Node ρ → Bool
  | assertion a => a.isLineEnd
  | seq a b => a.asksLineEnd || b.asksLineEnd
  | alt a b => a.asksLineEnd || b.asksLineEnd
  | group _ b => b.asksLineEnd
  | times _ _ _ b => b.asksLineEnd
  | atomic b => b.asksLineEnd
  | look _ _ b => b.asksLineEnd
  | ifGroup _ yes no => yes.asksLineEnd || no.asksLineEnd
  | ifLook _ _ test yes no => test.asksLineEnd || yes.asksLineEnd || no.asksLineEnd
  | _ => false

/-- A pinned pattern asks for the end of no line. -/
@[simp] theorem asksLineEnd_pinned (n : Node ρ) : n.pinned.asksLineEnd = false := by
  induction n with
  | assertion a => cases a <;> rfl
  | _ => simp_all [pinned, asksLineEnd]

/-- A pattern that asks for the end of no line is left as it is. -/
theorem pinned_eq_self {n : Node ρ} (h : n.asksLineEnd = false) : n.pinned = n := by
  induction n with
  | assertion a => cases a <;> first | rfl | cases h
  | _ => simp_all [pinned, asksLineEnd]

theorem pinned_eq_fail {n : Node ρ} : n.pinned = .fail ↔ n = .fail := by
  cases n <;> simp [pinned]

@[simp] theorem isTrivial_pinned (n : Node ρ) : n.pinned.isTrivial = n.isTrivial := by
  induction n with
  | alt a b iha ihb =>
    rw [pinned]
    by_cases hb : b = .fail
    · subst hb
      exact iha
    · have hb' : b.pinned ≠ .fail := fun h => hb (pinned_eq_fail.mp h)
      rw [isTrivial.eq_4 _ _ hb', isTrivial.eq_4 _ _ hb, iha, ihb]
  | _ => simp_all [pinned, isTrivial]

theorem pinned_ofList (ns : List (Node ρ)) : (ofList ns).pinned = ofList (ns.map pinned) := by
  induction ns with
  | nil => rfl
  | cons n ns ih =>
    cases ns with
    | nil => rfl
    | cons m ms => exact congrArg (Node.seq n.pinned) ih

theorem pinned_foldr (ns : List (Node ρ)) : (ns.foldr alt fail).pinned = (ns.map pinned).foldr alt fail := by
  induction ns with
  | nil => rfl
  | cons n ns ih => exact congrArg (Node.alt n.pinned) ih

theorem pinned_choice (ns : List (Node ρ)) : (choice ns).pinned = choice (ns.map pinned) := by
  match ns with
  | [] | [_] => rfl
  | n :: m :: ms => exact pinned_foldr (n :: m :: ms)

/-! ### Resolving -/

section Resolve

variable {onReference onChoice onCall onReference' onChoice' onCall' : ρ → Except ε τ}

/-- Pinning changes no reference. -/
theorem resolve_pinned (n : Node ρ) :
    n.pinned.resolve onReference onChoice onCall = (n.resolve onReference onChoice onCall).map pinned := by
  induction n with
  | empty | fail | one | folded | assertion | notAssertion | keep => rfl
  | seq a b iha ihb | alt a b iha ihb =>
    simp only [pinned, resolve, iha, ihb]
    cases a.resolve onReference onChoice onCall <;> cases b.resolve onReference onChoice onCall <;> rfl
  | group _ b ih | times _ _ _ b ih | atomic b ih | look _ _ b ih =>
    simp only [pinned, resolve, ih]
    cases b.resolve onReference onChoice onCall <;> rfl
  | backref r k =>
    simp only [pinned, resolve]
    cases onReference r <;> rfl
  | call r =>
    simp only [pinned, resolve]
    cases onCall r <;> rfl
  | ifGroup r yes no ihy ihn =>
    simp only [pinned, resolve, ihy, ihn]
    cases onChoice r <;> cases yes.resolve onReference onChoice onCall <;>
      cases no.resolve onReference onChoice onCall <;> rfl
  | ifLook _ _ test yes no iht ihy ihn =>
    simp only [pinned, resolve, iht, ihy, ihn]
    cases test.resolve onReference onChoice onCall <;> cases yes.resolve onReference onChoice onCall <;>
      cases no.resolve onReference onChoice onCall <;> rfl

/-- References may be changed before they are resolved. -/
theorem resolve_relabelled (φ : σ → ρ) (n : Node σ) :
    (n.relabelled φ id).resolve onReference onChoice onCall =
      n.resolve (onReference ∘ φ) (onChoice ∘ φ) (onCall ∘ φ) := by
  induction n <;> simp_all [relabelled, resolve]

/-- Two computations, the second of which gives all that the first does, followed by two such. -/
theorem bind_mono {α β : Type} {o o' : Except ε α} {k k' : α → Except ε β} (h : ∀ a, o = .ok a → o' = .ok a)
    (hk : ∀ a b, k a = .ok b → k' a = .ok b) {b : β} (hb : o >>= k = .ok b) : o' >>= k' = .ok b := by
  cases o with
  | error e => cases hb
  | ok a =>
    rw [h a rfl]
    exact hk a b hb

/-- A pattern that can be resolved is resolved alike by whatever finds the same groups. -/
theorem resolve_mono (hr : ∀ r k, onReference r = .ok k → onReference' r = .ok k)
    (hc : ∀ r k, onChoice r = .ok k → onChoice' r = .ok k) (hl : ∀ r k, onCall r = .ok k → onCall' r = .ok k)
    {n : Node ρ} {m : Node τ} (h : n.resolve onReference onChoice onCall = .ok m) :
    n.resolve onReference' onChoice' onCall' = .ok m := by
  induction n generalizing m with
  | empty | fail | one | folded | assertion | notAssertion | keep => exact h
  | seq a b iha ihb | alt a b iha ihb =>
    exact bind_mono (fun _ => iha) (fun _ _ => bind_mono (fun _ => ihb) fun _ _ => id) h
  | group _ b ih | times _ _ _ b ih | atomic b ih | look _ _ b ih => exact bind_mono (fun _ => ih) (fun _ _ => id) h
  | backref r k => exact bind_mono (hr r) (fun _ _ => id) h
  | call r => exact bind_mono (hl r) (fun _ _ => id) h
  | ifGroup r yes no ihy ihn =>
    exact bind_mono (hc r) (fun _ _ => bind_mono (fun _ => ihy) fun _ _ => bind_mono (fun _ => ihn) fun _ _ => id) h
  | ifLook _ _ test yes no iht ihy ihn =>
    exact bind_mono (fun _ => iht)
      (fun _ _ => bind_mono (fun _ => ihy) fun _ _ => bind_mono (fun _ => ihn) fun _ _ => id) h

end Resolve

/-! ### Pinned patterns whose references stand elsewhere -/

/-- One pattern is the other pinned. Where references stand does not matter. -/
def PinsTo (n n' : Node Reference) : Prop := n'.relabelled Reference.group id = n.pinned.relabelled Reference.group id

namespace PinsTo

variable {a a' b b' c c' : Node Reference}

/-- A pattern that asks for the end of no line is its own pinned pattern. -/
theorem self (h : a.asksLineEnd = false) : PinsTo a a := by
  unfold PinsTo
  rw [pinned_eq_self h]

theorem isTrivial (h : PinsTo a a') : a'.isTrivial = a.isTrivial := by
  rw [← isTrivial_relabelled (f := Reference.group) (g := id) a', h, isTrivial_relabelled, isTrivial_pinned]

theorem group (n : Nat) (h : PinsTo a a') : PinsTo (.group n a) (.group n a') := congrArg (Node.group n) h

theorem times (g : Greed) (l : Nat) (m : Option Nat) (h : PinsTo a a') : PinsTo (.times g l m a) (.times g l m a') :=
  congrArg (Node.times g l m) h

theorem atomic (h : PinsTo a a') : PinsTo (.atomic a) (.atomic a') := congrArg Node.atomic h

theorem look (behind positive : Bool) (h : PinsTo a a') :
    PinsTo (.look behind positive a) (.look behind positive a') := congrArg (Node.look behind positive) h

theorem backref (g : GroupName) (place place' : Nat) (k : Casing) :
    PinsTo (.backref ⟨g, place⟩ k) (.backref ⟨g, place'⟩ k) := rfl

theorem call (g : GroupName) (place place' : Nat) : PinsTo (.call ⟨g, place⟩) (.call ⟨g, place'⟩) := rfl

theorem ifGroup (g : GroupName) (place place' : Nat) (ha : PinsTo a a') (hb : PinsTo b b') :
    PinsTo (.ifGroup ⟨g, place⟩ a b) (.ifGroup ⟨g, place'⟩ a' b') := by
  unfold PinsTo at *
  rw [relabelled, pinned, relabelled, ha, hb]

theorem ifLook (behind positive : Bool) (ha : PinsTo a a') (hb : PinsTo b b') (hc : PinsTo c c') :
    PinsTo (.ifLook behind positive a b c) (.ifLook behind positive a' b' c') := by
  unfold PinsTo at *
  rw [relabelled, pinned, relabelled, ha, hb, hc]

theorem map_relabelled {ns ns' : List (Node Reference)} (h : List.Forall₂ PinsTo ns ns') :
    ns'.map (relabelled Reference.group id) = (ns.map pinned).map (relabelled Reference.group id) := by
  induction h with
  | nil => rfl
  | cons h _ ih =>
    rw [List.map_cons, List.map_cons, List.map_cons, ih]
    exact congrArg (· :: _) h

theorem ofList {ns ns' : List (Node Reference)} (h : List.Forall₂ PinsTo ns ns') : PinsTo (.ofList ns) (.ofList ns') := by
  unfold PinsTo
  rw [pinned_ofList, relabelled_ofList, relabelled_ofList, map_relabelled h]

theorem choice {ns ns' : List (Node Reference)} (h : List.Forall₂ PinsTo ns ns') :
    PinsTo (.choice ns) (.choice ns') := by
  unfold PinsTo
  rw [pinned_choice, relabelled_choice, relabelled_choice, map_relabelled h]

/-- Which group a reference finds does not depend on where it stands. -/
def FindsByName (f : Reference → Except ε Nat) : Prop :=
  ∀ r r' : Reference, r'.group = r.group → ∀ k, f r = .ok k → f r' = .ok k

/-- **A pattern that can be resolved can be resolved once it is pinned**, to the pinned pattern. -/
theorem resolve {onReference onChoice onCall : Reference → Except ε Nat} (hr : FindsByName onReference)
    (hc : FindsByName onChoice) (hl : FindsByName onCall) (h : PinsTo a a') {m : Node Nat}
    (hm : a.resolve onReference onChoice onCall = .ok m) : a'.resolve onReference onChoice onCall = .ok m.pinned := by
  have hpinned : a.pinned.resolve onReference onChoice onCall = .ok m.pinned := by
    rw [resolve_pinned, hm]
    rfl
  -- references are resolved as if all stood at the same place
  have hnames := resolve_mono (fun r => hr r ⟨r.group, 0⟩ rfl) (fun r => hc r ⟨r.group, 0⟩ rfl)
    (fun r => hl r ⟨r.group, 0⟩ rfl) hpinned
  have hrelabelled (n : Node Reference) :
      (n.relabelled Reference.group id).resolve (fun g => onReference ⟨g, 0⟩) (fun g => onChoice ⟨g, 0⟩)
        (fun g => onCall ⟨g, 0⟩) = _ := resolve_relabelled Reference.group n
  have hsame := (hrelabelled a').symm.trans ((congrArg _ h).trans ((hrelabelled a.pinned).trans hnames))
  have hback {f : Reference → Except ε Nat} (hf : FindsByName f) (r : Reference) (k : Nat)
      (h : ((fun g => f ⟨g, 0⟩) ∘ Reference.group) r = .ok k) : f r = .ok k := hf ⟨r.group, 0⟩ r rfl k h
  exact resolve_mono (hback hr) (hback hc) (hback hl) hsame

end PinsTo

end Node

end SqlRegexp.Pattern
