import Mathlib.Data.List.Forall2
import Mathlib.Tactic.Common
import SqlRegexp.Pattern.Source
import SqlRegexp.Proofs.Match.Renumbering

/-!
Patterns that differ in the numbers of their groups only.

`Node.Counterpart n n'`: the pattern `n'` is `n` with every number raised, wherever in a text the references of both
stand. Lists of counterparts make counterparts (`Counterpart.ofList`, `Counterpart.choice`), and **counterparts resolve
alike** (`Counterpart.resolve`) once the references themselves do.
-/

namespace SqlRegexp.Pattern

open SqlRegexp.Match

/-- The name of a group after one more group has been opened before it. -/
def GroupName.raised : GroupName → GroupName
  | .number n => .number (Match.raised n)
  | .name cs => .name cs

/-- Two results are both there and stand in a relation, or neither is there. -/
inductive Both {α β ε ε' : Type} (R : α → β → Prop) : Except ε α → Except ε' β → Prop
  | ok {a b} : R a b → Both R (.ok a) (.ok b)
  | error (e e') : Both R (.error e) (.error e')

namespace Both

variable {α β γ δ ε ε' : Type} {R : α → β → Prop} {Q : γ → δ → Prop} {o : Except ε α} {o' : Except ε' β}

theorem bind {k : α → Except ε γ} {k' : β → Except ε' δ} (h : Both R o o') (hk : ∀ a b, R a b → Both Q (k a) (k' b)) :
    Both Q (o >>= k) (o' >>= k') := by
  cases h with
  | ok h => exact hk _ _ h
  | error e e' => exact .error e e'

theorem map {f : α → γ} {f' : β → δ} (h : Both R o o') (hf : ∀ a b, R a b → Q (f a) (f' b)) :
    Both Q (o.map f) (o'.map f') := by
  cases h with
  | ok h => exact .ok (hf _ _ h)
  | error e e' => exact .error e e'

theorem mapError {φ φ' : Type} (f : ε → φ) (f' : ε' → φ') (h : Both R o o') :
    Both R (o.mapError f) (o'.mapError f') := by
  cases h with
  | ok h => exact .ok h
  | error e e' => exact .error (f e) (f' e')

theorem exists_ok {a : α} (h : Both R (.ok a : Except ε α) o') : ∃ b, o' = .ok b ∧ R a b := by
  cases h with
  | ok h => exact ⟨_, rfl, h⟩

theorem ok_iff (h : Both R o o') : (∃ b, o' = .ok b) ↔ ∃ a, o = .ok a := by
  cases h with
  | ok h => exact ⟨fun _ => ⟨_, rfl⟩, fun _ => ⟨_, rfl⟩⟩
  | error e e' => exact ⟨fun ⟨_, h⟩ => (nomatch h), fun ⟨_, h⟩ => nomatch h⟩

end Both

namespace Node

variable {ρ σ : Type} {f : ρ → σ} {g : Nat → Nat}

theorem relabelled_eq_fail {n : Node ρ} : n.relabelled f g = .fail ↔ n = .fail := by
  cases n <;> simp [relabelled]

@[simp] theorem isTrivial_relabelled (n : Node ρ) : (n.relabelled f g).isTrivial = n.isTrivial := by
  induction n with
  | alt a b iha ihb =>
    rw [relabelled]
    by_cases hb : b = .fail
    · subst hb
      exact iha
    · have hb' : b.relabelled f g ≠ .fail := fun h => hb (relabelled_eq_fail.mp h)
      rw [isTrivial.eq_4 _ _ hb', isTrivial.eq_4 _ _ hb, iha, ihb]
  | _ => simp_all [relabelled, isTrivial]

theorem relabelled_ofList (ns : List (Node ρ)) : (ofList ns).relabelled f g = ofList (ns.map (relabelled f g)) := by
  induction ns with
  | nil => rfl
  | cons n ns ih =>
    cases ns with
    | nil => rfl
    | cons m ms => exact congrArg (Node.seq (n.relabelled f g)) ih

theorem relabelled_foldr (ns : List (Node ρ)) :
    (ns.foldr alt fail).relabelled f g = (ns.map (relabelled f g)).foldr alt fail := by
  induction ns with
  | nil => rfl
  | cons n ns ih => exact congrArg (Node.alt (n.relabelled f g)) ih

theorem relabelled_choice (ns : List (Node ρ)) : (choice ns).relabelled f g = choice (ns.map (relabelled f g)) := by
  match ns with
  | [] | [_] => rfl
  | n :: m :: ms => exact relabelled_foldr (n :: m :: ms)

/-! ### Counterparts -/

/-- One pattern is the other with every number raised. Where references stand does not matter. -/
def Counterpart (n n' : Node Reference) : Prop :=
  n'.relabelled Reference.group id = n.relabelled (fun r => r.group.raised) raised

namespace Counterpart

variable {a a' b b' c c' : Node Reference}

theorem isTrivial (h : Counterpart a a') : a'.isTrivial = a.isTrivial := by
  rw [← isTrivial_relabelled (f := Reference.group) (g := id) a', h, isTrivial_relabelled]

theorem group (n : Nat) (h : Counterpart a a') : Counterpart (.group n a) (.group (raised n) a') :=
  congrArg (Node.group (raised n)) h

theorem times (g : Greed) (l : Nat) (m : Option Nat) (h : Counterpart a a') :
    Counterpart (.times g l m a) (.times g l m a') := congrArg (Node.times g l m) h

theorem atomic (h : Counterpart a a') : Counterpart (.atomic a) (.atomic a') := congrArg Node.atomic h

theorem look (behind positive : Bool) (h : Counterpart a a') :
    Counterpart (.look behind positive a) (.look behind positive a') := congrArg (Node.look behind positive) h

theorem backref {r r' : Reference} (k : Casing) (h : r'.group = r.group.raised) :
    Counterpart (.backref r k) (.backref r' k) := congrArg (Node.backref · k) h

theorem call {r r' : Reference} (h : r'.group = r.group.raised) : Counterpart (.call r) (.call r') :=
  congrArg Node.call h

theorem ifGroup {r r' : Reference} (h : r'.group = r.group.raised) (ha : Counterpart a a') (hb : Counterpart b b') :
    Counterpart (.ifGroup r a b) (.ifGroup r' a' b') := by
  unfold Counterpart at *
  rw [relabelled, relabelled, h, ha, hb]

theorem ifLook (behind positive : Bool) (ha : Counterpart a a') (hb : Counterpart b b') (hc : Counterpart c c') :
    Counterpart (.ifLook behind positive a b c) (.ifLook behind positive a' b' c') := by
  unfold Counterpart at *
  rw [relabelled, relabelled, ha, hb, hc]

theorem map_relabelled {ns ns' : List (Node Reference)} (h : List.Forall₂ Counterpart ns ns') :
    ns'.map (relabelled Reference.group id) = ns.map (relabelled (fun r => r.group.raised) raised) := by
  induction h with
  | nil => rfl
  | cons h _ ih =>
    rw [List.map_cons, List.map_cons, ih]
    exact congrArg (· :: _) h

theorem ofList {ns ns' : List (Node Reference)} (h : List.Forall₂ Counterpart ns ns') :
    Counterpart (.ofList ns) (.ofList ns') := by
  unfold Counterpart
  rw [relabelled_ofList, relabelled_ofList, map_relabelled h]

theorem choice {ns ns' : List (Node Reference)} (h : List.Forall₂ Counterpart ns ns') :
    Counterpart (.choice ns) (.choice ns') := by
  unfold Counterpart
  rw [relabelled_choice, relabelled_choice, map_relabelled h]

/-! ### Resolving -/

section Resolve

variable {ε ε' : Type} {onReference onChoice onCall : Reference → Except ε Nat}
  {onReference' onChoice' onCall' : Reference → Except ε' Nat}

/-- Two ways to resolve references give the same numbers, but for one group more in front. -/
def ResolveAlike (f : Reference → Except ε Nat) (f' : Reference → Except ε' Nat) : Prop :=
  ∀ r r' : Reference, r'.group = r.group.raised → Both (fun n n' => n' = raised n) (f r) (f' r')

/-- **Counterparts resolve alike**: both do, to patterns with raised numbers, or neither does. -/
theorem resolve (hr : ResolveAlike onReference onReference') (hc : ResolveAlike onChoice onChoice')
    (hl : ResolveAlike onCall onCall') {n n' : Node Reference} (h : Counterpart n n') :
    Both (fun m m' => m' = m.renumbered raised) (n.resolve onReference onChoice onCall)
      (n'.resolve onReference' onChoice' onCall') := by
  induction n generalizing n' with
  | empty | fail | one | folded | assertion | notAssertion | keep =>
    cases n' <;> cases h
    exact .ok rfl
  | seq a b iha ihb =>
    cases n' with
    | seq a' b' =>
      simp only [Counterpart, relabelled, seq.injEq] at h
      refine (iha h.1).bind fun m m' hm => (ihb h.2).bind fun k k' hk => ?_
      rw [hm, hk]
      exact .ok rfl
    | _ => cases h
  | alt a b iha ihb =>
    cases n' with
    | alt a' b' =>
      simp only [Counterpart, relabelled, alt.injEq] at h
      refine (iha h.1).bind fun m m' hm => (ihb h.2).bind fun k k' hk => ?_
      rw [hm, hk]
      exact .ok rfl
    | _ => cases h
  | group i a ih =>
    cases n' with
    | group i' a' =>
      simp only [Counterpart, relabelled, group.injEq, id_eq] at h
      refine (ih h.2).bind fun m m' hm => ?_
      rw [hm, h.1]
      exact .ok rfl
    | _ => cases h
  | times g l m a ih =>
    cases n' with
    | times g' l' m' a' =>
      simp only [Counterpart, relabelled, times.injEq] at h
      obtain ⟨rfl, rfl, rfl, ha⟩ := h
      refine (ih ha).bind fun m m' hm => ?_
      rw [hm]
      exact .ok rfl
    | _ => cases h
  | atomic a ih =>
    cases n' with
    | atomic a' =>
      simp only [Counterpart, relabelled, atomic.injEq] at h
      refine (ih h).bind fun m m' hm => ?_
      rw [hm]
      exact .ok rfl
    | _ => cases h
  | look behind positive a ih =>
    cases n' with
    | look behind' positive' a' =>
      simp only [Counterpart, relabelled, look.injEq] at h
      obtain ⟨rfl, rfl, ha⟩ := h
      refine (ih ha).bind fun m m' hm => ?_
      rw [hm]
      exact .ok rfl
    | _ => cases h
  | backref r k =>
    cases n' with
    | backref r' k' =>
      simp only [Counterpart, relabelled, backref.injEq] at h
      obtain ⟨hg, rfl⟩ := h
      refine (hr _ _ hg).bind fun m m' hm => ?_
      rw [hm]
      exact .ok rfl
    | _ => cases h
  | ifGroup r yes no ihy ihn =>
    cases n' with
    | ifGroup r' yes' no' =>
      simp only [Counterpart, relabelled, ifGroup.injEq] at h
      obtain ⟨hg, hy, hn⟩ := h
      refine (hc _ _ hg).bind fun i i' hi => (ihy hy).bind fun m m' hm => (ihn hn).bind fun k k' hk => ?_
      rw [hi, hm, hk]
      exact .ok rfl
    | _ => cases h
  | ifLook behind positive test yes no iht ihy ihn =>
    cases n' with
    | ifLook behind' positive' test' yes' no' =>
      simp only [Counterpart, relabelled, ifLook.injEq] at h
      obtain ⟨rfl, rfl, ht, hy, hn⟩ := h
      refine (iht ht).bind fun l l' hl => (ihy hy).bind fun m m' hm => (ihn hn).bind fun k k' hk => ?_
      rw [hl, hm, hk]
      exact .ok rfl
    | _ => cases h
  | call r =>
    cases n' with
    | call r' =>
      simp only [Counterpart, relabelled, call.injEq] at h
      refine (hl _ _ h).bind fun m m' hm => ?_
      rw [hm]
      exact .ok rfl
    | _ => cases h

end Resolve

end Counterpart

end Node

end SqlRegexp.Pattern
