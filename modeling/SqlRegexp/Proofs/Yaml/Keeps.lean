/-!
Steps that keep an invariant.

Reading a text, building a graph and looking at it are steps over a state that may give up. What every step of such work
keeps, and for which reasons it gives up, is put together from its parts.
-/

namespace SqlRegexp.Yaml

variable {σ ε α β : Type} {I : σ → Prop} {E : ε → Prop}

/-- What a run comes to: an outcome and a state with `Q`, or it has been given up for a reason with `E`. -/
def Ends (Q : α → σ → Prop) (E : ε → Prop) (r : Except ε (α × σ)) : Prop :=
  (∀ a t, r = .ok (a, t) → Q a t) ∧ ∀ e, r = .error e → E e

/-- A step that keeps an invariant of the state, and gives up for a reason of one sort only. -/
def Keeps (I : σ → Prop) (E : ε → Prop) (m : StateT σ (Except ε) α) : Prop :=
  ∀ s, I s → Ends (fun _ => I) E (m.run s)

namespace Ends

variable {Q : α → σ → Prop} {R : β → σ → Prop}

theorem ok {a : α} {t : σ} (h : Q a t) : Ends Q E (.ok (a, t)) := by
  refine ⟨fun b t' h' => ?_, fun e h' => nomatch h'⟩
  cases h'
  exact h

theorem error {e : ε} (h : E e) : Ends Q E (.error e : Except ε (α × σ)) := by
  refine ⟨fun a t h' => (nomatch h'), fun e' h' => ?_⟩
  cases h'
  exact h

theorem bind {m : StateT σ (Except ε) α} {f : α → StateT σ (Except ε) β} {s : σ} (hm : Ends Q E (m.run s))
    (hf : ∀ a t, Q a t → Ends R E ((f a).run t)) : Ends R E ((m >>= f).run s) := by
  have hrun : (m >>= f).run s = (m.run s).bind fun p => (f p.1).run p.2 := rfl
  rw [hrun]
  cases hm' : m.run s with
  | ok p => exact hf p.1 p.2 (hm.1 p.1 p.2 hm')
  | error e => exact .error (hm.2 e hm')

/-- A first part whose outcome is known is passed. -/
theorem bind_of_ok {m : StateT σ (Except ε) α} {f : α → StateT σ (Except ε) β} {s t : σ} {a : α}
    (hm : m.run s = .ok (a, t)) (hf : Ends R E ((f a).run t)) : Ends R E ((m >>= f).run s) := by
  have hrun : (m >>= f).run s = (m.run s).bind fun p => (f p.1).run p.2 := rfl
  rw [hrun, hm]
  exact hf

/-- Steps one after another: each moves the state on by a relation and has an outcome with a property, which later moves
leave as it is. -/
theorem mapM {B : σ → σ → Prop} {Q : β → σ → Prop} (hrefl : ∀ s, B s s) (htrans : ∀ {s t u}, B s t → B t u → B s u)
    (hQ : ∀ b {s t}, B s t → Q b s → Q b t) {f : α → StateT σ (Except ε) β} {as : List α}
    (h : ∀ a ∈ as, ∀ s, Ends (fun b t => B s t ∧ Q b t) E ((f a).run s)) (s : σ) :
    Ends (fun bs t => B s t ∧ ∀ b ∈ bs, Q b t) E ((as.mapM f).run s) := by
  induction as generalizing s with
  | nil => exact .ok ⟨hrefl s, fun b hb => nomatch hb⟩
  | cons a as ih =>
    rw [List.mapM_cons]
    refine .bind (h a (List.mem_cons_self ..) s) fun b t ⟨hst, hb⟩ => ?_
    refine .bind (ih (fun a' ha' => h a' (List.mem_cons_of_mem _ ha')) t) fun bs u ⟨htu, hbs⟩ => ?_
    refine .ok ⟨htrans hst htu, fun b' hb' => ?_⟩
    rcases List.mem_cons.mp hb' with rfl | hb'
    · exact hQ b' htu hb
    · exact hbs b' hb'

end Ends

namespace Keeps

theorem pure (a : α) : Keeps I E (pure a : StateT σ (Except ε) α) := fun _ hs => .ok hs

theorem throw {e : ε} (h : E e) : Keeps I E (throw e : StateT σ (Except ε) α) := fun _ _ => .error h

theorem bind {m : StateT σ (Except ε) α} {f : α → StateT σ (Except ε) β} (hm : Keeps I E m)
    (hf : ∀ a, Keeps I E (f a)) : Keeps I E (m >>= f) :=
  fun s hs => (hm s hs).bind fun a t ht => hf a t ht

theorem map {m : StateT σ (Except ε) α} (f : α → β) (hm : Keeps I E m) : Keeps I E (f <$> m) := by
  rw [← bind_pure_comp]
  exact hm.bind fun a => pure (f a)

/-- What goes on from the state may use that the state has the invariant. -/
theorem get_bind {f : σ → StateT σ (Except ε) β} (hf : ∀ s, I s → Keeps I E (f s)) :
    Keeps I E ((get : StateT σ (Except ε) σ) >>= f) :=
  fun s hs => hf s hs s hs

theorem modify {f : σ → σ} (h : ∀ s, I s → I (f s)) : Keeps I E (modify f : StateT σ (Except ε) PUnit) :=
  fun s hs => .ok (h s hs)

theorem set {s : σ} (h : I s) : Keeps I E (set s : StateT σ (Except ε) PUnit) := fun _ _ => .ok h

theorem lift_bind {r : Except ε α} {f : α → StateT σ (Except ε) β} (hr : ∀ e, r = .error e → E e)
    (hf : ∀ a, r = .ok a → Keeps I E (f a)) : Keeps I E ((liftM r : StateT σ (Except ε) α) >>= f) := by
  intro s hs
  cases h : r with
  | ok a => exact hf a h s hs
  | error e => exact .error (hr e h)

theorem ite {p : Prop} [Decidable p] {m m' : StateT σ (Except ε) α} (h : p → Keeps I E m) (h' : ¬ p → Keeps I E m') :
    Keeps I E (if p then m else m') := by
  split
  · next hp => exact h hp
  · next hp => exact h' hp

theorem forM {f : α → StateT σ (Except ε) PUnit} {as : List α} (h : ∀ a ∈ as, Keeps I E (f a)) :
    Keeps I E (as.forM f) := by
  induction as with
  | nil => exact pure _
  | cons a as ih => exact bind (h a (List.mem_cons_self ..)) fun _ => ih fun a' ha' => h a' (List.mem_cons_of_mem _ ha')

end Keeps

end SqlRegexp.Yaml
