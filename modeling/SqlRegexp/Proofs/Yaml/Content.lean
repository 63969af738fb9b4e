import Mathlib.Data.List.Perm.Subperm
import Mathlib.Logic.Relation
import SqlRegexp.Proofs.Yaml.Keeps
import SqlRegexp.Yaml.Content

/-!
Why a document has no value.

Looking at the nodes of a document changes the graph: merging gives mappings other entries, and default keys become
plain texts. Scalars stay what they are, and an entry with a default key stays where it was (`Below`), as entries are
taken in only after their keys have become plain (`takeIn_settles`). So **a document without a value breaks the rules of
the format, or has a scalar without a value, or a node that stands for itself** (`Document.value_error`), and what a
node stands for can be told from the document as it was read.
-/

namespace SqlRegexp.Yaml

open Relation

/-! ### Graphs -/

namespace Graph

/-- A mapping has a node as the value of a default key. -/
def DefaultOf (g : Graph) (id value : Nat) : Prop :=
  ∃ es k, g.body id = .mapping es ∧ (k, value) ∈ es ∧ g.kind k = .default

/-- A node stands for another: itself, or the one that its default value stands for. -/
abbrev Stands (g : Graph) : Nat → Nat → Prop := ReflTransGen g.DefaultOf

/-- No entry has a default key. -/
def Settled (g : Graph) (es : List (Nat × Nat)) : Prop := ∀ e ∈ es, g.kind e.1 ≠ .default

/-- A later graph of a document: a node has its kind still, or has become a text, no scalar is new, and no entry with a
default key. -/
structure Below (g₀ g : Graph) : Prop where
  kind : ∀ id, g.kind id = g₀.kind id ∨ g.kind id = .text
  scalar : ∀ id cs, g.body id = .scalar cs → g₀.body id = .scalar cs
  entry : ∀ {id es e}, g.body id = .mapping es → e ∈ es → g.kind e.1 = .default →
    ∃ es₀, g₀.body id = .mapping es₀ ∧ e ∈ es₀

variable {g₀ g g' : Graph} {id : Nat} {es : List (Nat × Nat)}

theorem Below.refl (g : Graph) : Below g g := ⟨fun _ => .inl rfl, fun _ _ h => h, fun h hmem _ => ⟨_, h, hmem⟩⟩

/-- No default key is new. -/
theorem Below.default (h : Below g₀ g) (hid : g.kind id = .default) : g₀.kind id = .default := by
  rcases h.kind id with hkind | hkind
  · rw [← hkind, hid]
  · rw [hkind] at hid
    cases hid

theorem Below.trans (h : Below g₀ g) (h' : Below g g') : Below g₀ g' where
  kind id := by
    rcases h'.kind id with hkind | hkind
    · rw [hkind]
      exact h.kind id
    · exact .inr hkind
  scalar id cs hbody := h.scalar id cs (h'.scalar id cs hbody)
  entry hbody hmem hdefault := by
    obtain ⟨es₁, hbody₁, hmem₁⟩ := h'.entry hbody hmem hdefault
    exact h.entry hbody₁ hmem₁ (h'.default hdefault)

theorem Below.settled (h : Below g g') (hes : Settled g es) : Settled g' es :=
  fun e he hdefault => hes e he (h.default hdefault)

theorem Below.settled_body (h : Below g g') (hid : ∀ es, g.body id = .mapping es → Settled g es)
    (hbody : g'.body id = .mapping es) : Settled g' es := by
  intro e he hdefault
  obtain ⟨es₀, hbody₀, he₀⟩ := h.entry hbody he hdefault
  exact hid es₀ hbody₀ e he₀ (h.default hdefault)

theorem Below.defaultOf (h : Below g₀ g) : g.DefaultOf ≤ g₀.DefaultOf := by
  rintro id value ⟨es, k, hbody, hmem, hdefault⟩
  obtain ⟨es₀, hbody₀, hmem₀⟩ := h.entry hbody hmem hdefault
  exact ⟨es₀, k, hbody₀, hmem₀, h.default hdefault⟩

theorem Below.stands (h : Below g₀ g) {other : Nat} (hstands : Stands g id other) : Stands g₀ id other :=
  ReflTransGen.mono h.defaultOf _ _ hstands

theorem getD_set (g : Graph) (id other : Nat) (n : Node) :
    (g.set! id n).getD other default = if id = other ∧ id < g.size then n else g.getD other default := by
  simp only [Array.set!_eq_setIfInBounds, Array.getD_eq_getD_getElem?, Array.getElem?_setIfInBounds]
  by_cases h : id = other
  · subst h
    by_cases hlt : id < g.size
    · simp [hlt]
    · simp [hlt]
  · simp [h]

/-- A node that is no scalar is one of the graph. -/
theorem lt_size_of_body (h : g.body id = .mapping es) : id < g.size := by
  by_contra hge
  unfold Graph.body at h
  rw [Array.getD_eq_getD_getElem?, Array.getElem?_eq_none (by omega)] at h
  cases h

theorem kind_setBody (g : Graph) (id other : Nat) (b : Body) : (g.setBody id b).kind other = g.kind other := by
  show ((g.set! id _).getD other default).kind = _
  rw [getD_set]
  split
  · next h =>
    rw [← h.1]
  · rfl

theorem body_setBody (h : id < g.size) (other : Nat) (b : Body) :
    (g.setBody id b).body other = if id = other then b else g.body other := by
  show ((g.set! id _).getD other default).body = _
  rw [getD_set]
  by_cases hid : id = other
  · rw [if_pos ⟨hid, h⟩, if_pos hid]
  · rw [if_neg fun h' => hid h'.1, if_neg hid]
    rfl

theorem body_setKind (g : Graph) (id other : Nat) (k : Kind) : (g.setKind id k).body other = g.body other := by
  show ((g.set! id _).getD other default).body = _
  rw [getD_set]
  split
  · next h =>
    rw [← h.1]
  · rfl

theorem kind_setKind (g : Graph) (id other : Nat) (k : Kind) :
    (g.setKind id k).kind other = if id = other ∧ id < g.size then k else g.kind other := by
  show ((g.set! id _).getD other default).kind = _
  rw [getD_set]
  split
  · rfl
  · rfl

/-- Other entries of a mapping may come in if their keys are no default keys. -/
theorem Below.setBody {es' : List (Nat × Nat)} (hbody : g.body id = .mapping es)
    (h : ∀ e ∈ es', g.kind e.1 = .default → e ∈ es) : Below g (g.setBody id (.mapping es')) where
  kind other := .inl (kind_setBody g id other _)
  scalar other cs hother := by
    rw [body_setBody (lt_size_of_body hbody)] at hother
    split at hother
    · cases hother
    · exact hother
  entry {other es₁ e} hother hmem hdefault := by
    rw [kind_setBody] at hdefault
    rw [body_setBody (lt_size_of_body hbody)] at hother
    split at hother
    · next hid =>
      cases hother
      exact ⟨es, hid ▸ hbody, h e hmem hdefault⟩
    · exact ⟨es₁, hother, hmem⟩

theorem Below.setKind (g : Graph) (id : Nat) : Below g (g.setKind id .text) where
  kind other := by
    rw [kind_setKind]
    split
    · exact .inr rfl
    · exact .inl rfl
  scalar other cs h := by rwa [body_setKind] at h
  entry {other es e} h hmem _ := by
    rw [body_setKind] at h
    exact ⟨es, h, hmem⟩

theorem Below.setKinds (g : Graph) (es : List (Nat × Nat)) : Below g (es.foldl (fun g e => g.setKind e.1 .text) g) := by
  induction es generalizing g with
  | nil => exact .refl g
  | cons e es ih => exact (Below.setKind g e.1).trans (ih _)

theorem body_setKinds (g : Graph) (es : List (Nat × Nat)) (other : Nat) :
    (es.foldl (fun g e => g.setKind e.1 .text) g).body other = g.body other := by
  induction es generalizing g with
  | nil => rfl
  | cons e es ih => exact (ih _).trans (body_setKind g e.1 other _)

/-- Nodes that have been made texts are no default keys. -/
theorem settled_setKinds (g : Graph) (es : List (Nat × Nat)) :
    Settled (es.foldl (fun g e => g.setKind e.1 .text) g) es := by
  induction es generalizing g with
  | nil => exact fun e he => nomatch he
  | cons e es ih =>
    intro e' he'
    rcases List.mem_cons.mp he' with rfl | he'
    · intro hdefault
      have hkind := (Below.setKinds (g.setKind e'.1 .text) es).default hdefault
      rw [kind_setKind] at hkind
      split at hkind
      · cases hkind
      · next hout =>
        -- a node outside the graph has no such kind
        rw [Graph.kind, Array.getD_eq_getD_getElem?, Array.getElem?_eq_none (by simpa using hout)] at hkind
        cases hkind
    · exact ih _ e' he'

/-! ### The texts of nodes -/

theorem defaultOf_of_find {e : Nat × Nat} (hbody : g.body id = .mapping es)
    (he : (es.find? fun e : Nat × Nat => g.kind e.1 == .default) = some e) : g.DefaultOf id e.2 := by
  have hkind := List.find?_some he
  exact ⟨es, e.1, hbody, List.mem_of_find?_eq_some he, eq_of_beq hkind⟩

/-- The text of a node is that of the scalar for which it stands. -/
theorem scalarText_eq_ok {limit : Nat} {cs : List Char} (h : g.scalarText limit id = .ok cs) :
    ∃ id', Stands g id id' ∧ g.body id' = .scalar cs := by
  induction limit generalizing id with
  | zero => cases h
  | succ limit ih =>
    rw [scalarText] at h
    split at h
    · next cs' hbody =>
      cases h
      exact ⟨id, .refl, hbody⟩
    · next es hbody =>
      split at h
      · next e he =>
        obtain ⟨id', hstands, hscalar⟩ := ih h
        have hdefault : g.DefaultOf id e.2 := defaultOf_of_find hbody he
        exact ⟨id', .head hdefault hstands, hscalar⟩
      · cases h
    · cases h

/-- A search for a text that does not end meets one node after another. -/
theorem exists_path {limit : Nat} (h : g.scalarText limit id = .error .endless) :
    ∃ path : List Nat, path.length = limit ∧ (∀ v ∈ path, v < g.size ∧ Stands g id v) ∧
      path.Pairwise (TransGen g.DefaultOf) := by
  induction limit generalizing id with
  | zero => exact ⟨[], rfl, fun v hv => (nomatch hv), .nil⟩
  | succ limit ih =>
    rw [scalarText] at h
    split at h
    · cases h
    · next es hbody =>
      split at h
      · next e he =>
        obtain ⟨path, hlength, hpath, hpairs⟩ := ih h
        have hdefault : g.DefaultOf id e.2 := defaultOf_of_find hbody he
        refine ⟨id :: path, by rw [List.length_cons, hlength], fun v hv => ?_, ?_⟩
        · rcases List.mem_cons.mp hv with rfl | hv
          · exact ⟨lt_size_of_body hbody, .refl⟩
          · exact ⟨(hpath v hv).1, .head hdefault (hpath v hv).2⟩
        · exact .cons (fun v hv => TransGen.head' hdefault (hpath v hv).2) hpairs
      · cases h
    · cases h

/-- **If a search for a text does not end, a node comes again**, as there are more steps than nodes. -/
theorem exists_again (h : g.scalarText (g.size + 1) id = .error .endless) :
    ∃ again, Stands g id again ∧ TransGen g.DefaultOf again again := by
  obtain ⟨path, hlength, hpath, hpairs⟩ := exists_path h
  by_contra hnone
  have hnodup : path.Nodup := by
    refine hpairs.imp_of_mem fun {v w} hv _ hagain hsame => ?_
    subst hsame
    exact hnone ⟨v, (hpath v hv).2, hagain⟩
  have hsub : path ⊆ List.range g.size := fun v hv => List.mem_range.mpr (hpath v hv).1
  have hle : path.length ≤ (List.range g.size).length := (hnodup.subperm hsub).length_le
  rw [hlength, List.length_range] at hle
  omega

theorem scalarText_eq_error {limit : Nat} {e : ContentError} (h : g.scalarText limit id = .error e) :
    e = .malformed ∨ e = .endless := by
  induction limit generalizing id with
  | zero =>
    cases h
    exact .inr rfl
  | succ limit ih =>
    rw [scalarText] at h
    split at h
    · cases h
    · split at h
      · exact ih h
      · cases h
        exact .inl rfl
    · cases h
      exact .inl rfl

/-- Why looking at the nodes of a document fails: at its rules, at a scalar, or at a node that stands for itself. -/
inductive Fails (g₀ : Graph) : ContentError → Prop
  | malformed : Fails g₀ .malformed
  | endless {id again : Nat} (h : Stands g₀ id again) (hagain : TransGen g₀.DefaultOf again again) : Fails g₀ .endless
  | scalar {id id' : Nat} {cs : List Char} {e : ContentError} (h : Stands g₀ id id') (hscalar : g₀.body id' = .scalar cs)
    (hvalue : Scalar.value (g₀.kind id) cs = .error e) : Fails g₀ e

/-- A node that is no collection has a value, unless the document says otherwise. -/
theorem Below.scalarValue (h : Below g₀ g) {e : ContentError} (he : g.scalarValue id = .error e) : Fails g₀ e := by
  unfold Graph.scalarValue at he
  cases htext : g.scalarText (g.size + 1) id with
  | error e' =>
    rw [htext] at he
    cases he
    rcases scalarText_eq_error htext with rfl | rfl
    · exact .malformed
    · obtain ⟨again, hstands, hagain⟩ := exists_again htext
      exact .endless (h.stands hstands) (TransGen.mono h.defaultOf _ _ hagain)
  | ok cs =>
    rw [htext] at he
    change Scalar.value (g.kind id) cs = .error e at he
    obtain ⟨id', hstands, hbody⟩ := scalarText_eq_ok htext
    rcases h.kind id with hkind | hkind
    · rw [hkind] at he
      exact .scalar (h.stands hstands) (h.scalar id' cs hbody) he
    · rw [hkind] at he
      cases he

/-! ### Merging -/

/-- What merging comes to: a later graph, in which a mapping holds settled entries. -/
def TakesIn (id : Nat) (g : Graph) : Except ContentError (Unit × Graph) → Prop :=
  Ends (fun _ g' => Below g g' ∧ ∀ es, g'.body id = .mapping es → g'.Settled es) (· = .malformed)

/-- The entries of a mapping to merge, after its own merging. -/
theorem entriesOf_settles {limit : Nat} (h : ∀ id g, TakesIn id g ((takeIn limit id).run g)) (source : Nat) (g : Graph) :
    Ends (fun es g' => Below g g' ∧ g'.Settled es) (· = .malformed)
      ((do
        match (← get).body source with
        | .mapping _ =>
          takeIn limit source
          match (← get).body source with
          | .mapping es => return es
          | _ => return []
        | _ => throw .malformed : Change (List (Nat × Nat))).run g) := by
  refine .bind_of_ok (a := g) (t := g) rfl ?_
  split
  · refine .bind (h source g) fun _ g' ⟨hbelow, hsettled⟩ => .bind_of_ok (a := g') (t := g') rfl ?_
    split
    · next es hbody => exact .ok ⟨hbelow, hsettled es hbody⟩
    · exact .ok ⟨hbelow, fun e he => nomatch he⟩
  · exact .error rfl

/-- The entries of several mappings to merge. -/
theorem entriesOfAll_settles {f : Nat → Change (List (Nat × Nat))}
    (h : ∀ source g, Ends (fun es g' => Below g g' ∧ g'.Settled es) (· = .malformed) ((f source).run g)) (ids : List Nat)
    (g : Graph) :
    Ends (fun es g' => Below g g' ∧ g'.Settled es) (· = .malformed)
      ((do return (← ids.mapM f).reverse.flatten : Change (List (Nat × Nat))).run g) := by
  refine .bind (.mapM .refl .trans (fun _ _ _ h => h.settled) (fun id _ g => h id g) g) fun ess g' ⟨hbelow, hall⟩ => ?_
  refine .ok ⟨hbelow, fun e he => ?_⟩
  obtain ⟨es, hes, he⟩ := List.mem_flatten.mp he
  exact hall es (List.mem_reverse.mp hes) e he

/-- A mapping keeps entries of its own, whose default keys become plain texts. -/
theorem keepOwn_settles {own : List (Nat × Nat)} (hbody : g.body id = .mapping es) (hown : own ⊆ es)
    (hg' : g' = (own.filter fun e => g.kind e.1 == .default).foldl (fun g e => g.setKind e.1 .text)
      (g.setBody id (.mapping own))) :
    Below g g' ∧ g'.body id = .mapping own ∧ g'.Settled own := by
  subst hg'
  have hset : Below g (g.setBody id (.mapping own)) := .setBody hbody fun e he _ => hown he
  have hkinds := Below.setKinds (g.setBody id (.mapping own)) (own.filter fun e => g.kind e.1 == .default)
  refine ⟨hset.trans hkinds, ?_, fun e he hdefault => ?_⟩
  · rw [body_setKinds, body_setBody (lt_size_of_body hbody), if_pos rfl]
  · have hmem : e ∈ own.filter fun e => g.kind e.1 == .default :=
      List.mem_filter.mpr ⟨he, beq_iff_eq.mpr ((hset.trans hkinds).default hdefault)⟩
    exact settled_setKinds _ _ e hmem hdefault

/-- A mapping takes in entries in front of its own, all of them settled. -/
theorem takeInFront_settles {own : List (Nat × Nat)} {taken : List (List (Nat × Nat))}
    (hbody : g.body id = .mapping own) (htaken : ∀ es ∈ taken, g.Settled es) (hown : g.Settled own)
    (hg' : g' = g.setBody id (.mapping (taken.flatten ++ own))) :
    Below g g' ∧ ∀ es, g'.body id = .mapping es → g'.Settled es := by
  subst hg'
  have hall : g.Settled (taken.flatten ++ own) := by
    intro e he
    rcases List.mem_append.mp he with he | he
    · obtain ⟨es, hes, he⟩ := List.mem_flatten.mp he
      exact htaken es hes e he
    · exact hown e he
  have hbelow : Below g (g.setBody id (.mapping (taken.flatten ++ own))) :=
    .setBody hbody fun e he hdefault => absurd hdefault (hall e he)
  refine ⟨hbelow, fun es hes => ?_⟩
  rw [body_setBody (lt_size_of_body hbody), if_pos rfl] at hes
  cases hes
  exact hbelow.settled hall

theorem takeIn_settles (limit id : Nat) (g : Graph) : TakesIn id g ((takeIn limit id).run g) := by
  induction limit generalizing id g with
  | zero => exact .error rfl
  | succ limit ih =>
    rw [takeIn]
    refine .bind_of_ok (a := g) (t := g) rfl ?_
    split
    · next es hbody =>
      refine .bind_of_ok (a := g) (t := g) rfl ?_
      rcases hparts : es.partition fun e => g.kind e.1 == .merge with ⟨merged, own⟩
      rw [hparts]
      dsimp only
      have hown : own ⊆ es := fun e he => by
        have hmem : e ∈ (es.partition fun e => g.kind e.1 == .merge).2 := hparts ▸ he
        rw [List.partition_eq_filter_filter] at hmem
        exact List.mem_of_mem_filter hmem
      obtain ⟨g₁, hg₁⟩ : ∃ g₁, g₁ = (own.filter fun e => g.kind e.1 == .default).foldl (fun g e => g.setKind e.1 .text)
        (g.setBody id (.mapping own)) := ⟨_, rfl⟩
      obtain ⟨hbelow₁, hbody₁, hsettled₁⟩ := keepOwn_settles hbody hown hg₁
      refine .bind_of_ok (a := ()) (t := g₁) (hg₁ ▸ rfl) ?_
      -- what comes in is settled when it comes in, and remains so
      refine .bind (Q := fun taken g₂ => Below g₁ g₂ ∧ ∀ es ∈ taken, g₂.Settled es) ?_
        fun taken g₂ ⟨hbelow₂, htaken⟩ => ?_
      · refine .mapM .refl .trans (fun _ _ _ h => h.settled) (fun e _ g => ?_) g₁
        refine .bind_of_ok (a := g) (t := g) rfl ?_
        split
        · exact entriesOfAll_settles (entriesOf_settles ih) _ g
        · exact entriesOf_settles ih e.2 g
      · have hsettled₂ : ∀ es, g₂.body id = .mapping es → g₂.Settled es := fun es hes =>
          hbelow₂.settled_body (fun es' hes' => by rw [hbody₁] at hes'; cases hes'; exact hsettled₁) hes
        split
        · refine .bind_of_ok (a := g₂) (t := g₂) rfl ?_
          split
          · next own' hbody₂ =>
            obtain ⟨hbelow₃, hsettled₃⟩ := takeInFront_settles hbody₂ htaken (hsettled₂ own' hbody₂) rfl
            exact .ok ⟨(hbelow₁.trans hbelow₂).trans hbelow₃, hsettled₃⟩
          · exact .ok ⟨hbelow₁.trans hbelow₂, hsettled₂⟩
        · exact .ok ⟨hbelow₁.trans hbelow₂, hsettled₂⟩
    · next hbody => exact .ok ⟨.refl g, fun es hes => absurd hes (hbody es)⟩

/-! ### Looking at all nodes -/

theorem change_keeps {g₀ : Graph} {id : Nat} {c : Change Unit} (h : ∀ g, TakesIn id g (c.run g)) :
    Keeps (fun s : Survey => Below g₀ s.graph) (Fails g₀) (change c) := by
  refine .get_bind fun s hs => .lift_bind (fun e he => (h s.graph).2 e he ▸ .malformed) fun p hp => ?_
  exact .set (hs.trans ((h s.graph).1 p.1 p.2 hp).1)

section Survey

variable (g₀ : Graph)

theorem meet_keeps (id : Nat) : Keeps (fun s : Survey => Below g₀ s.graph) (Fails g₀) (meet id) := by
  refine .get_bind fun s hs => .ite (fun _ => .pure _) fun _ => ?_
  refine .ite (fun _ => .set hs) fun _ => ?_
  exact .lift_bind (fun e he => hs.scalarValue he) fun _ _ => .set hs

theorem meetKey_keeps (id : Nat) : Keeps (fun s : Survey => Below g₀ s.graph) (Fails g₀) (meetKey id) :=
  .bind (meet_keeps g₀ id) fun _ => .get_bind fun _ _ => .ite (fun _ => .throw .malformed) fun _ => .pure _

theorem meetPair_keeps (id : Nat) : Keeps (fun s : Survey => Below g₀ s.graph) (Fails g₀) (meetPair id) := by
  refine .get_bind fun _ _ => ?_
  split
  · exact .bind (meet_keeps g₀ _) fun _ => meet_keeps g₀ _
  · exact .throw .malformed

/-- The turn of a mapping. -/
theorem visitMapping_keeps (limit id : Nat) :
    Keeps (fun s : Survey => Below g₀ s.graph) (Fails g₀) (do
      change (takeIn limit id)
      match (← get).graph.body id with
      | .mapping es => es.forM fun e => do meetKey e.1; meet e.2
      | _ => throw .malformed : Work Unit) := by
  refine .bind (change_keeps (takeIn_settles limit id)) fun _ => .get_bind fun _ _ => ?_
  split
  · exact .forM fun e _ => .bind (meetKey_keeps g₀ e.1) fun _ => meet_keeps g₀ e.2
  · exact .throw .malformed

theorem visit_keeps (id : Nat) : Keeps (fun s : Survey => Below g₀ s.graph) (Fails g₀) (visit id) := by
  refine .get_bind fun _ _ => ?_
  dsimp only
  split
  · exact .forM fun id _ => meet_keeps g₀ id
  · exact .forM fun id _ => meetPair_keeps g₀ id
  · exact visitMapping_keeps g₀ _ id
  · exact visitMapping_keeps g₀ _ id
  · exact .throw .malformed

theorem visitAll_keeps (limit : Nat) : Keeps (fun s : Survey => Below g₀ s.graph) (Fails g₀) (visitAll limit) := by
  induction limit with
  | zero => exact .pure _
  | succ limit ih =>
    refine .get_bind fun s hs => ?_
    split
    · exact .pure _
    · exact .bind (.set hs) fun _ => .bind (visit_keeps g₀ _) fun _ => ih

end Survey

end Graph

/-- **A document without a value breaks a rule, or a scalar of it has none.** -/
theorem Document.value_error {d : Document} {depth : Nat} {e : ContentError} (h : d.value depth = .error e) :
    Graph.Fails d.nodes e := by
  have hwork : Keeps (fun s : Graph.Survey => Graph.Below d.nodes s.graph) (Graph.Fails d.nodes)
      (do Graph.meet d.root; Graph.visitAll (d.nodes.size + 1)) :=
    .bind (Graph.meet_keeps d.nodes d.root) fun _ => Graph.visitAll_keeps d.nodes _
  unfold Document.value at h
  dsimp only at h
  cases hrun : StateT.run (do Graph.meet d.root; Graph.visitAll (d.nodes.size + 1) : Graph.Work Unit)
      { graph := d.nodes } with
  | ok p =>
    rw [hrun] at h
    cases h
  | error e' =>
    rw [hrun] at h
    cases h
    exact (hwork _ (Graph.Below.refl d.nodes)).2 e hrun

end SqlRegexp.Yaml
