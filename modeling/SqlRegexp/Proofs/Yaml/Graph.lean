import SqlRegexp.Proofs.Yaml.Escape
import SqlRegexp.Yaml.Graph

/-!
Why a text holds no document.

The reader of nodes gives up only where a rule of the format is broken, so that **a text without a document breaks a
rule, or an escape in it denotes a number beyond the last character** (`Document.ofText?_flaw`).
-/

namespace SqlRegexp.Yaml

namespace Builder

/-- A step of the reader of nodes, which gives up only where a rule is broken. -/
abbrev Obeys {α : Type} (m : Step α) : Prop := Keeps (fun _ => True) (· = .malformed) m

theorem obeys_refuse {α : Type} : Obeys (refuse : Step α) := .throw rfl

theorem obeys_demand (b : Bool) : Obeys (demand b) := .ite (fun _ => .pure _) fun _ => obeys_refuse

theorem obeys_peek : Obeys peek := .get_bind fun _ _ => .pure _

theorem obeys_skip : Obeys skip := .modify fun _ h => h

theorem obeys_isNext (ts : List Token) : Obeys (isNext ts) := .bind obeys_peek fun _ => .pure _

theorem obeys_expect (t : Token) : Obeys (expect t) :=
  .bind (obeys_isNext _) fun _ => .bind (obeys_demand _) fun _ => obeys_skip

theorem obeys_add (n : Node) : Obeys (add n) := .get_bind fun _ _ => .bind (.set trivial) fun _ => .pure _

theorem obeys_fill (id : Nat) (n : Node) : Obeys (fill id n) := .modify fun _ h => h

theorem obeys_addEmpty : Obeys addEmpty := obeys_add _

theorem obeys_properties : Obeys properties := by
  refine .bind obeys_peek fun _ => ?_
  split
  · refine .bind obeys_skip fun _ => .bind obeys_peek fun _ => ?_
    split
    · exact .bind obeys_skip fun _ => .pure _
    · exact .pure _
  · refine .bind obeys_skip fun _ => .bind obeys_peek fun _ => ?_
    split
    · exact .bind obeys_skip fun _ => .pure _
    · exact .pure _
  · exact .pure _

theorem obeys_addressOf (t : TagText) : Obeys (addressOf t) := by
  unfold addressOf
  split
  · exact .pure _
  · refine .get_bind fun _ _ => ?_
    split
    · exact .pure _
    · exact obeys_refuse

theorem obeys_setAnchor (anchor : Option (List Char)) (id : Nat) : Obeys (setAnchor anchor id) := by
  unfold setAnchor
  split
  · exact .pure _
  · exact .get_bind fun _ _ => .bind (obeys_demand _) fun _ => .modify fun _ h => h

/-- The readers of nodes and of the parts of collections, all to one depth. -/
structure AllObey (limit : Nat) : Prop where
  node : ∀ inBlock noIndent, Obeys (node inBlock noIndent limit)
  nodeUnless : ∀ ends inBlock noIndent, Obeys (nodeUnless ends inBlock noIndent limit)
  blockEntries : Obeys (blockEntries limit)
  entriesWithoutIndent : Obeys (entriesWithoutIndent limit)
  blockPairs : Obeys (blockPairs limit)
  flowEntries : ∀ isFirst, Obeys (flowEntries isFirst limit)
  flowPairs : ∀ isFirst, Obeys (flowPairs isFirst limit)

/-- The address of a tag, before a step that takes it. -/
theorem obeys_address {α : Type} {f : Option (List Char) → Step α} (tag : Option TagText) (hf : ∀ a, Obeys (f a)) :
    Obeys (match tag with
      | none => do f (← pure none)
      | some t => do f (← some <$> addressOf t)) := by
  cases tag with
  | none => exact .bind (.pure _) hf
  | some t => exact .bind (.map _ (obeys_addressOf t)) hf

section Succ

variable {limit : Nat}

theorem AllObey.node_succ (h : AllObey limit) (inBlock noIndent : Bool) :
    Obeys (Builder.node inBlock noIndent (limit + 1)) := by
  rw [Builder.node]
  refine .bind obeys_peek fun _ => ?_
  split
  · refine .bind obeys_skip fun _ => .get_bind fun _ _ => ?_
    split
    · exact .pure _
    · exact obeys_refuse
  · refine .bind obeys_properties fun ps => obeys_address ps.tag fun address => ?_
    refine .bind obeys_addEmpty fun id => .bind (obeys_setAnchor _ _) fun _ => .bind obeys_peek fun _ => ?_
    have hfill : ∀ n : Node, Obeys (do fill id n; return id) := fun n => .bind (obeys_fill id n) fun _ => .pure _
    dsimp only
    split
    · exact .bind obeys_skip fun _ => hfill _
    · exact .bind obeys_skip fun _ => .bind (h.flowEntries true) fun _ => hfill _
    · exact .bind obeys_skip fun _ => .bind (h.flowPairs true) fun _ => hfill _
    · exact .bind (obeys_demand _) fun _ => .bind obeys_skip fun _ => .bind h.blockEntries fun _ => hfill _
    · exact .bind (obeys_demand _) fun _ => .bind obeys_skip fun _ => .bind h.blockPairs fun _ => hfill _
    · exact .ite (fun _ => .bind h.entriesWithoutIndent fun _ => hfill _) fun _ =>
        .bind (obeys_demand _) fun _ => hfill _

/-- The value of a pair, or an empty one if there is no sign for it, before a step that takes it. -/
theorem obeys_value {α : Type} {b : Bool} {m : Step Nat} {f : Nat → Step α} (hm : Obeys m) (hf : ∀ v, Obeys (f v)) :
    Obeys (if b = true then (do skip; f (← m)) else (do f (← addEmpty))) :=
  .ite (fun _ => .bind obeys_skip fun _ => .bind hm hf) fun _ => .bind obeys_addEmpty hf

/-- The comma before an entry that is not the first. -/
theorem obeys_comma {α : Type} {isFirst : Bool} {m : Step α} (hm : Obeys m) :
    Obeys (do
      if !isFirst then expect .comma
      m) :=
  .ite (fun _ => .bind (obeys_expect _) fun _ => hm) fun _ => hm

theorem AllObey.succ (h : AllObey limit) : AllObey (limit + 1) where
  node := h.node_succ
  nodeUnless ends inBlock noIndent := by
    rw [Builder.nodeUnless]
    exact .bind (obeys_isNext _) fun _ => .ite (fun _ => obeys_addEmpty) fun _ => h.node _ _
  blockEntries := by
    rw [Builder.blockEntries]
    refine .bind (obeys_isNext _) fun _ => .ite (fun _ => ?_) fun _ => .bind (obeys_expect _) fun _ => .pure _
    exact .bind obeys_skip fun _ => .bind (h.nodeUnless _ _ _) fun _ => .bind h.blockEntries fun _ => .pure _
  entriesWithoutIndent := by
    rw [Builder.entriesWithoutIndent]
    refine .bind (obeys_isNext _) fun _ => .ite (fun _ => ?_) fun _ => .pure _
    exact .bind obeys_skip fun _ => .bind (h.nodeUnless _ _ _) fun _ => .bind h.entriesWithoutIndent fun _ => .pure _
  blockPairs := by
    rw [Builder.blockPairs]
    refine .bind (obeys_isNext _) fun _ => .ite (fun _ => ?_) fun _ => .bind (obeys_expect _) fun _ => .pure _
    refine .bind obeys_skip fun _ => .bind (h.nodeUnless _ _ _) fun _ => .bind (obeys_isNext _) fun _ => ?_
    exact obeys_value (h.nodeUnless _ _ _) fun v => .bind h.blockPairs fun _ => .pure _
  flowEntries isFirst := by
    rw [Builder.flowEntries]
    refine .bind (obeys_isNext _) fun _ => .ite (fun _ => .bind obeys_skip fun _ => .pure _) fun _ => ?_
    refine obeys_comma (.bind (obeys_isNext _) fun _ => .ite (fun _ => .bind obeys_skip fun _ => ?_) fun _ => ?_)
    · refine .bind obeys_addEmpty fun _ => .bind (h.nodeUnless _ _ _) fun _ => .bind (obeys_isNext _) fun _ => ?_
      refine obeys_value (h.nodeUnless _ _ _) fun _ => .bind (obeys_fill _ _) fun _ => ?_
      exact .bind (h.flowEntries false) fun _ => .pure _
    · refine .bind (obeys_isNext _) fun _ => .ite (fun _ => .bind obeys_skip fun _ => .pure _) fun _ => ?_
      exact .bind (h.node _ _) fun _ => .bind (h.flowEntries false) fun _ => .pure _
  flowPairs isFirst := by
    rw [Builder.flowPairs]
    refine .bind (obeys_isNext _) fun _ => .ite (fun _ => .bind obeys_skip fun _ => .pure _) fun _ => ?_
    refine obeys_comma (.bind (obeys_isNext _) fun _ => .ite (fun _ => .bind obeys_skip fun _ => ?_) fun _ => ?_)
    · refine .bind (h.nodeUnless _ _ _) fun _ => .bind (obeys_isNext _) fun _ => ?_
      exact obeys_value (h.nodeUnless _ _ _) fun _ => .bind (h.flowPairs false) fun _ => .pure _
    · refine .bind (obeys_isNext _) fun _ => .ite (fun _ => .bind obeys_skip fun _ => .pure _) fun _ => ?_
      exact .bind (h.node _ _) fun _ => .bind obeys_addEmpty fun _ => .bind (h.flowPairs false) fun _ => .pure _

end Succ

theorem allObey (limit : Nat) : AllObey limit := by
  induction limit with
  | zero =>
    constructor <;> intros <;> exact obeys_refuse
  | succ limit ih => exact ih.succ

theorem obeys_directives (limit : Nat) (before : List Directive) : Obeys (directives limit before) := by
  induction limit generalizing before with
  | zero => exact obeys_refuse
  | succ limit ih =>
    refine .bind obeys_peek fun _ => ?_
    split
    · exact .bind (obeys_demand _) fun _ => .bind obeys_skip fun _ => ih _
    · exact .pure _

theorem obeys_isDirectiveNext : Obeys isDirectiveNext := by
  refine .bind obeys_peek fun _ => ?_
  split <;> exact .pure _

theorem obeys_markedDocument (limit : Nat) : Obeys (markedDocument limit) :=
  .bind (obeys_directives _ _) fun _ => .bind (obeys_expect _) fun _ => .bind (.modify fun _ h => h) fun _ =>
    .bind obeys_isDirectiveNext fun _ => .bind (obeys_isNext _) fun _ => .bind obeys_peek fun _ =>
      .ite (fun _ => obeys_addEmpty) fun _ => (allObey limit).node _ _

theorem obeys_document (limit : Nat) : Obeys (document limit) := by
  have hend : ∀ id : Nat, Obeys (do skipEnds; demand (← peek).isNone; return some id) := fun id =>
    .bind (.modify fun _ h => h) fun _ => .bind obeys_peek fun _ => .bind (obeys_demand _) fun _ => .pure _
  refine .bind obeys_peek fun _ => .ite (fun _ => .pure _) fun _ => ?_
  refine .bind obeys_isDirectiveNext fun _ => .bind (obeys_isNext _) fun _ => .ite (fun _ => ?_) fun _ => ?_
  · exact .bind (obeys_markedDocument limit) hend
  · exact .bind (.modify fun _ h => h) fun _ => .bind ((allObey limit).node _ _) hend

end Builder

namespace Document

theorem ofTokens?_flaw {ts : List Token} {f : Flaw} (h : ofTokens? ts = .error f) : f = .malformed := by
  unfold ofTokens? at h
  cases hr : (Builder.document (4 * ts.length + 4)).run { tokens := ts } with
  | ok p =>
    rw [hr] at h
    cases h
  | error f' =>
    rw [hr] at h
    cases h
    exact (Builder.obeys_document _ _ trivial).2 f hr

/-- **A text without a document breaks a rule, or denotes no character somewhere.** -/
theorem ofText?_flaw {text : List Char} {f : Flaw} (h : ofText? text = .error f) : FlawIn text f := by
  unfold ofText? at h
  cases htokens : tokens text with
  | ok ts =>
    rw [htokens] at h
    rw [ofTokens?_flaw h]
    exact .malformed
  | error f' =>
    rw [htokens] at h
    cases h
    exact tokens_flaw htokens

end Document

end SqlRegexp.Yaml
