import SqlRegexp.Yaml.Graph
import SqlRegexp.Yaml.Scalar

/-!
The values of a document. All nodes are looked at, collections one after another in the order in
which they are met, the outermost first; the first node without a value decides. Before its turn a
mapping takes in the mappings that are merged into it. As a node may lie within itself, values are
unfolded to a given depth only.
-/

namespace SqlRegexp.Yaml

open SqlRegexp.Text

namespace Graph

def kind (g : Graph) (id : Nat) : Kind := (g.getD id default).kind

/-- What a node is made of. -/
def body (g : Graph) (id : Nat) : Body := (g.getD id default).body

/-- The graph with another kind for a node. -/
def setKind (g : Graph) (id : Nat) (k : Kind) : Graph := g.set! id ⟨k, g.body id⟩

/-- The graph with another body for a node. -/
def setBody (g : Graph) (id : Nat) (b : Body) : Graph := g.set! id ⟨g.kind id, b⟩

/-- The text of a node that has to be a scalar. A mapping with a default value stands for that; if so
many do one after the other that one of them comes twice, there is no end. -/
def scalarText (g : Graph) : (limit : Nat) → (id : Nat) → Except ContentError (List Char)
  | 0, _ => .error .endless
  | limit + 1, id =>
    match g.body id with
    | .scalar cs => .ok cs
    | .mapping es =>
      match es.find? fun e => g.kind e.1 == .default with
      | some e => scalarText g limit e.2
      | none => .error .malformed
    | .sequence _ => .error .malformed

/-- The value of a node that is no collection. -/
def scalarValue (g : Graph) (id : Nat) : Except ContentError Value := do
  Scalar.value (g.kind id) (← g.scalarText (g.size + 1) id)

/-- Whether the value of a kind has parts. Such a value is no key. -/
def isCollection : Kind → Bool
  | .sequence | .mapping | .pairs | .set => true
  | _ => false

/-! ### Merging -/

abbrev Change := StateT Graph (Except ContentError)

/-- Puts the entries of the mappings that are merged into a mapping before its own. Of several in a
list the first comes last, so that it decides. A default key is a plain text from here on. -/
def takeIn : (limit : Nat) → (id : Nat) → Change Unit
  | 0, _ => throw .malformed
  | limit + 1, id => do
    match (← get).body id with
    | .mapping es =>
      let g ← get
      let (merged, own) := es.partition fun e => g.kind e.1 == .merge
      let defaults := own.filter fun e => g.kind e.1 == .default
      modify fun g => defaults.foldl (fun g e => g.setKind e.1 .text) (g.setBody id (.mapping own))
      let entriesOf := fun (source : Nat) => (do
        match (← get).body source with
        | .mapping _ =>
          takeIn limit source
          match (← get).body source with
          | .mapping es => return es
          | _ => return []
        | _ => throw .malformed : Change (List (Nat × Nat)))
      let taken ← merged.mapM fun e => do
        match (← get).body e.2 with
        -- of several sources the first one counts, and so its entries come last
        | .sequence ids => return (← ids.mapM entriesOf).reverse.flatten
        | _ => entriesOf e.2
      if !merged.isEmpty then
        match (← get).body id with
        | .mapping own => modify fun g => g.setBody id (.mapping (taken.flatten ++ own))
        | _ => return
    | _ => return

/-! ### Looking at all nodes -/

/-- The work on a graph: the graph as merging has left it, the nodes that have been met, and the
collections among them whose turn has not come. -/
structure Survey where
  graph : Graph
  met : List Nat := []
  waiting : List Nat := []

abbrev Work := StateT Survey (Except ContentError)

def change (c : Change Unit) : Work Unit := do
  let s ← get
  let (_, g) ← c.run s.graph
  set { s with graph := g }

/-- Meets a node: a scalar must have a value, and a collection has to wait for its turn. -/
def meet (id : Nat) : Work Unit := do
  let s ← get
  if s.met.contains id then return
  if isCollection (s.graph.kind id) then
    set { s with met := id :: s.met, waiting := s.waiting ++ [id] }
  else
    let _ ← s.graph.scalarValue id
    set { s with met := id :: s.met }

/-- Meets a node that is used as a key, which must not be a collection. -/
def meetKey (id : Nat) : Work Unit := do
  meet id
  if isCollection ((← get).graph.kind id) then throw .malformed

/-- Meets the only entry of a mapping. -/
def meetPair (id : Nat) : Work Unit := do
  match (← get).graph.body id with
  | .mapping [(k, v)] => meet k; meet v
  | _ => throw .malformed

/-- The turn of a collection: its parts are met. -/
def visit (id : Nat) : Work Unit := do
  let g := (← get).graph
  match g.kind id, g.body id with
  | .sequence, .sequence ids => ids.forM meet
  | .pairs, .sequence ids => ids.forM meetPair
  | .mapping, .mapping _ | .set, .mapping _ =>
    change (takeIn (g.size + 1) id)
    match (← get).graph.body id with
    | .mapping es => es.forM fun e => do meetKey e.1; meet e.2
    | _ => throw .malformed
  | _, _ => throw .malformed

/-- The turns of all collections that wait. -/
def visitAll : (limit : Nat) → Work Unit
  | 0 => return
  | limit + 1 => do
    let s ← get
    match s.waiting with
    | [] => return
    | id :: rest =>
      set { s with waiting := rest }
      visit id
      visitAll limit

/-! ### Values -/

/-- Adds an entry to entries; an entry with an equal key gets its value instead. -/
def putEntry (es : List (Value × Value)) (k v : Value) : List (Value × Value) :=
  if es.any fun e => e.1.same k then
    es.map fun e => if e.1.same k then (e.1, v) else e
  else es ++ [(k, v)]

/-- The value of a node, unfolded to a depth; what lies deeper is left out. -/
def unfold (g : Graph) : (depth : Nat) → (id : Nat) → Value
  | 0, id =>
    match g.kind id with
    | .sequence | .pairs => .list []
    | .mapping => .mapping []
    | .set => .other none
    | _ => (g.scalarValue id).toOption.getD .null
  | depth + 1, id =>
    match g.kind id, g.body id with
    | .sequence, .sequence ids => .list (ids.map (unfold g depth))
    | .mapping, .mapping es =>
      .mapping (es.foldl (fun done e => putEntry done (unfold g depth e.1) (unfold g depth e.2)) [])
    | _, _ => unfold g 0 id

end Graph

namespace Document

/-- The value of a document, unfolded to a depth. -/
def value (d : Document) (depth : Nat) : Except ContentError Value := do
  let work : Graph.Work Unit := do
    Graph.meet d.root
    Graph.visitAll (d.nodes.size + 1)
  let (_, s) ← work.run { graph := d.nodes }
  return Graph.unfold s.graph depth d.root

end Document

end SqlRegexp.Yaml
