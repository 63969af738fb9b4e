import SqlRegexp.Yaml.Kind
import SqlRegexp.Yaml.Token

/-!
The nodes of a YAML document, as the tokens describe them. An alias stands for the node of its
anchor, so nodes refer to each other by number, and a node may lie within itself.
-/

namespace SqlRegexp.Yaml

/-- What a node is made of. -/
inductive Body where
  | scalar (text : List Char)
  | sequence (nodes : List Nat)
  /-- Keys and values. -/
  | mapping (entries : List (Nat × Nat))
deriving DecidableEq, Repr

structure Node where
  kind : Kind
  body : Body
deriving DecidableEq, Repr

instance : Inhabited Node := ⟨⟨.null, .scalar []⟩⟩

/-- Nodes by their numbers. -/
abbrev Graph := Array Node

/-- A document: its nodes and the number of the outermost one. -/
structure Document where
  nodes : Graph
  root : Nat

/-! ### Building -/

/-- A reader of nodes in the midst of its work. -/
structure Builder where
  tokens : List Token
  nodes : Graph := #[]
  anchors : List (List Char × Nat) := []
  handles : List (List Char × List Char) := []

namespace Builder

abbrev Step := StateT Builder (Except Flaw)

def refuse {α : Type} : Step α := throw .malformed

def demand (b : Bool) : Step Unit := if b then pure () else refuse

def peek : Step (Option Token) := return (← get).tokens.head?

/-- Passes a token. -/
def skip : Step Unit := modify fun s => { s with tokens := s.tokens.tail }

def isNext (ts : List Token) : Step Bool := return (← peek).any ts.contains

/-- Passes a token that has to come next. -/
def expect (t : Token) : Step Unit := do
  demand (← isNext [t])
  skip

/-- Adds a node and gives its number. -/
def add (n : Node) : Step Nat := do
  let s ← get
  set { s with nodes := s.nodes.push n }
  return s.nodes.size

/-- Fills a node that has been added. -/
def fill (id : Nat) (n : Node) : Step Unit :=
  modify fun s => { s with nodes := s.nodes.set! id n }

/-- Adds a scalar of a text that is not written. -/
def addEmpty : Step Nat := add ⟨.null, .scalar []⟩

/-! ### Properties -/

/-- The anchor and the tag of a node. -/
structure Properties where
  anchor : Option (List Char) := none
  tag : Option TagText := none

/-- The properties before a node, in either order. -/
def properties : Step Properties := do
  match (← peek) with
  | some (.anchor a) =>
    skip
    match (← peek) with
    | some (.tag t) => skip; return ⟨some a, some t⟩
    | _ => return ⟨some a, none⟩
  | some (.tag t) =>
    skip
    match (← peek) with
    | some (.anchor a) => skip; return ⟨some a, some t⟩
    | _ => return ⟨none, some t⟩
  | _ => return {}

def addressOf (t : TagText) : Step (List Char) := do
  match t.handle with
  | none => return t.suffix
  | some h =>
    match (← get).handles.lookup h with
    | some start => return start ++ t.suffix
    | none => refuse

/-- The kind of a node with a tag. The sign alone leaves it to the looks of the node, as if there
were no tag and the node were plain. -/
def kindOf (tag : Option (List Char)) (looks : (isPlain : Bool) → Kind) (isPlain : Bool) : Kind :=
  match tag with
  | none => looks isPlain
  | some address => if address = ['!'] then looks true else .ofAddress address

/-- Remembers the number of an anchored node; no anchor is set twice. -/
def setAnchor (anchor : Option (List Char)) (id : Nat) : Step Unit := do
  match anchor with
  | none => return
  | some a =>
    demand ((← get).anchors.lookup a).isNone
    modify fun s => { s with anchors := (a, id) :: s.anchors }

/-! ### Nodes -/

/-- The tokens at which an entry of a block sequence without indentation is empty. -/
def afterEntry : List Token := [.entry, .key, .value, .blockEnd]

/-- The tokens at which a key or value of a block mapping is empty. -/
def afterKey : List Token := [.key, .value, .blockEnd]

mutual

/-- A node; block collections are admitted within other block collections, and a block sequence
without indentation within a block mapping. -/
def node (inBlock noIndent : Bool) : (limit : Nat) → Step Nat
  | 0 => refuse
  | limit + 1 => do
    match (← peek) with
    | some (.alias a) =>
      skip
      match (← get).anchors.lookup a with
      | some id => return id
      | none => refuse
    | _ =>
      let ps ← properties
      let address ← match ps.tag with
        | none => pure none
        | some t => some <$> addressOf t
      let id ← addEmpty
      setAnchor ps.anchor id
      let sequenceKind := kindOf address (fun _ => .sequence) false
      let mappingKind := kindOf address (fun _ => .mapping) false
      match (← peek) with
      | some (.scalar isPlain text) =>
        skip
        fill id ⟨kindOf address (Kind.implicit · text) isPlain, .scalar text⟩
      | some .flowSequence =>
        skip
        let ids ← flowEntries true limit
        fill id ⟨sequenceKind, .sequence ids⟩
      | some .flowMapping =>
        skip
        let es ← flowPairs true limit
        fill id ⟨mappingKind, .mapping es⟩
      | some .blockSequence =>
        demand inBlock
        skip
        let ids ← blockEntries limit
        fill id ⟨sequenceKind, .sequence ids⟩
      | some .blockMapping =>
        demand inBlock
        skip
        let es ← blockPairs limit
        fill id ⟨mappingKind, .mapping es⟩
      | next =>
        if noIndent && next == some .entry then
          let ids ← entriesWithoutIndent limit
          fill id ⟨sequenceKind, .sequence ids⟩
        else
          -- an empty node has properties at least
          demand (ps.anchor.isSome || ps.tag.isSome)
          fill id ⟨kindOf address (Kind.implicit · []) true, .scalar []⟩
      return id

/-- A node, or an empty one if one of some tokens comes next. -/
def nodeUnless (ends : List Token) (inBlock noIndent : Bool) : (limit : Nat) → Step Nat
  | 0 => refuse
  | limit + 1 => do
    if (← isNext ends) then addEmpty else node inBlock noIndent limit

/-- The entries of a block sequence, up to and with its end. -/
def blockEntries : (limit : Nat) → Step (List Nat)
  | 0 => refuse
  | limit + 1 => do
    if (← isNext [.entry]) then
      skip
      let id ← nodeUnless [.entry, .blockEnd] true false limit
      return id :: (← blockEntries limit)
    else
      expect .blockEnd
      return []

/-- The entries of a block sequence that has no indentation of its own. -/
def entriesWithoutIndent : (limit : Nat) → Step (List Nat)
  | 0 => refuse
  | limit + 1 => do
    if (← isNext [.entry]) then
      skip
      let id ← nodeUnless afterEntry true false limit
      return id :: (← entriesWithoutIndent limit)
    else return []

/-- The entries of a block mapping, up to and with its end. -/
def blockPairs : (limit : Nat) → Step (List (Nat × Nat))
  | 0 => refuse
  | limit + 1 => do
    if (← isNext [.key]) then
      skip
      let k ← nodeUnless afterKey true true limit
      let v ←
        if (← isNext [.value]) then do
          skip
          nodeUnless afterKey true true limit
        else addEmpty
      return (k, v) :: (← blockPairs limit)
    else
      expect .blockEnd
      return []

/-- The entries of a sequence in brackets, up to and with its end. An entry may be a mapping of a
single key. -/
def flowEntries (isFirst : Bool) : (limit : Nat) → Step (List Nat)
  | 0 => refuse
  | limit + 1 => do
    if (← isNext [.flowSequenceEnd]) then
      skip
      return []
    if !isFirst then expect .comma
    if (← isNext [.key]) then
      skip
      let id ← addEmpty
      let k ← nodeUnless [.value, .comma, .flowSequenceEnd] false false limit
      let v ←
        if (← isNext [.value]) then do
          skip
          nodeUnless [.comma, .flowSequenceEnd] false false limit
        else addEmpty
      -- a key within a sequence makes a mapping of one entry
      fill id ⟨.mapping, .mapping [(k, v)]⟩
      return id :: (← flowEntries false limit)
    else if (← isNext [.flowSequenceEnd]) then
      skip
      return []
    else
      let id ← node false false limit
      return id :: (← flowEntries false limit)

/-- The entries of a mapping in brackets, up to and with its end. A key may come without its sign
and without a value. -/
def flowPairs (isFirst : Bool) : (limit : Nat) → Step (List (Nat × Nat))
  | 0 => refuse
  | limit + 1 => do
    if (← isNext [.flowMappingEnd]) then
      skip
      return []
    if !isFirst then expect .comma
    if (← isNext [.key]) then
      skip
      let k ← nodeUnless [.value, .comma, .flowMappingEnd] false false limit
      let v ←
        if (← isNext [.value]) then do
          skip
          nodeUnless [.comma, .flowMappingEnd] false false limit
        else addEmpty
      return (k, v) :: (← flowPairs false limit)
    else if (← isNext [.flowMappingEnd]) then
      skip
      return []
    else
      let k ← node false false limit
      let v ← addEmpty
      return (k, v) :: (← flowPairs false limit)

end

/-! ### Documents -/

/-- The handles that are known without a directive. -/
def commonHandles : List (List Char × List Char) := [(['!'], ['!']), (['!', '!'], Kind.authority)]

/-- Whether a directive may come after others: there is one version, of the first kind, and one
meaning of each handle. -/
def mayFollow (before : List Directive) : Directive → Bool
  | .version major _ =>
    major == 1 && !before.any fun d => match d with
      | .version _ _ => true
      | _ => false
  | .handle h _ =>
    !before.any fun d => match d with
      | .handle g _ => g == h
      | _ => false
  | .reserved => true

def directives : (limit : Nat) → (before : List Directive) → Step (List Directive)
  | 0, _ => refuse
  | limit + 1, before => do
    match (← peek) with
    | some (.directive d) =>
      demand (mayFollow before d)
      skip
      directives limit (before ++ [d])
    | _ => return before

/-- The handles that directives define, before those that are known anyway. -/
def handlesOf (ds : List Directive) : List (List Char × List Char) :=
  ds.filterMap (fun d => match d with
    | .handle h start => some (h, start)
    | _ => none) ++ commonHandles

def isDirectiveNext : Step Bool := do
  match (← peek) with
  | some (.directive _) => return true
  | _ => return false

/-- The node of a document that starts with its mark. -/
def markedDocument (limit : Nat) : Step Nat := do
  let ds ← directives limit []
  expect .documentStart
  modify fun s => { s with handles := handlesOf ds }
  if (← isDirectiveNext) || (← isNext [.documentStart, .documentEnd]) || (← peek).isNone then
    addEmpty
  else node true false limit

/-- Passes marks of the end of a document. -/
def skipEnds : Step Unit :=
  modify fun s => { s with tokens := s.tokens.dropWhile (· == .documentEnd) }

/-- The document of a text, if the text holds one; it must not hold more. -/
def document (limit : Nat) : Step (Option Nat) := do
  if (← peek).isNone then return none
  let id ←
    if (← isDirectiveNext) || (← isNext [.documentStart]) then markedDocument limit
    else do
      modify fun s => { s with handles := commonHandles }
      node true false limit
  skipEnds
  demand (← peek).isNone
  return some id

end Builder

namespace Document

/-- The document of some tokens; nothing if there are none. -/
def ofTokens? (ts : List Token) : Except Flaw (Option Document) := do
  let (root, s) ← (Builder.document (4 * ts.length + 4)).run { tokens := ts }
  return root.map fun r => ⟨s.nodes, r⟩

def ofText? (cs : List Char) : Except Flaw (Option Document) := do ofTokens? (← tokens cs)

end Document

end SqlRegexp.Yaml
