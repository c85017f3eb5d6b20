import TemplateRules.Yaml.Tag
import TemplateRules.Yaml.Token

/-!
# Nodes of documents

The tokens of a document form a graph of nodes: scalars, sequences and mappings, each with its tag. A
reference leads back to the node that has the name, also to one that is not complete yet, so a node
may contain itself. A text holds one document at most.

## Main definitions

* `Node`, `NodeGraph`: nodes and how they lie beside each other
* `NodeGraph.ofTokens`: the graph that tokens form
-/

namespace TemplateRules.Yaml

/-- What a node holds; parts are given by their positions. -/
inductive NodeContent where
  | scalar (text : String)
  | sequence (items : List Nat)
  | mapping (entries : List (Nat × Nat))

/-- A node. -/
structure Node where
  tag : Tag
  content : NodeContent

/-- The nodes of a document. -/
structure NodeGraph where
  nodes : Array Node
  root : Nat

/-! ## Composing -/

/-- The tokens that follow and the nodes so far. -/
structure Composer where
  tokens : List Token
  nodes : Array Node
  /-- The nodes that have a name. -/
  anchors : List (String × Nat)
  /-- What the handles of tags stand for. -/
  handles : List (String × String)

/-- A step of composing. -/
abbrev Composing (α : Type) := StateT Composer (Except Fault) α

namespace Composing

/-- The text is not in the notation. -/
def refuse {α : Type} : Composing α := throw .malformed

/-- The next token. -/
def peek : Composing Token := do
  match (← get).tokens with
  | .broken fault :: _ => throw fault
  | t :: _ => return t
  | [] => return .finish

/-- Goes on to the token after the next one. -/
def advance : Composing Unit := modify fun c => { c with tokens := c.tokens.tail }

/-- Goes on after a token that must come next. -/
def expectToken (t : Token) : Composing Unit := do
  if (← peek) = t then advance else refuse

/-- Goes on after a token if it comes next, and says whether it does. -/
def accept (t : Token) : Composing Bool := do
  if (← peek) = t then
    advance
    return true
  else return false

/-- Adds a node and gives its position. -/
def addNode (n : Node) : Composing Nat := do
  let position := (← get).nodes.size
  modify fun c => { c with nodes := c.nodes.push n }
  return position

/-- Gives a node that is being composed its content. -/
def setContent (position : Nat) (content : NodeContent) : Composing Unit :=
  modify fun c => { c with nodes := c.nodes.modify position fun n => { n with content := content } }

/-- The null scalar where nothing is written. -/
def emptyNode : Composing Nat := addNode ⟨.null, .scalar ""⟩

/-- Names a node. -/
def name (anchor : Option String) (position : Nat) : Composing Unit :=
  match anchor with
  | none => pure ()
  | some a => modify fun c => { c with anchors := (a, position) :: c.anchors }

/-! ## Properties -/

/-- The full name of a tag. -/
def tagName (handle : Option String) (rest : String) : Composing String := do
  match handle with
  | none => return rest
  | some h =>
    match (← get).handles.lookup h with
    | some start => return start ++ rest
    | none => refuse

/-- The name of the node that comes next, if it has one. -/
def anchorName? : Composing (Option String) := do
  match ← peek with
  | .anchor a => do
    advance
    return some a
  | _ => return none

/-- The full name of the tag of the node that comes next, if it has one. -/
def writtenTag? : Composing (Option String) := do
  match ← peek with
  | .tag handle rest => do
    advance
    return some (← tagName handle rest)
  | _ => return none

/-- The name and the tag of the node that comes next, in either order. -/
def namedAndTagged : Composing (Option String × Option String) := do
  match ← anchorName? with
  | some a => return (some a, ← writtenTag?)
  | none =>
    match ← writtenTag? with
    | some tag => return (← anchorName?, some tag)
    | none => return (none, none)

/-- The name and the tag of the node that comes next. A name must be new. -/
def properties : Composing (Option String × Option String) := do
  let (anchor, tag) ← namedAndTagged
  let anchors := (← get).anchors
  if anchor.any fun a => (anchors.lookup a).isSome then refuse
  return (anchor, tag)

/-- The tag of a scalar. One without a tag of its own that is plain, or whose tag is a single mark,
has the tag that its text has as a plain scalar. -/
def scalarTag (written : Option String) (plain : Bool) (text : String) : Tag :=
  match written with
  | none => if plain then .ofPlain text else .str
  | some name => if name = "!" then .ofPlain text else .ofName name

/-- The tag of a collection. -/
def collectionTag (written : Option String) (default : Tag) : Tag :=
  match written with
  | none => default
  | some name => if name = "!" then default else .ofName name

/-- Adds a scalar with its name. -/
def addScalar (anchor tag : Option String) (plain : Bool) (text : String) : Composing Nat := do
  let position ← addNode ⟨scalarTag tag plain text, .scalar text⟩
  name anchor position
  return position

/-- Adds a collection with its name, and then what it holds. -/
def addCollection (anchor tag : Option String) (default : Tag) (read : Composing NodeContent) :
    Composing Nat := do
  let position ← addNode ⟨collectionTag tag default, .sequence []⟩
  -- The name is known before the parts are, so that a part may refer to the whole.
  name anchor position
  setContent position (← read)
  return position

/-! ## Nodes -/

mutual

/-- Composes the node that comes next. Outside of flow notation (`block`) it may be a collection that
is written by indentation, and as the value of a mapping (`indentless`) a sequence that is not
indented. The number of steps is bounded by `fuel`. -/
def node (block indentless : Bool) : (fuel : Nat) → Composing Nat
  | 0 => refuse
  | fuel + 1 => do
    if let .reference a := ← peek then
      advance
      match (← get).anchors.lookup a with
      | some position => return position
      | none => refuse
    else
      let (anchor, tag) ← properties
      let add := addCollection anchor tag
      match ← peek, block, indentless with
      | .scalar text plain, _, _ => do
        advance
        addScalar anchor tag plain text
      | .flowSequenceStart, _, _ => do
        advance
        add .seq (return .sequence (← flowItems true fuel))
      | .flowMappingStart, _, _ => do
        advance
        add .map (return .mapping (← flowPairs true fuel))
      | .blockEntry, _, true => add .seq (return .sequence (← plainEntries fuel))
      | .blockSequenceStart, true, _ => do
        advance
        add .seq (return .sequence (← blockEntries fuel))
      | .blockMappingStart, true, _ => do
        advance
        add .map (return .mapping (← blockPairs fuel))
      -- A name or a tag that nothing follows is that of an empty scalar.
      | _, _, _ => if anchor.isNone && tag.isNone then refuse else addScalar anchor tag true ""

/-- Composes the node that comes next, or an empty one before one of some tokens. -/
def nodeBefore (stops : List Token) (block indentless : Bool) : (fuel : Nat) → Composing Nat
  | 0 => refuse
  | fuel + 1 => do
    if stops.contains (← peek) then emptyNode else node block indentless fuel

/-- Composes the entries of a sequence up to the end of its indentation. -/
def blockEntries : (fuel : Nat) → Composing (List Nat)
  | 0 => refuse
  | fuel + 1 => do
    if ← accept .blockEntry then
      let item ← nodeBefore [.blockEntry, .blockEnd] true false fuel
      return item :: (← blockEntries fuel)
    else
      expectToken .blockEnd
      return []

/-- Composes the entries of a sequence that is not indented. -/
def plainEntries : (fuel : Nat) → Composing (List Nat)
  | 0 => refuse
  | fuel + 1 => do
    if ← accept .blockEntry then
      let item ← nodeBefore [.blockEntry, .key, .value, .blockEnd] true false fuel
      return item :: (← plainEntries fuel)
    else return []

/-- Composes the entries of a mapping up to the end of its indentation. -/
def blockPairs : (fuel : Nat) → Composing (List (Nat × Nat))
  | 0 => refuse
  | fuel + 1 => do
    if ← accept .key then
      let stops := [.key, .value, .blockEnd]
      let key ← nodeBefore stops true true fuel
      let value ← if ← accept .value then nodeBefore stops true true fuel else emptyNode
      return (key, value) :: (← blockPairs fuel)
    else
      expectToken .blockEnd
      return []

/-- Composes the items of a sequence in flow notation. An item may be a single entry of a mapping. -/
def flowItems (first : Bool) : (fuel : Nat) → Composing (List Nat)
  | 0 => refuse
  | fuel + 1 => do
    if ← accept .flowSequenceEnd then return []
    if !first then expectToken .flowEntry
    -- A key between brackets begins a mapping with this entry alone.
    if ← accept .key then
      let item ← addCollection none none .map do
        let key ← nodeBefore [.value, .flowEntry, .flowSequenceEnd] false false fuel
        let value ← if ← accept .value then
          nodeBefore [.flowEntry, .flowSequenceEnd] false false fuel else emptyNode
        return .mapping [(key, value)]
      return item :: (← flowItems false fuel)
    else if ← accept .flowSequenceEnd then return []
    else
      let item ← node false false fuel
      return item :: (← flowItems false fuel)

/-- Composes the entries of a mapping in flow notation. An entry without a value is null. -/
def flowPairs (first : Bool) : (fuel : Nat) → Composing (List (Nat × Nat))
  | 0 => refuse
  | fuel + 1 => do
    if ← accept .flowMappingEnd then return []
    if !first then expectToken .flowEntry
    if ← accept .key then
      let key ← nodeBefore [.value, .flowEntry, .flowMappingEnd] false false fuel
      let value ← if ← accept .value then
        nodeBefore [.flowEntry, .flowMappingEnd] false false fuel else emptyNode
      return (key, value) :: (← flowPairs false fuel)
    else if ← accept .flowMappingEnd then return []
    else
      let key ← node false false fuel
      let value ← emptyNode
      return (key, value) :: (← flowPairs false fuel)

end

/-! ## Documents -/

/-- The handles that need no directive. -/
def standardHandles : List (String × String) := [("!", "!"), ("!!", Tag.standardStart)]

/-- The directives that come next: whether there is one about the version, and the handles. Either
must be given once only; `fuel` bounds their number. -/
def directives : (fuel : Nat) → (versioned : Bool) → List (String × String) →
    Composing (List (String × String))
  | 0, _, _ => refuse
  | fuel + 1, versioned, handles => do
    match ← peek with
    | .directive d => do
      advance
      match d with
      | .version major _ => if versioned || major != 1 then refuse else directives fuel true handles
      | .tag handle start =>
        if (handles.lookup handle).isSome then refuse
        else directives fuel versioned (handles ++ [(handle, start)])
      | .other => directives fuel versioned handles
    | _ => return handles

/-- Skips the marks of ended documents; `fuel` bounds their number. -/
def skipEnds : (fuel : Nat) → Composing Unit
  | 0 => refuse
  | fuel + 1 => do
    if ← accept .documentEnd then skipEnds fuel

/-- Whether a token begins a document or ends one. -/
def isDocumentMark : Token → Bool
  | .directive _ => true
  | .documentStart => true
  | .documentEnd => true
  | .finish => true
  | _ => false

/-- Composes the one document of a text, if there is one. -/
def document (fuel : Nat) : Composing (Option Nat) := do
  let root ← match ← peek with
    | .finish => pure none
    | .directive _ => explicit
    | .documentStart => explicit
    | _ => some <$> node true false fuel
  skipEnds fuel
  if (← peek) = .finish then return root else refuse
where
  /-- Composes a document that its directives and a mark begin. -/
  explicit : Composing (Option Nat) := do
    let handles ← directives fuel false []
    modify fun c => { c with handles := handles ++ standardHandles }
    expectToken .documentStart
    if isDocumentMark (← peek) then some <$> emptyNode else some <$> node true false fuel

end Composing

namespace NodeGraph

/-- The graph that tokens form, if they hold a document. A token is looked at in at most four steps. -/
def ofTokens (tokens : List Token) : Except Fault (Option NodeGraph) := do
  let start : Composer := ⟨tokens, #[], [], Composing.standardHandles⟩
  let (root, c) ← (Composing.document (4 * tokens.length + 8)).run start
  return root.map fun r => ⟨c.nodes, r⟩

end NodeGraph

end TemplateRules.Yaml
