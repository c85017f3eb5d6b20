import TemplateRules.Number.Literal
import TemplateRules.Value.Graph
import TemplateRules.Yaml.Base64
import TemplateRules.Yaml.Node
import TemplateRules.Yaml.Token.Lexer

/-!
# Values of documents

The value of a document is built from its nodes, level by level from the root. Mappings first take
over the entries of those that they are merged with. Scalars are read as their tags ask; one that
cannot be read is a defect of the document.

## Main definitions

* `Scalar.ofText`: the value of a scalar
* `NodeGraph.value`: the value of a graph of nodes
* `readDocument`: the value of a text
-/

namespace TemplateRules.Yaml

open Number (Binary64 excessDigits? readInteger? readDecimal?)
open Text (splitOn)

/-! ## Scalars -/

/-- A whole number in a base. -/
def integer (base : Nat) (cs : List Char) : Except Defect Int :=
  match readInteger? base cs with
  | some i => .ok i
  | none =>
    -- Too many digits are noticed before what follows them.
    match if base == 10 then excessDigits? cs else none with
    | some count => .error (.digits count)
    | none => .error (.integer base (String.ofList cs))

/-- A decimal number. -/
def decimal (cs : List Char) : Except Defect Binary64 :=
  match readDecimal? cs with
  | some x => .ok x
  | none => .error (.decimal (String.ofList cs))

/-- A sign, and the characters after it. -/
def signed (cs : List Char) : Bool × List Char := (cs.head? == some '-', Tag.afterSign cs)

/-- A number of sixtieths, greatest first. -/
def sixtieths (parts : List Int) : Int := parts.foldl (fun n part => n * 60 + part) 0

/-- The sum of numbers times the powers of sixty, from the lowest on. -/
def sixtiethSum (total : Binary64) (power : Nat) : List Binary64 → Binary64
  | [] => total
  -- Each part is scaled and rounded by itself before it is added.
  | x :: xs => sixtiethSum (total.add (x.scale power)) (power * 60) xs

/-- The whole number that a scalar writes: binary, octal, decimal, hexadecimal or in sixtieths. -/
def intScalar (cs : List Char) : Except Defect Int := do
  let cs := cs.filter (· != '_')
  if cs.isEmpty then throw .emptyNumeral
  let (negative, body) := signed cs
  let n ← match body with
    | [] => throw .emptyNumeral
    | ['0'] => pure 0
    | '0' :: 'b' :: rest => integer 2 rest
    | '0' :: 'x' :: rest => integer 16 rest
    -- A leading zero is the mark of the octal notation.
    | '0' :: _ => integer 8 body
    | _ =>
      if body.contains ':' then sixtieths <$> (splitOn (· == ':') body).mapM (integer 10)
      else integer 10 body
  return if negative then -n else n

/-- The number that a scalar writes: decimal, in sixtieths, an infinity or the undefined number. -/
def floatScalar (cs : List Char) : Except Defect Binary64 := do
  let cs := Text.lowerChars (cs.filter (· != '_'))
  if cs.isEmpty then throw .emptyNumeral
  let (negative, body) := signed cs
  if body == ".inf".toList then return .infinite negative
  if body == ".nan".toList then return .undefined
  let x ← if body.contains ':' then do
      let parts ← (splitOn (· == ':') body).mapM decimal
      pure (sixtiethSum (.finite false 0 0) 1 parts.reverse)
    else decimal body
  return if negative then x.neg else x

/-- The truth value that a scalar names. -/
def boolScalar (cs : List Char) : Except Defect Bool :=
  let word := String.ofList (Text.lowerChars cs)
  if ["yes", "true", "on"].contains word then .ok true
  else if ["no", "false", "off"].contains word then .ok false
  else .error (.truthValue word)

/-- The date or point in time that a scalar writes. -/
def momentScalar (cs : List Char) : Except Defect Scalar :=
  match Moment.read? (if cs.getLast? == some '\n' then cs.dropLast else cs) with
  | none => .error .timestamp
  | some m =>
    match m.time with
    | none => (m.date.map Scalar.date).mapError .calendar
    | some t => ((m.timestamp t).map Scalar.timestamp).mapError .calendar

/-- The bytes that a scalar writes. -/
def binaryScalar (cs : List Char) : Except Fault Scalar :=
  if cs.all (·.toNat < 0x80) then
    match Base64.read? cs with
    | some bytes => .ok (.bytes bytes)
    | none => .error .malformed
  else .error .malformed

/-- The value of a scalar of a tag; collections and marks are no tags of scalars. -/
def scalarOf (tag : Tag) (text : String) : Except Fault Scalar :=
  let cs := text.toList
  match tag with
  | .null => .ok .null
  | .bool => ((boolScalar cs).map Scalar.bool).mapError .defect
  | .int => ((intScalar cs).map Scalar.int).mapError .defect
  | .float => ((floatScalar cs).map Scalar.float).mapError .defect
  | .timestamp => (momentScalar cs).mapError .defect
  | .binary => binaryScalar cs
  | .str => .ok (.text text)
  | _ => .error .malformed

/-! ## Building -/

/-- The nodes, and what has been built of them. -/
structure Builder where
  nodes : Array Node
  /-- A cell for every node, and further ones. -/
  cells : Array (Layer Ref)
  /-- The collections that have been met. -/
  met : List Nat
  /-- The collections that have been met and are not built yet, in order. -/
  waiting : List Nat

/-- A step of building. -/
abbrev Building (α : Type) := StateT Builder (Except Fault) α

namespace Building

/-- The value is not one of a document. -/
def refuse {α : Type} : Building α := throw .malformed

/-- A node. -/
def nodeAt (position : Nat) : Building Node := do
  return ((← get).nodes[position]?).getD ⟨.null, .scalar ""⟩

/-- The tag of a node. -/
def tagAt (position : Nat) : Building Tag := return (← nodeAt position).tag

/-- The entries of a mapping. -/
def entriesAt (position : Nat) : Building (List (Nat × Nat)) := do
  match (← nodeAt position).content with
  | .mapping entries => return entries
  | _ => refuse

/-- The items of a sequence. -/
def itemsAt (position : Nat) : Building (List Nat) := do
  match (← nodeAt position).content with
  | .sequence items => return items
  | _ => refuse

/-- Changes a node. -/
def changeNode (position : Nat) (f : Node → Node) : Building Unit :=
  modify fun b => { b with nodes := b.nodes.modify position f }

/-- Gives a cell its layer. -/
def setCell (position : Nat) (layer : Layer Ref) : Building Unit :=
  modify fun b => { b with cells := b.cells.modify position fun _ => layer }

/-- Adds a cell. -/
def addCell (layer : Layer Ref) : Building Ref := do
  let position := (← get).cells.size
  modify fun b => { b with cells := b.cells.push layer }
  return .cell position

/-! ## Merging -/

/-- The position of the first entry whose key has a tag. -/
def firstWithTag? (tag : Tag) : (position : Nat) → List (Nat × Nat) → Building (Option Nat)
  | _, [] => return none
  | position, (key, _) :: rest => do
    if (← tagAt key) = tag then return some position else firstWithTag? tag (position + 1) rest

/-- Keys that stand for a whole mapping count as texts inside one. -/
def untagValueKeys (entries : List (Nat × Nat)) : Building Unit :=
  entries.forM fun (key, _) => do
    if (← tagAt key) = .value then changeNode key fun n => { n with tag := .str }

mutual

/-- Takes over the entries of the mappings that a mapping is merged with, those after `collected`
from an entry on; `fuel` bounds the number of marks for merging on the way. -/
def mergeFrom (mapping : Nat) (collected : List (Nat × Nat)) : (fuel : Nat) → Building Unit
  | 0 => refuse
  | fuel + 1 => do
    let entries ← entriesAt mapping
    match ← firstWithTag? .merge 0 entries with
    | none => do
      untagValueKeys entries
      changeNode mapping fun n => { n with content := .mapping (collected ++ entries) }
    | some position => do
      let source := ((entries[position]?).map (·.2)).getD 0
      -- The mark goes before its source is looked at, which may lead back to this mapping.
      changeNode mapping fun n => { n with content := .mapping (entries.eraseIdx position) }
      let more ← match (← nodeAt source).content with
        | .mapping _ => do
          mergeFrom source [] fuel
          entriesAt source
        | .sequence items => do
          let parts ← mergeEach items fuel
          -- Of equal keys the last counts, so that the first mapping of a sequence comes last.
          pure parts.reverse.flatten
        | .scalar _ => refuse
      mergeFrom mapping (collected ++ more) fuel

/-- Merges every mapping of a sequence and gives their entries. -/
def mergeEach (items : List Nat) : (fuel : Nat) → Building (List (List (Nat × Nat)))
  | 0 => refuse
  | fuel + 1 => do
    match items with
    | [] => return []
    | item :: rest =>
      let entries ← do
        discard (entriesAt item)
        mergeFrom item [] fuel
        entriesAt item
      return entries :: (← mergeEach rest fuel)

end

/-- A number that no way through marks for merging exceeds: every step takes a mark away, or goes on in
the sequence of one. -/
def mergeSteps : Building Nat := do
  let size (n : Node) : Nat :=
    match n.content with
    | .scalar _ => 1
    | .sequence items => items.length + 2
    | .mapping entries => 2 * entries.length + 2
  let total := (← get).nodes.foldl (fun total n => total + size n) 0
  return total * total + 2

/-- Takes over the entries of the mappings that a mapping is merged with. -/
def merge (mapping : Nat) : Building Unit := do mergeFrom mapping [] (← mergeSteps)

/-! ## Values -/

/-- The text of a scalar, or of the entry that stands for a whole mapping; `fuel` bounds the number of
mappings on the way. -/
def scalarText : (fuel : Nat) → (position : Nat) → Building String
  | 0, _ => refuse
  | fuel + 1, position => do
    match (← nodeAt position).content with
    | .scalar text => return text
    | .sequence _ => refuse
    | .mapping entries =>
      match ← firstWithTag? .value 0 entries with
      | some i => scalarText fuel (((entries[i]?).map (·.2)).getD 0)
      | none => refuse

/-- Whether a tag is that of a collection. -/
def isCollection : Tag → Bool
  | .seq => true
  | .map => true
  | .set => true
  | .omap => true
  | .pairs => true
  | _ => false

/-- Whether a tag is that of a scalar. -/
def isScalar : Tag → Bool
  | .null => true
  | .bool => true
  | .int => true
  | .float => true
  | .binary => true
  | .timestamp => true
  | .str => true
  | _ => false

/-- The value of a node; a collection is built later. -/
def valueOf (position : Nat) : Building Ref := do
  let n ← nodeAt position
  if isCollection n.tag then
    -- A collection is built once, however many references lead to it.
    if !(← get).met.contains position then
      modify fun b => { b with met := position :: b.met, waiting := b.waiting ++ [position] }
    return .cell position
  else if isScalar n.tag then
    let text ← scalarText ((← get).nodes.size + 1) position
    return .scalar (← liftM (scalarOf n.tag text))
  else refuse

/-- The value of a key, which must be a scalar. -/
def keyOf (position : Nat) : Building Scalar := do
  match ← valueOf position with
  | .scalar s => return s
  | .cell _ => refuse

/-- The entries of a mapping after merging; of equal keys the last counts, in the first one's place. -/
def buildEntries (position : Nat) : Building (List (Scalar × Ref)) := do
  discard (entriesAt position)
  merge position
  (← entriesAt position).foldlM (fun built (key, value) => do
    let k ← keyOf key
    return putEntry k (← valueOf value) built) []

/-- The pair that a mapping with a single entry stands for. -/
def buildPair (position : Nat) : Building Ref := do
  match ← entriesAt position with
  | [(key, value)] => do
    let k ← valueOf key
    addCell (.pair k (← valueOf value))
  | _ => refuse

/-- Builds a collection. -/
def build (position : Nat) : Building Unit := do
  match ← tagAt position with
  | .seq => do setCell position (.list (← (← itemsAt position).mapM valueOf))
  | .map => do setCell position (.map (← buildEntries position))
  | .set => do
    setCell position (.members ((← buildEntries position).map (·.1)))
  | _ => do setCell position (.list (← (← itemsAt position).mapM buildPair))

/-- Builds the collections that wait, and those that are met on the way; `count` bounds their number. -/
def buildWaiting : (count : Nat) → Building Unit
  | 0 => return
  | count + 1 => do
    match (← get).waiting with
    | [] => return
    | position :: rest =>
      modify fun b => { b with waiting := rest }
      build position
      buildWaiting count

end Building

/-- The value of a graph of nodes. -/
def NodeGraph.value (g : NodeGraph) : Except Fault (Graph × Ref) := do
  let start : Builder := ⟨g.nodes, g.nodes.map fun _ => .scalar .null, [], []⟩
  let steps : Building Ref := do
    let root ← Building.valueOf g.root
    Building.buildWaiting (g.nodes.size + 1)
    return root
  let (root, b) ← steps.run start
  return (⟨b.cells⟩, root)

/-- The value of a text that holds one document at most; a text without one is null. -/
def readDocument (text : String) : Except Fault (Graph × Ref) := do
  match ← NodeGraph.ofTokens (tokens text) with
  | none => return (⟨#[]⟩, .scalar .null)
  | some g => g.value

end TemplateRules.Yaml
