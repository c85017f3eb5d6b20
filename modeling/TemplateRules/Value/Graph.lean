import TemplateRules.Value.Tree

/-!
# Values that share parts

A document may name a part and refer to it again, also from within, so its value is a graph: cells
that hold one layer each and refer to one another by position. A graph unfolds into a finite value
down to any depth.
-/

namespace TemplateRules

/-- A scalar, or a reference to a cell. -/
inductive Ref where
  | scalar (value : Scalar)
  | cell (index : Nat)
deriving DecidableEq

/-- The cells of a graph. -/
structure Graph where
  cells : Array (Layer Ref)

namespace Graph

/-- The layer at a reference; a reference to no cell is null. -/
def layer (g : Graph) : Ref → Layer Ref
  | .scalar s => .scalar s
  | .cell i => (g.cells[i]?).getD (.scalar .null)

/-- The value at a reference as messages show it, below the cells `above`: a cell inside itself is
shown by an ellipsis. -/
def quotedBelow (g : Graph) : (depth : Nat) → (above : List Nat) → Ref → String
  | _, _, .scalar s => s.quoted
  | 0, _, .cell _ => "..."
  | depth + 1, above, .cell i =>
    let again := above.contains i
    let inner := g.quotedBelow depth (i :: above)
    match g.layer (.cell i) with
    | .scalar s => s.quoted
    | .list items =>
      "[" ++ (if again then "..." else ", ".intercalate (items.map inner)) ++ "]"
    | .pair a b => "(" ++ (if again then "..." else inner a ++ ", " ++ inner b) ++ ")"
    | .map entries =>
      "\x7b" ++ (if again then "..."
        else ", ".intercalate (entries.map fun (k, v) => k.quoted ++ ": " ++ inner v)) ++ "\x7d"
    | .members keys => quotedMembers keys

/-- The value at a reference as messages show it. No chain of distinct cells is longer than their
number, so the depth is never used up. -/
def quoted (g : Graph) (r : Ref) : String := g.quotedBelow (g.cells.size + 1) [] r

/-- The view of a graph. -/
def view (g : Graph) : View Ref := ⟨g.layer, g.quoted⟩

/-- The value at a reference down to a depth; what lies deeper is null. -/
def unfoldTo (g : Graph) : (depth : Nat) → Ref → Value
  | _, .scalar s => .scalar s
  | 0, .cell _ => .scalar .null
  | depth + 1, .cell i =>
    let inner := g.unfoldTo depth
    match g.layer (.cell i) with
    | .scalar s => .scalar s
    | .list items => .list (items.map inner)
    | .pair a b => .pair (inner a) (inner b)
    | .map entries => .map (entries.map fun (k, v) => (k, inner v))
    | .members keys => .members keys

/-- The value at a reference. A value without cycles is unfolded whole. -/
def unfold (g : Graph) (r : Ref) : Value := g.unfoldTo (g.cells.size + 1) r

end Graph

end TemplateRules
