import TemplateRules.Value.Graph

/-!
# Layers of unfolded graphs

A graph is looked at layer by layer, and its unfolding is a finite value. Down to the depth of the
unfolding the layers of the value are those of the graph, with the parts unfolded.

## Main definitions

* `Layer.mapParts`: a layer with its parts changed

## Main results

* `Graph.layer_unfoldTo_succ`: the layers of an unfolding
* `Graph.layer_unfold`, `Graph.layer_unfoldTo_size`: the two outermost layers of a whole unfolding
-/

namespace TemplateRules

section Layers

variable {ρ σ : Type}

/-- The layer with a function applied to every part. -/
def Layer.mapParts (f : ρ → σ) : Layer ρ → Layer σ
  | .scalar s => .scalar s
  | .list items => .list (items.map f)
  | .pair a b => .pair (f a) (f b)
  | .map entries => .map (entries.map fun (k, v) => (k, f v))
  | .members keys => .members keys

theorem lookupKey_map (f : ρ → σ) (key : String) (entries : List (Scalar × ρ)) :
    lookupKey key (entries.map fun (k, v) => (k, f v)) = (lookupKey key entries).map f := by
  induction entries with
  | nil => rfl
  | cons e rest ih =>
    obtain ⟨k, v⟩ := e
    simp only [List.map_cons, lookupKey, ih]
    split <;> rfl

end Layers

namespace Value

theorem eq_map_of_layer {v : Value} {entries : List (Scalar × Value)} (h : v.layer = .map entries) :
    v = .map entries := by
  cases v <;> simp_all [layer]

theorem eq_scalar_of_layer {v : Value} {s : Scalar} (h : v.layer = .scalar s) : v = .scalar s := by
  cases v <;> simp_all [layer]

theorem eq_list_of_layer {v : Value} {items : List Value} (h : v.layer = .list items) :
    v = .list items := by
  cases v <;> simp_all [layer]

end Value

namespace Graph

theorem layer_unfoldTo_succ (g : Graph) (depth : Nat) (r : Ref) :
    (g.unfoldTo (depth + 1) r).layer = (g.layer r).mapParts (g.unfoldTo depth) := by
  cases r with
  | scalar s => rfl
  | cell i =>
    rw [unfoldTo]
    cases g.layer (.cell i) <;> rfl

theorem layer_unfold (g : Graph) (r : Ref) :
    (g.unfold r).layer = (g.layer r).mapParts (g.unfoldTo g.cells.size) :=
  g.layer_unfoldTo_succ _ r

/-- A graph whose cells are counted by the depth has no layers that the depth cuts off, also where it
has no cells. -/
theorem layer_unfoldTo_size (g : Graph) (r : Ref) :
    (g.unfoldTo g.cells.size r).layer = (g.layer r).mapParts (g.unfoldTo (g.cells.size - 1)) := by
  rcases Nat.eq_zero_or_pos g.cells.size with h | h
  · cases r with
    | scalar s => rw [h]; rfl
    | cell i =>
      have hnull : g.layer (.cell i) = .scalar .null := by
        simp [Graph.layer, Array.getElem?_eq_none_iff.mpr (by omega : g.cells.size ≤ i)]
      rw [h, hnull]
      rfl
  · obtain ⟨n, hn⟩ : ∃ n, g.cells.size = n + 1 := ⟨g.cells.size - 1, by omega⟩
    rw [hn, Nat.add_sub_cancel]
    exact g.layer_unfoldTo_succ n r

end Graph

end TemplateRules
