import TemplateRules.Proofs.Records
import TemplateRules.Proofs.Unfolding
import TemplateRules.Rule.Completeness

/-!
# Binding drops no rules

A document has as many rules of every category as the value lists that it is bound from, so the comparison
of their numbers never refuses a document. A graph lists what its unfolding does.

## Main results

* `RuleDocument.length_of_listedCount?`: a list of rules keeps its length
* `RuleDocument.checkCompleteness_of_value`, `RuleDocument.checkCompleteness_of_ofValue`: documents that are
  bound from values and from graphs are complete
-/

namespace TemplateRules

namespace RuleDocument

/-- The rules that are bound from a list under a key are as many as its items. -/
theorem length_of_listedCount? {α : Type} {entries : List (Scalar × Value)} {f : FieldKey}
    {bind : Value → Bound α} {rules : List α} {n : Nat}
    (hbound : f.optional entries [] (sequenceOf bind) = .ok rules)
    (hn : listedCount? Value.view (.map entries) f.key = some n) : n = rules.length := by
  simp only [listedCount?, Value.view, Value.layer] at hn
  cases hv : lookupKey f.key entries with
  | none => simp [hv] at hn
  | some v =>
    cases hitems : v.layer with
    | list items =>
      obtain rfl : items.length = n := by simpa [hv, hitems] using hn
      obtain rfl := Value.eq_list_of_layer hitems
      rcases FieldKey.optional_eq_ok.mp hbound with ⟨hnone, -⟩ | ⟨given, w, hw, hbind⟩
      · simp [FieldKey.field?_of_lookupKey hv] at hnone
      · obtain ⟨-, rfl⟩ : f.key = given ∧ .list items = w := by
          simpa [FieldKey.field?_of_lookupKey hv] using hw
        exact (sequenceOf_list.mp hbind).length_eq
    | _ => simp [hv, hitems] at hn

/-- A document that is bound from a value has as many rules of every category as the value lists. -/
theorem checkCompleteness_of_value {v : Value} {d : RuleDocument} (h : ofValue v = .ok d)
    (source : String) : d.checkCompleteness Value.view v source = .ok () := by
  obtain ⟨entries, rfl, hb⟩ := boundFrom_of_ofValue h
  have hcount : ∀ entry ∈ d.categoryCounts, ∀ n,
      listedCount? Value.view (.map entries) entry.1 = some n → n = entry.2 := by
    intro entry hmem n hn
    simp only [categoryCounts, List.mem_cons, List.not_mem_nil, or_false] at hmem
    rcases hmem with rfl | rfl | rfl | rfl
    · exact length_of_listedCount? hb.insertions hn
    · exact length_of_listedCount? hb.replacements hn
    · exact length_of_listedCount? hb.smartReplacements hn
    · exact length_of_listedCount? hb.smartInsertions hn
  have hnone : firstDropped? Value.view (.map entries) d = none := by
    rw [firstDropped?, List.findSome?_eq_none_iff]
    rintro ⟨category, actual⟩ hmem
    cases hn : listedCount? Value.view (.map entries) category with
    | none => simp [hn]
    | some expected => simp [hn, hcount _ hmem expected hn]
  rw [checkCompleteness, hnone]

/-- A graph lists as many items as its unfolding. -/
theorem listedCount?_unfold (g : Graph) (root : Ref) (key : String) :
    listedCount? Value.view (g.unfold root) key = listedCount? g.view root key := by
  simp only [listedCount?, Value.view, Graph.view, g.layer_unfold]
  cases g.layer root with
  | map shared =>
    simp only [Layer.mapParts, lookupKey_map]
    cases lookupKey key shared with
    | none => rfl
    | some v =>
      simp only [Option.map_some, g.layer_unfoldTo_size]
      cases g.layer v <;> simp [Layer.mapParts]
  | _ => rfl

/-- **Bound documents are complete.** A document that is bound from a graph has as many rules of every
category as the graph lists. -/
theorem checkCompleteness_of_ofValue {g : Graph} {root : Ref} {d : RuleDocument}
    (h : ofValue (g.unfold root) = .ok d) (source : String) :
    d.checkCompleteness g.view root source = .ok () := by
  have hvalue := checkCompleteness_of_value h source
  rwa [checkCompleteness, firstDropped?, funext (listedCount?_unfold g root), ← firstDropped?,
    ← checkCompleteness] at hvalue

end RuleDocument

end TemplateRules
