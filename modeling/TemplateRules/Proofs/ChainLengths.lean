import TemplateRules.Proofs.Records
import TemplateRules.Proofs.Unfolding
import TemplateRules.Proofs.Walk

/-!
# Lengths of chains

The walk over a document counts fallbacks before the document is bound, and a pass counts rules after it. A
document that the walk accepts is bound to chains within the limit, in the way in which a pass counts them: the
chain of a smart insertion begins below its own conditions.

The walk looks at a graph or at a finite value, and binding only at values. What the two have in common is that a
value pictures what the walk sees, layer by layer, down to where it is cut off. Nothing that is cut off makes a
chain longer.

## Main definitions

* `Pictures`: values that show the layers of what is looked at
* `RuleDocument.ShortChains`: the chains of a document lie within a limit

## Main results

* `Chain.length_rulesOf_le`: the fallbacks of a value bound the length of the chain that it is bound to
* `RuleDocument.shortChains_of_walk`: a document that the walk accepts is bound to short chains
-/

namespace TemplateRules

open Structure (FallbacksWithin ListsRules)

variable {ρ : Type} {view : View ρ} {R : ρ → Value → Prop}

/-! ## Pictures -/

/-- Values that are related to what is looked at show its layers, with parts that are related in the same way, or
are null where they are cut off. -/
def Pictures (view : View ρ) (R : ρ → Value → Prop) : Prop :=
  ∀ v w, R v w → w = .scalar .null ∨
    ∃ f : ρ → Value, (∀ part, R part (f part)) ∧ w.layer = (view.layer v).mapParts f

/-- A value pictures itself. -/
theorem pictures_value : Pictures Value.view Eq := by
  rintro v _ rfl
  refine .inr ⟨id, fun _ => rfl, ?_⟩
  cases v <;> simp [Value.view, Value.layer, Layer.mapParts]

/-- The unfoldings of a graph picture it, to whatever depth. -/
theorem Graph.pictures (g : Graph) : Pictures g.view fun r w => ∃ depth, w = g.unfoldTo depth r := by
  rintro r _ ⟨_ | depth, rfl⟩
  · cases r with
    | scalar s => exact .inr ⟨g.unfoldTo 0, fun _ => ⟨0, rfl⟩, rfl⟩
    | cell i => exact .inl rfl
  · exact .inr ⟨g.unfoldTo depth, fun _ => ⟨depth, rfl⟩, g.layer_unfoldTo_succ depth r⟩

namespace Pictures

variable (hR : Pictures view R)

include hR

theorem of_map {v : ρ} {w : Value} {entries : List (Scalar × ρ)} (h : R v w)
    (hmap : view.layer v = .map entries) : w = .scalar .null ∨
      ∃ f : ρ → Value, (∀ part, R part (f part)) ∧ w = .map (entries.map fun (k, part) => (k, f part)) := by
  rcases hR v w h with hnull | ⟨f, hf, hlayer⟩
  · exact .inl hnull
  · rw [hmap] at hlayer
    exact .inr ⟨f, hf, Value.eq_map_of_layer hlayer⟩

theorem of_list {v : ρ} {w : Value} {items : List ρ} (h : R v w) (hlist : view.layer v = .list items) :
    w = .scalar .null ∨ ∃ f : ρ → Value, (∀ part, R part (f part)) ∧ w = .list (items.map f) := by
  rcases hR v w h with hnull | ⟨f, hf, hlayer⟩
  · exact .inl hnull
  · rw [hlist] at hlayer
    exact .inr ⟨f, hf, Value.eq_list_of_layer hlayer⟩

end Pictures

/-! ## Chains -/

namespace Chain

variable {α : Type} {model : String} {keys : List FieldKey} {level : List (Scalar × Value) → Bound α}

/-- A map is bound to a rule and what its fallback is bound to, unless it is cut off. -/
theorem rulesOf_of_pictures (hR : Pictures view R) {v : ρ} {w : Value} {entries : List (Scalar × ρ)}
    {rules : List α} (hv : R v w) (hmap : view.layer v = .map entries)
    (h : rulesOf model keys level w = .ok rules) :
    rules = [] ∨ ∃ rule rest, rules = rule :: rest ∧
      (lookupKey "fallback" entries = none → rest = []) ∧
      ∀ fallback, lookupKey "fallback" entries = some fallback →
        ∃ w', R fallback w' ∧ rulesOf model keys level w' = .ok rest := by
  rcases hR.of_map hv hmap with rfl | ⟨f, hf, rfl⟩
  · rw [rulesOf] at h
    exact .inl (Except.ok.inj h).symm
  · obtain ⟨rule, rest, hrules, -, hrest, -⟩ := rulesOf_map.mp h
    refine .inr ⟨rule, rest, hrules, ?_⟩
    rw [FieldKey.optional_plain_eq_ok, lookupKey_map] at hrest
    cases hkey : lookupKey "fallback" entries with
    | none => simpa [hkey] using hrest
    | some fallback =>
      have hfallback : rulesOf model keys level (f fallback) = .ok rest := by simpa [hkey] using hrest
      simpa using ⟨f fallback, hf fallback, hfallback⟩

/-- A value with few fallbacks is bound to a short chain, wherever it is cut off. The induction is on the
fallbacks that are looked at; a rule goes with each of them. -/
theorem length_rulesOf_le (hR : Pictures view R) {budget : Nat} {v : ρ} {w : Value} {rules : List α}
    (hwithin : FallbacksWithin view budget v) (hv : R v w) (h : rulesOf model keys level w = .ok rules) :
    rules.length ≤ budget + 1 := by
  induction hwithin generalizing w rules with
  | last hmap hnone =>
    rcases rulesOf_of_pictures hR hv hmap h with rfl | ⟨rule, rest, rfl, hrest, -⟩
    · simp
    · simp [hrest hnone]
  | more hmap hsome _ ih =>
    rcases rulesOf_of_pictures hR hv hmap h with rfl | ⟨rule, rest, rfl, -, hrest⟩
    · simp
    · obtain ⟨w', hw', hrest⟩ := hrest _ hsome
      have hlength := ih hw' hrest
      simp only [List.length_cons]
      omega

end Chain

namespace RuleDocument

/-- Every rule that is bound comes from an item of the list under its key. -/
theorem exists_of_listsRules {α : Type} (hR : Pictures view R) {entries : List (Scalar × ρ)} {f : ρ → Value}
    (hf : ∀ part, R part (f part)) {key : FieldKey} {bind : Value → Bound α} {rules : List α}
    {good : ρ → Prop} (hlists : ListsRules view entries key.key good)
    (hname : lookupKey key.key entries = none → lookupKey key.name entries = none)
    (hbound : key.optional (entries.map fun (k, part) => (k, f part)) [] (sequenceOf bind) = .ok rules) :
    ∀ a ∈ rules, ∃ v w, good v ∧ R v w ∧ bind w = .ok a := by
  rcases FieldKey.optional_eq_ok.mp hbound with ⟨-, rfl⟩ | ⟨given, w, hw, hbind⟩
  · simp
  · cases hkey : lookupKey key.key entries with
    | none =>
      simp [FieldKey.field?, lookupKey_map, hkey, hname hkey] at hw
    | some v =>
      obtain ⟨items, hitems, hgood⟩ := hlists v hkey
      obtain ⟨-, rfl⟩ : key.key = given ∧ f v = w := by
        simpa [FieldKey.field?, lookupKey_map, hkey] using hw
      rcases hR.of_list (hf v) hitems with hnull | ⟨f', hf', hlist⟩
      · simp [hnull, sequenceOf, Value.itemsOf, Bound.misfit] at hbind
      · rw [hlist, sequenceOf_list, List.forall₂_map_left_iff] at hbind
        intro a ha
        obtain ⟨item, hitem, hitem'⟩ := exists_of_forall₂_of_mem hbind ha
        exact ⟨item, f' item, hgood item hitem, hf' item, hitem'⟩

theorem length_fallbacks_le (hR : Pictures view R) {budget : Nat} {v : ρ} {w : Value}
    {fields : List (Scalar × ρ)} {i : SmartInsertion} (hv : R v w) (hmap : view.layer v = .map fields)
    (hwithin : ∀ fallback, lookupKey "fallback" fields = some fallback →
      FallbacksWithin view budget fallback)
    (h : SmartInsertion.ofValue w = .ok i) : i.fallbacks.length ≤ budget + 1 := by
  rcases hR.of_map hv hmap with rfl | ⟨f, hf, rfl⟩
  · simp [SmartInsertion.ofValue, Value.entriesOf, Bound.misfit] at h
  · obtain ⟨-, -, -, -, hfallbacks, -⟩ := SmartInsertion.ofValue_map.mp h
    rw [FieldKey.optional_plain_eq_ok, lookupKey_map] at hfallbacks
    cases hkey : lookupKey "fallback" fields with
    | none => simp [show i.fallbacks = [] by simpa [hkey] using hfallbacks]
    | some fallback =>
      have hrules : Insertion.rulesOf (f fallback) = .ok i.fallbacks := by simpa [hkey] using hfallbacks
      exact Chain.length_rulesOf_le hR (hwithin fallback hkey) (hf fallback) hrules

/-- The chains of a document have at most `limit` fallbacks. The fallback of a smart insertion counts as the
first of a chain. -/
structure ShortChains (limit : Nat) (d : RuleDocument) : Prop where
  insertions : ∀ c ∈ d.insertions, c.rules.length ≤ limit + 1
  replacements : ∀ c ∈ d.replacements, c.rules.length ≤ limit + 1
  smartInsertions : ∀ i ∈ d.smartInsertions, i.fallbacks.length ≤ limit

/-- A document that the walk accepts is bound to short chains. Where no fallbacks are allowed the walk lets a
smart insertion have one, so the limit has to be at least one. -/
theorem shortChains_of_walk (hR : Pictures view R) {limit : Int} {root : ρ} {w : Value} {d : RuleDocument}
    (hlimit : 1 ≤ limit) (hroot : R root w) (hwalk : Structure.walk view limit root = .ok ())
    (hbound : ofValue w = .ok d) : d.ShortChains limit.toNat := by
  obtain ⟨entries, hmap, hwalked⟩ := Structure.walked_of_walk hwalk
  obtain ⟨_, rfl, hfields⟩ := boundFrom_of_ofValue hbound
  rcases hR.of_map hroot hmap with hnull | ⟨f, hf, hentries⟩
  · simp at hnull
  · obtain rfl := Value.map.inj hentries
    refine ⟨fun c hc => ?_, fun c hc => ?_, fun i hi => ?_⟩
    · obtain ⟨v, w, hwithin, hv, hw⟩ :=
        exists_of_listsRules hR hf hwalked.insertions id hfields.insertions c hc
      exact Chain.length_rulesOf_le hR hwithin hv (Chain.ofValue_eq_ok.mp hw)
    · obtain ⟨v, w, hwithin, hv, hw⟩ :=
        exists_of_listsRules hR hf hwalked.replacements id hfields.replacements c hc
      exact Chain.length_rulesOf_le hR hwithin hv (Chain.ofValue_eq_ok.mp hw)
    · obtain ⟨v, w, ⟨fields, hfieldsMap, hwithin⟩, hv, hw⟩ := exists_of_listsRules hR hf
        hwalked.smartInsertions (fun _ => hwalked.known _ (by decide)) hfields.smartInsertions i hi
      have hlength := length_fallbacks_le hR hv hfieldsMap hwithin hw
      omega

end RuleDocument

end TemplateRules
