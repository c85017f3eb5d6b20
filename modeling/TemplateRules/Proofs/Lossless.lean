import Mathlib
import TemplateRules.Proofs.Acceptance
import TemplateRules.Proofs.Completeness
import TemplateRules.Proofs.NormalForm
import TemplateRules.Proofs.ReadingBack

/-!
# Binding loses nothing

What a part of the grammar is bound to is written as the part was, but for the normal form and the order of
entries. The grammar says which keys a map has and what is under them; binding says which field each of them
becomes; and writing puts every field back under the key that it came from.

## Main definitions

* `Value.Keeps`: a part of a form is bound to what is written as the normal form of the part

## Main results

* `Value.Keeps.optional`, `Value.Keeps.required`: fields
* `ConditionSet.keeps`, `Insertion.keeps_rules`, `Replacement.keeps_rules`: the parts that nest
* `RuleDocument.same_dump_normalForm`: documents
-/

namespace TemplateRules

open Grammar
open Value (asText asTexts orNull asTable)

namespace Value

variable {α : Type} {form : Value → Prop} {normal : Value → Value} {bind : Value → Bound α}
  {write : α → Value}

/-- What a value of a form is bound to is not absent, and is written as the normal form of the value. -/
def Keeps (form : Value → Prop) (normal : Value → Value) (bind : Value → Bound α) (write : α → Value) :
    Prop :=
  ∀ v a, form v → bind v = .ok a → ∃ w, present (write a) = some w ∧ Same w (normal v)

/-! ## Parts -/

theorem keeps_text : Keeps (IsText view) id asText text := by
  rintro v s ⟨t, ht⟩ hbind
  obtain rfl := eq_scalar_of_layer ht
  obtain rfl := Except.ok.inj hbind
  exact ⟨_, rfl, .scalar _⟩

/-- Lists keep what their items keep. -/
theorem Keeps.list (h : Keeps form normal bind write) :
    Keeps (IsList view form) (eachItem normal) (sequenceOf bind) fun as => .list (as.map write) := by
  rintro v as ⟨items, hitems, hform⟩ hbind
  obtain rfl := eq_list_of_layer hitems
  refine ⟨_, present_list _, .list ?_⟩
  rw [List.map_map, List.forall₂_map_left_iff, List.forall₂_map_right_iff]
  have hbound := (List.forall₂_and_left _ _).mpr ⟨hform, sequenceOf_list.mp hbind⟩
  refine List.Forall₂.flip (hbound.imp ?_)
  rintro v a ⟨hv, ha⟩
  obtain ⟨w, hw, hsame⟩ := h v a hv ha
  obtain rfl := withoutNulls_of_present hw
  exact hsame

theorem Keeps.items (h : Keeps form id bind write) :
    Keeps (IsList view form) id (sequenceOf bind) fun as => .list (as.map write) :=
  eachItem_id ▸ h.list

theorem keeps_texts : Keeps (IsList view (IsText view)) id asTexts ofTexts := keeps_text.items

theorem Keeps.orNull (h : Keeps form normal bind write) (hnull : ¬ form null) :
    Keeps form normal (orNull bind) fun o => (o.map write).getD null := by
  intro v o hform hbind
  have hv : v.isNull = false := by
    rw [Bool.eq_false_iff, ne_eq, isNull_iff]
    rintro rfl
    exact hnull hform
  rw [orNull_of_isNull_eq_false hv] at hbind
  obtain ⟨a, ha, rfl⟩ := map_eq_ok.mp hbind
  exact h v a hform ha

theorem keeps_text? : Keeps (IsText view) id (Value.orNull asText) ofText? := by
  intro v o hform hbind
  obtain ⟨w, hw, hsame⟩ := keeps_text.orNull (by simp [IsText, view, layer]) v o hform hbind
  cases o <;> exact ⟨w, hw, hsame⟩

theorem keeps_texts? : Keeps (IsList view (IsText view)) id (Value.orNull asTexts) ofTexts? := by
  intro v o hform hbind
  obtain ⟨w, hw, hsame⟩ := keeps_texts.orNull (by simp [IsList, view, layer]) v o hform hbind
  cases o <;> exact ⟨w, hw, hsame⟩

/-! ## Fields -/

section Fields

variable {names : List String} {entries : List (Scalar × Value)} {f : FieldKey} {default a : α}

/-- A field that may be absent is written as it was, or as its default. -/
theorem Keeps.optionalOr {other : Option Value} (h : Keeps form normal bind write)
    (hkeys : KeysAmong names entries) (hunder : Under f.key entries form)
    (hbind : f.optional entries default bind = .ok a)
    (hdefault : Option.Rel Same (present (write default)) other)
    (hname : f.name = f.key ∨ f.name ∉ names) :
    Option.Rel Same (present (write a)) (((lookupKey f.key entries).map normal).or other) := by
  rw [FieldKey.optional_eq_ok, hkeys.field?_eq hname] at hbind
  rcases hbind with ⟨hnone, rfl⟩ | ⟨given, v, hfield, hbind⟩
  · simpa [Option.map_eq_none_iff.mp hnone] using hdefault
  · obtain ⟨v, hv, heq⟩ := Option.map_eq_some_iff.mp hfield
    obtain ⟨-, rfl⟩ := Prod.mk.inj heq
    obtain ⟨w, hw, hsame⟩ := h v a (hunder v hv) hbind
    rw [hv, hw]
    exact .some hsame

/-- A field that is not written in its absence is written as it was. -/
theorem Keeps.optional (h : Keeps form normal bind write) (hkeys : KeysAmong names entries)
    (hunder : Under f.key entries form) (hbind : f.optional entries default bind = .ok a)
    (hname : f.name = f.key ∨ f.name ∉ names) (hdefault : present (write default) = none) :
    Option.Rel Same (present (write a)) ((lookupKey f.key entries).map normal) := by
  rw [← Option.or_none (o := (lookupKey f.key entries).map normal)]
  exact h.optionalOr hkeys hunder hbind (by rw [hdefault]; exact .none) hname

theorem Keeps.optional_id (h : Keeps form id bind write) (hkeys : KeysAmong names entries)
    (hunder : Under f.key entries form) (hbind : f.optional entries default bind = .ok a)
    (hname : f.name = f.key ∨ f.name ∉ names) (hdefault : present (write default) = none) :
    Option.Rel Same (present (write a)) (lookupKey f.key entries) := by
  simpa using h.optional hkeys hunder hbind hname hdefault

theorem Keeps.required (h : Keeps form normal bind write) (hkeys : KeysAmong names entries)
    (hunder : Under f.key entries form) (hbind : f.required entries bind = .ok a)
    (hname : f.name = f.key ∨ f.name ∉ names) :
    Option.Rel Same (present (write a)) ((lookupKey f.key entries).map normal) := by
  rw [FieldKey.required, hkeys.field?_eq hname] at hbind
  cases hv : lookupKey f.key entries with
  | none => simp [hv] at hbind
  | some v =>
    obtain ⟨w, hw, hsame⟩ := h v a (hunder v hv) (by simpa [hv] using hbind)
    rw [hw]
    exact .some hsame

theorem Keeps.required_id (h : Keeps form id bind write) (hkeys : KeysAmong names entries)
    (hunder : Under f.key entries form) (hbind : f.required entries bind = .ok a)
    (hname : f.name = f.key ∨ f.name ∉ names) :
    Option.Rel Same (present (write a)) (lookupKey f.key entries) := by
  simpa using h.required hkeys hunder hbind hname

/-- A record is written as the normal form of the map that it was bound from, if every field is. -/
theorem same_of_isMap {required : List String} {fields : List (String × (Value → Prop))}
    {parts : List (String × Value)} {v : Value} (change : List (Scalar × Value) → List (Scalar × Value))
    (hmap : IsMap view required fields v) (hnames : parts.map Prod.fst = fields.map Prod.fst)
    (hnodup : (fields.map Prod.fst).Nodup)
    (hnormal : ∀ entries, normal (.map entries) = .map (change entries))
    (hchange : ∀ {entries}, KeysAmong (fields.map Prod.fst) entries →
      KeysAmong (fields.map Prod.fst) (change entries))
    (hparts : ∀ entries, v = .map entries → KeysAmong (fields.map Prod.fst) entries →
      (∀ f ∈ fields, Under f.1 entries f.2) →
      ∀ p ∈ parts, Option.Rel Same (present p.2) (lookupKey p.1 (change entries))) :
    ∃ w, present (ofFields parts) = some w ∧ Same w (normal v) := by
  obtain ⟨entries, hlayer, hknown, -, hunder⟩ := hmap
  obtain rfl := eq_map_of_layer hlayer
  have hkeys : KeysAmong (fields.map Prod.fst) entries := by
    intro e he
    obtain ⟨f, hf, heq⟩ := hknown e he
    exact ⟨f.1, List.mem_map_of_mem hf, heq⟩
  refine ⟨_, present_ofFields parts, ?_⟩
  rw [hnormal]
  exact same_record (hnames ▸ hnodup) (hnames ▸ hchange hkeys) (hparts entries rfl hkeys hunder)

/-- A record is written as the map that it was bound from, if every field is. -/
theorem same_of_isMap_id {required : List String} {fields : List (String × (Value → Prop))}
    {parts : List (String × Value)} {v : Value} (hmap : IsMap view required fields v)
    (hnames : parts.map Prod.fst = fields.map Prod.fst) (hnodup : (fields.map Prod.fst).Nodup)
    (hparts : ∀ entries, v = .map entries → KeysAmong (fields.map Prod.fst) entries →
      (∀ f ∈ fields, Under f.1 entries f.2) →
      ∀ p ∈ parts, Option.Rel Same (present p.2) (lookupKey p.1 entries)) :
    ∃ w, present (ofFields parts) = some w ∧ Same w v :=
  show ∃ w, present (ofFields parts) = some w ∧ Same w (id v) from
    same_of_isMap id hmap hnames hnodup (fun _ => rfl) id hparts

end Fields

end Value

open Value

/-! ## Condition sets -/

namespace ConditionSet

theorem optionValue_eq : optionValue = fun o => (o.map toValue).getD .null := by
  funext o
  cases o <;> rfl

theorem itemValues_eq (cs : List ConditionSet) : itemValues cs = cs.map toValue := by
  induction cs with
  | nil => rfl
  | cons c cs ih => rw [itemValues, ih, List.map_cons]

theorem listValue_eq :
    listValue = fun o => (o.map fun cs => .list (cs.map toValue)).getD .null := by
  funext o
  cases o with
  | none => rfl
  | some cs => exact congrArg Value.list (itemValues_eq cs)

theorem not_isConditions_null (height : Nat) : ¬ IsConditions view height null := by
  cases height <;> simp [IsConditions, IsMap, view, layer]

/-- Condition sets of any height are kept. -/
theorem keeps (height : Nat) : Keeps (IsConditions view height) id ofValue toValue := by
  induction height with
  | zero => exact fun _ _ hform => hform.elim
  | succ height ih =>
    have hset : Keeps (IsConditions view height) id (orNull ofValue) optionValue :=
      optionValue_eq ▸ ih.orNull (not_isConditions_null height)
    have hsets : Keeps (IsList view (IsConditions view height)) id (orNull (sequenceOf ofValue))
        listValue :=
      listValue_eq ▸ ih.items.orNull (by simp [IsList, view, layer])
    rintro v ⟨clauses, allOf, anyOf, negated⟩ hform hbind
    rw [toValue_eq]
    refine same_of_isMap_id hform rfl (by simp) ?_
    rintro entries rfl hkeys hunder
    obtain ⟨hclauses, hallOf, hanyOf, hnot, -⟩ := ofValue_map.mp hbind
    obtain ⟨h₁, h₂, h₃, h₄, h₅, h₆, h₇, h₈, h₉, h₁₀, h₁₁⟩ := clausesOf_eq_ok.mp hclauses
    simp only [List.forall_mem_cons, List.not_mem_nil, IsEmpty.forall_iff, implies_true, and_true]
      at hunder
    obtain ⟨u₁, u₂, u₃, u₄, u₅, u₆, u₇, u₈, u₉, u₁₀, u₁₁, uallOf, uanyOf, unot⟩ := hunder
    simp only [fields, Clauses.fields, List.cons_append, List.nil_append, List.forall_mem_cons,
      List.not_mem_nil, IsEmpty.forall_iff, implies_true, and_true]
    exact ⟨keeps_text?.optional_id hkeys u₁ h₁ (.inr (by simp)) rfl,
      keeps_text?.optional_id hkeys u₂ h₂ (.inr (by simp)) rfl,
      keeps_text?.optional_id hkeys u₃ h₃ (.inr (by simp)) rfl,
      keeps_texts?.optional_id hkeys u₄ h₄ (.inr (by simp)) rfl,
      keeps_texts?.optional_id hkeys u₅ h₅ (.inr (by simp)) rfl,
      keeps_text?.optional_id hkeys u₆ h₆ (.inr (by simp)) rfl,
      keeps_texts?.optional_id hkeys u₇ h₇ (.inr (by simp)) rfl,
      keeps_texts?.optional_id hkeys u₈ h₈ (.inr (by simp)) rfl,
      keeps_text?.optional_id hkeys u₉ h₉ (.inr (by simp)) rfl,
      keeps_text?.optional_id hkeys u₁₀ h₁₀ (.inr (by simp)) rfl,
      keeps_text?.optional_id hkeys u₁₁ h₁₁ (.inr (by simp)) rfl,
      hsets.optional_id hkeys uallOf hallOf (.inr (by simp)) rfl,
      hsets.optional_id hkeys uanyOf hanyOf (.inr (by simp)) rfl,
      hset.optional_id hkeys unot hnot (.inr (by simp)) rfl⟩

/-- The conditions of a rule are kept. -/
theorem keeps_optionValue (height : Nat) :
    Keeps (IsConditions view height) id ofNullable optionValue := by
  rw [optionValue_eq, ofNullable_eq]
  exact (keeps height).orNull (not_isConditions_null height)

end ConditionSet

/-! ## Rules -/

theorem VariantPattern.keeps : Keeps (IsVariants view) id ofValue toValue := by
  intro v p hform hbind
  refine same_of_isMap_id hform rfl (by simp) ?_
  rintro entries rfl hkeys hunder
  obtain ⟨hlabel, hvariants, -⟩ := ofValue_map.mp hbind
  simp only [List.forall_mem_cons, List.not_mem_nil, IsEmpty.forall_iff, implies_true, and_true]
    at hunder ⊢
  obtain ⟨utype, uvariants⟩ := hunder
  exact ⟨keeps_text.required_id hkeys utype hlabel (.inl rfl),
    keeps_texts.required_id hkeys uvariants hvariants (.inl rfl)⟩

theorem SmartReplacement.keeps (height : Nat) :
    Keeps (IsSmartReplacement view height) id ofValue toValue := by
  intro v r hform hbind
  refine same_of_isMap_id hform rfl (by simp) ?_
  rintro entries rfl hkeys hunder
  obtain ⟨hcandidates, hpoint, hvariants, hreplacement, hconditions, -⟩ := ofValue_map.mp hbind
  simp only [List.forall_mem_cons, List.not_mem_nil, IsEmpty.forall_iff, implies_true, and_true]
    at hunder ⊢
  obtain ⟨ufindAny, usemantic, ufindPattern, ureplace, uconditions⟩ := hunder
  have hpattern := VariantPattern.keeps.orNull (by simp [IsVariants, IsMap, view, layer])
  exact ⟨keeps_texts?.optional_id hkeys ufindAny hcandidates (.inr (by simp)) rfl,
    keeps_text?.optional_id hkeys usemantic hpoint (.inl rfl) rfl,
    hpattern.optional_id hkeys ufindPattern hvariants (.inr (by simp)) rfl,
    keeps_text.required_id hkeys ureplace hreplacement (.inl rfl),
    (ConditionSet.keeps_optionValue height).optional_id hkeys uconditions hconditions (.inl rfl) rfl⟩

theorem PatternLocation.keeps : Keeps (IsLocation view) id ofValue toValue := by
  intro v l hform hbind
  refine same_of_isMap_id hform rfl (by simp) ?_
  rintro entries rfl hkeys hunder
  obtain ⟨hafter, hbefore, -⟩ := ofValue_map.mp hbind
  simp only [List.forall_mem_cons, List.not_mem_nil, IsEmpty.forall_iff, implies_true, and_true]
    at hunder ⊢
  obtain ⟨uafter, ubefore⟩ := hunder
  exact ⟨keeps_text?.optional_id hkeys uafter hafter (.inl rfl) rfl,
    keeps_text?.optional_id hkeys ubefore hbefore (.inl rfl) rfl⟩

theorem keeps_locations : Keeps (IsInsertionPoint view) id locationsOf locationsValue := by
  intro v ls hform hbind
  refine same_of_isMap_id hform rfl (by simp) ?_
  rintro entries rfl hkeys hunder
  obtain ⟨hlocations, -⟩ := locationsOf_map.mp hbind
  simp only [List.forall_mem_cons, List.not_mem_nil, IsEmpty.forall_iff, implies_true, and_true]
    at hunder ⊢
  exact PatternLocation.keeps.items.required_id hkeys hunder hlocations (.inl rfl)

namespace Insertion

/-- A rule of a chain keeps what its fallback keeps. -/
theorem keeps_level {height : Nat} {fallback : Value → Prop}
    (hfallback : Keeps fallback id rulesOf (chainValue Insertion.toValue)) :
    Keeps (IsMap view ["content"] (insertionFields view height fallback)) id rulesOf
      (chainValue Insertion.toValue) := by
  intro v rules hform hbind
  obtain ⟨entries, hlayer, -⟩ := id hform
  obtain rfl := eq_map_of_layer hlayer
  obtain ⟨i, rest, rfl, hlevel, hrest, -⟩ := Chain.rulesOf_map.mp hbind
  obtain ⟨hafter, hbefore, hedge, hcontent, hconditions⟩ := levelOf_eq_ok.mp hlevel
  refine same_of_isMap_id hform rfl (by simp [insertionFields]) ?_
  rintro _ heq hkeys hunder
  obtain rfl := Value.map.inj heq
  simp only [insertionFields, List.forall_mem_cons, List.not_mem_nil, IsEmpty.forall_iff, implies_true,
    and_true] at hunder ⊢
  obtain ⟨uafter, ubefore, uat, ucontent, uconditions, ufallback⟩ := hunder
  exact ⟨keeps_text?.optional_id hkeys uafter hafter (.inl rfl) rfl,
    keeps_text?.optional_id hkeys ubefore hbefore (.inl rfl) rfl,
    keeps_text?.optional_id hkeys uat hedge (.inl rfl) rfl,
    keeps_text.required_id hkeys ucontent hcontent (.inl rfl),
    (ConditionSet.keeps_optionValue height).optional_id hkeys uconditions hconditions (.inl rfl) rfl,
    hfallback.optional_id hkeys ufallback hrest (.inl rfl) rfl⟩

theorem keeps_rules (height fallbacks : Nat) :
    Keeps (IsInsertion view height fallbacks) id rulesOf (chainValue Insertion.toValue) := by
  induction fallbacks with
  | zero => exact keeps_level fun _ _ hform => hform.elim
  | succ fallbacks ih => exact keeps_level ih

theorem keeps_chain (height fallbacks : Nat) :
    Keeps (IsInsertion view height fallbacks) id chainOf (Chain.toValue Insertion.toValue) :=
  fun v c hform hbind => keeps_rules height fallbacks v c.rules hform (Chain.ofValue_eq_ok.mp hbind)

end Insertion

theorem SmartInsertion.keeps (height fallbacks : Nat) :
    Keeps (IsSmartInsertion view height fallbacks) id ofValue toValue := by
  intro v i hform hbind
  refine same_of_isMap_id hform rfl (by simp) ?_
  rintro entries rfl hkeys hunder
  obtain ⟨hpoint, hlocations, hcontent, hconditions, hfallbacks, -⟩ := ofValue_map.mp hbind
  simp only [List.forall_mem_cons, List.not_mem_nil, IsEmpty.forall_iff, implies_true, and_true]
    at hunder ⊢
  obtain ⟨usemantic, upoint, ucontent, uconditions, ufallback⟩ := hunder
  have hplace := keeps_locations.orNull (by simp [IsInsertionPoint, IsMap, view, layer])
  exact ⟨keeps_text?.optional_id hkeys usemantic hpoint (.inl rfl) rfl,
    hplace.optional_id hkeys upoint hlocations (.inr (by simp)) rfl,
    keeps_text.required_id hkeys ucontent hcontent (.inl rfl),
    (ConditionSet.keeps_optionValue height).optional_id hkeys uconditions hconditions (.inl rfl) rfl,
    (Insertion.keeps_rules height fallbacks).optional_id hkeys ufallback hfallbacks (.inl rfl) rfl⟩

/-- A word for a kind of replacement is the word of the kind. -/
theorem ReplacementKind.word_of_ofWord? {word : String} {k : ReplacementKind}
    (h : ofWord? word = some k) : k.word = word := by
  rw [ofWord?] at h
  split at h
  · rename_i hword
    obtain rfl := Option.some.inj h
    exact hword.symm
  · split at h
    · rename_i hword
      obtain rfl := Option.some.inj h
      exact hword.symm
    · simp at h

theorem ReplacementKind.keeps :
    Keeps (IsKind view) normalKind ReplacementKind.ofValue fun k => text k.word := by
  rintro v k ⟨s, hlayer, -⟩ hbind
  obtain rfl := eq_scalar_of_layer hlayer
  rw [ReplacementKind.ofValue] at hbind
  cases hkind : ofText? s with
  | none => simp [hkind] at hbind
  | some kind =>
    obtain rfl : kind = k := by simpa [hkind] using hbind
    refine ⟨_, rfl, ?_⟩
    have hword : kind.word = Text.lower (Text.strip s) := by
      rw [word_of_ofWord? hkind, Text.lower, Text.strip, String.toList_ofList]
    change Same (text kind.word) (text (Text.lower (Text.strip s)))
    rw [hword]
    exact .scalar _

namespace Replacement

/-- A rule of a chain keeps what its fallback keeps. -/
theorem keeps_level {height : Nat} {fallback : Value → Prop}
    (hfallback : Keeps fallback normalReplacement (Chain.rulesOf "Replacement" fieldKeys levelOf)
      (chainValue Replacement.toValue)) :
    Keeps (IsMap view ["find", "replace"] (replacementFields view height fallback)) normalReplacement
      (Chain.rulesOf "Replacement" fieldKeys levelOf) (chainValue Replacement.toValue) := by
  intro v rules hform hbind
  obtain ⟨entries, hlayer, -⟩ := id hform
  obtain rfl := eq_map_of_layer hlayer
  obtain ⟨r, rest, rfl, hlevel, hrest, -⟩ := Chain.rulesOf_map.mp hbind
  obtain ⟨hfind, hreplacement, hkind, hconditions⟩ := levelOf_eq_ok.mp hlevel
  refine same_of_isMap (fun entries => alter "type" normalKind? (normalFallback entries)) hform
    rfl (by simp [replacementFields]) (fun _ => by rw [normalReplacement])
    (fun hkeys => hkeys.normalFallback.alter (by simp [replacementFields])) ?_
  rintro _ heq hkeys hunder
  obtain rfl := Value.map.inj heq
  simp only [replacementFields, List.forall_mem_cons, List.not_mem_nil, IsEmpty.forall_iff,
    implies_true, and_true] at hunder ⊢
  obtain ⟨ufind, ureplace, utype, uconditions, ufallback⟩ := hunder
  have hkind' := ReplacementKind.keeps.optionalOr hkeys utype hkind (.some (.scalar (.text "string")))
    (.inr (by simp [replacementFields]))
  have hrest' := hfallback.optional hkeys ufallback hrest (.inl rfl) rfl
  simp only [lookupKey_alter, lookupKey_normalFallback, String.reduceEq, if_true, if_false, Option.map_id,
    id_eq]
  exact ⟨keeps_text.required_id hkeys ufind hfind (.inl rfl),
    keeps_text.required_id hkeys ureplace hreplacement (.inl rfl), hkind',
    (ConditionSet.keeps_optionValue height).optional_id hkeys uconditions hconditions (.inl rfl) rfl,
    hrest'⟩

theorem keeps_rules (height fallbacks : Nat) :
    Keeps (IsReplacement view height fallbacks) normalReplacement
      (Chain.rulesOf "Replacement" fieldKeys levelOf) (chainValue Replacement.toValue) := by
  induction fallbacks with
  | zero => exact keeps_level fun _ _ hform => hform.elim
  | succ fallbacks ih => exact keeps_level ih

theorem keeps_chain (height fallbacks : Nat) :
    Keeps (IsReplacement view height fallbacks) normalReplacement chainOf
      (Chain.toValue Replacement.toValue) :=
  fun v c hform hbind => keeps_rules height fallbacks v c.rules hform (Chain.ofValue_eq_ok.mp hbind)

end Replacement

/-! ## Documents -/

theorem keeps_version : Keeps (IsTextOrNumber view) normalVersion versionText ofText? := by
  rintro v o ⟨s, hlayer, hkind⟩ hbind
  obtain rfl := eq_scalar_of_layer hlayer
  cases s with
  | text t =>
    obtain rfl := Except.ok.inj hbind
    exact ⟨_, rfl, .scalar _⟩
  | int i =>
    obtain rfl := Except.ok.inj hbind
    exact ⟨_, rfl, .scalar _⟩
  | float x =>
    obtain rfl := Except.ok.inj hbind
    exact ⟨_, rfl, .scalar _⟩
  | _ => simp [Scalar.isNumber] at hkind

theorem RuleMetadata.keeps :
    Keeps (IsMap view [] [("name", IsText view), ("description", IsText view),
      ("version", IsTextOrNumber view), ("author", IsText view)]) normalMetadata ofValue toValue := by
  intro v m hform hbind
  refine same_of_isMap (alter "version" (Option.map normalVersion)) hform rfl (by simp) (fun _ => rfl)
    (fun hkeys => hkeys.alter (by simp)) ?_
  rintro entries rfl hkeys hunder
  obtain ⟨hname, hdescription, hversion, hauthor, -⟩ := ofValue_map.mp hbind
  simp only [List.forall_mem_cons, List.not_mem_nil, IsEmpty.forall_iff, implies_true, and_true]
    at hunder ⊢
  obtain ⟨uname, udescription, uversion, uauthor⟩ := hunder
  have hversion' := keeps_version.optional hkeys uversion hversion (.inl rfl) rfl
  simp only [lookupKey_alter, String.reduceEq, if_true, if_false]
  exact ⟨keeps_text?.optional_id hkeys uname hname (.inl rfl) rfl,
    keeps_text?.optional_id hkeys udescription hdescription (.inl rfl) rfl, hversion',
    keeps_text?.optional_id hkeys uauthor hauthor (.inl rfl) rfl⟩

/-- Metadata are kept; null metadata are none. -/
theorem RuleMetadata.same_present {entries : List (Scalar × Value)} {o : Option RuleMetadata}
    (hunder : Under "metadata" entries (IsMetadata view))
    (hbind : (FieldKey.plain "metadata").optional entries none (orNull ofValue) = .ok o) :
    Option.Rel Same (present ((o.map toValue).getD .null))
      (((lookupKey "metadata" entries).filter fun v => !v.isNull).map normalMetadata) := by
  rw [FieldKey.optional_plain_eq_ok] at hbind
  cases hv : lookupKey "metadata" entries with
  | none =>
    obtain rfl : o = none := by simpa [hv] using hbind
    exact .none
  | some v =>
    simp only [hv] at hbind
    rcases hunder v hv with hnull | hmap
    · obtain rfl := eq_scalar_of_layer hnull
      obtain rfl := Except.ok.inj hbind
      exact .none
    · obtain ⟨w, hw, hsame⟩ := RuleMetadata.keeps.orNull (by simp [IsMap, view, layer]) v o hmap hbind
      obtain ⟨fields, hlayer, -⟩ := hmap
      obtain rfl := eq_map_of_layer hlayer
      rw [hw]
      exact .some hsame

section Names

variable {α : Type} (write : α → Value)

/-- Putting an entry under a name is the same for tables and for maps. -/
theorem putEntry_text (t : Table α) (name : String) (a : α) :
    putEntry (.text name) (write a) (t.map fun e => (.text e.1, write e.2)) =
      (t.put name a).map fun e => (.text e.1, write e.2) := by
  induction t with
  | nil => rfl
  | cons e t ih =>
    have hkey : (Scalar.text e.1).sameKey (.text name) = true ↔ e.1 = name := by
      rw [Scalar.sameKey_text, Scalar.text.injEq]
    rw [List.map_cons, putEntry, Table.put]
    by_cases h : e.1 = name
    · rw [if_pos (hkey.mpr h), if_pos h, List.map_cons, h]
    · rw [if_neg (hkey.not.mpr h), if_neg h, List.map_cons, ih]

theorem foldl_putEntry_texts (t : Table α) (entries : List (String × α)) :
    (entries.map fun e => (Scalar.text e.1, write e.2)).foldl (fun es e => putEntry e.1 e.2 es)
        (t.map fun e => (.text e.1, write e.2)) =
      (t.putAll entries).map fun e => (.text e.1, write e.2) := by
  induction entries generalizing t with
  | nil => rfl
  | cons e entries ih =>
    rw [List.map_cons, List.foldl_cons, putEntry_text write, ih]
    rfl

end Names

/-- Names that are different texts stay as they are. -/
theorem decodedKeys_ofFields {fields : List (String × Value)} (h : (Table.names fields).Nodup) :
    decodedKeys (ofFields fields) = ofFields fields := by
  have hdecoded : (fields.map fun e => (Scalar.text e.1, e.2)).map (fun e => (decodedKey e.1, e.2)) =
      fields.map fun e => (.text e.1, id e.2) := by
    rw [List.map_map]
    rfl
  have hput := foldl_putEntry_texts id [] fields
  rw [ofFields, decodedKeys, hdecoded]
  rw [List.map_nil] at hput
  rw [hput, ← Table.ofEntries, Table.ofEntries_eq_self h]
  rfl

theorem decodedKey_of_asText {k : Scalar} {name : String} (h : asText (.scalar k) = .ok name) :
    decodedKey k = .text name := by
  cases k with
  | text s =>
    obtain rfl := Except.ok.inj h
    rfl
  | bytes bs =>
    rw [decodedKey]
    cases hs : String.fromUTF8? ⟨bs.toArray⟩ with
    | none => simp [asText, hs] at h
    | some s => simpa [asText, hs] using h
  | _ => simp [asText] at h

theorem decoded_of_entriesBy {entries : List (Scalar × Value)} {bound : List (String × String)}
    (hform : ∀ e ∈ entries, IsText view e.2) (h : entriesBy asText entries = .ok bound) :
    (entries.map fun e => (decodedKey e.1, e.2)) =
      bound.map fun e => (.text e.1, text e.2) := by
  induction entries generalizing bound with
  | nil =>
    obtain rfl := Except.ok.inj h
    rfl
  | cons e entries ih =>
    obtain ⟨k, v⟩ := e
    obtain ⟨⟨s, hlayer⟩, hforms⟩ := List.forall_mem_cons.mp hform
    obtain rfl : v = text s := eq_scalar_of_layer hlayer
    obtain ⟨name, _, rest, rfl, hname, hbody, hrest⟩ := entriesBy_cons_eq_ok.mp h
    obtain rfl := Except.ok.inj hbody
    rw [List.map_cons, List.map_cons, decodedKey_of_asText hname, ih hforms hrest]

theorem keeps_partials : Keeps (IsTexts view) decodedKeys (asTable asText) partialsValue := by
  rintro v t ⟨entries, hlayer, hform⟩ hbind
  obtain rfl := eq_map_of_layer hlayer
  obtain ⟨bound, hbound, rfl⟩ := map_eq_ok.mp hbind
  refine ⟨_, present_ofFields _, ?_⟩
  have hput := foldl_putEntry_texts text [] bound
  rw [List.map_nil] at hput
  rw [decodedKeys, decoded_of_entriesBy hform hbound, hput, written_texts]
  exact Same.refl _

namespace RuleDocument

theorem keeps (height fallbacks inner : Nat) :
    Keeps (IsDocumentWithin view height fallbacks inner) (normalForm ∘ namesAsTexts) ofValue
      toValue := by
  intro v d hform hbind
  refine same_of_isMap (fun entries => normalEntries (alter "partials" (Option.map decodedKeys) entries))
    hform rfl (by simp) (fun _ => rfl) (fun hkeys => (hkeys.alter (by simp)).normalEntries (by simp)) ?_
  rintro entries rfl hkeys hunder
  have hbound := ofValue_map.mp hbind
  simp only [List.forall_mem_cons, List.not_mem_nil, IsEmpty.forall_iff, implies_true, and_true]
    at hunder ⊢
  obtain ⟨umetadata, uconditions, uinsertions, ureplacements, usmartReplacements, usmartInsertions,
    upartials⟩ := hunder
  have hempty : Option.Rel Same (present (.list [])) (some (.list [])) := .some (.list .nil)
  have hmetadata := RuleMetadata.same_present umetadata hbound.metadata
  have hconditions := (ConditionSet.keeps_optionValue height).optional_id hkeys uconditions
    hbound.conditions (.inl rfl) rfl
  have hinsertions := (Insertion.keeps_chain height fallbacks).items.optionalOr hkeys uinsertions
    hbound.insertions hempty (.inl rfl)
  have hreplacements := (Replacement.keeps_chain height fallbacks).list.optionalOr hkeys ureplacements
    hbound.replacements hempty (.inl rfl)
  have hsmartReplacements := (SmartReplacement.keeps height).items.optionalOr hkeys usmartReplacements
    hbound.smartReplacements hempty (.inr (by simp))
  have hsmartInsertions := (SmartInsertion.keeps height inner).items.optionalOr hkeys usmartInsertions
    hbound.smartInsertions hempty (.inr (by simp))
  have hpartials := keeps_partials.optionalOr hkeys upartials hbound.partials
    (.some (Same.refl _)) (.inl rfl)
  simp only [normalEntries, lookupKey_alter, String.reduceEq, if_true, if_false]
  simp only [Option.map_id, id_eq] at hinsertions hsmartReplacements hsmartInsertions
  exact ⟨hmetadata, hconditions, hinsertions, hreplacements, hsmartReplacements, hsmartInsertions,
    hpartials⟩

/-- **Binding loses nothing.** What an accepted document is bound to is written, without what is absent, as
the normal form of the document; it has all of the rules that the document lists; and it is bound from what
is written again. -/
theorem same_dump_normalForm {limit : Int} {source : String} {raw : Value} {d : RuleDocument}
    (hcheck : Structure.check view limit source raw = .ok ()) (hbound : ofValue raw = .ok d) :
    Same d.dump (normalForm (namesAsTexts raw)) ∧
      (∀ name, d.checkCompleteness view raw name = .ok ()) ∧ ofValue d.dump = .ok d := by
  have hform := Structure.check_eq_ok_iff_isDocumentWithin.mp hcheck
  obtain ⟨w, hw, hsame⟩ := keeps _ _ _ raw d hform hbound
  obtain rfl := withoutNulls_of_present hw
  obtain ⟨_, rfl, hfields⟩ := boundFrom_of_ofValue hbound
  exact ⟨hsame, checkCompleteness_of_value hbound, ofValue_dump (names_partials_of_boundFrom hfields)⟩

/-- A raw document that leaves open what the normal form settles: a list of rules is absent, a version is a
number, a kind is written loosely and that of a fallback not at all, and a partial is named by bytes and
again by the text that they encode. -/
def looseRaw : Value := .map [
  (.text "metadata", .ofFields [("name", .text "n"), ("version", .scalar (.int 2))]),
  (.text "conditions", .ofFields [
    ("anyOf", .list [.ofFields [("not", .ofFields [("hasFeature", .text "f")])]])]),
  (.text "replacements", .list [.ofFields [
    ("find", .text "a"), ("replace", .text "b"), ("type", .text " String\n"),
    ("fallback", .ofFields [("replace", .text "d"), ("find", .text "c")])]]),
  (.text "smartReplacements", .list [.ofFields [
    ("replace", .text "e"),
    ("findPattern", .ofFields [("type", .text "t"), ("variants", .ofTexts ["u", "v"])])]]),
  (.text "smartInsertions", .list [.ofFields [
    ("content", .text "g"),
    ("findInsertionPoint", .ofFields [("patterns", .list [.ofFields [("after", .text "h")]])]),
    ("fallback", .ofFields [("content", .text "i"), ("at", .text "end")])]]),
  (.text "partials", .map [(.bytes [0x70], .text "j"), (.text "p", .text "k")])]

/-- The same document with everything settled. -/
def settledRaw : Value := .ofFields [
  ("partials", .ofFields [("p", .text "k")]),
  ("smartInsertions", .list [.ofFields [
    ("content", .text "g"),
    ("findInsertionPoint", .ofFields [("patterns", .list [.ofFields [("after", .text "h")]])]),
    ("fallback", .ofFields [("content", .text "i"), ("at", .text "end")])]]),
  ("smartReplacements", .list [.ofFields [
    ("replace", .text "e"),
    ("findPattern", .ofFields [("type", .text "t"), ("variants", .ofTexts ["u", "v"])])]]),
  ("insertions", .list []),
  ("replacements", .list [.ofFields [
    ("type", .text "string"), ("find", .text "a"), ("replace", .text "b"),
    ("fallback", .ofFields [("type", .text "string"), ("replace", .text "d"), ("find", .text "c")])]]),
  ("metadata", .ofFields [("version", .text "2"), ("name", .text "n")]),
  ("conditions", .ofFields [
    ("anyOf", .list [.ofFields [("not", .ofFields [("hasFeature", .text "f")])]])])]

theorem same_dump_settledRaw : Structure.check view 8 "<string>" looseRaw = .ok () ∧
    ∃ d, ofValue looseRaw = .ok d ∧ Same d.dump settledRaw ∧
      (∀ name, d.checkCompleteness view looseRaw name = .ok ()) ∧ ofValue d.dump = .ok d := by
  have hcheck : Structure.check view 8 "<string>" looseRaw = .ok () :=
    toOption_eq_some.mp (by decide +kernel)
  have hbound : (ofValue looseRaw).toOption.isSome = true := by decide +kernel
  obtain ⟨d, hd⟩ := Option.isSome_iff_exists.mp hbound
  have hnormal : normalForm (namesAsTexts looseRaw) = settledRaw := by cbv
  rw [toOption_eq_some] at hd
  exact ⟨hcheck, d, hd, hnormal ▸ same_dump_normalForm hcheck hd⟩

/-- A partial that is named by bytes is written under the text that they encode. -/
theorem not_same_dump_of_bytes :
    let raw : Value := .map [(.text "partials", .map [(.bytes [0x78], .text "y")])]
    let d : RuleDocument := ⟨none, none, [], [], [], [], [("x", "y")]⟩
    Structure.check view 8 "<string>" raw = .ok () ∧ ofValue raw = .ok d ∧
      ¬ Same d.dump (normalForm raw) := by
  intro raw d
  refine ⟨toOption_eq_some.mp (by decide +kernel), by cbv, fun h => ?_⟩
  have hpartials : Option.Rel Same (some (.map [(.text "x", .text "y")]))
      (some (.map [(.bytes [0x78], .text "y")])) := h.lookup (.text "partials")
  obtain ⟨hpartials⟩ := hpartials
  have hbytes : Option.Rel Same none (some (.text "y")) := hpartials.lookup (.bytes [0x78])
  cases hbytes

end RuleDocument

end TemplateRules
