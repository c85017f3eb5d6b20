import TemplateRules.Proofs.Binding

/-!
# Records and the maps that they are bound from

A map is bound to a record exactly if each field of the record is bound from the entries, and no key is
left over. What is said here for every record of a rule document is the only place where the order in which
binding goes through the fields matters.
-/

namespace TemplateRules

open Value (asText asTexts orNull asTable)

variable {entries : List (Scalar × Value)}

theorem VariantPattern.ofValue_map {p : VariantPattern} :
    VariantPattern.ofValue (.map entries) = .ok p ↔
      (FieldKey.plain "type").required entries asText = .ok p.label ∧
      (FieldKey.plain "variants").required entries asTexts = .ok p.variants ∧
      FieldKey.unused [.plain "type", .plain "variants"] entries = [] := by
  obtain ⟨_, _⟩ := p
  simp [ofValue, Value.entriesOf, Bound.refuse_eq_ok, Bound.ap_eq_ok, Bound.value, and_assoc]

theorem PatternLocation.ofValue_map {l : PatternLocation} :
    PatternLocation.ofValue (.map entries) = .ok l ↔
      optionalText (.plain "after") entries = .ok l.after ∧
      optionalText (.plain "before") entries = .ok l.before ∧
      FieldKey.unused [.plain "after", .plain "before"] entries = [] := by
  obtain ⟨_, _⟩ := l
  simp [ofValue, Value.entriesOf, Bound.refuse_eq_ok, Bound.ap_eq_ok, Bound.value, and_assoc]

theorem SmartReplacement.ofValue_map {r : SmartReplacement} :
    SmartReplacement.ofValue (.map entries) = .ok r ↔
      (FieldKey.mk "findAny" "find_any").optional entries none (orNull asTexts) = .ok r.candidates ∧
      optionalText (.plain "semantic") entries = .ok r.point ∧
      (FieldKey.mk "findPattern" "find_pattern").optional entries none
        (orNull VariantPattern.ofValue) = .ok r.variants ∧
      (FieldKey.plain "replace").required entries asText = .ok r.replacement ∧
      conditionsField entries = .ok r.conditions ∧
      FieldKey.unused fieldKeys entries = [] := by
  obtain ⟨_, _, _, _, _⟩ := r
  simp [ofValue, Value.entriesOf, Bound.refuse_eq_ok, Bound.ap_eq_ok, Bound.value, and_assoc]

theorem SmartInsertion.ofValue_map {i : SmartInsertion} :
    SmartInsertion.ofValue (.map entries) = .ok i ↔
      optionalText (.plain "semantic") entries = .ok i.point ∧
      (FieldKey.mk "findInsertionPoint" "find_insertion_point").optional entries none
        (orNull locationsOf) = .ok i.locations ∧
      (FieldKey.plain "content").required entries asText = .ok i.content ∧
      conditionsField entries = .ok i.conditions ∧
      (FieldKey.plain "fallback").optional entries [] Insertion.rulesOf = .ok i.fallbacks ∧
      FieldKey.unused fieldKeys entries = [] := by
  obtain ⟨_, _, _, _, _⟩ := i
  simp [ofValue, Value.entriesOf, Bound.refuse_eq_ok, Bound.ap_eq_ok, Bound.value, and_assoc]

theorem RuleMetadata.ofValue_map {m : RuleMetadata} :
    RuleMetadata.ofValue (.map entries) = .ok m ↔
      optionalText (.plain "name") entries = .ok m.name ∧
      optionalText (.plain "description") entries = .ok m.description ∧
      (FieldKey.plain "version").optional entries none versionText = .ok m.version ∧
      optionalText (.plain "author") entries = .ok m.author ∧
      FieldKey.unused (["name", "description", "version", "author"].map .plain) entries = [] := by
  obtain ⟨_, _, _, _⟩ := m
  simp [ofValue, Value.entriesOf, Bound.refuse_eq_ok, Bound.ap_eq_ok, Bound.value, and_assoc]

theorem Insertion.levelOf_eq_ok {i : Insertion} :
    Insertion.levelOf entries = .ok i ↔
      optionalText (.plain "after") entries = .ok i.after ∧
      optionalText (.plain "before") entries = .ok i.before ∧
      optionalText (.plain "at") entries = .ok i.edge ∧
      (FieldKey.plain "content").required entries asText = .ok i.content ∧
      conditionsField entries = .ok i.conditions := by
  obtain ⟨_, _, _, _, _⟩ := i
  simp [levelOf, Bound.ap_eq_ok, Bound.value, and_assoc]

theorem Replacement.levelOf_eq_ok {r : Replacement} :
    Replacement.levelOf entries = .ok r ↔
      (FieldKey.plain "find").required entries asText = .ok r.find ∧
      (FieldKey.plain "replace").required entries asText = .ok r.replacement ∧
      (FieldKey.mk "type" "kind").optional entries .literal ReplacementKind.ofValue = .ok r.kind ∧
      conditionsField entries = .ok r.conditions := by
  obtain ⟨_, _, _, _⟩ := r
  simp [levelOf, Bound.ap_eq_ok, Bound.value, and_assoc]

theorem locationsOf_map {ls : List PatternLocation} :
    locationsOf (.map entries) = .ok ls ↔
      (FieldKey.plain "patterns").required entries (sequenceOf PatternLocation.ofValue) = .ok ls ∧
      FieldKey.unused [.plain "patterns"] entries = [] := by
  simp [locationsOf, Value.entriesOf, Bound.refuse_eq_ok]

/-! ## Chains -/

namespace Chain

variable {α : Type} {model : String} {keys : List FieldKey} {level : List (Scalar × Value) → Bound α}

/-- A fallback is bound as any field is. -/
theorem fallbackUnder_eq (entries : List (Scalar × Value)) :
    fallbackUnder model keys level entries =
      (FieldKey.plain "fallback").optional entries [] (rulesOf model keys level) := by
  rw [FieldKey.optional, FieldKey.field?_plain]
  induction entries with
  | nil => rfl
  | cons e rest ih =>
    obtain ⟨k, v⟩ := e
    rw [fallbackUnder, lookupKey, ih]
    split <;> rfl

/-- A map is bound to a rule and what its fallback is bound to. -/
theorem rulesOf_map {rules : List α} :
    rulesOf model keys level (.map entries) = .ok rules ↔
      ∃ rule rest, rules = rule :: rest ∧ level entries = .ok rule ∧
        (FieldKey.plain "fallback").optional entries [] (rulesOf model keys level) = .ok rest ∧
        FieldKey.unused keys entries = [] := by
  rw [rulesOf, fallbackUnder_eq, Bound.refuse_eq_ok]
  simp only [Bound.ap_eq_ok, Bound.value]
  constructor
  · rintro ⟨⟨_, rest, ⟨_, rule, hcons, hrule, rfl⟩, hrest, rfl⟩, hunused⟩
    obtain rfl := Except.ok.inj hcons
    exact ⟨rule, rest, rfl, hrule, hrest, hunused⟩
  · rintro ⟨rule, rest, rfl, hrule, hrest, hunused⟩
    exact ⟨⟨_, rest, ⟨_, rule, rfl, hrule, rfl⟩, hrest, rfl⟩, hunused⟩

theorem ofValue_eq_ok {v : Value} {c : Chain α} :
    ofValue model keys level v = .ok c ↔ rulesOf model keys level v = .ok c.rules := by
  obtain ⟨first, fallbacks⟩ := c
  rw [ofValue]
  rcases rulesOf model keys level v with _ | _ | ⟨_, _⟩ <;> simp [Chain.rules, Bound.misfit]

end Chain

/-! ## Condition sets -/

namespace ConditionSet

theorem clausesOf_eq_ok {c : Clauses} :
    clausesOf entries = .ok c ↔
      optionalText ⟨"generatorVersion", "generator_version"⟩ entries = .ok c.generatorVersion ∧
      optionalText ⟨"templateContains", "template_contains"⟩ entries = .ok c.templateContains ∧
      optionalText ⟨"templateNotContains", "template_not_contains"⟩ entries =
        .ok c.templateNotContains ∧
      (FieldKey.mk "templateContainsAll" "template_contains_all").optional entries none
        (orNull asTexts) = .ok c.templateContainsAll ∧
      (FieldKey.mk "templateContainsAny" "template_contains_any").optional entries none
        (orNull asTexts) = .ok c.templateContainsAny ∧
      optionalText ⟨"hasFeature", "has_feature"⟩ entries = .ok c.hasFeature ∧
      (FieldKey.mk "hasAllFeatures" "has_all_features").optional entries none (orNull asTexts) =
        .ok c.hasAllFeatures ∧
      (FieldKey.mk "hasAnyFeatures" "has_any_features").optional entries none (orNull asTexts) =
        .ok c.hasAnyFeatures ∧
      optionalText ⟨"projectProperty", "project_property"⟩ entries = .ok c.projectProperty ∧
      optionalText ⟨"environmentVariable", "environment_variable"⟩ entries =
        .ok c.environmentVariable ∧
      optionalText ⟨"buildType", "build_type"⟩ entries = .ok c.buildType := by
  obtain ⟨_, _, _, _, _, _, _, _, _, _, _⟩ := c
  simp only [clausesOf, optionalText, Bound.ap_eq_ok, Bound.value, Except.ok.injEq, exists_and_left,
    exists_eq_left', exists_exists_and_eq_and, exists_exists_and_exists_and_eq_and, existsAndEq,
    Clauses.mk.injEq, and_true, and_assoc]

theorem listUnder_eq (key : String) (entries : List (Scalar × Value)) :
    listUnder key entries =
      (lookupKey key entries).map fun v => (ofListValue v).within (.key (.text key)) := by
  induction entries with
  | nil => simp [listUnder, lookupKey]
  | cons e rest ih =>
    obtain ⟨k, v⟩ := e
    rw [listUnder, lookupKey, ih]
    split <;> rfl

theorem setUnder_eq (key : String) (entries : List (Scalar × Value)) :
    setUnder key entries =
      (lookupKey key entries).map fun v => (ofNullable v).within (.key (.text key)) := by
  induction entries with
  | nil => simp [setUnder, lookupKey]
  | cons e rest ih =>
    obtain ⟨k, v⟩ := e
    rw [setUnder, lookupKey, ih]
    split <;> rfl

/-- Nested sets are bound as any field is. -/
theorem either_eq {α : Type} {bind : Value → Bound (Option α)} (f : FieldKey) :
    either ((lookupKey f.key entries).map fun v => (bind v).within (.key (.text f.key)))
      ((lookupKey f.name entries).map fun v => (bind v).within (.key (.text f.name))) =
      f.optional entries none bind := by
  rw [either, FieldKey.optional, FieldKey.field?]
  cases lookupKey f.key entries with
  | some v => rfl
  | none => cases lookupKey f.name entries <;> rfl

theorem ofItems_eq (position : Nat) (vs : List Value) :
    ofItems position vs = Bound.items ofValue position vs := by
  induction vs generalizing position with
  | nil => simp [ofItems, Bound.items]
  | cons v vs ih =>
    rw [ofItems, Bound.items, ih]
    rfl

/-- What a map is bound to is a condition set. -/
theorem ofNullable_map_ne_none : ofNullable (.map entries) ≠ .ok none := by
  intro h
  rw [ofNullable, Bound.refuse_eq_ok] at h
  simp [Bound.ap_eq_ok, Bound.value] at h

/-- A set that may be null is null or a set. -/
theorem ofNullable_eq : ofNullable = orNull ofValue := by
  funext v
  rcases v with (_ | _ | _ | _ | _ | _ | _ | _) | _ | _ | entries | _
  case map =>
    rw [orNull, ofValue]
    · cases hmap : ofNullable (.map entries) with
      | error ps => rfl
      | ok c =>
        cases c with
        | none => exact absurd hmap ofNullable_map_ne_none
        | some c => rfl
    · simp
  all_goals simp [ofNullable, orNull, ofValue, required, Bound.misfit, Except.map]

theorem ofValue_scalar (k : Scalar) : ofValue (.scalar k) = .misfit (.notModel "ConditionSet") := by
  cases k <;> rfl

theorem items_scalar (position : Nat) (keys : List Scalar) :
    Bound.items (fun _ => (.misfit (.notModel "ConditionSet") : Bound ConditionSet)) position keys =
      Bound.items ofValue position (keys.map Value.scalar) := by
  induction keys generalizing position with
  | nil => rfl
  | cons k keys ih => rw [List.map_cons, Bound.items, Bound.items, ih, ofValue_scalar]

/-- Sets that may be null are null or a sequence of sets. -/
theorem ofListValue_eq : ofListValue = orNull (sequenceOf ofValue) := by
  funext v
  rcases v with (_ | _ | _ | _ | _ | _ | _ | _) | items | ⟨a, b⟩ | _ | keys
  case list =>
    rw [ofListValue, ofItems_eq, orNull]
    · rfl
    · simp
  case pair =>
    rw [ofListValue, ← ofValue, ← ofValue, orNull]
    · simp only [sequenceOf, Value.itemsOf, ok_bind, Bound.items]
      cases (ofValue a).within (.index 0) <;> cases (ofValue b).within (.index 1) <;> rfl
    · simp
  case members =>
    rw [ofListValue, items_scalar, orNull]
    · rfl
    · simp
  all_goals simp [ofListValue, orNull, sequenceOf, Value.itemsOf, Bound.misfit, Except.map]

/-- A map is bound to a condition set if the clauses and the nested sets are bound from its entries. -/
theorem ofValue_map {clauses : Clauses} {allOf anyOf : Option (List ConditionSet)}
    {negated : Option ConditionSet} :
    ofValue (.map entries) = .ok (.mk clauses allOf anyOf negated) ↔
      clausesOf entries = .ok clauses ∧
      (FieldKey.mk "allOf" "all_of").optional entries none (orNull (sequenceOf ofValue)) = .ok allOf ∧
      (FieldKey.mk "anyOf" "any_of").optional entries none (orNull (sequenceOf ofValue)) = .ok anyOf ∧
      (FieldKey.mk "not" "not_").optional entries none (orNull ofValue) = .ok negated ∧
      FieldKey.unused fieldKeys entries = [] := by
  have hvalue : ofValue (.map entries) = .ok (.mk clauses allOf anyOf negated) ↔
      ofNullable (.map entries) = .ok (some (.mk clauses allOf anyOf negated)) := by
    rw [ofValue]
    rcases ofNullable (.map entries) with _ | _ | _ <;> simp [required, Bound.misfit]
  rw [hvalue, ofNullable, listUnder_eq, listUnder_eq, listUnder_eq, listUnder_eq, setUnder_eq,
    setUnder_eq, either_eq ⟨"allOf", "all_of"⟩, either_eq ⟨"anyOf", "any_of"⟩,
    either_eq ⟨"not", "not_"⟩, ofListValue_eq, ofNullable_eq]
  simp [Bound.refuse_eq_ok, Bound.ap_eq_ok, Bound.value, and_assoc]

end ConditionSet

/-! ## Documents -/

/-- The fields of a document come from the entries of a map, every key of which is that of a field. -/
structure RuleDocument.BoundFrom (entries : List (Scalar × Value)) (d : RuleDocument) : Prop where
  metadata : (FieldKey.plain "metadata").optional entries none
    (Value.orNull RuleMetadata.ofValue) = .ok d.metadata
  conditions : conditionsField entries = .ok d.conditions
  insertions : (FieldKey.plain "insertions").optional entries [] (sequenceOf Insertion.chainOf)
    = .ok d.insertions
  replacements : (FieldKey.plain "replacements").optional entries [] (sequenceOf Replacement.chainOf)
    = .ok d.replacements
  smartReplacements : (FieldKey.mk "smartReplacements" "smart_replacements").optional entries []
    (sequenceOf SmartReplacement.ofValue) = .ok d.smartReplacements
  smartInsertions : (FieldKey.mk "smartInsertions" "smart_insertions").optional entries []
    (sequenceOf SmartInsertion.ofValue) = .ok d.smartInsertions
  partials : (FieldKey.plain "partials").optional entries [] (Value.asTable Value.asText)
    = .ok d.partials
  known : FieldKey.unused RuleDocument.fieldKeys entries = []

theorem RuleDocument.ofValue_map {d : RuleDocument} :
    RuleDocument.ofValue (.map entries) = .ok d ↔ d.BoundFrom entries := by
  obtain ⟨_, _, _, _, _, _, _⟩ := d
  constructor
  · intro h
    simp only [ofValue, Value.entriesOf, Bound.value, ok_bind, Bound.refuse_eq_ok, Bound.ap_eq_ok,
      Except.ok.injEq, exists_and_left, exists_eq_left', exists_exists_and_eq_and,
      exists_exists_and_exists_and_eq_and, existsAndEq, and_true, and_assoc, mk.injEq] at h
    obtain ⟨hmetadata, hconditions, hinsertions, hreplacements, hsmartReplacements, hsmartInsertions,
      hpartials, hknown⟩ := h
    exact ⟨hmetadata, hconditions, hinsertions, hreplacements, hsmartReplacements, hsmartInsertions,
      hpartials, hknown⟩
  · intro h
    simp [ofValue, Value.entriesOf, Bound.refuse_eq_ok, Bound.value, h.metadata, h.conditions,
      h.insertions, h.replacements, h.smartReplacements, h.smartInsertions, h.partials, h.known]

theorem RuleDocument.boundFrom_of_ofValue {v : Value} {d : RuleDocument}
    (h : RuleDocument.ofValue v = .ok d) : ∃ entries, v = .map entries ∧ d.BoundFrom entries := by
  obtain ⟨entries, hentries, -⟩ := bind_eq_ok.mp h
  obtain rfl := Value.entriesOf_eq_ok.mp hentries
  exact ⟨entries, rfl, RuleDocument.ofValue_map.mp h⟩

end TemplateRules
