import TemplateRules.Proofs.DocumentText
import TemplateRules.Proofs.Records
import TemplateRules.Proofs.SameValue

/-!
# Binding what has been written

A document is written field by field, without what is absent, and bound field by field. So it is bound from
what was written if each field is: one that is present by reading its value, and one that is absent because
the default of the field is what was not written. Condition sets go by recursion over the set, and chains by
induction on their rules, each with what is behind it as one more field.

## Main definitions

* `Value.ReadsBack`: a value is bound to a part once it is written
* `Value.ReadsBackOr`: the same, or the value is absent and the part is the default
* `Value.HasField`: a field is one of the fields of a record

## Main results

* `Value.ReadsBackOr.optional`, `Value.ReadsBack.required`: fields
* `ConditionSet.readsBack_toValue`, `Chain.readsBackOr_chainValue`: the parts that nest
* `RuleDocument.ofValue_dump`: a document is bound from its own value
-/

namespace TemplateRules

open Value (asText asTexts orNull asTable)

namespace Value

variable {α : Type} {bind : Value → Bound α} {v : Value} {a default : α}

/-- A value is bound to a part once it is written. -/
def ReadsBack (bind : Value → Bound α) (v : Value) (a : α) : Prop :=
  ∃ w, present v = some w ∧ bind w = .ok a

/-- A value is bound to a part once it is written, or it is absent and the part is the default. -/
def ReadsBackOr (default : α) (bind : Value → Bound α) (v : Value) (a : α) : Prop :=
  (present v = none ∧ a = default) ∨ ReadsBack bind v a

/-! ## Parts -/

theorem readsBack_text (s : String) : ReadsBack asText (text s) s := ⟨_, rfl, rfl⟩

theorem withoutNulls_of_present {w : Value} (h : present v = some w) : v.withoutNulls = w := by
  rw [present] at h
  split at h
  · simp at h
  · exact Option.some.inj h

/-- Lists are bound item by item. -/
theorem ReadsBack.list {vs : List Value} {as : List α} (h : List.Forall₂ (ReadsBack bind) vs as) :
    ReadsBack (sequenceOf bind) (.list vs) as := by
  refine ⟨_, present_list vs, sequenceOf_list.mpr (List.forall₂_map_left_iff.mpr (h.imp ?_))⟩
  rintro v a ⟨w, hw, hbind⟩
  rwa [withoutNulls_of_present hw]

theorem readsBack_list {write : α → Value} {as : List α} (h : ∀ a ∈ as, ReadsBack bind (write a) a) :
    ReadsBack (sequenceOf bind) (.list (as.map write)) as :=
  .list (List.forall₂_map_left_iff.mpr (List.forall₂_same.mpr h))

theorem readsBack_texts (xs : List String) : ReadsBack asTexts (ofTexts xs) xs :=
  readsBack_list fun s _ => readsBack_text s

theorem orNull_of_isNull_eq_false (h : v.isNull = false) : orNull bind v = (bind v).map some := by
  rw [orNull]
  rintro rfl
  simp [isNull] at h

theorem ReadsBack.orNull (h : ReadsBack bind v a) : ReadsBack (orNull bind) v (some a) := by
  obtain ⟨w, hw, hbind⟩ := h
  refine ⟨w, hw, ?_⟩
  rw [orNull_of_isNull_eq_false (isNull_of_present hw), hbind]
  rfl

/-- A part that may be absent is written as null in its absence. -/
theorem readsBackOr_orNull {write : α → Value} (o : Option α)
    (h : ∀ a ∈ o, ReadsBack bind (write a) a) :
    ReadsBackOr none (Value.orNull bind) ((o.map write).getD null) o := by
  cases o with
  | none => exact .inl ⟨rfl, rfl⟩
  | some a => exact .inr (h a rfl).orNull

theorem readsBackOr_text? (o : Option String) :
    ReadsBackOr none (Value.orNull asText) (ofText? o) o := by
  cases o with
  | none => exact .inl ⟨rfl, rfl⟩
  | some s => exact .inr (readsBack_text s).orNull

theorem readsBackOr_texts? (o : Option (List String)) :
    ReadsBackOr none (Value.orNull asTexts) (ofTexts? o) o := by
  cases o with
  | none => exact .inl ⟨rfl, rfl⟩
  | some xs => exact .inr (readsBack_texts xs).orNull

/-! ## Fields -/

section Fields

variable {f : FieldKey} {fields : List (String × Value)}

/-- A value is that of a field of a record, the names of which are apart, and the other name of the field
is not one of them. -/
@[simp] def HasField (fields : List (String × Value)) (f : FieldKey) (v : Value) : Prop :=
  (fields.map Prod.fst).Nodup ∧ (f.name = f.key ∨ f.name ∉ fields.map Prod.fst) ∧ (f.key, v) ∈ fields

/-- A field is given under its key only, if its other name is not a key. -/
theorem KeysAmong.field?_eq {names : List String} {entries : List (Scalar × Value)}
    (h : KeysAmong names entries) (hname : f.name = f.key ∨ f.name ∉ names) :
    f.field? entries = (lookupKey f.key entries).map (f.key, ·) := by
  rw [FieldKey.field?]
  cases hkey : lookupKey f.key entries with
  | some v => rfl
  | none =>
    rcases hname with heq | hother
    · simp [heq, hkey]
    · simp [h.lookupKey_eq_none hother]

theorem HasField.field?_written (h : HasField fields f v) :
    f.field? (written fields) = (present v).map (f.key, ·) := by
  obtain ⟨hnodup, hname, hfield⟩ := h
  have hkey : lookupKey f.key (written fields) = present v := lookupKey_written hnodup hfield
  rw [(keysAmong_written fields).field?_eq hname, hkey]

/-- A field that may be absent is read back. -/
theorem ReadsBackOr.optional (h : ReadsBackOr default bind v a) (hfield : HasField fields f v) :
    f.optional (written fields) default bind = .ok a := by
  rw [FieldKey.optional_eq_ok, hfield.field?_written]
  rcases h with ⟨hnone, rfl⟩ | ⟨w, hw, hbind⟩
  · exact .inl ⟨by simp [hnone], rfl⟩
  · exact .inr ⟨f.key, w, by simp [hw], hbind⟩

/-- A field that must be there is read back. -/
theorem ReadsBack.required (h : ReadsBack bind v a) (hfield : HasField fields f v) :
    f.required (written fields) bind = .ok a := by
  obtain ⟨w, hw, hbind⟩ := h
  rw [FieldKey.required, hfield.field?_written, hw]
  exact Bound.within_eq_ok.mpr hbind

/-- Entries with no keys but those of fields leave no key over. -/
theorem unused_eq_nil {keys : List FieldKey} {entries : List (Scalar × Value)}
    (h : KeysAmong (keys.map FieldKey.key) entries) : FieldKey.unused keys entries = [] := by
  rw [FieldKey.unused, List.filterMap_eq_nil_iff]
  rintro ⟨k, v⟩ he
  obtain ⟨name, hname, rfl : k = .text name⟩ := h _ he
  obtain ⟨f, hf, rfl⟩ := List.mem_map.mp hname
  obtain ⟨w, hw⟩ : ∃ w, lookupKey f.key entries = some w := by
    rw [← lookup_text, ← Option.isSome_iff_exists, Option.isSome_iff_ne_none, ne_eq,
      List.lookup_eq_none_iff]
    exact fun hall => by simpa using hall _ he
  simp only [List.contains_iff_mem, List.mem_filterMap, Option.map_eq_some_iff]
  rw [if_pos ⟨f, hf, (f.key, w), FieldKey.field?_of_lookupKey hw, rfl⟩]

end Fields

end Value

open Value

/-! ## Condition sets -/

/-- The clauses of a set are read back, whatever is nested in the set. -/
theorem Clauses.ofFields_written {c : Clauses} {nested : List (String × Value)}
    (hnodup : ((c.fields ++ nested).map Prod.fst).Nodup)
    (hnames : nested.map Prod.fst = ["allOf", "anyOf", "not"]) :
    ConditionSet.clausesOf (written (c.fields ++ nested)) = .ok c := by
  have htext : ∀ (f : FieldKey) (o : Option String), (f.key, ofText? o) ∈ c.fields →
      f.name ∉ (c.fields ++ nested).map Prod.fst →
      optionalText f (written (c.fields ++ nested)) = .ok o := fun f o hfield hname =>
    (readsBackOr_text? o).optional ⟨hnodup, .inr hname, List.mem_append_left _ hfield⟩
  have htexts : ∀ (f : FieldKey) (o : Option (List String)), (f.key, ofTexts? o) ∈ c.fields →
      f.name ∉ (c.fields ++ nested).map Prod.fst →
      f.optional (written (c.fields ++ nested)) none (orNull asTexts) = .ok o := fun f o hfield hname =>
    (readsBackOr_texts? o).optional ⟨hnodup, .inr hname, List.mem_append_left _ hfield⟩
  rw [ConditionSet.clausesOf_eq_ok]
  refine ⟨htext _ _ ?_ ?_, htext _ _ ?_ ?_, htext _ _ ?_ ?_, htexts _ _ ?_ ?_, htexts _ _ ?_ ?_,
    htext _ _ ?_ ?_, htexts _ _ ?_ ?_, htexts _ _ ?_ ?_, htext _ _ ?_ ?_, htext _ _ ?_ ?_,
    htext _ _ ?_ ?_⟩ <;> simp [Clauses.fields, hnames]

namespace ConditionSet

theorem keys_fieldKeys (c : ConditionSet) : c.fields.map Prod.fst = fieldKeys.map FieldKey.key := by
  cases c
  rfl

theorem nodup_fields (c : ConditionSet) : (c.fields.map Prod.fst).Nodup := by
  rw [keys_fieldKeys]
  simp [fieldKeys]

mutual

theorem readsBack_toValue : ∀ c : ConditionSet, ReadsBack ofValue c.toValue c
  | .mk clauses allOf anyOf negated => by
    have hnodup := nodup_fields (.mk clauses allOf anyOf negated)
    have hunused := unused_eq_nil (keys_fieldKeys (.mk clauses allOf anyOf negated) ▸
      keysAmong_written (fields (.mk clauses allOf anyOf negated)))
    rw [toValue_eq]
    refine ⟨_, present_ofFields _, ofValue_map.mpr ⟨Clauses.ofFields_written hnodup rfl, ?_, ?_, ?_,
      hunused⟩⟩
    · exact (readsBackOr_listValue allOf).optional ⟨hnodup, by simp [fields, Clauses.fields]⟩
    · exact (readsBackOr_listValue anyOf).optional ⟨hnodup, by simp [fields, Clauses.fields]⟩
    · exact (readsBackOr_optionValue negated).optional ⟨hnodup, by simp [fields, Clauses.fields]⟩

theorem readsBackOr_listValue : ∀ cs : Option (List ConditionSet),
    ReadsBackOr none (orNull (sequenceOf ofValue)) (listValue cs) cs
  | none => .inl ⟨rfl, rfl⟩
  | some cs => .inr (ReadsBack.list (forall₂_itemValues cs)).orNull

theorem forall₂_itemValues : ∀ cs : List ConditionSet,
    List.Forall₂ (ReadsBack ofValue) (itemValues cs) cs
  | [] => .nil
  | c :: cs => .cons (readsBack_toValue c) (forall₂_itemValues cs)

theorem readsBackOr_optionValue : ∀ c : Option ConditionSet,
    ReadsBackOr none (orNull ofValue) (optionValue c) c
  | none => .inl ⟨rfl, rfl⟩
  | some c => .inr (readsBack_toValue c).orNull

end

end ConditionSet

/-! ## Rules -/

section Fields

variable {f : FieldKey} {fields : List (String × Value)}

theorem optionalText_written (o : Option String) (hfield : HasField fields f (ofText? o)) :
    optionalText f (written fields) = .ok o :=
  (readsBackOr_text? o).optional hfield

theorem conditionsField_written (c : Option ConditionSet)
    (hfield : HasField fields (.plain "conditions") (ConditionSet.optionValue c)) :
    conditionsField (written fields) = .ok c := by
  rw [conditionsField, ConditionSet.ofNullable_eq]
  exact (ConditionSet.readsBackOr_optionValue c).optional hfield

end Fields

/-- Chains are bound rule by rule if each rule is, whatever its fallback. -/
theorem Chain.readsBackOr_chainValue {α : Type} {bind : Value → Bound (List α)}
    {write : Value → α → Value} (h : ∀ fallback rest rule, ReadsBackOr [] bind fallback rest →
      ReadsBack bind (write fallback rule) (rule :: rest)) (rules : List α) :
    ReadsBackOr [] bind (chainValue write rules) rules := by
  induction rules with
  | nil => exact .inl ⟨rfl, rfl⟩
  | cons rule rest ih => exact .inr (h _ rest rule ih)

theorem Chain.readsBack_toValue {α : Type} {model : String} {keys : List FieldKey}
    {level : List (Scalar × Value) → Bound α} {write : Value → α → Value}
    (h : ∀ rules, ReadsBackOr [] (Chain.rulesOf model keys level) (chainValue write rules) rules)
    (c : Chain α) : ReadsBack (Chain.ofValue model keys level) (c.toValue write) c := by
  rcases h c.rules with ⟨-, hnil⟩ | ⟨w, hw, hbind⟩
  · simp [Chain.rules] at hnil
  · exact ⟨w, hw, Chain.ofValue_eq_ok.mpr hbind⟩

namespace Insertion

theorem readsBack_level (fallback : Value) (rest : List Insertion) (i : Insertion)
    (h : ReadsBackOr [] rulesOf fallback rest) : ReadsBack rulesOf (i.toValue fallback) (i :: rest) := by
  refine ⟨_, present_ofFields _, Chain.rulesOf_map.mpr ⟨i, rest, rfl, levelOf_eq_ok.mpr ⟨?_, ?_, ?_, ?_,
    ?_⟩, ?_, unused_eq_nil (keysAmong_written _)⟩⟩
  · exact optionalText_written i.after (by simp)
  · exact optionalText_written i.before (by simp)
  · exact optionalText_written i.edge (by simp)
  · exact (readsBack_text i.content).required (by simp)
  · exact conditionsField_written i.conditions (by simp)
  · exact h.optional (by simp)

theorem readsBackOr_rules (rules : List Insertion) :
    ReadsBackOr [] rulesOf (chainValue Insertion.toValue rules) rules :=
  Chain.readsBackOr_chainValue readsBack_level rules

theorem readsBack_chain (c : Chain Insertion) : ReadsBack chainOf (c.toValue Insertion.toValue) c :=
  Chain.readsBack_toValue readsBackOr_rules c

end Insertion

theorem ReplacementKind.readsBack_word (k : ReplacementKind) :
    ReadsBack ReplacementKind.ofValue (.text k.word) k := by
  refine ⟨_, rfl, ?_⟩
  cases k <;> rfl

namespace Replacement

theorem readsBack_level (fallback : Value) (rest : List Replacement) (r : Replacement)
    (h : ReadsBackOr [] (Chain.rulesOf "Replacement" fieldKeys levelOf) fallback rest) :
    ReadsBack (Chain.rulesOf "Replacement" fieldKeys levelOf) (r.toValue fallback) (r :: rest) := by
  refine ⟨_, present_ofFields _, Chain.rulesOf_map.mpr ⟨r, rest, rfl, levelOf_eq_ok.mpr ⟨?_, ?_, ?_,
    ?_⟩, ?_, unused_eq_nil (keysAmong_written _)⟩⟩
  · exact (readsBack_text r.find).required (by simp)
  · exact (readsBack_text r.replacement).required (by simp)
  · exact ReadsBackOr.optional (.inr (r.kind.readsBack_word)) (by simp)
  · exact conditionsField_written r.conditions (by simp)
  · exact h.optional (by simp)

theorem readsBack_chain (c : Chain Replacement) :
    ReadsBack chainOf (c.toValue Replacement.toValue) c :=
  Chain.readsBack_toValue (Chain.readsBackOr_chainValue readsBack_level) c

end Replacement

theorem VariantPattern.readsBack_toValue (p : VariantPattern) : ReadsBack ofValue p.toValue p := by
  refine ⟨_, present_ofFields _, ofValue_map.mpr ⟨?_, ?_, unused_eq_nil (keysAmong_written _)⟩⟩
  · exact (readsBack_text p.label).required (by simp)
  · exact (readsBack_texts p.variants).required (by simp)

theorem SmartReplacement.readsBack_toValue (r : SmartReplacement) :
    ReadsBack ofValue r.toValue r := by
  refine ⟨_, present_ofFields _, ofValue_map.mpr ⟨?_, ?_, ?_, ?_, ?_,
    unused_eq_nil (keysAmong_written _)⟩⟩
  · exact (readsBackOr_texts? r.candidates).optional (by simp)
  · exact optionalText_written r.point (by simp)
  · exact (readsBackOr_orNull r.variants fun p _ => p.readsBack_toValue).optional (by simp)
  · exact (readsBack_text r.replacement).required (by simp)
  · exact conditionsField_written r.conditions (by simp)

theorem PatternLocation.readsBack_toValue (l : PatternLocation) : ReadsBack ofValue l.toValue l := by
  refine ⟨_, present_ofFields _, ofValue_map.mpr ⟨?_, ?_, unused_eq_nil (keysAmong_written _)⟩⟩
  · exact optionalText_written l.after (by simp)
  · exact optionalText_written l.before (by simp)

theorem readsBack_locationsValue (ls : List PatternLocation) :
    ReadsBack locationsOf (locationsValue ls) ls := by
  refine ⟨_, present_ofFields _, locationsOf_map.mpr ⟨?_, unused_eq_nil (keysAmong_written _)⟩⟩
  exact (readsBack_list fun l _ => l.readsBack_toValue).required (by simp)

theorem SmartInsertion.readsBack_toValue (i : SmartInsertion) : ReadsBack ofValue i.toValue i := by
  refine ⟨_, present_ofFields _, ofValue_map.mpr ⟨?_, ?_, ?_, ?_, ?_,
    unused_eq_nil (keysAmong_written _)⟩⟩
  · exact optionalText_written i.point (by simp)
  · exact (readsBackOr_orNull i.locations fun ls _ => readsBack_locationsValue ls).optional (by simp)
  · exact (readsBack_text i.content).required (by simp)
  · exact conditionsField_written i.conditions (by simp)
  · exact (Insertion.readsBackOr_rules i.fallbacks).optional (by simp)

/-! ## Documents -/

theorem readsBackOr_version (o : Option String) :
    ReadsBackOr none versionText (ofText? o) o := by
  cases o with
  | none => exact .inl ⟨rfl, rfl⟩
  | some s => exact .inr ⟨_, rfl, rfl⟩

theorem RuleMetadata.readsBack_toValue (m : RuleMetadata) : ReadsBack ofValue m.toValue m := by
  refine ⟨_, present_ofFields _, ofValue_map.mpr ⟨?_, ?_, ?_, ?_,
    unused_eq_nil (keysAmong_written _)⟩⟩
  · exact optionalText_written m.name (by simp)
  · exact optionalText_written m.description (by simp)
  · exact (readsBackOr_version m.version).optional (by simp)
  · exact optionalText_written m.author (by simp)

namespace Table

variable {α : Type}

theorem put_of_notMem {t : Table α} {name : String} (h : name ∉ t.names) (value : α) :
    t.put name value = t ++ [(name, value)] := by
  induction t with
  | nil => rfl
  | cons e t ih =>
    obtain ⟨hne, ht⟩ : name ≠ e.1 ∧ name ∉ Table.names t := by simpa [names] using h
    rw [put, if_neg (Ne.symm hne), ih ht, List.cons_append]

theorem names_put (t : Table α) (name : String) (value : α) :
    (t.put name value).names = if name ∈ t.names then t.names else t.names ++ [name] := by
  induction t with
  | nil => rfl
  | cons e t ih =>
    obtain ⟨n, v⟩ := e
    rw [put]
    by_cases hn : n = name
    · simp [names, hn]
    · have hne : name ≠ n := Ne.symm hn
      simp only [names] at ih ⊢
      by_cases hmem : name ∈ t.map (·.1) <;> simp [hn, hne, ih, hmem]

/-- Putting entries into a table keeps its names apart. -/
theorem nodup_names_putAll {t : Table α} (h : t.names.Nodup) (entries : List (String × α)) :
    (t.putAll entries).names.Nodup := by
  induction entries generalizing t with
  | nil => exact h
  | cons e entries ih =>
    refine ih ?_
    rw [names_put]
    split
    · exact h
    · rename_i hnew
      refine List.nodup_append.mpr ⟨h, by simp, fun a ha b hb heq => hnew ?_⟩
      rwa [← List.mem_singleton.mp hb, ← heq]

theorem nodup_names_ofEntries (entries : List (String × α)) : (ofEntries entries).names.Nodup :=
  nodup_names_putAll (by simp [names]) entries

theorem putAll_eq_append {t : Table α} {entries : List (String × α)}
    (h : (names (t ++ entries)).Nodup) : t.putAll entries = t ++ entries := by
  induction entries generalizing t with
  | nil => simp [putAll]
  | cons e entries ih =>
    have hnew : e.1 ∉ t.names := by
      rw [names, List.map_append, List.nodup_append] at h
      exact fun he => h.2.2 e.1 he e.1 (by simp) rfl
    have hput : t.putAll (e :: entries) = (t.put e.1 e.2).putAll entries := rfl
    rw [hput, put_of_notMem hnew, ih (by simpa [names] using h)]
    simp

/-- Entries whose names are apart are a table. -/
theorem ofEntries_eq_self {t : Table α} (h : t.names.Nodup) : ofEntries t = t :=
  putAll_eq_append (by simpa using h)

end Table

theorem written_texts (t : Table String) :
    written (t.map fun (name, body) => (name, text body)) =
      t.map fun (name, body) => (.text name, text body) := by
  induction t with
  | nil => rfl
  | cons e t ih => rw [List.map_cons, written_cons, List.map_cons, ih, present_text]

theorem entriesBy_texts (t : Table String) :
    Value.entriesBy asText (t.map fun (name, body) => (.text name, text body)) = .ok t := by
  induction t with
  | nil => rfl
  | cons e t ih =>
    rw [List.map_cons, Value.entriesBy, ih]
    rfl

/-- Partials of different names are bound from what is written for them. -/
theorem readsBack_partialsValue {partials : Table String} (h : partials.names.Nodup) :
    ReadsBack (asTable asText) (partialsValue partials) partials := by
  refine ⟨_, present_ofFields _, ?_⟩
  rw [written_texts, asTable, entriesBy_texts]
  exact congrArg Except.ok (Table.ofEntries_eq_self h)

namespace RuleDocument

theorem names_partials_of_boundFrom {entries : List (Scalar × Value)} {d : RuleDocument}
    (h : d.BoundFrom entries) : d.partials.names.Nodup := by
  rcases FieldKey.optional_eq_ok.mp h.partials with ⟨-, hempty⟩ | ⟨given, v, -, hbind⟩
  · simp [hempty, Table.names]
  · cases v with
    | map names =>
      obtain ⟨bound, -, hbound⟩ := map_eq_ok.mp hbind
      exact hbound ▸ Table.nodup_names_ofEntries bound
    | _ => simp [asTable] at hbind

/-- **A document is bound from its own value**, if its partials have different names. -/
theorem ofValue_dump {d : RuleDocument} (h : d.partials.names.Nodup) : ofValue d.dump = .ok d := by
  refine ofValue_map.mpr ⟨?_, ?_, ?_, ?_, ?_, ?_, ?_, unused_eq_nil (keysAmong_written _)⟩
  · exact (readsBackOr_orNull d.metadata fun m _ => m.readsBack_toValue).optional (by simp)
  · exact conditionsField_written d.conditions (by simp)
  · exact ReadsBackOr.optional (.inr (readsBack_list fun c _ => Insertion.readsBack_chain c)) (by simp)
  · exact ReadsBackOr.optional (.inr (readsBack_list fun c _ => Replacement.readsBack_chain c)) (by simp)
  · exact ReadsBackOr.optional (.inr (readsBack_list fun r _ => r.readsBack_toValue)) (by simp)
  · exact ReadsBackOr.optional (.inr (readsBack_list fun i _ => i.readsBack_toValue)) (by simp)
  · exact ReadsBackOr.optional (.inr (readsBack_partialsValue h)) (by simp [partialsValue])

end RuleDocument

end TemplateRules
